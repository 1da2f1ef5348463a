import ServiceFlow.Fault

/-!
# Validation of documents

Checking a document puts its findings in words. A finding that names a whole number beyond the limit
on digits has none, and one such finding is enough for the whole check to fail; what has been found
before it is lost.
-/

namespace ServiceFlow

/-- The finding in words, unless it names a value that cannot be displayed. -/
def Finding.inWords (f : Finding) : Except Fault String :=
  if f.isLegible then .ok f.message else .error .illegible

/-- The messages on a written document; `entry` is an id that may be started at without a step. -/
def validate (entry : Option String) (document : Value) : Except Fault (List String) :=
  (documentFindings entry document).mapM Finding.inWords

/-- The messages on a document. Its own entry node may be started at. -/
def Workflow.validate (w : Workflow) : Except Fault (List String) :=
  ServiceFlow.validate w.entryStep w.toValue

end ServiceFlow
