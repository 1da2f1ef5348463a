import ServiceFlow.Workflow.Findings

/-!
# Log records

What compiling, checking and exporting have to tell beside their results. The records follow from
the results, so they are computed from them.
-/

namespace ServiceFlow

/-- How much a record matters. -/
inductive LogLevel where
  | debug
  | info
  deriving DecidableEq, Repr

/-- The name of a level. -/
def LogLevel.name : LogLevel → String
  | debug => "DEBUG"
  | info => "INFO"

/-- A record of some part of the program. -/
structure LogRecord where
  level : LogLevel
  logger : String
  message : String
  deriving DecidableEq, Repr

/-- A record on a line. -/
def LogRecord.render (r : LogRecord) : String := s!"{r.level.name} {r.logger}: {r.message}"

/-- The records of compiling to a workflow: one for each step that is not an end step. -/
def Workflow.compileLog (w : Workflow) : List LogRecord :=
  (w.steps.filter (!·.isFinish)).map fun s =>
    ⟨.debug, "idvflow.workflow.compiler", s!"compiled {s.typeName} step {s.id}"⟩

/-- The record of checking a document, if there are findings. A document of the wrong form leaves
none. -/
def findingsLog (findings : List Finding) : List LogRecord :=
  match findings with
  | [] | [.notADocument] | [.notARecord] => []
  | found => [⟨.debug, "idvflow.workflow.validator",
      s!"workflow document has {found.length} validation errors"⟩]

/-- The record of writing a workflow to a file. -/
def exportLog (path : String) : LogRecord :=
  ⟨.info, "idvflow.integrations.camunda.export", s!"Wrote Camunda workflow to {path}"⟩

end ServiceFlow
