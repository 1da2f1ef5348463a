import ServiceFlow.Value

/-!
# Workflow documents

A workflow document is what the process engine runs: a start step and a list of steps. A step ends a
run, calls one service, or calls several services side by side and goes on where they meet. The
entry node of the graph has no step of its own; a compiled document remembers its id, which is no
part of the document as it is written.
-/

namespace ServiceFlow

/-- Where a service step goes when a condition holds. -/
structure Condition where
  /-- The engine expression that has to hold. -/
  condition : String
  /-- The id of the step that then follows. -/
  goToStep : String
  deriving DecidableEq, Repr

/-- A step of a workflow. -/
inductive Step where
  /-- Ends a run. -/
  | finish (id : String)
  /-- Calls a service and follows the first condition that holds, else goes to `goToStep`. -/
  | service (id service : String) (conditions : Option (List Condition)) (goToStep : Option String)
  /-- Calls the services of several steps and goes on where they meet. -/
  | fanOut (id : String) (subSteps : List String) (goToStep : Option String)
  deriving DecidableEq, Repr

/-- A workflow document, with the entry node it was compiled from if that is known. -/
structure Workflow where
  /-- The id at which a run starts. -/
  startStep : String
  steps : List Step := []
  /-- The id of the entry node, which may be started at though it has no step. -/
  entryStep : Option String := none
  deriving DecidableEq, Repr

namespace Step

/-- The id of a step. -/
def id : Step → String
  | finish id => id
  | service id .. => id
  | fanOut id .. => id

/-- The name of a step's shape. -/
def typeName : Step → String
  | finish _ => "end"
  | service .. => "service"
  | fanOut .. => "multi_services"

/-- Whether a step ends a run. -/
def isFinish : Step → Bool
  | finish _ => true
  | _ => false

end Step

/-- A condition as it is written. -/
def Condition.toValue (c : Condition) : Value :=
  .record [("condition", .text c.condition), ("goToStep", .text c.goToStep)]

/-- A field that is written only when there is something in it. -/
def optionalField (name : String) (v : Option Value) : List (String × Value) :=
  (v.map (name, ·)).toList

/-- A step as it is written. -/
def Step.toValue : Step → Value
  | finish id => .record [("type", .text "end"), ("id", .text id)]
  | service id name conditions goToStep =>
    .record ([("type", .text "service"), ("id", .text id), ("service", .text name)]
      ++ optionalField "conditions" (conditions.map fun cs => .list (cs.map Condition.toValue))
      ++ optionalField "goToStep" (goToStep.map .text))
  | fanOut id subSteps goToStep =>
    .record ([("type", .text "multi_services"), ("id", .text id),
        ("subSteps", .list (subSteps.map .text))]
      ++ optionalField "goToStep" (goToStep.map .text))

/-- A document as it is written; the entry node is left out. -/
def Workflow.toValue (w : Workflow) : Value :=
  .record [("startStep", .text w.startStep), ("steps", .list (w.steps.map Step.toValue))]

/-- The document with the entry node forgotten. -/
def Workflow.forgetEntry (w : Workflow) : Workflow := { w with entryStep := none }

@[simp] theorem Workflow.toValue_forgetEntry (w : Workflow) :
    w.forgetEntry.toValue = w.toValue := rfl

end ServiceFlow
