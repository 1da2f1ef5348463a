import ServiceFlow.Value.Display
import ServiceFlow.Workflow

/-!
# Findings on documents

What keeps a document from being run: steps without an id, service steps without a service, steps
with conditions and nowhere to go when none holds, and references to steps that are not there. A
document is looked at in its written form, whatever values stand in it, so that one that never went
through the compiler is judged by the same rules. Messages name the faulty values as they are.
-/

namespace ServiceFlow

/-- A problem of a document. -/
inductive Finding where
  | notADocument
  | notARecord
  | missingIds (count : Nat)
  | missingServices (count : Nat)
  | missingFallbacks (count : Nat)
  | unknownStart (start : Value)
  | unknownGoTo (step target : Value)
  | unknownConditionTarget (step target : Value)
  | unknownSubStep (step target : Value)

/-- The values that a problem names. -/
def Finding.values : Finding → List Value
  | unknownStart start => [start]
  | unknownGoTo step target | unknownConditionTarget step target | unknownSubStep step target =>
    [step, target]
  | _ => []

/-- Whether all values that a problem names can be displayed. -/
def Finding.isLegible (f : Finding) : Bool := f.values.all Value.isLegible

/-- The problem in words, provided that the values that it names can be displayed. -/
def Finding.message : Finding → String
  | notADocument => "Invalid workflow document: expected a mapping with a list of steps"
  | notARecord => "Invalid workflow document: every step must be a mapping"
  | missingIds count => s!"Found {count} steps without IDs"
  | missingServices count => s!"Found {count} service steps without a service type"
  | missingFallbacks count => s!"Found {count} steps with conditions but no default goToStep"
  | unknownStart start => s!"Start step {start.display} does not exist in the workflow"
  | unknownGoTo step target =>
    s!"Step {step.display} references non-existent goToStep {target.display}"
  | unknownConditionTarget step target =>
    s!"Step {step.display} has a condition referencing non-existent goToStep {target.display}"
  | unknownSubStep step target =>
    s!"Multi-service step {step.display} references non-existent subStep {target.display}"

/-- The entries of a step as it is written. -/
abbrev RawStep := List (Scalar × Value)

namespace RawStep

/-- A field of a step, null when it is not there. -/
def field (s : RawStep) (name : String) : Value := (Value.lookup? name s).getD .null

/-- Whether a step has a type. -/
def hasType (s : RawStep) (type : String) : Bool :=
  match s.field "type" with
  | .scalar (.text t) => t == type
  | _ => false

/-- The id of a step, if it is a text. -/
def id? (s : RawStep) : Option String :=
  match s.field "id" with
  | .scalar (.text id) => some id
  | _ => none

/-- The items of a field that is a list. -/
def items (s : RawStep) (name : String) : List Value :=
  match s.field name with
  | .list items => items
  | _ => []

/-- Whether a step has conditions but nowhere to go when none holds. -/
def lacksFallback (s : RawStep) : Bool :=
  (s.field "conditions").isTruthy && !(s.field "goToStep").isTruthy

/-- Whether a step calls a service that it does not name. -/
def lacksService (s : RawStep) : Bool := s.hasType "service" && !(s.field "service").isTruthy

end RawStep

/-- Whether a value is a text among the given ids. -/
def refersTo (ids : List String) (v : Value) : Bool :=
  match v with
  | .scalar (.text id) => ids.contains id
  | _ => false

/-- The step that a condition leads to. -/
def conditionTarget (condition : Value) : Value :=
  match condition with
  | .map fields => (Value.lookup? "goToStep" fields).getD .null
  | _ => .null

namespace RawStep

/-- The references of a step to none of the ids: its own, those of its conditions, its sub-steps. -/
def danglingReferences (ids : List String) (s : RawStep) : List Finding :=
  let id := s.field "id"
  let next := s.field "goToStep"
  let goTo := if next.isTruthy && !refersTo ids next then [.unknownGoTo id next] else []
  let conditions := ((s.items "conditions").map conditionTarget).filter (!refersTo ids ·)
  let subSteps :=
    if s.hasType "multi_services" then (s.items "subSteps").filter (!refersTo ids ·) else []
  goTo ++ conditions.map (.unknownConditionTarget id ·) ++ subSteps.map (.unknownSubStep id ·)

end RawStep

/-- The finding that so many steps have a fault, unless none has. -/
def counted (finding : Nat → Finding) (count : Nat) : List Finding :=
  if count = 0 then [] else [finding count]

/-- The findings on the steps of a document with a start step; `entry` is an id that may be started
at though it has no step. -/
def stepFindings (entry : Option String) (start : Value) (steps : List RawStep) : List Finding :=
  let ids := steps.filterMap RawStep.id?
  let known := ids ++ (entry.filter (· != "")).toList
  counted .missingIds (steps.countP fun s => !(s.field "id").isTruthy)
    ++ counted .missingServices (steps.countP RawStep.lacksService)
    ++ counted .missingFallbacks (steps.countP RawStep.lacksFallback)
    ++ (if refersTo known start then [] else [.unknownStart start])
    ++ steps.flatMap (RawStep.danglingReferences ids)

/-- The entries of a record. -/
def Value.fields? : Value → Option (List (Scalar × Value))
  | .map entries => some entries
  | _ => none

/-- The steps of a written document, or what is wrong with its form. A document without steps has
an empty list of them. -/
def rawSteps (document : Value) : Except Finding (List RawStep) :=
  match document with
  | .map fields => match (Value.lookup? "steps" fields).getD (.list []) with
    | .list items => match items.mapM Value.fields? with
      | some steps => .ok steps
      | none => .error .notARecord
    | _ => .error .notADocument
  | _ => .error .notADocument

/-- The start step of a written document. -/
def rawStart (document : Value) : Value :=
  match document with
  | .map fields => (Value.lookup? "startStep" fields).getD .null
  | _ => .null

/-- The findings on a written document, not yet in words; `entry` is an id that may be started at
without a step. -/
def documentFindings (entry : Option String) (document : Value) : List Finding :=
  match rawSteps document with
  | .ok steps => stepFindings entry (rawStart document) steps
  | .error finding => [finding]

/-- The findings on a document. Its own entry node may be started at. -/
def Workflow.findings (w : Workflow) : List Finding := documentFindings w.entryStep w.toValue

end ServiceFlow
