import ServiceFlow.Json.Writer
import ServiceFlow.Schema
import ServiceFlow.Workflow

/-!
# Reading and writing workflow documents

A document is read from a value by its schema: the shape of each step is chosen by its type, and
fields that are not declared are passed over. A document that is read has no known entry node.
-/

namespace ServiceFlow

open Schema

/-- Reads a condition of a service step. -/
def Condition.check : Value → Checked Condition :=
  record "ConditionSpec" fun fields =>
    Condition.mk <$> required "condition" text fields <*> required "goToStep" text fields

namespace Step

/-- The types of steps. -/
def typeNames : List String := ["end", "service", "multi_services"]

/-- Reads the fields of a step of a type. -/
def checkFields (type : String) (fields : Fields) : Checked Step :=
  if type = "end" then Step.finish <$> required "id" text fields
  else if type = "service" then
    Step.service <$> required "id" text fields
      <*> required "service" text fields
      <*> defaulted "conditions" none (nullable (list Condition.check)) fields
      <*> defaulted "goToStep" none (nullable text) fields
  else
    Step.fanOut <$> required "id" text fields
      <*> defaulted "subSteps" [] (list text) fields
      <*> defaulted "goToStep" none (nullable text) fields

/-- Reads a step by its type, which becomes part of the place of every issue. -/
def checkTagged (tag : Value) (fields : Fields) : Checked Step :=
  let unknown := .fail (.unknownTag tag.display "type" typeNames)
  match tag with
  | .scalar (.text name) =>
    if typeNames.contains name then .within (.field name) (checkFields name fields) else unknown
  | _ => unknown

/-- Reads a step. -/
def check (v : Value) : Checked Step :=
  match v with
  | .map fields => match Value.lookup? "type" fields with
    | some tag => checkTagged tag fields
    | none => .fail (.noTag "type")
  | _ => .fail .notFields

end Step

namespace Workflow

/-- Reads a document. -/
def check : Value → Checked Workflow :=
  record "WorkflowDocument" fun fields =>
    (Workflow.mk · · none) <$> required "startStep" text fields
      <*> defaulted "steps" [] (list Step.check) fields

/-- The JSON text of a document. -/
def toJson (w : Workflow) (indent : Nat) : String := Json.write (some indent) w.toValue

end Workflow

end ServiceFlow
