import ServiceFlow.Catalog.Reader
import ServiceFlow.FileTree
import ServiceFlow.Graph.Findings
import ServiceFlow.Json.Fault
import ServiceFlow.Schema
import ServiceFlow.Workflow.Findings
import ServiceFlow.Yaml.Fault

/-!
# Faults

Everything that can keep an operation from giving its result: a text that is not read, a payload
that does not fit its schema, a graph that has no workflow or may not be exported, a document whose
problems cannot be put in words, a file that cannot be reached.
-/

namespace ServiceFlow

/-- Why an operation has no result. -/
inductive Fault where
  | yaml (fault : Yaml.Fault)
  | json (fault : Json.Fault)
  | catalog (fault : CatalogFault)
  | notAGraph
  | missingField (name : String)
  | canvas (issues : List Schema.Issue)
  | document (issues : List Schema.Issue)
  | notAnObject (v : Value)
  | noEntry
  | blocked (onGraph : List GraphFinding) (onDocument : List Finding)
  /-- A problem of a document names a whole number of too many digits. -/
  | illegible
  | file (fault : FileFault)
  | encoding (fault : Text.Utf8Fault)

/-- The name of the type of a value. -/
def Value.typeName (v : Value) : String :=
  match v with
  | .scalar .null => "NoneType"
  | .scalar (.bool _) => "bool"
  | .scalar (.int _) => "int"
  | .scalar (.float _) => "float"
  | .scalar (.text _) => "str"
  | .scalar (.bytes _) => "bytes"
  | .scalar (.date _) => "datetime.date"
  | .scalar (.dateTime _) => "datetime.datetime"
  | .list _ | .foldedList => "list"
  | .map _ | .foldedMap => "dict"
  | .pair _ _ | .foldedPair => "tuple"
  | .set _ => "set"

/-- How many issues there are with a schema, in words. -/
def issueCount (issues : List Schema.Issue) (schema : String) : String :=
  let noun := if issues.length = 1 then "error" else "errors"
  s!"{issues.length} validation {noun} for {schema}"

namespace Fault

/-- The messages of the findings that block an export, those on the graph first. -/
def findings : Fault → List String
  | blocked onGraph onDocument => onGraph.map (·.message) ++ onDocument.map (·.message)
  | _ => []

/-- The issues with a schema. -/
def issues : Fault → List Schema.Issue
  | canvas issues => issues
  | document issues => issues
  | _ => []

/-- The fault in words. A text that is no YAML has none. -/
def message : Fault → String
  | yaml .malformed => ""
  | yaml (.conversion fault) => fault.message
  | json fault => fault.message
  | catalog fault => fault.message
  | notAGraph => "Graph document must be a mapping with 'nodes' and 'edges'"
  | missingField name => s!"Missing required top-level field: {name}"
  | canvas issues => "Graph validation error: " ++ issueCount issues "GraphSpec"
  | document issues =>
    "Workflow document validation error: " ++ issueCount issues "WorkflowDocument"
  | notAnObject v => s!"'{v.typeName}' object has no attribute 'id'"
  | noEntry => "No start node found in the workflow"
  | blocked onGraph onDocument =>
    "Workflow validation failed: "
      ++ String.intercalate "; " (findings (blocked onGraph onDocument))
  | illegible => illegibleMessage
  | file fault => fault.message
  | encoding fault => fault.message

end Fault

end ServiceFlow
