import ServiceFlow.Export

/-!
# The command line

The program exports a graph file to a workflow file. It takes the two paths as arguments, has a name
for each that is left out, and passes over further arguments. Findings are listed on standard
output; any other fault goes to standard error.
-/

namespace ServiceFlow.CommandLine

/-- The two paths as they were given. -/
structure Arguments where
  input : String := "workflow.json"
  output : String := "workflow_camunda.json"
  deriving DecidableEq, Repr

/-- The arguments of a command line. -/
def Arguments.ofList : List String → Arguments
  | [] => {}
  | [input] => { input }
  | input :: output :: _ => { input, output }

/-- What a run leaves: its exit code, its two outputs, the tree, and the fault that it did not
expect. -/
structure Outcome where
  exit : Nat
  stdout : String
  stderr : String
  tree : FileTree
  fault : Option Fault

/-- The outputs of a successful run. -/
def success (a : Arguments) (record : LogRecord) : String × String :=
  (s!"Wrote Camunda workflow JSON to: {a.output}\n", record.render ++ "\n")

/-- The list of findings that a blocked run prints. -/
def findingLines (messages : List String) : String :=
  String.join (messages.map fun m => s!"- {m}\n")

/-- A run over a file tree. -/
def run (tree : FileTree) (args : List String) : Outcome :=
  let a := Arguments.ofList args
  match Catalog.default.exportFile tree (Path.ofString a.input) (Path.ofString a.output) with
  | .ok e =>
    let (stdout, stderr) := success a e.record
    ⟨0, stdout, stderr, e.tree, none⟩
  | .error fault => match fault with
    | .blocked .. => ⟨1, findingLines fault.findings, "", tree, none⟩
    | _ => ⟨1, "", "", tree, some fault⟩

end ServiceFlow.CommandLine
