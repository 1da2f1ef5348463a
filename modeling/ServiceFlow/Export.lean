import ServiceFlow.Load
import ServiceFlow.Log

/-!
# Exporting

A graph is exported only when neither it nor the workflow that it compiles to gives rise to any
finding; a graph without an entry node is refused before that. Exporting a file reads a graph text,
exports it and writes the workflow with an indentation of two.
-/

namespace ServiceFlow

/-- The workflow of a graph, if nothing speaks against exporting it. -/
def Catalog.exportGraph (c : Catalog) (g : Graph) : Except Fault Workflow := do
  let w ← c.compile g
  if (c.findings g).isEmpty && w.findings.isEmpty then return w
  else throw (.blocked (c.findings g) w.findings)

/-- The workflow of the bytes of a graph file. -/
def Catalog.exportBytes (c : Catalog) (bytes : List UInt8) : Except Fault Workflow := do
  let text ← (textOfFile bytes).mapError .encoding
  c.exportGraph (← c.readGraph text)

/-- The text that is written for a workflow. -/
def Workflow.fileText (w : Workflow) : String := w.toJson 2

/-- What exporting a file gives: the workflow, the tree after writing it, and the record of that. -/
structure Exported where
  workflow : Workflow
  tree : FileTree
  record : LogRecord

/-- Exports the graph file at a path to a workflow file at another. -/
def Catalog.exportFile (c : Catalog) (tree : FileTree) (input output : Path) :
    Except Fault Exported := do
  let bytes ← (tree.read input).mapError .file
  let w ← c.exportBytes bytes
  let after ← (tree.write output (Text.Utf8.encode w.fileText)).mapError .file
  return ⟨w, after, exportLog output.render⟩

/-- Reads a catalogue override from a file. -/
def Catalog.fromFile (base : Catalog) (tree : FileTree) (path : Path) : Except Fault Catalog := do
  let bytes ← (tree.read path).mapError .file
  let text ← (textOfFile bytes).mapError .encoding
  base.read text

end ServiceFlow
