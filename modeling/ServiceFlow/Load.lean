import ServiceFlow.Canvas.Reader
import ServiceFlow.Canvas.Writer
import ServiceFlow.Compile
import ServiceFlow.Fault
import ServiceFlow.Json.Reader
import ServiceFlow.Text.Blank
import ServiceFlow.Workflow.Reader
import ServiceFlow.Yaml.Reader

/-!
# Loading

Texts and payloads become catalogues, graphs and documents here, with one kind of fault for all that
can go wrong on the way. A graph text is JSON when its first character after blanks is a brace, and
YAML otherwise. Nodes and edges can be compiled as they are or as a canvas hands them over; as soon
as one of them is a payload all are read as payloads, which leaves no kind set.
-/

namespace ServiceFlow

/-- The catalogue that a document makes of a base. A document that stands for nothing changes
nothing. -/
def Catalog.ofDocument (base : Catalog) (d : Yaml.Document) : Except CatalogFault Catalog :=
  match d.root with
  | .collection n => match d.parts n with
    | .map entries =>
      base.override (fun item => (d.expand item).name) (entries.map fun (k, v) => (k, d.list? v))
    | parts => if parts.isEmpty then .ok base else .error .notAMapping
  | .scalar s => if s.isTruthy then .error .notAMapping else .ok base

/-- Reads a catalogue override from YAML. -/
def Catalog.read (base : Catalog) (text : String) : Except Fault Catalog := do
  let d ← (Yaml.read text).mapError .yaml
  (base.ofDocument d).mapError .catalog

/-- Reads overrides one on top of the other; the first fault ends it. -/
def Catalog.readStack (base : Catalog) (texts : List String) : Except Fault Catalog :=
  texts.foldlM Catalog.read base

/-- Reads overrides one after the other. With `stack` each goes on top of the last that was read,
and one that is refused leaves no trace; otherwise each goes on the same base. -/
def Catalog.readEach (stack : Bool) (base : Catalog) : List String → List (Except Fault Catalog)
  | [] => []
  | text :: rest => match base.read text with
    | .ok c => .ok c :: Catalog.readEach stack (if stack then c else base) rest
    | .error fault => .error fault :: Catalog.readEach stack base rest

/-- Reads a payload of a canvas. -/
def Canvas.read (v : Value) : Except Fault Canvas := (Canvas.check v).toExcept .canvas

/-- Reads a workflow document. -/
def Workflow.read (v : Value) : Except Fault Workflow := (Workflow.check v).toExcept .document

/-- Whether a graph text is JSON. -/
def isJsonText (text : String) : Bool := (Text.dropBlanks text.toList).head? == some '\x7b'

/-- The levels of a payload that reading it can reach: the payload, its nodes, a node, its data, the
clauses of that, a clause and a field of a clause. -/
def Canvas.depth : Nat := 7

/-- The value of a graph text, as far as it is read. -/
def readGraphText (text : String) : Except Fault Value :=
  if isJsonText text then (Json.read text).mapError .json
  else ((Yaml.read text).map (·.unfold Canvas.depth)).mapError .yaml

/-- The payload of a graph text, which has to be a mapping with nodes and edges. -/
def canvasOfValue (v : Value) : Except Fault Canvas :=
  match v with
  | .map fields =>
    if (Value.lookup? "nodes" fields).isNone then .error (.missingField "nodes")
    else if (Value.lookup? "edges" fields).isNone then .error (.missingField "edges")
    else Canvas.read v
  | _ => .error .notAGraph

/-- Reads a graph text under a catalogue. -/
def Catalog.readGraph (c : Catalog) (text : String) : Except Fault Graph := do
  let canvas ← canvasOfValue (← readGraphText text)
  return canvas.toGraph c

/-- Compiles a graph under a catalogue. -/
def Catalog.compile (c : Catalog) (g : Graph) : Except Fault Workflow :=
  match c.compile? g with
  | some w => .ok w
  | none => .error .noEntry

/-- A node or an edge, as it is or as a canvas hands it over. -/
inductive Item (α : Type) where
  | model (a : α)
  | raw (v : Value)

/-- The payload of an item. -/
def Item.payload {α : Type} (toPayload : α → Value) : Item α → Except Fault Value
  | model a => .ok (toPayload a)
  | raw v => match v with
    | .map _ => .ok v
    | _ => .error (.notAnObject v)

/-- The items as they are, if none of them is a payload. -/
def models? {α : Type} (items : List (Item α)) : Option (List α) :=
  items.mapM fun
    | .model a => some a
    | .raw _ => none

/-- The classified graph of some items. -/
def Catalog.graphOfItems (c : Catalog) (nodes : List (Item Node)) (edges : List (Item Edge)) :
    Except Fault Graph :=
  match models? nodes, models? edges with
  | some nodes, some edges => .ok (c.classifyGraph ⟨nodes, edges⟩)
  | _, _ => do
    let nodes ← nodes.mapM (Item.payload Node.toPayload)
    let edges ← edges.mapM (Item.payload Edge.toPayload)
    let canvas ← Canvas.read (.record [("nodes", .list nodes), ("edges", .list edges)])
    return canvas.toGraph c

/-- Compiles items under a catalogue. -/
def Catalog.compileItems (c : Catalog) (nodes : List (Item Node)) (edges : List (Item Edge)) :
    Except Fault Workflow := do
  let g ← c.graphOfItems nodes edges
  match g.workflow? with
  | some w => return w
  | none => throw .noEntry

end ServiceFlow
