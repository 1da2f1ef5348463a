import ServiceFlow.Export
import ServiceFlow.Workflow.Validation

/-!
# Sessions

A session is someone at work: a catalogue, the graph on the canvas, and the document that was last
compiled or read. Each command gives an answer and changes the session; a command that fails leaves
it as it was.
-/

namespace ServiceFlow

/-- What a session holds. -/
structure Session where
  catalog : Catalog := .default
  graph : Graph := {}
  /-- The document that was last compiled or read. -/
  document : Option Workflow := none
  deriving DecidableEq, Repr

namespace Session

/-- What can be done in a session. -/
inductive Command where
  | loadCatalog (text : String) (stack : Bool)
  | loadGraph (text : String)
  | addNode (node : Node) (position : Option Int)
  | addEdge (edge : Edge) (position : Option Int)
  | setNode (index : Int) (node : Node)
  | setEdge (index : Int) (edge : Edge)
  | removeNode (index : Int)
  | removeEdge (index : Int)
  | connect (id source target : String) (handle : Option String)
  | classify
  | showGraph
  | query (id : String)
  | check
  | exportGraph
  | compile
  | parseDocument (payload : Value)
  | reload
  | markEntry (id : String)
  | setStart (id : String)
  | dropStep (index : Int)
  | validate
  | validateWritten
  | toJson (indent : Option Nat)

/-- The node of an id by its position in the graph, and the ids of the edges at it. -/
structure Neighbourhood where
  position : Option Nat
  outgoing : List String
  incoming : List String
  deriving DecidableEq, Repr

/-- What a command answers. -/
inductive Answer where
  | catalog (c : Catalog)
  | graph (g : Graph)
  | ids (nodes edges : List String)
  | edge (e : Edge)
  | neighbourhood (n : Neighbourhood)
  | messages (ms : List String)
  | workflow (w : Workflow)
  | document (w : Workflow)
  | text (s : String)

/-- Why a command fails. -/
inductive Failure where
  | fault (f : Fault)
  | noSuchIndex
  | noDocument

/-- The neighbourhood of an id. -/
def neighbourhood (g : Graph) (id : String) : Neighbourhood where
  position := g.nodes.findIdx? (·.id == id)
  outgoing := (g.outgoing id).map (·.id)
  incoming := (g.incoming id).map (·.id)

/-- Puts an item at a position, at the end if there are fewer items or no position is given. A
position below zero is counted from the end. -/
def place {α : Type} (items : List α) (position : Option Int) (a : α) : List α :=
  let position := position.getD items.length
  let fromStart := if position < 0 then position + items.length else position
  items.insertIdx (min fromStart.toNat items.length) a

/-- The index as a position in a list of some length. -/
def position? (length : Nat) (index : Int) : Except Failure Nat :=
  if 0 ≤ index ∧ index < length then .ok index.toNat else .error .noSuchIndex

/-- Replaces the item at an index. -/
def replace {α : Type} (items : List α) (index : Int) (a : α) : Except Failure (List α) :=
  return items.set (← position? items.length index) a

/-- Removes the item at an index. -/
def remove {α : Type} (items : List α) (index : Int) : Except Failure (List α) :=
  return items.eraseIdx (← position? items.length index)

/-- The session with another graph, and the ids in that. -/
def edited (s : Session) (g : Graph) : Session × Answer :=
  ({ s with graph := g }, .ids (g.nodes.map (·.id)) (g.edges.map (·.id)))

/-- The session with another document. -/
def withDocument (s : Session) (w : Workflow) : Session := { s with document := some w }

/-- The document of a session. -/
def currentDocument (s : Session) : Except Failure Workflow :=
  match s.document with
  | some w => .ok w
  | none => .error .noDocument

/-- The messages on the document of a session; no document is one of the wrong form. -/
def messages (s : Session) : Except Fault (List String) :=
  match s.document with
  | some w => w.validate
  | none => ServiceFlow.validate none .null

/-- Carries out a command. -/
def step (s : Session) : Command → Except Failure (Session × Answer)
  | .loadCatalog text stack => do
    let base := if stack then s.catalog else .default
    let c ← (base.read text).mapError .fault
    return ({ s with catalog := c }, .catalog c)
  | .loadGraph text => do
    let g ← (s.catalog.readGraph text).mapError .fault
    return ({ s with graph := g }, .graph g)
  | .addNode node position =>
    return s.edited { s.graph with nodes := place s.graph.nodes position node }
  | .addEdge edge position =>
    return s.edited { s.graph with edges := place s.graph.edges position edge }
  | .setNode index node => do
    return s.edited { s.graph with nodes := ← replace s.graph.nodes index node }
  | .setEdge index edge => do
    return s.edited { s.graph with edges := ← replace s.graph.edges index edge }
  | .removeNode index => do
    return s.edited { s.graph with nodes := ← remove s.graph.nodes index }
  | .removeEdge index => do
    return s.edited { s.graph with edges := ← remove s.graph.edges index }
  | .connect id source target handle =>
    let e := Edge.connect s.graph id source target handle
    return ({ s with graph := { s.graph with edges := s.graph.edges ++ [e] } }, .edge e)
  | .classify =>
    let g := s.catalog.classifyGraph s.graph
    return ({ s with graph := g }, .graph g)
  | .showGraph => return (s, .graph s.graph)
  | .query id => return (s, .neighbourhood (neighbourhood s.graph id))
  | .check => return (s, .messages ((s.catalog.findings s.graph).map (·.message)))
  | .exportGraph => do
    let w ← (s.catalog.exportGraph s.graph).mapError .fault
    return (s, .workflow w)
  | .compile => do
    let w ← (s.catalog.compile s.graph).mapError .fault
    return (s.withDocument w, .document w)
  | .parseDocument payload => do
    let w ← (Workflow.read payload).mapError .fault
    return (s.withDocument w, .document w)
  | .reload => do
    let w ← (Workflow.read (← s.currentDocument).toValue).mapError .fault
    return (s.withDocument w, .document w)
  | .markEntry id => do
    let w ← s.currentDocument
    return (s.withDocument { w with entryStep := some id }, .text id)
  | .setStart id => do
    let w ← s.currentDocument
    return (s.withDocument { w with startStep := id }, .text id)
  | .dropStep index => do
    let w ← s.currentDocument
    let w := { w with steps := ← remove w.steps index }
    return (s.withDocument w, .document w)
  | .validate => do
    let messages ← s.messages.mapError .fault
    return (s, .messages messages)
  | .validateWritten => do
    let w ← s.currentDocument
    let messages ← (ServiceFlow.validate none w.toValue).mapError .fault
    return (s, .messages messages)
  | .toJson indent => do
    let w ← s.currentDocument
    return (s, .text (Json.write indent w.toValue))

/-- Carries out commands one after the other, and gives all their answers. -/
def run (s : Session) : List Command → List (Except Failure Answer)
  | [] => []
  | c :: rest => match s.step c with
    | .ok (after, answer) => .ok answer :: run after rest
    | .error failure => .error failure :: run s rest

end Session

end ServiceFlow
