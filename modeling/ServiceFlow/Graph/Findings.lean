import ServiceFlow.Catalog

/-!
# Findings on graphs

What an editor points out on the canvas: types that occur more often than they may, a start node
that is missing, repeated or reached, nodes that nothing leads to, and edges with an end that is no
node. Each finding is one value, with its wording in one place.
-/

namespace ServiceFlow

/-- A problem of a graph. -/
inductive GraphFinding where
  | repeatedType (type : String) (count : Nat)
  | startNodes (count : Nat)
  | reachedStart (id : String)
  | unreached (id : String)
  | unknownEnd (edge id : String)
  deriving DecidableEq, Repr

/-- The problem in words. -/
def GraphFinding.message : GraphFinding → String
  | repeatedType type count => s!"Expected exactly one {type} node, found {count}"
  | startNodes count => s!"Expected exactly one start node, found {count}"
  | reachedStart id => s!"Start node {id} must not have incoming connections"
  | unreached id => s!"Node {id} has no incoming connections"
  | unknownEnd edge id => s!"Connection {edge} references unknown node {id}"

namespace Graph

/-- The entry nodes of a classified graph. -/
def entries (g : Graph) : List Node := g.nodes.filter (·.kind == some .entry)

/-- The types among the given ones that occur more than once. -/
def repeatedTypes (g : Graph) (single : List String) : List GraphFinding :=
  single.filterMap fun type =>
    let count := g.nodes.countP (·.type == type)
    if 1 < count then some (.repeatedType type count) else none

/-- What is wrong with the number of entry nodes. -/
def entryCount (g : Graph) : List GraphFinding :=
  if g.entries.length = 1 then [] else [.startNodes g.entries.length]

/-- The entry nodes that some edge leads to. -/
def reachedEntries (g : Graph) : List GraphFinding :=
  (g.entries.filter fun n => !(g.incoming n.id).isEmpty).map (.reachedStart ·.id)

/-- Whether some edge has to lead to a node. -/
def needsIncoming (single : List String) (n : Node) : Bool :=
  n.kind != some .entry && n.kind != some .note && !single.contains n.type

/-- The nodes that some edge has to lead to and none does. -/
def unreachedNodes (g : Graph) (single : List String) : List GraphFinding :=
  (g.nodes.filter fun n => needsIncoming single n && (g.incoming n.id).isEmpty).map
    (.unreached ·.id)

/-- The ends of an edge that are no nodes, source first. -/
def unknownEnds (g : Graph) (e : Edge) : List GraphFinding :=
  ([e.source, e.target].filter fun id => !(g.nodes.map (·.id)).contains id).map
    (.unknownEnd e.id ·)

/-- The findings on a classified graph. -/
def findings (g : Graph) (single : List String) : List GraphFinding :=
  g.repeatedTypes single ++ g.entryCount ++ g.reachedEntries ++ g.unreachedNodes single
    ++ g.edges.flatMap g.unknownEnds

end Graph

/-- The findings on a graph under a catalogue. -/
def Catalog.findings (c : Catalog) (g : Graph) : List GraphFinding :=
  (c.classifyGraph g).findings c.singleInstance

end ServiceFlow
