import Mathlib.Data.List.Basic
import ServiceFlow.Graph.Connection
import ServiceFlow.Graph.Findings

/-!
# Drawing a graph anew

Of a node only its id, its type and its kind count, of an edge only its ends, its handle and what it
says about its condition; ids are names and nothing more, and the id of an edge stands in findings
only. A redrawing gives nodes and edges other names and changes whatever does not count. As long as
no two ids of nodes get the same name, looking up nodes and edges commutes with it, and the findings
on the graph drawn anew are the findings on the graph under the other names. No check on a graph
asks whether an id is empty, so nothing is asked of the new names besides.

There are two redrawings of interest. One renames the ids of nodes and keeps the rest; the other
keeps these ids and strips off all that does not count.
-/

namespace ServiceFlow

/-- A way to draw nodes and edges anew. -/
structure Redrawing where
  /-- The new ids of nodes. -/
  id : String → String
  /-- The new ids of edges. -/
  edgeId : String → String
  node : Node → Node
  edge : Edge → Edge
  node_id : ∀ n, (node n).id = id n.id
  node_type : ∀ n, (node n).type = n.type
  node_kind : ∀ n, (node n).kind = n.kind
  edge_id : ∀ e, (edge e).id = edgeId e.id
  edge_source : ∀ e, (edge e).source = id e.source
  edge_target : ∀ e, (edge e).target = id e.target
  edge_sourceHandle : ∀ e, (edge e).sourceHandle = e.sourceHandle
  edge_conditionType : ∀ e, (edge e).conditionType = e.conditionType
  edge_customLogic : ∀ e, (edge e).customLogic = e.customLogic
  edge_engineCondition : ∀ e, (edge e).engineCondition = e.engineCondition

/-- The graph drawn anew. -/
def Graph.redraw (d : Redrawing) (g : Graph) : Graph := ⟨g.nodes.map d.node, g.edges.map d.edge⟩

/-- The finding with the ids of nodes and edges in it changed. -/
def GraphFinding.redraw (d : Redrawing) : GraphFinding → GraphFinding
  | repeatedType type count => repeatedType type count
  | startNodes count => startNodes count
  | reachedStart id => reachedStart (d.id id)
  | unreached id => unreached (d.id id)
  | unknownEnd edge id => unknownEnd (d.edgeId edge) (d.id id)

section Names

variable {r : String → String} (hr : Function.Injective r)

include hr in
/-- An injective renaming keeps ids that differ apart. -/
theorem beq_rename (a b : String) : (r a == r b) = (a == b) := by
  rw [Bool.eq_iff_iff, beq_iff_eq, beq_iff_eq]
  exact hr.eq_iff

include hr in
/-- An injective renaming keeps which ids a list holds. -/
theorem contains_map_rename (ids : List String) (id : String) :
    (ids.map r).contains (r id) = ids.contains id := by
  rw [Bool.eq_iff_iff, List.contains_iff_mem, List.contains_iff_mem]
  exact List.mem_map_of_injective hr

include hr in
/-- An injective renaming keeps which ids of one list another does not hold. -/
theorem filter_unknown_rename (known ids : List String) :
    (ids.map r).filter (!(known.map r).contains ·) =
      (ids.filter (!known.contains ·)).map r := by
  have hunknown : (fun id => !(known.map r).contains id) ∘ r = fun id => !known.contains id :=
    funext fun id => congrArg not (contains_map_rename hr known id)
  rw [List.filter_map, hunknown]

end Names

namespace Redrawing

variable (d : Redrawing)

@[simp] theorem isCondition_node (n : Node) : (d.node n).isCondition = n.isCondition := by
  rw [Node.isCondition, d.node_kind, d.node_type, Node.isCondition]

@[simp] theorem serviceName_node (n : Node) : (d.node n).serviceName = n.serviceName := by
  rw [Node.serviceName, d.node_type, Node.serviceName]

@[simp] theorem isDefault_edge (e : Edge) : (d.edge e).isDefault = e.isDefault := by
  rw [Edge.isDefault, d.edge_conditionType, Edge.isDefault]

@[simp] theorem expression_edge (e : Edge) : (d.edge e).expression = e.expression := by
  simp only [Edge.expression, Edge.typedExpression, d.edge_engineCondition, d.edge_conditionType,
    d.edge_customLogic]

/-- Nodes of the same kinds are those of the same kinds drawn anew. -/
theorem filter_kind (p : Option NodeKind → Bool) (nodes : List Node) :
    (nodes.map d.node).filter (p ·.kind) = (nodes.filter (p ·.kind)).map d.node := by
  rw [List.filter_map]
  simp only [Function.comp_def, d.node_kind]

end Redrawing

namespace Graph

variable {d : Redrawing} (hd : Function.Injective d.id) (g : Graph)

/-- The ids of the nodes are the new ids. -/
theorem map_id_redraw : (g.redraw d).nodes.map (·.id) = (g.nodes.map (·.id)).map d.id := by
  simp only [redraw, List.map_map, Function.comp_def, d.node_id]

include hd in
/-- Under the new ids the same nodes are found. -/
theorem node?_redraw (id : String) :
    (g.redraw d).node? (d.id id) = (g.node? id).map d.node := by
  simp only [node?, redraw, List.find?_map, Function.comp_def, d.node_id, beq_rename hd]

include hd in
/-- Under the new ids the same edges leave a node. -/
theorem outgoing_redraw (id : String) :
    (g.redraw d).outgoing (d.id id) = (g.outgoing id).map d.edge := by
  simp only [outgoing, redraw, List.filter_map, Function.comp_def, d.edge_source, beq_rename hd]

include hd in
/-- Under the new ids the same edges reach a node. -/
theorem incoming_redraw (id : String) :
    (g.redraw d).incoming (d.id id) = (g.incoming id).map d.edge := by
  simp only [incoming, redraw, List.filter_map, Function.comp_def, d.edge_target, beq_rename hd]

/-- The entry nodes are those of the graph; nothing is asked of the new ids. -/
theorem entries_redraw : (g.redraw d).entries = g.entries.map d.node :=
  d.filter_kind (· == some .entry) g.nodes

theorem repeatedTypes_redraw (single : List String) :
    (g.redraw d).repeatedTypes single =
      (g.repeatedTypes single).map (GraphFinding.redraw d) := by
  have hcount (t : String) : (g.redraw d).nodes.countP (·.type == t) =
      g.nodes.countP (·.type == t) := by
    simp only [redraw, List.countP_map, Function.comp_def, d.node_type]
  rw [repeatedTypes, repeatedTypes, List.map_filterMap]
  refine List.filterMap_congr fun t _ => ?_
  rw [hcount]
  by_cases h : 1 < g.nodes.countP (·.type == t)
  · simp only [h, ite_true, Option.map_some, GraphFinding.redraw]
  · simp only [h, ite_false, Option.map_none]

theorem entryCount_redraw :
    (g.redraw d).entryCount = g.entryCount.map (GraphFinding.redraw d) := by
  rw [entryCount, entryCount, entries_redraw, List.length_map]
  split <;> rfl

include hd in
theorem reachedEntries_redraw :
    (g.redraw d).reachedEntries = g.reachedEntries.map (GraphFinding.redraw d) := by
  simp only [reachedEntries, entries_redraw, List.filter_map, List.map_map, Function.comp_def,
    d.node_id, incoming_redraw hd, List.isEmpty_map, GraphFinding.redraw]

include hd in
theorem unreachedNodes_redraw (single : List String) :
    (g.redraw d).unreachedNodes single =
      (g.unreachedNodes single).map (GraphFinding.redraw d) := by
  have hneeds (n : Node) : needsIncoming single (d.node n) = needsIncoming single n := by
    simp only [needsIncoming, d.node_kind, d.node_type]
  have hnodes : (g.redraw d).nodes = g.nodes.map d.node := rfl
  simp only [unreachedNodes, hnodes, List.filter_map, List.map_map, Function.comp_def, d.node_id,
    incoming_redraw hd, List.isEmpty_map, hneeds, GraphFinding.redraw]

include hd in
theorem unknownEnds_redraw (e : Edge) :
    (g.redraw d).unknownEnds (d.edge e) = (g.unknownEnds e).map (GraphFinding.redraw d) := by
  have hends : [(d.edge e).source, (d.edge e).target] = [e.source, e.target].map d.id := by
    rw [d.edge_source, d.edge_target]
    rfl
  rw [unknownEnds, unknownEnds, map_id_redraw, hends, filter_unknown_rename hd, List.map_map,
    List.map_map]
  simp only [Function.comp_def, d.edge_id, GraphFinding.redraw]

include hd in
/-- The findings on a graph drawn anew are the findings on the graph under the new names. -/
theorem findings_redraw (single : List String) :
    (g.redraw d).findings single = (g.findings single).map (GraphFinding.redraw d) := by
  have hends : (g.redraw d).edges.flatMap (g.redraw d).unknownEnds =
      (g.edges.flatMap g.unknownEnds).map (GraphFinding.redraw d) := by
    rw [List.map_flatMap]
    change (g.edges.map d.edge).flatMap _ = _
    rw [List.flatMap_map]
    exact List.flatMap_congr fun e _ => unknownEnds_redraw hd g e
  simp only [findings, List.map_append, repeatedTypes_redraw, entryCount_redraw,
    reachedEntries_redraw hd, unreachedNodes_redraw hd, hends]

end Graph

section Renaming

/-- The node under another id. -/
def Node.rename (r : String → String) (n : Node) : Node := { n with id := r n.id }

/-- The edge between the new ids. -/
def Edge.rename (r : String → String) (e : Edge) : Edge :=
  { e with source := r e.source, target := r e.target }

/-- The graph under new ids. -/
def Graph.rename (r : String → String) (g : Graph) : Graph :=
  ⟨g.nodes.map (Node.rename r), g.edges.map (Edge.rename r)⟩

/-- The finding with the ids in it renamed; the id of an edge is no id of a node. -/
def GraphFinding.rename (r : String → String) : GraphFinding → GraphFinding
  | repeatedType type count => repeatedType type count
  | startNodes count => startNodes count
  | reachedStart id => reachedStart (r id)
  | unreached id => unreached (r id)
  | unknownEnd edge id => unknownEnd edge (r id)

/-- The redrawing that renames the ids of nodes. -/
def Redrawing.renaming (r : String → String) : Redrawing where
  id := r
  edgeId := fun id => id
  node := Node.rename r
  edge := Edge.rename r
  node_id _ := rfl
  node_type _ := rfl
  node_kind _ := rfl
  edge_id _ := rfl
  edge_source _ := rfl
  edge_target _ := rfl
  edge_sourceHandle _ := rfl
  edge_conditionType _ := rfl
  edge_customLogic _ := rfl
  edge_engineCondition _ := rfl

variable {r : String → String}

theorem Graph.redraw_renaming (g : Graph) : g.redraw (.renaming r) = g.rename r := rfl

theorem GraphFinding.redraw_renaming : redraw (.renaming r) = rename r :=
  funext fun f => by cases f <;> rfl

/-- Classifying a node looks at its kind and its type, which renaming keeps. -/
theorem Catalog.classifyGraph_rename (c : Catalog) (r : String → String) (g : Graph) :
    c.classifyGraph (g.rename r) = (c.classifyGraph g).rename r := by
  simp only [classifyGraph, Graph.rename, List.map_map]
  rfl

/-- Under a catalogue the findings on a renamed graph are those on the graph, renamed. -/
theorem Catalog.findings_rename (hr : Function.Injective r) (c : Catalog) (g : Graph) :
    c.findings (g.rename r) = (c.findings g).map (GraphFinding.rename r) := by
  have hd : Function.Injective (Redrawing.renaming r).id := hr
  rw [findings, findings, classifyGraph_rename, ← Graph.redraw_renaming, Graph.findings_redraw hd,
    GraphFinding.redraw_renaming]

end Renaming

section Stripping

/-- The node with nothing but its id, its type and its kind. -/
def Node.strip (n : Node) : Node := { id := n.id, type := n.type, kind := n.kind }

/-- The edge without its own id and its label. -/
def Edge.strip (e : Edge) : Edge := { e with id := "", label := "" }

/-- The redrawing that keeps the ids of nodes and strips off what does not count. -/
def Redrawing.stripping : Redrawing where
  id := fun id => id
  edgeId := fun _ => ""
  node := Node.strip
  edge := Edge.strip
  node_id _ := rfl
  node_type _ := rfl
  node_kind _ := rfl
  edge_id _ := rfl
  edge_source _ := rfl
  edge_target _ := rfl
  edge_sourceHandle _ := rfl
  edge_conditionType _ := rfl
  edge_customLogic _ := rfl
  edge_engineCondition _ := rfl

theorem Redrawing.stripping_injective : Function.Injective stripping.id := Function.injective_id

/-- The graph with nothing but what counts. -/
def Graph.strip (g : Graph) : Graph := g.redraw .stripping

/-- The finding without the id of an edge. -/
def GraphFinding.strip (f : GraphFinding) : GraphFinding := f.redraw .stripping

/-- Classifying a node looks at its kind and its type, which are not stripped off. -/
theorem Catalog.classifyGraph_strip (c : Catalog) (g : Graph) :
    c.classifyGraph g.strip = (c.classifyGraph g).strip := by
  simp only [classifyGraph, Graph.strip, Graph.redraw, List.map_map]
  rfl

/-- Graphs that agree in what counts have the same findings, but for the ids of edges. -/
theorem Catalog.findings_strip_congr (c : Catalog) {g g' : Graph} (h : g.strip = g'.strip) :
    (c.findings g).map GraphFinding.strip = (c.findings g').map GraphFinding.strip := by
  have hstrip (k : Graph) : (c.findings k).map GraphFinding.strip = c.findings k.strip := by
    rw [findings, findings, classifyGraph_strip]
    exact (Graph.findings_redraw Redrawing.stripping_injective _ _).symm
  rw [hstrip, hstrip, h]

end Stripping

end ServiceFlow
