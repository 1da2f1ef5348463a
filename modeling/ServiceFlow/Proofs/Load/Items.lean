import ServiceFlow.Proofs.Canvas.Payload
import ServiceFlow.Proofs.Graph.Classified
import ServiceFlow.Proofs.Outcome

/-!
# Compiling nodes and edges in two representations

Nodes and edges are compiled as they are or as payloads, and there are two ways to a graph: without
payloads the things themselves are classified, otherwise everything is written as a payload, read by
the schema and converted. Both ways give a graph all of whose kinds are set, so compiling it asks no
catalogue any more. It follows that the choice of the representation shows in the kinds alone, and
that payloads compile to what loading them first and compiling then gives.
-/

namespace ServiceFlow

namespace Item

variable {α : Type}

/-- A thing as it is or, when that is asked for, as its payload. -/
def handOver (toPayload : α → Value) : α × Bool → Item α
  | (a, false) => .model a
  | (a, true) => .raw (toPayload a)

/-- Things that are handed over are models when none of them is a payload. -/
theorem models?_handOver (toPayload : α → Value) (ps : List (α × Bool)) :
    models? (ps.map (handOver toPayload)) =
      if ps.any (·.2) then none else some (ps.map (·.1)) := by
  have hmodel (a : α) (rest : List (Item α)) :
      models? (.model a :: rest) = (models? rest).map (a :: ·) := by
    rw [models?, List.mapM_cons, ← models?]
    cases models? rest <;> rfl
  induction ps with
  | nil => rfl
  | cons p rest ih =>
      obtain ⟨a, asPayload⟩ := p
      cases asPayload with
      | true => rfl
      | false =>
          rw [List.map_cons, handOver, hmodel, ih, List.any_cons, Bool.false_or]
          split <;> rfl

/-- Whichever of the two an item is, its payload is that of the thing. -/
theorem mapM_payload_handOver {toPayload : α → Value}
    (h : ∀ a, ∃ fields, toPayload a = .map fields) (ps : List (α × Bool)) :
    (ps.map (handOver toPayload)).mapM (payload toPayload) = .ok (ps.map (toPayload ·.1)) := by
  have hpayload (p : α × Bool) :
      (handOver toPayload p).payload toPayload = .ok (toPayload p.1) := by
    obtain ⟨a, asPayload⟩ := p
    obtain ⟨fields, hfields⟩ := h a
    cases asPayload with
    | false => rfl
    | true => simp only [handOver, payload, hfields]
  rw [List.mapM_map, Function.comp_def]
  simp only [hpayload]
  exact List.mapM_pure

/-- Mappings are payloads as they stand. -/
theorem mapM_payload_raw (toPayload : α → Value) (records : List Schema.Fields) :
    (records.map fun fields => raw (.map fields)).mapM (payload toPayload) =
      .ok (records.map .map) := by
  rw [List.mapM_map]
  exact List.mapM_pure

end Item

namespace Catalog

/-- As soon as one item is a payload all of them are read as payloads. -/
theorem graphOfItems_of_payload (c : Catalog) {nodes : List (Item Node)} {edges : List (Item Edge)}
    {ns es : List Value} (h : models? nodes = none ∨ models? edges = none)
    (hn : nodes.mapM (Item.payload Node.toPayload) = .ok ns)
    (he : edges.mapM (Item.payload Edge.toPayload) = .ok es) :
    c.graphOfItems nodes edges =
      (Canvas.read (.record [("nodes", .list ns), ("edges", .list es)])).map
        (Canvas.toGraph c) := by
  have hread : c.graphOfItems nodes edges = (do
      let canvas ← Canvas.read (.record [("nodes", .list ns), ("edges", .list es)])
      return canvas.toGraph c) := by
    unfold graphOfItems
    split
    · next hnodes hedges =>
        obtain h | h := h
        · exact absurd (hnodes.symm.trans h) (Option.some_ne_none _)
        · exact absurd (hedges.symm.trans h) (Option.some_ne_none _)
    · rw [hn, he]
      rfl
  rw [hread]
  cases Canvas.read (.record [("nodes", .list ns), ("edges", .list es)]) <;> rfl

/-- A canvas gives every node a kind. -/
theorem toGraph_classified (c : Catalog) (canvas : Canvas) : (canvas.toGraph c).Classified := by
  intro n hn
  obtain ⟨m, -, rfl⟩ := List.mem_map.mp hn
  exact Option.some_ne_none _

/-- The graph of items has all its kinds set. -/
theorem graphOfItems_classified {c : Catalog} {nodes : List (Item Node)} {edges : List (Item Edge)}
    {g : Graph} (h : c.graphOfItems nodes edges = .ok g) : g.Classified := by
  unfold graphOfItems at h
  split at h
  · cases h
    exact c.classifyGraph_classified _
  · obtain ⟨ns, -, h⟩ := bind_eq_ok_iff.mp h
    obtain ⟨es, -, h⟩ := bind_eq_ok_iff.mp h
    obtain ⟨canvas, -, h⟩ := bind_eq_ok_iff.mp h
    cases h
    exact c.toGraph_classified canvas

/-- A graph that was classified compiles alike under any catalogue. -/
theorem compile_classifyGraph (c d : Catalog) (g : Graph) :
    d.compile (c.classifyGraph g) = c.compile g := by
  have hd : d.classifyGraph (c.classifyGraph g) = c.classifyGraph g :=
    d.classifyGraph_of_classified (c.classifyGraph_classified g)
  rw [compile, compile, compile?, compile?, hd]

/-- Compiling items asks no catalogue for more than their graph. -/
theorem compileItems_eq_bind (c d : Catalog) (nodes : List (Item Node)) (edges : List (Item Edge)) :
    c.compileItems nodes edges = (c.graphOfItems nodes edges).bind d.compile := by
  unfold compileItems
  cases h : c.graphOfItems nodes edges with
  | error fault => rfl
  | ok g =>
      have hg : d.classifyGraph g = g := d.classifyGraph_of_classified (graphOfItems_classified h)
      simp only [bind, Except.bind, compile, compile?, hg]
      cases g.workflow? <;> rfl

end Catalog

/-- A graph whose nodes and edges are handed over, each as it is or as its payload. -/
structure Handover where
  /-- The nodes, and which of them are payloads. -/
  nodes : List (Node × Bool)
  /-- The edges, and which of them are payloads. -/
  edges : List (Edge × Bool)

namespace Handover

/-- The graph that is handed over. -/
def graph (o : Handover) : Graph := ⟨o.nodes.map (·.1), o.edges.map (·.1)⟩

/-- Whether any node or edge is a payload. -/
def hasPayload (o : Handover) : Bool := o.nodes.any (·.2) || o.edges.any (·.2)

/-- The nodes as they are handed over. -/
def nodeItems (o : Handover) : List (Item Node) := o.nodes.map (Item.handOver Node.toPayload)

/-- The edges as they are handed over. -/
def edgeItems (o : Handover) : List (Item Edge) := o.edges.map (Item.handOver Edge.toPayload)

/-- The graph that is compiled: kinds that were set count only when nothing is a payload. -/
def seen (o : Handover) : Graph := if o.hasPayload then o.graph.eraseKinds else o.graph

/-- What is handed over passes the schema and gives the classified graph. -/
theorem graphOfItems_eq (o : Handover) (c : Catalog) :
    c.graphOfItems o.nodeItems o.edgeItems = .ok (c.classifyGraph o.seen) := by
  have hnodes := Item.models?_handOver Node.toPayload o.nodes
  have hedges := Item.models?_handOver Edge.toPayload o.edges
  cases h : o.hasPayload with
  | false =>
      obtain ⟨hn, he⟩ := Bool.or_eq_false_iff.mp h
      rw [hn] at hnodes
      rw [he] at hedges
      simp only [Catalog.graphOfItems, nodeItems, edgeItems, hnodes, hedges, seen, h]
      rfl
  | true =>
      have hsome : models? o.nodeItems = none ∨ models? o.edgeItems = none := by
        obtain hn | he := Bool.or_eq_true_iff.mp h
        · exact .inl (hnodes.trans (if_pos hn))
        · exact .inr (hedges.trans (if_pos he))
      rw [c.graphOfItems_of_payload hsome (Item.mapM_payload_handOver (fun _ => ⟨_, rfl⟩) o.nodes)
        (Item.mapM_payload_handOver (fun _ => ⟨_, rfl⟩) o.edges), seen, h, if_pos rfl,
        ← Graph.read_toPayload, Graph.toPayload, graph, List.map_map, List.map_map]
      rfl

/-- Nodes and edges that are handed over pass the schema, whatever stands in them and whichever of
them are payloads. They compile to what their graph compiles to, except that kinds which were set do
not count as soon as one of them is a payload. When none was set, the choice makes no difference,
and handing over the whole graph and loading it gives the graph as the catalogue classifies it. -/
theorem compileItems_handover (o : Handover) (c : Catalog) :
    c.graphOfItems o.nodeItems o.edgeItems = .ok (c.classifyGraph o.seen) ∧
      c.compileItems o.nodeItems o.edgeItems = c.compile o.seen ∧
      ((∀ n ∈ o.graph.nodes, n.kind = none) →
        c.compileItems o.nodeItems o.edgeItems = c.compile o.graph ∧
        (Canvas.read o.graph.toPayload).map (Canvas.toGraph c) =
          .ok (c.classifyGraph o.graph)) := by
  have hcompile : c.compileItems o.nodeItems o.edgeItems = c.compile o.seen := by
    rw [c.compileItems_eq_bind c, o.graphOfItems_eq c]
    exact c.compile_classifyGraph c o.seen
  refine ⟨o.graphOfItems_eq c, hcompile, ?_⟩
  intro hkinds
  have herase : o.graph.eraseKinds = o.graph := Graph.eraseKinds_eq_self hkinds
  have hseen : o.seen = o.graph := by rw [seen, herase, ite_self]
  rw [hcompile, hseen, Graph.read_toPayload, herase]
  exact ⟨rfl, rfl⟩

/-- An entry node with the kind of a service and a service node without a kind, the first of them
and the edge between them as payloads. -/
def mixed : Handover where
  nodes := [({ id := "e", type := "StartNode", kind := some .service }, true),
    ({ id := "s", type := "IDV", mode := some .custom, clauses := [⟨"idv", "a", "", ">"⟩] }, false)]
  edges := [({ id := "1", source := "e", target := "s", sourceHandle := some "" }, true)]

/-- The same nodes with no kind set. -/
def unclassified : Handover where
  nodes := mixed.nodes.map fun p => ({ p.1 with kind := none }, !p.2)
  edges := mixed.edges

theorem compileItems_handover_mixed :
    Catalog.default.compileItems mixed.nodeItems mixed.edgeItems =
        .ok ⟨"e", [.service "s" "idv" none none], some "e"⟩ ∧
      Catalog.default.compile mixed.graph = .error .noEntry ∧
      (∀ n ∈ unclassified.graph.nodes, n.kind = none) ∧
      Catalog.default.compileItems unclassified.nodeItems unclassified.edgeItems =
        .ok ⟨"e", [.service "s" "idv" none none], some "e"⟩ ∧
      (Canvas.read unclassified.graph.toPayload).map (Canvas.toGraph .default) =
        .ok (Catalog.default.classifyGraph unclassified.graph) := by
  have hkinds : ∀ n ∈ unclassified.graph.nodes, n.kind = none := by decide
  obtain ⟨-, hmixed, -⟩ := mixed.compileItems_handover .default
  obtain ⟨-, -, hsame⟩ := unclassified.compileItems_handover .default
  obtain ⟨hcompile, hload⟩ := hsame hkinds
  exact ⟨hmixed.trans rfl, rfl, hkinds, hcompile.trans rfl, hload⟩

end Handover

namespace Catalog

/-- Records are read as the payload of a graph, also when there are none. -/
theorem graphOfItems_records (c : Catalog) (nodes edges : List Schema.Fields) :
    c.graphOfItems (nodes.map fun n => .raw (.map n)) (edges.map fun e => .raw (.map e)) =
      (Canvas.read (.record [("nodes", .list (nodes.map .map)),
        ("edges", .list (edges.map .map))])).map (Canvas.toGraph c) := by
  have hn := Item.mapM_payload_raw Node.toPayload nodes
  have he := Item.mapM_payload_raw Edge.toPayload edges
  cases nodes with
  | cons n rest => exact c.graphOfItems_of_payload (.inl rfl) hn he
  | nil =>
      cases edges with
      | cons e rest => exact c.graphOfItems_of_payload (.inr rfl) hn he
      | nil => rfl -- nothing is a payload, and either way leads to the empty graph

/-- The payload of a graph is read by its nodes and its edges. -/
theorem read_eq_read_record {fields : Schema.Fields} {nodes edges : Value}
    (hn : Value.lookup? "nodes" fields = some nodes)
    (he : Value.lookup? "edges" fields = some edges) :
    Canvas.read (.map fields) = Canvas.read (.record [("nodes", nodes), ("edges", edges)]) := by
  obtain ⟨record, hrecord, hnodes, hedges⟩ : ∃ record,
      Value.record [("nodes", nodes), ("edges", edges)] = .map record ∧
      Value.lookup? "nodes" record = some nodes ∧ Value.lookup? "edges" record = some edges :=
    ⟨_, rfl, by simp, by simp [Value.lookup?_cons]⟩
  rw [hrecord]
  simp only [Canvas.read, Canvas.check, Schema.record, Schema.required, hn, he, hnodes, hedges]

/-- Payloads that are compiled at once come to what loading them under the same catalogue and then
compiling comes to: the same document, the same issues with the schema, or no entry node. The
catalogue of the second step has no say, because loading has set all kinds. -/
theorem compileItems_records (c d : Catalog) {fields : Schema.Fields}
    {nodes edges : List Schema.Fields}
    (hn : Value.lookup? "nodes" fields = some (.list (nodes.map .map)))
    (he : Value.lookup? "edges" fields = some (.list (edges.map .map))) :
    c.compileItems (nodes.map fun n => .raw (.map n)) (edges.map fun e => .raw (.map e)) =
      (Canvas.read (.map fields)).bind fun canvas => d.compile (canvas.toGraph c) := by
  rw [c.compileItems_eq_bind d, graphOfItems_records, read_eq_read_record hn he]
  cases Canvas.read (.record [("nodes", .list (nodes.map .map)), ("edges", .list (edges.map .map))])
    <;> rfl

/-- The payloads of an entry node and a service node. -/
def nodeRecords : List Schema.Fields :=
  [[(.text "data", .record [("type", .text "StartNode")]), (.text "id", .text "e")],
    [(.text "id", .text "s"), (.text "data", .record [("type", .text "IDV"), ("x", .int 1)])]]

/-- The payload of a node whose data is missing. -/
def brokenRecords : List Schema.Fields := [[(.text "id", .text "e")]]

theorem compileItems_records_default :
    (Canvas.read (.record [("edges", .list []), ("nodes", .list (nodeRecords.map .map))])).bind
          (fun canvas => compile ⟨[], []⟩ (canvas.toGraph .default)) =
        .ok ⟨"e", [.service "s" "idv" none none], some "e"⟩ ∧
      (Canvas.read (.record [("edges", .list []), ("nodes", .list (brokenRecords.map .map))])).bind
          (fun canvas => compile ⟨[], []⟩ (canvas.toGraph .default)) =
        .error (.canvas [⟨[.field "nodes", .index 0, .field "data"], .missing⟩]) := by
  have hagree (records : List Schema.Fields) :
      Catalog.default.compileItems (records.map fun n => .raw (.map n))
          (([] : List Schema.Fields).map fun e => .raw (.map e)) =
        (Canvas.read (.record [("edges", .list []), ("nodes", .list (records.map .map))])).bind
          fun canvas => compile ⟨[], []⟩ (canvas.toGraph .default) :=
    compileItems_records .default ⟨[], []⟩ (by simp [Value.lookup?_cons]) (by simp)
  exact ⟨(hagree nodeRecords).symm.trans rfl, (hagree brokenRecords).symm.trans rfl⟩

end Catalog

end ServiceFlow
