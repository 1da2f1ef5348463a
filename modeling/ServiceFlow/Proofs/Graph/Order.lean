import Mathlib.Data.List.Nodup
import Mathlib.Data.List.Perm.Basic
import ServiceFlow.Graph.Findings

/-!
# The order of nodes and edges

Nodes and edges are kept in drawing order. What is looked up by id does not depend on the order of
the nodes when their ids are distinct, and the edges that leave an id keep their order whatever is
drawn between them. The findings on a graph come in two parts, those on the nodes and those on the
edges: another order of the nodes rearranges the first part, another order of the edges the second.
-/

namespace ServiceFlow

/-- Whether a finding is on an edge. -/
def GraphFinding.isOnEdge : GraphFinding → Bool
  | unknownEnd _ _ => true
  | _ => false

/-- Two lists of findings on graphs that differ at most in the order of the findings on edges, which
stand last in both. -/
def EdgesRearranged (fs fs' : List GraphFinding) : Prop :=
  ∃ onNodes onEdges onEdges', fs = onNodes ++ onEdges ∧ fs' = onNodes ++ onEdges' ∧
    onEdges.Perm onEdges' ∧ ∀ f ∈ onEdges, f.isOnEdge = true

/-- Rearranged findings are the same findings. -/
theorem EdgesRearranged.perm {fs fs' : List GraphFinding} (h : EdgesRearranged fs fs') :
    fs.Perm fs' := by
  obtain ⟨onNodes, onEdges, onEdges', rfl, rfl, hperm, -⟩ := h
  exact hperm.append_left onNodes

namespace Graph

variable {g g' : Graph} {single : List String}

/-- When ids are distinct, a node is found by its id. -/
theorem node?_eq_some_iff (hd : (g.nodes.map (·.id)).Nodup) {id : String} {n : Node} :
    g.node? id = some n ↔ n ∈ g.nodes ∧ n.id = id := by
  constructor
  · exact node?_eq_some
  · rintro ⟨hn, rfl⟩
    cases h : g.node? n.id with
    | none => exact absurd rfl (node?_eq_none_iff.mp h n hn)
    | some m =>
        obtain ⟨hm, hid⟩ := node?_eq_some h
        rw [List.inj_on_of_nodup_map hd hm hn hid]

/-- When ids are distinct, looking up a node does not depend on the order of the nodes. -/
theorem node?_of_perm (hp : g.nodes.Perm g'.nodes) (hd : (g.nodes.map (·.id)).Nodup)
    (id : String) : g.node? id = g'.node? id := by
  have hd' : (g'.nodes.map (·.id)).Nodup := (hp.map _).nodup_iff.mp hd
  ext n
  rw [node?_eq_some_iff hd, node?_eq_some_iff hd', hp.mem_iff]

/-- Graphs with the same edges out of every id have the same edges. -/
theorem edges_perm_of_outgoing_eq (ho : ∀ id, g.outgoing id = g'.outgoing id) :
    g.edges.Perm g'.edges := by
  rw [List.perm_iff_count]
  intro e
  have hcount (h : Graph) : h.edges.count e = (h.outgoing e.source).count e := by
    rw [outgoing, List.count_filter (by simp)]
  rw [hcount g, hcount g', ho]

/-- Whether edges lead to an id does not depend on their order. -/
theorem isEmpty_incoming_of_perm (hp : g.edges.Perm g'.edges) (id : String) :
    (g.incoming id).isEmpty = (g'.incoming id).isEmpty :=
  (hp.filter _).isEmpty_eq

/-- The findings on the nodes of a graph. -/
def nodeFindings (g : Graph) (single : List String) : List GraphFinding :=
  g.repeatedTypes single ++ g.entryCount ++ g.reachedEntries ++ g.unreachedNodes single

/-- The findings on a graph are those on its nodes and then those on its edges. -/
theorem findings_eq : g.findings single =
    g.nodeFindings single ++ g.edges.flatMap g.unknownEnds := rfl

/-- The findings at an edge are findings on an edge. -/
theorem isOnEdge_of_mem_unknownEnds {e : Edge} {f : GraphFinding} (hf : f ∈ g.unknownEnds e) :
    f.isOnEdge = true := by
  obtain ⟨id, -, rfl⟩ := List.mem_map.mp hf
  rfl

/-- Another order of the edges rearranges the findings on edges and changes nothing else. -/
theorem findings_of_edges_perm (hn : g.nodes = g'.nodes) (hp : g.edges.Perm g'.edges) :
    EdgesRearranged (g.findings single) (g'.findings single) := by
  have hentries : g.entries = g'.entries := by rw [entries, entries, hn]
  have hnodes : g.nodeFindings single = g'.nodeFindings single := by
    simp only [nodeFindings, repeatedTypes, entryCount, reachedEntries, unreachedNodes, hentries,
      hn, isEmpty_incoming_of_perm hp]
  have hends : g.unknownEnds = g'.unknownEnds := by
    funext e
    simp only [unknownEnds, hn]
  refine ⟨g.nodeFindings single, g.edges.flatMap g.unknownEnds, g'.edges.flatMap g'.unknownEnds,
    findings_eq, ?_, ?_, ?_⟩
  · rw [hnodes, findings_eq]
  · rw [hends]
    exact hp.flatMap_right _
  · intro f hf
    obtain ⟨e, -, hfe⟩ := List.mem_flatMap.mp hf
    exact isOnEdge_of_mem_unknownEnds hfe

/-- Another order of the nodes keeps the entry nodes up to their order. -/
theorem entries_perm (hp : g.nodes.Perm g'.nodes) : g.entries.Perm g'.entries := hp.filter _

/-- Another order of the nodes rearranges the findings on a graph. -/
theorem findings_of_nodes_perm (hp : g.nodes.Perm g'.nodes) (he : g.edges = g'.edges) :
    (g.findings single).Perm (g'.findings single) := by
  have hincoming (id : String) : g.incoming id = g'.incoming id := by
    rw [incoming, incoming, he]
  have hrepeated : g.repeatedTypes single = g'.repeatedTypes single := by
    simp only [repeatedTypes, hp.countP_eq]
  have hcount : g.entryCount = g'.entryCount := by
    simp only [entryCount, (entries_perm hp).length_eq]
  have hreached : g.reachedEntries.Perm g'.reachedEntries := by
    simp only [reachedEntries, hincoming]
    exact ((entries_perm hp).filter _).map _
  have hunreached : (g.unreachedNodes single).Perm (g'.unreachedNodes single) := by
    simp only [unreachedNodes, hincoming]
    exact (hp.filter _).map _
  have hends : g.unknownEnds = g'.unknownEnds := by
    funext e
    simp only [unknownEnds, List.contains_eq_mem, (hp.map (·.id)).mem_iff]
  rw [findings_eq, findings_eq, nodeFindings, nodeFindings, hrepeated, hcount, hends, he]
  exact ((hreached.append_left _).append hunreached).append_right _

end Graph

end ServiceFlow
