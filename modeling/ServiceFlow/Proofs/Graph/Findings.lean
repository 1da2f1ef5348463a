import ServiceFlow.Graph.Findings
import ServiceFlow.Proofs.Graph.Classified

/-!
# Graphs without findings

Each check on a graph finds nothing exactly when one condition on its nodes and edges holds. All
checks together find nothing exactly when the graph is tidy. No check compares the ids of nodes with
each other, so a tidy graph can hold several nodes of one id.
-/

namespace ServiceFlow.Graph

/-- What holds of a classified graph without findings, given the types that occur at most once. -/
structure Tidy (g : Graph) (single : List String) : Prop where
  /-- The types that occur at most once do so. -/
  once : ∀ t ∈ single, g.nodes.countP (·.type == t) ≤ 1
  /-- There is one entry node. -/
  entry : ∃ n, g.entries = [n]
  /-- No edge leads to an entry node. -/
  unreached : ∀ n ∈ g.entries, ∀ e ∈ g.edges, e.target ≠ n.id
  /-- Some edge leads to every step node, unless its type occurs at most once. -/
  reached : ∀ n ∈ g.nodes, n.IsStep → n.type ∉ single → ∃ e ∈ g.edges, e.target = n.id
  /-- Both ends of an edge are nodes. -/
  ends : ∀ e ∈ g.edges, (∃ n ∈ g.nodes, n.id = e.source) ∧ ∃ n ∈ g.nodes, n.id = e.target

variable {g : Graph} {single : List String}

theorem repeatedTypes_eq_nil_iff :
    g.repeatedTypes single = [] ↔ ∀ t ∈ single, g.nodes.countP (·.type == t) ≤ 1 := by
  simp only [repeatedTypes, List.filterMap_eq_nil_iff]
  refine forall₂_congr fun t _ => ?_
  by_cases h : 1 < g.nodes.countP (·.type == t)
  · simp only [h, ite_true, reduceCtorEq, false_iff]
    omega
  · simp only [h, ite_false, true_iff]
    omega

theorem entryCount_eq_nil_iff : g.entryCount = [] ↔ ∃ n, g.entries = [n] := by
  rw [← List.length_eq_one_iff]
  simp [entryCount]

/-- The entry node of a graph with one entry. -/
theorem entryNode?_eq_of_entries {n : Node} (h : g.entries = [n]) : g.entryNode? = some n := by
  rw [entryNode?, ← List.head?_filter]
  exact congrArg List.head? h

/-- No edge leads to an id exactly when the list of edges to it is empty. -/
theorem incoming_eq_nil_iff {id : String} :
    g.incoming id = [] ↔ ∀ e ∈ g.edges, e.target ≠ id := by
  simp [incoming, List.filter_eq_nil_iff]

theorem reachedEntries_eq_nil_iff :
    g.reachedEntries = [] ↔ ∀ n ∈ g.entries, ∀ e ∈ g.edges, e.target ≠ n.id := by
  simp only [reachedEntries, List.map_eq_nil_iff, List.filter_eq_nil_iff, Bool.not_eq_true',
    Bool.not_eq_false, List.isEmpty_iff, incoming_eq_nil_iff]

/-- The nodes to which an edge has to lead are the step nodes of types that can repeat. -/
theorem needsIncoming_iff {n : Node} :
    needsIncoming single n = true ↔ n.IsStep ∧ n.type ∉ single := by
  simp [needsIncoming, Node.IsStep, and_assoc]

theorem unreachedNodes_eq_nil_iff : g.unreachedNodes single = [] ↔
    ∀ n ∈ g.nodes, n.IsStep → n.type ∉ single → ∃ e ∈ g.edges, e.target = n.id := by
  simp only [unreachedNodes, List.map_eq_nil_iff, List.filter_eq_nil_iff, Bool.and_eq_true,
    needsIncoming_iff, List.isEmpty_iff, incoming_eq_nil_iff]
  refine forall₂_congr fun n _ => ?_
  constructor
  · intro h hs ht
    simpa using fun hall => h ⟨⟨hs, ht⟩, hall⟩
  · rintro h ⟨⟨hs, ht⟩, hall⟩
    obtain ⟨e, he, hid⟩ := h hs ht
    exact hall e he hid

theorem unknownEnds_eq_nil_iff {e : Edge} : g.unknownEnds e = [] ↔
    (∃ n ∈ g.nodes, n.id = e.source) ∧ ∃ n ∈ g.nodes, n.id = e.target := by
  simp [unknownEnds, List.filter_eq_nil_iff]

/-- A classified graph has no findings exactly when it is tidy. -/
theorem findings_eq_nil_iff : g.findings single = [] ↔ g.Tidy single := by
  simp only [findings, List.append_eq_nil_iff, List.flatMap_eq_nil_iff, repeatedTypes_eq_nil_iff,
    entryCount_eq_nil_iff, reachedEntries_eq_nil_iff, unreachedNodes_eq_nil_iff,
    unknownEnds_eq_nil_iff]
  constructor
  · rintro ⟨⟨⟨⟨honce, hentry⟩, hunreached⟩, hreached⟩, hends⟩
    exact ⟨honce, hentry, hunreached, hreached, hends⟩
  · intro h
    exact ⟨⟨⟨⟨h.once, h.entry⟩, h.unreached⟩, h.reached⟩, h.ends⟩

end ServiceFlow.Graph
