import ServiceFlow.Compile

/-!
# Classified graphs

Once a graph is classified every node has a kind, and the kind decides what becomes of the node:
entries and notes have no step, terminals an end step, all others a step that is built in one of
three ways. The three ways are told apart here by the node and the edges that leave it, without
looking at a compiled document.
-/

namespace ServiceFlow

namespace Node

/-- A node that becomes a step, which entries and notes do not. -/
def IsStep (n : Node) : Prop := n.kind ≠ some .entry ∧ n.kind ≠ some .note

instance : DecidablePred IsStep := fun n =>
  inferInstanceAs (Decidable (n.kind ≠ some .entry ∧ n.kind ≠ some .note))

/-- A condition node is a branch node. -/
theorem kind_of_isCondition {n : Node} (h : n.isCondition = true) : n.kind = some .branch := by
  simp only [isCondition, Bool.and_eq_true, beq_iff_eq] at h
  exact h.1

/-- A node with a kind works unless it ends a run or has no step. -/
theorem isWorking_iff {n : Node} (h : n.kind ≠ none) :
    n.isWorking = true ↔ n.IsStep ∧ n.kind ≠ some .terminal := by
  cases hk : n.kind with
  | none => exact absurd hk h
  | some k => cases k <;> simp [isWorking, IsStep, hk]

/-- A condition node works. -/
theorem isWorking_of_isCondition {n : Node} (h : n.isCondition = true) : n.isWorking = true := by
  simp [isWorking, kind_of_isCondition h]

end Node

namespace Graph

/-- A node that calls services side by side: it neither ends a run nor routes on its handles, and at
least two of its edges lead to service nodes. -/
def FansOut (g : Graph) (n : Node) : Prop :=
  n.IsStep ∧ n.kind ≠ some .terminal ∧ n.isCondition = false ∧ 2 ≤ (g.fanOut n).length

/-- A node that calls one service: it neither ends a run nor routes on its handles, and fewer than
two of its edges lead to service nodes. -/
def IsPlain (g : Graph) (n : Node) : Prop :=
  n.IsStep ∧ n.kind ≠ some .terminal ∧ n.isCondition = false ∧ (g.fanOut n).length < 2

instance (g : Graph) (n : Node) : Decidable (g.FansOut n) :=
  inferInstanceAs (Decidable (_ ∧ _ ∧ _ ∧ _))

instance (g : Graph) (n : Node) : Decidable (g.IsPlain n) :=
  inferInstanceAs (Decidable (_ ∧ _ ∧ _ ∧ _))

/-- The nodes that become steps. -/
def stepNodes (g : Graph) : List Node := g.nodes.filter (·.IsStep)

/-- Whether an id is that of a node that becomes a step. -/
def HasStep (g : Graph) (id : String) : Prop := ∃ n ∈ g.nodes, n.IsStep ∧ n.id = id

/-- Whether every node has a kind. -/
def Classified (g : Graph) : Prop := ∀ n ∈ g.nodes, n.kind ≠ none

variable {g : Graph} {n : Node}

/-- A node does not call services both side by side and one alone. -/
theorem IsPlain.not_fansOut (h : g.IsPlain n) : ¬ g.FansOut n := by
  rintro ⟨_, _, _, hf⟩
  have hp := h.2.2.2
  omega

/-- A node that calls services is no condition node. -/
theorem FansOut.not_isCondition (h : g.FansOut n) : ¬ n.isCondition = true := by
  simp [h.2.2.1]

theorem IsPlain.not_isCondition (h : g.IsPlain n) : ¬ n.isCondition = true := by
  simp [h.2.2.1]

/-- A node of a classified graph is a terminal, works or has no step. -/
theorem Classified.isStep_iff (hg : g.Classified) (hn : n ∈ g.nodes) :
    n.IsStep ↔ n.kind = some .terminal ∨ n.isWorking = true := by
  rw [Node.isWorking_iff (hg n hn)]
  constructor
  · intro hs
    by_cases hk : n.kind = some .terminal
    · exact Or.inl hk
    · exact Or.inr ⟨hs, hk⟩
  · rintro (hk | hw)
    · simp [Node.IsStep, hk]
    · exact hw.1

/-- A working node of a classified graph has one of the three shapes. -/
theorem Classified.shape (hg : g.Classified) (hn : n ∈ g.nodes) (hw : n.isWorking = true) :
    n.isCondition = true ∨ g.FansOut n ∨ g.IsPlain n := by
  obtain ⟨hs, hk⟩ := (Node.isWorking_iff (hg n hn)).mp hw
  cases hc : n.isCondition with
  | true => exact Or.inl rfl
  | false =>
      right
      rcases Nat.lt_or_ge (g.fanOut n).length 2 with hl | hl
      · exact Or.inr ⟨hs, hk, hc, hl⟩
      · exact Or.inl ⟨hs, hk, hc, hl⟩

/-- A working node that is no condition node and does not fan out is plain. -/
theorem Classified.isPlain_of_not_fansOut (hg : g.Classified) (hn : n ∈ g.nodes)
    (hw : n.isWorking = true) (hc : n.isCondition = false) (hf : ¬ g.FansOut n) : g.IsPlain n := by
  rcases hg.shape hn hw with h | h | h
  · exact absurd h (by simp [hc])
  · exact absurd h hf
  · exact h

/-- A node of any of the shapes works. -/
theorem Classified.isWorking_of_fansOut (hg : g.Classified) (hn : n ∈ g.nodes)
    (h : g.FansOut n) : n.isWorking = true :=
  (Node.isWorking_iff (hg n hn)).mpr ⟨h.1, h.2.1⟩

theorem Classified.isWorking_of_isPlain (hg : g.Classified) (hn : n ∈ g.nodes)
    (h : g.IsPlain n) : n.isWorking = true :=
  (Node.isWorking_iff (hg n hn)).mpr ⟨h.1, h.2.1⟩

end Graph

namespace Catalog

/-- Classifying gives every node a kind. -/
theorem classifyGraph_classified (c : Catalog) (g : Graph) : (c.classifyGraph g).Classified := by
  intro n hn
  obtain ⟨m, _, rfl⟩ := List.mem_map.mp hn
  exact Option.some_ne_none _

/-- A kind that is set wins over the catalogue. -/
theorem classify_of_kind_ne_none (c : Catalog) {n : Node} (h : n.kind ≠ none) :
    c.classify n = n := by
  obtain ⟨k, hk⟩ := Option.ne_none_iff_exists'.mp h
  rw [classify, hk, Option.getD_some, ← hk]

/-- Whoever classifies a classified graph changes nothing. -/
theorem classifyGraph_of_classified (c : Catalog) {g : Graph} (hg : g.Classified) :
    c.classifyGraph g = g := by
  have hnode (n : Node) (hn : n ∈ g.nodes) : c.classify n = n :=
    c.classify_of_kind_ne_none (hg n hn)
  rw [classifyGraph, List.map_congr_left hnode, List.map_id']

/-- Which kinds nodes get does not depend on the edges. -/
theorem nodes_classifyGraph_congr (c : Catalog) {g g' : Graph} (h : g.nodes = g'.nodes) :
    (c.classifyGraph g).nodes = (c.classifyGraph g').nodes := by
  rw [classifyGraph, classifyGraph, h]

/-- Classifying keeps the ids of the nodes in order. -/
theorem map_id_classifyGraph (c : Catalog) (g : Graph) :
    (c.classifyGraph g).nodes.map (·.id) = g.nodes.map (·.id) := by
  simp [classifyGraph, List.map_map, Function.comp_def]

end Catalog

end ServiceFlow
