import Mathlib.Data.List.Nodup
import ServiceFlow.Proofs.Compile.Transitions

/-!
# Sub-steps

A node calls services side by side when two of its edges or more lead to services. Its step then
lists a sub-step for each of these edges, so a service to which two edges lead is listed twice, and
when there are no other services it is called side by side with itself. Sub-steps are different
services in all documents whose nodes have one edge at most to each service.
-/

namespace ServiceFlow

/-- Whether some ids are those of services that can be called side by side: there are two different
ones, and none is there twice. -/
def Spreads (ids : List String) : Prop := (∃ a ∈ ids, ∃ b ∈ ids, a ≠ b) ∧ ids.Nodup

instance (ids : List String) : Decidable (Spreads ids) := inferInstanceAs (Decidable (_ ∧ _))

/-- Two ids or more spread when none is there twice. -/
theorem spreads_iff {ids : List String} (h : 2 ≤ ids.length) :
    Spreads ids ↔ ∀ t ∈ ids, ids.count t ≤ 1 := by
  have hcount : ids.Nodup ↔ ∀ t ∈ ids, ids.count t ≤ 1 := by
    rw [List.nodup_iff_count_le_one]
    refine ⟨fun hle t _ => hle t, fun hle t => ?_⟩
    by_cases ht : t ∈ ids
    · exact hle t ht
    · rw [List.count_eq_zero_of_not_mem ht]
      exact Nat.zero_le 1
  rw [← hcount]
  refine ⟨And.right, fun hnodup => ⟨?_, hnodup⟩⟩
  match ids with
  | a :: b :: _ =>
      have hne : a ≠ b := List.ne_of_not_mem_cons (List.nodup_cons.mp hnodup).1
      exact ⟨a, by simp, b, by simp, hne⟩

namespace Graph

/-- How many edges lead from one id to another. -/
def edgeCount (g : Graph) (a b : String) : Nat :=
  g.edges.countP fun e => e.source == a && e.target == b

variable {g : Graph} {n : Node} {w : Workflow}

/-- A service is listed as often as edges lead to it from the id of the node. -/
theorem count_fanOut (g : Graph) (n : Node) (t : String) :
    ((g.fanOut n).map (·.target)).count t =
      if g.isService t then g.edgeCount n.id t else 0 := by
  rw [List.count_eq_countP, List.countP_map, fanOut, outgoing, List.filter_filter,
    List.countP_filter]
  split
  · rename_i ht
    refine List.countP_congr fun e _ => ?_
    simp only [Function.comp_apply, Bool.and_eq_true, beq_iff_eq]
    constructor
    · rintro ⟨rfl, -, hs⟩
      exact ⟨hs, rfl⟩
    · rintro ⟨hs, rfl⟩
      exact ⟨rfl, ht, hs⟩
  · rename_i ht
    refine List.countP_eq_zero.mpr fun e _ h => ht ?_
    simp only [Function.comp_apply, Bool.and_eq_true, beq_iff_eq] at h
    exact h.1 ▸ h.2.1

/-- The steps that call services side by side are those of the nodes that fan out. -/
theorem fanOut_mem_steps_iff (hg : g.Classified) (h : g.workflow? = some w) {id : String}
    {subs : List String} {next : Option String} : .fanOut id subs next ∈ w.steps ↔
      ∃ n ∈ g.nodes, g.FansOut n ∧ .fanOut id subs next = Node.fanOutStep g n (g.fanOut n) := by
  rw [mem_steps_iff h]
  constructor
  · rintro (⟨n, -, -, hs⟩ | ⟨n, hn, hw, hs⟩)
    · exact absurd hs (by simp)
    · rcases hg.shape hn hw with hc | hf | hp
      · exact absurd (Node.step_of_isCondition hc ▸ hs) (by simp [Node.conditionStep])
      · exact ⟨n, hn, hf, Node.step_of_fansOut hf ▸ hs⟩
      · exact absurd (Node.step_of_isPlain hp ▸ hs) (by simp [Node.serviceStep])
  · rintro ⟨n, hn, hf, hs⟩
    exact Or.inr ⟨n, hn, hg.isWorking_of_fansOut hn hf, Node.step_of_fansOut hf ▸ hs⟩

/-- The sub-steps of a document are different services exactly when no node that could call
services side by side has two edges to the same service. -/
theorem forall_spreads_iff (hg : g.Classified) (h : g.workflow? = some w) :
    (∀ id subs next, .fanOut id subs next ∈ w.steps → Spreads subs) ↔
      ∀ n ∈ g.nodes, n.isWorking = true → n.isCondition = false →
        ∀ e ∈ g.edges, e.source = n.id → g.isService e.target = true →
          g.edgeCount n.id e.target ≤ 1 := by
  constructor
  · intro hsteps n hn hw hc e he hs ht
    have hcount := count_fanOut g n e.target
    rw [ht, if_pos rfl] at hcount
    by_cases hf : g.FansOut n
    · have hspreads := hsteps _ _ _ ((fanOut_mem_steps_iff hg h).mpr ⟨n, hn, hf, rfl⟩)
      exact hcount ▸ List.nodup_iff_count_le_one.mp hspreads.2 e.target
    · have hp := hg.isPlain_of_not_fansOut hn hw hc hf
      have hle := List.count_le_length (a := e.target) (l := (g.fanOut n).map (·.target))
      rw [List.length_map] at hle
      have hfew := hp.2.2.2
      omega
  · intro hedges id subs next hs
    obtain ⟨n, hn, hf, hstep⟩ := (fanOut_mem_steps_iff hg h).mp hs
    obtain ⟨rfl, rfl, rfl⟩ := Step.fanOut.inj hstep
    have hmany : 2 ≤ ((g.fanOut n).map (·.target)).length := by
      rw [List.length_map]
      exact hf.2.2.2
    refine (spreads_iff hmany).mpr fun t ht => ?_
    obtain ⟨e, he, rfl⟩ := List.mem_map.mp ht
    obtain ⟨hmem, hsource, hservice⟩ := mem_fanOut.mp he
    rw [count_fanOut, hservice, if_pos rfl]
    exact hedges n hn (hg.isWorking_of_fansOut hn hf) hf.2.2.1 e hmem hsource hservice

end Graph

namespace Catalog

variable {c : Catalog} {g : Graph} {w : Workflow}

/-- A step that calls services side by side lists two at least, each as often as edges lead to it.
So the services are different ones, in all steps of a document, exactly when no service or branch
node, condition nodes aside, has two edges to the same service. -/
theorem compile_subSteps (h : c.compile g = .ok w) :
    (∀ id subs next, .fanOut id subs next ∈ w.steps → 2 ≤ subs.length ∧
      ∀ t, subs.count t = if (c.classifyGraph g).isService t then g.edgeCount id t else 0) ∧
    ((∀ id subs next, .fanOut id subs next ∈ w.steps → Spreads subs) ↔
      ∀ n ∈ (c.classifyGraph g).nodes, n.isWorking = true → n.isCondition = false →
        ∀ e ∈ g.edges, e.source = n.id → (c.classifyGraph g).isService e.target = true →
          g.edgeCount n.id e.target ≤ 1) := by
  have hg := c.classifyGraph_classified g
  have hw := compile_eq_ok_iff.mp h
  refine ⟨?_, Graph.forall_spreads_iff hg hw⟩
  intro id subs next hs
  obtain ⟨n, -, hf, hstep⟩ := (Graph.fanOut_mem_steps_iff hg hw).mp hs
  obtain ⟨rfl, rfl, rfl⟩ := Step.fanOut.inj hstep
  refine ⟨?_, Graph.count_fanOut _ n⟩
  rw [List.length_map]
  exact hf.2.2.2

theorem compile_subSteps_sideBySide :
    Catalog.default.compile sideBySide = .ok sideBySideDocument ∧
      .fanOut "s" ["a", "b"] (some "t") ∈ sideBySideDocument.steps ∧ Spreads ["a", "b"] := by
  have hw : Catalog.default.compile sideBySide = .ok sideBySideDocument := rfl
  have hs : .fanOut "s" ["a", "b"] (some "t") ∈ sideBySideDocument.steps := by decide
  exact ⟨hw, hs, (compile_subSteps hw).2.mpr (by decide) _ _ _ hs⟩

/-- A service node with two edges to one service. -/
def doubledEdge : Graph where
  nodes := [{ id := "e", type := "StartNode" }, { id := "s", type := "IDV" },
    { id := "a", type := "AML" }, { id := "t", type := "EndNode" }]
  edges := [{ id := "1", source := "e", target := "s" }, { id := "2", source := "s", target := "a" },
    { id := "3", source := "s", target := "a" }, { id := "4", source := "a", target := "t" }]

/-- The document of that graph. -/
def doubledEdgeDocument : Workflow where
  startStep := "e"
  steps := [.finish "t", .fanOut "s" ["a", "a"] (some "t"), .service "a" "aml" none (some "t")]
  entryStep := some "e"

/-- A service can be called side by side with itself. -/
theorem doubledEdge_not_spread :
    Catalog.default.compile doubledEdge = .ok doubledEdgeDocument ∧
      .fanOut "s" ["a", "a"] (some "t") ∈ doubledEdgeDocument.steps ∧
      (¬ ∃ a ∈ ["a", "a"], ∃ b ∈ ["a", "a"], a ≠ b) ∧ ¬ ["a", "a"].Nodup :=
  ⟨rfl, by decide⟩

end Catalog

end ServiceFlow
