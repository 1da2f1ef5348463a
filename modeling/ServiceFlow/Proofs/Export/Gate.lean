import ServiceFlow.Export
import ServiceFlow.Proofs.Compile.Steps
import ServiceFlow.Proofs.Graph.Findings

/-!
# What is exported

An export compiles a graph, checks the graph and checks the document, and gives the document when
neither check finds anything. The condition on the graph that all three passes make together is
stated here without them, in terms of the classified nodes and their edges, and export succeeds
exactly under it.
-/

namespace ServiceFlow

/-- What becomes of a graph that compiles: it is exported unless something is found wrong. -/
theorem Catalog.exportGraph_of_compile {c : Catalog} {g : Graph} {w : Workflow}
    (h : c.compile g = .ok w) :
    c.exportGraph g = if (c.findings g).isEmpty && w.findings.isEmpty then .ok w
      else .error (.blocked (c.findings g) w.findings) := by
  rw [exportGraph, h]
  rfl

/-- A graph that does not compile is not exported, for the same reason. -/
theorem Catalog.exportGraph_of_compile_error {c : Catalog} {g : Graph} {f : Fault}
    (h : c.compile g = .error f) : c.exportGraph g = .error f := by
  rw [exportGraph, h]
  rfl

/-- An export succeeds with the compiled document, when the graph is tidy and the document sound. -/
theorem Catalog.exportGraph_eq_ok_iff {c : Catalog} {g : Graph} {w : Workflow} :
    c.exportGraph g = .ok w ↔ (c.classifyGraph g).workflow? = some w ∧
      (c.classifyGraph g).Tidy c.singleInstance ∧ w.Sound := by
  rw [← compile_eq_ok_iff, ← Graph.findings_eq_nil_iff, ← Workflow.findings_eq_nil_iff]
  cases h : c.compile g with
  | error f => simp only [exportGraph_of_compile_error h, reduceCtorEq, false_and]
  | ok v =>
      simp only [exportGraph_of_compile h, Bool.and_eq_true, List.isEmpty_iff]
      split
      · next hnone =>
          constructor
          · rintro ⟨rfl⟩
            exact ⟨rfl, hnone⟩
          · exact And.left
      · next hsome =>
          simp only [reduceCtorEq, false_iff]
          rintro ⟨⟨rfl⟩, hnone⟩
          exact hsome hnone

namespace Graph

/-- The condition on a classified graph under which it is exported, given the types that occur at
most once. -/
structure Exportable (g : Graph) (single : List String) : Prop where
  /-- Exactly one node is an entry; it has an id, and no edge leads to that id. -/
  entry : ∃ n, g.entries = [n] ∧ n.id ≠ "" ∧ ∀ e ∈ g.edges, e.target ≠ n.id
  /-- A type that occurs at most once is that of at most one node. -/
  once : ∀ t ∈ single, g.nodes.countP (·.type == t) ≤ 1
  /-- Some edge leads to every step node, unless its type occurs at most once. -/
  reached : ∀ n ∈ g.nodes, n.IsStep → n.type ∉ single → ∃ e ∈ g.edges, e.target = n.id
  /-- The source and the target of an edge are ids of nodes. -/
  ends : ∀ e ∈ g.edges, (∃ n ∈ g.nodes, n.id = e.source) ∧ ∃ n ∈ g.nodes, n.id = e.target
  /-- Every step node has an id. -/
  ids : ∀ n ∈ g.nodes, n.IsStep → n.id ≠ ""
  /-- Every plain node has a type. -/
  types : ∀ n ∈ g.nodes, g.IsPlain n → n.type ≠ ""
  /-- A plain node with a conditional edge has a default edge, and the first of these leads to an
  id that is not empty. -/
  plainFallback : ∀ n ∈ g.nodes, g.IsPlain n → (∃ e ∈ g.outgoing n.id, e.isDefault = false) →
    ∃ d, (g.outgoing n.id).find? (·.isDefault) = some d ∧ d.target ≠ ""
  /-- A condition node with an edge for a match has an edge for no match, and the first of these
  leads to an id that is not empty. -/
  conditionFallback : ∀ n ∈ g.nodes, n.isCondition = true →
    (∃ e, leavingBy Edge.matchHandle (g.outgoing n.id) = some e) →
    ∃ d, leavingBy Edge.otherHandle (g.outgoing n.id) = some d ∧ d.target ≠ ""
  /-- A guarded edge leads to a step node. -/
  guarded : ∀ n ∈ g.nodes, ∀ e, g.Guarded n e → g.HasStep e.target
  /-- A node continues at a step node, unless it continues at the empty id. -/
  continues : ∀ n ∈ g.nodes, ∀ t, g.Continues n t → t = "" ∨ g.HasStep t

variable {g : Graph} {single : List String} {w : Workflow}

/-- Every node that guards an edge continues at an id when plain nodes and condition nodes do so,
each by an edge of its own sort. -/
theorem fallbacks_iff : (∀ n ∈ g.nodes, ∀ e, g.Guarded n e → ∃ t, g.Continues n t ∧ t ≠ "") ↔
    (∀ n ∈ g.nodes, g.IsPlain n → (∃ e ∈ g.outgoing n.id, e.isDefault = false) →
      ∃ d, (g.outgoing n.id).find? (·.isDefault) = some d ∧ d.target ≠ "") ∧
    ∀ n ∈ g.nodes, n.isCondition = true →
      (∃ e, leavingBy Edge.matchHandle (g.outgoing n.id) = some e) →
      ∃ d, leavingBy Edge.otherHandle (g.outgoing n.id) = some d ∧ d.target ≠ "" := by
  constructor
  · intro h
    refine ⟨?_, ?_⟩
    · rintro n hn hp ⟨e, he, hd⟩
      obtain ⟨_, ⟨-, hf⟩ | ⟨hc, -⟩ | ⟨hf, -⟩, hne⟩ := h n hn e (.plain hp he hd)
      · exact ⟨_, hf, hne⟩
      · exact absurd hc hp.not_isCondition
      · exact absurd hf hp.not_fansOut
    · rintro n hn hc ⟨e, he⟩
      obtain ⟨_, ⟨hp, -⟩ | ⟨-, hd⟩ | ⟨hf, -⟩, hne⟩ := h n hn e (.condition hc he)
      · exact absurd hc hp.not_isCondition
      · exact ⟨_, hd, hne⟩
      · exact absurd hc hf.not_isCondition
  · rintro ⟨hplain, hcond⟩ n hn e (⟨hp, he, hd⟩ | ⟨hc, he⟩)
    · obtain ⟨d, hf, hne⟩ := hplain n hn hp ⟨e, he, hd⟩
      exact ⟨d.target, .plain hp hf, hne⟩
    · obtain ⟨d, hd, hne⟩ := hcond n hn hc ⟨e, he⟩
      exact ⟨d.target, .condition hc hd, hne⟩

/-- A tidy graph that compiles to a sound document is exportable. -/
theorem exportable_of_sound (hg : g.Classified) (h : g.workflow? = some w)
    (ht : g.Tidy single) (hs : w.Sound) : g.Exportable single := by
  have hids := (forall_ids_iff hg h).mp hs.ids
  have hfallbacks := fallbacks_iff.mp ((forall_fallbacks_iff hg h).mp hs.fallbacks)
  have hhas (t : String) : t ∈ w.stepIds → g.HasStep t := (mem_stepIds_iff hg h).mp
  exact {
    entry := by
      obtain ⟨n, hn⟩ := ht.entry
      obtain ⟨m, hm, rfl⟩ := workflow?_eq_some_iff.mp h
      have hmn : m = n := by
        rw [entryNode?_eq_of_entries hn] at hm
        exact (Option.some.inj hm).symm
      subst hmn
      refine ⟨m, hn, ?_, ht.unreached m (by simp [hn])⟩
      -- A start at a step is a start at a non-empty id, because every step has one.
      rcases hs.start with hmem | ⟨hne, -⟩
      · obtain ⟨k, hk, hstep, hid⟩ := hhas _ hmem
        have hkm : k.id = m.id := hid
        exact hkm ▸ hids k hk hstep
      · exact hne
    once := ht.once
    reached := ht.reached
    ends := ht.ends
    ids := hids
    types := (forall_services_iff hg h).mp hs.services
    plainFallback := hfallbacks.1
    conditionFallback := hfallbacks.2
    guarded := fun n hn e he => hhas _ ((forall_targets_iff hg h).mp hs.targets n hn e he)
    continues := fun n hn t ht =>
      ((forall_next?_iff hg h).mp hs.continuations n hn t ht).imp_right (hhas t) }

/-- The checks on the graph find nothing wrong with an exportable graph. -/
theorem Exportable.tidy (h : g.Exportable single) : g.Tidy single := by
  obtain ⟨n, hn, -, htarget⟩ := h.entry
  exact {
    once := h.once
    entry := ⟨n, hn⟩
    unreached := by
      intro m hm
      rw [hn, List.mem_singleton] at hm
      exact hm ▸ htarget
    reached := h.reached
    ends := h.ends }

/-- The document that an exportable graph compiles to is sound. -/
theorem Exportable.sound (he : g.Exportable single) (hg : g.Classified)
    (h : g.workflow? = some w) : w.Sound := by
  have hids (t : String) : g.HasStep t → t ∈ w.stepIds := (mem_stepIds_iff hg h).mpr
  exact {
    ids := (forall_ids_iff hg h).mpr he.ids
    services := (forall_services_iff hg h).mpr he.types
    fallbacks := (forall_fallbacks_iff hg h).mpr
      (fallbacks_iff.mpr ⟨he.plainFallback, he.conditionFallback⟩)
    start := by
      obtain ⟨n, hn, hne, -⟩ := he.entry
      obtain ⟨m, hm, rfl⟩ := workflow?_eq_some_iff.mp h
      rw [entryNode?_eq_of_entries hn] at hm
      exact Or.inr ⟨Option.some.inj hm ▸ hne, rfl⟩
    continuations := (forall_next?_iff hg h).mpr
      fun n hn t ht => (he.continues n hn t ht).imp_right (hids t)
    targets := (forall_targets_iff hg h).mpr fun n hn e hge => hids _ (he.guarded n hn e hge)
    subSteps := subSteps_mem_stepIds hg h }

end Graph

/-- A graph is exported exactly when the graph that its classification makes is exportable. -/
theorem Catalog.exportGraph_isOk_iff (c : Catalog) (g : Graph) :
    (∃ w, c.exportGraph g = .ok w) ↔ (c.classifyGraph g).Exportable c.singleInstance := by
  have hg := c.classifyGraph_classified g
  simp only [exportGraph_eq_ok_iff]
  constructor
  · rintro ⟨w, hw, ht, hs⟩
    exact Graph.exportable_of_sound hg hw ht hs
  · intro h
    obtain ⟨n, hn, -, -⟩ := h.entry
    have hw := Graph.workflow?_eq_some_iff.mpr ⟨n, Graph.entryNode?_eq_of_entries hn, rfl⟩
    exact ⟨_, hw, h.tidy, h.sound hg hw⟩

end ServiceFlow
