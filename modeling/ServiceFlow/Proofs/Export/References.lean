import Mathlib.Data.List.Nodup
import ServiceFlow.Proofs.Compile.Vote
import ServiceFlow.Proofs.Export.Guards

/-!
# References of exported documents

Steps refer to each other by id. In an exported document every reference but an empty continuation
is the id of a step, and an empty continuation never is. Nothing on the way to an export compares
the ids of nodes with each other, so step ids are as distinct as the ids of the step nodes, and the
start can share its id with a step of a type that occurs at most once.
-/

namespace ServiceFlow

namespace Workflow

/-- Whether every id of a step that stands in a document is the id of one of its steps. -/
def Closed (w : Workflow) : Prop := ∀ s ∈ w.steps, ∀ t ∈ s.references, t ∈ w.stepIds

instance (w : Workflow) : Decidable w.Closed :=
  inferInstanceAs (Decidable (∀ s ∈ w.steps, ∀ t ∈ s.references, t ∈ w.stepIds))

variable {w : Workflow}

/-- The empty id is not that of a step of a sound document. -/
theorem Sound.empty_notMem_stepIds (h : w.Sound) : "" ∉ w.stepIds := by
  intro hm
  obtain ⟨s, hs, hid⟩ := List.mem_map.mp hm
  exact h.ids s hs hid

/-- A reference of a sound document is the id of a step unless it is empty. -/
theorem Sound.mem_stepIds_of_mem_references (h : w.Sound) {s : Step} (hs : s ∈ w.steps)
    {t : String} (ht : t ∈ s.references) (hne : t ≠ "") : t ∈ w.stepIds := by
  rcases Step.mem_references.mp ht with hn | ⟨c, hc, rfl⟩ | hsub
  · exact (h.continuations s hs t hn).resolve_left hne
  · exact h.targets s hs c hc
  · exact h.subSteps s hs t hsub

/-- A sound document is closed when no continuation of a step is empty. -/
theorem Sound.closed_iff (h : w.Sound) :
    w.Closed ↔ ∀ s ∈ w.steps, ∀ t, s.next? = some t → t ≠ "" := by
  constructor
  · rintro hc s hs t ht rfl
    exact h.empty_notMem_stepIds (hc s hs "" (Step.mem_references.mpr (Or.inl ht)))
  · intro hn s hs t ht
    by_cases he : t = ""
    · rcases Step.mem_references.mp ht with hnext | ⟨c, hc, rfl⟩ | hsub
      · exact absurd he (hn s hs t hnext)
      · exact h.targets s hs c hc
      · exact h.subSteps s hs t hsub
    · exact h.mem_stepIds_of_mem_references hs ht he

/-- An id among distinct step ids names one step. -/
theorem existsUnique_step (h : w.stepIds.Nodup) {t : String} (ht : t ∈ w.stepIds) :
    ∃! s, s ∈ w.steps ∧ s.id = t := by
  obtain ⟨s, hs, hid⟩ := List.mem_map.mp ht
  refine ⟨s, ⟨hs, hid⟩, ?_⟩
  rintro r ⟨hr, hrid⟩
  exact List.inj_on_of_nodup_map h hr hs (hrid.trans hid.symm)

end Workflow

namespace Graph

variable {g : Graph} {single : List String} {w : Workflow}

/-- A node continues where some edge leads. -/
theorem Continues.exists_edge {n : Node} {t : String} (h : g.Continues n t) :
    ∃ e ∈ g.edges, e.target = t := by
  rcases h with ⟨-, hd⟩ | ⟨-, hd⟩ | ⟨-, ht⟩
  · exact ⟨_, (mem_outgoing.mp (List.mem_of_find?_eq_some hd)).1, rfl⟩
  · exact ⟨_, (mem_outgoing.mp (List.mem_of_find?_eq_some hd)).1, rfl⟩
  · obtain ⟨e, he, -, htarget⟩ := exists_edge_of_meetingPoint ht
    exact ⟨e, he, htarget⟩

/-- No node of a tidy graph continues at an id that no node has. -/
theorem Tidy.not_continues (h : g.Tidy single) {t : String} (ht : ∀ n ∈ g.nodes, n.id ≠ t)
    (n : Node) : ¬ g.Continues n t := by
  intro hc
  obtain ⟨e, he, rfl⟩ := hc.exists_edge
  obtain ⟨-, m, hm, hid⟩ := h.ends e he
  exact ht m hm hid

/-- The start of the document of a tidy graph is the id of its entry node. -/
theorem Tidy.exists_entry (ht : g.Tidy single) (h : g.workflow? = some w) :
    ∃ n ∈ g.nodes, n.kind = some .entry ∧ n.id = w.startStep ∧
      ∀ e ∈ g.edges, e.target ≠ w.startStep := by
  obtain ⟨n, hn, rfl⟩ := workflow?_eq_some_iff.mp h
  obtain ⟨hmem, hk⟩ := entryNode?_eq_some hn
  have hentry : n ∈ g.entries := List.mem_filter.mpr ⟨hmem, by simp [hk]⟩
  exact ⟨n, hmem, hk, rfl, ht.unreached n hentry⟩

/-- Only a step node of a type that occurs at most once shares its id with the start. -/
theorem Tidy.type_mem_of_id_eq_start (ht : g.Tidy single) (h : g.workflow? = some w) {n : Node}
    (hn : n ∈ g.nodes) (hs : n.IsStep) (hid : n.id = w.startStep) : n.type ∈ single := by
  by_contra hty
  obtain ⟨e, he, htarget⟩ := ht.reached n hn hs hty
  obtain ⟨-, -, -, -, hno⟩ := ht.exists_entry h
  exact hno e he (htarget.trans hid)

/-- A graph whose nodes have distinct ids has no step node with the id of the start. -/
theorem Tidy.not_hasStep_start (ht : g.Tidy single) (h : g.workflow? = some w)
    (hnodup : (g.nodes.map (·.id)).Nodup) : ¬ g.HasStep w.startStep := by
  rintro ⟨n, hn, hs, hid⟩
  obtain ⟨m, hm, hk, hmid, -⟩ := ht.exists_entry h
  have hnm : n = m := List.inj_on_of_nodup_map hnodup hn hm (hid.trans hmid.symm)
  exact hs.1 (hnm ▸ hk)

end Graph

namespace Catalog

variable {c : Catalog} {g : Graph} {w : Workflow}

/-- The references of an exported document: conditions and sub-steps lead to steps, and so does
every continuation that is not empty. The document is closed exactly when no node continues at the
empty id, and so it is when no node has that id. -/
theorem exportGraph_closed_iff (h : c.exportGraph g = .ok w) :
    (∀ s ∈ w.steps, (∀ k ∈ s.guards, k.goToStep ∈ w.stepIds) ∧ (∀ t ∈ s.subSteps, t ∈ w.stepIds) ∧
      ∀ t, s.next? = some t → t ≠ "" → t ∈ w.stepIds) ∧
    (w.Closed ↔ ∀ n ∈ (c.classifyGraph g).nodes, ¬ (c.classifyGraph g).Continues n "") ∧
    ((∀ n ∈ g.nodes, n.id ≠ "") → w.Closed) := by
  obtain ⟨hw, ht, hs⟩ := exportGraph_eq_ok_iff.mp h
  have hg := c.classifyGraph_classified g
  have hclosed : w.Closed ↔
      ∀ n ∈ (c.classifyGraph g).nodes, ¬ (c.classifyGraph g).Continues n "" := by
    rw [hs.closed_iff, Graph.forall_next?_iff hg hw]
    constructor
    · intro hn n hmem hc
      exact hn n hmem "" hc rfl
    · rintro hn n hmem t hc rfl
      exact hn n hmem hc
  refine ⟨?_, hclosed, ?_⟩
  · intro s hmem
    exact ⟨hs.targets s hmem, hs.subSteps s hmem,
      fun t hnext hne => (hs.continuations s hmem t hnext).resolve_left hne⟩
  · intro hids
    rw [hclosed]
    intro n _
    refine ht.not_continues ?_ n
    intro m hm
    obtain ⟨k, hk, rfl⟩ := List.mem_map.mp hm
    exact hids k hk

theorem guardedServices_closed :
    Catalog.default.exportGraph guardedServices = .ok guardedServicesDocument ∧
      (∀ n ∈ guardedServices.nodes, n.id ≠ "") ∧ guardedServicesDocument.Closed := by
  have hids : ∀ n ∈ guardedServices.nodes, n.id ≠ "" := by decide
  have h := exportGraph_closed_iff (c := Catalog.default) (g := guardedServices)
    (w := guardedServicesDocument) rfl
  exact ⟨rfl, hids, h.2.2 hids⟩

/-- A note without an id, to which a service node leads by a default edge. -/
def blankNote : Graph where
  nodes := [{ id := "e", type := "StartNode" }, { id := "s", type := "IDV" },
    { id := "", type := "TextNode" }]
  edges := [{ id := "1", source := "e", target := "s" }, { id := "2", source := "s", target := "" }]

/-- The document of that graph, whose only step continues nowhere. -/
def blankNoteDocument : Workflow :=
  { startStep := "e", steps := [.service "s" "idv" none (some "")], entryStep := some "e" }

/-- An exported document can hold a reference that is the id of no step. -/
theorem exportGraph_blankNote_not_closed :
    Catalog.default.exportGraph blankNote = .ok blankNoteDocument ∧ ¬ blankNoteDocument.Closed :=
  ⟨rfl, by decide⟩

/-- The step ids of an exported document are distinct exactly when the ids of the step nodes are,
and one of them is the start exactly when a step node of a type that occurs at most once has the
id of the entry. Distinct ids of nodes make every reference but an empty continuation name exactly
one step, and none name the start. -/
theorem exportGraph_stepIds (h : c.exportGraph g = .ok w) :
    (w.stepIds.Nodup ↔ ((c.classifyGraph g).stepNodes.map (·.id)).Nodup) ∧
    (w.startStep ∈ w.stepIds ↔ ∃ n ∈ (c.classifyGraph g).nodes,
      n.IsStep ∧ n.type ∈ c.singleInstance ∧ n.id = w.startStep) ∧
    ((g.nodes.map (·.id)).Nodup → w.stepIds.Nodup ∧ w.startStep ∉ w.stepIds ∧
      ∀ s ∈ w.steps, ∀ t ∈ s.references, t ≠ "" → ∃! r, r ∈ w.steps ∧ r.id = t) := by
  obtain ⟨hw, ht, hs⟩ := exportGraph_eq_ok_iff.mp h
  have hg := c.classifyGraph_classified g
  have hnodup := (Graph.stepIds_perm hg hw).nodup_iff
  refine ⟨hnodup, ?_, ?_⟩
  · rw [Graph.mem_stepIds_iff hg hw]
    constructor
    · rintro ⟨n, hn, hstep, hid⟩
      exact ⟨n, hn, hstep, ht.type_mem_of_id_eq_start hw hn hstep hid, hid⟩
    · rintro ⟨n, hn, hstep, -, hid⟩
      exact ⟨n, hn, hstep, hid⟩
  · intro hids
    rw [← c.map_id_classifyGraph g] at hids
    have hdistinct : w.stepIds.Nodup := hnodup.mpr
      (hids.sublist (List.filter_sublist.map _))
    refine ⟨hdistinct, ?_, ?_⟩
    · rw [Graph.mem_stepIds_iff hg hw]
      exact ht.not_hasStep_start hw hids
    · intro s hmem t href hne
      exact Workflow.existsUnique_step hdistinct (hs.mem_stepIds_of_mem_references hmem href hne)

theorem guardedServices_stepIds :
    Catalog.default.exportGraph guardedServices = .ok guardedServicesDocument ∧
      (guardedServices.nodes.map (·.id)).Nodup ∧
      guardedServicesDocument.stepIds.Nodup ∧
      guardedServicesDocument.startStep ∉ guardedServicesDocument.stepIds ∧
      ∀ s ∈ guardedServicesDocument.steps, ∀ t ∈ s.references, t ≠ "" →
        ∃! r, r ∈ guardedServicesDocument.steps ∧ r.id = t := by
  have hids : (guardedServices.nodes.map (·.id)).Nodup := by decide
  have h := exportGraph_stepIds (c := Catalog.default) (g := guardedServices)
    (w := guardedServicesDocument) rfl
  exact ⟨rfl, hids, h.2.2 hids⟩

/-- An entry that shares its id with a node of a type that occurs at most once, and two service
nodes that share theirs. -/
def sharedIds : Graph where
  nodes := [{ id := "e", type := "StartNode" }, { id := "e", type := "WebApp" },
    { id := "s", type := "IDV" }, { id := "s", type := "AML" }, { id := "t", type := "EndNode" }]
  edges := [{ id := "1", source := "e", target := "s" }, { id := "2", source := "s", target := "t" }]

/-- The document of that graph. -/
def sharedIdsDocument : Workflow where
  startStep := "e"
  steps := [.finish "t", .service "e" "webapp" none (some "s"), .service "s" "idv" none (some "t"),
    .service "s" "aml" none (some "t")]
  entryStep := some "e"

/-- The step ids of an exported document can repeat, and one of them can be the start. -/
theorem exportGraph_sharedIds_repeats :
    Catalog.default.exportGraph sharedIds = .ok sharedIdsDocument ∧
      ¬ sharedIdsDocument.stepIds.Nodup ∧
      sharedIdsDocument.startStep ∈ sharedIdsDocument.stepIds :=
  ⟨rfl, by decide, by decide⟩

end Catalog

end ServiceFlow
