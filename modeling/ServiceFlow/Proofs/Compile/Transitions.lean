import ServiceFlow.Proofs.Compile.Steps
import ServiceFlow.Proofs.Compile.Vote
import ServiceFlow.Proofs.Graph.Reach

/-!
# Transitions come from edges

Every id that stands in a step of a compiled document was drawn as an edge: conditions,
continuations and sub-steps lead along edges out of the step's own node, and the continuation of a
fan-out along an edge out of one of its sub-steps. One transition of the document is therefore one
or two edges of the graph, and a run of transitions is a path. Ids need not be distinct for this,
because steps and edges are matched by id on both sides.
-/

namespace ServiceFlow

namespace Step

/-- Whether every id of another step that stands in a step was drawn: an end step has none, a service
step leads where edges lead that leave its id, and a fan-out calls such ids and goes on where an
edge leads that leaves one of them. -/
def DrawnFrom (g : Graph) : Step → Prop
  | finish _ => True
  | service id _ conditions goToStep =>
    (∀ c ∈ conditions.getD [], g.Joins id c.goToStep) ∧ ∀ t, goToStep = some t → g.Joins id t
  | fanOut id subSteps goToStep =>
    (∀ t ∈ subSteps, g.Joins id t) ∧
      ∀ t, goToStep = some t → ∃ sub ∈ subSteps, g.Joins sub t

/-- A reference of a drawn step is one edge away from the step, or two edges by way of a sub-step. -/
theorem DrawnFrom.joins_or_joins_sub {g : Graph} {s : Step} (hd : s.DrawnFrom g) {t : String}
    (ht : t ∈ s.references) : g.Joins s.id t ∨ ∃ sub, g.Joins s.id sub ∧ g.Joins sub t := by
  cases s with
  | finish id => exact absurd ht List.not_mem_nil
  | service id name conditions goToStep =>
      obtain ⟨hconditions, hnext⟩ := hd
      rcases mem_references.mp ht with hn | ⟨c, hc, rfl⟩ | hsub
      · exact Or.inl (hnext t hn)
      · exact Or.inl (hconditions c hc)
      · exact absurd hsub List.not_mem_nil
  | fanOut id subs goToStep =>
      obtain ⟨hsubs, hnext⟩ := hd
      rcases mem_references.mp ht with hn | ⟨c, hc, -⟩ | hsub
      · obtain ⟨sub, hsub, hjoins⟩ := hnext t hn
        exact Or.inr ⟨sub, hsubs sub hsub, hjoins⟩
      · exact absurd hc List.not_mem_nil
      · exact Or.inl (hsubs t hsub)

/-- A reference of a drawn step is reached from the step. -/
theorem DrawnFrom.reaches {g : Graph} {s : Step} (hd : s.DrawnFrom g) {t : String}
    (ht : t ∈ s.references) : g.Reaches s.id t := by
  rcases hd.joins_or_joins_sub ht with hjoins | ⟨sub, hsub, hjoins⟩
  · exact Relation.ReflTransGen.single hjoins
  · exact (Relation.ReflTransGen.single hsub).tail hjoins

/-- A reference of a drawn step is the target of some edge. -/
theorem DrawnFrom.exists_edge {g : Graph} {s : Step} (hd : s.DrawnFrom g) {t : String}
    (ht : t ∈ s.references) : ∃ e ∈ g.edges, e.target = t := by
  rcases hd.joins_or_joins_sub ht with ⟨e, he, -, htarget⟩ | ⟨-, -, e, he, -, htarget⟩
  · exact ⟨e, he, htarget⟩
  · exact ⟨e, he, htarget⟩

end Step

namespace Node

variable {g : Graph} {n : Node}

/-- The step of a condition node leads along its two chosen edges. -/
theorem conditionStep_drawn (g : Graph) (n : Node) :
    (n.conditionStep (g.outgoing n.id)).DrawnFrom g := by
  refine ⟨?_, ?_⟩
  · intro c hc
    have hguard : c ∈ (n.conditionStep (g.outgoing n.id)).guards := hc
    rw [guards_conditionStep] at hguard
    obtain ⟨e, he, rfl⟩ := List.mem_map.mp hguard
    exact Graph.joins_of_mem_outgoing (List.mem_of_find?_eq_some (Option.mem_toList.mp he))
  · intro t ht
    obtain ⟨e, he, rfl⟩ := Option.map_eq_some_iff.mp ht
    exact Graph.joins_of_mem_outgoing (List.mem_of_find?_eq_some he)

/-- The step of a service call leads along edges that leave its node. -/
theorem serviceStep_drawn (g : Graph) (n : Node) :
    (n.serviceStep (g.outgoing n.id)).DrawnFrom g := by
  refine ⟨?_, ?_⟩
  · intro c hc
    have hguard : c ∈ (n.serviceStep (g.outgoing n.id)).guards := hc
    rw [guards_serviceStep] at hguard
    obtain ⟨e, he, rfl⟩ := List.mem_map.mp hguard
    exact Graph.joins_of_mem_outgoing (List.mem_filter.mp he).1
  · intro t ht
    obtain ⟨e, he, rfl⟩ := Option.map_eq_some_iff.mp ht
    exact Graph.joins_of_mem_outgoing (List.mem_of_find?_eq_some he)

/-- The step of a fan-out calls ids that edges of its node lead to and goes on where they meet. -/
theorem fanOutStep_drawn (g : Graph) (n : Node) : (fanOutStep g n (g.fanOut n)).DrawnFrom g := by
  refine ⟨?_, ?_⟩
  · intro t ht
    obtain ⟨e, he, rfl⟩ := List.mem_map.mp ht
    exact Graph.joins_of_mem_outgoing (List.mem_filter.mp he).1
  · intro t ht
    obtain ⟨e, he, hsource, htarget⟩ := Graph.exists_edge_of_meetingPoint ht
    exact ⟨e.source, hsource, e, he, rfl, htarget⟩

/-- The step of a node is drawn, whichever way it is built. -/
theorem step_drawn (g : Graph) (n : Node) : (n.step g).DrawnFrom g := by
  unfold step
  split
  · exact conditionStep_drawn g n
  · split
    · exact fanOutStep_drawn g n
    · exact serviceStep_drawn g n

end Node

namespace Graph

/-- Every step of a compiled document is drawn. -/
theorem steps_drawn {g : Graph} {w : Workflow} (h : g.workflow? = some w) :
    ∀ s ∈ w.steps, s.DrawnFrom g :=
  (forall_mem_steps_iff h).mpr ⟨fun _ _ _ => trivial, fun n _ _ => n.step_drawn g⟩

end Graph

namespace Workflow

/-- Whether some step of an id refers to another id: one transition of a document. -/
def Leads (w : Workflow) (a b : String) : Prop := ∃ s ∈ w.steps, s.id = a ∧ b ∈ s.references

/-- One transition of a document of drawn steps is a path of the graph. -/
theorem Leads.reaches {w : Workflow} {g : Graph} (hd : ∀ s ∈ w.steps, s.DrawnFrom g)
    {a b : String} (h : w.Leads a b) : g.Reaches a b := by
  obtain ⟨s, hs, rfl, hb⟩ := h
  exact (hd s hs).reaches hb

/-- A run of transitions of a document of drawn steps is a path of the graph. -/
theorem reaches_of_run {w : Workflow} {g : Graph} (hd : ∀ s ∈ w.steps, s.DrawnFrom g)
    {a b : String} (h : Relation.ReflTransGen w.Leads a b) : g.Reaches a b := by
  induction h with
  | refl => exact Relation.ReflTransGen.refl
  | tail _ hstep ih => exact ih.trans (hstep.reaches hd)

end Workflow

namespace Catalog

variable {c : Catalog} {g : Graph} {w : Workflow}

/-- Classifying changes no edge, so it changes nothing in what is drawn. -/
theorem drawnFrom_classifyGraph {s : Step} :
    s.DrawnFrom (c.classifyGraph g) ↔ s.DrawnFrom g := Iff.rfl

/-- A compiled document invents no transition: each step leads along edges of the graph only, and
where a run of transitions leads, a path of the graph leads as well. -/
theorem compile_transitions (h : c.compile g = .ok w) :
    (∀ s ∈ w.steps, s.DrawnFrom g) ∧
      ∀ {a b : String}, Relation.ReflTransGen w.Leads a b → g.Reaches a b := by
  have hd : ∀ s ∈ w.steps, s.DrawnFrom g := fun s hs =>
    drawnFrom_classifyGraph.mp (Graph.steps_drawn (compile_eq_ok_iff.mp h) s hs)
  exact ⟨hd, Workflow.reaches_of_run hd⟩

/-- A service node that calls two services side by side, of which one goes on conditionally. -/
def sideBySide : Graph where
  nodes := [{ id := "e", type := "StartNode" }, { id := "s", type := "IDV" },
    { id := "a", type := "AML" }, { id := "b", type := "KYB" }, { id := "t", type := "EndNode" }]
  edges := [{ id := "1", source := "e", target := "s" }, { id := "2", source := "s", target := "a" },
    { id := "3", source := "s", target := "b" },
    { id := "4", source := "a", target := "b", conditionType := some "match" },
    { id := "5", source := "a", target := "t" }, { id := "6", source := "b", target := "t" }]

/-- The document of that graph. -/
def sideBySideDocument : Workflow where
  startStep := "e"
  steps := [.finish "t", .fanOut "s" ["a", "b"] (some "t"),
    .service "a" "aml" (some [⟨"$\x7bresult.success == true\x7d", "b"⟩]) (some "t"),
    .service "b" "kyb" none (some "t")]
  entryStep := some "e"

theorem compile_transitions_sideBySide :
    Catalog.default.compile sideBySide = .ok sideBySideDocument ∧
      (∀ s ∈ sideBySideDocument.steps, s.DrawnFrom sideBySide) ∧
      sideBySideDocument.Leads "s" "a" ∧ sideBySideDocument.Leads "a" "b" ∧
      sideBySide.Reaches "s" "b" := by
  have hw : Catalog.default.compile sideBySide = .ok sideBySideDocument := rfl
  have hsub : sideBySideDocument.Leads "s" "a" :=
    ⟨.fanOut "s" ["a", "b"] (some "t"), by decide, rfl, by decide⟩
  have hcondition : sideBySideDocument.Leads "a" "b" :=
    ⟨.service "a" "aml" (some [⟨"$\x7bresult.success == true\x7d", "b"⟩]) (some "t"), by decide,
      rfl, by decide⟩
  have h := compile_transitions hw
  exact ⟨hw, h.1, hsub, hcondition, h.2 ((Relation.ReflTransGen.single hsub).tail hcondition)⟩

end Catalog

end ServiceFlow
