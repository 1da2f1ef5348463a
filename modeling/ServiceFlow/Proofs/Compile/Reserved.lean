import ServiceFlow.Proofs.Compile.Steps
import ServiceFlow.Proofs.Text.Casing

/-!
# The reserved service name

The engine reserves a service name for condition nodes. A node of any other type calls the service
of its type in lower case, and nothing keeps that from being the reserved name: it is for a type
that spells the name in other capital and small letters, and for the type of condition nodes itself
when a catalogue makes services of them. These are all such types, since no letter outside the Latin
ones lowers to a letter of the name.
-/

namespace ServiceFlow

namespace Node

/-- A type gives the reserved name exactly when it spells it, in capital or small letters. -/
theorem serviceName_eq_conditionService_iff {n : Node} :
    n.serviceName = conditionService ↔ n.type.toLower = conditionService := by
  have hplain : (conditionService.toList.all Text.isPlainLetter) = true := by decide
  exact Text.lower_eq_iff (List.all_eq_true.mp hplain)

variable {g : Graph} {n : Node}

/-- The step of a working node calls the reserved service when the node is a condition node, or is
a plain node whose type spells the name. -/
theorem service?_step_eq_conditionService_iff (hg : g.Classified) (hn : n ∈ g.nodes)
    (hw : n.isWorking = true) : (n.step g).service? = some conditionService ↔
      n.isCondition = true ∨ (g.IsPlain n ∧ n.type.toLower = conditionService) := by
  rcases hg.shape hn hw with hc | hf | hp
  · rw [step_of_isCondition hc]
    exact iff_of_true rfl (.inl hc)
  · have hno : ¬ (n.isCondition = true ∨ (g.IsPlain n ∧ n.type.toLower = conditionService)) := by
      rintro (hc | ⟨hp, -⟩)
      · exact hf.not_isCondition hc
      · exact hp.not_fansOut hf
    rw [step_of_fansOut hf]
    exact iff_of_false (Option.some_ne_none _).symm hno
  · rw [step_of_isPlain hp, or_iff_right hp.not_isCondition, and_iff_right hp,
      ← serviceName_eq_conditionService_iff]
    exact Option.some_inj

end Node

namespace Catalog

variable {c : Catalog} {g : Graph} {w : Workflow}

/-- Which steps call the reserved service. Behind the end steps, which call none, a document has the
steps of the service and branch nodes, and such a step calls the reserved service exactly when its
node is a condition node, or calls one service and is of a type that spells the name in capital or
small letters. So the name is kept for condition nodes exactly in graphs without a node of the
second sort. -/
theorem compile_reservedService (h : c.compile g = .ok w) :
    (∃ ends, w.steps = ends ++ ((c.classifyGraph g).nodes.filter (·.isWorking)).map
        (Node.step (c.classifyGraph g)) ∧ ∀ s ∈ ends, s.service? = none) ∧
    (∀ n ∈ (c.classifyGraph g).nodes, n.isWorking = true →
      ((n.step (c.classifyGraph g)).service? = some Node.conditionService ↔ n.isCondition = true ∨
        ((c.classifyGraph g).IsPlain n ∧ n.type.toLower = Node.conditionService))) ∧
    ((∀ n ∈ (c.classifyGraph g).nodes, n.isWorking = true →
        (n.step (c.classifyGraph g)).service? = some Node.conditionService →
          n.isCondition = true) ↔
      ∀ n ∈ (c.classifyGraph g).nodes, (c.classifyGraph g).IsPlain n →
        n.type.toLower ≠ Node.conditionService) := by
  have hg := c.classifyGraph_classified g
  obtain ⟨entry, -, rfl⟩ := Graph.workflow?_eq_some_iff.mp (compile_eq_ok_iff.mp h)
  refine ⟨⟨(c.classifyGraph g).endSteps, rfl, ?_⟩, ?_, ?_⟩
  · intro s hs
    obtain ⟨n, -, rfl⟩ := List.mem_map.mp hs
    rfl
  · exact fun n hn hw => Node.service?_step_eq_conditionService_iff hg hn hw
  · constructor
    · intro hkept n hn hp htype
      have hw := hg.isWorking_of_isPlain hn hp
      refine hp.not_isCondition (hkept n hn hw ?_)
      exact (Node.service?_step_eq_conditionService_iff hg hn hw).mpr (.inr ⟨hp, htype⟩)
    · intro hnone n hn hw hservice
      rcases (Node.service?_step_eq_conditionService_iff hg hn hw).mp hservice with hc | ⟨hp, ht⟩
      · exact hc
      · exact absurd ht (hnone n hn hp)

/-- A condition node behind a node whose type spells the reserved name but which calls two services
side by side. -/
def capitalFanOut : Graph where
  nodes := [{ id := "e", type := "StartNode" }, { id := "f", type := "CONDITION" },
    { id := "a", type := "IDV" }, { id := "b", type := "AML" }, { id := "c", type := "Condition" }]
  edges := [{ id := "1", source := "e", target := "f" }, { id := "2", source := "f", target := "a" },
    { id := "3", source := "f", target := "b" }, { id := "4", source := "a", target := "c" }]

/-- The document of that graph. -/
def capitalFanOutDocument : Workflow where
  startStep := "e"
  steps := [.fanOut "f" ["a", "b"] (some "c"), .service "a" "idv" none (some "c"),
    .service "b" "aml" none none, .service "c" "condition" (some []) none]
  entryStep := some "e"

theorem compile_reservedService_capitalFanOut :
    Catalog.default.compile capitalFanOut = .ok capitalFanOutDocument ∧
      ∀ n ∈ (Catalog.default.classifyGraph capitalFanOut).nodes, n.isWorking = true →
        (n.step (Catalog.default.classifyGraph capitalFanOut)).service? =
          some Node.conditionService → n.isCondition = true := by
  have hw : Catalog.default.compile capitalFanOut = .ok capitalFanOutDocument := rfl
  refine ⟨hw, (compile_reservedService hw).2.2.mpr ?_⟩
  simp only [ne_eq, ← Node.serviceName_eq_conditionService_iff]
  decide

/-- A node of an unknown type that is the reserved name. -/
def spelledCondition : Graph where
  nodes := [{ id := "e", type := "StartNode" }, { id := "s", type := "condition" },
    { id := "t", type := "EndNode" }]
  edges := [{ id := "1", source := "e", target := "s" }, { id := "2", source := "s", target := "t" }]

/-- The document of that graph. -/
def spelledConditionDocument : Workflow where
  startStep := "e"
  steps := [.finish "t", .service "s" "condition" none (some "t")]
  entryStep := some "e"

/-- A document can call the reserved service though the graph has no condition node. -/
theorem spelledCondition_not_reserved :
    Catalog.default.compile spelledCondition = .ok spelledConditionDocument ∧
      .service "s" Node.conditionService none (some "t") ∈ spelledConditionDocument.steps ∧
      ∀ n ∈ (Catalog.default.classifyGraph spelledCondition).nodes, n.isCondition = false :=
  ⟨rfl, by decide, by decide⟩

end Catalog

end ServiceFlow
