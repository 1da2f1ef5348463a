import ServiceFlow.Proofs.Export.Gate

/-!
# Guards of exported documents

An edge with a condition becomes a condition of the step of the node it leaves, unless that node
calls services side by side: such a step has no conditions, so what is left of the edge is its
target among the sub-steps, if that is a service node at all. Which of the two happens depends on
the kinds of the targets alone and not on the conditions.
-/

namespace ServiceFlow

namespace Graph

variable {g : Graph} {n : Node} {e : Edge}

/-- The step of a plain node has a condition for each conditional edge that leaves the node. -/
theorem IsPlain.condition_mem_guards (hp : g.IsPlain n) (he : e ∈ g.edges)
    (hs : e.source = n.id) (hd : e.isDefault = false) :
    ⟨e.expression, e.target⟩ ∈ (n.step g).guards := by
  rw [Node.step_of_isPlain hp, Node.guards_serviceStep, Node.conditions]
  refine List.mem_map.mpr ⟨e, List.mem_filter.mpr ⟨?_, ?_⟩, rfl⟩
  · exact mem_outgoing.mpr ⟨he, hs⟩
  · simp [hd]

/-- The step of a plain node goes on only where a default edge leads that leaves the node. -/
theorem IsPlain.exists_default_edge (hp : g.IsPlain n) {t : String}
    (ht : (n.step g).next? = some t) :
    ∃ d ∈ g.edges, d.source = n.id ∧ d.isDefault = true ∧ d.target = t := by
  rw [Node.step_of_isPlain hp] at ht
  obtain ⟨d, hd, rfl⟩ := Option.map_eq_some_iff.mp ht
  obtain ⟨hmem, hsource⟩ := mem_outgoing.mp (List.mem_of_find?_eq_some hd)
  exact ⟨d, hmem, hsource, List.find?_some hd, rfl⟩

/-- The step of a node that fans out has no conditions. -/
theorem FansOut.guards_eq_nil (hf : g.FansOut n) : (n.step g).guards = [] := by
  rw [Node.step_of_fansOut hf]
  rfl

/-- An edge of a node that fans out leads to a sub-step when it leads to a service node. -/
theorem FansOut.target_mem_subSteps_iff (hf : g.FansOut n) (he : e ∈ g.edges)
    (hs : e.source = n.id) :
    e.target ∈ (n.step g).subSteps ↔ g.isService e.target = true := by
  rw [Node.step_of_fansOut hf]
  constructor
  · intro h
    obtain ⟨d, hd, htarget⟩ := List.mem_map.mp h
    rw [← htarget]
    exact (mem_fanOut.mp hd).2.2
  · intro h
    exact List.mem_map.mpr ⟨e, mem_fanOut.mpr ⟨he, hs, h⟩, rfl⟩

end Graph

namespace Catalog

variable {c : Catalog} {g : Graph} {w : Workflow}

/-- A conditional edge that leaves a service or branch node, not a condition node, is a condition of
the step of that node unless the node fans out, and the step goes on only along default edges. The
step of a node that fans out has no conditions: of the edge it keeps the target if that is a
service node, and else nothing. -/
theorem exportGraph_guards (h : c.exportGraph g = .ok w) {n : Node} {e : Edge}
    (hn : n ∈ (c.classifyGraph g).nodes)
    (hk : n.kind = some .service ∨ n.kind = some .branch) (hc : n.isCondition = false)
    (he : e ∈ g.edges) (hs : e.source = n.id) (hd : e.isDefault = false) :
    n.step (c.classifyGraph g) ∈ w.steps ∧ (n.step (c.classifyGraph g)).id = e.source ∧
    (¬ (c.classifyGraph g).FansOut n →
      ⟨e.expression, e.target⟩ ∈ (n.step (c.classifyGraph g)).guards ∧
      ∀ t, (n.step (c.classifyGraph g)).next? = some t →
        ∃ d ∈ g.edges, d.source = e.source ∧ d.isDefault = true ∧ d.target = t) ∧
    ((c.classifyGraph g).FansOut n →
      (n.step (c.classifyGraph g)).guards = [] ∧
      (e.target ∈ (n.step (c.classifyGraph g)).subSteps ↔
        (c.classifyGraph g).isService e.target = true)) := by
  obtain ⟨hw, -, -⟩ := exportGraph_eq_ok_iff.mp h
  have hworking : n.isWorking = true := by
    rcases hk with hk | hk <;> simp [Node.isWorking, hk]
  refine ⟨?_, ?_, ?_, ?_⟩
  · exact (Graph.mem_steps_iff hw).mpr (Or.inr ⟨n, hn, hworking, rfl⟩)
  · rw [Node.step_id, hs]
  · intro hf
    have hp := (c.classifyGraph_classified g).isPlain_of_not_fansOut hn hworking hc hf
    refine ⟨hp.condition_mem_guards he hs hd, ?_⟩
    rw [hs]
    intro t ht
    exact hp.exists_default_edge ht
  · intro hf
    exact ⟨hf.guards_eq_nil, hf.target_mem_subSteps_iff he hs⟩

/-- A service node with conditional edges to two services, one of which has a conditional edge to
the other. -/
def guardedServices : Graph where
  nodes := [{ id := "e", type := "StartNode" }, { id := "s", type := "IDV" },
    { id := "a", type := "AML" }, { id := "b", type := "KYB" }, { id := "t", type := "EndNode" }]
  edges := [{ id := "1", source := "e", target := "s" },
    { id := "2", source := "s", target := "a", conditionType := some "match" },
    { id := "3", source := "s", target := "b", conditionType := some "nomatch" },
    { id := "4", source := "s", target := "t", conditionType := some "always" },
    { id := "5", source := "a", target := "b", conditionType := some "match" },
    { id := "6", source := "a", target := "t" }, { id := "7", source := "b", target := "t" }]

/-- The document of that graph, in which the first of these nodes calls the two services side by
side. -/
def guardedServicesDocument : Workflow where
  startStep := "e"
  steps := [.finish "t", .fanOut "s" ["a", "b"] (some "t"),
    .service "a" "aml" (some [⟨"$\x7bresult.success == true\x7d", "b"⟩]) (some "t"),
    .service "b" "kyb" none (some "t")]
  entryStep := some "e"

/-- The plain one of the two services, as it is classified. -/
def guardedNode : Node := { id := "a", type := "AML", kind := some .service }

/-- The conditional edge of that service. -/
def guardedEdge : Edge := { id := "5", source := "a", target := "b", conditionType := some "match" }

theorem exportGraph_guards_guardedNode :
    Catalog.default.exportGraph guardedServices = .ok guardedServicesDocument ∧
      guardedNode ∈ (Catalog.default.classifyGraph guardedServices).nodes ∧
      guardedEdge ∈ guardedServices.edges ∧ guardedEdge.isDefault = false ∧
      ¬ (Catalog.default.classifyGraph guardedServices).FansOut guardedNode ∧
      ⟨guardedEdge.expression, guardedEdge.target⟩ ∈
        (guardedNode.step (Catalog.default.classifyGraph guardedServices)).guards := by
  refine ⟨rfl, by decide, by decide, by decide, by decide, ?_⟩
  have h := exportGraph_guards (c := Catalog.default) (g := guardedServices)
    (w := guardedServicesDocument) (n := guardedNode) (e := guardedEdge) rfl (by decide)
    (Or.inl rfl) (by decide) (by decide) rfl (by decide)
  exact (h.2.2.1 (by decide)).1

/-- A conditional edge between services can leave no condition in an exported document. -/
theorem exportGraph_guardedServices_loses_guard :
    Catalog.default.exportGraph guardedServices = .ok guardedServicesDocument ∧
      ∃ n ∈ (Catalog.default.classifyGraph guardedServices).nodes,
        n.kind = some .service ∧ n.isCondition = false ∧
        ∃ e ∈ guardedServices.edges, e.source = n.id ∧ e.isDefault = false ∧
          ∀ s ∈ guardedServicesDocument.steps, s.id = e.source →
            ⟨e.expression, e.target⟩ ∉ s.guards :=
  ⟨rfl, by decide⟩

end Catalog

end ServiceFlow
