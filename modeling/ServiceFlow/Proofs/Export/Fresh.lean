import ServiceFlow.Proofs.Export.Gate

/-!
# Graphs of freshly drawn edges

A freshly drawn edge has a condition type, whichever node it leaves, and so it is never one that is
followed unconditionally. Where all edges are as they were drawn, the steps of plain nodes therefore
have nowhere to go when none of their conditions holds, and such a graph is exported only when no
edge leaves a plain node.
-/

namespace ServiceFlow

namespace Connection

/-- A freshly drawn connection is a plain one, or one that is named after a mode. -/
theorem fresh_eq_plain_or_ofMode (source : Option Node) :
    fresh source = plain ∨ ∃ mode, fresh source = ofMode mode := by
  cases source with
  | none => exact .inl rfl
  | some n =>
      simp only [fresh]
      split
      · cases n.mode with
        | none => exact .inl rfl
        | some mode => exact .inr ⟨mode, rfl⟩
      · exact .inl rfl

/-- A freshly drawn connection is never one that is followed unconditionally. -/
theorem isConditional_fresh (source : Option Node) :
    (fresh source).conditionType ≠ "" ∧ (fresh source).conditionType ≠ "always" := by
  obtain h | ⟨mode, h⟩ := fresh_eq_plain_or_ofMode source
  · rw [h]
    decide
  · rw [h]
    cases mode <;> decide

end Connection

namespace Graph

/-- The graph with one more edge as it is freshly drawn. -/
def connect (g : Graph) (id source target : String) (handle : Option String) : Graph :=
  { g with edges := g.edges ++ [Edge.connect g id source target handle] }

/-- Whether every edge has the condition type that some freshly drawn edge has. -/
def FreshlyDrawn (g : Graph) : Prop :=
  ∀ e ∈ g.edges, ∃ source, e.conditionType = some (Connection.fresh source).conditionType

variable {g : Graph} {n : Node}

/-- Drawing edges keeps a graph freshly drawn. -/
theorem FreshlyDrawn.connect (h : g.FreshlyDrawn) (id source target : String)
    (handle : Option String) : (g.connect id source target handle).FreshlyDrawn := by
  refine List.forall_mem_append.mpr ⟨h, ?_⟩
  simp only [List.forall_mem_singleton]
  exact ⟨_, rfl⟩

/-- No freshly drawn edge is followed unconditionally. -/
theorem FreshlyDrawn.isDefault_eq_false (h : g.FreshlyDrawn) :
    ∀ e ∈ g.edges, e.isDefault = false := by
  intro e he
  obtain ⟨source, htype⟩ := h e he
  obtain ⟨hempty, halways⟩ := Connection.isConditional_fresh source
  simp [Edge.isDefault, htype, hempty, halways]

/-- Without an unconditional edge the step of a plain node goes nowhere. -/
theorem IsPlain.next?_eq_none (hn : g.IsPlain n) (h : ∀ e ∈ g.edges, e.isDefault = false) :
    (n.step g).next? = none := by
  have hnone : (g.outgoing n.id).find? (·.isDefault) = none := by
    simp only [List.find?_eq_none, mem_outgoing, Bool.not_eq_true]
    exact fun e he => h e he.1
  rw [Node.step_of_isPlain hn, Node.serviceStep, Step.next?, hnone, Option.map_none]

/-- Without an unconditional edge a graph is exported only when no edge leaves a plain node. -/
theorem Exportable.outgoing_eq_nil {single : List String} (hg : g.Exportable single)
    (hn : n ∈ g.nodes) (hp : g.IsPlain n) (h : ∀ e ∈ g.edges, e.isDefault = false) :
    g.outgoing n.id = [] := by
  refine List.eq_nil_iff_forall_not_mem.mpr fun e he => ?_
  -- an edge would be conditional and call for an unconditional one beside it
  obtain ⟨d, hd, -⟩ := hg.plainFallback n hn hp ⟨e, he, h e (mem_outgoing.mp he).1⟩
  have hdefault := List.find?_some hd
  rw [h d (mem_outgoing.mp (List.mem_of_find?_eq_some hd)).1] at hdefault
  cases hdefault

end Graph

namespace Catalog

variable {c : Catalog} {g : Graph}

/-- Freshly drawn edges alone never let a plain step go on. None of them is followed
unconditionally, so behind the end steps of the compiled document, which call no service, a service
step of a node that is no condition node goes nowhere; and if the graph is exported no edge leaves a
service or branch node that is no condition node and does not call services side by side. -/
theorem compile_freshlyDrawn (c : Catalog) (h : g.FreshlyDrawn) :
    (∀ e ∈ g.edges, e.isDefault = false) ∧
    (∀ w, c.compile g = .ok w →
      (∃ ends, w.steps = ends ++ ((c.classifyGraph g).nodes.filter (·.isWorking)).map
          (Node.step (c.classifyGraph g)) ∧ ∀ s ∈ ends, s.service? = none) ∧
      ∀ n ∈ (c.classifyGraph g).nodes, n.isWorking = true → n.isCondition = false →
        ∀ id name conditions next,
          n.step (c.classifyGraph g) = .service id name conditions next → next = none) ∧
    ∀ w, c.exportGraph g = .ok w →
      ∀ n ∈ (c.classifyGraph g).nodes, n.isWorking = true → n.isCondition = false →
        (∀ id subSteps next, n.step (c.classifyGraph g) ≠ .fanOut id subSteps next) →
          g.outgoing n.id = [] := by
  have hg := c.classifyGraph_classified g
  have hfresh : ∀ e ∈ (c.classifyGraph g).edges, e.isDefault = false := h.isDefault_eq_false
  refine ⟨h.isDefault_eq_false, fun w hw => ⟨?_, ?_⟩, fun w hw => ?_⟩
  · obtain ⟨entry, -, rfl⟩ := Graph.workflow?_eq_some_iff.mp (compile_eq_ok_iff.mp hw)
    refine ⟨(c.classifyGraph g).endSteps, rfl, fun s hs => ?_⟩
    obtain ⟨n, -, rfl⟩ := List.mem_map.mp hs
    rfl
  · intro n hn hworking hcondition id name conditions next hstep
    have hplain : (c.classifyGraph g).IsPlain n :=
      hg.isPlain_of_not_fansOut hn hworking hcondition fun hf => by
        cases (Node.step_of_fansOut hf).symm.trans hstep
    have hnext := hplain.next?_eq_none hfresh
    rwa [hstep] at hnext
  · intro n hn hworking hcondition hstep
    have hplain : (c.classifyGraph g).IsPlain n :=
      hg.isPlain_of_not_fansOut hn hworking hcondition fun hf =>
        hstep _ _ _ (Node.step_of_fansOut hf)
    exact ((c.exportGraph_isOk_iff g).mp ⟨w, hw⟩).outgoing_eq_nil hn hplain hfresh

/-- Two services side by side and a condition node, all behind one service. -/
def drawnNodes : List Node :=
  [{ id := "e", type := "StartNode" }, { id := "f", type := "IDV" }, { id := "a", type := "AML" },
    { id := "b", type := "PII" }, { id := "c", type := "Condition" },
    { id := "t", type := "EndNode" }]

/-- The graph in which these nodes are connected. -/
def drawn : Graph :=
  ((((((Graph.mk drawnNodes []).connect "1" "e" "f" none).connect "2" "f" "a" none).connect "3" "f"
    "b" none).connect "4" "f" "c" none).connect "5" "c" "t" (some "match")).connect "6" "c" "t"
      (some "notMatch")

theorem compile_freshlyDrawn_connected :
    drawn.FreshlyDrawn ∧ (∃ w, Catalog.default.exportGraph drawn = .ok w) ∧
      drawn.outgoing "a" = [] ∧ drawn.outgoing "f" ≠ [] := by
  have hnil : (Graph.mk drawnNodes []).FreshlyDrawn := by simp [Graph.FreshlyDrawn]
  have hdrawn : drawn.FreshlyDrawn :=
    (((((hnil.connect _ _ _ _).connect _ _ _ _).connect _ _ _ _).connect _ _ _ _).connect
      _ _ _ _).connect _ _ _ _
  have hexport : ∃ w, Catalog.default.exportGraph drawn = .ok w := ⟨_, rfl⟩
  obtain ⟨w, hw⟩ := hexport
  obtain ⟨-, -, hplain⟩ := compile_freshlyDrawn Catalog.default hdrawn
  have ha : Catalog.default.classify { id := "a", type := "AML" } ∈
      (Catalog.default.classifyGraph drawn).nodes := by decide
  refine ⟨hdrawn, ⟨w, hw⟩, hplain w hw _ ha rfl rfl fun _ _ _ hstep => ?_, by decide⟩
  cases hstep

end Catalog

end ServiceFlow
