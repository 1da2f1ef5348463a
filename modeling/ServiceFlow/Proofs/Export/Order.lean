import ServiceFlow.Proofs.Compile.Order
import ServiceFlow.Proofs.Compile.Transitions
import ServiceFlow.Proofs.Export.Gate
import ServiceFlow.Proofs.Workflow.Order

/-!
# Drawing order and exports

What becomes of a graph depends on the drawing order in two ways only. Of the edges, the order of
those that leave one id counts, and edges of different sources can be drawn in any order: they
change nothing but the order in which dangling ends are listed. Of the nodes, the order is
presentation when their ids are distinct and there is one entry node: steps and findings move along
with the nodes.
-/

namespace ServiceFlow

/-- Two outcomes of an export that agree up to the order of the findings on edges. -/
inductive ExportsAlike : Except Fault Workflow → Except Fault Workflow → Prop
  | same (outcome : Except Fault Workflow) : ExportsAlike outcome outcome
  | blocked {fs fs' : List GraphFinding} (h : EdgesRearranged fs fs') (ds : List Finding) :
      ExportsAlike (.error (.blocked fs ds)) (.error (.blocked fs' ds))

namespace Catalog

variable {c : Catalog} {g g' : Graph}

/-- Graphs with the same nodes and the same edges out of every id compile alike. -/
theorem compile_of_outgoing_eq (hn : g.nodes = g'.nodes)
    (ho : ∀ id, g.outgoing id = g'.outgoing id) : c.compile g = c.compile g' := by
  have hw := Graph.workflow?_of_outgoing_eq (c.nodes_classifyGraph_congr hn) ho
  rw [compile, compile, compile?, compile?, hw]

/-- Rearranged edges rearrange the findings on edges under every catalogue. -/
theorem findings_of_edges_perm (hn : g.nodes = g'.nodes) (hp : g.edges.Perm g'.edges) :
    EdgesRearranged (c.findings g) (c.findings g') :=
  Graph.findings_of_edges_perm (c.nodes_classifyGraph_congr hn) hp

/-- Only the order of the edges that leave one id matters. Graphs with the same nodes and the same
edges out of every id, whose edges are therefore the same in some order, compile to the same
document or both not at all, have the same findings up to the order of those on edges, and are
exported with the same outcome up to that order. -/
theorem outcomes_of_outgoing_eq (c : Catalog) (hn : g.nodes = g'.nodes)
    (ho : ∀ id, g.outgoing id = g'.outgoing id) :
    c.compile g = c.compile g' ∧ EdgesRearranged (c.findings g) (c.findings g') ∧
      ExportsAlike (c.exportGraph g) (c.exportGraph g') := by
  have hcompile : c.compile g = c.compile g' := compile_of_outgoing_eq hn ho
  have hfindings : EdgesRearranged (c.findings g) (c.findings g') :=
    findings_of_edges_perm hn (Graph.edges_perm_of_outgoing_eq ho)
  refine ⟨hcompile, hfindings, ?_⟩
  cases h : c.compile g with
  | error f =>
      rw [exportGraph_of_compile_error h, exportGraph_of_compile_error (hcompile ▸ h)]
      exact .same _
  | ok w =>
      rw [exportGraph_of_compile h, exportGraph_of_compile (hcompile ▸ h),
        hfindings.perm.isEmpty_eq]
      split
      · exact .same _
      · exact .blocked hfindings _

/-- A graph with two services side by side and two edges out of ids that no node has. -/
def looseEnds : Graph where
  nodes := sideBySide.nodes
  edges := sideBySide.edges ++ [{ id := "7", source := "p", target := "t" },
    { id := "8", source := "q", target := "t" }]

/-- The same graph with edges of different sources drawn in another order. -/
def looseEndsInterleaved : Graph where
  nodes := sideBySide.nodes
  edges := [{ id := "8", source := "q", target := "t" }, { id := "6", source := "b", target := "t" },
    { id := "4", source := "a", target := "b", conditionType := some "match" },
    { id := "2", source := "s", target := "a" }, { id := "7", source := "p", target := "t" },
    { id := "5", source := "a", target := "t" }, { id := "3", source := "s", target := "b" },
    { id := "1", source := "e", target := "s" }]

theorem outcomes_of_outgoing_eq_looseEnds :
    (∀ id, looseEnds.outgoing id = looseEndsInterleaved.outgoing id) ∧
      Catalog.default.findings looseEnds = [.unknownEnd "7" "p", .unknownEnd "8" "q"] ∧
      Catalog.default.findings looseEndsInterleaved =
        [.unknownEnd "8" "q", .unknownEnd "7" "p"] ∧
      Catalog.default.compile looseEnds = Catalog.default.compile looseEndsInterleaved ∧
      EdgesRearranged (Catalog.default.findings looseEnds)
        (Catalog.default.findings looseEndsInterleaved) ∧
      ExportsAlike (Catalog.default.exportGraph looseEnds)
        (Catalog.default.exportGraph looseEndsInterleaved) := by
  have ho (id : String) : looseEnds.outgoing id = looseEndsInterleaved.outgoing id := by
    by_cases hid : id ∈ ["e", "s", "a", "b", "p", "q"]
    · have hall : ∀ id ∈ ["e", "s", "a", "b", "p", "q"],
          looseEnds.outgoing id = looseEndsInterleaved.outgoing id := by decide
      exact hall id hid
    · have hnone (g : Graph) (hg : ∀ e ∈ g.edges, e.source ∈ ["e", "s", "a", "b", "p", "q"]) :
          g.outgoing id = [] := by
        refine List.filter_eq_nil_iff.mpr fun e he hs => hid ?_
        exact beq_iff_eq.mp hs ▸ hg e he
      rw [hnone looseEnds (by decide), hnone looseEndsInterleaved (by decide)]
  exact ⟨ho, rfl, rfl, outcomes_of_outgoing_eq Catalog.default rfl ho⟩

/-- Another order of the nodes moves the steps along with them: when ids are distinct and one node
is an entry, both graphs compile, to documents of the same start whose steps are the same in some
order. -/
theorem compile_of_nodes_perm (hp : g.nodes.Perm g'.nodes) (he : g.edges = g'.edges)
    (hd : (g.nodes.map (·.id)).Nodup) (h1 : (c.classifyGraph g).entries.length = 1) :
    ∃ w w', c.compile g = .ok w ∧ c.compile g' = .ok w' ∧ w.startStep = w'.startStep ∧
      w.entryStep = w'.entryStep ∧ w.steps.Perm w'.steps := by
  simp only [compile_eq_ok_iff]
  exact Graph.workflow?_of_nodes_perm (hp.map c.classify) he
    (c.map_id_classifyGraph g ▸ hd) h1

/-- The order of the nodes is presentation. Graphs with the same edges and the same nodes in some
order, of distinct ids and with one entry node, compile to documents of the same start and entry
with the same steps in some order, every node having the same step in both; the findings on the
graphs are the same in some order, so are the findings on the documents, and one graph is exported
exactly when the other is. -/
theorem outcomes_of_nodes_perm (c : Catalog) (hp : g.nodes.Perm g'.nodes) (he : g.edges = g'.edges)
    (hd : (g.nodes.map (·.id)).Nodup) (h1 : (c.classifyGraph g).entries.length = 1) :
    ∃ w w', c.compile g = .ok w ∧ c.compile g' = .ok w' ∧
      w.startStep = w'.startStep ∧ w.entryStep = w'.entryStep ∧ w.steps.Perm w'.steps ∧
      (∀ n : Node, n.step (c.classifyGraph g) = n.step (c.classifyGraph g')) ∧
      (c.findings g).Perm (c.findings g') ∧ w.findings.Perm w'.findings ∧
      ((∃ v, c.exportGraph g = .ok v) ↔ ∃ v, c.exportGraph g' = .ok v) := by
  have hclassified : (c.classifyGraph g).nodes.Perm (c.classifyGraph g').nodes := hp.map c.classify
  have hfindings : (c.findings g).Perm (c.findings g') :=
    Graph.findings_of_nodes_perm hclassified he
  obtain ⟨w, w', hw, hw', hstart, hentry, hsteps⟩ := compile_of_nodes_perm hp he hd h1
  have hdocument : w.findings.Perm w'.findings :=
    Workflow.findings_of_steps_perm hstart hentry hsteps
  refine ⟨w, w', hw, hw', hstart, hentry, hsteps, ?_, hfindings, hdocument, ?_⟩
  · exact Graph.step_of_nodes_perm hclassified he (c.map_id_classifyGraph g ▸ hd)
  · rw [exportGraph_of_compile hw, exportGraph_of_compile hw', hfindings.isEmpty_eq,
      hdocument.isEmpty_eq]
    split
    · simp
    · simp

/-- The graph with two services side by side and its nodes drawn in reverse. -/
def sideBySideReversed : Graph where
  nodes := sideBySide.nodes.reverse
  edges := sideBySide.edges

theorem outcomes_of_nodes_perm_sideBySide :
    sideBySide.nodes.Perm sideBySideReversed.nodes ∧
      (sideBySide.nodes.map (·.id)).Nodup ∧
      (Catalog.default.classifyGraph sideBySide).entries.length = 1 ∧
      ∃ w w', Catalog.default.compile sideBySide = .ok w ∧
        Catalog.default.compile sideBySideReversed = .ok w' ∧ w ≠ w' ∧ w.steps.Perm w'.steps ∧
        w.findings.Perm w'.findings := by
  have hp : sideBySide.nodes.Perm sideBySideReversed.nodes :=
    (List.reverse_perm sideBySide.nodes).symm
  have hd : (sideBySide.nodes.map (·.id)).Nodup := by decide
  have h1 : (Catalog.default.classifyGraph sideBySide).entries.length = 1 := by decide
  obtain ⟨w, w', hw, hw', -, -, hsteps, -, -, hfindings, -⟩ :=
    outcomes_of_nodes_perm Catalog.default hp rfl hd h1
  refine ⟨hp, hd, h1, w, w', hw, hw', ?_, hsteps, hfindings⟩
  have hne : Catalog.default.compile sideBySide ≠ Catalog.default.compile sideBySideReversed := by
    intro h
    have hsteps := congrArg (fun x => x.toOption.map Workflow.steps) h
    exact absurd hsteps (by decide)
  rintro rfl
  exact hne (hw.trans hw'.symm)

end Catalog

end ServiceFlow
