import ServiceFlow.Proofs.Compile.Redrawing
import ServiceFlow.Proofs.Export.Gate

/-!
# Ids are opaque

Renaming the ids of a graph renames the ids in what becomes of it and changes nothing else, as long
as no two ids get the same name: the document, the findings on the graph, the findings on the
document and the outcome of an export. The last two ask besides that empty ids stay empty and others
do not become so, because an empty id in a document counts as none. It is not enough that no id
becomes empty: a step without an id is found out, and it is not any more once it has been given one.
-/

namespace ServiceFlow

/-- The ids that can stand in a document of a graph: those of its nodes and those its edges lead to.
-/
def Graph.ids (g : Graph) : List String := g.nodes.map (·.id) ++ g.edges.map (·.target)

/-- The ids in a compiled document are ids of the graph. -/
theorem Graph.ids_workflow_subset {g : Graph} {w : Workflow} (h : g.workflow? = some w) :
    w.ids ⊆ g.ids := by
  have hnode {n : Node} (hn : n ∈ g.nodes) : n.id ∈ g.ids :=
    List.mem_append_left _ (List.mem_map_of_mem hn)
  intro id hid
  rcases List.mem_append.mp hid with hentry | hsteps
  · obtain ⟨n, hn, rfl⟩ := workflow?_eq_some_iff.mp h
    have hnid : n.id = id := Option.some.inj (Option.mem_toList.mp hentry)
    exact hnid ▸ hnode (entryNode?_eq_some hn).1
  · obtain ⟨s, hs, hmem⟩ := List.mem_flatMap.mp hsteps
    rcases List.mem_cons.mp hmem with rfl | href
    · rcases (mem_steps_iff h).mp hs with ⟨n, hn, -, rfl⟩ | ⟨n, hn, -, rfl⟩
      · exact hnode hn
      · rw [Node.step_id]
        exact hnode hn
    · obtain ⟨e, he, rfl⟩ := (steps_drawn h s hs).exists_edge href
      exact List.mem_append_right _ (List.mem_map_of_mem he)

namespace Catalog

variable {c : Catalog} {g : Graph} {w : Workflow} {r : String → String}

/-- The ids in a document that is compiled under a catalogue are ids of the graph. -/
theorem ids_compile_subset (h : c.compile g = .ok w) : w.ids ⊆ g.ids := by
  have hids : (c.classifyGraph g).ids = g.ids := by
    rw [Graph.ids, map_id_classifyGraph, classifyGraph_edges, Graph.ids]
  exact hids ▸ Graph.ids_workflow_subset (compile_eq_ok_iff.mp h)

/-- The findings on the document of a renamed graph are those on the document of the graph, renamed.
-/
theorem documentFindings_rename (hr : Function.Injective r) (hb : KeepsBlanks r g.ids)
    (h : c.compile g = .ok w) : (w.rename r).findings = w.findings.map (Finding.rename r) :=
  Workflow.findings_rename hr (hb.mono (ids_compile_subset h))

/-- A renamed graph is exported when the graph is, to its document under the new ids. -/
theorem exportGraph_rename (hr : Function.Injective r) (hb : KeepsBlanks r g.ids) :
    (c.exportGraph (g.rename r)).toOption = (c.exportGraph g).toOption.map (Workflow.rename r) := by
  have hcompile := compile_rename hr c g
  cases h : c.compile g with
  | error f =>
      rw [h] at hcompile
      rw [exportGraph_of_compile_error h, exportGraph_of_compile_error hcompile]
      rfl
  | ok w =>
      rw [h] at hcompile
      rw [exportGraph_of_compile h, exportGraph_of_compile hcompile, findings_rename hr,
        documentFindings_rename hr hb h, List.isEmpty_map, List.isEmpty_map]
      split <;> rfl

/-- Ids are opaque to the compiler and to the findings on graphs. They are so, too, to the findings
on documents and to the export, under a renaming that keeps the ids of the graph empty or not empty,
as they are. -/
theorem outcomes_rename (c : Catalog) (g : Graph) (hr : Function.Injective r) :
    c.compile (g.rename r) = (c.compile g).map (Workflow.rename r) ∧
    c.findings (g.rename r) = (c.findings g).map (GraphFinding.rename r) ∧
    (KeepsBlanks r g.ids →
      (∀ w, c.compile g = .ok w → (w.rename r).findings = w.findings.map (Finding.rename r)) ∧
      (c.exportGraph (g.rename r)).toOption =
        (c.exportGraph g).toOption.map (Workflow.rename r)) := by
  refine ⟨compile_rename hr c g, findings_rename hr c g, fun hb => ⟨?_, ?_⟩⟩
  · intro w h
    exact documentFindings_rename hr hb h
  · exact exportGraph_rename hr hb

/-- The renaming that writes a letter in front of every id. -/
def marked (id : String) : String := "n" ++ id

theorem marked_injective : Function.Injective marked := by
  intro a b h
  exact (String.append_right_inj "n").mp h

theorem outcomes_rename_sideBySide :
    Function.Injective marked ∧ KeepsBlanks marked sideBySide.ids ∧
      Catalog.default.compile (sideBySide.rename marked) = .ok (sideBySideDocument.rename marked) ∧
      (sideBySideDocument.rename marked).findings =
        sideBySideDocument.findings.map (Finding.rename marked) ∧
      (Catalog.default.exportGraph (sideBySide.rename marked)).toOption =
        (Catalog.default.exportGraph sideBySide).toOption.map (Workflow.rename marked) := by
  have hb : KeepsBlanks marked sideBySide.ids := by decide
  have h := outcomes_rename Catalog.default sideBySide marked_injective
  exact ⟨marked_injective, hb, h.1, (h.2.2 hb).1 _ rfl, (h.2.2 hb).2⟩

/-- A service node without an id. -/
def blankStep : Graph where
  nodes := [{ id := "e", type := "StartNode" }, { id := "", type := "IDV" }]
  edges := [{ id := "1", source := "e", target := "" }]

/-- The document of that graph, whose only step has no id. -/
def blankStepDocument : Workflow :=
  { startStep := "e", steps := [.service "" "idv" none none], entryStep := some "e" }

/-- A renaming under which no id becomes empty can still change the findings on a document, and with
them whether the graph is exported: it does when it fills in an empty id. -/
theorem marked_fills_blankStep :
    Function.Injective marked ∧ (∀ id, marked id = "" → id = "") ∧
      Catalog.default.compile blankStep = .ok blankStepDocument ∧
      blankStepDocument.findings.length = 1 ∧
      (∀ w, Catalog.default.exportGraph blankStep ≠ .ok w) ∧
      Catalog.default.compile (blankStep.rename marked) = .ok (blankStepDocument.rename marked) ∧
      (blankStepDocument.rename marked).findings.length = 0 ∧
      Catalog.default.exportGraph (blankStep.rename marked) =
        .ok (blankStepDocument.rename marked) := by
  refine ⟨marked_injective, ?_, rfl, rfl, ?_, rfl, rfl, rfl⟩
  · intro id h
    simp [marked] at h
  · intro w h
    have hfault : (Catalog.default.exportGraph blankStep).toOption = none := rfl
    rw [h] at hfault
    exact absurd hfault (Option.some_ne_none w)

end Catalog

end ServiceFlow
