import Mathlib.Data.List.Forall2
import ServiceFlow.Proofs.Compile.Order
import ServiceFlow.Proofs.Compile.Transitions

/-!
# Edits are local

Redrawing the edges that leave one id changes the steps of that id. Beyond them it reaches the steps
that call the services of that id side by side with others, and of these only the place where the
services meet: which shape a step has and which ids stand in it is read off the edges that leave its
own node and off the kinds of their targets, which are not redrawn. All other steps stay as they
are, and every step stays in its place.
-/

namespace ServiceFlow

/-- Whether one step may take the place of another when the edges that leave an id are redrawn. -/
inductive Step.Edited (x : String) : Step → Step → Prop
  /-- A step that stays as it is. -/
  | same (s : Step) : Edited x s s
  /-- A step of that id. -/
  | own {s s' : Step} (h : s.id = x) (h' : s'.id = x) : Edited x s s'
  /-- A step that calls the same services, that id among them, and goes on elsewhere. -/
  | meeting {id : String} {subs : List String} {next next' : Option String} (h : x ∈ subs) :
      Edited x (.fanOut id subs next) (.fanOut id subs next')

section Edits

variable {x : String} {g g' : Graph} {n : Node}

namespace Node

/-- Where a node calls services side by side, the edges that leave the services decide nothing but
where these meet. -/
theorem step_edited_of_mem_fanOut (hf : g.fanOut n = g'.fanOut n)
    (ho : g.outgoing n.id = g'.outgoing n.id) {e : Edge} (he : e ∈ g.fanOut n) :
    Step.Edited e.target (n.step g) (n.step g') := by
  unfold step
  rw [← hf, ← ho]
  split
  · exact .same _
  · split
    · rw [fanOutStep, fanOutStep]
      exact .meeting (List.mem_map_of_mem he)
    · exact .same _

/-- Redrawing the edges that leave one id edits the step of every node. -/
theorem step_edited (hs : ∀ id, g.isService id = g'.isService id)
    (ho : ∀ y, y ≠ x → g.outgoing y = g'.outgoing y) (n : Node) :
    Step.Edited x (n.step g) (n.step g') := by
  by_cases hn : n.id = x
  · exact .own (by rw [step_id, hn]) (by rw [step_id, hn])
  · have hf : g.fanOut n = g'.fanOut n := by simp only [Graph.fanOut, ho n.id hn, hs]
    by_cases hx : ∃ e ∈ g.fanOut n, e.target = x
    · obtain ⟨e, he, rfl⟩ := hx
      exact step_edited_of_mem_fanOut hf (ho n.id hn) he
    · have hstep : n.step g = n.step g' :=
        step_congr hs (ho n.id hn) fun e he => ho e.target fun htarget => hx ⟨e, he, htarget⟩
      exact hstep ▸ .same _

end Node

namespace Graph

/-- Redrawing the edges that leave one id edits each working step in its place. -/
theorem workingSteps_edited (hn : g.nodes = g'.nodes)
    (ho : ∀ y, y ≠ x → g.outgoing y = g'.outgoing y) :
    List.Forall₂ (Step.Edited x) g.workingSteps g'.workingSteps := by
  rw [workingSteps, workingSteps, hn]
  refine List.forall₂_map_left_iff.mpr (List.forall₂_map_right_iff.mpr ?_)
  exact List.forall₂_same.mpr fun n _ => Node.step_edited (isService_congr hn) ho n

/-- Redrawing the edges that leave one id keeps where a document starts and edits each step in its
place. -/
theorem workflow?_edited (hn : g.nodes = g'.nodes)
    (ho : ∀ y, y ≠ x → g.outgoing y = g'.outgoing y) :
    (g.workflow? = none ∧ g'.workflow? = none) ∨
      ∃ w w', g.workflow? = some w ∧ g'.workflow? = some w' ∧ w.startStep = w'.startStep ∧
        w.entryStep = w'.entryStep ∧ List.Forall₂ (Step.Edited x) w.steps w'.steps := by
  have hentry : g.entryNode? = g'.entryNode? := by rw [entryNode?, entryNode?, hn]
  have hends : g.endSteps = g'.endSteps := by rw [endSteps, endSteps, hn]
  cases h : g.entryNode? with
  | none => exact Or.inl ⟨by rw [workflow?, h]; rfl, by rw [workflow?, ← hentry, h]; rfl⟩
  | some entry =>
      refine Or.inr ⟨_, _, workflow?_eq_some_iff.mpr ⟨entry, h, rfl⟩,
        workflow?_eq_some_iff.mpr ⟨entry, hentry ▸ h, rfl⟩, rfl, rfl, ?_⟩
      rw [hends]
      exact List.rel_append (List.forall₂_same.mpr fun s _ => .same s) (workingSteps_edited hn ho)

end Graph

end Edits

namespace Catalog

variable {c : Catalog} {x : String} {g g' : Graph}

/-- Edits are local. When the edges that leave one id are redrawn, a graph that has no document gets
none, and the document of another starts where it did and has as many steps: in their places, all
but those of that id stay as they are, except that a step which calls services side by side, with
that id among them, may go on elsewhere. -/
theorem compile_edited (c : Catalog) (hn : g.nodes = g'.nodes)
    (ho : ∀ y, y ≠ x → g.outgoing y = g'.outgoing y) :
    (c.compile g = .error .noEntry ∧ c.compile g' = .error .noEntry) ∨
      ∃ w w', c.compile g = .ok w ∧ c.compile g' = .ok w' ∧ w.startStep = w'.startStep ∧
        w.entryStep = w'.entryStep ∧ List.Forall₂ (Step.Edited x) w.steps w'.steps := by
  rcases Graph.workflow?_edited (c.nodes_classifyGraph_congr hn) ho with ⟨h, h'⟩ | ⟨w, w', h, h', hw⟩
  · left
    simp only [compile, compile?, h, h', and_self]
  · exact Or.inr ⟨w, w', compile_eq_ok_iff.mpr h, compile_eq_ok_iff.mpr h', hw⟩

/-- The graph with two services side by side, without the edge from the first of them to the end. -/
def sideBySideRedrawn : Graph where
  nodes := sideBySide.nodes
  edges := [{ id := "1", source := "e", target := "s" }, { id := "2", source := "s", target := "a" },
    { id := "3", source := "s", target := "b" },
    { id := "4", source := "a", target := "b", conditionType := some "match" },
    { id := "6", source := "b", target := "t" }]

/-- The document of that graph: the services meet elsewhere, and the first of them does not go on. -/
def sideBySideRedrawnDocument : Workflow where
  startStep := "e"
  steps := [.finish "t", .fanOut "s" ["a", "b"] (some "b"),
    .service "a" "aml" (some [⟨"$\x7bresult.success == true\x7d", "b"⟩]) none,
    .service "b" "kyb" none (some "t")]
  entryStep := some "e"

theorem compile_edited_sideBySide :
    sideBySide.nodes = sideBySideRedrawn.nodes ∧
      (∀ y, y ≠ "a" → sideBySide.outgoing y = sideBySideRedrawn.outgoing y) ∧
      Catalog.default.compile sideBySide = .ok sideBySideDocument ∧
      Catalog.default.compile sideBySideRedrawn = .ok sideBySideRedrawnDocument ∧
      List.Forall₂ (Step.Edited "a") sideBySideDocument.steps sideBySideRedrawnDocument.steps := by
  have ho (y : String) (hy : y ≠ "a") : sideBySide.outgoing y = sideBySideRedrawn.outgoing y := by
    simp [Graph.outgoing, sideBySide, sideBySideRedrawn, List.filter_cons, Ne.symm hy]
  have hw : Catalog.default.compile sideBySide = .ok sideBySideDocument := rfl
  have hw' : Catalog.default.compile sideBySideRedrawn = .ok sideBySideRedrawnDocument := rfl
  have hn : sideBySide.nodes = sideBySideRedrawn.nodes := rfl
  refine ⟨hn, ho, hw, hw', ?_⟩
  rcases compile_edited Catalog.default hn ho with ⟨h, -⟩ | ⟨w, w', h, h', -, -, hsteps⟩
  · cases hw.symm.trans h
  · cases hw.symm.trans h
    cases hw'.symm.trans h'
    exact hsteps

end Catalog

end ServiceFlow
