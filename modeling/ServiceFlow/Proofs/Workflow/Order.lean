import ServiceFlow.Proofs.Workflow.Findings

/-!
# The order of steps

The findings on a document are counts of faulty steps, the start that is no step, and then, step by
step, the references to no step. Counts and the set of step ids do not depend on the order of the
steps, so another order of the steps moves the findings on references along with their steps and
leaves the others as they are.
-/

namespace ServiceFlow

/-- Only which ids a list holds decides whether a value refers to one of them. -/
theorem refersTo_congr {ids ids' : List String} (h : ∀ id, id ∈ ids ↔ id ∈ ids') (v : Value) :
    refersTo ids v = refersTo ids' v := by
  unfold refersTo
  split
  · rw [List.contains_eq_mem, List.contains_eq_mem]
    exact decide_eq_decide.mpr (h _)
  · rfl

/-- Only which ids a list holds decides which references of a step are to none of them. -/
theorem RawStep.danglingReferences_congr {ids ids' : List String}
    (h : ∀ id, id ∈ ids ↔ id ∈ ids') (s : RawStep) :
    s.danglingReferences ids = s.danglingReferences ids' := by
  simp only [danglingReferences, refersTo_congr h]

/-- Another order of the steps keeps the findings that name no step and moves those on references
along with their steps. -/
theorem stepFindings_of_perm {steps steps' : List RawStep} (hp : steps.Perm steps')
    (entry : Option String) (start : Value) :
    ∃ general, stepFindings entry start steps = general ++
        steps.flatMap (RawStep.danglingReferences (steps.filterMap RawStep.id?)) ∧
      stepFindings entry start steps' = general ++
        steps'.flatMap (RawStep.danglingReferences (steps.filterMap RawStep.id?)) := by
  have hids (id : String) : id ∈ steps'.filterMap RawStep.id? ↔ id ∈ steps.filterMap RawStep.id? :=
    (hp.filterMap _).symm.mem_iff
  have hknown (id : String) :
      id ∈ steps'.filterMap RawStep.id? ++ (entry.filter (· != "")).toList ↔
        id ∈ steps.filterMap RawStep.id? ++ (entry.filter (· != "")).toList := by
    rw [List.mem_append, List.mem_append, hids]
  have hdangling : RawStep.danglingReferences (steps'.filterMap RawStep.id?) =
      RawStep.danglingReferences (steps.filterMap RawStep.id?) :=
    funext (RawStep.danglingReferences_congr hids)
  refine ⟨_, rfl, ?_⟩
  simp only [stepFindings, hp.symm.countP_eq, refersTo_congr hknown, hdangling]

namespace Workflow

/-- The findings on a document are those on its steps as they are written. -/
theorem findings_eq_stepFindings (w : Workflow) : w.findings =
    stepFindings w.entryStep (.text w.startStep) (w.steps.map Step.written) := by
  simp only [findings, documentFindings, rawSteps_toValue, rawStart_toValue]

/-- Another order of the steps rearranges the findings on a document. -/
theorem findings_of_steps_perm {w w' : Workflow} (hs : w.startStep = w'.startStep)
    (he : w.entryStep = w'.entryStep) (hp : w.steps.Perm w'.steps) :
    w.findings.Perm w'.findings := by
  obtain ⟨general, h, h'⟩ :=
    stepFindings_of_perm (hp.map Step.written) w.entryStep (.text w.startStep)
  rw [findings_eq_stepFindings, findings_eq_stepFindings, ← hs, ← he, h, h']
  exact ((hp.map Step.written).flatMap_right _).append_left general

end Workflow

end ServiceFlow
