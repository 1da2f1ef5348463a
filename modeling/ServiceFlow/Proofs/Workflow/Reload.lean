import ServiceFlow.Proofs.Workflow.Findings
import ServiceFlow.Proofs.Workflow.RoundTrip

/-!
# Findings after reading a document back

The findings on a document come in three parts: how many steps have a fault, whether a run can
start, and which references of the steps lead nowhere. Only the middle part depends on the entry
node, which is forgotten when a document is written and read back. So reading back can only add that
the start step is not there, and it does so exactly when the entry node was all that a run could
start at.
-/

namespace ServiceFlow

namespace Finding

/-- Whether a finding says how many steps have a fault. -/
def isCount : Finding → Bool
  | missingIds _ | missingServices _ | missingFallbacks _ => true
  | _ => false

/-- Whether a finding is on a reference of a step. -/
def isReference : Finding → Bool
  | unknownGoTo .. | unknownConditionTarget .. | unknownSubStep .. => true
  | _ => false

end Finding

/-- What is counted is a finding of that sort. -/
theorem isCount_of_mem_counted {finding : Nat → Finding} (h : ∀ n, (finding n).isCount = true)
    {count : Nat} {f : Finding} (hf : f ∈ counted finding count) : f.isCount = true := by
  unfold counted at hf
  split at hf
  · cases hf
  · rw [List.mem_singleton.mp hf]
    exact h count

/-- The findings on the references of a step are of that sort. -/
theorem Step.isReference_of_mem_dangling {ids : List String} {s : Step} {f : Finding}
    (hf : f ∈ s.dangling ids) : f.isReference = true := by
  simp only [dangling, List.mem_append, List.mem_map] at hf
  obtain (⟨t, -, rfl⟩ | ⟨t, -, rfl⟩) | ⟨t, -, rfl⟩ := hf <;> rfl

namespace Workflow

variable {w : Workflow}

/-- The findings that say how many steps of a document have a fault. -/
def countFindings (w : Workflow) : List Finding :=
  counted .missingIds (w.steps.countP (·.id == ""))
    ++ counted .missingServices (w.steps.countP (·.service? == some ""))
    ++ counted .missingFallbacks (w.steps.countP Step.lacksFallback)

/-- The findings on the references of the steps of a document. -/
def referenceFindings (w : Workflow) : List Finding := w.steps.flatMap (Step.dangling w.stepIds)

theorem isCount_of_mem_countFindings {f : Finding} (hf : f ∈ w.countFindings) :
    f.isCount = true := by
  simp only [countFindings, List.mem_append] at hf
  obtain (hids | hservices) | hfallbacks := hf
  · exact isCount_of_mem_counted (fun _ => rfl) hids
  · exact isCount_of_mem_counted (fun _ => rfl) hservices
  · exact isCount_of_mem_counted (fun _ => rfl) hfallbacks

theorem isReference_of_mem_referenceFindings {f : Finding} (hf : f ∈ w.referenceFindings) :
    f.isReference = true := by
  obtain ⟨s, -, hs⟩ := List.mem_flatMap.mp hf
  exact Step.isReference_of_mem_dangling hs

/-- The three parts of the findings on a written document. Only the middle one depends on the entry
node. -/
theorem documentFindings_parts (w : Workflow) (entry : Option String) :
    documentFindings entry w.toValue = w.countFindings
      ++ (if w.startStep ∈ w.stepIds ∨ (w.startStep ≠ "" ∧ entry = some w.startStep) then []
        else [.unknownStart (.text w.startStep)])
      ++ w.referenceFindings := by
  simp only [documentFindings_toValue, contains_startStep_iff, countFindings, referenceFindings]

/-- Whether the entry node of a document is all that a run can start at. -/
def StartsAtEntry (w : Workflow) : Prop :=
  w.startStep ≠ "" ∧ w.entryStep = some w.startStep ∧ w.startStep ∉ w.stepIds

/-- A document is read back with the findings of its written form. If the entry node was all that a
run could start at, then these are the findings on the document with one more, that the start step
does not exist, after all counts and before all references; otherwise they are the findings on the
document. -/
theorem findings_readBack (w : Workflow) :
    ∃ v, Workflow.read w.toValue = .ok v ∧ v.findings = documentFindings none w.toValue ∧
      (w.StartsAtEntry → ∃ counts references : List Finding,
        (∀ f ∈ counts, f.isCount = true) ∧ (∀ f ∈ references, f.isReference = true) ∧
          w.findings = counts ++ references ∧
          v.findings = counts ++ .unknownStart (.text w.startStep) :: references) ∧
      (¬ w.StartsAtEntry → v.findings = w.findings) := by
  have hback : w.forgetEntry.findings = documentFindings none w.toValue := rfl
  have hnone : ¬ (w.startStep ≠ "" ∧ (none : Option String) = some w.startStep) := by simp
  refine ⟨w.forgetEntry, w.read_toValue, hback, ?_, ?_⟩
  · rintro ⟨hne, hentry, hmem⟩
    refine ⟨w.countFindings, w.referenceFindings, fun f => isCount_of_mem_countFindings,
      fun f => isReference_of_mem_referenceFindings, ?_, ?_⟩
    · rw [findings, documentFindings_parts, if_pos (.inr ⟨hne, hentry⟩), List.append_nil]
    · rw [hback, documentFindings_parts, if_neg (not_or.mpr ⟨hmem, hnone⟩),
        List.append_assoc, List.singleton_append]
  · intro hstart
    rw [hback, findings, documentFindings_parts, documentFindings_parts]
    by_cases hmem : w.startStep ∈ w.stepIds
    · rw [if_pos (.inl hmem), if_pos (.inl hmem)]
    · have hentry : ¬ (w.startStep ≠ "" ∧ w.entryStep = some w.startStep) :=
        fun h => hstart ⟨h.1, h.2, hmem⟩
      rw [if_neg (not_or.mpr ⟨hmem, hnone⟩), if_neg (not_or.mpr ⟨hmem, hentry⟩)]

/-- A document that a run starts at the entry node of, with a service that is not named and a
continuation that is not there. -/
def looseEnd : Workflow := ⟨"e", [.service "s" "" none (some "t")], some "e"⟩

/-- The same document with the entry node taken for one of the steps. -/
def looseEndStep : Workflow := { looseEnd with steps := .finish "e" :: looseEnd.steps }

theorem findings_readBack_looseEnd :
    looseEnd.StartsAtEntry ∧ ¬ looseEndStep.StartsAtEntry ∧
      (∃ v counts references, Workflow.read looseEnd.toValue = .ok v ∧
        looseEnd.findings = counts ++ references ∧
        v.findings = counts ++ .unknownStart (.text "e") :: references ∧
        v.findings.map Finding.message = ["Found 1 service steps without a service type",
          "Start step e does not exist in the workflow",
          "Step s references non-existent goToStep t"]) ∧
      ∃ v, Workflow.read looseEndStep.toValue = .ok v ∧ v.findings = looseEndStep.findings := by
  have hentry : looseEnd.StartsAtEntry := by simp [StartsAtEntry, looseEnd, stepIds, Step.id]
  have hstep : ¬ looseEndStep.StartsAtEntry := by
    simp [StartsAtEntry, looseEndStep, stepIds, Step.id, looseEnd]
  obtain ⟨v, hread, hraw, hinserted, -⟩ := findings_readBack looseEnd
  obtain ⟨counts, references, -, -, hfindings, hback⟩ := hinserted hentry
  obtain ⟨u, hu, -, -, hsame⟩ := findings_readBack looseEndStep
  refine ⟨hentry, hstep, ⟨v, counts, references, hread, hfindings, hback, ?_⟩, u, hu, hsame hstep⟩
  rw [hraw]
  decide

end Workflow

end ServiceFlow
