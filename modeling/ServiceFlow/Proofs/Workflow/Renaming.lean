import ServiceFlow.Proofs.Graph.Redrawing
import ServiceFlow.Proofs.Workflow.Findings

/-!
# Renaming the ids of a document

The checks on a document compare ids with each other, which an injective renaming does not disturb,
and they ask whether an id is empty. The second question is why the findings on a renamed document
are the renamed findings only when the renaming neither empties an id of the document nor fills in
one that is empty.
-/

namespace ServiceFlow

/-- The condition with its target renamed. -/
def Condition.rename (r : String → String) (c : Condition) : Condition :=
  { c with goToStep := r c.goToStep }

/-- The step with its id and the ids of other steps in it renamed. -/
def Step.rename (r : String → String) : Step → Step
  | finish id => finish (r id)
  | service id name conditions goToStep =>
    service (r id) name (conditions.map (List.map (Condition.rename r))) (goToStep.map r)
  | fanOut id subSteps goToStep => fanOut (r id) (subSteps.map r) (goToStep.map r)

/-- The document with all ids in it renamed. -/
def Workflow.rename (r : String → String) (w : Workflow) : Workflow where
  startStep := r w.startStep
  steps := w.steps.map (Step.rename r)
  entryStep := w.entryStep.map r

/-- Nothing is renamed when every id keeps its name. -/
theorem Step.rename_id (s : Step) : s.rename (fun id => id) = s := by
  have hcondition : Condition.rename (fun id => id) = fun c => c := rfl
  cases s with
  | finish id => rfl
  | service id name conditions goToStep =>
      simp only [rename, hcondition, List.map_id_fun', Option.map_id', Option.map_id_fun, id_eq]
  | fanOut id ids goToStep => simp only [rename, List.map_id', Option.map_id']

theorem Workflow.rename_id (w : Workflow) : w.rename (fun id => id) = w := by
  have hsteps : w.steps.map (Step.rename fun id => id) = w.steps := by
    rw [List.map_congr_left fun s _ => s.rename_id, List.map_id']
  rw [rename, hsteps, Option.map_id']

/-- A text under its new name; other values are no ids. -/
def Value.renameId (r : String → String) : Value → Value
  | .scalar (.text id) => .text (r id)
  | v => v

/-- The finding with the ids in it renamed. -/
def Finding.rename (r : String → String) : Finding → Finding
  | notADocument => notADocument
  | notARecord => notARecord
  | missingIds count => missingIds count
  | missingServices count => missingServices count
  | missingFallbacks count => missingFallbacks count
  | unknownStart start => unknownStart (start.renameId r)
  | unknownGoTo step target => unknownGoTo (step.renameId r) (target.renameId r)
  | unknownConditionTarget step target =>
    unknownConditionTarget (step.renameId r) (target.renameId r)
  | unknownSubStep step target => unknownSubStep (step.renameId r) (target.renameId r)

/-- Whether a renaming keeps the ids of a list empty or not empty, as they are. -/
def KeepsBlanks (r : String → String) (ids : List String) : Prop := ∀ id ∈ ids, r id = "" ↔ id = ""

instance (r : String → String) (ids : List String) : Decidable (KeepsBlanks r ids) :=
  inferInstanceAs (Decidable (∀ id ∈ ids, r id = "" ↔ id = ""))

/-- The ids of a document that are asked to be empty or not: the entry node, the ids of the steps
and the ids in them. -/
def Workflow.ids (w : Workflow) : List String :=
  w.entryStep.toList ++ w.steps.flatMap fun s => s.id :: s.references

section Blanks

variable {r : String → String} {ids : List String}

theorem KeepsBlanks.beq_blank (h : KeepsBlanks r ids) {id : String} (hid : id ∈ ids) :
    (r id == "") = (id == "") := by
  rw [Bool.eq_iff_iff, beq_iff_eq, beq_iff_eq]
  exact h id hid

/-- A renaming that keeps the blanks of a list keeps those of every part of it. -/
theorem KeepsBlanks.mono (h : KeepsBlanks r ids) {part : List String} (hp : part ⊆ ids) :
    KeepsBlanks r part := fun id hid => h id (hp hid)

end Blanks

namespace Step

variable {r : String → String} (s : Step)

@[simp] theorem id_rename : (s.rename r).id = r s.id := by
  cases s <;> rfl

@[simp] theorem next?_rename : (s.rename r).next? = s.next?.map r := by
  cases s <;> rfl

@[simp] theorem service?_rename : (s.rename r).service? = s.service? := by
  cases s <;> rfl

@[simp] theorem guards_rename : (s.rename r).guards = s.guards.map (Condition.rename r) := by
  cases s with
  | finish id => rfl
  | service id name conditions goToStep => cases conditions <;> rfl
  | fanOut id ids goToStep => rfl

@[simp] theorem subSteps_rename : (s.rename r).subSteps = s.subSteps.map r := by
  cases s <;> rfl

variable {s}

/-- A step lacks a fallback under the new ids when it lacks one, if its continuation is empty under
its new name just when it is empty. -/
theorem lacksFallback_rename (hb : KeepsBlanks r s.references) :
    (s.rename r).lacksFallback = s.lacksFallback := by
  have hnext : ((s.next?.map r).getD "" == "") = (s.next?.getD "" == "") := by
    cases h : s.next? with
    | none => rfl
    | some t => exact hb.beq_blank (mem_references.mpr (Or.inl h))
  simp only [lacksFallback, guards_rename, next?_rename, List.isEmpty_map, hnext]

/-- The dangling references of a step under the new ids are its dangling references, renamed. -/
theorem dangling_rename (hr : Function.Injective r) (hb : KeepsBlanks r s.references)
    (ids : List String) :
    (s.rename r).dangling (ids.map r) = (s.dangling ids).map (Finding.rename r) := by
  have hnext : (s.next?.map r).toList.filter (fun t => t != "" && !(ids.map r).contains t) =
      (s.next?.toList.filter fun t => t != "" && !ids.contains t).map r := by
    rw [Option.toList_map, List.filter_map]
    refine congrArg (List.map r) (List.filter_congr fun t ht => ?_)
    have hblank := hb.beq_blank (mem_references.mpr (Or.inl (Option.mem_toList.mp ht)))
    simp only [Function.comp_apply, bne, hblank, contains_map_rename hr]
  have htargets : ((s.guards.map (Condition.rename r)).map (·.goToStep)) =
      (s.guards.map (·.goToStep)).map r := by
    rw [List.map_map, List.map_map]
    rfl
  simp only [dangling, id_rename, next?_rename, guards_rename, subSteps_rename, hnext, htargets,
    filter_unknown_rename hr]
  simp only [List.map_append, List.map_map]
  rfl

end Step

/-- A count of faulty steps names no id. -/
theorem map_rename_counted {r : String → String} {finding : Nat → Finding}
    (h : ∀ count, (finding count).rename r = finding count) (count : Nat) :
    (counted finding count).map (Finding.rename r) = counted finding count := by
  unfold counted
  split
  · rfl
  · rw [List.map_singleton, h]

namespace Workflow

variable {r : String → String} {w : Workflow}

theorem stepIds_rename : (w.rename r).stepIds = w.stepIds.map r := by
  have hid : Step.id ∘ Step.rename r = r ∘ Step.id := funext Step.id_rename
  rw [stepIds, stepIds, rename, List.map_map, List.map_map, hid]

/-- As many steps of the renamed document have a property as of the document, if each step has it
just when its renamed form does. -/
theorem countP_rename {p : Step → Bool} (h : ∀ s ∈ w.steps, p (s.rename r) = p s) :
    (w.rename r).steps.countP p = w.steps.countP p := by
  change (w.steps.map (Step.rename r)).countP p = _
  rw [List.countP_map]
  exact List.countP_congr fun s hs => by rw [Function.comp_apply, h s hs]

/-- A renaming that keeps the blanks of a document keeps those of each of its steps. -/
theorem keepsBlanks_of_mem_steps (hb : KeepsBlanks r w.ids) {s : Step} (hs : s ∈ w.steps) :
    KeepsBlanks r (s.id :: s.references) :=
  hb.mono fun _ hid => List.mem_append_right _ (List.mem_flatMap.mpr ⟨s, hs, hid⟩)

/-- A renaming that keeps the blanks of a document keeps those among the references of a step. -/
theorem keepsBlanks_references (hb : KeepsBlanks r w.ids) {s : Step} (hs : s ∈ w.steps) :
    KeepsBlanks r s.references :=
  (keepsBlanks_of_mem_steps hb hs).mono fun _ hid => List.mem_cons_of_mem _ hid

/-- The entry node that counts as a start is the same under its new id. -/
theorem entry_rename (hb : KeepsBlanks r w.ids) :
    ((w.entryStep.map r).filter (· != "")).toList =
      ((w.entryStep.filter (· != "")).toList).map r := by
  cases h : w.entryStep with
  | none => rfl
  | some id =>
      have hid : id ∈ w.ids := List.mem_append_left _ (Option.mem_toList.mpr h)
      have hblank := hb.beq_blank hid
      simp only [Option.map_some, Option.filter_some, bne, hblank]
      split <;> rfl

/-- The dangling references of a document under the new ids are its dangling references, renamed. -/
theorem dangling_rename (hr : Function.Injective r) (hb : KeepsBlanks r w.ids) :
    (w.rename r).steps.flatMap (Step.dangling (w.stepIds.map r)) =
      (w.steps.flatMap (Step.dangling w.stepIds)).map (Finding.rename r) := by
  change (w.steps.map (Step.rename r)).flatMap _ = _
  rw [List.flatMap_map, List.map_flatMap]
  exact List.flatMap_congr fun s hs =>
    Step.dangling_rename hr (keepsBlanks_references hb hs) w.stepIds

/-- The findings on a renamed document are the findings on the document, renamed. -/
theorem findings_rename (hr : Function.Injective r) (hb : KeepsBlanks r w.ids) :
    (w.rename r).findings = w.findings.map (Finding.rename r) := by
  have hids : (w.rename r).steps.countP (·.id == "") = w.steps.countP (·.id == "") := by
    refine countP_rename fun s hs => ?_
    rw [Step.id_rename]
    exact (keepsBlanks_of_mem_steps hb hs).beq_blank List.mem_cons_self
  have hservices : (w.rename r).steps.countP (·.service? == some "") =
      w.steps.countP (·.service? == some "") := by
    refine countP_rename fun s _ => ?_
    rw [Step.service?_rename]
  have hfallbacks : (w.rename r).steps.countP Step.lacksFallback =
      w.steps.countP Step.lacksFallback :=
    countP_rename fun s hs => Step.lacksFallback_rename (keepsBlanks_references hb hs)
  have hstart :
      (if (w.stepIds.map r ++ ((w.entryStep.map r).filter (· != "")).toList).contains (r w.startStep)
        then [] else [Finding.unknownStart (.text (r w.startStep))]) =
      (if (w.stepIds ++ (w.entryStep.filter (· != "")).toList).contains w.startStep
        then [] else [Finding.unknownStart (.text w.startStep)]).map (Finding.rename r) := by
    rw [entry_rename hb, ← List.map_append, contains_map_rename hr]
    split <;> rfl
  have hentryStep : (w.rename r).entryStep = w.entryStep.map r := rfl
  have hstartStep : (w.rename r).startStep = r w.startStep := rfl
  simp only [findings, documentFindings_toValue, stepIds_rename, hids, hservices, hfallbacks,
    dangling_rename hr hb, hentryStep, hstartStep, hstart, List.map_append]
  rw [map_rename_counted fun _ => rfl, map_rename_counted fun _ => rfl,
    map_rename_counted fun _ => rfl]

end Workflow

end ServiceFlow
