import ServiceFlow.Proofs.Workflow.Written

/-!
# Findings on typed documents

The findings on a document are defined on its written form. Here they are computed from its steps,
in the same order and with the same counts, and a document without findings is described by what
holds of it: every id, service name and fallback that is needed is there and not empty, the run can
start, and every reference is the id of a step. One gap stands out in that description: a
continuation with the empty id counts as none, so nothing is asked of it.
-/

namespace ServiceFlow

namespace Step

/-- Whether a step has conditions and nowhere to go when none holds. -/
def lacksFallback (s : Step) : Bool := !s.guards.isEmpty && s.next?.getD "" == ""

/-- The findings on the references of a step to none of the ids. -/
def dangling (ids : List String) (s : Step) : List Finding :=
  (s.next?.toList.filter fun t => t != "" && !ids.contains t).map
      (fun t => .unknownGoTo (.text s.id) (.text t))
    ++ ((s.guards.map (·.goToStep)).filter (!ids.contains ·)).map
      (fun t => .unknownConditionTarget (.text s.id) (.text t))
    ++ (s.subSteps.filter (!ids.contains ·)).map
      (fun t => .unknownSubStep (.text s.id) (.text t))

@[simp] theorem id?_written (s : Step) : s.written.id? = some s.id := by
  simp [RawStep.id?]

@[simp] theorem hasType_written (s : Step) (type : String) :
    s.written.hasType type = (s.typeName == type) := by
  simp [RawStep.hasType]

/-- The listed conditions of a written step are its conditions as they are written. -/
theorem items_conditions (s : Step) :
    s.written.items "conditions" = s.guards.map Condition.toValue := by
  cases h : s.conditions? <;> simp [RawStep.items, guards, h]

/-- A service step lacks its service when the name is empty. -/
theorem lacksService_written (s : Step) : s.written.lacksService = (s.service? == some "") := by
  cases s with
  | finish id => simp [RawStep.lacksService, service?, typeName]
  | service id name conditions goToStep =>
      simp [RawStep.lacksService, service?, typeName, bne]
  | fanOut id ids goToStep => simp [RawStep.lacksService, service?, typeName]

/-- A step lacks its fallback when it has conditions and its continuation is absent or empty. -/
theorem lacksFallback_written (s : Step) : s.written.lacksFallback = s.lacksFallback := by
  have hc : (s.written.field "conditions").isTruthy = !s.guards.isEmpty := by
    cases h : s.conditions? with
    | none => simp [guards, h, Value.isTruthy, Scalar.isTruthy]
    | some cs => cases cs <;> simp [guards, h, Value.isTruthy]
  have hn : (s.written.field "goToStep").isTruthy = !(s.next?.getD "" == "") := by
    cases h : s.next? <;> simp [h, Value.isTruthy, Scalar.isTruthy, bne]
  simp only [RawStep.lacksFallback, lacksFallback, hc, hn, Bool.not_not]

/-- The step that a written condition leads to. -/
theorem conditionTarget_toValue (c : Condition) : conditionTarget c.toValue = .text c.goToStep := by
  have he : c.toValue =
      .map [(.text "condition", .text c.condition), (.text "goToStep", .text c.goToStep)] := rfl
  rw [he]
  simp only [conditionTarget]
  rw [Value.lookup?_cons_ne (by decide), Value.lookup?_cons_self, Option.getD_some]

/-- The finding on the continuation of a written step, which has to be there and not empty. -/
theorem goTo_written (ids : List String) (s : Step) :
    (if (s.written.field "goToStep").isTruthy && !refersTo ids (s.written.field "goToStep") then
        [Finding.unknownGoTo (.text s.id) (s.written.field "goToStep")] else []) =
      (s.next?.toList.filter fun t => t != "" && !ids.contains t).map
        (fun t => .unknownGoTo (.text s.id) (.text t)) := by
  cases h : s.next? with
  | none => simp [h, Value.isTruthy, Scalar.isTruthy]
  | some t =>
      simp only [field_goToStep, h, Option.map_some, Option.getD_some, Option.toList_some,
        List.filter_cons, List.filter_nil, refersTo, Value.isTruthy_text]
      split <;> rfl

/-- The findings on the sub-steps of a written step, which only a fan-out has. -/
theorem subSteps_written (ids : List String) (s : Step) :
    (if s.written.hasType "multi_services" then
        (s.written.items "subSteps").filter (!refersTo ids ·) else []) =
      (s.subSteps.filter (!ids.contains ·)).map .text := by
  cases s with
  | finish id => simp [typeName, subSteps]
  | service id name conditions goToStep => simp [typeName, subSteps]
  | fanOut id subs goToStep =>
      simp only [hasType_written, typeName, beq_self_eq_true, ite_true, RawStep.items,
        field_subSteps_fanOut, subSteps, List.filter_map]
      rfl

/-- The findings on the references of a written step are those on the step. -/
theorem danglingReferences_written (ids : List String) (s : Step) :
    s.written.danglingReferences ids = s.dangling ids := by
  have hc : ((s.written.items "conditions").map conditionTarget).filter (!refersTo ids ·) =
      ((s.guards.map (·.goToStep)).filter (!ids.contains ·)).map .text := by
    rw [items_conditions, List.map_map, List.filter_map, List.filter_map, List.map_map]
    simp only [Function.comp_def, conditionTarget_toValue, refersTo]
  simp only [RawStep.danglingReferences, field_id, goTo_written, subSteps_written, hc, dangling,
    List.map_map, Function.comp_def]

/-- A step has the fallback that it needs when it goes somewhere or has no conditions. -/
theorem not_lacksFallback_iff (s : Step) :
    ¬ s.lacksFallback = true ↔ (s.guards ≠ [] → ∃ t, s.next? = some t ∧ t ≠ "") := by
  cases h : s.next? <;> simp [lacksFallback, h]

/-- A step has no findings on its references when they are ids, save for an empty continuation. -/
theorem dangling_eq_nil_iff (ids : List String) (s : Step) :
    s.dangling ids = [] ↔ (∀ t, s.next? = some t → t = "" ∨ t ∈ ids) ∧
      (∀ c ∈ s.guards, c.goToStep ∈ ids) ∧ ∀ t ∈ s.subSteps, t ∈ ids := by
  have hn : (s.next?.toList.filter fun t => t != "" && !ids.contains t) = [] ↔
      ∀ t, s.next? = some t → t = "" ∨ t ∈ ids := by
    simp only [List.filter_eq_nil_iff, Option.mem_toList, Bool.and_eq_true, bne_iff_ne,
      Bool.not_eq_true', List.contains_eq_mem, decide_eq_false_iff_not, not_and, Decidable.not_not]
    exact forall₂_congr fun t _ => Decidable.or_iff_not_imp_left.symm
  simp only [dangling, List.append_eq_nil_iff, List.map_eq_nil_iff, hn, and_assoc]
  simp [List.filter_eq_nil_iff]

end Step

/-- A fault is found when at least one step has it. -/
theorem counted_eq_nil_iff (finding : Nat → Finding) (count : Nat) :
    counted finding count = [] ↔ count = 0 := by
  simp [counted]

namespace Workflow

/-- The ids of the steps of a document. -/
def stepIds (w : Workflow) : List String := w.steps.map Step.id

/-- A document is written as a mapping of its start step and its steps. -/
theorem toValue_eq_map (w : Workflow) : w.toValue = .map [(.text "startStep", .text w.startStep),
    (.text "steps", .list (w.steps.map Step.toValue))] := rfl

/-- The steps of a document as it is written. -/
theorem rawSteps_toValue (w : Workflow) : rawSteps w.toValue = .ok (w.steps.map Step.written) := by
  have hm : (w.steps.map Step.toValue).mapM Value.fields? = some (w.steps.map Step.written) := by
    induction w.steps with
    | nil => rfl
    | cons s rest ih =>
        rw [List.map_cons, List.mapM_cons, ih, Step.toValue_eq_map]
        rfl
  have hl : Value.lookup? "steps"
      [(.text "startStep", .text w.startStep), (.text "steps", .list (w.steps.map Step.toValue))] =
        some (.list (w.steps.map Step.toValue)) := by
    rw [Value.lookup?_cons_ne (by decide), Value.lookup?_cons_self]
  rw [toValue_eq_map]
  simp only [rawSteps, hl, Option.getD_some, hm]

/-- The start step of a document as it is written. -/
theorem rawStart_toValue (w : Workflow) : rawStart w.toValue = .text w.startStep := by
  rw [toValue_eq_map]
  simp only [rawStart, Value.lookup?_cons_self, Option.getD_some]

/-- The findings on a written document, computed from its steps. -/
theorem documentFindings_toValue (entry : Option String) (w : Workflow) :
    documentFindings entry w.toValue =
      counted .missingIds (w.steps.countP (·.id == ""))
        ++ counted .missingServices (w.steps.countP (·.service? == some ""))
        ++ counted .missingFallbacks (w.steps.countP Step.lacksFallback)
        ++ (if (w.stepIds ++ (entry.filter (· != "")).toList).contains w.startStep then []
          else [.unknownStart (.text w.startStep)])
        ++ w.steps.flatMap (Step.dangling w.stepIds) := by
  have hids : (w.steps.map Step.written).filterMap RawStep.id? = w.stepIds := by
    have hs : RawStep.id? ∘ Step.written = some ∘ Step.id := funext Step.id?_written
    rw [List.filterMap_map, hs, List.filterMap_eq_map, stepIds]
  have hmissing : (fun s : RawStep => !(s.field "id").isTruthy) ∘ Step.written =
      fun s => s.id == "" := by
    funext s
    simp [bne]
  simp only [documentFindings, rawSteps_toValue, rawStart_toValue, stepFindings, hids,
    List.countP_map, List.flatMap_map, hmissing, Function.comp_def, Step.lacksService_written,
    Step.lacksFallback_written, Step.danglingReferences_written, refersTo]

/-- A run can start at a step, or at the entry node if it has an id. -/
theorem contains_startStep_iff (w : Workflow) (entry : Option String) :
    (w.stepIds ++ (entry.filter (· != "")).toList).contains w.startStep = true ↔
      w.startStep ∈ w.stepIds ∨ (w.startStep ≠ "" ∧ entry = some w.startStep) := by
  simp [and_comm]

/-- What holds of a document without findings. -/
structure Sound (w : Workflow) : Prop where
  /-- Every step has an id. -/
  ids : ∀ s ∈ w.steps, s.id ≠ ""
  /-- Every service step names its service. -/
  services : ∀ s ∈ w.steps, s.service? ≠ some ""
  /-- Every step with conditions goes somewhere when none holds. -/
  fallbacks : ∀ s ∈ w.steps, s.guards ≠ [] → ∃ t, s.next? = some t ∧ t ≠ ""
  /-- A run starts at a step or at the entry node. -/
  start : w.startStep ∈ w.stepIds ∨ (w.startStep ≠ "" ∧ w.entryStep = some w.startStep)
  /-- A continuation leads to a step, unless it is the empty id. -/
  continuations : ∀ s ∈ w.steps, ∀ t, s.next? = some t → t = "" ∨ t ∈ w.stepIds
  /-- A condition leads to a step. -/
  targets : ∀ s ∈ w.steps, ∀ c ∈ s.guards, c.goToStep ∈ w.stepIds
  /-- A sub-step is a step. -/
  subSteps : ∀ s ∈ w.steps, ∀ t ∈ s.subSteps, t ∈ w.stepIds

/-- A document has no findings exactly when it is sound. -/
theorem findings_eq_nil_iff (w : Workflow) : w.findings = [] ↔ w.Sound := by
  have hstart (v : List Finding) (hv : v ≠ []) :
      (if (w.stepIds ++ (w.entryStep.filter (· != "")).toList).contains w.startStep then [] else v)
        = [] ↔ w.startStep ∈ w.stepIds ∨ (w.startStep ≠ "" ∧ w.entryStep = some w.startStep) := by
    rw [← contains_startStep_iff]
    simp only [ite_eq_left_iff, hv, imp_false, Decidable.not_not]
  simp only [findings, documentFindings_toValue, List.append_eq_nil_iff, counted_eq_nil_iff,
    List.countP_eq_zero, List.flatMap_eq_nil_iff, Step.dangling_eq_nil_iff,
    Step.not_lacksFallback_iff, beq_iff_eq, hstart _ (List.cons_ne_nil _ _)]
  constructor
  · rintro ⟨⟨⟨⟨hids, hservices⟩, hfallbacks⟩, hs⟩, hrefs⟩
    exact {
      ids := hids
      services := hservices
      fallbacks := hfallbacks
      start := hs
      continuations := fun s hm => (hrefs s hm).1
      targets := fun s hm => (hrefs s hm).2.1
      subSteps := fun s hm => (hrefs s hm).2.2 }
  · intro h
    refine ⟨⟨⟨⟨h.ids, h.services⟩, h.fallbacks⟩, h.start⟩, ?_⟩
    intro s hm
    exact ⟨h.continuations s hm, h.targets s hm, h.subSteps s hm⟩

end Workflow

end ServiceFlow
