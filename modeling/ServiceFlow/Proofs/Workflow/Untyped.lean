import ServiceFlow.Proofs.Workflow.Findings

/-!
# Untyped documents without findings

The checks on documents look at whatever values stand in one. They take a missing field for null,
ask of most fields only whether there is something in them, and take a field that should be a list
and is none for an empty list. What holds of an untyped document without findings is accordingly
less than what holds of a typed one: nothing is said about the type of a step, and little about the
types of its fields.
-/

namespace ServiceFlow

theorem refersTo_iff {ids : List String} {v : Value} :
    refersTo ids v = true ↔ ∃ id ∈ ids, v = .text id := by
  unfold refersTo
  split
  · next id =>
      simp only [List.contains_iff_mem, Value.scalar.injEq, Scalar.text.injEq]
      exact ⟨fun h => ⟨id, h, rfl⟩, fun ⟨_, h, hid⟩ => hid ▸ h⟩
  · next hv => exact iff_of_false (by simp) fun ⟨id, _, h⟩ => hv id h

namespace RawStep

theorem id?_eq_some_iff {s : RawStep} {id : String} :
    s.id? = some id ↔ s.field "id" = .text id := by
  unfold id?
  split
  · next hf => simp [hf]
  · next hf => exact iff_of_false (by simp) (hf id)

theorem hasType_iff {s : RawStep} {type : String} :
    s.hasType type = true ↔ s.field "type" = .text type := by
  unfold hasType
  split
  · next hf => simp [hf]
  · next hf => exact iff_of_false (by simp) (hf type)

/-- The items of a field are those of the list in it, if there is one. -/
theorem mem_items_iff {s : RawStep} {name : String} {v : Value} :
    v ∈ s.items name ↔ ∃ items, s.field name = .list items ∧ v ∈ items := by
  unfold items
  split
  · next hf => simp [hf]
  · next hf => exact iff_of_false (by simp) fun ⟨items, h, _⟩ => hf items h

/-- What holds of a step without findings in a document whose steps have the given ids. -/
structure Sound (ids : List String) (s : RawStep) : Prop where
  /-- There is something in its id. -/
  id : (s.field "id").isTruthy = true
  /-- If its type is that of a service step, there is something in its service. -/
  service : s.hasType "service" = true → (s.field "service").isTruthy = true
  /-- If there is something in its conditions, there is something in its continuation. -/
  fallback : (s.field "conditions").isTruthy = true → (s.field "goToStep").isTruthy = true
  /-- If there is something in its continuation, that is one of the ids. -/
  continuation : (s.field "goToStep").isTruthy = true → refersTo ids (s.field "goToStep") = true
  /-- Its listed conditions lead to some of the ids. -/
  targets : ∀ v ∈ s.items "conditions", refersTo ids (conditionTarget v) = true
  /-- If its type is that of a fan-out, its listed sub-steps are some of the ids. -/
  subSteps : s.hasType "multi_services" = true →
    ∀ v ∈ s.items "subSteps", refersTo ids v = true

/-- A step has no findings on its references when they are to some of the ids. -/
theorem danglingReferences_eq_nil_iff {ids : List String} {s : RawStep} :
    s.danglingReferences ids = [] ↔
      ((s.field "goToStep").isTruthy = true → refersTo ids (s.field "goToStep") = true) ∧
      (∀ v ∈ s.items "conditions", refersTo ids (conditionTarget v) = true) ∧
      (s.hasType "multi_services" = true → ∀ v ∈ s.items "subSteps", refersTo ids v = true) := by
  simp only [danglingReferences, List.append_eq_nil_iff, List.map_eq_nil_iff, ite_eq_right_iff,
    imp_false, Bool.and_eq_true, Bool.not_eq_true', not_and, Bool.not_eq_false,
    List.filter_eq_nil_iff, List.mem_map, forall_exists_index, and_imp, forall_apply_eq_imp_iff₂,
    and_assoc, List.cons_ne_nil]

end RawStep

/-- Values are the records of some steps when they are these steps as values. -/
theorem mapM_fields?_eq_some_iff {items : List Value} {steps : List RawStep} :
    items.mapM Value.fields? = some steps ↔ items = steps.map .map := by
  induction items generalizing steps with
  | nil => cases steps <;> simp
  | cons v rest ih =>
      rw [List.mapM_cons]
      cases v with
      | map fields =>
          cases steps with
          | nil => simp [Value.fields?, Option.bind_eq_some_iff]
          | cons s steps =>
              simpa [Value.fields?, Option.bind_eq_some_iff, ih] using and_comm
      | _ => cases steps <;> simp [Value.fields?]

/-- The steps of a written document are the records in its list of steps; a document that has no
such list has an empty one. -/
theorem rawSteps_eq_ok_iff {document : Value} {steps : List RawStep} :
    rawSteps document = .ok steps ↔ ∃ fields, document = .map fields ∧
      (Value.lookup? "steps" fields).getD (.list []) = .list (steps.map .map) := by
  cases document with
  | map fields =>
      simp only [rawSteps, Value.map.injEq, exists_eq_left']
      cases (Value.lookup? "steps" fields).getD (.list []) with
      | list items =>
          simp only [Value.list.injEq, ← mapM_fields?_eq_some_iff]
          cases items.mapM Value.fields? <;> simp
      | _ => simp
  | _ => simp [rawSteps]

/-- The ids of the steps of a written document: those that are texts. -/
def rawIds (steps : List RawStep) : List String := steps.filterMap RawStep.id?

/-- The steps of a document have no findings when a run can start and each of them is sound. -/
theorem stepFindings_eq_nil_iff {entry : Option String} {start : Value} {steps : List RawStep} :
    stepFindings entry start steps = [] ↔
      refersTo (rawIds steps ++ (entry.filter (· != "")).toList) start = true ∧
        ∀ s ∈ steps, s.Sound (rawIds steps) := by
  simp only [stepFindings, List.append_eq_nil_iff, counted_eq_nil_iff, List.countP_eq_zero,
    List.flatMap_eq_nil_iff, RawStep.danglingReferences_eq_nil_iff, ite_eq_left_iff, imp_false,
    Bool.not_eq_true, Bool.not_eq_false, RawStep.lacksService, RawStep.lacksFallback,
    Bool.and_eq_false_imp, Bool.not_eq_false', rawIds, List.cons_ne_nil]
  constructor
  · rintro ⟨⟨⟨⟨hids, hservices⟩, hfallbacks⟩, hstart⟩, hrefs⟩
    refine ⟨hstart, fun s hs => ?_⟩
    obtain ⟨hnext, htargets, hsubs⟩ := hrefs s hs
    exact {
      id := hids s hs
      service := hservices s hs
      fallback := hfallbacks s hs
      continuation := hnext
      targets := htargets
      subSteps := hsubs }
  · rintro ⟨hstart, hsound⟩
    exact ⟨⟨⟨⟨fun s hs => (hsound s hs).id, fun s hs => (hsound s hs).service⟩,
      fun s hs => (hsound s hs).fallback⟩, hstart⟩,
      fun s hs => ⟨(hsound s hs).continuation, (hsound s hs).targets, (hsound s hs).subSteps⟩⟩

/-- A written document has no findings when it has the form of one, a run can start, and each of its
steps is sound. -/
theorem documentFindings_eq_nil_iff {entry : Option String} {document : Value} :
    documentFindings entry document = [] ↔ ∃ steps, rawSteps document = .ok steps ∧
      refersTo (rawIds steps ++ (entry.filter (· != "")).toList) (rawStart document) = true ∧
        ∀ s ∈ steps, s.Sound (rawIds steps) := by
  unfold documentFindings
  split
  · next steps hsteps => simp [hsteps, stepFindings_eq_nil_iff]
  · next finding hsteps => simp [hsteps]

end ServiceFlow
