import Mathlib.Data.List.Forall2
import ServiceFlow.Proofs.Json.Values
import ServiceFlow.Proofs.Workflow.RoundTrip
import ServiceFlow.Proofs.Workflow.Untyped

/-!
# Documents without findings and the schema

The checks on documents and the schema of documents are two descriptions of one form, and neither
contains the other. The checks look for references that lead nowhere and say nothing on the types of
steps and fields; the schema looks at types and not at references. A document of JSON without
findings passes the schema exactly when each of its steps has one of the three types and texts and
lists where that type wants them. What it is then read as has no findings either.
-/

namespace ServiceFlow

open Schema

namespace RawStep

/-- What a service step without findings needs in order to pass the schema. -/
def fitsService (s : RawStep) : Bool :=
  (s.field "service").isText
    && ((s.field "conditions").isNull || (s.field "conditions").isList
      && (s.items "conditions").all fun v => (v.get "condition").isText)
    && (s.field "goToStep").isOptionalText

/-- What a fan-out without findings needs in order to pass the schema. -/
def fitsFanOut (s : RawStep) : Bool :=
  (Value.lookup? "subSteps" s).all Value.isList && (s.field "goToStep").isOptionalText

/-- What a step without findings needs in order to pass the schema. -/
def fits (s : RawStep) : Bool :=
  (s.field "id").isText
    && (s.hasType "end" || s.hasType "service" && s.fitsService
      || s.hasType "multi_services" && s.fitsFanOut)

variable {s : RawStep} {ids : List String} {name : String}

/-- A field with a value is there. -/
theorem lookup?_of_field {v : Value} (h : s.field name = v) (hv : v ≠ .null) :
    Value.lookup? name s = some v := by
  rw [field] at h
  cases hl : Value.lookup? name s with
  | none =>
      rw [hl] at h
      exact absurd h.symm hv
  | some w =>
      rw [hl] at h
      exact congrArg some h

theorem field_eq_get (s : RawStep) (name : String) : s.field name = (Value.map s).get name := rfl

theorem items_eq_items_field (s : RawStep) (name : String) :
    s.items name = (s.field name).items := rfl

/-- What stands in a field of a step of JSON is a value of JSON. -/
theorem isJson_field (hj : (Value.map s).isJson = true) (name : String) :
    (s.field name).isJson = true := Value.isJson_get hj name

/-- The step that a condition leads to is its field of that name. -/
theorem conditionTarget_eq_get (v : Value) : conditionTarget v = v.get "goToStep" := by
  cases v <;> rfl

/-- A condition of JSON passes when both of its fields are texts. -/
theorem isOk_condition {v : Value} (hj : v.isJson = true) :
    (Condition.check v).isOk = ((v.get "condition").isText && (v.get "goToStep").isText) := by
  cases v with
  | map fields =>
      simp only [Condition.check, record, Checked.map_def, Checked.seq_def, Checked.isOk_seq,
        Checked.isOk_map, isOk_required_text hj]
  | _ => rfl

theorem isText_of_refersTo {v : Value} (h : refersTo ids v = true) : v.isText = true := by
  obtain ⟨id, -, rfl⟩ := refersTo_iff.mp h
  rfl

/-- The step that a step of a type is checked as. -/
theorem check_eq_ok_iff {t : Step} : Step.check (.map s) = .ok t ↔
    ∃ type ∈ Step.typeNames, s.hasType type = true ∧ Step.checkFields type s = .ok t := by
  constructor
  · intro h
    cases htag : Value.lookup? "type" s with
    | none =>
        rw [Step.check, htag] at h
        cases h
    | some tag =>
        simp only [Step.check, htag, Step.checkTagged] at h
        split at h
        · next type =>
            split at h
            · next hname =>
                refine ⟨type, List.contains_iff_mem.mp hname, ?_, Checked.within_eq_ok_iff.mp h⟩
                rw [hasType_iff, field, htag, Option.getD_some]
            · cases h
        · cases h
  · rintro ⟨type, hmem, htype, hfields⟩
    have htag : Value.lookup? "type" s = some (.text type) :=
      lookup?_of_field (hasType_iff.mp htype) (by simp)
    simp only [Step.check, htag, Step.checkTagged, List.contains_iff_mem.mpr hmem, ite_true,
      hfields, Checked.within]

section Sound

variable (hj : (Value.map s).isJson = true) (hs : s.Sound ids)

include hj hs in
/-- The conditions of a step without findings lead to ids, so their other field decides. -/
theorem Sound.isOk_conditions :
    (defaulted "conditions" none (nullable (list Condition.check)) s).isOk =
      ((s.field "conditions").isNull || (s.field "conditions").isList
        && (s.items "conditions").all fun v => (v.get "condition").isText) := by
  have hitems : ∀ v ∈ s.items "conditions",
      (Condition.check v).isOk = (v.get "condition").isText := by
    intro v hv
    have htarget := isText_of_refersTo (hs.targets v hv)
    rw [conditionTarget_eq_get] at htarget
    rw [isOk_condition (Value.isJson_of_mem_items (isJson_field hj _) hv), htarget, Bool.and_true]
  have hall : ((s.items "conditions").all fun v => (Condition.check v).isOk) =
      (s.items "conditions").all fun v => (v.get "condition").isText := by
    rw [Bool.eq_iff_iff, List.all_eq_true, List.all_eq_true]
    exact forall₂_congr fun v hv => by rw [hitems v hv]
  rw [isOk_defaulted_none, ← field_eq_get, isOk_list (isJson_field hj _), ← items_eq_items_field,
    hall]

include hj hs in
/-- The listed sub-steps of a fan-out without findings are ids, so that there is a list decides. -/
theorem Sound.isOk_subSteps (htype : s.hasType "multi_services" = true) :
    (defaulted "subSteps" [] (list text) s).isOk =
      (Value.lookup? "subSteps" s).all Value.isList := by
  have hitems : ((s.items "subSteps").all fun v => (text v).isOk) = true := by
    rw [List.all_eq_true]
    intro v hv
    rw [isOk_text (Value.isJson_of_mem_items (isJson_field hj _) hv)]
    exact isText_of_refersTo (hs.subSteps htype v hv)
  cases hv : Value.lookup? "subSteps" s with
  | none =>
      rw [defaulted_of_absent hv]
      rfl
  | some v =>
      have hfield : s.field "subSteps" = v := by rw [field, hv, Option.getD_some]
      have hlist : (list text v).isOk = v.isList := by
        rw [← hfield, isOk_list (isJson_field hj _), ← items_eq_items_field, hitems, Bool.and_true]
      simp only [defaulted, hv, Checked.isOk_within, hlist, Option.all_some]

include hj hs in
/-- A step of JSON without findings passes the schema when it fits. -/
theorem Sound.isOk_check : (Step.check (.map s)).isOk = s.fits := by
  have hend : (Step.checkFields "end" s).isOk = (s.field "id").isText := by
    simp only [Step.checkFields, ite_true, Checked.map_def, Checked.isOk_map,
      isOk_required_text hj, field_eq_get]
  have hservice : (Step.checkFields "service" s).isOk =
      ((s.field "id").isText && s.fitsService) := by
    have hne : "service" ≠ "end" := by decide
    simp only [Step.checkFields, hne, ite_false, ite_true, Checked.map_def, Checked.seq_def,
      Checked.isOk_seq, Checked.isOk_map, isOk_required_text hj, hs.isOk_conditions hj,
      isOk_optional_text hj, fitsService, field_eq_get, Bool.and_assoc]
  have hfanOut (htype : s.hasType "multi_services" = true) :
      (Step.checkFields "multi_services" s).isOk = ((s.field "id").isText && s.fitsFanOut) := by
    have hne : "multi_services" ≠ "end" := by decide
    have hne' : "multi_services" ≠ "service" := by decide
    simp only [Step.checkFields, hne, hne', ite_false, Checked.map_def, Checked.seq_def,
      Checked.isOk_seq, Checked.isOk_map, isOk_required_text hj, hs.isOk_subSteps hj htype,
      isOk_optional_text hj, fitsFanOut, field_eq_get, Bool.and_assoc]
  rw [Bool.eq_iff_iff, Checked.isOk_iff]
  simp only [check_eq_ok_iff, Step.typeNames, List.mem_cons, List.not_mem_nil, or_false, fits,
    Bool.and_eq_true, Bool.or_eq_true]
  constructor
  · rintro ⟨t, type, rfl | rfl | rfl, htype, h⟩
    · exact ⟨hend.symm.trans (Checked.isOk_iff.mpr ⟨t, h⟩), .inl (.inl htype)⟩
    · have hok := hservice.symm.trans (Checked.isOk_iff.mpr ⟨t, h⟩)
      rw [Bool.and_eq_true] at hok
      exact ⟨hok.1, .inl (.inr ⟨htype, hok.2⟩)⟩
    · have hok := (hfanOut htype).symm.trans (Checked.isOk_iff.mpr ⟨t, h⟩)
      rw [Bool.and_eq_true] at hok
      exact ⟨hok.1, .inr ⟨htype, hok.2⟩⟩
  · rintro ⟨hid, (htype | ⟨htype, hfits⟩) | ⟨htype, hfits⟩⟩
    · obtain ⟨t, ht⟩ := Checked.isOk_iff.mp (hend.trans hid)
      exact ⟨t, _, .inl rfl, htype, ht⟩
    · obtain ⟨t, ht⟩ := Checked.isOk_iff.mp (hservice.trans (by rw [hid, hfits]; rfl))
      exact ⟨t, _, .inr (.inl rfl), htype, ht⟩
    · obtain ⟨t, ht⟩ := Checked.isOk_iff.mp ((hfanOut htype).trans (by rw [hid, hfits]; rfl))
      exact ⟨t, _, .inr (.inr rfl), htype, ht⟩

end Sound

end RawStep

namespace Step

/-- How a typed step stands to the written step that it was read from. -/
structure ReadFrom (s : RawStep) (t : Step) : Prop where
  id : s.field "id" = .text t.id
  service : ∀ name, t.service? = some name →
    s.hasType "service" = true ∧ s.field "service" = .text name
  /-- A step of a type with conditions or a continuation has its continuation from its field. -/
  next : t.guards ≠ [] ∨ t.next? ≠ none → s.field "goToStep" = (t.next?.map .text).getD .null
  guards : ∀ c ∈ t.guards, ∃ v ∈ s.items "conditions", conditionTarget v = .text c.goToStep
  subSteps : ∀ id ∈ t.subSteps, s.hasType "multi_services" = true ∧ .text id ∈ s.items "subSteps"

/-- What a condition of JSON leads to is read from its field. -/
theorem conditionTarget_of_check {v : Value} {c : Condition} (hj : v.isJson = true)
    (h : Condition.check v = .ok c) : conditionTarget v = .text c.goToStep := by
  obtain ⟨fields, rfl, hfields⟩ := record_eq_ok_iff.mp h
  simp only [Checked.map_def, Checked.seq_def, Checked.seq_eq_ok_iff, Checked.map_eq_ok_iff]
    at hfields
  obtain ⟨_, _, ⟨_, _, rfl⟩, htarget, rfl⟩ := hfields
  exact (text_eq_ok_iff (Value.isJson_get hj "goToStep")).mp (check_get_of_required htarget)

/-- A step of JSON that passes the schema is read from its fields. -/
theorem readFrom_of_check {s : RawStep} {t : Step} (hj : (Value.map s).isJson = true)
    (h : check (.map s) = .ok t) : t.ReadFrom s := by
  have htext {name value : String} (hr : required name text s = .ok value) :
      s.field name = .text value :=
    (text_eq_ok_iff (RawStep.isJson_field hj name)).mp (check_get_of_required hr)
  have hoptional {name : String} {value : Option String}
      (hr : defaulted name none (nullable text) s = .ok value) :
      s.field name = (value.map .text).getD .null := by
    have hread := defaulted_none_eq_ok_iff.mp hr
    cases value with
    | none => exact nullable_eq_ok_none_iff.mp hread
    | some value =>
        exact (text_eq_ok_iff (RawStep.isJson_field hj name)).mp (check_of_nullable hread)
  obtain ⟨type, hmem, htype, hfields⟩ := RawStep.check_eq_ok_iff.mp h
  simp only [typeNames, List.mem_cons, List.not_mem_nil, or_false] at hmem
  obtain rfl | rfl | rfl := hmem
  · simp only [checkFields, ite_true, Checked.map_def, Checked.map_eq_ok_iff] at hfields
    obtain ⟨id, hid, rfl⟩ := hfields
    exact {
      id := htext hid
      service := by
        intro _ hn
        cases hn
      next := by simp [Step.guards, conditions?, next?]
      guards := by
        intro _ hc
        cases hc
      subSteps := by
        intro _ ht
        cases ht }
  · have hne : "service" ≠ "end" := by decide
    simp only [checkFields, hne, ite_false, ite_true, Checked.map_def, Checked.seq_def,
      Checked.seq_eq_ok_iff, Checked.map_eq_ok_iff] at hfields
    obtain ⟨_, goToStep, ⟨_, conditions, ⟨_, name, ⟨id, hid, rfl⟩, hname, rfl⟩, hconditions, rfl⟩,
      hgoTo, rfl⟩ := hfields
    exact {
      id := htext hid
      service := fun _ hn => ⟨htype, Option.some.inj hn ▸ htext hname⟩
      next := fun _ => hoptional hgoTo
      guards := by
        intro c hc
        cases conditions with
        | none => cases hc
        | some cs =>
            have hlist := check_of_nullable (defaulted_none_eq_ok_iff.mp hconditions)
            have hjson := RawStep.isJson_field hj "conditions"
            obtain ⟨v, hv, hcheck⟩ := exists_mem_items hjson hlist hc
            exact ⟨v, hv, conditionTarget_of_check (Value.isJson_of_mem_items hjson hv) hcheck⟩
      subSteps := by
        intro _ ht
        cases ht }
  · have hne : "multi_services" ≠ "end" := by decide
    have hne' : "multi_services" ≠ "service" := by decide
    simp only [checkFields, hne, hne', ite_false, Checked.map_def, Checked.seq_def,
      Checked.seq_eq_ok_iff, Checked.map_eq_ok_iff] at hfields
    obtain ⟨_, goToStep, ⟨_, ids, ⟨id, hid, rfl⟩, hids, rfl⟩, hgoTo, rfl⟩ := hfields
    exact {
      id := htext hid
      service := by
        intro _ hn
        cases hn
      next := fun _ => hoptional hgoTo
      guards := by
        intro _ hc
        cases hc
      subSteps := by
        intro target ht
        refine ⟨htype, ?_⟩
        obtain ⟨-, rfl⟩ | ⟨v, hv, hlist⟩ := defaulted_eq_ok_iff.mp hids
        · cases ht
        · have hfield : s.field "subSteps" = v := by rw [RawStep.field, hv, Option.getD_some]
          have hjson : v.isJson = true := hfield ▸ RawStep.isJson_field hj "subSteps"
          obtain ⟨w, hw, hcheck⟩ := exists_mem_items hjson hlist ht
          rw [RawStep.items_eq_items_field, hfield,
            ← (text_eq_ok_iff (Value.isJson_of_mem_items hjson hw)).mp hcheck]
          exact hw }

variable {s : RawStep} {t : Step} {ids : List String}

/-- The ids of steps are those of the written steps that they were read from. -/
theorem map_id_eq_rawIds {steps : List RawStep} {ts : List Step}
    (hj : ∀ s ∈ steps, (Value.map s).isJson = true)
    (h : steps.map (fun s => check (.map s)) = ts.map .ok) : ts.map id = rawIds steps := by
  induction steps generalizing ts with
  | nil => rw [List.map_eq_nil_iff.mp h.symm, List.map_nil, rawIds, List.filterMap_nil]
  | cons s rest ih =>
      obtain ⟨t, ts, rfl, ht, hts⟩ := List.map_eq_cons_iff.mp h.symm
      have hread := readFrom_of_check (hj s List.mem_cons_self) ht.symm
      have hid : s.id? = some t.id := RawStep.id?_eq_some_iff.mpr hread.id
      have hrest := ih (fun s hs => hj s (List.mem_cons_of_mem _ hs)) hts.symm
      rw [List.map_cons, hrest, rawIds, rawIds, List.filterMap_cons_some hid]

namespace ReadFrom

variable (h : t.ReadFrom s) (hs : s.Sound ids)

include h hs

theorem id_ne_empty : t.id ≠ "" := by
  have hid := hs.id
  rw [h.id, Value.isTruthy_text, bne_iff_ne] at hid
  exact hid

theorem service_ne_empty : t.service? ≠ some "" := by
  intro hname
  obtain ⟨htype, hfield⟩ := h.service "" hname
  have htruthy := hs.service htype
  rw [hfield] at htruthy
  cases htruthy

/-- A step with conditions goes somewhere when none holds. -/
theorem exists_next (hg : t.guards ≠ []) : ∃ target, t.next? = some target ∧ target ≠ "" := by
  obtain ⟨c, hc⟩ := List.exists_mem_of_ne_nil _ hg
  obtain ⟨v, hv, -⟩ := h.guards c hc
  have hconditions : (s.field "conditions").isTruthy = true := by
    obtain ⟨items, hitems, hmem⟩ := RawStep.mem_items_iff.mp hv
    rw [hitems, Value.isTruthy, Bool.not_eq_true', List.isEmpty_eq_false_iff]
    exact List.ne_nil_of_mem hmem
  have htruthy := hs.fallback hconditions
  rw [h.next (.inl hg)] at htruthy
  cases hn : t.next? with
  | none =>
      rw [hn] at htruthy
      cases htruthy
  | some target =>
      rw [hn] at htruthy
      exact ⟨target, rfl, bne_iff_ne.mp htruthy⟩

theorem next_mem {target : String} (hn : t.next? = some target) : target = "" ∨ target ∈ ids := by
  by_cases hempty : target = ""
  · exact .inl hempty
  · have hfield := h.next (.inr (by simp [hn]))
    rw [hn, Option.map_some, Option.getD_some] at hfield
    have hrefers := hs.continuation (by rw [hfield]; exact bne_iff_ne.mpr hempty)
    rw [hfield] at hrefers
    exact .inr (List.contains_iff_mem.mp hrefers)

theorem target_mem {c : Condition} (hc : c ∈ t.guards) : c.goToStep ∈ ids := by
  obtain ⟨v, hv, htarget⟩ := h.guards c hc
  have hrefers := hs.targets v hv
  rw [htarget] at hrefers
  exact List.contains_iff_mem.mp hrefers

theorem subStep_mem {target : String} (ht : target ∈ t.subSteps) : target ∈ ids := by
  obtain ⟨htype, hmem⟩ := h.subSteps target ht
  exact List.contains_iff_mem.mp (hs.subSteps htype _ hmem)

end ReadFrom

end Step

namespace Workflow

variable {fields : Fields} {steps : List RawStep} {w : Workflow}

/-- The list of steps of a document passes when each of them does. -/
theorem isOk_steps (h : (Value.lookup? "steps" fields).getD (.list []) = .list (steps.map .map)) :
    (defaulted "steps" [] (list Step.check) fields).isOk =
      steps.all fun s => (Step.check (.map s)).isOk := by
  have hlist : (list Step.check (.list (steps.map .map))).isOk =
      steps.all fun s => (Step.check (.map s)).isOk := by
    rw [list, Checked.isOk_allFrom, List.all_map]
    rfl
  unfold defaulted
  split
  · next v hv =>
      rw [hv, Option.getD_some] at h
      rw [Checked.isOk_within, h, hlist]
  · next hv =>
      rw [hv, Option.getD_none, Value.list.injEq] at h
      rw [List.map_eq_nil_iff.mp h.symm]
      rfl

/-- The steps of a document that passes are read one by one. -/
theorem steps_of_read (h : Workflow.read (.map fields) = .ok w)
    (hsteps : (Value.lookup? "steps" fields).getD (.list []) = .list (steps.map .map)) :
    steps.map (fun s => Step.check (.map s)) = w.steps.map .ok ∧
      text ((Value.map fields).get "startStep") = .ok w.startStep := by
  have hcheck : Workflow.check (.map fields) = .ok w := Checked.toExcept_eq_ok_iff.mp h
  simp only [Workflow.check, record, Checked.map_def, Checked.seq_def, Checked.seq_eq_ok_iff,
    Checked.map_eq_ok_iff] at hcheck
  obtain ⟨_, read, ⟨start, hstart, rfl⟩, hread, rfl⟩ := hcheck
  refine ⟨?_, check_get_of_required hstart⟩
  obtain ⟨hnone, rfl⟩ | ⟨v, hv, hlist⟩ := defaulted_eq_ok_iff.mp hread
  · rw [hnone, Option.getD_none, Value.list.injEq] at hsteps
    rw [List.map_eq_nil_iff.mp hsteps.symm, List.map_nil, List.map_nil]
  · rw [hv, Option.getD_some] at hsteps
    rw [hsteps, list, Checked.allFrom_eq_ok_iff, List.map_map] at hlist
    exact hlist

/-- What a document of JSON without findings is read as has no findings. -/
theorem sound_of_read (hj : ∀ s ∈ steps, (Value.map s).isJson = true)
    (hsteps : steps.map (fun s => Step.check (.map s)) = w.steps.map .ok)
    (hstart : w.startStep ∈ rawIds steps) (hs : ∀ s ∈ steps, s.Sound (rawIds steps)) : w.Sound := by
  have hids : w.stepIds = rawIds steps := Step.map_id_eq_rawIds hj hsteps
  have hread (t : Step) (ht : t ∈ w.steps) : ∃ s, s.Sound (rawIds steps) ∧ t.ReadFrom s := by
    have hmem : Checked.ok t ∈ steps.map fun s => Step.check (.map s) :=
      hsteps ▸ List.mem_map_of_mem ht
    obtain ⟨s, hmem, hcheck⟩ := List.mem_map.mp hmem
    exact ⟨s, hs s hmem, Step.readFrom_of_check (hj s hmem) hcheck⟩
  exact {
    ids := fun t ht => by
      obtain ⟨s, hsound, h⟩ := hread t ht
      exact h.id_ne_empty hsound
    services := fun t ht => by
      obtain ⟨s, hsound, h⟩ := hread t ht
      exact h.service_ne_empty hsound
    fallbacks := fun t ht => by
      obtain ⟨s, hsound, h⟩ := hread t ht
      exact h.exists_next hsound
    start := .inl (hids ▸ hstart)
    continuations := fun t ht target hn => by
      obtain ⟨s, hsound, h⟩ := hread t ht
      exact hids ▸ h.next_mem hsound hn
    targets := fun t ht c hc => by
      obtain ⟨s, hsound, h⟩ := hread t ht
      exact hids ▸ h.target_mem hsound hc
    subSteps := fun t ht target hmem => by
      obtain ⟨s, hsound, h⟩ := hread t ht
      exact hids ▸ h.subStep_mem hsound hmem }

/-- A document of JSON without findings passes the schema exactly when each of its steps fits, and
what it is read as has no findings. -/
theorem read_of_findings_eq_nil {document : Value} (hj : document.isJson = true)
    (h : documentFindings none document = []) :
    ∃ steps, rawSteps document = .ok steps ∧
      ((∃ w, Workflow.read document = .ok w) ↔ ∀ s ∈ steps, s.fits = true) ∧
      ∀ w, Workflow.read document = .ok w → w.findings = [] := by
  obtain ⟨steps, hraw, hstart, hsound⟩ := documentFindings_eq_nil_iff.mp h
  obtain ⟨fields, rfl, hsteps⟩ := rawSteps_eq_ok_iff.mp hraw
  rw [Option.filter_none, Option.toList_none, List.append_nil] at hstart
  obtain ⟨start, hmem, hfield⟩ := refersTo_iff.mp hstart
  have hsj : ∀ s ∈ steps, (Value.map s).isJson = true := by
    have hlist : (Value.list (steps.map .map)).isJson = true := by
      rw [← hsteps]
      cases hl : Value.lookup? "steps" fields with
      | none => rfl
      | some v => exact Value.isJson_of_lookup? hj hl
    exact fun s hs => Value.isJson_of_mem hlist _ (List.mem_map_of_mem hs)
  have hok : (Workflow.check (.map fields)).isOk = steps.all RawStep.fits := by
    have htext : (required "startStep" text fields).isOk = true :=
      (isOk_required_text hj "startStep").trans (RawStep.isText_of_refersTo hstart)
    simp only [Workflow.check, record, Checked.map_def, Checked.seq_def, Checked.isOk_seq,
      Checked.isOk_map, htext, Bool.true_and, isOk_steps hsteps]
    rw [Bool.eq_iff_iff, List.all_eq_true, List.all_eq_true]
    exact forall₂_congr fun s hs => by rw [(hsound s hs).isOk_check (hsj s hs)]
  refine ⟨steps, hraw, ?_, fun w hw => ?_⟩
  · rw [← List.all_eq_true, ← hok, Checked.isOk_iff]
    exact exists_congr fun w => Checked.toExcept_eq_ok_iff
  · obtain ⟨hread, hstartStep⟩ := steps_of_read hw hsteps
    have hid : w.startStep = start := by
      have hget : (Value.map fields).get "startStep" = .text start := hfield
      rw [hget, text_text] at hstartStep
      exact (Checked.ok.inj hstartStep).symm
    exact (findings_eq_nil_iff w).mpr (sound_of_read hsj hread (hid ▸ hmem) hsound)

/-- The document of one step that is started at. -/
def oneStep (fields : List (String × Value)) : Value :=
  .record [("startStep", .text "a"), ("steps", .list [.record (("id", .text "a") :: fields)])]

/-- A document whose only step passes the schema, with a field of the wrong form that an end step
does not have. -/
def fitting : Value := oneStep [("type", .text "end"), ("goToStep", .int 0)]

/-- The same with a service step, which has that field. -/
def unfitting : Value :=
  oneStep [("type", .text "service"), ("service", .text "idv"), ("goToStep", .int 0)]

theorem read_of_findings_eq_nil_oneStep :
    fitting.isJson = true ∧ documentFindings none fitting = [] ∧
      (∃ w, Workflow.read fitting = .ok w ∧ w.findings = []) ∧
      unfitting.isJson = true ∧ documentFindings none unfitting = [] ∧
      ¬ ∃ w, Workflow.read unfitting = .ok w := by
  have hfitting : documentFindings none fitting = [] := rfl
  have hunfitting : documentFindings none unfitting = [] := rfl
  refine ⟨rfl, hfitting, ?_, rfl, hunfitting, ?_⟩
  · obtain ⟨steps, hsteps, hread, hfindings⟩ := read_of_findings_eq_nil rfl hfitting
    obtain rfl : _ = steps := Except.ok.inj hsteps
    obtain ⟨w, hw⟩ := hread.mpr (by decide)
    exact ⟨w, hw, hfindings w hw⟩
  · obtain ⟨steps, hsteps, hread, -⟩ := read_of_findings_eq_nil rfl hunfitting
    obtain rfl : _ = steps := Except.ok.inj hsteps
    exact fun h => absurd (hread.mp h) (by decide)

/-- Documents whose only step does not pass the schema: a continuation, sub-steps, conditions, a
condition, a service and a type of the wrong form, and a step without a type. -/
def misfits : List Value :=
  [unfitting,
    oneStep [("type", .text "multi_services"), ("subSteps", .null)],
    oneStep [("type", .text "service"), ("service", .text "idv"), ("conditions", .bool false)],
    oneStep [("type", .text "service"), ("service", .text "idv"), ("goToStep", .text "a"),
      ("conditions", .list [.record [("goToStep", .text "a")]])],
    oneStep [("type", .text "service"), ("service", .int 1)],
    oneStep [("type", .text "start")],
    oneStep []]

/-- A document of JSON without findings can fail to pass the schema. -/
theorem misfits_not_read : misfits.Forall fun document => document.isJson = true ∧
    documentFindings none document = [] ∧ ∀ w, Workflow.read document ≠ .ok w := by
  have hread {document : Value} (h : (Workflow.check document).isOk = false) (w : Workflow) :
      Workflow.read document ≠ .ok w := by
    intro hw
    rw [Checked.isOk_iff.mpr ⟨w, Checked.toExcept_eq_ok_iff.mp hw⟩] at h
    cases h
  exact ⟨⟨rfl, rfl, hread rfl⟩, ⟨rfl, rfl, hread rfl⟩, ⟨rfl, rfl, hread rfl⟩, ⟨rfl, rfl, hread rfl⟩,
    ⟨rfl, rfl, hread rfl⟩, ⟨rfl, rfl, hread rfl⟩, ⟨rfl, rfl, hread rfl⟩⟩

end Workflow

end ServiceFlow
