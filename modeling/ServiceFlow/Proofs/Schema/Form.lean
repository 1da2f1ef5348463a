import Mathlib.Data.List.Nodup
import ServiceFlow.Proofs.Json.Values

/-!
# Forms of values

A form says which values a schema is meant for, and not how they are read: a text, null or something
else, a list of items, a record of fields that must or may be there. It also says what is wrong with
any other value, and at which places. A reader of JSON goes by a form when it passes exactly the
values that fit, and lists otherwise everything that is wrong, no place of it twice. There is one
rule for each way to put readers together.
-/

namespace ServiceFlow.Schema

/-- A field of a record, over the forms that there are for what stands in it. -/
structure Slot (φ : Type) where
  /-- The name of the field. -/
  name : String
  /-- Another name, which counts instead wherever a record has it. -/
  preferred : Option String
  /-- Whether the field has to be there. -/
  isRequired : Bool
  /-- The form of what stands in the field. -/
  form : φ

/-- What a value is meant to be. -/
inductive Form where
  | text
  /-- Null, or something of a form. -/
  | nullable (form : Form)
  | list (item : Form)
  /-- A record of a given name; what its slots do not name may be anything. -/
  | record (name : String) (slots : List (Slot Form))

namespace Slot

variable {φ : Type}

/-- A field that has to be there. -/
def required (name : String) (form : φ) : Slot φ := ⟨name, none, true, form⟩

/-- A field that may be left out. -/
def optional (name : String) (form : φ) : Slot φ := ⟨name, none, false, form⟩

/-- The field with another name that counts instead of its own. -/
def preferring (other : String) (s : Slot φ) : Slot φ := { s with preferred := some other }

/-- The names under which a record can have a field. -/
def names (s : Slot φ) : List String := s.name :: s.preferred.toList

/-- The name under which a record has a field, or should have it. -/
def key (s : Slot φ) (fields : Fields) : String :=
  match s.preferred with
  | some other => if (Value.lookup? other fields).isSome then other else s.name
  | none => s.name

/-- What stands in a field of a record. -/
def value? (s : Slot φ) (fields : Fields) : Option Value := Value.lookup? (s.key fields) fields

theorem key_mem_names (s : Slot φ) (fields : Fields) : s.key fields ∈ s.names := by
  unfold key names
  split
  · next other hother =>
      rw [hother]
      split
      · exact List.mem_cons_of_mem _ (List.mem_singleton.mpr rfl)
      · exact List.mem_cons_self
  · exact List.mem_cons_self

end Slot

mutual

/-- Whether a value has a form. -/
inductive Form.Fits : Form → Value → Prop
  | text (s : String) : Form.Fits .text (.text s)
  | null (form : Form) : Form.Fits (.nullable form) .null
  | some {form : Form} {v : Value} (h : Form.Fits form v) : Form.Fits (.nullable form) v
  | list {item : Form} {items : List Value} (h : ∀ v ∈ items, Form.Fits item v) :
      Form.Fits (.list item) (.list items)
  | record {name : String} {slots : List (Slot Form)} {fields : Fields}
      (h : ∀ s ∈ slots, Slot.Fits s fields) : Form.Fits (.record name slots) (.map fields)

/-- Whether a record has a field as it is meant to be. -/
inductive Slot.Fits : Slot Form → Fields → Prop
  | present {s : Slot Form} {fields : Fields} {v : Value} (hv : s.value? fields = some v)
      (h : Form.Fits s.form v) : Slot.Fits s fields
  | absent {s : Slot Form} {fields : Fields} (hv : s.value? fields = none)
      (hs : s.isRequired = false) : Slot.Fits s fields

end

mutual

/-- What is wrong with a value that is meant to have a form, and at which place. -/
inductive Form.Misfit : Form → Value → List Step → Cause → Prop
  | text {v : Value} (hv : ∀ s, v ≠ .text s) : Form.Misfit .text v [] .notText
  | some {form : Form} {v : Value} {place : List Step} {cause : Cause} (hv : v ≠ .null)
      (h : Form.Misfit form v place cause) : Form.Misfit (.nullable form) v place cause
  | list {item : Form} {v : Value} (hv : ∀ items, v ≠ .list items) :
      Form.Misfit (.list item) v [] .notList
  | item {item : Form} {items : List Value} {k : Nat} {v : Value} {place : List Step}
      {cause : Cause} (hv : items[k]? = some v) (h : Form.Misfit item v place cause) :
      Form.Misfit (.list item) (.list items) (.index k :: place) cause
  | record {name : String} {slots : List (Slot Form)} {v : Value}
      (hv : ∀ fields, v ≠ .map fields) : Form.Misfit (.record name slots) v [] (.notRecord name)
  | slot {name : String} {slots : List (Slot Form)} {fields : Fields} {s : Slot Form}
      {place : List Step} {cause : Cause} (hs : s ∈ slots)
      (h : Slot.Misfit s fields place cause) :
      Form.Misfit (.record name slots) (.map fields) place cause

/-- What is wrong with a field of a record, and at which place of the record. -/
inductive Slot.Misfit : Slot Form → Fields → List Step → Cause → Prop
  | missing {s : Slot Form} {fields : Fields} (hv : s.value? fields = none)
      (hs : s.isRequired = true) : Slot.Misfit s fields [.field (s.key fields)] .missing
  | present {s : Slot Form} {fields : Fields} {v : Value} {place : List Step} {cause : Cause}
      (hv : s.value? fields = some v) (h : Form.Misfit s.form v place cause) :
      Slot.Misfit s fields (.field (s.key fields) :: place) cause

end

section Inversion

variable {form : Form} {s : Slot Form} {fields : Fields} {v : Value} {place : List Step}
  {cause : Cause}

theorem Form.fits_text_iff : Form.text.Fits v ↔ ∃ s, v = .text s := by
  constructor
  · rintro ⟨s⟩
    exact ⟨s, rfl⟩
  · rintro ⟨s, rfl⟩
    exact .text s

theorem Form.misfit_text_iff :
    Form.text.Misfit v place cause ↔ (∀ s, v ≠ .text s) ∧ place = [] ∧ cause = .notText := by
  constructor
  · rintro ⟨hv⟩
    exact ⟨hv, rfl, rfl⟩
  · rintro ⟨hv, rfl, rfl⟩
    exact .text hv

theorem Form.fits_nullable_iff : (Form.nullable form).Fits v ↔ v = .null ∨ form.Fits v := by
  constructor
  · intro h
    cases h with
    | null => exact .inl rfl
    | some h => exact .inr h
  · rintro (rfl | h)
    · exact .null form
    · exact .some h

theorem Form.misfit_nullable_iff :
    (Form.nullable form).Misfit v place cause ↔ v ≠ .null ∧ form.Misfit v place cause := by
  constructor
  · intro h
    cases h with
    | some hv h => exact ⟨hv, h⟩
  · rintro ⟨hv, h⟩
    exact .some hv h

theorem Form.fits_list_iff {items : List Value} :
    (Form.list form).Fits (.list items) ↔ ∀ v ∈ items, form.Fits v := by
  constructor
  · intro h
    cases h with
    | list h => exact h
  · exact .list

/-- Something is wrong with a list where something is wrong with one of its items. -/
theorem Form.misfit_list_iff {items : List Value} :
    (Form.list form).Misfit (.list items) place cause ↔
      ∃ k v rest, items[k]? = some v ∧ place = .index (k : Nat) :: rest ∧
        form.Misfit v rest cause := by
  constructor
  · intro h
    cases h with
    | list hv => exact absurd rfl (hv items)
    | item hv h => exact ⟨_, _, _, hv, rfl, h⟩
  · rintro ⟨k, v, rest, hv, rfl, h⟩
    exact .item hv h

theorem Form.misfit_list_iff_of_ne (hv : ∀ items, v ≠ .list items) :
    (Form.list form).Misfit v place cause ↔ place = [] ∧ cause = .notList := by
  constructor
  · intro h
    cases h with
    | list => exact ⟨rfl, rfl⟩
    | item => exact absurd rfl (hv _)
  · rintro ⟨rfl, rfl⟩
    exact .list hv

theorem Form.fits_record_iff {name : String} {slots : List (Slot Form)} :
    (Form.record name slots).Fits (.map fields) ↔ ∀ s ∈ slots, s.Fits fields := by
  constructor
  · intro h
    cases h with
    | record h => exact h
  · exact .record

/-- Something is wrong with a record where something is wrong with one of its fields. -/
theorem Form.misfit_record_iff {name : String} {slots : List (Slot Form)} :
    (Form.record name slots).Misfit (.map fields) place cause ↔
      ∃ s ∈ slots, s.Misfit fields place cause := by
  constructor
  · intro h
    cases h with
    | record hv => exact absurd rfl (hv fields)
    | slot hs h => exact ⟨_, hs, h⟩
  · rintro ⟨s, hs, h⟩
    exact .slot hs h

theorem Form.misfit_record_iff_of_ne {name : String} {slots : List (Slot Form)}
    (hv : ∀ fields, v ≠ .map fields) :
    (Form.record name slots).Misfit v place cause ↔ place = [] ∧ cause = .notRecord name := by
  constructor
  · intro h
    cases h with
    | record => exact ⟨rfl, rfl⟩
    | slot => exact absurd rfl (hv _)
  · rintro ⟨rfl, rfl⟩
    exact .record hv

/-- A field that is there fits when what stands in it does. -/
theorem Slot.fits_iff_of_present (hv : s.value? fields = some v) :
    s.Fits fields ↔ s.form.Fits v := by
  constructor
  · rintro (⟨hw, h⟩ | ⟨hw, -⟩)
    · obtain rfl := Option.some.inj (hv.symm.trans hw)
      exact h
    · cases hv.symm.trans hw
  · exact .present hv

/-- What is wrong with a field that is there is wrong with what stands in it. -/
theorem Slot.misfit_iff_of_present (hv : s.value? fields = some v) :
    s.Misfit fields place cause ↔
      ∃ rest, place = .field (s.key fields) :: rest ∧ s.form.Misfit v rest cause := by
  constructor
  · rintro (⟨hw, -⟩ | ⟨hw, h⟩)
    · cases hv.symm.trans hw
    · obtain rfl := Option.some.inj (hv.symm.trans hw)
      exact ⟨_, rfl, h⟩
  · rintro ⟨rest, rfl, h⟩
    exact .present hv h

/-- A field that is left out fits unless it has to be there. -/
theorem Slot.fits_iff_of_absent (hv : s.value? fields = none) :
    s.Fits fields ↔ s.isRequired = false := by
  constructor
  · rintro (⟨hw, -⟩ | ⟨-, hs⟩)
    · cases hv.symm.trans hw
    · exact hs
  · exact .absent hv

/-- The one thing that can be wrong with a field that is left out is that. -/
theorem Slot.misfit_iff_of_absent (hv : s.value? fields = none) :
    s.Misfit fields place cause ↔
      s.isRequired = true ∧ place = [.field (s.key fields)] ∧ cause = .missing := by
  constructor
  · rintro (⟨-, hs⟩ | ⟨hw, -⟩)
    · exact ⟨hs, rfl, rfl⟩
    · cases hv.symm.trans hw
  · rintro ⟨hs, rfl, rfl⟩
    exact .missing hv hs

/-- What is wrong with a field is wrong under the name by which the record has it. -/
theorem Slot.Misfit.exists_place (h : s.Misfit fields place cause) :
    ∃ rest, place = .field (s.key fields) :: rest := by
  cases h with
  | missing hv hs => exact ⟨[], rfl⟩
  | present hv h => exact ⟨_, rfl⟩

end Inversion

variable {α β : Type}

namespace Checked

/-- Whether a check passes exactly when something holds, and lists all that is wrong and nothing
else, no place of it twice. -/
structure Tells (x : Checked α) (fits : Prop) (misfit : List Step → Cause → Prop) : Prop where
  isOk_iff : x.isOk = true ↔ fits
  issues_eq_nil_iff : x.issues = [] ↔ fits
  mem_issues_iff : ∀ place cause, ⟨place, cause⟩ ∈ x.issues ↔ misfit place cause
  nodup : (x.issues.map (·.place)).Nodup

theorem issues_within (step : Step) (x : Checked α) :
    (x.within step).issues = x.issues.map fun i => { i with place := step :: i.place } := by
  cases x <;> rfl

namespace Tells

variable {x : Checked α} {fits fits' : Prop} {misfit misfit' : List Step → Cause → Prop}

/-- A check that passes tells that all is well. -/
theorem of_ok {a : α} (h : fits) (hm : ∀ place cause, ¬ misfit place cause) :
    (ok a).Tells fits misfit where
  isOk_iff := iff_of_true rfl h
  issues_eq_nil_iff := iff_of_true rfl h
  mem_issues_iff := fun place cause => iff_of_false List.not_mem_nil (hm place cause)
  nodup := List.nodup_nil

/-- A check that fails at its own place tells that one thing is wrong. -/
theorem of_fail {cause : Cause} (h : ¬ fits)
    (hm : ∀ place c, misfit place c ↔ place = [] ∧ c = cause) :
    (fail cause : Checked α).Tells fits misfit where
  isOk_iff := iff_of_false Bool.false_ne_true h
  issues_eq_nil_iff := iff_of_false (List.cons_ne_nil _ _) h
  mem_issues_iff := fun place c => by simp [fail, issues, hm]
  nodup := List.nodup_singleton _

/-- What a check tells may be put in other words. -/
theorem congr (h : x.Tells fits misfit) (hf : fits ↔ fits')
    (hm : ∀ place cause, misfit place cause ↔ misfit' place cause) : x.Tells fits' misfit' where
  isOk_iff := h.isOk_iff.trans hf
  issues_eq_nil_iff := h.issues_eq_nil_iff.trans hf
  mem_issues_iff := fun place cause => (h.mem_issues_iff place cause).trans (hm place cause)
  nodup := h.nodup

/-- Changing the result changes nothing in what is told. -/
theorem map (h : x.Tells fits misfit) (f : α → β) : (x.map f).Tells fits misfit where
  isOk_iff := by rw [isOk_map, h.isOk_iff]
  issues_eq_nil_iff := by rw [issues_map, h.issues_eq_nil_iff]
  mem_issues_iff := by simpa only [issues_map] using h.mem_issues_iff
  nodup := by simpa only [issues_map] using h.nodup

/-- Naming the step moves every place one step further down. -/
theorem within (h : x.Tells fits misfit) (step : Step) :
    (x.within step).Tells fits fun place cause =>
      ∃ rest, place = step :: rest ∧ misfit rest cause where
  isOk_iff := by rw [isOk_within, h.isOk_iff]
  issues_eq_nil_iff := by rw [issues_within, List.map_eq_nil_iff, h.issues_eq_nil_iff]
  mem_issues_iff := by
    intro place cause
    rw [issues_within, List.mem_map]
    constructor
    · rintro ⟨i, hi, heq⟩
      obtain ⟨rfl, rfl⟩ := Issue.mk.inj heq
      exact ⟨i.place, rfl, (h.mem_issues_iff _ _).mp hi⟩
    · rintro ⟨rest, rfl, hrest⟩
      exact ⟨⟨rest, cause⟩, (h.mem_issues_iff _ _).mpr hrest, rfl⟩
  nodup := by
    have hplaces : (x.within step).issues.map (·.place) =
        (x.issues.map (·.place)).map (step :: ·) := by
      rw [issues_within, List.map_map, List.map_map]
      rfl
    rw [hplaces]
    exact h.nodup.map List.cons_injective

/-- Two checks of things at different places tell what each of them tells. -/
theorem seq {f : Checked (α → β)} (hf : f.Tells fits misfit) (hx : x.Tells fits' misfit')
    (hd : ∀ place cause cause', misfit place cause → ¬ misfit' place cause') :
    (f.seq x).Tells (fits ∧ fits') fun place cause => misfit place cause ∨ misfit' place cause where
  isOk_iff := by rw [isOk_seq, Bool.and_eq_true, hf.isOk_iff, hx.isOk_iff]
  issues_eq_nil_iff := by
    rw [issues_seq, List.append_eq_nil_iff, hf.issues_eq_nil_iff, hx.issues_eq_nil_iff]
  mem_issues_iff := by
    intro place cause
    rw [issues_seq, List.mem_append, hf.mem_issues_iff, hx.mem_issues_iff]
  nodup := by
    rw [issues_seq, List.map_append, List.nodup_append]
    refine ⟨hf.nodup, hx.nodup, ?_⟩
    intro place hplace place' hplace'
    obtain ⟨i, hi, rfl⟩ := List.mem_map.mp hplace
    obtain ⟨j, hj, rfl⟩ := List.mem_map.mp hplace'
    intro heq
    apply hd i.place i.cause j.cause ((hf.mem_issues_iff _ _).mp hi)
    rw [heq]
    exact (hx.mem_issues_iff _ _).mp hj

/-- A list tells what its items tell, each at its position. -/
theorem allFrom {check : β → Checked α} {fits : β → Prop}
    {misfit : β → List Step → Cause → Prop} {items : List β}
    (h : ∀ b ∈ items, (check b).Tells (fits b) (misfit b)) (start : Nat) :
    (allFrom check start items).Tells (∀ b ∈ items, fits b) fun place cause =>
      ∃ k b rest, items[k]? = some b ∧ place = .index ((start + k : Nat) : Int) :: rest ∧
        misfit b rest cause := by
  induction items generalizing start with
  | nil => exact of_ok (by simp) (by simp)
  | cons b rest ih =>
      obtain ⟨hb, hrest⟩ := List.forall_mem_cons.mp h
      have hfirst := (hb.within (.index start)).map List.cons
      have hlater := ih hrest (start + 1)
      refine (hfirst.seq hlater ?_).congr List.forall_mem_cons.symm fun place cause => ?_
      · -- the first item has the position `start`, and all others have later ones
        rintro _ _ _ ⟨_, rfl, -⟩ ⟨k, _, _, -, heq, -⟩
        have hstart := Step.index.inj (List.head_eq_of_cons_eq heq)
        omega
      · constructor
        · rintro (⟨below, rfl, hm⟩ | ⟨k, b', below, hk, rfl, hm⟩)
          · exact ⟨0, b, below, rfl, rfl, hm⟩
          · exact ⟨k + 1, b', below, hk, by rw [Nat.add_right_comm, Nat.add_assoc], hm⟩
        · rintro ⟨k, b', below, hk, rfl, hm⟩
          cases k with
          | zero =>
              obtain rfl := Option.some.inj hk
              exact .inl ⟨below, rfl, hm⟩
          | succ k => exact .inr ⟨k, b', below, hk, by rw [Nat.add_right_comm, Nat.add_assoc], hm⟩

end Tells

/-- Whether a check of a record tells how a field of it stands to its slot. -/
abbrev TellsSlot (x : Checked α) (s : Slot Form) (fields : Fields) : Prop :=
  x.Tells (s.Fits fields) (s.Misfit fields)

/-- Whether a check of a record tells how its fields stand to some slots. -/
abbrev TellsSlots (x : Checked α) (slots : List (Slot Form)) (fields : Fields) : Prop :=
  x.Tells (∀ s ∈ slots, s.Fits fields) fun place cause => ∃ s ∈ slots, s.Misfit fields place cause

variable {x : Checked α} {s : Slot Form} {slots : List (Slot Form)} {fields : Fields}

/-- A check of one field is one of a record with that field. -/
theorem TellsSlot.single (h : x.TellsSlot s fields) (f : α → β) :
    (x.map f).TellsSlots [s] fields :=
  (h.map f).congr (by simp) (by simp)

/-- One more field under names of its own is told of after the others. -/
theorem TellsSlots.seq {f : Checked (α → β)} (hf : f.TellsSlots slots fields)
    (hx : x.TellsSlot s fields) (hd : ∀ name ∈ s.names, name ∉ slots.flatMap (·.names)) :
    (f.seq x).TellsSlots (slots ++ [s]) fields := by
  refine (Tells.seq hf hx ?_).congr (by simp [or_imp, forall_and])
    (by simp [or_and_right, exists_or])
  rintro place _ _ ⟨t, ht, hmt⟩ hms
  obtain ⟨rest, rfl⟩ := hmt.exists_place
  obtain ⟨rest', heq⟩ := hms.exists_place
  have hkey : t.key fields = s.key fields := Step.field.inj (List.head_eq_of_cons_eq heq)
  apply hd _ (s.key_mem_names fields)
  exact List.mem_flatMap.mpr ⟨t, ht, hkey ▸ t.key_mem_names fields⟩

/-- What passes in any case tells nothing new. -/
theorem TellsSlots.seq_ok {f : Checked (α → β)} (hf : f.TellsSlots slots fields)
    (hx : ∃ a, x = .ok a) : (f.seq x).TellsSlots slots fields := by
  obtain ⟨a, rfl⟩ := hx
  have htrue : (ok a).Tells True fun _ _ => False := .of_ok trivial (by simp)
  exact (Tells.seq hf htrue (by simp)).congr (iff_of_eq (and_true _)) (by simp)

end Checked

open Checked (TellsSlot TellsSlots)

/-- Whether a reader goes by a form on the values of JSON. -/
def Form.Describes (form : Form) (check : Value → Checked α) : Prop :=
  ∀ v : Value, v.isJson = true → (check v).Tells (form.Fits v) (form.Misfit v)

variable {form : Form} {check : Value → Checked α} {fields : Fields}

/-- A reader that passes values of one shape only goes by a form of such values when it does so on
these: with every other value of JSON the one thing that is wrong is its shape. -/
theorem Form.describes_of_shape {γ : Type} (shape : γ → Value) (cause : Cause)
    (hshape : ∀ a, (shape a).isJson = true →
      (check (shape a)).Tells (form.Fits (shape a)) (form.Misfit (shape a)))
    (hfail : ∀ v, v.isJson = true → (∀ a, v ≠ shape a) → check v = .fail cause)
    (hfits : ∀ v, form.Fits v → ∃ a, v = shape a)
    (hmisfit : ∀ v, (∀ a, v ≠ shape a) →
      ∀ place c, form.Misfit v place c ↔ place = [] ∧ c = cause) :
    form.Describes check := by
  intro v hj
  by_cases hv : ∃ a, v = shape a
  · obtain ⟨a, rfl⟩ := hv
    exact hshape a hj
  · have hne (a : γ) : v ≠ shape a := fun h => hv ⟨a, h⟩
    rw [hfail v hj hne]
    exact .of_fail (mt (hfits v) hv) (hmisfit v hne)

/-- Reading a text goes by the form of texts: of the values of JSON only texts count as such. -/
theorem Form.describes_text : Form.text.Describes Schema.text := by
  refine describes_of_shape Value.text .notText ?_ ?_ (fun v => fits_text_iff.mp) ?_
  · intro s _
    refine .of_ok (.text s) fun place cause hm => ?_
    exact (misfit_text_iff.mp hm).1 s rfl
  · intro v hj hne
    cases v with
    | scalar s =>
        cases s with
        | text s => exact absurd rfl (hne s)
        | bytes bs => cases hj
        | _ => rfl
    | _ => rfl
  · intro v hne place cause
    rw [misfit_text_iff, and_iff_right hne]

/-- Null is read as nothing, and all else as it would be without that. -/
theorem Form.Describes.nullable (h : form.Describes check) :
    (Form.nullable form).Describes (Schema.nullable check) := by
  intro v hj
  by_cases hv : v = .null
  · subst hv
    refine .of_ok (.null form) fun place cause hm => ?_
    exact (misfit_nullable_iff.mp hm).1 rfl
  · have hcheck : Schema.nullable check v = (check v).map some := by
      unfold Schema.nullable
      split
      · exact absurd rfl hv
      · rfl
    rw [hcheck]
    refine ((h v hj).map some).congr ?_ fun place cause => ?_
    · rw [fits_nullable_iff, or_iff_right hv]
    · rw [misfit_nullable_iff, and_iff_right hv]

/-- Of the values of JSON only lists count as such, and their items are read one by one. -/
theorem Form.Describes.list (h : form.Describes check) :
    (Form.list form).Describes (Schema.list check) := by
  refine describes_of_shape Value.list .notList ?_ ?_ ?_ ?_
  · intro items hj
    have hitems : ∀ v ∈ items, (check v).Tells (form.Fits v) (form.Misfit v) :=
      fun v hmem => h v (Value.isJson_of_mem hj v hmem)
    refine (Checked.Tells.allFrom hitems 0).congr fits_list_iff.symm fun place cause => ?_
    simp only [misfit_list_iff, Nat.zero_add]
  · intro v hj hne
    cases v with
    | list items => exact absurd rfl (hne items)
    | pair _ _ | set _ => cases hj
    | _ => rfl
  · rintro v ⟨⟩
    exact ⟨_, rfl⟩
  · exact fun v hne place cause => misfit_list_iff_of_ne hne

/-- A record goes by its slots when its fields do. -/
theorem Form.describes_record {name : String} {slots : List (Slot Form)}
    {check : Fields → Checked α}
    (h : ∀ fields, (Value.map fields).isJson = true → (check fields).TellsSlots slots fields) :
    (Form.record name slots).Describes (Schema.record name check) := by
  refine describes_of_shape Value.map (.notRecord name) ?_ ?_ ?_ ?_
  · intro fields hj
    exact (h fields hj).congr fits_record_iff.symm fun _ _ => misfit_record_iff.symm
  · intro v hj hne
    cases v with
    | map fields => exact absurd rfl (hne fields)
    | _ => rfl
  · rintro v ⟨⟩
    exact ⟨_, rfl⟩
  · exact fun v hne place cause => misfit_record_iff_of_ne hne

section Fields

variable (h : form.Describes check) (hj : (Value.map fields).isJson = true)

include h hj

/-- What stands in a field is read, and told of under the name of the field. -/
theorem Form.Describes.tellsSlot_of_present {s : Slot Form} (hs : s.form = form) {v : Value}
    (hv : s.value? fields = some v) :
    ((check v).within (.field (s.key fields))).TellsSlot s fields := by
  subst hs
  refine ((h v (Value.isJson_of_lookup? hj hv)).within _).congr ?_ fun place cause => ?_
  · exact (Slot.fits_iff_of_present hv).symm
  · exact (Slot.misfit_iff_of_present hv).symm

/-- A field that has to be there is read, or told of as missing. -/
theorem Form.Describes.required (name : String) :
    (Schema.required name check fields).TellsSlot (.required name form) fields := by
  unfold Schema.required
  split
  · next v hv =>
      have hv : (Slot.required name form).value? fields = some v := hv
      exact h.tellsSlot_of_present hj rfl hv
  · next hv =>
      have hv : (Slot.required name form).value? fields = none := hv
      have hmissing : (Checked.fail .missing : Checked α).Tells False
          fun place cause => place = [] ∧ cause = .missing := .of_fail id fun _ _ => Iff.rfl
      refine (hmissing.within (.field name)).congr ?_ fun place cause => ?_
      · rw [Slot.fits_iff_of_absent hv]
        exact iff_of_false id nofun
      · rw [Slot.misfit_iff_of_absent hv]
        constructor
        · rintro ⟨_, rfl, rfl, rfl⟩
          exact ⟨rfl, rfl, rfl⟩
        · rintro ⟨-, rfl, rfl⟩
          exact ⟨[], rfl, rfl, rfl⟩

/-- A field that may be left out is read under the name by which the record has it. -/
theorem Form.Describes.defaulted (s : Slot Form) (hs : s.form = form)
    (hr : s.isRequired = false) (absent : α) :
    (Schema.defaulted (s.key fields) absent check fields).TellsSlot s fields := by
  unfold Schema.defaulted
  split
  · next v hv => exact h.tellsSlot_of_present hj hs hv
  · next hv =>
      refine .of_ok (.absent hv hr) fun place cause hm => ?_
      rw [Slot.misfit_iff_of_absent hv, hr] at hm
      cases hm.1

theorem Form.Describes.optional (name : String) (absent : α) :
    (Schema.defaulted name absent check fields).TellsSlot (.optional name form) fields :=
  h.defaulted hj (.optional name form) rfl rfl absent

end Fields

/-- The keys of JSON are texts, so fields that are not declared pass. -/
theorem exists_undeclared_eq_ok (hj : (Value.map fields).isJson = true) (declared : List String) :
    ∃ others, undeclared declared fields = .ok others := by
  rw [Value.isJson] at hj
  induction fields with
  | nil => exact ⟨[], rfl⟩
  | cons f rest ih =>
      obtain ⟨k, v⟩ := f
      rw [Value.entriesAreJson, Bool.and_eq_true, Bool.and_eq_true] at hj
      obtain ⟨⟨hk, -⟩, hrest⟩ := hj
      obtain ⟨others, hothers⟩ := ih hrest
      cases k with
      | text name =>
          simp only [undeclared, hothers]
          split
          · exact ⟨others, rfl⟩
          · exact ⟨_, rfl⟩
      | _ => cases hk

end ServiceFlow.Schema
