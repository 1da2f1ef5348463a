import Mathlib.Data.List.Forall2
import ServiceFlow.Proofs.Schema.Passing

/-!
# How far down a reader looks

The collections of a document are shown some way down and folded from there on. A value deepens
another when it shows what the other shows, down to a number of levels at least. A reader that looks
no further down than that cannot tell the two apart: if the shallower value passes, the deeper one
passes too, and what they are read as is the same as far as it was looked at. There is one rule for
each way to put readers together.
-/

namespace ServiceFlow

namespace Value

/-- Whether the second value shows `k` levels of what the first shows. What the first has folded may
be anything in the second; scalars are always shown. -/
def Deepens : Nat → Value → Value → Prop
  | _, .scalar s, w => w = .scalar s
  | 0, _, _ => True
  | k + 1, .list items, w => ∃ items', w = .list items' ∧ List.Forall₂ (Deepens k) items items'
  | k + 1, .map entries, w => ∃ entries', w = .map entries' ∧
    List.Forall₂ (fun e e' => e.1 = e'.1 ∧ Deepens k e.2 e'.2) entries entries'
  | k + 1, .pair a b, w => ∃ a' b', w = .pair a' b' ∧ Deepens k a a' ∧ Deepens k b b'
  | _ + 1, .set members, w => w = .set members
  | _ + 1, .foldedList, _ | _ + 1, .foldedMap, _ | _ + 1, .foldedPair, _ => True

variable {k : Nat}

/-- Scalars are shown at every depth. -/
theorem deepens_scalar (k : Nat) (s : Scalar) : Deepens k (.scalar s) (.scalar s) := by
  cases k <;> rfl

theorem deepens_scalar_iff {s : Scalar} {w : Value} :
    Deepens k (.scalar s) w ↔ w = .scalar s := by
  cases k <;> rfl

/-- Whether the entries of a mapping have the same keys as others, and values that are deepened. -/
def DeepensEntries (k : Nat) : List (Scalar × Value) → List (Scalar × Value) → Prop :=
  List.Forall₂ fun e e' => e.1 = e'.1 ∧ Deepens k e.2 e'.2

/-- What stands under a name is missing from both, or deepened. -/
theorem DeepensEntries.lookup? {fields fields' : List (Scalar × Value)}
    (h : DeepensEntries k fields fields') (name : String) :
    lookup? name fields = none ∧ lookup? name fields' = none ∨
      ∃ v w, lookup? name fields = some v ∧ lookup? name fields' = some w ∧ Deepens k v w := by
  unfold Value.lookup?
  induction h with
  | nil => exact .inl ⟨rfl, rfl⟩
  | @cons e e' fields fields' he _ ih =>
      obtain ⟨key, v⟩ := e
      obtain ⟨key', w⟩ := e'
      obtain ⟨rfl, hvw⟩ := he
      simp only [Table.find?]
      split
      · exact .inr ⟨v, w, rfl, rfl, hvw⟩
      · exact ih

/-- The parts of a value that is read as a list are deepened one by one. -/
theorem Deepens.parts? {v w : Value} (h : Deepens (k + 1) v w) {items : List Value}
    (hp : v.parts? = some items) :
    ∃ items', w.parts? = some items' ∧ List.Forall₂ (Deepens k) items items' := by
  cases v with
  | list vs =>
      obtain ⟨ws, rfl, hws⟩ := h
      obtain rfl := Option.some.inj hp
      exact ⟨ws, rfl, hws⟩
  | pair a b =>
      obtain ⟨a', b', rfl, ha, hb⟩ := h
      obtain rfl := Option.some.inj hp
      exact ⟨[a', b'], rfl, .cons ha (.cons hb .nil)⟩
  | set members =>
      obtain rfl : w = .set members := h
      obtain rfl := Option.some.inj hp
      exact ⟨_, rfl, List.forall₂_same.mpr fun v hv => by
        obtain ⟨s, -, rfl⟩ := List.mem_map.mp hv
        exact deepens_scalar k s⟩
  | _ => cases hp

end Value

namespace Schema

variable {α β γ δ : Type} {k : Nat}

namespace Checked

/-- Whether the second check passes if the first does, with a result that is related to that of the
first. -/
def Follows (R : α → β → Prop) (x : Checked α) (y : Checked β) : Prop :=
  ∀ a, x = .ok a → ∃ b, y = .ok b ∧ R a b

variable {R : α → β → Prop} {S : γ → δ → Prop}

theorem Follows.ok {a : α} {b : β} (h : R a b) : Follows R (.ok a) (.ok b) := by
  rintro _ ⟨⟩
  exact ⟨b, rfl, h⟩

/-- A check that fails is followed by any. -/
theorem Follows.faulty (issues : List Issue) (y : Checked β) : Follows R (.faulty issues) y := by
  rintro _ ⟨⟩

theorem Follows.map {x : Checked α} {y : Checked β} (h : Follows R x y) {f : α → γ} {g : β → δ}
    (hf : ∀ a b, R a b → S (f a) (g b)) : Follows S (x.map f) (y.map g) := by
  intro c hc
  obtain ⟨a, rfl, rfl⟩ := map_eq_ok_iff.mp hc
  obtain ⟨b, rfl, hab⟩ := h a rfl
  exact ⟨g b, rfl, hf a b hab⟩

theorem Follows.seq {f : Checked (α → γ)} {g : Checked (β → δ)}
    (hf : Follows (fun p q => ∀ a b, R a b → S (p a) (q b)) f g) {x : Checked α} {y : Checked β}
    (h : Follows R x y) : Follows S (f.seq x) (g.seq y) := by
  intro c hc
  obtain ⟨p, a, rfl, rfl, rfl⟩ := seq_eq_ok_iff.mp hc
  obtain ⟨q, rfl, hpq⟩ := hf p rfl
  obtain ⟨b, rfl, hab⟩ := h a rfl
  exact ⟨q b, rfl, hpq a b hab⟩

theorem Follows.within {x : Checked α} {y : Checked β} (h : Follows R x y) (step : Step) :
    Follows R (x.within step) (y.within step) := by
  intro a ha
  obtain ⟨b, hb, hab⟩ := h a (within_eq_ok_iff.mp ha)
  exact ⟨b, within_eq_ok_iff.mpr hb, hab⟩

end Checked

open Checked (Follows)

/-- Whether a reader looks at most `k` levels down: values that are deepened as far pass after the
shallower ones, and are read as something that is related. -/
def Reaches (k : Nat) (check : Value → Checked α) (R : α → α → Prop) : Prop :=
  ∀ v w, Value.Deepens k v w → Follows R (check v) (check w)

/-- Whether a reader of entries looks at most `k` levels down. -/
def FieldsReach (k : Nat) (check : Fields → Checked α) (R : α → α → Prop) : Prop :=
  ∀ fields fields', Value.DeepensEntries k fields fields' → Follows R (check fields) (check fields')

variable {check : Value → Checked α} {R : α → α → Prop}

/-- A text has no levels. -/
theorem reaches_text (k : Nat) : Reaches k text Eq := by
  intro v w h s hs
  cases v with
  | scalar t =>
      rw [Value.deepens_scalar_iff.mp h]
      exact ⟨s, hs, rfl⟩
  | _ => cases hs

/-- A reader that does not take null for something may be asked for something or nothing. -/
theorem Reaches.nullable (h : Reaches k check R) (hnull : ∀ a, check .null ≠ .ok a)
    {S : Option α → Option α → Prop} (hnone : S none none)
    (hsome : ∀ a b, R a b → S (some a) (some b)) : Reaches k (nullable check) S := by
  intro v w hvw o ho
  cases o with
  | none =>
      obtain rfl := nullable_eq_ok_none_iff.mp ho
      rw [Value.deepens_scalar_iff.mp hvw]
      exact ⟨none, rfl, hnone⟩
  | some a =>
      obtain ⟨b, hb, hab⟩ := h v w hvw a (check_of_nullable ho)
      refine ⟨some b, ?_, hsome a b hab⟩
      unfold Schema.nullable
      split
      · exact absurd hb (hnull b)
      · rw [hb]
        rfl

/-- An optional text has no levels. -/
theorem reaches_optionalText (k : Nat) : Reaches k (nullable text) Eq :=
  (reaches_text k).nullable nofun rfl fun _ _ h => congrArg some h

/-- The items of a list are one level further down. -/
theorem Reaches.list (h : Reaches k check R) :
    Reaches (k + 1) (list check) (List.Forall₂ R) := by
  intro v w hvw as has
  obtain ⟨items, hparts, hitems⟩ := list_eq_ok_iff.mp has
  obtain ⟨items', hparts', hdeep⟩ := hvw.parts? hparts
  obtain ⟨bs, hbs, hrel⟩ : ∃ bs, items'.map check = bs.map .ok ∧ List.Forall₂ R as bs := by
    clear hparts hparts' has
    induction hdeep generalizing as with
    | nil =>
        obtain rfl := List.map_eq_nil_iff.mp hitems.symm
        exact ⟨[], rfl, .nil⟩
    | @cons v w items items' hvw _ ih =>
        obtain ⟨a, as, rfl, ha, has⟩ := List.map_eq_cons_iff.mp hitems.symm
        obtain ⟨b, hb, hab⟩ := h v w hvw a ha.symm
        obtain ⟨bs, hbs, hrel⟩ := ih as has.symm
        exact ⟨b :: bs, by rw [List.map_cons, List.map_cons, hb, hbs], .cons hab hrel⟩
  exact ⟨bs, list_eq_ok_iff.mpr ⟨items', hparts', hbs⟩, hrel⟩

/-- The values of a mapping are one level further down. -/
theorem FieldsReach.record {check : Fields → Checked α} (h : FieldsReach k check R)
    (name : String) : Reaches (k + 1) (record name check) R := by
  intro v w hvw a ha
  obtain ⟨fields, rfl, hfields⟩ := record_eq_ok_iff.mp ha
  obtain ⟨fields', rfl, hdeep⟩ := hvw
  exact h fields fields' hdeep a hfields

theorem Reaches.required (h : Reaches k check R) (name : String) :
    FieldsReach k (required name check) R := by
  intro fields fields' hdeep
  obtain ⟨hnone, hnone'⟩ | ⟨v, w, hsome, hsome', hvw⟩ := hdeep.lookup? name
  · rw [Schema.required, hnone]
    exact .faulty _ _
  · rw [Schema.required, Schema.required, hsome, hsome']
    exact (h v w hvw).within _

theorem Reaches.defaulted (h : Reaches k check R) (name : String) (absent : α)
    (ha : R absent absent) : FieldsReach k (defaulted name absent check) R := by
  intro fields fields' hdeep
  obtain ⟨hnone, hnone'⟩ | ⟨v, w, hsome, hsome', hvw⟩ := hdeep.lookup? name
  · rw [Schema.defaulted, Schema.defaulted, hnone, hnone']
    exact .ok ha
  · rw [Schema.defaulted, Schema.defaulted, hsome, hsome']
    exact (h v w hvw).within _

/-- Of fields that are not declared only the keys are looked at. -/
theorem fieldsReach_undeclared (k : Nat) (declared : List String) :
    FieldsReach k (undeclared declared) fun _ _ => True := by
  intro fields fields' hdeep
  induction hdeep with
  | nil => exact .ok trivial
  | @cons e e' fields fields' he _ ih =>
      obtain ⟨key, v⟩ := e
      obtain ⟨key', w⟩ := e'
      obtain ⟨rfl, -⟩ := he
      cases key with
      | text name =>
          simp only [undeclared]
          split
          · exact ih
          · exact ih.map fun _ _ _ => trivial
      | _ => exact .seq (.faulty _ _) ih

end Schema

end ServiceFlow
