import Mathlib.Data.List.Basic
import ServiceFlow.Schema

/-!
# What passes a schema

A check that passes tells what stands in the value, and whether it passes is decided part by part.
A field of a value is null where the value has no such field, which is how the schemas see it: a
field that may be left out and may be null is read the same when it is left out as when it is null.
-/

namespace ServiceFlow

namespace Value

/-- A field of a value, null when the value has no such field. -/
def get (v : Value) (name : String) : Value :=
  match v with
  | .map fields => (lookup? name fields).getD .null
  | _ => .null

/-- What stands at the end of a path of fields, null where the path breaks off. -/
def atPath (v : Value) (path : List String) : Value := path.foldl get v

theorem atPath_cons (v : Value) (name : String) (rest : List String) :
    v.atPath (name :: rest) = (v.get name).atPath rest := rfl

/-- Null has no fields. -/
theorem atPath_null (path : List String) : (null : Value).atPath path = null := by
  induction path with
  | nil => rfl
  | cons name rest ih => exact ih

/-- The items of a value that is read as a list. -/
def parts? : Value → Option (List Value)
  | .list items => some items
  | .pair a b => some [a, b]
  | .set members => some (members.map .scalar)
  | _ => none

end Value

namespace Schema

variable {α β : Type} {name : String} {check : Value → Checked α} {fields : Fields} {v : Value}
  {a : α}

@[simp] theorem Checked.map_def (f : α → β) (x : Checked α) : f <$> x = x.map f := rfl

@[simp] theorem Checked.seq_def (f : Checked (α → β)) (x : Checked α) : f <*> x = f.seq x := rfl

namespace Checked

/-- Whether a check passes. -/
def isOk : Checked α → Bool
  | ok _ => true
  | faulty _ => false

theorem isOk_iff {x : Checked α} : x.isOk = true ↔ ∃ a, x = ok a := by
  cases x <;> simp [isOk]

@[simp] theorem isOk_map (f : α → β) (x : Checked α) : (x.map f).isOk = x.isOk := by
  cases x <;> rfl

/-- Both checks pass when each does. -/
@[simp] theorem isOk_seq (f : Checked (α → β)) (x : Checked α) :
    (f.seq x).isOk = (f.isOk && x.isOk) := by
  cases f <;> cases x <;> rfl

@[simp] theorem isOk_within (step : Step) (x : Checked α) : (x.within step).isOk = x.isOk := by
  cases x <;> rfl

/-- A list passes when all its items do. -/
theorem isOk_allFrom (check : β → Checked α) (start : Nat) (bs : List β) :
    (allFrom check start bs).isOk = bs.all fun b => (check b).isOk := by
  induction bs generalizing start with
  | nil => rfl
  | cons b rest ih => simp only [allFrom, isOk_seq, isOk_map, isOk_within, ih, List.all_cons]

end Checked

/-- Only a record passes as one. -/
theorem record_eq_ok_iff {check : Fields → Checked α} :
    record name check v = .ok a ↔ ∃ fields, v = .map fields ∧ check fields = .ok a := by
  cases v <;> simp [record, Checked.fail]

/-- A field that must be there is read from its value. -/
theorem required_eq_ok_iff :
    required name check fields = .ok a ↔
      ∃ v, Value.lookup? name fields = some v ∧ check v = .ok a := by
  unfold required
  split
  · next v hv => simp only [Checked.within_eq_ok_iff, hv, Option.some.injEq, exists_eq_left']
  · next hv => simp [Checked.within, Checked.fail, hv]

/-- A field with a default has it when it is left out. -/
theorem defaulted_eq_ok_iff {absent : α} :
    defaulted name absent check fields = .ok a ↔
      (Value.lookup? name fields = none ∧ absent = a) ∨
        ∃ v, Value.lookup? name fields = some v ∧ check v = .ok a := by
  unfold defaulted
  split
  · next v hv => simp only [Checked.within_eq_ok_iff, hv, Option.some.injEq, exists_eq_left',
      reduceCtorEq, false_and, false_or]
  · next hv => simp only [hv, Checked.ok.injEq, true_and, reduceCtorEq, false_and, exists_false,
      or_false]

/-- A field that must be there is read from what stands in it. -/
theorem check_get_of_required (h : required name check fields = .ok a) :
    check ((Value.map fields).get name) = .ok a := by
  obtain ⟨v, hv, hcheck⟩ := required_eq_ok_iff.mp h
  simpa only [Value.get, hv, Option.getD_some] using hcheck

/-- A field that may be left out and may be null is read from what stands in it. -/
theorem defaulted_none_eq_ok_iff {o : Option α} :
    defaulted name none (nullable check) fields = .ok o ↔
      nullable check ((Value.map fields).get name) = .ok o := by
  rw [defaulted_eq_ok_iff, Value.get]
  cases hl : Value.lookup? name fields with
  | none => simp [nullable]
  | some v => simp

/-- A value is read as nothing only if it is null. -/
theorem nullable_eq_ok_none_iff : nullable check v = .ok none ↔ v = .null := by
  unfold nullable
  split
  · simp
  · next hv => exact iff_of_false (by simp [Checked.map_eq_ok_iff]) hv

/-- A value that is read as something passes the check for it. -/
theorem check_of_nullable (h : nullable check v = .ok (some a)) : check v = .ok a := by
  unfold nullable at h
  split at h
  · simp at h
  · obtain ⟨b, hb, hba⟩ := Checked.map_eq_ok_iff.mp h
    rw [hb, Option.some.inj hba]

/-- A list passes when the value has items and each of them passes. -/
theorem list_eq_ok_iff {as : List α} :
    list check v = .ok as ↔ ∃ items, v.parts? = some items ∧ items.map check = as.map .ok := by
  cases v <;> simp [list, Value.parts?, Checked.allFrom_eq_ok_iff, Checked.fail]

end Schema

end ServiceFlow
