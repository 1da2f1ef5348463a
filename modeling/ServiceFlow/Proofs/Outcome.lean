import Mathlib.Tactic.Common

/-!
# Outcomes

A computation ends with a result or with a fault. What the outcome is of computations that are put
together: one after the other, under other names for the faults, and one for each item of a list.
-/

namespace ServiceFlow

/-- A computation of two parts succeeds when the first does and the second does on its result. -/
theorem bind_eq_ok_iff {ε α β : Type} {x : Except ε α} {f : α → Except ε β} {b : β} :
    x >>= f = .ok b ↔ ∃ a, x = .ok a ∧ f a = .ok b := by
  cases x <;> simp [bind, Except.bind]

/-- Another name for a fault makes no difference to success. -/
theorem mapError_eq_ok_iff {ε ε' α : Type} {x : Except ε α} {f : ε → ε'} {a : α} :
    x.mapError f = .ok a ↔ x = .ok a := by
  cases x with
  | error fault =>
      constructor
      · intro h
        cases h
      · intro h
        cases h
  | ok b =>
      have hb : (Except.ok b : Except ε α).mapError f = .ok b := rfl
      rw [hb, Except.ok.injEq, Except.ok.injEq]

/-- What fails under another name for its faults fails with one of them. -/
theorem mapError_eq_error_iff {ε ε' α : Type} {x : Except ε α} {f : ε → ε'} {fault : ε'} :
    x.mapError f = .error fault ↔ ∃ e, fault = f e ∧ x = .error e := by
  cases x with
  | error e =>
      have he : (Except.error e : Except ε α).mapError f = .error (f e) := rfl
      simp only [he, Except.error.injEq, exists_eq_right', eq_comm]
  | ok a =>
      have ha : (Except.ok a : Except ε α).mapError f = .ok a := rfl
      simp only [ha, reduceCtorEq, and_false, exists_false]

section Lists

variable {ε α β : Type} {f : α → Except ε β} {items : List α}

/-- Where all items have a result, the results are those of the list. -/
theorem mapM_eq_ok {result : α → β} (h : ∀ a ∈ items, f a = .ok (result a)) :
    items.mapM f = .ok (items.map result) := by
  induction items with
  | nil => rfl
  | cons a rest ih =>
      obtain ⟨ha, hrest⟩ := List.forall_mem_cons.mp h
      rw [List.mapM_cons, ha, ih hrest]
      rfl

/-- Where there is but one fault, it is that of the list as soon as an item has it. -/
theorem mapM_eq_error {fault : ε} (h : ∀ a ∈ items, ∀ e, f a = .error e → e = fault)
    (hfault : ∃ a ∈ items, f a = .error fault) : items.mapM f = .error fault := by
  induction items with
  | nil =>
      obtain ⟨a, ha, -⟩ := hfault
      cases ha
  | cons a rest ih =>
      obtain ⟨ha, hrest⟩ := List.forall_mem_cons.mp h
      rw [List.mapM_cons]
      cases hresult : f a with
      | error e =>
          obtain rfl := ha e hresult
          rfl
      | ok b =>
          have hlater : ∃ a ∈ rest, f a = .error fault := by
            obtain ⟨a', hmem, ha'⟩ := hfault
            rcases List.mem_cons.mp hmem with rfl | hmem
            · cases hresult.symm.trans ha'
            · exact ⟨a', hmem, ha'⟩
          rw [ih hrest hlater]
          rfl

end Lists

end ServiceFlow
