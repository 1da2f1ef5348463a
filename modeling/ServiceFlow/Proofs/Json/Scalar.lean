import Mathlib.Tactic.Common
import ServiceFlow.Json.Reader
import ServiceFlow.Json.Writer

/-!
# Written numbers and words read back

A whole number is written as its decimal digits, of which the first is no zero unless it is the only
one. Reading takes digits as long as there are some, so a number reads back when what follows cannot
continue it: neither a digit nor the beginning of a fraction or an exponent. The words for null and
the truth values read back whatever follows.
-/

namespace ServiceFlow.Json

/-- A text that does not continue a whole number in front of it. -/
def EndsNumber (rest : List Char) : Prop :=
  ∀ c ∈ rest.head?, isDigit c = false ∧ c ≠ '.' ∧ c ≠ 'e' ∧ c ≠ 'E'

theorem endsNumber_nil : EndsNumber [] := by simp [EndsNumber]

theorem endsNumber_cons {c : Char} (h : isDigit c = false ∧ c ≠ '.' ∧ c ≠ 'e' ∧ c ≠ 'E')
    (rest : List Char) : EndsNumber (c :: rest) := by simpa [EndsNumber] using h

section Digits

variable {digits rest : List Char}

theorem isDigit_of_mem_toDigits {n : Nat} {c : Char} (h : c ∈ Nat.toDigits 10 n) :
    isDigit c = true := by
  have hc : c.isDigit = true := Nat.isDigit_of_mem_toDigits (by decide) (by decide) h
  simpa [isDigit, Char.isDigit, Char.le_def] using hc

/-- A number has a first digit. -/
theorem exists_toDigits_cons (n : Nat) :
    ∃ d ds, Nat.toDigits 10 n = d :: ds ∧ isDigit d = true := by
  obtain ⟨d, ds, hds⟩ := List.exists_cons_of_ne_nil (Nat.toDigits_ne_nil (n := n) (b := 10))
  have hd : d ∈ Nat.toDigits 10 n := hds ▸ List.mem_cons_self
  exact ⟨d, ds, hds, isDigit_of_mem_toDigits hd⟩

/-- The digits of a number that is not zero start with none. -/
theorem head_toDigits_ne_zero {n : Nat} (hn : n ≠ 0) : (Nat.toDigits 10 n).head? ≠ some '0' := by
  induction n using Nat.strongRecOn with
  | _ n ih =>
      by_cases hlt : n < 10
      · rw [Nat.toDigits_of_lt_base hlt]
        have hall : ∀ d : Fin 10, d.val ≠ 0 → [Nat.digitChar d.val].head? ≠ some '0' := by decide
        exact hall ⟨n, hlt⟩ hn
      · -- The last digit stands behind those of a tenth of the number, which is not zero either.
        have htenth := ih (n / 10) (by omega) (by omega)
        obtain ⟨d, ds, hds, -⟩ := exists_toDigits_cons (n / 10)
        rw [Nat.toDigits_of_base_le (by decide) (Nat.le_of_not_lt hlt), hds]
        rwa [hds] at htenth

/-- The leading digits of digits with an end behind them are these digits. -/
theorem spanDigits_append (hd : ∀ c ∈ digits, isDigit c = true) (hr : EndsNumber rest) :
    spanDigits (digits ++ rest) = (digits, rest) := by
  have hnone : rest.takeWhile isDigit = [] ∧ rest.dropWhile isDigit = rest := by
    cases rest with
    | nil => exact ⟨rfl, rfl⟩
    | cons c rest =>
        have hc : isDigit c = false := (hr c rfl).1
        simp [hc]
  rw [spanDigits, List.takeWhile_append_of_pos hd, List.dropWhile_append_of_pos hd, hnone.1,
    hnone.2, List.append_nil]

/-- The value of the digits of a number is that number. -/
theorem ofDigits_toDigits (n : Nat) : ofDigits 10 ((Nat.toDigits 10 n).map digitOf) = n := by
  have hfold : ofDigits 10 ((Nat.toDigits 10 n).map digitOf) =
      Nat.ofDigitChars 10 (Nat.toDigits 10 n) 0 := by
    rw [ofDigits, List.foldl_map, Nat.ofDigitChars_eq_foldl]
    simp only [digitOf, Nat.mul_comm]
  rw [hfold, Nat.ofDigitChars_ten_toDigits]

end Digits

section Number

variable {rest : List Char} (hr : EndsNumber rest)
include hr

theorem readFraction_end : readFraction rest = (none, rest) := by
  cases rest with
  | nil => rfl
  | cons c rest =>
      have hc : c ≠ '.' := (hr c rfl).2.1
      unfold readFraction
      split
      · next heq => exact absurd (List.cons.inj heq).1 hc
      · rfl

theorem readExponent_end : readExponent rest = (none, rest) := by
  cases rest with
  | nil => rfl
  | cons c rest =>
      have hc : ¬ (c = 'e' ∨ c = 'E') := by
        have h := hr c rfl
        tauto
      simp only [readExponent, hc, ite_false]

/-- The digits of a number are read as a numeral without fraction and exponent. -/
theorem readNumeral?_toDigits (negative : Bool) (n : Nat) :
    readNumeral? ((if negative then ['-'] else []) ++ (Nat.toDigits 10 n ++ rest)) =
      some (⟨negative, Nat.toDigits 10 n, none, none⟩, rest) := by
  have hfraction := readFraction_end hr
  have hexponent := readExponent_end hr
  have hspan : spanDigits (Nat.toDigits 10 n ++ rest) = (Nat.toDigits 10 n, rest) :=
    spanDigits_append (fun _ => isDigit_of_mem_toDigits) hr
  by_cases hn : n = 0
  · subst hn
    cases negative <;> simp [readNumeral?, hfraction, hexponent]
  · obtain ⟨d, ds, hds, hd⟩ := exists_toDigits_cons n
    have hzero : d ≠ '0' := by
      have h := head_toDigits_ne_zero hn
      simpa [hds] using h
    have hminus : d ≠ '-' := by
      rintro rfl
      exact absurd hd (by decide)
    rw [hds] at hspan ⊢
    rw [List.cons_append] at hspan
    cases negative <;>
      simp [readNumeral?, hzero, hminus, hfraction, hexponent, hspan]

end Number

/-- The numbers within the limit on digits are those below the least one beyond it. -/
theorem length_toDigits_le_digitLimit_iff {n : Nat} :
    (Nat.toDigits 10 n).length ≤ digitLimit ↔ n < illegibleFrom := by
  -- The limit becomes a variable, so that the power is not computed.
  unfold illegibleFrom
  generalize hlimit : digitLimit = limit
  have hpos : 0 < limit := hlimit ▸ (by decide : 0 < digitLimit)
  exact Nat.length_toDigits_le_iff (by decide) hpos

/-- A number of no more digits than are read is the value of its digits. -/
theorem numeralValue_toDigits (negative : Bool) {n : Nat} (hn : n < illegibleFrom) :
    numeralValue ⟨negative, Nat.toDigits 10 n, none, none⟩ =
      .ok (.int (if negative then -n else n)) := by
  have hlength : (Nat.toDigits 10 n).length ≤ digitLimit :=
    length_toDigits_le_digitLimit_iff.mpr hn
  simp only [numeralValue, Numeral.isFloat, Option.isSome_none, Bool.or_self, Bool.false_eq_true,
    ite_false, Nat.not_lt.mpr hlength, Numeral.toInt, ofDigits_toDigits]

/-- A number of more digits than are read has no value. -/
theorem numeralValue_toDigits_of_le (negative : Bool) {n : Nat} (hn : illegibleFrom ≤ n) :
    ∃ count, numeralValue ⟨negative, Nat.toDigits 10 n, none, none⟩ =
      .error (.tooManyDigits count) ∧ digitLimit < count := by
  have hlength : digitLimit < (Nat.toDigits 10 n).length := by
    rw [← Nat.not_le, length_toDigits_le_digitLimit_iff]
    exact Nat.not_lt.mpr hn
  refine ⟨_, ?_, hlength⟩
  simp only [numeralValue, Numeral.isFloat, Option.isSome_none, Bool.or_self, Bool.false_eq_true,
    ite_false, hlength, ite_true]

/-- A whole number is written as a sign, if it is negative, and its digits. -/
theorem toList_toString (n : Int) : (toString n).toList =
    (if n < 0 then ['-'] else []) ++ Nat.toDigits 10 n.natAbs := by
  rw [Int.toString_eq_repr, Int.repr_eq_if]
  by_cases hn : 0 ≤ n
  · have habs : n.toNat = n.natAbs := by omega
    simp [hn, Int.not_lt.mpr hn, habs]
  · have habs : (-n).toNat = n.natAbs := by omega
    simp [hn, Int.not_le.mp hn, habs]

/-- No word starts with a digit, or with a sign and a digit. -/
theorem readWord?_number {d : Char} (hd : isDigit d = true) (negative : Bool) (rest : List Char) :
    readWord? ((if negative then ['-'] else []) ++ d :: rest) = none := by
  have hne {c : Char} (hc : isDigit c = false) : (c == d) = false := by
    rw [beq_eq_false_iff_ne]
    rintro rfl
    exact absurd hd (by simp [hc])
  have hprefix : ∀ word ∈ words.map (·.1.toList),
      word.isPrefixOf ((if negative then ['-'] else []) ++ d :: rest) = false := by
    have hwords : words.map (·.1.toList) =
        [['n', 'u', 'l', 'l'], ['t', 'r', 'u', 'e'], ['f', 'a', 'l', 's', 'e'], ['N', 'a', 'N'],
          ['I', 'n', 'f', 'i', 'n', 'i', 't', 'y'],
          ['-', 'I', 'n', 'f', 'i', 'n', 'i', 't', 'y']] := by decide
    rw [hwords]
    cases negative <;>
      simp [List.isPrefixOf, hne (c := 'n') rfl, hne (c := 't') rfl, hne (c := 'f') rfl,
        hne (c := 'N') rfl, hne (c := 'I') rfl, hne (c := '-') rfl]
  rw [readWord?, List.findSome?_eq_none_iff]
  rintro ⟨word, s⟩ hw
  have hnone := hprefix _ (List.mem_map_of_mem hw)
  simp only [hnone, Bool.false_eq_true, ite_false]

/-- A written number starts with no word, and is read as the numeral of its sign and digits when
what follows cannot continue it. -/
theorem readNumeral?_writeScalar_int (n : Int) {rest : List Char} (hr : EndsNumber rest) :
    readWord? (writeScalar (.int n) ++ rest) = none ∧
      readNumeral? (writeScalar (.int n) ++ rest) =
        some (⟨decide (n < 0), Nat.toDigits 10 n.natAbs, none, none⟩, rest) := by
  have hwritten : writeScalar (.int n) ++ rest =
      (if decide (n < 0) then ['-'] else []) ++ (Nat.toDigits 10 n.natAbs ++ rest) := by
    simp only [writeScalar, toList_toString, List.append_assoc, decide_eq_true_eq]
  rw [hwritten]
  refine ⟨?_, readNumeral?_toDigits hr _ _⟩
  obtain ⟨d, ds, hds, hd⟩ := exists_toDigits_cons n.natAbs
  rw [hds, List.cons_append]
  exact readWord?_number hd _ _

/-- A written number reads back when what follows cannot continue it. -/
theorem readPlain_int {n : Int} (hn : isLegible n = true) {rest : List Char}
    (hr : EndsNumber rest) :
    readPlain (writeScalar (.int n) ++ rest) = .ok (.int n, rest) := by
  have hlegible : n.natAbs < illegibleFrom := by simpa [isLegible] using hn
  obtain ⟨hword, hnumeral⟩ := readNumeral?_writeScalar_int n hr
  have hvalue : (if decide (n < 0) then -(n.natAbs : Int) else n.natAbs) = n := by
    simp only [decide_eq_true_eq]
    split <;> omega
  simp only [readPlain, hword, hnumeral, numeralValue_toDigits _ hlegible, hvalue]

/-- The words for null and the truth values read back, whatever follows. -/
theorem readPlain_null (rest : List Char) :
    readPlain (writeScalar .null ++ rest) = .ok (.null, rest) := rfl

theorem readPlain_bool (b : Bool) (rest : List Char) :
    readPlain (writeScalar (.bool b) ++ rest) = .ok (.bool b, rest) := by
  cases b <;> rfl

/-- A scalar that is written without quotes and read back: null, a truth value, or a whole number
within the limit on digits. -/
inductive Bare : Scalar → Prop
  | null : Bare .null
  | bool (b : Bool) : Bare (.bool b)
  | int {n : Int} (h : isLegible n = true) : Bare (.int n)

/-- A bare scalar reads back when what follows cannot continue a number. -/
theorem Bare.readPlain {s : Scalar} (h : Bare s) {rest : List Char} (hr : EndsNumber rest) :
    Json.readPlain (writeScalar s ++ rest) = .ok (.scalar s, rest) := by
  cases h with
  | null => exact readPlain_null rest
  | bool b => exact readPlain_bool b rest
  | int h => exact readPlain_int h hr

/-- The characters that a bare scalar can start with. -/
def startsBare (c : Char) : Bool := isDigit c || c == '-' || c == 'n' || c == 't' || c == 'f'

theorem ne_of_startsBare {c d : Char} (hc : startsBare c = true) (hd : startsBare d = false) :
    c ≠ d := by
  rintro rfl
  exact absurd hc (by simp [hd])

/-- A whole number of any size starts like a bare scalar. -/
theorem exists_writeScalar_int (n : Int) :
    ∃ c cs, writeScalar (.int n) = c :: cs ∧ startsBare c = true := by
  rw [writeScalar, toList_toString]
  by_cases hn : n < 0
  · exact ⟨'-', Nat.toDigits 10 n.natAbs, by simp [hn], rfl⟩
  · obtain ⟨d, ds, hds, hd⟩ := exists_toDigits_cons n.natAbs
    exact ⟨d, ds, by simp [hn, hds], by simp [startsBare, hd]⟩

/-- A bare scalar starts with one of the characters that it can start with. -/
theorem Bare.exists_cons {s : Scalar} (h : Bare s) :
    ∃ c cs, writeScalar s = c :: cs ∧ startsBare c = true := by
  cases h with
  | null => exact ⟨'n', _, rfl, rfl⟩
  | bool b =>
      cases b
      · exact ⟨'f', _, rfl, rfl⟩
      · exact ⟨'t', _, rfl, rfl⟩
  | @int n h => exact exists_writeScalar_int n

end ServiceFlow.Json
