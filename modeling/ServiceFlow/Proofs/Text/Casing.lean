import Mathlib
import ServiceFlow.Text.Casing

/-!
# Texts that lower to a plain word

Most letters from a to z are the lower case of one capital only, the one from A to Z. A word of such
letters is the lower case of its own spellings in capital and small letters and of no other text:
no other script has a spelling of it, and the rules for sigma and the dotted I do not come into it.
-/

namespace ServiceFlow.Text

/-- The run of the capitals from A to Z. -/
def latinCapitals : CaseRun := ⟨0x41, 0x5a, 1, 32⟩

/-- Whether the lower case of some code point of a run is the given one. -/
def CaseRun.reaches (r : CaseRun) (n : Nat) : Bool :=
  0 ≤ (n : Int) - r.shift && r.covers ((n : Int) - r.shift).toNat

/-- Whether a character is a letter from a to z that is the lower case of no other capital than its
own from A to Z. Of k the sign for degrees Kelvin is a capital as well. -/
def isPlainLetter (c : Char) : Bool :=
  97 ≤ c.toNat && c.toNat ≤ 122 && caseRuns.all fun r => r == latinCapitals || !r.reaches c.toNat

section Runs

variable {r : CaseRun} {c : Char} {n : Nat}

theorem latinCapitals_covers : latinCapitals.covers c.toNat = c.isUpper := by
  rw [Bool.eq_iff_iff, CaseRun.covers, Bool.and_eq_true, Bool.and_eq_true, decide_eq_true_eq,
    decide_eq_true_eq]
  simp [latinCapitals, Nat.mod_one, Char.isUpper, UInt32.le_iff_toNat_le]

/-- No small letter from a to z has a lower case. -/
theorem lt_first_of_mem_caseRuns (hr : r ∈ caseRuns) (hne : r ≠ latinCapitals) : 122 < r.first := by
  have hall : (caseRuns.all fun r => r == latinCapitals || decide (122 < r.first)) = true := by
    decide
  have h := List.all_eq_true.mp hall r hr
  simpa [hne] using h

/-- A code point of a run is found from its lower case. -/
theorem CaseRun.reaches_of_covers {m : Nat} (hr : r.covers m = true)
    (h : (m : Int) + r.shift = n) : r.reaches n = true := by
  have hm : (n : Int) - r.shift = m := by omega
  simp only [reaches, hm, Int.toNat_natCast, hr, Bool.and_true, decide_eq_true_eq]
  omega

end Runs

section Letters

variable {c t : Char}

theorem isPlainLetter_iff : isPlainLetter t = true ↔ 97 ≤ t.toNat ∧ t.toNat ≤ 122 ∧
    ∀ r ∈ caseRuns, r.reaches t.toNat = true → r = latinCapitals := by
  simp only [isPlainLetter, Bool.and_eq_true, decide_eq_true_eq, List.all_eq_true, Bool.or_eq_true,
    beq_iff_eq, Bool.not_eq_true', and_assoc]
  refine and_congr_right fun _ => and_congr_right fun _ => forall₂_congr fun r _ => ?_
  cases r.reaches t.toNat <;> simp

/-- A capital from A to Z has its small letter as lower case. -/
theorem lowerChar_of_isUpper (hc : c.isUpper = true) : lowerChar c = c.toLower := by
  have hfind : caseRuns.find? (·.covers c.toNat) = some latinCapitals :=
    List.find?_cons_of_pos (latinCapitals_covers.trans hc)
  rw [lowerChar, hfind, Char.toLower_eq_of_isUpper hc]
  rfl

/-- A letter of another run does not have a plain letter as lower case. -/
theorem ofNat_ne_of_isPlainLetter (ht : isPlainLetter t = true) {r : CaseRun} (hr : r ∈ caseRuns)
    (hne : r ≠ latinCapitals) {n : Nat} (hn : r.covers n = true) :
    Char.ofNat ((n : Int) + r.shift).toNat ≠ t := by
  obtain ⟨hlow, -, hruns⟩ := isPlainLetter_iff.mp ht
  rintro rfl
  rw [Char.toNat_ofNat] at hlow hruns
  split at hlow
  · rename_i hvalid
    rw [if_pos hvalid] at hruns
    exact hne (hruns r hr (CaseRun.reaches_of_covers hn (by omega)))
  · omega

/-- A plain letter is the lower case of itself and of its capital from A to Z alone. -/
theorem lowerChar_eq_iff (ht : isPlainLetter t = true) : lowerChar c = t ↔ c.toLower = t := by
  by_cases hc : c.isUpper = true
  · rw [lowerChar_of_isUpper hc]
  · rw [Char.toLower_eq_of_not_isUpper hc, lowerChar]
    cases h : caseRuns.find? (·.covers c.toNat) with
    | none => exact Iff.rfl
    | some r =>
        have hr := List.mem_of_find?_eq_some h
        have hcovers : r.covers c.toNat = true := by simpa using List.find?_some h
        have hne : r ≠ latinCapitals := by
          rintro rfl
          exact hc (latinCapitals_covers.symm.trans hcovers)
        refine iff_of_false (ofNat_ne_of_isPlainLetter ht hr hne hcovers) ?_
        rintro rfl
        have hfirst := lt_first_of_mem_caseRuns hr hne
        have hhigh := (isPlainLetter_iff.mp ht).2.1
        simp only [CaseRun.covers, Bool.and_eq_true, decide_eq_true_eq] at hcovers
        omega

end Letters

section Words

variable {c : Char} {before rest : List Char}

/-- A letter that has no rule of its own is lowered alone. -/
theorem lowerFrom_cons (hc : ¬ (c = 'Σ' ∨ c = 'İ')) :
    lowerFrom before (c :: rest) = lowerChar c :: lowerFrom (c :: before) rest := by
  obtain ⟨hsigma, hdotted⟩ := not_or.mp hc
  rw [lowerFrom, if_neg hsigma, if_neg hdotted, List.singleton_append]

/-- The letters with rules of their own leave a character that is no plain letter. -/
theorem exists_not_isPlainLetter (hc : c = 'Σ' ∨ c = 'İ') :
    ∃ t ∈ lowerFrom before (c :: rest), isPlainLetter t = false := by
  rcases hc with rfl | rfl
  · cases h : meetsCased before && !meetsCased rest with
    | false => exact ⟨'σ', by simp [lowerFrom, h], by decide⟩
    | true => exact ⟨'ς', by simp [lowerFrom, h], by decide⟩
  · exact ⟨'\u0307', by simp [lowerFrom], by decide⟩

/-- A word of plain letters is the lower case of its spellings in capital and small letters alone,
whatever stands before it. -/
theorem lowerFrom_eq_iff {cs ts : List Char} (ht : ∀ t ∈ ts, isPlainLetter t = true) :
    lowerFrom before cs = ts ↔ cs.map Char.toLower = ts := by
  induction cs generalizing before ts with
  | nil => rw [lowerFrom, List.map_nil]
  | cons c rest ih =>
      by_cases hc : c = 'Σ' ∨ c = 'İ'
      · refine iff_of_false ?_ ?_
        · rintro rfl
          obtain ⟨t, hmem, hno⟩ :
              ∃ t ∈ lowerFrom before (c :: rest), isPlainLetter t = false :=
            exists_not_isPlainLetter hc
          exact absurd (hno.symm.trans (ht t hmem)) Bool.false_ne_true
        · rintro rfl
          have hplain := ht c.toLower List.mem_cons_self
          rcases hc with rfl | rfl <;> exact absurd hplain (by decide)
      · rw [lowerFrom_cons hc, List.map_cons]
        cases ts with
        | nil => exact iff_of_false (List.cons_ne_nil _ _) (List.cons_ne_nil _ _)
        | cons t ts =>
            have hrest : ∀ t ∈ ts, isPlainLetter t = true := fun t hm =>
              ht t (List.mem_cons_of_mem _ hm)
            rw [List.cons.injEq, List.cons.injEq, lowerChar_eq_iff (ht t List.mem_cons_self),
              ih hrest]

/-- A word of plain letters is the lower case of a text exactly when the text is the word but for
the case of the letters from A to Z. -/
theorem lower_eq_iff {s word : String} (hw : ∀ t ∈ word.toList, isPlainLetter t = true) :
    lower s = word ↔ s.toLower = word := by
  rw [← String.toList_inj, ← String.toList_inj, lower, String.toList_ofList, String.toLower,
    String.toList_map]
  exact lowerFrom_eq_iff hw

end Words

end ServiceFlow.Text
