import Mathlib.Tactic.Common
import ServiceFlow.Json.Text

/-!
# Written texts read back

Each character of a text is written as itself or as an escape, and an escape is read as a piece or,
beyond the first plane, as two units. Whatever follows, these pieces spell the character again: a
character of its own is no surrogate, so its unit finds no partner, and the two units of a pair find
each other. Reading a written text is therefore a walk along its characters.
-/

namespace ServiceFlow

namespace Text

/-- Pieces that spell a character, whatever pieces follow. -/
def Spells (pieces : List Piece) (c : Char) : Prop :=
  ∀ more, joinPieces (pieces ++ more) = c :: joinPieces more

/-- The number of a character is that of no unit of a pair, and one of seventeen planes. -/
theorem toNat_ranges (c : Char) :
    c.toNat < 0xd800 ∨ 0xe000 ≤ c.toNat ∧ c.toNat < 0x110000 := c.valid

theorem spells_char (c : Char) : Spells [.char c] c := fun _ => rfl

/-- A unit that is a character spells it: it opens no pair and closes none. -/
theorem spells_unit (c : Char) : Spells [.unit c.toNat] c := by
  intro more
  have hc := toNat_ranges c
  have hhigh : isHighUnit c.toNat = false := by
    simp only [isHighUnit, Bool.and_eq_false_iff, decide_eq_false_iff_not]
    omega
  have hlow : isLowUnit c.toNat = false := by
    simp only [isLowUnit, Bool.and_eq_false_iff, decide_eq_false_iff_not]
    omega
  match more with
  | [] => simp [joinPieces, hhigh, hlow]
  | .char _ :: _ => simp [joinPieces, hhigh, hlow]
  | .unit _ :: _ => simp [joinPieces, hhigh, hlow]

/-- The two units of a character beyond the first plane spell it. -/
theorem spells_pair {c : Char} (h : 0x10000 ≤ c.toNat) :
    Spells [.unit (0xd800 + (c.toNat - 0x10000) / 0x400),
      .unit (0xdc00 + (c.toNat - 0x10000) % 0x400)] c := by
  intro more
  have hc := toNat_ranges c
  have hhigh : isHighUnit (0xd800 + (c.toNat - 0x10000) / 0x400) = true := by
    simp only [isHighUnit, Bool.and_eq_true, decide_eq_true_eq]
    omega
  have hlow : isLowUnit (0xdc00 + (c.toNat - 0x10000) % 0x400) = true := by
    simp only [isLowUnit, Bool.and_eq_true, decide_eq_true_eq]
    omega
  have hsum : 0x10000 + (0xd800 + (c.toNat - 0x10000) / 0x400 - 0xd800) * 0x400
      + (0xdc00 + (c.toNat - 0x10000) % 0x400 - 0xdc00) = c.toNat := by
    omega
  simp only [List.cons_append, List.nil_append, joinPieces, hhigh, hlow, Bool.and_self, ite_true,
    hsum, Char.ofNat_toNat]

end Text

namespace Json

open Text (Piece Spells joinPieces)

/-- Pieces put in front of those that are read. -/
def withPieces (pieces : List Piece) :
    Except Stop (List Piece × List Char) → Except Stop (List Piece × List Char) :=
  Except.map fun r => (pieces ++ r.1, r.2)

variable (opening : List Char)

/-- An escaped unit is read as that unit. -/
theorem readPieces_writeUnit {n : Nat} (hn : n < 0x10000) {rest : List Char} (hr : rest ≠ []) :
    readPieces opening (writeUnit n ++ rest) =
      withPieces [.unit n] (readPieces opening rest) := by
  obtain ⟨a, b, c, d, hhex⟩ : ∃ a b c d, Text.hex 4 n = [a, b, c, d] := ⟨_, _, _, _, rfl⟩
  have hnumber : Text.hexNumber? [a, b, c, d] = some n := hhex ▸ Text.hexNumber?_hex hn
  obtain ⟨r, rs, rfl⟩ := List.exists_cons_of_ne_nil hr
  simp only [writeUnit, hhex, List.cons_append, List.nil_append]
  rw [readPieces.eq_def]
  simp only [hnumber]
  cases readPieces opening (r :: rs) <;> rfl

/-- A short escape is read as the character that it stands for. -/
theorem readPieces_shortEscape {e c : Char} (he : shortEscape? e = some c) (rest : List Char) :
    readPieces opening ('\\' :: e :: rest) =
      withPieces [.char c] (readPieces opening rest) := by
  have hu : e ≠ 'u' := by
    rintro rfl
    simp [shortEscape?] at he
  simp only [readPieces, hu, he, false_implies, implies_true]
  cases readPieces opening rest <;> rfl

/-- A printable character is read as itself. -/
theorem readPieces_printable {c : Char} (hq : c ≠ '"') (hb : c ≠ '\\') (hc : ' ' ≤ c)
    (rest : List Char) :
    readPieces opening (c :: rest) = withPieces [.char c] (readPieces opening rest) := by
  have hlow : ¬ c < ' ' := Char.not_lt.mpr hc
  simp only [readPieces, hb, hlow, false_implies, implies_true, ite_false]
  cases readPieces opening rest <;> rfl

/-- The forms of a written character: a short escape, the character itself, one escaped unit, or
the two units of a pair. -/
theorem writeChar_cases (c : Char) :
    (∃ e, shortEscape? e = some c ∧ writeChar c = ['\\', e]) ∨
    (c ≠ '"' ∧ c ≠ '\\' ∧ ' ' ≤ c ∧ writeChar c = [c]) ∨
    (c.toNat < 0x10000 ∧ writeChar c = writeUnit c.toNat) ∨
    (0x10000 ≤ c.toNat ∧ writeChar c = writeUnit (0xd800 + (c.toNat - 0x10000) / 0x400)
      ++ writeUnit (0xdc00 + (c.toNat - 0x10000) % 0x400)) := by
  generalize hw : writeChar c = w
  unfold writeChar at hw
  split_ifs at hw with hq hb hn hr ht hbs hff hp hu
  · exact .inl ⟨'"', congrArg some hq.symm, hw.symm⟩
  · exact .inl ⟨'\\', congrArg some hb.symm, hw.symm⟩
  · exact .inl ⟨'n', congrArg some hn.symm, hw.symm⟩
  · exact .inl ⟨'r', congrArg some hr.symm, hw.symm⟩
  · exact .inl ⟨'t', congrArg some ht.symm, hw.symm⟩
  · exact .inl ⟨'b', congrArg some hbs.symm, hw.symm⟩
  · exact .inl ⟨'f', congrArg some hff.symm, hw.symm⟩
  · exact .inr (.inl ⟨hq, hb, hp.1, hw.symm⟩)
  · exact .inr (.inr (.inl ⟨hu, hw.symm⟩))
  · exact .inr (.inr (.inr ⟨Nat.le_of_not_lt hu, hw.symm⟩))

/-- A written character is read as pieces that spell it. -/
theorem readPieces_writeChar (c : Char) {rest : List Char} (hr : rest ≠ []) :
    ∃ pieces, Spells pieces c ∧ readPieces opening (writeChar c ++ rest) =
      withPieces pieces (readPieces opening rest) := by
  rcases writeChar_cases c with ⟨e, he, hw⟩ | ⟨hq, hb, hc, hw⟩ | ⟨hu, hw⟩ | ⟨hu, hw⟩
  · refine ⟨[.char c], Text.spells_char c, ?_⟩
    rw [hw]
    exact readPieces_shortEscape opening he rest
  · refine ⟨[.char c], Text.spells_char c, ?_⟩
    rw [hw]
    exact readPieces_printable opening hq hb hc rest
  · refine ⟨[.unit c.toNat], Text.spells_unit c, ?_⟩
    rw [hw]
    exact readPieces_writeUnit opening hu hr
  · refine ⟨_, Text.spells_pair hu, ?_⟩
    have hc := Text.toNat_ranges c
    rw [hw, List.append_assoc, readPieces_writeUnit opening (by omega) (by simp [hr]),
      readPieces_writeUnit opening (by omega) hr]
    cases readPieces opening rest <;> rfl

/-- The characters of a written text are read as pieces that spell them, up to its quote. -/
theorem readPieces_writeChars (cs rest : List Char) :
    ∃ pieces, readPieces opening (cs.flatMap writeChar ++ '"' :: rest) = .ok (pieces, rest) ∧
      joinPieces pieces = cs := by
  induction cs with
  | nil => exact ⟨[], by simp [readPieces], rfl⟩
  | cons c cs ih =>
      obtain ⟨more, hmore, hjoin⟩ := ih
      have hne : cs.flatMap writeChar ++ '"' :: rest ≠ [] := by simp
      obtain ⟨pieces, hspells, hread⟩ := readPieces_writeChar opening c hne
      refine ⟨pieces ++ more, ?_, ?_⟩
      · rw [List.flatMap_cons, List.append_assoc, hread, hmore]
        rfl
      · rw [hspells more, hjoin]

/-- A written text with what follows it: its opening quote, its characters, its closing quote. -/
theorem writeText_append (s : String) (rest : List Char) :
    writeText s ++ rest = '"' :: (s.toList.flatMap writeChar ++ '"' :: rest) := by
  simp only [writeText, List.cons_append, List.append_assoc, List.nil_append]

/-- A written text reads back from behind its opening quote, whatever follows it. -/
theorem readText_writeChars (s : String) (rest : List Char) :
    readText (s.toList.flatMap writeChar ++ '"' :: rest) = .ok (s, rest) := by
  obtain ⟨pieces, hread, hjoin⟩ := readPieces_writeChars
    ('"' :: (s.toList.flatMap writeChar ++ '"' :: rest)) s.toList rest
  rw [readText, hread]
  simp only [bind, Except.bind, hjoin, String.ofList_toList, pure, Except.pure]

end Json

end ServiceFlow
