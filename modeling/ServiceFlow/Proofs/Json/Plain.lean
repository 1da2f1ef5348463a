import ServiceFlow.Proofs.Json.RoundTrip

/-!
# Written JSON is plain text

Whatever a value holds, its text is made of printable ASCII characters and line feeds: all else in
texts is escaped, and numbers and words have nothing else in them. A text file with such a text has
one byte for each character, and no reading of line ends changes it.
-/

namespace ServiceFlow.Json

/-- Whether a character is printable ASCII or a line feed. -/
def isPlain (c : Char) : Bool := c == '\n' || (' ' ≤ c && c ≤ '~')

/-- A text of plain characters. -/
def Plain (cs : List Char) : Prop := ∀ c ∈ cs, isPlain c = true

instance (cs : List Char) : Decidable (Plain cs) :=
  List.decidableBAll (isPlain · = true) cs

@[simp] theorem plain_nil : Plain [] := List.forall_mem_nil _

@[simp] theorem plain_cons {c : Char} {cs : List Char} :
    Plain (c :: cs) ↔ isPlain c = true ∧ Plain cs := List.forall_mem_cons

@[simp] theorem plain_append {cs ds : List Char} : Plain (cs ++ ds) ↔ Plain cs ∧ Plain ds :=
  List.forall_mem_append

/-- No reading of line ends changes a plain text. -/
theorem Plain.return_notMem {cs : List Char} (h : Plain cs) : '\r' ∉ cs :=
  fun hc => absurd (h _ hc) (by decide)

section Text

theorem plain_hex (width n : Nat) : Plain (Text.hex width n) := by
  have hdigit : ∀ d : Fin 16, isPlain (Nat.digitChar d.val) = true := by decide
  induction width generalizing n with
  | zero => exact plain_nil
  | succ width ih =>
      rw [Text.hex, plain_append, plain_cons]
      exact ⟨ih _, hdigit ⟨n % 16, Nat.mod_lt n (by decide)⟩, plain_nil⟩

theorem plain_writeUnit (n : Nat) : Plain (writeUnit n) := by
  rw [writeUnit, plain_cons, plain_cons]
  exact ⟨by decide, by decide, plain_hex 4 n⟩

/-- A written character is plain: it is escaped unless it is printable. -/
theorem plain_writeChar (c : Char) : Plain (writeChar c) := by
  unfold writeChar
  split_ifs with hq hb hn hr ht hbs hff hprintable hunit
  · decide
  · decide
  · decide
  · decide
  · decide
  · decide
  · decide
  · simp [isPlain, hprintable.1, hprintable.2]
  · exact plain_writeUnit _
  · exact plain_append.mpr ⟨plain_writeUnit _, plain_writeUnit _⟩

theorem plain_writeText (s : String) : Plain (writeText s) := by
  have hchars : Plain (s.toList.flatMap writeChar) := by
    intro c hc
    obtain ⟨d, -, hd⟩ := List.mem_flatMap.mp hc
    exact plain_writeChar d c hd
  simp only [writeText, List.cons_append, plain_cons, plain_append, hchars, plain_nil, and_true]
  decide

end Text

theorem isPlain_of_isDigit {c : Char} (h : isDigit c = true) : isPlain c = true := by
  simp only [isDigit, Bool.and_eq_true, decide_eq_true_eq] at h
  have hlow : ' ' ≤ c := Char.le_trans (by decide) h.1
  have hhigh : c ≤ '~' := Char.le_trans h.2 (by decide)
  simp only [isPlain, hlow, hhigh, decide_true, Bool.and_self, Bool.or_true]

theorem plain_writeScalar {s : Scalar} (h : Bare s) : Plain (writeScalar s) := by
  cases h with
  | null => decide
  | bool b => cases b <;> decide
  | @int n h =>
      have hdigits : Plain (Nat.toDigits 10 n.natAbs) :=
        fun c hc => isPlain_of_isDigit (isDigit_of_mem_toDigits hc)
      rw [writeScalar, toList_toString, plain_append]
      refine ⟨?_, hdigits⟩
      split <;> decide

theorem plain_lineBreak (indent : Option Nat) (level : Nat) : Plain (lineBreak indent level) := by
  cases indent with
  | none => exact plain_nil
  | some width =>
      rw [lineBreak, plain_cons]
      refine ⟨by decide, fun c hc => ?_⟩
      rw [List.eq_of_mem_replicate hc]
      decide

theorem plain_separator (indent : Option Nat) (level : Nat) : Plain (separator indent level) := by
  cases indent with
  | none => simp [separator, isPlain]
  | some width => exact plain_cons.mpr ⟨by decide, plain_lineBreak (some width) level⟩

/-- The items of a list are plain when each of them is. -/
theorem plain_writeItems {indent : Option Nat} {level : Nat} {items : List Value}
    (h : ∀ v ∈ items, Plain (writeValue indent level v)) :
    Plain (writeItems indent level items) := by
  induction items with
  | nil => exact plain_nil
  | cons v rest ih =>
      simp only [writeItems, plain_append]
      exact ⟨⟨plain_separator indent level, h v List.mem_cons_self⟩,
        ih fun w hw => h w (List.mem_cons_of_mem v hw)⟩

/-- The entries of a mapping are plain when the value of each of them is. -/
theorem plain_writeEntries {indent : Option Nat} {level : Nat} {fields : List (String × Value)}
    (h : ∀ f ∈ fields, Plain (writeValue indent level f.2)) :
    Plain (writeEntries indent level (textEntries fields)) := by
  induction fields with
  | nil => exact plain_nil
  | cons f rest ih =>
      simp only [textEntries_cons, writeEntries, writeKey, plain_append, plain_cons]
      exact ⟨⟨⟨plain_separator indent level, plain_writeText f.1⟩, by decide, by decide,
        h f List.mem_cons_self⟩, ih fun g hg => h g (List.mem_cons_of_mem f hg)⟩

/-- Every expressible value is written as plain text. -/
theorem Expressible.plain_writeValue {v : Value} (h : Expressible v) (indent : Option Nat)
    (level : Nat) : Plain (writeValue indent level v) := by
  induction h generalizing level with
  | bare h => exact plain_writeScalar h
  | text s => exact plain_writeText s
  | @list items _ ih =>
      cases items with
      | nil => exact (by decide : Plain ['[', ']'])
      | cons v rest =>
          have hitems : Plain (writeItems indent (level + 1) rest) :=
            plain_writeItems fun w hw => ih w (List.mem_cons_of_mem v hw) _
          simp only [writeValue, List.cons_append, plain_cons, plain_append, hitems,
            ih v List.mem_cons_self, plain_lineBreak, plain_nil, and_true, true_and]
          decide
  | @record fields _ _ ih =>
      cases fields with
      | nil => exact (by decide : Plain ['\x7b', '\x7d'])
      | cons f rest =>
          have hwrite : writeValue indent level (.record (f :: rest)) =
            writeValue indent level (.map ((.text f.1, f.2) :: textEntries rest)) := rfl
          have hentries : Plain (writeEntries indent (level + 1) (textEntries rest)) :=
            plain_writeEntries fun g hg => ih g (List.mem_cons_of_mem f hg) _
          rw [hwrite]
          simp only [writeValue, writeKey, List.cons_append, plain_cons, plain_append, hentries,
            ih f List.mem_cons_self, plain_writeText, plain_lineBreak, plain_nil, and_true,
            true_and]
          decide

/-- The text of an expressible value is plain. -/
theorem plain_write {v : Value} (h : Expressible v) (indent : Option Nat) :
    Plain (write indent v).toList := by
  rw [write, String.toList_ofList]
  exact h.plain_writeValue indent 0

end ServiceFlow.Json
