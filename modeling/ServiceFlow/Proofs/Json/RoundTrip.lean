import ServiceFlow.Proofs.Json.Scalar
import ServiceFlow.Proofs.Json.Text

/-!
# Written values read back

A value that JSON has a form of its own for reads back from its text, on one line or indented, with
blanks in front and whatever is allowed to follow a value behind it. The statement about a value
quantifies over the level, the text that follows and the fuel, which has to be twice the length of
the text; lists and mappings then follow item by item and entry by entry.
-/

namespace ServiceFlow.Json

/-- The values that JSON has a form for, doubles aside: null, truth values, whole numbers within the
limit on digits, texts, lists, and mappings whose keys are distinct texts. -/
inductive Expressible : Value → Prop
  | bare {s : Scalar} (h : Bare s) : Expressible (.scalar s)
  | text (s : String) : Expressible (.text s)
  | list {items : List Value} (h : ∀ v ∈ items, Expressible v) : Expressible (.list items)
  | record {fields : List (String × Value)} (hd : (fields.map (·.1)).Nodup)
      (h : ∀ f ∈ fields, Expressible f.2) : Expressible (.record fields)

section Blanks

/-- A character that is no blank stops the skipping of blanks. -/
theorem skipSpace_cons {c : Char} (hc : isSpace c = false) (rest : List Char) :
    skipSpace (c :: rest) = c :: rest := by
  simp [skipSpace, hc]

/-- Blanks in front are skipped. -/
theorem skipSpace_append {blanks : List Char} (h : ∀ c ∈ blanks, isSpace c = true)
    (rest : List Char) : skipSpace (blanks ++ rest) = skipSpace rest :=
  List.dropWhile_append_of_pos h

/-- A line break and its indentation are blanks. -/
theorem isSpace_of_mem_lineBreak {indent : Option Nat} {level : Nat} {c : Char}
    (hc : c ∈ lineBreak indent level) : isSpace c = true := by
  cases indent with
  | none => simp [lineBreak] at hc
  | some width =>
      rcases List.mem_cons.mp hc with rfl | hspace
      · rfl
      · rw [List.eq_of_mem_replicate hspace]
        rfl

/-- Two items are separated by a comma and blanks. -/
theorem exists_separator (indent : Option Nat) (level : Nat) :
    ∃ blanks, separator indent level = ',' :: blanks ∧ ∀ c ∈ blanks, isSpace c = true := by
  cases indent with
  | none => exact ⟨[' '], rfl, by simp [isSpace]⟩
  | some width => exact ⟨_, rfl, fun _ => isSpace_of_mem_lineBreak⟩

end Blanks

section Steps

variable {fuel : Nat} {cs after next rest : List Char} {v : Value}

/-- What starts like a bare scalar is read as one. -/
theorem readValue_bare {c : Char} (hc : startsBare c = true) (cs : List Char) :
    readValue (fuel + 1) (c :: cs) = readPlain (c :: cs) := by
  rw [readValue]
  all_goals exact fun _ heq => ne_of_startsBare hc rfl (List.cons.inj heq).1

/-- A bracket opens a list that is not closed at once. -/
theorem readValue_list {first : List Char} {items : List Value} (hs : skipSpace cs = first)
    (hne : ∀ after, first ≠ ']' :: after) (hi : readItems fuel first = .ok (items, rest)) :
    readValue (fuel + 1) ('[' :: cs) = .ok (.list items, rest) := by
  subst hs
  simp only [readValue, hi, bind, Except.bind, pure, Except.pure]

/-- A brace opens a mapping that is not closed at once. -/
theorem readValue_map {first : List Char} {entries : List (Scalar × Value)}
    (hs : skipSpace cs = first) (hne : ∀ after, first ≠ '\x7d' :: after)
    (hi : readEntries fuel first = .ok (entries, rest)) :
    readValue (fuel + 1) ('\x7b' :: cs) = .ok (.ofEntries entries, rest) := by
  subst hs
  simp only [readValue, hi, bind, Except.bind, pure, Except.pure]

/-- A value with a closing bracket behind it ends a list. -/
theorem readItems_last (hv : readValue fuel cs = .ok (v, after))
    (ha : skipSpace after = ']' :: rest) : readItems (fuel + 1) cs = .ok ([v], rest) := by
  simp only [readItems, hv, bind, Except.bind, ha, pure, Except.pure]

/-- A value with a comma behind it is followed by the other items. -/
theorem readItems_more {items : List Value} (hv : readValue fuel cs = .ok (v, after))
    (ha : skipSpace after = ',' :: next)
    (hn : readItems fuel (skipSpace next) = .ok (items, rest)) :
    readItems (fuel + 1) cs = .ok (v :: items, rest) := by
  simp only [readItems, hv, bind, Except.bind, ha, hn, pure, Except.pure]

/-- An entry with a closing brace behind it ends a mapping. -/
theorem readEntries_last {name : List Char} {key : String}
    (hk : readText name = .ok (key, ':' :: ' ' :: cs)) (hs : skipSpace cs = cs)
    (hv : readValue fuel cs = .ok (v, after)) (ha : skipSpace after = '\x7d' :: rest) :
    readEntries (fuel + 1) ('"' :: name) = .ok ([(.text key, v)], rest) := by
  have hcolon : skipSpace (':' :: ' ' :: cs) = ':' :: ' ' :: cs := skipSpace_cons rfl _
  have hspace : skipSpace (' ' :: cs) = cs := hs
  simp only [readEntries, hk, bind, Except.bind, hcolon, hspace, hv, ha, pure, Except.pure]

/-- An entry with a comma behind it is followed by the other entries. -/
theorem readEntries_more {name : List Char} {key : String} {entries : List (Scalar × Value)}
    (hk : readText name = .ok (key, ':' :: ' ' :: cs)) (hs : skipSpace cs = cs)
    (hv : readValue fuel cs = .ok (v, after)) (ha : skipSpace after = ',' :: next)
    (hn : readEntries fuel (skipSpace next) = .ok (entries, rest)) :
    readEntries (fuel + 1) ('"' :: name) = .ok ((.text key, v) :: entries, rest) := by
  have hcolon : skipSpace (':' :: ' ' :: cs) = ':' :: ' ' :: cs := skipSpace_cons rfl _
  have hspace : skipSpace (' ' :: cs) = cs := hs
  simp only [readEntries, hk, bind, Except.bind, hcolon, hspace, hv, ha, hn, pure, Except.pure]

end Steps

section Values

variable {indent : Option Nat}

/-- A value reads back at every level, whatever may follow it, with fuel twice the length of its
text. -/
def ReadsBack (indent : Option Nat) (v : Value) : Prop :=
  ∀ level fuel rest, 2 * (writeValue indent level v).length ≤ fuel → EndsNumber rest →
    readValue fuel (writeValue indent level v ++ rest) = .ok (v, rest)

/-- The text of a value starts with a character that is no blank and no closing bracket. -/
def StartsValue (cs : List Char) : Prop :=
  ∃ c rest, cs = c :: rest ∧ isSpace c = false ∧ c ≠ ']'

theorem StartsValue.append {cs : List Char} (h : StartsValue cs) (rest : List Char) :
    StartsValue (cs ++ rest) := by
  obtain ⟨c, more, rfl, hc, hb⟩ := h
  exact ⟨c, more ++ rest, rfl, hc, hb⟩

theorem StartsValue.skipSpace {cs : List Char} (h : StartsValue cs) : skipSpace cs = cs := by
  obtain ⟨c, rest, rfl, hc, -⟩ := h
  exact skipSpace_cons hc rest

/-- What starts like a value does not close a list. -/
theorem StartsValue.ne_close {cs : List Char} (h : StartsValue cs) :
    ∀ after, cs ≠ ']' :: after := by
  rintro after rfl
  obtain ⟨c, rest, heq, -, hne⟩ := h
  exact hne (List.cons.inj heq).1.symm

theorem startsValue_writeText (s : String) : StartsValue (writeText s) :=
  ⟨'"', _, rfl, rfl, by decide⟩

/-- What starts like a bare scalar starts like a value. -/
theorem startsValue_of_startsBare {cs : List Char}
    (h : ∃ c rest, cs = c :: rest ∧ startsBare c = true) : StartsValue cs := by
  obtain ⟨c, rest, rfl, hc⟩ := h
  have hne {d : Char} (hd : startsBare d = false) : c ≠ d := ne_of_startsBare hc hd
  refine ⟨c, rest, rfl, ?_, hne rfl⟩
  simp only [isSpace, hne (d := ' ') rfl, hne (d := '\t') rfl, hne (d := '\n') rfl,
    hne (d := '\r') rfl, decide_false, Bool.or_self]

theorem Expressible.startsValue {v : Value} (h : Expressible v) (indent : Option Nat)
    (level : Nat) : StartsValue (writeValue indent level v) := by
  cases h with
  | bare h => exact startsValue_of_startsBare h.exists_cons
  | text s => exact startsValue_writeText s
  | @list items h => cases items <;> exact ⟨'[', _, rfl, rfl, by decide⟩
  | @record fields hd h => cases fields <;> exact ⟨'\x7b', _, rfl, rfl, by decide⟩

/-- What stands behind the last item of a list or mapping, which is a line break and the bracket
that closes it, cannot continue a number. -/
theorem endsNumber_lineBreak {close : Char} (hc : isDigit close = false ∧ close ≠ '.' ∧
    close ≠ 'e' ∧ close ≠ 'E') (level : Nat) (rest : List Char) :
    EndsNumber (lineBreak indent level ++ close :: rest) := by
  cases indent with
  | none => exact endsNumber_cons hc rest
  | some width => exact endsNumber_cons (by decide) _

/-- A line break in front of a bracket is skipped. -/
theorem skipSpace_lineBreak {c : Char} (hc : isSpace c = false) (level : Nat) (rest : List Char) :
    skipSpace (lineBreak indent level ++ c :: rest) = c :: rest := by
  rw [skipSpace_append fun _ => isSpace_of_mem_lineBreak, skipSpace_cons hc]

/-- The items of a list read back when each of them does. -/
theorem readItems_writeItems {v : Value} {items : List Value} (he : ∀ w ∈ v :: items, Expressible w)
    (hb : ∀ w ∈ v :: items, ReadsBack indent w) (level below : Nat) {fuel : Nat}
    (hf : 2 * ((writeValue indent level v).length + (writeItems indent level items).length) < fuel)
    (rest : List Char) :
    readItems fuel (writeValue indent level v ++ (writeItems indent level items ++
      (lineBreak indent below ++ ']' :: rest))) = .ok (v :: items, rest) := by
  induction items generalizing v fuel with
  | nil =>
      obtain ⟨fuel, rfl⟩ : ∃ n, fuel = n + 1 := ⟨fuel - 1, by omega⟩
      simp only [writeItems, List.length_nil, List.nil_append] at hf ⊢
      have hv := hb v List.mem_cons_self level fuel (lineBreak indent below ++ ']' :: rest)
        (by omega) (endsNumber_lineBreak (by decide) below rest)
      exact readItems_last hv (skipSpace_lineBreak rfl below rest)
  | cons w items ih =>
      obtain ⟨fuel, rfl⟩ : ∃ n, fuel = n + 1 := ⟨fuel - 1, by omega⟩
      obtain ⟨blanks, hseparator, hblanks⟩ := exists_separator indent level
      simp only [writeItems, hseparator, List.length_append, List.length_cons, List.append_assoc,
        List.cons_append] at hf ⊢
      have hv := fun rest => hb v List.mem_cons_self level fuel rest (by omega)
      have hstart : StartsValue (writeValue indent level w) :=
        (he w (by simp)).startsValue indent level
      refine readItems_more (hv _ (endsNumber_cons (by decide) _)) (skipSpace_cons rfl _) ?_
      rw [skipSpace_append hblanks, (hstart.append _).skipSpace]
      exact ih (fun x hx => he x (List.mem_cons_of_mem v hx))
        (fun x hx => hb x (List.mem_cons_of_mem v hx)) (by omega)

/-- The entries of a mapping with texts as keys. -/
def textEntries (fields : List (String × Value)) : List (Scalar × Value) :=
  fields.map fun f => (.text f.1, f.2)

theorem textEntries_cons (f : String × Value) (fields : List (String × Value)) :
    textEntries (f :: fields) = (.text f.1, f.2) :: textEntries fields := rfl

/-- The entries of a mapping read back when the value of each of them does. -/
theorem readEntries_writeEntries {f : String × Value} {fields : List (String × Value)}
    (he : ∀ g ∈ f :: fields, Expressible g.2) (hb : ∀ g ∈ f :: fields, ReadsBack indent g.2)
    (level below : Nat) {fuel : Nat}
    (hf : 2 * ((writeText f.1).length + (writeValue indent level f.2).length +
      (writeEntries indent level (textEntries fields)).length) < fuel)
    (rest : List Char) :
    readEntries fuel (writeText f.1 ++ ':' :: ' ' :: (writeValue indent level f.2 ++
      (writeEntries indent level (textEntries fields) ++
        (lineBreak indent below ++ '\x7d' :: rest)))) = .ok (textEntries (f :: fields), rest) := by
  induction fields generalizing f fuel with
  | nil =>
      obtain ⟨fuel, rfl⟩ : ∃ n, fuel = n + 1 := ⟨fuel - 1, by omega⟩
      simp only [textEntries, List.map_nil, writeEntries, List.length_nil, List.nil_append] at hf ⊢
      have hv := hb f List.mem_cons_self level fuel (lineBreak indent below ++ '\x7d' :: rest)
        (by omega) (endsNumber_lineBreak (by decide) below rest)
      have hstart : StartsValue (writeValue indent level f.2) :=
        (he f List.mem_cons_self).startsValue indent level
      rw [writeText_append]
      exact readEntries_last (readText_writeChars f.1 _) (hstart.append _).skipSpace hv
        (skipSpace_lineBreak rfl below rest)
  | cons g fields ih =>
      obtain ⟨fuel, rfl⟩ : ∃ n, fuel = n + 1 := ⟨fuel - 1, by omega⟩
      obtain ⟨blanks, hseparator, hblanks⟩ := exists_separator indent level
      simp only [textEntries_cons g, writeEntries, writeKey, hseparator, List.length_append,
        List.length_cons, List.append_assoc, List.cons_append] at hf ⊢
      have hv := fun rest => hb f List.mem_cons_self level fuel rest (by omega)
      have hstart : StartsValue (writeValue indent level f.2) :=
        (he f List.mem_cons_self).startsValue indent level
      have hname : StartsValue (writeText g.1) := startsValue_writeText g.1
      rw [writeText_append]
      refine readEntries_more (readText_writeChars f.1 _) (hstart.append _).skipSpace
        (hv _ (endsNumber_cons (by decide) _)) (skipSpace_cons rfl _) ?_
      rw [skipSpace_append hblanks, (hname.append _).skipSpace]
      exact ih (fun x hx => he x (List.mem_cons_of_mem f hx))
        (fun x hx => hb x (List.mem_cons_of_mem f hx)) (by omega)

/-- Every expressible value reads back. -/
theorem Expressible.readsBack {v : Value} (h : Expressible v) (indent : Option Nat) :
    ReadsBack indent v := by
  induction h with
  | @bare s h =>
      intro level fuel rest hf hr
      obtain ⟨c, cs, hw, hc⟩ := h.exists_cons
      have hread : readPlain (writeScalar s ++ rest) = .ok (.scalar s, rest) := h.readPlain hr
      simp only [writeValue, hw, List.length_cons, List.cons_append] at hf hread ⊢
      obtain ⟨fuel, rfl⟩ : ∃ n, fuel = n + 1 := ⟨fuel - 1, by omega⟩
      rw [readValue_bare hc, hread]
  | text s =>
      intro level fuel rest hf hr
      have hw : writeValue indent level (.text s) = writeText s := rfl
      rw [hw] at hf ⊢
      obtain ⟨fuel, rfl⟩ : ∃ n, fuel = n + 1 := ⟨fuel - 1, by simp [writeText] at hf; omega⟩
      rw [writeText_append]
      simp only [readValue, readText_writeChars, bind, Except.bind, pure, Except.pure]
  | @list items h ih =>
      intro level fuel rest hf hr
      cases items with
      | nil =>
          obtain ⟨fuel, rfl⟩ : ∃ n, fuel = n + 1 := ⟨fuel - 1, by simp [writeValue] at hf; omega⟩
          simp [writeValue, readValue, skipSpace, isSpace]
      | cons v items =>
          have hstart : StartsValue (writeValue indent (level + 1) v) :=
            (h v List.mem_cons_self).startsValue indent (level + 1)
          simp only [writeValue, List.length_append, List.length_cons, List.append_assoc,
            List.cons_append, List.nil_append] at hf ⊢
          obtain ⟨fuel, rfl⟩ : ∃ n, fuel = n + 1 := ⟨fuel - 1, by omega⟩
          refine readValue_list ?_ ?_ (readItems_writeItems h ih (level + 1) level (by omega) rest)
          · rw [skipSpace_append fun _ => isSpace_of_mem_lineBreak, (hstart.append _).skipSpace]
          · exact (hstart.append _).ne_close
  | @record fields hd h ih =>
      intro level fuel rest hf hr
      cases fields with
      | nil =>
          obtain ⟨fuel, rfl⟩ : ∃ n, fuel = n + 1 :=
            ⟨fuel - 1, by simp [Value.record, writeValue] at hf; omega⟩
          simp [Value.record, writeValue, readValue, skipSpace, isSpace]
      | cons f fields =>
          have hname : StartsValue (writeText f.1) := startsValue_writeText f.1
          have hwrite : writeValue indent level (.record (f :: fields)) =
            writeValue indent level (.map ((.text f.1, f.2) :: textEntries fields)) := rfl
          have hentries : Value.record (f :: fields) = .ofEntries (textEntries (f :: fields)) :=
            (Value.ofEntries_record hd).symm
          rw [hwrite] at hf ⊢
          rw [hentries]
          simp only [writeValue, writeKey, List.length_append, List.length_cons, List.append_assoc,
            List.cons_append, List.nil_append] at hf ⊢
          obtain ⟨fuel, rfl⟩ : ∃ n, fuel = n + 1 := ⟨fuel - 1, by omega⟩
          refine readValue_map ?_ ?_
            (readEntries_writeEntries h ih (level + 1) level (by omega) rest)
          · rw [skipSpace_append fun _ => isSpace_of_mem_lineBreak, (hname.append _).skipSpace]
          · intro after heq
            rw [writeText_append] at heq
            exact absurd (List.cons.inj heq).1 (by decide)

end Values

/-- A text of an expressible value with blanks in front reads as that value. -/
theorem readAll_writeValue {v : Value} (h : Expressible v) (indent : Option Nat)
    {blanks : List Char} (hb : ∀ c ∈ blanks, isSpace c = true) :
    readAll (blanks ++ writeValue indent 0 v) = .ok v := by
  have hstart : StartsValue (writeValue indent 0 v) := h.startsValue indent 0
  have hfuel : 2 * (writeValue indent 0 v).length ≤
      2 * (blanks ++ writeValue indent 0 v).length + 2 := by
    rw [List.length_append]
    omega
  have hread := h.readsBack indent 0 _ [] hfuel endsNumber_nil
  rw [List.append_nil] at hread
  rw [readAll, skipSpace_append hb, hstart.skipSpace, hread]
  rfl

/-- The text of an expressible value reads as that value. -/
theorem read_write {v : Value} (h : Expressible v) (indent : Option Nat) :
    read (write indent v) = .ok v := by
  have hblanks : ∀ c ∈ ([] : List Char), isSpace c = true := List.forall_mem_nil _
  have hread : readAll (writeValue indent 0 v) = .ok v := readAll_writeValue h indent hblanks
  rw [read, write, String.toList_ofList, hread]
  rfl

end ServiceFlow.Json
