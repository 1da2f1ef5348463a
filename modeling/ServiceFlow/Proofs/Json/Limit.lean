import ServiceFlow.Proofs.Json.Legible
import ServiceFlow.Proofs.Json.RoundTrip

/-!
# The limit on digits in written values

The values here are those of JSON whose numbers are whole, of any size. One of them reads back from
its text if all of its numbers are within the limit on digits. Otherwise reading stops at the first
number that is not: whatever stands before that number reads back, so the fault is always the number
of its digits, at every level of nesting and whatever follows the value.
-/

namespace ServiceFlow

namespace Value

/-- A value that cannot be displayed has a part that cannot. -/
theorem exists_illegible_of_list {items : List Value} (h : (list items).isLegible = false) :
    ∃ v ∈ items, v.isLegible = false := by
  simpa using mt isLegible_list_iff.mpr (Bool.eq_false_iff.mp h)

theorem exists_illegible_of_record {fields : List (String × Value)}
    (h : (record fields).isLegible = false) : ∃ f ∈ fields, f.2.isLegible = false := by
  simpa using mt isLegible_record_iff.mpr (Bool.eq_false_iff.mp h)

end Value

namespace Json

/-- The values of JSON whose numbers are whole, of any size: null, truth values, whole numbers,
texts, lists, and mappings whose keys are distinct texts. -/
inductive Whole : Value → Prop
  | null : Whole .null
  | bool (b : Bool) : Whole (.bool b)
  | int (n : Int) : Whole (.int n)
  | text (s : String) : Whole (.text s)
  | list {items : List Value} (h : ∀ v ∈ items, Whole v) : Whole (.list items)
  | record {fields : List (String × Value)} (hd : (fields.map (·.1)).Nodup)
      (h : ∀ f ∈ fields, Whole f.2) : Whole (.record fields)

/-- If all of its numbers are within the limit on digits, JSON has a form for such a value that is
read. -/
theorem Whole.expressible {v : Value} (h : Whole v) (hl : v.isLegible = true) : Expressible v := by
  induction h with
  | null => exact .bare .null
  | bool b => exact .bare (.bool b)
  | int n => exact .bare (.int hl)
  | text s => exact .text s
  | list h ih => exact .list fun v hv => ih v hv (Value.isLegible_list_iff.mp hl v hv)
  | record hd h ih =>
      exact .record hd fun f hf => ih f hf (Value.isLegible_record_iff.mp hl f hf)

/-- The text of such a value starts like one, whatever the size of its numbers. -/
theorem Whole.startsValue {v : Value} (h : Whole v) (indent : Option Nat) (level : Nat) :
    StartsValue (writeValue indent level v) := by
  cases h with
  | null => exact (Expressible.bare .null).startsValue indent level
  | bool b => exact (Expressible.bare (.bool b)).startsValue indent level
  | int n => exact startsValue_of_startsBare (exists_writeScalar_int n)
  | text s => exact startsValue_writeText s
  | @list items h => cases items <;> exact ⟨'[', _, rfl, rfl, by decide⟩
  | @record fields hd h => cases fields <;> exact ⟨'\x7b', _, rfl, rfl, by decide⟩

/-- Reading ended at a number of too many digits. -/
def Refused {α : Type} (x : Except Stop α) : Prop :=
  ∃ stop count, x = .error stop ∧ stop.cause = .tooManyDigits count ∧ digitLimit < count

/-- What goes on after reading has ended does not matter. -/
theorem Refused.bind {α β : Type} {x : Except Stop α} (h : Refused x) (f : α → Except Stop β) :
    Refused (x >>= f) := by
  obtain ⟨stop, count, rfl, hcause, hcount⟩ := h
  exact ⟨stop, count, rfl, hcause, hcount⟩

section Steps

variable {fuel : Nat} {cs after next : List Char} {v : Value}

/-- A whole number beyond the limit is refused when what follows cannot continue it. -/
theorem readPlain_int_refused {n : Int} (hn : isLegible n = false) {rest : List Char}
    (hr : EndsNumber rest) : Refused (readPlain (writeScalar (.int n) ++ rest)) := by
  have hlarge : illegibleFrom ≤ n.natAbs := by simpa [isLegible] using hn
  obtain ⟨hword, hnumeral⟩ := readNumeral?_writeScalar_int n hr
  obtain ⟨count, hvalue, hcount⟩ := numeralValue_toDigits_of_le (decide (n < 0)) hlarge
  have hread : readPlain (writeScalar (.int n) ++ rest) =
      .error ⟨.tooManyDigits count, writeScalar (.int n) ++ rest⟩ := by
    simp only [readPlain, hword, hnumeral, hvalue]
  exact ⟨_, count, hread, rfl, hcount⟩

/-- A list is refused when its items are. -/
theorem readValue_list_refused {first : List Char} (hs : skipSpace cs = first)
    (hne : ∀ after, first ≠ ']' :: after) (hi : Refused (readItems fuel first)) :
    Refused (readValue (fuel + 1) ('[' :: cs)) := by
  subst hs
  simp only [readValue]
  exact hi.bind _

/-- A mapping is refused when its entries are. -/
theorem readValue_map_refused {first : List Char} (hs : skipSpace cs = first)
    (hne : ∀ after, first ≠ '\x7d' :: after) (hi : Refused (readEntries fuel first)) :
    Refused (readValue (fuel + 1) ('\x7b' :: cs)) := by
  subst hs
  simp only [readValue]
  exact hi.bind _

/-- Items are refused when the first one is. -/
theorem readItems_first_refused (hv : Refused (readValue fuel cs)) :
    Refused (readItems (fuel + 1) cs) := by
  rw [readItems]
  exact hv.bind _

/-- Items are refused when those after the first are. -/
theorem readItems_more_refused (hv : readValue fuel cs = .ok (v, after))
    (ha : skipSpace after = ',' :: next) (hn : Refused (readItems fuel (skipSpace next))) :
    Refused (readItems (fuel + 1) cs) := by
  simp only [readItems, hv, bind, Except.bind, ha]
  exact hn.bind _

/-- Entries are refused when the value of the first one is. -/
theorem readEntries_first_refused {name : List Char} {key : String}
    (hk : readText name = .ok (key, ':' :: ' ' :: cs)) (hs : skipSpace cs = cs)
    (hv : Refused (readValue fuel cs)) : Refused (readEntries (fuel + 1) ('"' :: name)) := by
  have hcolon : skipSpace (':' :: ' ' :: cs) = ':' :: ' ' :: cs := skipSpace_cons rfl _
  have hspace : skipSpace (' ' :: cs) = cs := hs
  simp only [readEntries, hk, bind, Except.bind, hcolon, hspace]
  exact hv.bind _

/-- Entries are refused when those after the first are. -/
theorem readEntries_more_refused {name : List Char} {key : String}
    (hk : readText name = .ok (key, ':' :: ' ' :: cs)) (hs : skipSpace cs = cs)
    (hv : readValue fuel cs = .ok (v, after)) (ha : skipSpace after = ',' :: next)
    (hn : Refused (readEntries fuel (skipSpace next))) :
    Refused (readEntries (fuel + 1) ('"' :: name)) := by
  have hcolon : skipSpace (':' :: ' ' :: cs) = ':' :: ' ' :: cs := skipSpace_cons rfl _
  have hspace : skipSpace (' ' :: cs) = cs := hs
  simp only [readEntries, hk, bind, Except.bind, hcolon, hspace, hv, ha]
  exact hn.bind _

end Steps

section Values

variable {indent : Option Nat}

/-- A value is refused at every level, whatever may follow it, with fuel twice the length of its
text. -/
def IsRefused (indent : Option Nat) (v : Value) : Prop :=
  ∀ level fuel rest, 2 * (writeValue indent level v).length ≤ fuel → EndsNumber rest →
    Refused (readValue fuel (writeValue indent level v ++ rest))

/-- What stands behind an item of a list, whether or not others follow, cannot continue a number. -/
theorem endsNumber_writeItems (items : List Value) (level below : Nat) (rest : List Char) :
    EndsNumber (writeItems indent level items ++ (lineBreak indent below ++ ']' :: rest)) := by
  cases items with
  | nil => exact endsNumber_lineBreak (by decide) below rest
  | cons w items =>
      obtain ⟨blanks, hseparator, -⟩ := exists_separator indent level
      rw [writeItems, hseparator]
      exact endsNumber_cons (by decide) _

/-- What stands behind an entry of a mapping, whether or not others follow, cannot continue a
number. -/
theorem endsNumber_writeEntries (entries : List (Scalar × Value)) (level below : Nat)
    (rest : List Char) :
    EndsNumber (writeEntries indent level entries ++
      (lineBreak indent below ++ '\x7d' :: rest)) := by
  cases entries with
  | nil => exact endsNumber_lineBreak (by decide) below rest
  | cons e entries =>
      obtain ⟨blanks, hseparator, -⟩ := exists_separator indent level
      rw [writeEntries, hseparator]
      exact endsNumber_cons (by decide) _

/-- The items of a list are refused when one of them is: those in front of it read back. -/
theorem readItems_refused {v : Value} {items : List Value} (hw : ∀ w ∈ v :: items, Whole w)
    (hr : ∀ w ∈ v :: items, w.isLegible = false → IsRefused indent w)
    (hl : ∃ w ∈ v :: items, w.isLegible = false) (level below : Nat) {fuel : Nat}
    (hf : 2 * ((writeValue indent level v).length + (writeItems indent level items).length) < fuel)
    (rest : List Char) :
    Refused (readItems fuel (writeValue indent level v ++ (writeItems indent level items ++
      (lineBreak indent below ++ ']' :: rest)))) := by
  induction items generalizing v fuel with
  | nil =>
      obtain ⟨fuel, rfl⟩ : ∃ n, fuel = n + 1 := ⟨fuel - 1, by omega⟩
      obtain ⟨w, hmem, hwl⟩ := hl
      obtain rfl := List.mem_singleton.mp hmem
      exact readItems_first_refused
        (hr w hmem hwl level fuel _ (by omega) (endsNumber_writeItems [] level below rest))
  | cons w items ih =>
      obtain ⟨fuel, rfl⟩ : ∃ n, fuel = n + 1 := ⟨fuel - 1, by omega⟩
      have hend : EndsNumber (writeItems indent level (w :: items) ++
          (lineBreak indent below ++ ']' :: rest)) := endsNumber_writeItems _ level below rest
      by_cases hv : v.isLegible = true
      · -- The first item reads back, so one that is refused is among the others.
        have hothers : ∃ x ∈ w :: items, x.isLegible = false := by simpa [hv] using hl
        obtain ⟨blanks, hseparator, hblanks⟩ := exists_separator indent level
        have hstart : StartsValue (writeValue indent level w) :=
          (hw w (by simp)).startsValue indent level
        have hexpressible := (hw v List.mem_cons_self).expressible hv
        simp only [writeItems, hseparator, List.length_append, List.length_cons, List.append_assoc,
          List.cons_append] at hf ⊢
        have hread := fun rest => hexpressible.readsBack indent level fuel rest (by omega)
        refine readItems_more_refused (hread _ (endsNumber_cons (by decide) _))
          (skipSpace_cons rfl _) ?_
        rw [skipSpace_append hblanks, (hstart.append _).skipSpace]
        exact ih (fun x hx => hw x (List.mem_cons_of_mem v hx))
          (fun x hx => hr x (List.mem_cons_of_mem v hx)) hothers (by omega)
      · have hv : v.isLegible = false := Bool.eq_false_iff.mpr hv
        exact readItems_first_refused (hr v List.mem_cons_self hv level fuel _ (by omega) hend)

/-- The entries of a mapping are refused when the value of one of them is: those in front of it read
back. -/
theorem readEntries_refused {f : String × Value} {fields : List (String × Value)}
    (hw : ∀ g ∈ f :: fields, Whole g.2)
    (hr : ∀ g ∈ f :: fields, g.2.isLegible = false → IsRefused indent g.2)
    (hl : ∃ g ∈ f :: fields, g.2.isLegible = false) (level below : Nat) {fuel : Nat}
    (hf : 2 * ((writeText f.1).length + (writeValue indent level f.2).length +
      (writeEntries indent level (textEntries fields)).length) < fuel)
    (rest : List Char) :
    Refused (readEntries fuel (writeText f.1 ++ ':' :: ' ' :: (writeValue indent level f.2 ++
      (writeEntries indent level (textEntries fields) ++
        (lineBreak indent below ++ '\x7d' :: rest))))) := by
  induction fields generalizing f fuel with
  | nil =>
      obtain ⟨fuel, rfl⟩ : ∃ n, fuel = n + 1 := ⟨fuel - 1, by omega⟩
      obtain ⟨g, hmem, hgl⟩ := hl
      obtain rfl := List.mem_singleton.mp hmem
      have hstart : StartsValue (writeValue indent level g.2) :=
        (hw g hmem).startsValue indent level
      rw [writeText_append]
      exact readEntries_first_refused (readText_writeChars g.1 _) (hstart.append _).skipSpace
        (hr g hmem hgl level fuel _ (by omega) (endsNumber_writeEntries [] level below rest))
  | cons g fields ih =>
      obtain ⟨fuel, rfl⟩ : ∃ n, fuel = n + 1 := ⟨fuel - 1, by omega⟩
      have hend : EndsNumber (writeEntries indent level (textEntries (g :: fields)) ++
          (lineBreak indent below ++ '\x7d' :: rest)) := endsNumber_writeEntries _ level below rest
      have hstart : StartsValue (writeValue indent level f.2) :=
        (hw f List.mem_cons_self).startsValue indent level
      rw [writeText_append]
      by_cases hv : f.2.isLegible = true
      · -- The first entry reads back, so one that is refused is among the others.
        have hothers : ∃ x ∈ g :: fields, x.2.isLegible = false := by
          obtain ⟨x, hmem, hxl⟩ := hl
          rcases List.mem_cons.mp hmem with rfl | hx
          · exact absurd hv (by simp [hxl])
          · exact ⟨x, hx, hxl⟩
        obtain ⟨blanks, hseparator, hblanks⟩ := exists_separator indent level
        have hname : StartsValue (writeText g.1) := startsValue_writeText g.1
        have hexpressible := (hw f List.mem_cons_self).expressible hv
        simp only [textEntries_cons g, writeEntries, writeKey, hseparator, List.length_append,
          List.length_cons, List.append_assoc, List.cons_append] at hf ⊢
        have hread := fun rest => hexpressible.readsBack indent level fuel rest (by omega)
        refine readEntries_more_refused (readText_writeChars f.1 _) (hstart.append _).skipSpace
          (hread _ (endsNumber_cons (by decide) _)) (skipSpace_cons rfl _) ?_
        rw [skipSpace_append hblanks, (hname.append _).skipSpace]
        exact ih (fun x hx => hw x (List.mem_cons_of_mem f hx))
          (fun x hx => hr x (List.mem_cons_of_mem f hx)) hothers (by omega)
      · have hv : f.2.isLegible = false := Bool.eq_false_iff.mpr hv
        exact readEntries_first_refused (readText_writeChars f.1 _) (hstart.append _).skipSpace
          (hr f List.mem_cons_self hv level fuel _ (by omega) hend)

/-- A value of JSON with a whole number beyond the limit on digits is refused. -/
theorem Whole.isRefused {v : Value} (h : Whole v) (hl : v.isLegible = false)
    (indent : Option Nat) : IsRefused indent v := by
  induction h with
  | null => cases hl
  | bool b => cases hl
  | int n =>
      intro level fuel rest hf hr
      obtain ⟨c, cs, hw, hc⟩ := exists_writeScalar_int n
      have hread := readPlain_int_refused (n := n) hl hr
      simp only [writeValue, hw, List.length_cons, List.cons_append] at hf hread ⊢
      obtain ⟨fuel, rfl⟩ : ∃ n, fuel = n + 1 := ⟨fuel - 1, by omega⟩
      rw [readValue_bare hc]
      exact hread
  | text s => cases hl
  | @list items h ih =>
      intro level fuel rest hf hr
      have hsome := Value.exists_illegible_of_list hl
      cases items with
      | nil => simp at hsome
      | cons v items =>
          have hstart : StartsValue (writeValue indent (level + 1) v) :=
            (h v List.mem_cons_self).startsValue indent (level + 1)
          simp only [writeValue, List.length_append, List.length_cons, List.append_assoc,
            List.cons_append, List.nil_append] at hf ⊢
          obtain ⟨fuel, rfl⟩ : ∃ n, fuel = n + 1 := ⟨fuel - 1, by omega⟩
          refine readValue_list_refused ?_ ?_
            (readItems_refused h ih hsome (level + 1) level (by omega) rest)
          · rw [skipSpace_append fun _ => isSpace_of_mem_lineBreak, (hstart.append _).skipSpace]
          · exact (hstart.append _).ne_close
  | @record fields hd h ih =>
      intro level fuel rest hf hr
      have hsome := Value.exists_illegible_of_record hl
      cases fields with
      | nil => simp at hsome
      | cons f fields =>
          have hname : StartsValue (writeText f.1) := startsValue_writeText f.1
          have hwrite : writeValue indent level (.record (f :: fields)) =
            writeValue indent level (.map ((.text f.1, f.2) :: textEntries fields)) := rfl
          rw [hwrite] at hf ⊢
          simp only [writeValue, writeKey, List.length_append, List.length_cons, List.append_assoc,
            List.cons_append, List.nil_append] at hf ⊢
          obtain ⟨fuel, rfl⟩ : ∃ n, fuel = n + 1 := ⟨fuel - 1, by omega⟩
          refine readValue_map_refused ?_ ?_
            (readEntries_refused h ih hsome (level + 1) level (by omega) rest)
          · rw [skipSpace_append fun _ => isSpace_of_mem_lineBreak, (hname.append _).skipSpace]
          · intro after heq
            rw [writeText_append] at heq
            exact absurd (List.cons.inj heq).1 (by decide)

end Values

/-- A text of a value of JSON, with blanks in front, reads as that value if its numbers are within
the limit on digits, and is refused otherwise. -/
theorem Whole.readAll {v : Value} (h : Whole v) (indent : Option Nat) {blanks : List Char}
    (hb : ∀ c ∈ blanks, isSpace c = true) :
    (v.isLegible = true → readAll (blanks ++ writeValue indent 0 v) = .ok v) ∧
      (v.isLegible = false → Refused (readAll (blanks ++ writeValue indent 0 v))) := by
  refine ⟨fun hl => readAll_writeValue (h.expressible hl) indent hb, fun hl => ?_⟩
  have hfuel : 2 * (writeValue indent 0 v).length ≤
      2 * (blanks ++ writeValue indent 0 v).length + 2 := by
    rw [List.length_append]
    omega
  have hread := h.isRefused hl indent 0 _ [] hfuel endsNumber_nil
  rw [List.append_nil] at hread
  rw [Json.readAll, skipSpace_append hb, (h.startsValue indent 0).skipSpace]
  exact hread.bind _

end Json

end ServiceFlow
