import ServiceFlow.Json.Reader
import ServiceFlow.Proofs.Outcome
import ServiceFlow.Value.Display

/-!
# What is read can be displayed

A value can be displayed when all of its parts can, and of the parts that have none of their own
only whole numbers may be too long for that. Reading JSON refuses just these numbers. So whatever is
read from a JSON text can be displayed, at every level of nesting.
-/

namespace ServiceFlow

namespace Value

/-- A list can be displayed when its items can. -/
theorem isLegible_list_iff {items : List Value} :
    (list items).isLegible = true ↔ ∀ v ∈ items, v.isLegible = true := by
  rw [isLegible]
  induction items with
  | nil => simp [itemsAreLegible]
  | cons v rest ih => rw [itemsAreLegible, Bool.and_eq_true, ih, List.forall_mem_cons]

/-- A mapping can be displayed when its keys and values can. -/
theorem isLegible_map_iff {entries : List (Scalar × Value)} : (map entries).isLegible = true ↔
    ∀ e ∈ entries, e.1.isLegible = true ∧ e.2.isLegible = true := by
  rw [isLegible]
  induction entries with
  | nil => simp [entriesAreLegible]
  | cons e rest ih =>
      rw [entriesAreLegible, Bool.and_eq_true, Bool.and_eq_true, ih, List.forall_mem_cons]

/-- What stands in a mapping that can be displayed can be displayed. -/
theorem isLegible_of_lookup? {fields : List (Scalar × Value)} (h : (map fields).isLegible = true)
    {name : String} {v : Value} (hv : lookup? name fields = some v) : v.isLegible = true := by
  obtain ⟨e, he, rfl⟩ := Table.exists_mem_of_find? hv
  exact (isLegible_map_iff.mp h e he).2

/-- A mapping whose keys are texts can be displayed when its values can. -/
theorem isLegible_record_iff {fields : List (String × Value)} :
    (record fields).isLegible = true ↔ ∀ f ∈ fields, f.2.isLegible = true := by
  rw [record, isLegible_map_iff, List.forall_mem_map]
  exact forall₂_congr fun f _ => and_iff_right rfl

/-- Setting an entry that can be displayed keeps a mapping one that can be. -/
theorem isLegible_insert {key : Scalar} {v : Value} {entries : List (Scalar × Value)}
    (hk : key.isLegible = true) (hv : v.isLegible = true)
    (h : ∀ e ∈ entries, e.1.isLegible = true ∧ e.2.isLegible = true) :
    ∀ e ∈ Table.insert Scalar.same key v entries, e.1.isLegible = true ∧ e.2.isLegible = true := by
  induction entries with
  | nil => exact List.forall_mem_singleton.mpr ⟨hk, hv⟩
  | cons f rest ih =>
      obtain ⟨hf, hrest⟩ := List.forall_mem_cons.mp h
      rw [Table.insert]
      split
      · exact List.forall_mem_cons.mpr ⟨⟨hf.1, hv⟩, hrest⟩
      · exact List.forall_mem_cons.mpr ⟨hf, ih hrest⟩

/-- Entries that can be displayed make a mapping that can be. -/
theorem isLegible_ofEntries {entries : List (Scalar × Value)}
    (h : ∀ e ∈ entries, e.1.isLegible = true ∧ e.2.isLegible = true) :
    (ofEntries entries).isLegible = true := by
  rw [ofEntries, isLegible_map_iff, Table.ofEntries, Table.insertAll]
  -- the entries are set one by one in a table that can be displayed from the start
  have hfold (table : List (Scalar × Value))
      (ht : ∀ e ∈ table, e.1.isLegible = true ∧ e.2.isLegible = true) :
      ∀ e ∈ entries.foldl (fun t e => Table.insert Scalar.same e.1 e.2 t) table,
        e.1.isLegible = true ∧ e.2.isLegible = true := by
    induction entries generalizing table with
    | nil => exact ht
    | cons f rest ih =>
        obtain ⟨hf, hrest⟩ := List.forall_mem_cons.mp h
        exact ih hrest _ (isLegible_insert hf.1 hf.2 ht)
  exact hfold [] (List.forall_mem_nil _)

end Value

/-- A run of digits in a base is less than the power of the base with as many places. -/
theorem ofDigits_lt {base : Nat} {digits : List Nat} (h : ∀ d ∈ digits, d < base) :
    ofDigits base digits < Nat.pow base digits.length := by
  have hfold (start : Nat) : digits.foldl (fun n d => n * base + d) start <
      (start + 1) * Nat.pow base digits.length := by
    induction digits generalizing start with
    | nil => exact Nat.lt_of_lt_of_eq (Nat.lt_succ_self start) (Nat.mul_one _).symm
    | cons d rest ih =>
        obtain ⟨hd, hrest⟩ := List.forall_mem_cons.mp h
        have hplace : start * base + d + 1 ≤ (start + 1) * base := by
          rw [Nat.succ_mul]
          omega
        calc (d :: rest).foldl (fun n d => n * base + d) start
            < (start * base + d + 1) * Nat.pow base rest.length := ih hrest _
          _ ≤ (start + 1) * base * Nat.pow base rest.length := Nat.mul_le_mul_right _ hplace
          _ = (start + 1) * Nat.pow base (d :: rest).length := by
            rw [List.length_cons, Nat.mul_assoc, Nat.mul_comm base]
            rfl
  have h0 := hfold 0
  rwa [Nat.zero_add, Nat.one_mul] at h0

namespace Json

/-- The value of a decimal digit is below ten. -/
theorem digitOf_lt {c : Char} (h : isDigit c = true) : digitOf c < 10 := by
  simp only [isDigit, Bool.and_eq_true, decide_eq_true_eq, Char.le_def,
    UInt32.le_iff_toNat_le] at h
  have hnine : ('9' : Char).val.toNat = 57 := rfl
  have hzero : ('0' : Char).toNat = 48 := rfl
  have hc : c.toNat = c.val.toNat := rfl
  rw [digitOf]
  omega

/-- What stands before the point of a number that is read are digits. -/
theorem isDigit_of_mem_whole {cs rest : List Char} {n : Numeral}
    (h : readNumeral? cs = some (n, rest)) : ∀ c ∈ n.whole, isDigit c = true := by
  simp only [readNumeral?] at h
  split at h
  · cases h
    exact List.forall_mem_singleton.mpr rfl
  · split at h
    · cases h
    · cases h
      intro c hc
      exact List.all_eq_true.mp List.all_takeWhile c hc

/-- A number that is read can be displayed: a whole number is refused beyond the limit on digits. -/
theorem isLegible_of_numeralValue {n : Numeral} {s : Scalar}
    (hn : ∀ c ∈ n.whole, isDigit c = true) (h : numeralValue n = .ok s) : s.isLegible = true := by
  unfold numeralValue at h
  split at h
  · cases h
    rfl
  · split at h
    · cases h
    · next hlimit =>
        cases h
        have hdigits : ∀ d ∈ n.whole.map digitOf, d < 10 :=
          List.forall_mem_map.mpr fun c hc => digitOf_lt (hn c hc)
        have hlt := ofDigits_lt hdigits
        rw [List.length_map] at hlt
        have habs : n.toInt.natAbs = ofDigits 10 (n.whole.map digitOf) := by
          unfold Numeral.toInt
          split
          · exact Int.natAbs_neg _
          · rfl
        rw [Scalar.isLegible, isLegible, habs, decide_eq_true_iff]
        -- The limit becomes a variable, so that the power is not computed.
        unfold illegibleFrom
        generalize digitLimit = limit at hlimit ⊢
        have hle := Nat.le_of_not_lt hlimit
        exact Nat.lt_of_lt_of_le hlt (Nat.pow_le_pow_right (by decide) hle)

/-- A word stands for no whole number. -/
theorem isLegible_of_readWord? {cs rest : List Char} {s : Scalar}
    (h : readWord? cs = some (s, rest)) : s.isLegible = true := by
  obtain ⟨⟨word, value⟩, hmem, hvalue⟩ := List.exists_of_findSome?_eq_some h
  have hall : ∀ w ∈ words, w.2.isLegible = true := by decide
  dsimp only at hvalue
  split at hvalue
  · cases hvalue
    exact hall _ hmem
  · cases hvalue

/-- What is read that is neither a text nor a collection can be displayed. -/
theorem isLegible_of_readPlain {cs rest : List Char} {v : Value}
    (h : readPlain cs = .ok (v, rest)) : v.isLegible = true := by
  unfold readPlain at h
  split at h
  · next hword =>
      cases h
      exact isLegible_of_readWord? hword
  · split at h
    · next hnumeral =>
        split at h
        · next hvalue =>
            cases h
            exact isLegible_of_numeralValue (isDigit_of_mem_whole hnumeral) hvalue
        · cases h
    · cases h

/-- What is read with some fuel can be displayed: values, the items of lists, and the entries of
mappings. -/
theorem isLegible_of_readers (fuel : Nat) :
    (∀ cs v rest, readValue fuel cs = .ok (v, rest) → v.isLegible = true) ∧
      (∀ cs vs rest, readItems fuel cs = .ok (vs, rest) → ∀ v ∈ vs, v.isLegible = true) ∧
      ∀ cs es rest, readEntries fuel cs = .ok (es, rest) →
        ∀ e ∈ es, e.1.isLegible = true ∧ e.2.isLegible = true := by
  induction fuel with
  | zero => exact ⟨nofun, nofun, nofun⟩
  | succ fuel ih =>
      obtain ⟨hvalue, hitems, hentries⟩ := ih
      refine ⟨fun cs v rest h => ?_, fun cs vs rest h => ?_, fun cs es rest h => ?_⟩
      · unfold readValue at h
        split at h
        · obtain ⟨⟨s, after⟩, -, h⟩ := bind_eq_ok_iff.mp h
          cases h
          rfl
        · split at h
          · cases h
            rfl
          · obtain ⟨⟨items, after⟩, hread, h⟩ := bind_eq_ok_iff.mp h
            cases h
            exact Value.isLegible_list_iff.mpr (hitems _ _ _ hread)
        · split at h
          · cases h
            rfl
          · obtain ⟨⟨entries, after⟩, hread, h⟩ := bind_eq_ok_iff.mp h
            cases h
            exact Value.isLegible_ofEntries (hentries _ _ _ hread)
        · exact isLegible_of_readPlain h
      · unfold readItems at h
        obtain ⟨⟨v, after⟩, hread, h⟩ := bind_eq_ok_iff.mp h
        have hfirst := hvalue _ _ _ hread
        dsimp only at h
        split at h
        · cases h
          exact List.forall_mem_singleton.mpr hfirst
        · obtain ⟨⟨items, last⟩, hmore, h⟩ := bind_eq_ok_iff.mp h
          cases h
          exact List.forall_mem_cons.mpr ⟨hfirst, hitems _ _ _ hmore⟩
        · cases h
      · unfold readEntries at h
        split at h
        · obtain ⟨⟨key, afterKey⟩, -, h⟩ := bind_eq_ok_iff.mp h
          dsimp only at h
          split at h
          · obtain ⟨⟨v, after⟩, hread, h⟩ := bind_eq_ok_iff.mp h
            have hfirst := hvalue _ _ _ hread
            dsimp only at h
            split at h
            · cases h
              exact List.forall_mem_singleton.mpr ⟨rfl, hfirst⟩
            · obtain ⟨⟨entries, last⟩, hmore, h⟩ := bind_eq_ok_iff.mp h
              cases h
              exact List.forall_mem_cons.mpr ⟨⟨rfl, hfirst⟩, hentries _ _ _ hmore⟩
            · cases h
          · cases h
        · cases h

/-- The value of a JSON text can be displayed. -/
theorem isLegible_of_read {text : String} {v : Value} (h : read text = .ok v) :
    v.isLegible = true := by
  obtain ⟨⟨w, after⟩, hread, h⟩ := bind_eq_ok_iff.mp (mapError_eq_ok_iff.mp h)
  dsimp only at h
  split at h
  · cases h
    exact (isLegible_of_readers _).1 _ _ _ hread
  · cases h

end Json

end ServiceFlow
