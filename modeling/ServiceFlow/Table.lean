/-!
# Tables

A table is a list of entries in the order in which their keys were first set. Setting a key that is
there changes its value and keeps its place. Keys are compared by a given test, because the keys of
a document are the same under a coarser test than equality.
-/

namespace ServiceFlow.Table

variable {α β : Type}

/-- Sets the value of a key: in its place when the key is there, else at the end. -/
def insert (same : α → α → Bool) (key : α) (value : β) : List (α × β) → List (α × β)
  | [] => [(key, value)]
  | (k, v) :: rest =>
    if same k key then (k, value) :: rest else (k, v) :: insert same key value rest

/-- Sets the entries one after the other. -/
def insertAll (same : α → α → Bool) (table entries : List (α × β)) : List (α × β) :=
  entries.foldl (fun t e => insert same e.1 e.2 t) table

/-- The table that setting the entries one after the other makes. -/
def ofEntries (same : α → α → Bool) (entries : List (α × β)) : List (α × β) :=
  insertAll same [] entries

/-- The value of a key. -/
def find? (same : α → α → Bool) (key : α) : List (α × β) → Option β
  | [] => none
  | (k, v) :: rest => if same k key then some v else find? same key rest

/-- A key that has just been set has the new value. -/
theorem find?_insert_self (same : α → α → Bool) {key : α} (h : same key key = true) (value : β)
    (table : List (α × β)) : find? same key (insert same key value table) = some value := by
  induction table with
  | nil => simp [insert, find?, h]
  | cons e rest ih => by_cases hk : same e.1 key = true <;> simp [insert, find?, hk, ih]

/-- The value of a key is that of some entry. -/
theorem exists_mem_of_find? {same : α → α → Bool} {key : α} {value : β} {table : List (α × β)}
    (h : find? same key table = some value) : ∃ e ∈ table, e.2 = value := by
  induction table with
  | nil => cases h
  | cons e rest ih =>
    rw [find?] at h
    split at h
    · exact ⟨e, List.mem_cons_self, Option.some.inj h⟩
    · obtain ⟨x, hx, hv⟩ := ih h
      exact ⟨x, List.mem_cons_of_mem e hx, hv⟩

/-- Setting a key leaves the value of every key alone that no entry shares with it. -/
theorem find?_insert_of_ne (same : α → α → Bool) {key other : α}
    (h : ∀ k, same k key = true → same k other = false) (hn : same key other = false) (value : β)
    (table : List (α × β)) : find? same other (insert same key value table) =
      find? same other table := by
  induction table with
  | nil => simp [insert, find?, hn]
  | cons e rest ih =>
    by_cases hk : same e.1 key = true
    · simp [insert, find?, hk, h _ hk]
    · simp [insert, find?, hk, ih]

/-- A key that no entry shares is set at the end. -/
theorem insert_of_fresh (same : α → α → Bool) {key : α} {table : List (α × β)}
    (h : ∀ e ∈ table, same e.1 key = false) (value : β) :
    insert same key value table = table ++ [(key, value)] := by
  induction table with
  | nil => rfl
  | cons e rest ih =>
    have he : same e.1 key = false := h e List.mem_cons_self
    simp [insert, he, ih fun x hx => h x (List.mem_cons_of_mem _ hx)]

/-- Entries no two of which share a key are set one behind the other. -/
theorem insertAll_of_pairwise (same : α → α → Bool) {table entries : List (α × β)}
    (h : (table ++ entries).Pairwise fun a b => same a.1 b.1 = false) :
    insertAll same table entries = table ++ entries := by
  unfold insertAll
  induction entries generalizing table with
  | nil => simp
  | cons e rest ih =>
    have hfresh : ∀ x ∈ table, same x.1 e.1 = false := fun x hx =>
      (List.pairwise_append.mp h).2.2 x hx e List.mem_cons_self
    rw [List.append_cons] at h
    rw [List.foldl_cons, insert_of_fresh same hfresh, ih h, List.append_assoc,
      List.singleton_append]

/-- Entries no two of which share a key are a table as they stand. -/
theorem ofEntries_of_pairwise (same : α → α → Bool) {entries : List (α × β)}
    (h : entries.Pairwise fun a b => same a.1 b.1 = false) : ofEntries same entries = entries :=
  insertAll_of_pairwise same h

section Keys

variable [BEq α] [LawfulBEq α] {key : α} {value : β} {table : List (α × β)}

/-- A key that is there keeps its place, and a new one comes last. -/
theorem keys_insert : (insert (· == ·) key value table).map (·.1) =
    if key ∈ table.map (·.1) then table.map (·.1) else table.map (·.1) ++ [key] := by
  induction table with
  | nil => rfl
  | cons e rest ih =>
      by_cases h : e.1 = key
      · simp [insert, h]
      · have hne : key ≠ e.1 := fun heq => h heq.symm
        simp only [insert, beq_iff_eq, h, ite_false, List.map_cons, ih, List.mem_cons, hne,
          false_or]
        split <;> rfl

/-- Where keys are distinct, setting one replaces its entry and no other. -/
theorem mem_insert_iff (hd : (table.map (·.1)).Nodup) {e : α × β} :
    e ∈ insert (· == ·) key value table ↔ e = (key, value) ∨ e.1 ≠ key ∧ e ∈ table := by
  induction table with
  | nil => simp [insert]
  | cons d rest ih =>
      obtain ⟨hd, hrest⟩ := List.nodup_cons.mp hd
      by_cases h : d.1 = key
      · have hne (he : e ∈ rest) : e.1 ≠ key := by
          intro hkey
          exact hd (List.mem_map.mpr ⟨e, he, hkey.trans h.symm⟩)
        simp only [insert, h, beq_self_eq_true, ite_true, List.mem_cons]
        constructor
        · rintro (rfl | he)
          · exact Or.inl rfl
          · exact Or.inr ⟨hne he, Or.inr he⟩
        · rintro (rfl | ⟨hk, rfl | he⟩)
          · exact Or.inl rfl
          · exact absurd h hk
          · exact Or.inr he
      · simp only [insert, beq_iff_eq, h, ite_false, List.mem_cons, ih hrest]
        constructor
        · rintro (rfl | rfl | ⟨hk, he⟩)
          · exact Or.inr ⟨h, Or.inl rfl⟩
          · exact Or.inl rfl
          · exact Or.inr ⟨hk, Or.inr he⟩
        · rintro (rfl | ⟨hk, rfl | he⟩)
          · exact Or.inr (Or.inl rfl)
          · exact Or.inl rfl
          · exact Or.inr (Or.inr ⟨hk, he⟩)

/-- Where keys are distinct, the value of a key is the one that stands beside it. -/
theorem find?_eq_some_iff (hd : (table.map (·.1)).Nodup) :
    find? (· == ·) key table = some value ↔ (key, value) ∈ table := by
  induction table with
  | nil => simp [find?]
  | cons d rest ih =>
      obtain ⟨hd, hrest⟩ := List.nodup_cons.mp hd
      by_cases h : d.1 = key
      · have hkey : (key, value) ∉ rest := fun he => hd (List.mem_map.mpr ⟨_, he, h.symm⟩)
        simp only [find?, h, beq_self_eq_true, ite_true, Option.some.injEq, List.mem_cons, hkey,
          or_false, Prod.ext_iff, true_and, eq_comm]
      · have hne : (key, value) ≠ d := fun he => h (congrArg Prod.fst he).symm
        simp only [find?, beq_iff_eq, h, ite_false, ih hrest, List.mem_cons, hne, false_or]

end Keys

end ServiceFlow.Table
