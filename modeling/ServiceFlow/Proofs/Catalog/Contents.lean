import ServiceFlow.Proofs.Catalog.Override

/-!
# What an override makes of its base

Reading an override writes into a catalogue: item by item the kind of a type, and entry by entry the
types that occur once. What stands in a place after that is what was written there last, or what the
base has if nothing was. An accepted override lists a type once at most, so for the kinds it does
not matter in which order its entries stand.
-/

namespace ServiceFlow

section Writers

variable {α β σ ε : Type}

/-- What stands in a place after some writers have had their turns: what the last of those wrote
that write there, or what stood there before if none does. -/
inductive LastWritten (writes : α → β → Prop) (old : β) (writers : List α) : β → Prop
  | kept (h : ∀ a ∈ writers, ∀ b, ¬ writes a b) : LastWritten writes old writers old
  | written {before after : List α} {a : α} {b : β} (hsplit : writers = before ++ a :: after)
      (ha : writes a b) (hafter : ∀ a' ∈ after, ∀ b', ¬ writes a' b') :
      LastWritten writes old writers b

variable {writes : α → β → Prop} {old b : β} {writers : List α}

theorem lastWritten_nil_iff : LastWritten writes old [] b ↔ old = b := by
  constructor
  · rintro (_ | ⟨hsplit, -, -⟩)
    · rfl
    · simp at hsplit
  · rintro rfl
    exact .kept (by simp)

/-- One more writer has the last word if it writes, and otherwise none. -/
theorem lastWritten_concat_iff {a : α} : LastWritten writes old (writers ++ [a]) b ↔
    writes a b ∨ (∀ b', ¬ writes a b') ∧ LastWritten writes old writers b := by
  constructor
  · rintro (hnone | ⟨hsplit, ha, hafter⟩)
    · obtain ⟨hwriters, hlast⟩ := List.forall_mem_append.mp hnone
      exact .inr ⟨hlast a List.mem_cons_self, .kept hwriters⟩
    · rename_i before after a'
      induction after using List.reverseRecOn with
      | nil =>
          obtain ⟨-, rfl⟩ := List.append_singleton_inj.mp hsplit
          exact .inl ha
      | append_singleton after last _ =>
          rw [← List.cons_append, ← List.append_assoc] at hsplit
          obtain ⟨rfl, rfl⟩ := List.append_singleton_inj.mp hsplit
          obtain ⟨hafter, hlast⟩ := List.forall_mem_append.mp hafter
          exact .inr ⟨hlast a List.mem_cons_self, .written rfl ha hafter⟩
  · rintro (ha | ⟨hnone, hnone' | ⟨rfl, ha, hafter⟩⟩)
    · exact .written rfl ha (by simp)
    · exact .kept (List.forall_mem_append.mpr ⟨hnone', by simpa using hnone⟩)
    · refine .written (List.append_assoc _ _ _) ha ?_
      exact List.forall_mem_append.mpr ⟨hafter, by simpa using hnone⟩

/-- A run of one turn more ends with what that turn makes of where the run stood before it. -/
theorem foldlM_concat_eq_ok_iff {f : σ → α → Except ε σ} {s s' : σ} {a : α} :
    (writers ++ [a]).foldlM f s = .ok s' ↔ ∃ m, writers.foldlM f s = .ok m ∧ f m a = .ok s' := by
  rw [List.foldlM_append]
  cases writers.foldlM f s with
  | error e => simp [bind, Except.bind]
  | ok m =>
      simp only [List.foldlM_cons, List.foldlM_nil, Except.ok.injEq, exists_eq_left']
      change (f m a >>= pure) = _ ↔ _
      rw [bind_pure]

/-- A run that gets through all writers ends with what was written last, if each turn leaves what
its writer writes, or what was there when that writes nothing. -/
theorem lastWritten_of_foldlM {f : σ → α → Except ε σ} {s s' : σ} (get : σ → β)
    (hturn : ∀ a ∈ writers, ∀ m m', f m a = .ok m' →
      ∀ b, get m' = b ↔ writes a b ∨ (∀ b', ¬ writes a b') ∧ get m = b)
    (h : writers.foldlM f s = .ok s') (b : β) :
    get s' = b ↔ LastWritten writes (get s) writers b := by
  -- the last turn decides, so the run is taken apart from its end
  induction writers using List.reverseRecOn generalizing s' b with
  | nil =>
      obtain rfl := Except.ok.inj h
      exact lastWritten_nil_iff.symm
  | append_singleton writers a ih =>
      obtain ⟨m, hrun, hlast⟩ := foldlM_concat_eq_ok_iff.mp h
      obtain ⟨hwriters, ha⟩ := List.forall_mem_append.mp hturn
      rw [lastWritten_concat_iff, ha a List.mem_cons_self m s' hlast b, ih hwriters hrun]

/-- Only those count that write something. -/
theorem lastWritten_filter_iff {p : α → Bool} (h : ∀ a b, writes a b → p a = true) :
    LastWritten writes old (writers.filter p) b ↔ LastWritten writes old writers b := by
  induction writers using List.reverseRecOn with
  | nil => rfl
  | append_singleton writers a ih =>
      rw [List.filter_append, lastWritten_concat_iff]
      cases hp : p a with
      | true => rw [List.filter_singleton, hp, cond_true, lastWritten_concat_iff, ih]
      | false =>
          have hnone (b' : β) : ¬ writes a b' := fun ha => by simp [h a b' ha] at hp
          rw [List.filter_singleton, hp, cond_false, List.append_nil, ih]
          simp [hnone]

/-- Something stands in the place in any case. -/
theorem exists_lastWritten (writes : α → β → Prop) (old : β) (writers : List α) :
    ∃ b, LastWritten writes old writers b := by
  induction writers using List.reverseRecOn with
  | nil => exact ⟨old, lastWritten_nil_iff.mpr rfl⟩
  | append_singleton writers a ih =>
      by_cases ha : ∃ b, writes a b
      · obtain ⟨b, ha⟩ := ha
        exact ⟨b, lastWritten_concat_iff.mpr (.inl ha)⟩
      · obtain ⟨b, hb⟩ := ih
        exact ⟨b, lastWritten_concat_iff.mpr (.inr ⟨not_exists.mp ha, hb⟩)⟩

/-- Where all that write anything write the same, their order is of no account. -/
theorem lastWritten_iff_of_agree
    (h : ∀ a ∈ writers, ∀ a' ∈ writers, ∀ b b', writes a b → writes a' b' → b = b') :
    LastWritten writes old writers b ↔
      (∃ a ∈ writers, writes a b) ∨ (∀ a ∈ writers, ∀ b', ¬ writes a b') ∧ old = b := by
  constructor
  · rintro (hnone | ⟨rfl, ha, -⟩)
    · exact .inr ⟨hnone, rfl⟩
    · exact .inl ⟨_, by simp, ha⟩
  · rintro (⟨a, hmem, ha⟩ | ⟨hnone, rfl⟩)
    · obtain ⟨b', hb' | ⟨hsplit, ha', hafter⟩⟩ := exists_lastWritten writes old writers
      · exact absurd ha (hb' a hmem b)
      · rw [h a hmem _ (by simp [hsplit]) _ _ ha ha']
        exact .written hsplit ha' hafter
    · exact .kept hnone

end Writers

namespace Catalog

variable {α : Type} {name : α → Except CatalogFault String} {key : Scalar} {items : List α}
  {kind : NodeKind} {o o' : Override} {type : String} {entries : Entries α} {base c : Catalog}

section Turns

/-- Setting the kind of a type changes that kind alone. -/
theorem kindOf_setKind (c : Catalog) (listed : String) :
    (c.setKind listed kind).kindOf type = if listed = type then kind else c.kindOf type := by
  split
  · next h => rw [h, kindOf_setKind_self]
  · next h => exact kindOf_setKind_of_ne c h kind

/-- A type that is listed has its kind set. -/
theorem Override.list_eq_ok (h : o.list kind type = .ok o') :
    o'.catalog = o.catalog.setKind type kind := by
  unfold list at h
  split at h
  · cases h
  · obtain rfl := Except.ok.inj h
    rfl

/-- An entry that is read lists the types that occur once, or lists types under a kind. -/
theorem Override.entry_eq_ok {types : Option (List α)} (h : o.entry name key types = .ok o') :
    ∃ items, types = some items ∧
      ((key = singleInstanceKey ∧ ∃ names, items.mapM name = .ok names ∧
          o' = { o with catalog := { o.catalog with singleInstance := sortedNames names } }) ∨
        ∃ kind : NodeKind, key = .text kind.name ∧
          items.foldlM (fun o item => do o.list kind (← name item)) o = .ok o') := by
  cases types with
  | none =>
      have hfault : o.entry name key none = .error (keyFault key .notAList) := throw_name .notAList
      cases hfault.symm.trans h
  | some items =>
      refine ⟨items, rfl, ?_⟩
      by_cases hkey : key = singleInstanceKey
      · subst hkey
        rw [entry_singleInstance] at h
        cases hnames : items.mapM name with
        | error fault =>
            rw [hnames] at h
            cases h
        | ok names =>
            rw [hnames] at h
            exact .inl ⟨rfl, names, rfl, (Except.ok.inj h).symm⟩
      · simp only [entry, hkey, if_false] at h
        cases hkind : key.kind? with
        | none =>
            rw [hkind] at h
            cases (throw_name .unknownKind).symm.trans h
        | some kind =>
            rw [hkind] at h
            exact .inr ⟨kind, Scalar.kind?_eq_some_iff.mp hkind, h⟩

/-- An entry for a kind lists the names of its items under that kind. -/
theorem mem_entryListing_kind {listed : NodeKind} :
    (type, kind) ∈ entryListing name (.text listed.name, some items) ↔
      ∃ item ∈ items, name item = .ok type ∧ listed = kind := by
  have hname (item : α) : (name item).toOption.map (·, listed) = some (type, kind) ↔
      name item = .ok type ∧ listed = kind := by
    cases name item <;> simp [Except.toOption]
  simp [entryListing, hname]

/-- What is listed under a kind are the items of the entries for that kind. -/
theorem mem_listing_iff : (type, kind) ∈ listing name entries ↔
    ∃ items, (.text kind.name, some items) ∈ entries ∧ ∃ item ∈ items, name item = .ok type := by
  constructor
  · intro h
    obtain ⟨⟨key, types⟩, he, hlisted⟩ := List.mem_flatMap.mp h
    cases hkey : key.kind? with
    | none => simp [entryListing, hkey] at hlisted
    | some listed =>
        obtain rfl := Scalar.kind?_eq_some_iff.mp hkey
        cases types with
        | none => simp [entryListing] at hlisted
        | some items =>
            obtain ⟨item, hitem, hname, rfl⟩ := mem_entryListing_kind.mp hlisted
            exact ⟨items, he, item, hitem, hname⟩
  · rintro ⟨items, he, item, hitem, hname⟩
    exact List.mem_flatMap.mpr ⟨_, he, mem_entryListing_kind.mpr ⟨item, hitem, hname, rfl⟩⟩

/-- Items that are listed under a kind set the kind of the types that they name. -/
theorem Override.kindOf_items
    (h : items.foldlM (fun o item => do o.list kind (← name item)) o = .ok o') {k : NodeKind} :
    o'.catalog.kindOf type = k ↔ (∃ item ∈ items, name item = .ok type ∧ kind = k) ∨
      (∀ item ∈ items, name item ≠ .ok type) ∧ o.catalog.kindOf type = k := by
  have hturn : ∀ item ∈ items, ∀ m m' : Override,
      (do m.list kind (← name item)) = Except.ok m' → ∀ k, m'.catalog.kindOf type = k ↔
        (name item = .ok type ∧ kind = k) ∨
          (∀ k', ¬ (name item = .ok type ∧ kind = k')) ∧ m.catalog.kindOf type = k := by
    intro item _ m m' hm k
    cases hitem : name item with
    | error fault =>
        rw [hitem] at hm
        cases hm
    | ok listed =>
        rw [hitem] at hm
        rw [list_eq_ok hm, kindOf_setKind]
        by_cases ht : listed = type <;> simp [ht]
  have hagree : ∀ a ∈ items, ∀ a' ∈ items, ∀ b b', (name a = .ok type ∧ kind = b) →
      (name a' = .ok type ∧ kind = b') → b = b' := by
    rintro _ _ _ _ _ _ ⟨-, rfl⟩ ⟨-, rfl⟩
    rfl
  rw [lastWritten_of_foldlM (·.catalog.kindOf type) hturn h, lastWritten_iff_of_agree hagree]
  simp

/-- An entry that is read sets the kinds of the types that it lists. -/
theorem Override.kindOf_entry {e : Scalar × Option (List α)} (h : o.entry name e.1 e.2 = .ok o') :
    o'.catalog.kindOf type = kind ↔ (type, kind) ∈ entryListing name e ∨
      (∀ k, (type, k) ∉ entryListing name e) ∧ o.catalog.kindOf type = kind := by
  obtain ⟨key, types⟩ := e
  obtain ⟨items, rfl, ⟨rfl, names, -, rfl⟩ | ⟨listed, rfl, hrun⟩⟩ := entry_eq_ok h
  · have hnone (k : NodeKind) : (type, k) ∉ entryListing name (singleInstanceKey, some items) := by
      simp [entryListing, kind?_singleInstanceKey]
    simp only [hnone, false_or, not_false_eq_true, implies_true, true_and]
    rfl
  · have hnone : (∀ k, (type, k) ∉ entryListing name (.text listed.name, some items)) ↔
        ∀ item ∈ items, name item ≠ .ok type := by
      simp only [mem_entryListing_kind, not_exists, not_and]
      exact ⟨fun h item hi hn => h listed item hi hn rfl,
        fun h _ item hi hn => absurd hn (h item hi)⟩
    rw [kindOf_items hrun, mem_entryListing_kind, hnone]

/-- Whether an entry gives the types that occur once. -/
def GivesOnce (name : α → Except CatalogFault String) (e : Scalar × Option (List α))
    (types : List String) : Prop :=
  ∃ items names, e = (singleInstanceKey, some items) ∧ items.mapM name = .ok names ∧
    types = sortedNames names

/-- An entry that is read sets the types that occur once if it gives them. -/
theorem Override.singleInstance_entry {e : Scalar × Option (List α)}
    (h : o.entry name e.1 e.2 = .ok o') {types : List String} :
    o'.catalog.singleInstance = types ↔ GivesOnce name e types ∨
      (∀ ts, ¬ GivesOnce name e ts) ∧ o.catalog.singleInstance = types := by
  obtain ⟨key, items?⟩ := e
  obtain ⟨items, rfl, ⟨rfl, names, hnames, rfl⟩ | ⟨listed, rfl, hrun⟩⟩ := entry_eq_ok h
  · have hgives (ts : List String) :
        GivesOnce name (singleInstanceKey, some items) ts ↔ sortedNames names = ts := by
      simp [GivesOnce, hnames, eq_comm]
    simp [hgives]
  · have hnone (ts : List String) : ¬ GivesOnce name (.text listed.name, some items) ts := by
      rintro ⟨_, _, he, -⟩
      exact name_ne_singleInstanceKey (congrArg Prod.fst he)
    have hturn : ∀ item ∈ items, ∀ m m' : Override,
        (do m.list listed (← name item)) = Except.ok m' → ∀ ts, m'.catalog.singleInstance = ts ↔
          False ∨ (∀ _ : List String, ¬ False) ∧ m.catalog.singleInstance = ts := by
      intro item _ m m' hm ts
      cases hitem : name item with
      | error fault =>
          rw [hitem] at hm
          cases hm
      | ok type =>
          rw [hitem] at hm
          simp [list_eq_ok hm, setKind]
    have hkept : o'.catalog.singleInstance = o.catalog.singleInstance :=
      (lastWritten_of_foldlM (·.catalog.singleInstance) hturn hrun _).mpr (.kept (by simp))
    simp only [hnone, hkept, false_or, not_false_eq_true, implies_true, true_and]

end Turns

section Result

/-- An override that is accepted is read through. -/
theorem override_eq_ok (h : override name base entries = .ok c) :
    ∃ o, entries.foldlM (fun o e => Override.entry name o e.1 e.2) ⟨base, []⟩ = .ok o ∧
      o.catalog = c := by
  unfold override at h
  cases hrun : entries.foldlM (fun o e => Override.entry name o e.1 e.2) ⟨base, []⟩ with
  | error fault =>
      rw [hrun] at h
      cases h
  | ok o =>
      rw [hrun] at h
      exact ⟨o, rfl, Except.ok.inj h⟩

/-- A type that an accepted override lists has the kind under which it is listed, wherever that
stands; any other type has the kind that it has in the base. -/
theorem kindOf_override_iff (h : override name base entries = .ok c) :
    c.kindOf type = kind ↔ (type, kind) ∈ listing name entries ∨
      (∀ k, (type, k) ∉ listing name entries) ∧ base.kindOf type = kind := by
  have honce := ((exists_override_iff base).mp ⟨c, h⟩).once
  obtain ⟨o, hrun, rfl⟩ := override_eq_ok h
  have hturn : ∀ e ∈ entries, ∀ m m' : Override, m.entry name e.1 e.2 = .ok m' → ∀ k,
      m'.catalog.kindOf type = k ↔ (type, k) ∈ entryListing name e ∨
        (∀ k', (type, k') ∉ entryListing name e) ∧ m.catalog.kindOf type = k :=
    fun _ _ _ _ hentry _ => Override.kindOf_entry hentry
  -- the check for types that are listed twice is what makes all entries agree
  have hagree : ∀ e ∈ entries, ∀ e' ∈ entries, ∀ k k', (type, k) ∈ entryListing name e →
      (type, k') ∈ entryListing name e' → k = k' := by
    intro e he e' he' k k' hk hk'
    have hlisted := List.mem_flatMap.mpr ⟨e, he, hk⟩
    have hlisted' := List.mem_flatMap.mpr ⟨e', he', hk'⟩
    exact congrArg Prod.snd (List.inj_on_of_nodup_map honce hlisted hlisted' rfl)
  have hnone : (∀ k, (type, k) ∉ listing name entries) ↔
      ∀ e ∈ entries, ∀ k, (type, k) ∉ entryListing name e := by
    simp only [listing, List.mem_flatMap, not_exists, not_and]
    exact ⟨fun h e he k => h k e he, fun h k e he => h e he k⟩
  rw [lastWritten_of_foldlM (·.catalog.kindOf type) hturn hrun, lastWritten_iff_of_agree hagree,
    hnone, listing, List.mem_flatMap]

/-- The types that occur once are those that the last entry for them gives, or those of the base. -/
theorem singleInstance_override_iff (h : override name base entries = .ok c)
    {types : List String} : c.singleInstance = types ↔
      LastWritten (GivesOnce name) base.singleInstance entries types := by
  obtain ⟨o, hrun, rfl⟩ := override_eq_ok h
  have hturn : ∀ e ∈ entries, ∀ m m' : Override, m.entry name e.1 e.2 = .ok m' → ∀ ts,
      m'.catalog.singleInstance = ts ↔ GivesOnce name e ts ∨
        (∀ ts', ¬ GivesOnce name e ts') ∧ m.catalog.singleInstance = ts :=
    fun _ _ _ _ hentry _ => Override.singleInstance_entry hentry
  exact lastWritten_of_foldlM (·.catalog.singleInstance) hturn hrun types

end Result

section Order

/-- Whether two overrides have the same entries, but for the order of those for kinds. -/
structure Rearranged (entries entries' : Entries α) : Prop where
  /-- The entries for the types that occur once are the same in the same order. -/
  once : entries.filter (·.1 == singleInstanceKey) = entries'.filter (·.1 == singleInstanceKey)
  /-- The other entries are the same. -/
  kinds : (entries.filter fun e => !e.1 == singleInstanceKey).Perm
    (entries'.filter fun e => !e.1 == singleInstanceKey)

variable {entries' : Entries α} {base' : Catalog}

theorem Rearranged.perm (h : Rearranged entries entries') : entries.Perm entries' := by
  have hsplit (l : Entries α) := List.filter_append_perm (fun e => e.1 == singleInstanceKey) l
  have hparts := h.kinds.append_left (entries.filter (·.1 == singleInstanceKey))
  refine (hsplit entries).symm.trans (hparts.trans ?_)
  rw [h.once]
  exact hsplit entries'

theorem Rearranged.symm (h : Rearranged entries entries') : Rearranged entries' entries :=
  ⟨h.once.symm, h.kinds.symm⟩

/-- Whether an override is consistent does not depend on the order of its entries. -/
theorem Consistent.of_perm (h : Consistent name entries) (hp : entries.Perm entries') :
    Consistent name entries' where
  lists e he := h.lists e (hp.mem_iff.mpr he)
  keys e he := h.keys e (hp.mem_iff.mpr he)
  named e he := h.named e (hp.mem_iff.mpr he)
  once := ((hp.flatMap_right (entryListing name)).map (·.1)).nodup_iff.mp h.once

/-- Whether two catalogues say the same of all types. -/
structure Alike (c c' : Catalog) : Prop where
  kinds : ∀ type, c.kindOf type = c'.kindOf type
  once : c.singleInstance = c'.singleInstance

theorem Alike.refl (c : Catalog) : c.Alike c := ⟨fun _ => rfl, rfl⟩

theorem Alike.symm {c' : Catalog} (h : c.Alike c') : c'.Alike c :=
  ⟨fun type => (h.kinds type).symm, h.once.symm⟩

/-- An accepted override makes the same of the same base when its entries for kinds stand in another
order. -/
theorem Rearranged.override_alike (hr : Rearranged entries entries') (hb : base.Alike base')
    (h : override name base entries = .ok c) :
    ∃ c', override name base' entries' = .ok c' ∧ c.Alike c' := by
  have hconsistent := ((exists_override_iff base).mp ⟨c, h⟩).of_perm hr.perm
  obtain ⟨c', h'⟩ := exists_override_of_consistent base' hconsistent
  have hlisted (type : String) (kind : NodeKind) :
      (type, kind) ∈ listing name entries ↔ (type, kind) ∈ listing name entries' :=
    (hr.perm.flatMap_right (entryListing name)).mem_iff
  refine ⟨c', h', fun type => ?_, ?_⟩
  · rw [kindOf_override_iff h]
    simp only [hlisted, hb.kinds]
    exact (kindOf_override_iff h').mp rfl
  · have hgives (e : Scalar × Option (List α)) (types : List String) (he : GivesOnce name e types) :
        (e.1 == singleInstanceKey) = true := by
      obtain ⟨_, _, rfl, -⟩ := he
      exact beq_self_eq_true _
    rw [singleInstance_override_iff h, ← lastWritten_filter_iff hgives, hr.once, hb.once,
      lastWritten_filter_iff hgives]
    exact (singleInstance_override_iff h').mp rfl

end Order

end Catalog

end ServiceFlow
