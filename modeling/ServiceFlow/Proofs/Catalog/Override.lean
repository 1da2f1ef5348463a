import Mathlib.Data.List.Induction
import Mathlib.Data.List.Nodup
import Mathlib.Tactic.MkIffOfInductiveProp
import ServiceFlow.Catalog.Reader

/-!
# Overrides that are accepted

An override is accepted when it is consistent: every entry is a list under a known key, every item
has a name, and no type is listed twice under kinds. Otherwise it is refused, and with the fault of
the first entry that is out of order. Both follow from what the reader keeps: after some entries, and
after some items of the next, the types that it has listed are those that these entries and items
list. So it takes for new what is new, and refuses a type under the kind that listed it first.
-/

namespace ServiceFlow

/-- The kind of a key is the one whose name the key is. -/
theorem Scalar.kind?_eq_some_iff {key : Scalar} {kind : NodeKind} :
    key.kind? = some kind ↔ key = .text kind.name := by
  cases key with
  | text s => rw [kind?, NodeKind.ofName?_eq_some_iff, text.injEq, eq_comm]
  | _ => simp [kind?]

namespace Catalog

variable {α : Type}

/-- The entries of an override in their order: a key and, if its value is a list, the items. -/
abbrev Entries (α : Type) := List (Scalar × Option (List α))

section Spec

variable (name : α → Except CatalogFault String)

/-- The types that an entry lists under the kind that its key names, in order. -/
def entryListing (e : Scalar × Option (List α)) : List (String × NodeKind) :=
  match e.1.kind?, e.2 with
  | some kind, some items => items.filterMap fun item => (name item).toOption.map (·, kind)
  | _, _ => []

/-- The types that some entries list under kinds, in order. -/
def listing (entries : Entries α) : List (String × NodeKind) :=
  entries.flatMap (entryListing name)

/-- The keys that an entry can have. -/
def IsKnownKey (key : Scalar) : Prop :=
  key = singleInstanceKey ∨ ∃ kind : NodeKind, key = .text kind.name

/-- Whether the entries of an override can stand together. -/
@[mk_iff]
structure Consistent (entries : Entries α) : Prop where
  /-- Every value is a list. -/
  lists : ∀ e ∈ entries, e.2.isSome
  /-- Every key is the one for the types that occur once, or the name of a kind. -/
  keys : ∀ e ∈ entries, IsKnownKey e.1
  /-- Every item has a name. -/
  named : ∀ e ∈ entries, ∀ item ∈ e.2.getD [], ∃ type, name item = .ok type
  /-- No type is listed twice, neither under two kinds nor under one. -/
  once : ((listing name entries).map (·.1)).Nodup

/-- The fault that names a key, or the one of a key that has no name. -/
def keyFault (key : Scalar) (fault : String → CatalogFault) : CatalogFault :=
  match Value.name (.scalar key) with
  | .ok text => fault text
  | .error nameless => nameless

/-- What an entry is refused for that comes after others which are in order. An entry that is no list
is refused whatever its key is, and a list under an unknown key whatever its items are. -/
inductive Offends (before : Entries α) : Scalar → Option (List α) → CatalogFault → Prop where
  | notAList {key : Scalar} : Offends before key none (keyFault key .notAList)
  | unknownKind {key : Scalar} {items : List α} (h : ¬ IsKnownKey key) :
      Offends before key (some items) (keyFault key .unknownKind)
  /-- The items up to the first without a name are in order. -/
  | unnamed {key : Scalar} {items rest : List α} {item : α} {fault : CatalogFault}
      (h : Consistent name (before ++ [(key, some items)])) (hitem : name item = .error fault) :
      Offends before key (some (items ++ item :: rest)) fault
  /-- The items up to the first that is listed already are in order. -/
  | listedTwice {kind first : NodeKind} {items rest : List α} {item : α} {type : String}
      (h : Consistent name (before ++ [(.text kind.name, some items)]))
      (hitem : name item = .ok type)
      (hfirst : (type, first) ∈ listing name (before ++ [(.text kind.name, some items)])) :
      Offends before (.text kind.name) (some (items ++ item :: rest))
        (.listedTwice type first.name kind.name)

/-- Whether a fault is what the first entry that is out of order is refused for. -/
def IsFirstOffence (entries : Entries α) (fault : CatalogFault) : Prop :=
  ∃ before key types after, entries = before ++ (key, types) :: after ∧
    Consistent name before ∧ Offends name before key types fault

end Spec

variable {name : α → Except CatalogFault String} {before : Entries α} {key : Scalar}
  {items : List α} {kind : NodeKind} {o : Override}

section Listing

theorem kind?_singleInstanceKey : singleInstanceKey.kind? = none := by decide

@[simp] theorem kind?_name : (Scalar.text kind.name).kind? = some kind :=
  Scalar.kind?_eq_some_iff.mpr rfl

theorem name_ne_singleInstanceKey : Scalar.text kind.name ≠ singleInstanceKey := by
  cases kind <;> decide

/-- A key that is not known is none that the reader knows. -/
theorem not_isKnownKey_iff : ¬ IsKnownKey key ↔ key ≠ singleInstanceKey ∧ key.kind? = none := by
  simp only [IsKnownKey, not_or, ← Scalar.kind?_eq_some_iff, ← Option.ne_none_iff_exists',
    not_not]

theorem listing_concat (e : Scalar × Option (List α)) :
    listing name (before ++ [e]) = listing name before ++ entryListing name e := by
  simp [listing]

/-- An entry without items lists nothing. -/
theorem listing_nil :
    listing name (before ++ [(key, some [])]) = listing name before := by
  cases h : key.kind? <;> simp [listing_concat, entryListing, h]

/-- An entry whose key is of no kind lists nothing. -/
theorem listing_of_kind?_eq_none (h : key.kind? = none) :
    listing name (before ++ [(key, some items)]) = listing name before := by
  simp [listing_concat, entryListing, h]

/-- One more item of an entry for a kind is listed behind the others. -/
theorem listing_item {item : α} {type : String} (h : name item = .ok type) :
    listing name (before ++ [(.text kind.name, some (items ++ [item]))]) =
      listing name (before ++ [(.text kind.name, some items)]) ++ [(type, kind)] := by
  simp [listing_concat, entryListing, h, Except.toOption, List.filterMap_append]

end Listing

section Consistency

instance (key : Scalar) : Decidable (IsKnownKey key) :=
  decidable_of_iff (¬ (key ≠ singleInstanceKey ∧ key.kind? = none))
    (by rw [← not_isKnownKey_iff, not_not])

/-- An item has a name when naming it gives one. -/
theorem isSome_toOption_iff {item : α} :
    (name item).toOption.isSome ↔ ∃ type, name item = .ok type := by
  cases name item <;> simp [Except.toOption]

instance (entries : Entries α) : Decidable (Consistent name entries) :=
  decidable_of_iff ((∀ e ∈ entries, e.2.isSome) ∧ (∀ e ∈ entries, IsKnownKey e.1) ∧
      (∀ e ∈ entries, ∀ item ∈ e.2.getD [], (name item).toOption.isSome) ∧
      ((listing name entries).map (·.1)).Nodup)
    (by simp only [consistent_iff, isSome_toOption_iff])

/-- An entry with an empty list is in order when its key is known. -/
theorem consistent_nil_iff :
    Consistent name (before ++ [(key, some [])]) ↔ Consistent name before ∧ IsKnownKey key := by
  simp only [consistent_iff, List.forall_mem_append, List.forall_mem_singleton, Option.isSome_some,
    Option.getD_some, and_true, listing_nil]
  tauto

/-- One more item is new to what is listed, should the entry list its items. -/
theorem nodup_listing_concat_iff {item : α} {type : String} (hitem : name item = .ok type) :
    ((listing name (before ++ [(key, some (items ++ [item]))])).map (·.1)).Nodup ↔
      ((listing name (before ++ [(key, some items)])).map (·.1)).Nodup ∧
        (key.kind?.isSome → type ∉ (listing name (before ++ [(key, some items)])).map (·.1)) := by
  cases hkey : key.kind? with
  | none => simp [listing_of_kind?_eq_none hkey]
  | some kind =>
      obtain rfl := Scalar.kind?_eq_some_iff.mp hkey
      rw [listing_item hitem, List.map_append, List.map_singleton, ← List.concat_eq_append,
        List.nodup_concat, and_comm]
      simp

/-- One more item is in order when it has a name and is new to what is listed, should the entry
list its items. -/
theorem consistent_concat_iff {item : α} :
    Consistent name (before ++ [(key, some (items ++ [item]))]) ↔
      Consistent name (before ++ [(key, some items)]) ∧ ∃ type, name item = .ok type ∧
        (key.kind?.isSome → type ∉ (listing name (before ++ [(key, some items)])).map (·.1)) := by
  simp only [consistent_iff, List.forall_mem_append, List.forall_mem_singleton, Option.isSome_some,
    Option.getD_some, and_true]
  constructor
  · rintro ⟨hlists, hkeys, ⟨hbefore, hitems, type, hitem⟩, honce⟩
    obtain ⟨honce, hnew⟩ := (nodup_listing_concat_iff hitem).mp honce
    exact ⟨⟨hlists, hkeys, ⟨hbefore, hitems⟩, honce⟩, type, hitem, hnew⟩
  · rintro ⟨⟨hlists, hkeys, ⟨hbefore, hitems⟩, honce⟩, type, hitem, hnew⟩
    exact ⟨hlists, hkeys, ⟨hbefore, hitems, type, hitem⟩,
      (nodup_listing_concat_iff hitem).mpr ⟨honce, hnew⟩⟩

/-- What comes first in a consistent override is consistent by itself. -/
theorem Consistent.of_append {after : Entries α}
    (h : Consistent name (before ++ after)) : Consistent name before where
  lists e he := h.lists e (List.mem_append_left _ he)
  keys e he := h.keys e (List.mem_append_left _ he)
  named e he := h.named e (List.mem_append_left _ he)
  once := by
    have honce := h.once
    rw [listing, List.flatMap_append, List.map_append] at honce
    exact honce.of_append_left

/-- After some items that are in order, the rest is in order too or the entry is refused. -/
theorem consistent_or_offends_items {rest : List α}
    (h : Consistent name (before ++ [(key, some items)])) :
    Consistent name (before ++ [(key, some (items ++ rest))]) ∨
      ∃ fault, Offends name before key (some (items ++ rest)) fault := by
  -- the items that were found to be in order move over to those before the rest
  induction rest generalizing items with
  | nil => exact .inl (by rwa [List.append_nil])
  | cons item rest ih =>
      cases hitem : name item with
      | error fault => exact .inr ⟨fault, .unnamed h hitem⟩
      | ok type =>
          by_cases hnew : key.kind?.isSome →
              type ∉ (listing name (before ++ [(key, some items)])).map (·.1)
          · rw [List.append_cons items item rest]
            exact ih (consistent_concat_iff.mpr ⟨h, type, hitem, hnew⟩)
          · obtain ⟨hkind, hlisted⟩ := Classical.not_imp.mp hnew
            obtain ⟨kind, hkind⟩ := Option.isSome_iff_exists.mp hkind
            obtain rfl := Scalar.kind?_eq_some_iff.mp hkind
            obtain ⟨⟨_, first⟩, hfirst, rfl⟩ := List.mem_map.mp (not_not.mp hlisted)
            exact .inr ⟨_, .listedTwice h hitem hfirst⟩

/-- An entry that comes after others which are in order is in order too or refused. -/
theorem consistent_or_offends (h : Consistent name before) (key : Scalar)
    (types : Option (List α)) : Consistent name (before ++ [(key, types)]) ∨
      ∃ fault, Offends name before key types fault := by
  cases types with
  | none => exact .inr ⟨_, .notAList⟩
  | some items =>
      by_cases hkey : IsKnownKey key
      · exact consistent_or_offends_items (consistent_nil_iff.mpr ⟨h, hkey⟩)
      · exact .inr ⟨_, .unknownKind hkey⟩

/-- After entries that are in order, the rest is in order too or some entry of it is the first to be
refused. -/
theorem consistent_append_or_isFirstOffence (h : Consistent name before)
    (rest : Entries α) : Consistent name (before ++ rest) ∨
      ∃ fault, IsFirstOffence name (before ++ rest) fault := by
  induction rest generalizing before with
  | nil => exact .inl (by rwa [List.append_nil])
  | cons e rest ih =>
      obtain ⟨key, types⟩ := e
      obtain hentry | ⟨fault, hfault⟩ := consistent_or_offends h key types
      · rw [List.append_cons]
        exact ih hentry
      · exact .inr ⟨fault, before, key, types, rest, rfl, h, hfault⟩

/-- An override is consistent or has an entry to be refused for. -/
theorem consistent_or_isFirstOffence (entries : Entries α) :
    Consistent name entries ∨ ∃ fault, IsFirstOffence name entries fault := by
  have hnil : Consistent name ([] : Entries α) := by
    simp [consistent_iff, listing]
  exact consistent_append_or_isFirstOffence hnil entries

end Consistency

section Folds

variable {ε σ β : Type} {f : σ → β → Except ε σ} {s s' : σ} {done : List β}

/-- A run that got through the first elements goes on with the others. -/
theorem foldlM_append_of_ok (h : done.foldlM f s = .ok s') (rest : List β) :
    (done ++ rest).foldlM f s = rest.foldlM f s' := by
  rw [List.foldlM_append, h]
  rfl

/-- A run that got through the first elements stops at the next when that one is refused. -/
theorem foldlM_append_of_error {b : β} {e : ε} (h : done.foldlM f s = .ok s')
    (hb : f s' b = .error e) (rest : List β) : (done ++ b :: rest).foldlM f s = .error e := by
  rw [foldlM_append_of_ok h, List.foldlM_cons, hb]
  rfl

end Folds

section Reading

/-- The state of the reader after some entries: what was listed is what they list, the last first. -/
def Override.HasRead (name : α → Except CatalogFault String) (o : Override)
    (entries : Entries α) : Prop :=
  o.listed = (listing name entries).reverse

variable {type : String} {first : NodeKind}

theorem Override.HasRead.nodup {entries : Entries α}
    (ho : o.HasRead name entries) (h : Consistent name entries) : (o.listed.map (·.1)).Nodup := by
  rw [ho, List.map_reverse, List.nodup_reverse]
  exact h.once

/-- A type that is not listed yet is listed. -/
theorem Override.list_of_notMem (hd : (o.listed.map (·.1)).Nodup)
    (h : type ∉ o.listed.map (·.1)) : o.list kind type =
      .ok ⟨o.catalog.setKind type kind, (type, kind) :: o.listed⟩ := by
  rw [list]
  cases hfind : Table.find? (· == ·) type o.listed with
  | none => rfl
  | some first =>
      exact absurd (List.mem_map_of_mem ((Table.find?_eq_some_iff hd).mp hfind)) h

/-- A type that is listed already is refused under the kind that it is listed under. -/
theorem Override.list_of_mem (hd : (o.listed.map (·.1)).Nodup) (h : (type, first) ∈ o.listed) :
    o.list kind type = .error (.listedTwice type first.name kind.name) := by
  rw [list, (Table.find?_eq_some_iff hd).mpr h]

/-- An entry for a kind lists its items one after the other. -/
theorem Override.entry_kind : o.entry name (.text kind.name) (some items) =
    items.foldlM (fun o item => do o.list kind (← name item)) o := by
  simp only [entry, name_ne_singleInstanceKey, if_false, kind?_name]

/-- Items that are in order are listed. -/
theorem Override.entry_kind_of_consistent (ho : o.HasRead name before)
    (h : Consistent name (before ++ [(.text kind.name, some items)])) :
    ∃ o', o.entry name (.text kind.name) (some items) = .ok o' ∧
      o'.HasRead name (before ++ [(.text kind.name, some items)]) := by
  rw [entry_kind]
  induction items using List.reverseRecOn with
  | nil => exact ⟨o, rfl, by rwa [HasRead, listing_nil]⟩
  | append_singleton items item ih =>
      obtain ⟨hitems, type, hitem, hnew⟩ := consistent_concat_iff.mp h
      obtain ⟨o', hrun, ho'⟩ := ih hitems
      have hnot : type ∉ o'.listed.map (·.1) := by
        rw [ho', List.map_reverse, List.mem_reverse]
        exact hnew (by rw [kind?_name, Option.isSome_some])
      refine ⟨⟨o'.catalog.setKind type kind, (type, kind) :: o'.listed⟩, ?_, ?_⟩
      · rw [foldlM_append_of_ok hrun, List.foldlM_cons, hitem]
        change (o'.list kind type >>= _) = _
        rw [list_of_notMem (ho'.nodup hitems) hnot]
        rfl
      · rw [HasRead, ho', listing_item hitem, List.reverse_append]
        rfl

/-- Items up to one that is out of order are listed, and that one is refused. -/
theorem Override.entry_kind_of_item {item : α} {rest : List α} {fault : CatalogFault}
    (ho : o.HasRead name before) (h : Consistent name (before ++ [(.text kind.name, some items)]))
    (hitem : ∀ o' : Override, o'.HasRead name (before ++ [(.text kind.name, some items)]) →
      (do o'.list kind (← name item)) = Except.error fault) :
    o.entry name (.text kind.name) (some (items ++ item :: rest)) = .error fault := by
  obtain ⟨o', hrun, ho'⟩ := entry_kind_of_consistent ho h
  rw [entry_kind] at hrun ⊢
  exact foldlM_append_of_error hrun (hitem o' ho') rest

/-- Names of items. -/
theorem mapM_name_of_named (h : ∀ item ∈ items, ∃ type, name item = .ok type) :
    ∃ names, items.mapM name = .ok names := by
  induction items with
  | nil => exact ⟨[], rfl⟩
  | cons item rest ih =>
      obtain ⟨⟨type, hitem⟩, hrest⟩ := List.forall_mem_cons.mp h
      obtain ⟨names, hnames⟩ := ih hrest
      exact ⟨type :: names, by rw [List.mapM_cons, hitem, hnames]; rfl⟩

theorem Override.entry_singleInstance : o.entry name singleInstanceKey (some items) = do
    let names ← items.mapM name
    return { o with catalog := { o.catalog with singleInstance := sortedNames names } } := by
  simp only [entry, if_true]

/-- An entry that is in order is taken into account. -/
theorem Override.entry_of_consistent {types : Option (List α)} (ho : o.HasRead name before)
    (h : Consistent name (before ++ [(key, types)])) :
    ∃ o', o.entry name key types = .ok o' ∧ o'.HasRead name (before ++ [(key, types)]) := by
  have hlast : (key, types) ∈ before ++ [(key, types)] := by simp
  obtain ⟨items, rfl⟩ := Option.isSome_iff_exists.mp (h.lists _ hlast)
  obtain rfl | ⟨kind, rfl⟩ := h.keys _ hlast
  · obtain ⟨names, hnames⟩ : ∃ names, items.mapM name = .ok names :=
      mapM_name_of_named (h.named _ hlast)
    refine ⟨_, by rw [entry_singleInstance, hnames]; rfl, ?_⟩
    rw [HasRead, listing_of_kind?_eq_none kind?_singleInstanceKey]
    exact ho
  · exact entry_kind_of_consistent ho h

/-- What throws a fault that names a key throws the fault of that key. -/
theorem throw_name (fault : String → CatalogFault) :
    (do throw (fault (← Value.name (.scalar key))) : Except CatalogFault Override) =
      .error (keyFault key fault) := by
  rw [keyFault]
  cases Value.name (.scalar key) <;> rfl

/-- An entry that is out of order is refused. -/
theorem Override.entry_of_offends {types : Option (List α)} {fault : CatalogFault}
    (ho : o.HasRead name before) (h : Offends name before key types fault) :
    o.entry name key types = .error fault := by
  cases h with
  | notAList => exact throw_name .notAList
  | unknownKind hkey =>
      obtain ⟨hsingle, hkind⟩ := not_isKnownKey_iff.mp hkey
      simp only [entry, hsingle, if_false, hkind]
      exact throw_name .unknownKind
  | @unnamed _ items rest item _ hitems hitem =>
      have hlast : (key, some items) ∈ before ++ [(key, some items)] := by simp
      obtain rfl | ⟨kind, rfl⟩ := hitems.keys _ hlast
      · obtain ⟨names, hnames⟩ : ∃ names, items.mapM name = .ok names :=
          mapM_name_of_named (hitems.named _ hlast)
        rw [entry_singleInstance, List.mapM_append, hnames, List.mapM_cons, hitem]
        rfl
      · exact entry_kind_of_item ho hitems fun o' _ => by rw [hitem]; rfl
  | listedTwice hitems hitem hfirst =>
      refine entry_kind_of_item ho hitems fun o' ho' => ?_
      rw [hitem]
      refine list_of_mem (ho'.nodup hitems) ?_
      rw [ho']
      exact List.mem_reverse.mpr hfirst

/-- Entries that are in order are read. -/
theorem Override.foldlM_entry_of_consistent {entries : Entries α}
    (base : Catalog) (h : Consistent name entries) :
    ∃ o, entries.foldlM (fun o e => Override.entry name o e.1 e.2) ⟨base, []⟩ = .ok o ∧
      o.HasRead name entries := by
  induction entries using List.reverseRecOn with
  | nil => exact ⟨⟨base, []⟩, rfl, rfl⟩
  | append_singleton entries e ih =>
      obtain ⟨o, hrun, ho⟩ := ih h.of_append
      obtain ⟨o', hentry, ho'⟩ := entry_of_consistent ho h
      refine ⟨o', ?_, ho'⟩
      rw [foldlM_append_of_ok hrun, List.foldlM_cons, hentry]
      rfl

variable {entries : Entries α} (base : Catalog)

/-- A consistent override makes a catalogue. -/
theorem exists_override_of_consistent (h : Consistent name entries) :
    ∃ c, override name base entries = .ok c := by
  obtain ⟨o, hrun, -⟩ := Override.foldlM_entry_of_consistent base h
  exact ⟨o.catalog, by rw [override, hrun]; rfl⟩

/-- An override is refused for the first entry that is out of order. -/
theorem override_of_isFirstOffence {fault : CatalogFault}
    (h : IsFirstOffence name entries fault) : override name base entries = .error fault := by
  obtain ⟨before, key, types, after, rfl, hbefore, hentry⟩ := h
  obtain ⟨o, hrun, ho⟩ := Override.foldlM_entry_of_consistent base hbefore
  rw [override, foldlM_append_of_error hrun (Override.entry_of_offends ho hentry)]
  rfl

/-- An override makes a catalogue exactly when it is consistent. -/
theorem exists_override_iff :
    (∃ c, override name base entries = .ok c) ↔ Consistent name entries := by
  refine ⟨fun ⟨c, hc⟩ => ?_, exists_override_of_consistent base⟩
  obtain h | ⟨fault, h⟩ := consistent_or_isFirstOffence entries
  · exact h
  · cases hc.symm.trans (override_of_isFirstOffence base h)

/-- What an override is refused for is what its first entry that is out of order is refused for. -/
theorem override_eq_error_iff {fault : CatalogFault} :
    override name base entries = .error fault ↔ IsFirstOffence name entries fault := by
  refine ⟨fun hfault => ?_, override_of_isFirstOffence base⟩
  obtain h | ⟨other, h⟩ := consistent_or_isFirstOffence entries
  · obtain ⟨c, hc⟩ := exists_override_of_consistent base h
    cases hc.symm.trans hfault
  · obtain rfl := Except.error.inj ((override_of_isFirstOffence base h).symm.trans hfault)
    exact h

end Reading

end Catalog

end ServiceFlow
