import Mathlib.Data.List.Forall2
import ServiceFlow.Proofs.Catalog.Contents
import ServiceFlow.Proofs.Load.Overrides

/-!
# Stacked catalogue texts

Overrides can be read one on top of the other, each on the last that was read; one that is refused
leaves no trace. In the end a type has the kind under which the last text lists it that was read and
lists it, and the types that occur once are those that the last text gives that was read and gives
any. In which order a text names the kinds makes no difference, because it lists a type only once.
-/

namespace ServiceFlow

namespace Catalog

section Texts

/-- The entries of a mapping in a document, with the items of lists as values. -/
def valueEntries (d : Yaml.Document) (parts : List (Scalar × Yaml.Item)) : Entries Value :=
  (overrideEntries d parts).map fun e => (e.1, e.2.map (·.map d.expand))

/-- The entries by which a document overrides a catalogue: those of its mapping, or none when it
stands for nothing. -/
def documentEntries (d : Yaml.Document) : Except CatalogFault (Entries Value) :=
  match d.root with
  | .collection n => match d.parts n with
    | .map parts => .ok (valueEntries d parts)
    | parts => if parts.isEmpty then .ok [] else .error .notAMapping
  | .scalar s => if s.isTruthy then .error .notAMapping else .ok []

/-- The entries by which a text overrides a catalogue. -/
def textEntries (text : String) : Except Fault (Entries Value) := do
  (documentEntries (← (Yaml.read text).mapError .yaml)).mapError .catalog

/-- Items that are named by what they become can be replaced by that. -/
theorem override_map {α β : Type} (name : β → Except CatalogFault String) (f : α → β)
    (base : Catalog) (entries : Entries α) :
    base.override (fun item => name (f item)) entries =
      base.override name (entries.map fun e => (e.1, e.2.map (·.map f))) := by
  have hentry (o : Override) (key : Scalar) (types : Option (List α)) :
      o.entry (fun item => name (f item)) key types = o.entry name key (types.map (·.map f)) := by
    cases types with
    | none => rfl
    | some items => simp only [Override.entry, Option.map_some, List.mapM_map, List.foldlM_map,
        Function.comp_def]
  simp only [override, List.foldlM_map, hentry]

/-- What a document makes of a base is what its entries make of it. -/
theorem ofDocument_eq (base : Catalog) (d : Yaml.Document) :
    base.ofDocument d = documentEntries d >>= base.override Value.name := by
  cases hroot : d.root with
  | scalar s =>
      simp only [ofDocument, documentEntries, hroot]
      split <;> rfl
  | collection n =>
      cases hparts : d.parts n with
      | map parts =>
          rw [ofDocument_mapping base hroot hparts]
          simp only [documentEntries, hroot, hparts]
          exact override_map Value.name d.expand base (overrideEntries d parts)
      | _ =>
          simp only [ofDocument, documentEntries, hroot, hparts]
          split <;> rfl

/-- Reading a text on a base overrides the base by the entries of the text. -/
theorem read_eq_ok_iff {base c : Catalog} {text : String} : base.read text = .ok c ↔
    ∃ entries, textEntries text = .ok entries ∧ base.override Value.name entries = .ok c := by
  simp only [Catalog.read, textEntries, bind_eq_ok_iff, mapError_eq_ok_iff, ofDocument_eq]
  constructor
  · rintro ⟨d, hd, entries, hentries, hc⟩
    exact ⟨entries, ⟨d, hd, hentries⟩, hc⟩
  · rintro ⟨entries, ⟨d, hd, hentries⟩, hc⟩
    exact ⟨d, hd, entries, hentries, hc⟩

/-- Whether a text lists a type under a kind. -/
def Lists (text type : String) (kind : NodeKind) : Prop :=
  ∃ entries items, textEntries text = .ok entries ∧ (.text kind.name, some items) ∈ entries ∧
    ∃ item ∈ items, Value.name item = .ok type

/-- Whether a text gives these as the types that occur once. Of several lists of such types it is
the last that counts. -/
def ListsOnce (text : String) (types : List String) : Prop :=
  ∃ before items after names, textEntries text =
      .ok (before ++ (singleInstanceKey, some items) :: after) ∧
    (∀ e ∈ after, e.1 ≠ singleInstanceKey) ∧ items.mapM Value.name = .ok names ∧
    types = sortedNames names

variable {base c : Catalog} {text type : String} {kind : NodeKind} {types : List String}

/-- A text that is read sets the kinds of the types that it lists. -/
theorem kindOf_read_iff (h : base.read text = .ok c) : c.kindOf type = kind ↔
    Lists text type kind ∨ (∀ k, ¬ Lists text type k) ∧ base.kindOf type = kind := by
  obtain ⟨entries, hentries, hc⟩ := read_eq_ok_iff.mp h
  have hlists (k : NodeKind) : Lists text type k ↔ (type, k) ∈ listing Value.name entries := by
    simp [Lists, hentries, mem_listing_iff]
  rw [kindOf_override_iff hc]
  simp only [hlists]

/-- An accepted list of types that occur once gives such types. -/
theorem Consistent.exists_givesOnce {entries : Entries Value} {e : Scalar × Option (List Value)}
    (h : Consistent Value.name entries) (he : e ∈ entries) (hkey : e.1 = singleInstanceKey) :
    ∃ types, GivesOnce Value.name e types := by
  obtain ⟨items, hitems⟩ := Option.isSome_iff_exists.mp (h.lists e he)
  have hnamed := h.named e he
  rw [hitems] at hnamed
  obtain ⟨names, hnames⟩ := mapM_name_of_named hnamed
  exact ⟨_, items, names, Prod.ext hkey hitems, hnames, rfl⟩

/-- A text that is read sets the types that occur once if it gives them. -/
theorem singleInstance_read_iff (h : base.read text = .ok c) : c.singleInstance = types ↔
    ListsOnce text types ∨ (∀ ts, ¬ ListsOnce text ts) ∧ base.singleInstance = types := by
  obtain ⟨entries, hentries, hc⟩ := read_eq_ok_iff.mp h
  have hconsistent := (exists_override_iff base).mp ⟨c, hc⟩
  -- the last list for these types is the last that gives any, since an accepted list does give some
  have hlists (ts : List String) : ListsOnce text ts ↔ ∃ before e after,
      entries = before ++ e :: after ∧ GivesOnce Value.name e ts ∧
        ∀ e' ∈ after, ∀ ts', ¬ GivesOnce Value.name e' ts' := by
    constructor
    · rintro ⟨before, items, after, names, hsplit, hafter, hnames, rfl⟩
      refine ⟨before, _, after, Except.ok.inj (hentries.symm.trans hsplit),
        ⟨items, names, rfl, hnames, rfl⟩, ?_⟩
      rintro e' he' ts' ⟨_, _, rfl, -⟩
      exact hafter _ he' rfl
    · rintro ⟨before, _, after, rfl, ⟨items, names, rfl, hnames, rfl⟩, hafter⟩
      refine ⟨before, items, after, names, hentries, fun e' he' hkey => ?_, hnames, rfl⟩
      obtain ⟨ts', hts'⟩ := hconsistent.exists_givesOnce (by simp [he']) hkey
      exact hafter e' he' ts' hts'
  rw [singleInstance_override_iff hc]
  constructor
  · rintro (hnone | ⟨hsplit, he, hafter⟩)
    · refine .inr ⟨fun ts hts => ?_, rfl⟩
      obtain ⟨before, e, after, hsplit, he, -⟩ := (hlists ts).mp hts
      exact hnone e (by simp [hsplit]) ts he
    · exact .inl ((hlists types).mpr ⟨_, _, _, hsplit, he, hafter⟩)
  · rintro (hts | ⟨hnone, rfl⟩)
    · obtain ⟨before, e, after, hsplit, he, hafter⟩ := (hlists types).mp hts
      exact .written hsplit he hafter
    · obtain ⟨ts, hkept | ⟨hsplit, he, hafter⟩⟩ :=
        exists_lastWritten (GivesOnce Value.name) base.singleInstance entries
      · exact .kept hkept
      · exact absurd ((hlists ts).mpr ⟨_, _, _, hsplit, he, hafter⟩) (hnone ts)

end Texts

section Stacks

/-- Those of some texts that are read when each goes on top of the last that was read. -/
def loaded (base : Catalog) (texts : List String) : List String :=
  ((texts.zip (readEach true base texts)).filter (·.2.isOk)).map (·.1)

/-- The last catalogue that is read then, or the base if none is. -/
def stacked (base : Catalog) (texts : List String) : Catalog :=
  ((readEach true base texts).filterMap (·.toOption)).getLastD base

/-- Whether two texts have no entries, or the same entries but for the order of those for kinds. -/
def SameEntries (text text' : String) : Prop :=
  Option.Rel Rearranged (textEntries text).toOption (textEntries text').toOption

variable {base base' c : Catalog} {text text' : String} {texts texts' : List String}
  {fault : Fault}

theorem loaded_of_ok (h : base.read text = .ok c) :
    loaded base (text :: texts) = text :: loaded c texts := by
  simp [loaded, readEach, h, Except.isOk, Except.toBool]

theorem loaded_of_error (h : base.read text = .error fault) :
    loaded base (text :: texts) = loaded base texts := by
  simp [loaded, readEach, h, Except.isOk, Except.toBool]

theorem stacked_of_ok (h : base.read text = .ok c) :
    stacked base (text :: texts) = stacked c texts := by
  simp only [stacked, readEach, h, if_true]
  exact List.getLastD_cons ..

theorem stacked_of_error (h : base.read text = .error fault) :
    stacked base (text :: texts) = stacked base texts := by
  simp [stacked, readEach, h, Except.toOption]

/-- The texts that are read make the last catalogue by themselves: one that is refused leaves no
trace. -/
theorem readStack_loaded (base : Catalog) (texts : List String) :
    base.readStack (loaded base texts) = .ok (stacked base texts) := by
  induction texts generalizing base with
  | nil => rfl
  | cons text rest ih =>
      cases h : base.read text with
      | error fault => rw [loaded_of_error h, stacked_of_error h, ih]
      | ok c =>
          rw [loaded_of_ok h, stacked_of_ok h, ← ih c, readStack, List.foldlM_cons, h]
          rfl

theorem SameEntries.refl (text : String) : SameEntries text text := by
  unfold SameEntries
  cases (textEntries text).toOption with
  | none => exact .none
  | some entries => exact .some ⟨rfl, .refl _⟩

theorem SameEntries.symm (h : SameEntries text text') : SameEntries text' text := by
  unfold SameEntries at h ⊢
  generalize (textEntries text).toOption = a at h ⊢
  generalize (textEntries text').toOption = b at h ⊢
  cases h with
  | some hr => exact .some hr.symm
  | none => exact .none

/-- Texts of the same entries make the same of the same base. -/
theorem SameEntries.read_alike (h : SameEntries text text') (hb : base.Alike base')
    (hc : base.read text = .ok c) : ∃ c', base'.read text' = .ok c' ∧ c.Alike c' := by
  obtain ⟨entries, hentries, hc⟩ := read_eq_ok_iff.mp hc
  unfold SameEntries at h
  rw [hentries] at h
  cases hentries' : textEntries text' with
  | error fault =>
      rw [hentries'] at h
      nomatch h
  | ok entries' =>
      rw [hentries'] at h
      obtain ⟨hr⟩ := h
      obtain ⟨c', hc', halike⟩ := hr.override_alike hb hc
      exact ⟨c', read_eq_ok_iff.mpr ⟨entries', hentries', hc'⟩, halike⟩

/-- Alike stacks end alike when their texts have the same entries. -/
theorem stacked_alike (h : List.Forall₂ SameEntries texts texts') (hb : base.Alike base') :
    (stacked base texts).Alike (stacked base' texts') := by
  induction h generalizing base base' with
  | nil => exact hb
  | @cons text text' rest rest' hsame _ ih =>
      cases hread : base.read text with
      | ok c =>
          obtain ⟨c', hread', hc⟩ := hsame.read_alike hb hread
          rw [stacked_of_ok hread, stacked_of_ok hread']
          exact ih hc
      | error fault =>
          -- what one side refuses the other side refuses too
          cases hread' : base'.read text' with
          | ok c' =>
              obtain ⟨c, hc, -⟩ := hsame.symm.read_alike hb.symm hread'
              cases hread.symm.trans hc
          | error fault' =>
              rw [stacked_of_error hread, stacked_of_error hread']
              exact ih hb

/-- Stacked texts end in a catalogue in which the last text that was read and lists a type has the
say about its kind, and the last that was read and gives the types that occur once about those; the
base has it where no text does. Texts that are refused have no part in it, and neither does the
order in which a text names the kinds. -/
theorem stacked_lastWritten (base : Catalog) (texts : List String) :
    base.readStack (loaded base texts) = .ok (stacked base texts) ∧
    (∀ type kind, (stacked base texts).kindOf type = kind ↔
      LastWritten (Lists · type ·) (base.kindOf type) (loaded base texts) kind) ∧
    (∀ types, (stacked base texts).singleInstance = types ↔
      LastWritten ListsOnce base.singleInstance (loaded base texts) types) ∧
    ∀ texts', List.Forall₂ SameEntries texts texts' →
      (stacked base texts).Alike (stacked base texts') := by
  have hrun := readStack_loaded base texts
  refine ⟨hrun, fun type => ?_, ?_, fun texts' hsame => stacked_alike hsame (.refl base)⟩
  · exact lastWritten_of_foldlM (·.kindOf type) (fun _ _ _ _ h _ => kindOf_read_iff h) hrun
  · exact lastWritten_of_foldlM (·.singleInstance)
      (fun _ _ _ _ h _ => singleInstance_read_iff h) hrun

/-- The document of two keys with a list of one text each. -/
def twoLists (key type key' type' : String) : Yaml.Document where
  root := .collection 0
  collections := #[.map [(.text key, .collection 2), (.text key', .collection 5)], .list [],
    .list [.scalar (.text type)], .list [], .list [], .list [.scalar (.text type')], .list []]

/-- The entries of a text with this document. -/
theorem textEntries_twoLists {key type key' type' : String}
    (h : (Yaml.read text).toOption = some (twoLists key type key' type')) : textEntries text = .ok
      [(.text key, some [.scalar (.text type)]), (.text key', some [.scalar (.text type')])] := by
  rw [textEntries, read_eq_ok_of_toOption h]
  rfl

/-- The first text lists the node at the start as a service. -/
def startText : String := "service: [StartNode]\nsingle_instance: [X]\n"

/-- The second makes it a note. -/
def noteText : String := "entry: [X]\nannotation: [StartNode]\n"

/-- The second with its keys in the other order. -/
def turnedText : String := "annotation: [StartNode]\nentry: [X]\n"

/-- The third lists a type twice and is refused. -/
def twiceText : String := "terminal: [X]\nservice: [X]\n"

theorem stacked_lastWritten_three :
    loaded Catalog.default [startText, noteText, twiceText] = [startText, noteText] ∧
      (stacked Catalog.default [startText, noteText, twiceText]).kindOf "StartNode" = .note ∧
      (stacked Catalog.default [startText, noteText, twiceText]).singleInstance = ["X"] ∧
      List.Forall₂ SameEntries [startText, noteText, twiceText]
        [startText, turnedText, twiceText] ∧
      (stacked Catalog.default [startText, noteText, twiceText]).Alike
        (stacked Catalog.default [startText, turnedText, twiceText]) := by
  have hstart : textEntries startText = .ok [(.text "service", some [.scalar (.text "StartNode")]),
      (singleInstanceKey, some [.scalar (.text "X")])] := textEntries_twoLists (by decide +kernel)
  have hnote : textEntries noteText = .ok [(.text "entry", some [.scalar (.text "X")]),
      (.text "annotation", some [.scalar (.text "StartNode")])] :=
    textEntries_twoLists (by decide +kernel)
  have hturned : textEntries turnedText = .ok
      [(.text "annotation", some [.scalar (.text "StartNode")]),
        (.text "entry", some [.scalar (.text "X")])] := textEntries_twoLists (by decide +kernel)
  have hsame : SameEntries noteText turnedText := by
    rw [SameEntries, hnote, hturned]
    exact .some ⟨rfl, .swap _ _ _⟩
  have htexts : List.Forall₂ SameEntries [startText, noteText, twiceText]
      [startText, turnedText, twiceText] :=
    .cons (.refl _) (.cons hsame (.cons (.refl _) .nil))
  have hlisted : Lists noteText "StartNode" .note :=
    ⟨_, _, hnote, .tail _ (.head _), _, .head _, rfl⟩
  have honce : ListsOnce startText ["X"] := ⟨[_], _, [], ["X"], hstart, by simp, rfl, rfl⟩
  have hnone (types : List String) : ¬ ListsOnce noteText types := by
    rintro ⟨before, items, after, _, hsplit, -⟩
    have hmem : (singleInstanceKey, some items) ∈
        before ++ (singleInstanceKey, some items) :: after := by simp
    rw [← Except.ok.inj (hnote.symm.trans hsplit)] at hmem
    simp [singleInstanceKey] at hmem
  have hloaded : loaded Catalog.default [startText, noteText, twiceText] =
      [startText, noteText] := by decide +kernel
  obtain ⟨-, hkinds, hsingle, halike⟩ :=
    stacked_lastWritten Catalog.default [startText, noteText, twiceText]
  refine ⟨hloaded, (hkinds _ _).mpr ?_, (hsingle _).mpr ?_, htexts, halike _ htexts⟩
  · have hsplit : [startText, noteText] = [startText] ++ noteText :: [] := rfl
    rw [hloaded]
    exact .written hsplit hlisted (by simp)
  · have hsplit : [startText, noteText] = [] ++ startText :: [noteText] := rfl
    rw [hloaded]
    exact .written hsplit honce (by simpa using hnone)

end Stacks

end Catalog

end ServiceFlow
