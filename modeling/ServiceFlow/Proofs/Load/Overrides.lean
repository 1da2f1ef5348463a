import ServiceFlow.Proofs.Catalog.Override
import ServiceFlow.Proofs.Load.Items
import ServiceFlow.Proofs.Yaml.Building

/-!
# Catalogue texts

A text that is a mapping in YAML is read as an override: every item of a list counts as the text that
displays it. So the text makes a catalogue exactly when it is consistent under those names. The one
thing that has no name is an item with a whole number beyond the limit on digits in it, and it is
refused wherever it stands, among the types that occur once too.
-/

namespace ServiceFlow

namespace Catalog

/-- The entries of a mapping in a document, with the items of those that are lists. -/
def overrideEntries (d : Yaml.Document) (parts : List (Scalar × Yaml.Item)) :
    Entries Yaml.Item := parts.map fun (k, v) => (k, d.list? v)

/-- The name that an item of a document counts as. -/
def itemName (d : Yaml.Document) (item : Yaml.Item) : Except CatalogFault String :=
  (d.expand item).name

section Reading

variable {text : String} {d : Yaml.Document} {n : Nat} {parts : List (Scalar × Yaml.Item)}

/-- A document that is a mapping overrides a catalogue by its entries. -/
theorem ofDocument_mapping (base : Catalog) (hroot : d.root = .collection n)
    (hparts : d.parts n = .map parts) :
    base.ofDocument d = base.override (itemName d) (overrideEntries d parts) := by
  simp only [ofDocument, hroot, hparts]
  rfl

/-- A text is read as its document is, should it have one. -/
theorem read_eq_mapError (base : Catalog) (hd : Yaml.read text = .ok d) :
    base.read text = (base.ofDocument d).mapError .catalog := by
  rw [Catalog.read, hd]
  rfl

/-- A text that is a mapping makes a catalogue, of whichever base, exactly when its entries are
consistent: each is a list under a known key, each item can be displayed, and no type is listed
twice under kinds. It is refused with the fault of the first entry that is out of order. -/
theorem read_mapping (base : Catalog) (hd : Yaml.read text = .ok d)
    (hroot : d.root = .collection n) (hparts : d.parts n = .map parts) :
    ((∃ c, base.read text = .ok c) ↔ Consistent (itemName d) (overrideEntries d parts)) ∧
      ∀ fault, base.read text = .error fault ↔
        ∃ f, fault = .catalog f ∧ IsFirstOffence (itemName d) (overrideEntries d parts) f := by
  have hread : base.read text =
      (base.override (itemName d) (overrideEntries d parts)).mapError .catalog := by
    rw [← ofDocument_mapping base hroot hparts, read_eq_mapError base hd]
  simp only [hread, mapError_eq_ok_iff, mapError_eq_error_iff, exists_override_iff,
    override_eq_error_iff, implies_true, and_self]

/-- A number beyond the limit on digits has no name. -/
theorem itemName_of_illegible {i : Int} (h : isLegible i = false) :
    itemName d (.scalar (.int i)) = .error .illegible := by
  simp only [itemName, Yaml.Document.expand, Yaml.Item.value, Value.name, Value.isLegible,
    Scalar.isLegible, h, Bool.false_eq_true, if_false]

/-- A text whose reading shows a document is read as that document. -/
theorem read_eq_ok_of_toOption (h : (Yaml.read text).toOption = some d) :
    Yaml.read text = .ok d := by
  cases hread : Yaml.read text with
  | error fault =>
      rw [hread] at h
      cases h
  | ok e =>
      rw [hread] at h
      exact congrArg Except.ok (Option.some.inj h)

end Reading

deriving instance DecidableEq for Yaml.Document

/-- The types that occur once may be named again and again, here and among the services. -/
def onceText : String := "single_instance: [IDV, IDV]\nservice: [IDV]\n"

/-- The parts of the mapping in that text. -/
def onceParts : List (Scalar × Yaml.Item) :=
  [(.text "single_instance", .collection 2), (.text "service", .collection 6)]

/-- The document of that text. -/
def onceDocument : Yaml.Document where
  root := .collection 0
  collections := #[.map onceParts, .list [],
    .list [.scalar (.text "IDV"), .scalar (.text "IDV")], .list [], .list [], .list [],
    .list [.scalar (.text "IDV")], .list []]

/-- A number and a text are listed that are displayed alike. -/
def repeatedText : String := "service: [A, 1]\nannotation: [B, '1']\n"

/-- The parts of the mapping in that text. -/
def repeatedParts : List (Scalar × Yaml.Item) :=
  [(.text "service", .collection 2), (.text "annotation", .collection 6)]

/-- The document of that text. -/
def repeatedDocument : Yaml.Document where
  root := .collection 0
  collections := #[.map repeatedParts, .list [],
    .list [.scalar (.text "A"), .scalar (.int 1)], .list [], .list [], .list [],
    .list [.scalar (.text "B"), .scalar (.text "1")], .list [], .list []]

theorem read_mapping_small :
    (Yaml.read onceText = .ok onceDocument ∧ onceDocument.root = .collection 0 ∧
      onceDocument.parts 0 = .map onceParts ∧
      ∃ c, Catalog.default.read onceText = .ok c) ∧
    (Yaml.read repeatedText = .ok repeatedDocument ∧ repeatedDocument.root = .collection 0 ∧
      repeatedDocument.parts 0 = .map repeatedParts ∧
      Catalog.default.read repeatedText =
        .error (.catalog (.listedTwice "1" "service" "annotation"))) := by
  have honce : Yaml.read onceText = .ok onceDocument := read_eq_ok_of_toOption (by decide +kernel)
  have hrepeated : Yaml.read repeatedText = .ok repeatedDocument :=
    read_eq_ok_of_toOption (by decide +kernel)
  refine ⟨⟨honce, rfl, rfl, ?_⟩, hrepeated, rfl, rfl, ?_⟩
  · exact (read_mapping Catalog.default honce rfl rfl).1.mpr (by decide +kernel)
  · refine ((read_mapping Catalog.default hrepeated rfl rfl).2 _).mpr ⟨_, rfl, ?_⟩
    -- both the number and the text are displayed as `1`
    have hsecond : Offends (itemName repeatedDocument)
        [(.text "service", some [.scalar (.text "A"), .scalar (.int 1)])]
        (.text NodeKind.note.name) (some ([.scalar (.text "B")] ++ [.scalar (.text "1")]))
        (.listedTwice "1" NodeKind.service.name NodeKind.note.name) :=
      .listedTwice (by decide +kernel) (by rfl) (by decide +kernel)
    exact ⟨_, _, _, [], rfl, by decide +kernel, hsecond⟩

/-- The digits of a number of more digits than are written, in base sixteen. -/
def longDigits : List Char := '0' :: 'x' :: '1' :: List.replicate 3600 '0'

/-- That number. -/
def longNumber : Nat := Nat.pow 16 3600

/-- A text that lists one word among the types that occur once. -/
def listedText (word : List Char) : String := "single_instance: [" ++ String.ofList word ++ "]"

/-- The text that lists the number. -/
def longText : String := listedText longDigits

/-- The parts of the mapping in that text. -/
def longParts : List (Scalar × Yaml.Item) := [(singleInstanceKey, .collection 2)]

/-- The document of that text. -/
def longDocument : Yaml.Document where
  root := .collection 0
  collections := #[.map longParts, .list [], .list [.scalar (.int longNumber)], .list []]

section Listed

open Yaml (Tag Token Nodes Construction)

variable {text : String}

/-- The tokens of such a text. -/
def listedTokens (word : String) : List Token :=
  [.blockMappingStart, .key, .scalar true "single_instance", .value, .flowSequenceStart,
    .scalar true word, .flowSequenceEnd, .blockEnd, .streamEnd]

/-- The nodes of these tokens, by the tags of the key and of the word. -/
def listedNodes (key tag : Tag) (word : String) : Nodes :=
  #[⟨.mapping, .mapping [(1, 2)]⟩, ⟨key, .scalar "single_instance"⟩, ⟨.sequence, .sequence [3]⟩,
    ⟨tag, .scalar word⟩]

/-- The document of these nodes, from what the word is read as. -/
def listedDocument (item : Scalar) : Yaml.Document where
  root := .collection 0
  collections := #[.map longParts, .list [], .list [.scalar item], .list []]

/-- Where building the document stands when only its list is left to be filled in. -/
def beforeList (word : String) : Construction where
  nodes := listedNodes .text .int word
  items := #[some (.collection 0), some (.scalar singleInstanceKey), some (.collection 2), none]
  collections := #[.map longParts, .list [], .list [], .list []]
  mergeKeys := 0

/-- The characters of a text that lists one word. -/
theorem toList_listedText (word : List Char) :
    (listedText word).toList = "single_instance: [".toList ++ word ++ [']'] := by
  -- each law is given its terms, since matching it against a literal would spell that out
  have hlast : (listedText word).toList =
      ("single_instance: [" ++ String.ofList word).toList ++ "]".toList := String.toList_append
  have hfirst : ("single_instance: [" ++ String.ofList word).toList =
      "single_instance: [".toList ++ (String.ofList word).toList := String.toList_append
  have hword : (String.ofList word).toList = word := String.toList_ofList
  have hend : "]".toList = [']'] := rfl
  rw [hlast, hfirst, hword, hend]

/-- The grammar gives the tokens their nodes, whatever the word is. -/
theorem nodes_of_tokens {word : String} (h : Token.ofText text.toList = listedTokens word) :
    Nodes.ofText text.toList =
      .ok (listedNodes (Tag.ofPlain "single_instance") (Tag.ofPlain word) word, some 0) := by
  rw [Nodes.ofText, h]
  rfl

/-- The nodes make the document when the word is read as a whole number. -/
theorem document_of_nodes {word : String} {item : Scalar} (h : Tag.int.toScalar word = .ok item) :
    Yaml.Document.ofNodes (listedNodes .text .int word) 0 = .ok (listedDocument item) := by
  have hfill := Yaml.Build.run_fill_singleton (c := beforeList word) (n := 2) (m := 3)
    rfl rfl rfl rfl h
  calc Yaml.Document.ofNodes (listedNodes .text .int word) 0
      -- all that comes before the list does not look at the word
      = Prod.fst <$> (((Yaml.Build.fill 2).run (beforeList word)
            >>= fun p => (Yaml.Build.fillAll 6 []).run p.2)
          >>= fun p => .ok ({ root := .collection 0, collections := p.2.collections }, p.2)) := rfl
    _ = .ok (listedDocument item) := by
      rw [hfill]
      rfl

/-- So a text of these tokens is read as the document. -/
theorem read_of_tokens {word : String} {item : Scalar}
    (htokens : Token.ofText text.toList = listedTokens word) (htag : Tag.ofPlain word = .int)
    (hitem : Tag.int.toScalar word = .ok item) : Yaml.read text = .ok (listedDocument item) := by
  have hkey : Tag.ofPlain "single_instance" = .text := by decide +kernel
  have hnodes := nodes_of_tokens htokens
  rw [hkey, htag] at hnodes
  rw [Yaml.read, hnodes]
  exact document_of_nodes hitem

set_option maxRecDepth 100000 in
/-- The text is cut as it stands: all its digits are one plain scalar. -/
theorem tokens_longText :
    Token.ofText longText.toList = listedTokens (String.ofList longDigits) := by
  calc Token.ofText longText.toList
      = Token.ofText ("single_instance: [".toList ++ longDigits ++ [']']) :=
        congrArg Token.ofText (toList_listedText longDigits)
    _ = listedTokens (String.ofList longDigits) := rfl

set_option maxRecDepth 100000 in
/-- The scalar of the text is a whole number by its form. -/
theorem ofPlain_longDigits : Tag.ofPlain (String.ofList longDigits) = .int :=
  Tag.ofPlain_of_isIntForm (by decide +kernel) (by decide +kernel) (by decide +kernel)

set_option maxRecDepth 100000 in
/-- As a whole number it is the long one. -/
theorem toScalar_longDigits :
    Tag.int.toScalar (String.ofList longDigits) = .ok (.int longNumber) := by
  have hread : (Yaml.toInt longDigits).toOption = some (longNumber : Int) := by decide +kernel
  have hint : Yaml.toInt longDigits = .ok (longNumber : Int) := by
    cases h : Yaml.toInt longDigits with
    | error fault => simp [h, Except.toOption] at hread
    | ok i => simpa [h, Except.toOption] using hread
  rw [Tag.toScalar, String.toList_ofList, hint]
  rfl

/-- The text is read as its document. -/
theorem read_longText : Yaml.read longText = .ok longDocument :=
  read_of_tokens tokens_longText ofPlain_longDigits toScalar_longDigits

end Listed

/-- All values of the text are lists, all its keys are known and nothing in it is listed twice, and
yet there is no catalogue. -/
theorem longDocument_refused :
    Yaml.read longText = .ok longDocument ∧ longDocument.root = .collection 0 ∧
      longDocument.parts 0 = .map longParts ∧
      (∀ e ∈ overrideEntries longDocument longParts, e.2.isSome) ∧
      (∀ e ∈ overrideEntries longDocument longParts, IsKnownKey e.1) ∧
      ((listing (itemName longDocument) (overrideEntries longDocument longParts)).map
        (·.1)).Nodup ∧
      Catalog.default.ofDocument longDocument = .error .illegible ∧
      Catalog.default.read longText = .error (.catalog .illegible) := by
  have hitem : itemName longDocument (.scalar (.int longNumber)) = .error .illegible :=
    itemName_of_illegible (by decide +kernel)
  have hoffends : Offends (itemName longDocument) [] singleInstanceKey
      (some ([] ++ [.scalar (.int longNumber)])) .illegible := .unnamed (by decide) hitem
  have hrefused : Catalog.default.ofDocument longDocument = .error .illegible := by
    rw [ofDocument_mapping _ rfl rfl, override_eq_error_iff]
    exact ⟨_, _, _, [], rfl, by decide, hoffends⟩
  refine ⟨read_longText, rfl, rfl, by decide, by decide, by decide, hrefused, ?_⟩
  rw [read_eq_mapError _ read_longText, hrefused, Except.mapError]

end Catalog

end ServiceFlow
