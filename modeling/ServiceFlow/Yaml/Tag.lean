import ServiceFlow.Text.Base64
import ServiceFlow.Value
import ServiceFlow.Yaml.Number
import ServiceFlow.Yaml.Timestamp

/-!
# Tags of YAML

A tag says what kind of value a node is. A plain scalar without a tag gets one from its form, in
which a line break at its end plays no part; any other node without a tag is a text, a sequence or a
mapping. A tagged scalar is read by the rules of its tag.
-/

namespace ServiceFlow.Yaml

/-- The kinds of values that nodes stand for; `merge` and `value` mark two special keys, and nothing
is `unknown`. -/
inductive Tag where
  | null
  | bool
  | int
  | float
  | text
  | binary
  | timestamp
  | sequence
  | mapping
  | set
  | orderedMap
  | pairs
  | merge
  | value
  | unknown
  deriving DecidableEq, Repr

namespace Tag

/-- What the full names of the standard tags start with. -/
def standard : String := "tag:yaml.org,2002:"

/-- The short names of the tags that a text can give. -/
def names : List (String × Tag) :=
  [("null", null), ("bool", bool), ("int", int), ("float", float), ("str", text),
    ("binary", binary), ("timestamp", timestamp), ("seq", sequence), ("map", mapping), ("set", set),
    ("omap", orderedMap), ("pairs", pairs), ("merge", merge), ("value", value)]

/-- The tag of a full name. -/
def ofName (name : String) : Tag :=
  (names.find? fun (short, _) => standard ++ short == name).map (·.2) |>.getD unknown

/-- The words that stand for truth values, in lower case. -/
def truthWords : List (String × Bool) :=
  [("yes", true), ("no", false), ("true", true), ("false", false), ("on", true), ("off", false)]

/-- A word in lower case, with a capital, or in capitals. -/
def casings (word : String) : List String := [word, word.capitalize, word.toUpper]

/-- The tag of a scalar by its form. -/
def ofForm (s : String) : Tag :=
  let cs := s.toList
  if truthWords.any fun (word, _) => (casings word).contains s then bool
  else if isFloatForm cs then float
  else if isIntForm cs then int
  else if s = "<<" then merge
  else if s = "~" ∨ s = "" ∨ (casings "null").contains s then null
  else if isTimestampForm cs then timestamp
  else if s = "=" then value
  else if ["!", "&", "*"].contains s then unknown
  else text

/-- A text without the line break that it ends with. -/
def dropFinalBreak (s : String) : String :=
  match s.toList.reverse with
  | '\n' :: rest => String.ofList rest.reverse
  | _ => s

/-- The tag of a plain scalar. A line break alone has no form. -/
def ofPlain (s : String) : Tag := if s = "\n" then text else ofForm (dropFinalBreak s)

end Tag

/-- The truth value of a scalar. -/
def toTruth (s : String) : Except ConversionFault Bool :=
  let word := ServiceFlow.Text.lower s
  match Tag.truthWords.find? (·.1 == word) with
  | some (_, b) => .ok b
  | none => .error (.notTruthValue word)

/-- The date or moment of a scalar. -/
def toTimestamp (s : String) : Except ConversionFault Scalar :=
  match readTimestamp? (Tag.dropFinalBreak s).toList with
  | none => .error .notTimestamp
  | some t => match t.resolve with
    | .ok (.inl d) => .ok (.date d)
    | .ok (.inr t) => .ok (.dateTime t)
    | .error f => .error (.calendar f)

/-- The bytes of a scalar. -/
def toBytes (s : String) : Except Fault Scalar :=
  if s.toList.all (·.toNat < 128) then
    match ServiceFlow.Text.base64Decode s.toList with
    | some bytes => .ok (.bytes bytes)
    | none => .error .malformed
  else .error .malformed

/-- The scalar of a text by its tag; a tag of a collection has none. -/
def Tag.toScalar (tag : Tag) (s : String) : Except Fault Scalar :=
  match tag with
  | .null => .ok .null
  | .bool => ((toTruth s).map Scalar.bool).mapError .conversion
  | .int => ((toInt s.toList).map Scalar.int).mapError .conversion
  | .float => ((toFloat s.toList).map Scalar.float).mapError .conversion
  | .text => .ok (.text s)
  | .binary => toBytes s
  | .timestamp => (toTimestamp s).mapError .conversion
  | _ => .error .malformed

end ServiceFlow.Yaml
