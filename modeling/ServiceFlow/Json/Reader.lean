import ServiceFlow.Decimal.Numeral
import ServiceFlow.Json.Text
import ServiceFlow.Value

/-!
# Reading JSON

A JSON text is one value between blanks. Beside the standard it allows `NaN`, `Infinity` and
`-Infinity`. Of several entries with one name the last gives the value and the first the place. A
number with a fraction or an exponent is a double, any other a whole number, for which there is a
limit on digits.

The nesting of a text cannot be deeper than the text is long, so its length is fuel enough.
-/

namespace ServiceFlow.Json

/-- The blanks of JSON. -/
def isSpace (c : Char) : Bool := c = ' ' || c = '\t' || c = '\n' || c = '\r'

/-- The text after its leading blanks. -/
def skipSpace (cs : List Char) : List Char := cs.dropWhile isSpace

/-- The fraction that a text starts with: a point and at least one digit. -/
def readFraction (cs : List Char) : Option (List Char) × List Char :=
  match cs with
  | '.' :: rest => match spanDigits rest with
    | ([], _) => (none, cs)
    | (digits, after) => (some digits, after)
  | _ => (none, cs)

/-- The exponent that a text starts with: a letter, an optional sign and at least one digit. -/
def readExponent (cs : List Char) : Option (Bool × List Char) × List Char :=
  let signed (rest : List Char) : Bool × List Char := match rest with
    | '-' :: r => (true, r)
    | '+' :: r => (false, r)
    | r => (false, r)
  match cs with
  | e :: rest =>
    if e = 'e' ∨ e = 'E' then match spanDigits (signed rest).2 with
      | ([], _) => (none, cs)
      | (digits, after) => (some ((signed rest).1, digits), after)
    else (none, cs)
  | [] => (none, cs)

/-- The number that a text starts with. A zero is a whole part of its own. -/
def readNumeral? (cs : List Char) : Option (Numeral × List Char) := do
  let (negative, unsigned) := match cs with
    | '-' :: rest => (true, rest)
    | _ => (false, cs)
  let (whole, afterWhole) ← match unsigned with
    | '0' :: rest => some (['0'], rest)
    | _ => match spanDigits unsigned with
      | ([], _) => none
      | span => some span
  let (fraction, afterFraction) := readFraction afterWhole
  let (exponent, after) := readExponent afterFraction
  return (⟨negative, whole, fraction, exponent⟩, after)

/-- The value of a number, or why it has none. -/
def numeralValue (n : Numeral) : Except Cause Scalar :=
  if n.isFloat then .ok (.float n.toBinary64)
  else if digitLimit < n.whole.length then .error (.tooManyDigits n.whole.length)
  else .ok (.int n.toInt)

/-- The words that stand for values. -/
def words : List (String × Scalar) :=
  [("null", .null), ("true", .bool true), ("false", .bool false), ("NaN", .float .nan),
    ("Infinity", .float (.infinity false)), ("-Infinity", .float (.infinity true))]

/-- The word that a text starts with, as its value, and what follows it. -/
def readWord? (cs : List Char) : Option (Scalar × List Char) :=
  words.findSome? fun (word, s) =>
    if word.toList.isPrefixOf cs then some (s, cs.drop word.length) else none

/-- Reads a value that is neither a text nor a collection. -/
def readPlain (cs : List Char) : Except Stop (Value × List Char) :=
  match readWord? cs with
  | some (s, rest) => .ok (.scalar s, rest)
  | none => match readNumeral? cs with
    | some (n, rest) => match numeralValue n with
      | .ok s => .ok (.scalar s, rest)
      | .error cause => .error ⟨cause, cs⟩
    | none => .error ⟨.noValue, cs⟩

mutual

/-- Reads a value. -/
def readValue : Nat → List Char → Except Stop (Value × List Char)
  | 0, cs => .error ⟨.noValue, cs⟩
  | fuel + 1, cs => match cs with
    | '"' :: rest => do
      let (s, after) ← readText rest
      return (.text s, after)
    | '[' :: rest => match skipSpace rest with
      | ']' :: after => .ok (.list [], after)
      | first => do
        let (items, after) ← readItems fuel first
        return (.list items, after)
    | '\x7b' :: rest => match skipSpace rest with
      | '\x7d' :: after => .ok (.map [], after)
      | first => do
        let (entries, after) ← readEntries fuel first
        return (.ofEntries entries, after)
    | _ => readPlain cs

/-- Reads the items of a list from the first one on. -/
def readItems : Nat → List Char → Except Stop (List Value × List Char)
  | 0, cs => .error ⟨.noValue, cs⟩
  | fuel + 1, cs => do
    let (v, after) ← readValue fuel cs
    match skipSpace after with
    | ']' :: rest => return ([v], rest)
    | ',' :: rest => do
      let (items, last) ← readItems fuel (skipSpace rest)
      return (v :: items, last)
    | other => .error ⟨.noComma, other⟩

/-- Reads the entries of a mapping from the first one on. -/
def readEntries : Nat → List Char → Except Stop (List (Scalar × Value) × List Char)
  | 0, cs => .error ⟨.noPropertyName, cs⟩
  | fuel + 1, cs => match cs with
    | '"' :: name => do
      let (key, afterKey) ← readText name
      match skipSpace afterKey with
      | ':' :: value => do
        let (v, after) ← readValue fuel (skipSpace value)
        match skipSpace after with
        | '\x7d' :: rest => return ([(.text key, v)], rest)
        | ',' :: rest => do
          let (entries, last) ← readEntries fuel (skipSpace rest)
          return ((.text key, v) :: entries, last)
        | other => .error ⟨.noComma, other⟩
      | other => .error ⟨.noColon, other⟩
    | _ => .error ⟨.noPropertyName, cs⟩

end

/-- Reads a text that holds one value between blanks. -/
def readAll (cs : List Char) : Except Stop Value := do
  let (v, after) ← readValue (2 * cs.length + 2) (skipSpace cs)
  match skipSpace after with
  | [] => return v
  | rest => .error ⟨.extraData, rest⟩

/-- The value of a JSON text. -/
def read (s : String) : Except Fault Value :=
  (readAll s.toList).mapError (·.locate s.toList)

end ServiceFlow.Json
