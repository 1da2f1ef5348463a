import ServiceFlow.Decimal.Numeral
import ServiceFlow.Text.Blank
import ServiceFlow.Text.Casing
import ServiceFlow.Text.Digit
import ServiceFlow.Text.Hex
import ServiceFlow.Yaml.Fault

/-!
# Numbers of YAML

A plain scalar is a number when it has one of a few forms: whole numbers in bases two, eight, ten
and sixteen, with underscores anywhere after the first digit, numbers in base sixty with colons, and
decimals with a point. A scalar that is only tagged as a number is read more widely, with blanks
around it and digits of any script, and fails with a fault when it is none. The forms are those of
texts without a line break at their end.
-/

namespace ServiceFlow.Yaml

/-- A digit or an underscore. -/
def isDigitOrBar (c : Char) : Bool := isDigit c || c = '_'

/-- The text after an optional sign. -/
def dropSign : List Char → List Char
  | '-' :: rest => rest
  | '+' :: rest => rest
  | cs => cs

/-- The parts of a text between the given characters. -/
def splitAt (separator : Char) : List Char → List (List Char)
  | [] => [[]]
  | c :: rest =>
    if c = separator then [] :: splitAt separator rest
    else match splitAt separator rest with
      | [] => [[c]]
      | part :: parts => (c :: part) :: parts

/-- One or two digits below sixty. -/
def isSixtieth : List Char → Bool
  | [a] => isDigit a
  | [a, b] => '0' ≤ a && a ≤ '5' && isDigit b
  | _ => false

/-- Digits and underscores, starting with a digit. -/
def isDigitRun : List Char → Bool
  | [] => false
  | c :: rest => isDigit c && rest.all isDigitOrBar

/-- A number in base sixty: a run of digits and one or more sixtieths. -/
def isSexagesimal (cs : List Char) : Bool :=
  match splitAt ':' cs with
  | first :: second :: more => isDigitRun first && (second :: more).all isSixtieth
  | _ => false

/-- Whether a plain scalar is a whole number. -/
def isIntForm (cs : List Char) : Bool :=
  match dropSign cs with
  | '0' :: 'b' :: rest => !rest.isEmpty && rest.all fun c => c = '0' || c = '1' || c = '_'
  | '0' :: 'x' :: rest =>
    !rest.isEmpty && rest.all fun c => (ServiceFlow.Text.hexValue? c).isSome || c = '_'
  | '0' :: rest => rest.all fun c => ('0' ≤ c && c ≤ '7') || c = '_'
  | cs => isDigitRun cs || isSexagesimal cs

/-- Nothing, or the letter of an exponent with a sign and digits. -/
def isExponentForm : List Char → Bool
  | [] => true
  | e :: sign :: digits =>
    (e = 'e' || e = 'E') && (sign = '-' || sign = '+') && !digits.isEmpty && digits.all isDigit
  | _ => false

/-- Whether a plain scalar is a decimal. It needs a point, and a sign in its exponent. -/
def isFloatForm (cs : List Char) : Bool :=
  let unsigned := dropSign cs
  let whole := unsigned.takeWhile (· != '.')
  match unsigned.dropWhile (· != '.') with
  | [] => false
  | _ :: places =>
    let afterPlaces := places.dropWhile isDigitOrBar
    if whole.isEmpty then
      ["inf", "Inf", "INF"].contains (String.ofList places)
        || (unsigned == cs && (["nan", "NaN", "NAN"].contains (String.ofList places)
          || (places.headD '_' != '_' && afterPlaces != places && isExponentForm afterPlaces)))
    else (isDigitRun whole && isExponentForm afterPlaces)
      || (isSexagesimal whole && afterPlaces.isEmpty)

/-- A blank around a number: any blank but the information separators. -/
def isNumberBlank (c : Char) : Bool := ServiceFlow.Text.isBlank c && !('\x1c' ≤ c && c ≤ '\x1f')

/-- A number without the blanks around it, its digits written as ASCII. -/
def plainDigits (cs : List Char) : List Char :=
  let trimmed := ((cs.dropWhile isNumberBlank).reverse.dropWhile isNumberBlank).reverse
  trimmed.map fun c =>
    ((ServiceFlow.Text.digitValue? c).map fun n => Char.ofNat ('0'.toNat + n)).getD c

/-- The text after the mark of a base. -/
def dropBaseMark (base : Nat) : List Char → List Char
  | '0' :: mark :: rest =>
    if (base = 2 ∧ (mark = 'b' ∨ mark = 'B')) ∨ (base = 8 ∧ (mark = 'o' ∨ mark = 'O'))
      ∨ (base = 16 ∧ (mark = 'x' ∨ mark = 'X')) then rest else '0' :: mark :: rest
  | cs => cs

/-- A run of digits in base two, eight, ten or sixteen, after blanks, a sign and the mark of the
base. In base ten there is a limit on digits, whatever follows them. -/
def readInt (base : Nat) (cs : List Char) : Except ConversionFault Int :=
  let plain := plainDigits cs
  let digits := dropBaseMark base (dropSign plain)
  let run := (digits.takeWhile isDigit).length
  let values := digits.mapM ServiceFlow.Text.alphanumericValue?
  if base = 10 ∧ digitLimit < run then .error (.tooManyDigits run)
  else match values with
    | some (v :: more) =>
      if (v :: more).all (· < base) then
        let n : Int := ofDigits base (v :: more)
        .ok (if plain.head? = some '-' then -n else n)
      else .error (.notInteger base (String.ofList cs))
    | _ => .error (.notInteger base (String.ofList cs))

/-- The sign and the rest of a number without its underscores; a number is not empty. -/
def signed (cs : List Char) : Except ConversionFault (Bool × List Char) :=
  match cs.filter (· != '_') with
  | [] => .error .emptyNumber
  | '-' :: rest => .ok (true, rest)
  | '+' :: rest => .ok (false, rest)
  | rest => .ok (false, rest)

/-- The whole number of a scalar. A leading zero is the mark of base eight. -/
def toInt (cs : List Char) : Except ConversionFault Int := do
  let (negative, digits) ← signed cs
  let n ← match digits with
    | [] => .error .emptyNumber
    | ['0'] => .ok 0
    | '0' :: 'b' :: rest => readInt 2 rest
    | '0' :: 'x' :: rest => readInt 16 rest
    | '0' :: _ => readInt 8 digits
    | _ =>
      if digits.contains ':' then do
        let parts ← (splitAt ':' digits).mapM (readInt 10)
        pure (parts.foldl (fun n part => n * 60 + part) 0)
      else readInt 10 digits
  return if negative then -n else n

/-- A decimal after blanks and a sign, or one of the words for what is no finite number. -/
def readFloat (cs : List Char) : Except ConversionFault Binary64 := do
  let failure := ConversionFault.notFloat (String.ofList cs)
  let plain := plainDigits cs
  let negative := plain.head? = some '-'
  let unsigned := dropSign plain
  let word := ServiceFlow.Text.lower (String.ofList unsigned)
  if word = "inf" ∨ word = "infinity" then return .infinity negative
  if word = "nan" then return .nan
  let (whole, afterWhole) := spanDigits unsigned
  let (places, afterPlaces) := match afterWhole with
    | '.' :: rest => spanDigits rest
    | rest => ([], rest)
  if whole.isEmpty ∧ places.isEmpty then throw failure
  let exponent ← match afterPlaces with
    | [] => pure none
    | e :: rest =>
      let digits := dropSign rest
      if (e = 'e' ∨ e = 'E') ∧ digits ≠ [] ∧ digits.all isDigit then
        pure (some (decide (rest.head? = some '-'), digits))
      else throw failure
  return (Numeral.mk negative whole (some places) exponent).toBinary64

/-- The weight of a place of a number in base sixty, counted from the last one. -/
def sexagesimalWeight (place : Nat) : Except ConversionFault Binary64 :=
  let weight := Binary64.ofInt (Nat.pow 60 place)
  if weight.magnitude = .infinite then .error .weightTooLarge else .ok weight

/-- The decimal of the parts of a number in base sixty, summed up from the last one. -/
def sumParts (parts : List Binary64) : Except ConversionFault Binary64 := do
  let weighted ← parts.reverse.zipIdx.mapM fun (part, place) =>
    return part.mul (← sexagesimalWeight place)
  return weighted.foldl Binary64.add (Binary64.ofInt 0)

/-- The sign and the rest of a decimal in lower case. -/
def signedDecimal (cs : List Char) : Except ConversionFault (Bool × List Char) :=
  signed (ServiceFlow.Text.lower (String.ofList (cs.filter (· != '_')))).toList

/-- Whether a decimal is written as the number that is none. -/
def isNamedNaN (cs : List Char) : Bool :=
  match signedDecimal cs with
  | .ok (_, digits) => String.ofList digits == ".nan"
  | .error _ => false

/-- The decimal of a scalar. -/
def toFloat (cs : List Char) : Except ConversionFault Binary64 := do
  let (negative, digits) ← signedDecimal cs
  let x ←
    if String.ofList digits = ".inf" then pure (.infinity false)
    else if String.ofList digits = ".nan" then return .nan
    else if digits.contains ':' then do
      sumParts (← (splitAt ':' digits).mapM readFloat)
    else readFloat digits
  return if negative then x.neg else x

end ServiceFlow.Yaml
