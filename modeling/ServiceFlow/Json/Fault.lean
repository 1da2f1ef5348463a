import ServiceFlow.Decimal.DigitLimit

/-!
# Faults of JSON texts

Reading stops at the first character that cannot continue a JSON text. The fault names what was
expected or wrong there, and the place by line, column and position; lines and columns count from
one, positions from zero, and all three count code points.
-/

namespace ServiceFlow.Json

/-- What is wrong with a text at some place. -/
inductive Cause where
  | noValue
  | noPropertyName
  | noColon
  | noComma
  | unterminatedText
  | controlCharacter
  | badEscape
  | badUnicodeEscape
  | extraData
  /-- A whole number of too many digits, which no place is given for. -/
  | tooManyDigits (count : Nat)
  deriving DecidableEq, Repr

/-- What is wrong, in words. -/
def Cause.message : Cause → String
  | .noValue => "Expecting value"
  | .noPropertyName => "Expecting property name enclosed in double quotes"
  | .noColon => "Expecting ':' delimiter"
  | .noComma => "Expecting ',' delimiter"
  | .unterminatedText => "Unterminated string starting at"
  | .controlCharacter => "Invalid control character at"
  | .badEscape => "Invalid \\escape"
  | .badUnicodeEscape => "Invalid \\uXXXX escape"
  | .extraData => "Extra data"
  | .tooManyDigits count => tooManyDigitsMessage count

/-- Where reading stopped and why: `rest` is the text from the faulty character on. -/
structure Stop where
  cause : Cause
  rest : List Char
  deriving DecidableEq, Repr

/-- Why a text is not read as JSON, and where. -/
structure Fault where
  cause : Cause
  line : Nat
  column : Nat
  position : Nat
  deriving DecidableEq, Repr

/-- The fault in words. -/
def Fault.message (f : Fault) : String :=
  match f.cause with
  | .tooManyDigits _ => f.cause.message
  | _ => s!"{f.cause.message}: line {f.line} column {f.column} (char {f.position})"

/-- The place of a fault within the text that was read. -/
def Stop.locate (text : List Char) (s : Stop) : Fault :=
  let position := text.length - s.rest.length
  let before := text.take position
  let sameLine := before.reverse.takeWhile (· != '\n')
  ⟨s.cause, before.count '\n' + 1, sameLine.length + 1, position⟩

end ServiceFlow.Json
