import ServiceFlow.Calendar
import ServiceFlow.Decimal.DigitLimit
import ServiceFlow.Text.Quoted

/-!
# Faults of YAML texts

A text that is no YAML, or whose tags do not fit their nodes, is malformed, without further detail.
A well-formed scalar can still fail to be the number, truth value or time that its tag promises, and
an escape to be a character; such a conversion fault says what it stumbled over.
-/

namespace ServiceFlow.Yaml

/-- Why a scalar is not what its tag says. -/
inductive ConversionFault where
  | notInteger (base : Nat) (text : String)
  | tooManyDigits (count : Nat)
  | notFloat (text : String)
  /-- A weight of a number in base sixty beyond the range of doubles. -/
  | weightTooLarge
  | emptyNumber
  | notTruthValue (text : String)
  | notTimestamp
  /-- A mapping in place of a timestamp. -/
  | timestampInParts
  | calendar (fault : CalendarFault)
  /-- An escape beyond the last code point. -/
  | noCharacter
  /-- An escape beyond the numbers that are looked up at all. -/
  | noCodePoint
  deriving DecidableEq, Repr

/-- The most characters of a quoted text that a message about a whole number shows. -/
def shownCharacters : Nat := 200

/-- What is wrong, in words. -/
def ConversionFault.message : ConversionFault → String
  | .notInteger base text =>
    s!"invalid literal for int() with base {base}: "
      ++ String.ofList ((ServiceFlow.Text.quoted text).toList.take shownCharacters)
  | .tooManyDigits count => tooManyDigitsMessage count
  | .notFloat text => s!"could not convert string to float: {ServiceFlow.Text.quoted text}"
  | .weightTooLarge => "int too large to convert to float"
  | .emptyNumber => "string index out of range"
  | .notTruthValue text => ServiceFlow.Text.quoted text
  | .notTimestamp => "'NoneType' object has no attribute 'groupdict'"
  | .timestampInParts => "expected string or bytes-like object, got 'list'"
  | .calendar fault => fault.message
  | .noCharacter => "chr() arg not in range(0x110000)"
  | .noCodePoint => "Python int too large to convert to C int"

/-- Why a text is not read as YAML. -/
inductive Fault where
  | malformed
  | conversion (fault : ConversionFault)
  deriving DecidableEq, Repr

end ServiceFlow.Yaml
