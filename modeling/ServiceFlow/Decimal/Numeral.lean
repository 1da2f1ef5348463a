import ServiceFlow.Decimal.Binary64

/-!
# Numerals

A numeral is a run of decimal digits with an optional fraction and exponent. It keeps whether a
fraction or an exponent was written, because that is what makes it a floating-point number.
-/

namespace ServiceFlow

/-- The value of a run of digits in a base, most significant first. -/
def ofDigits (base : Nat) (digits : List Nat) : Nat := digits.foldl (fun n d => n * base + d) 0

/-- An ASCII decimal digit. -/
def isDigit (c : Char) : Bool := '0' ≤ c && c ≤ '9'

/-- The value of an ASCII decimal digit. -/
def digitOf (c : Char) : Nat := c.toNat - '0'.toNat

/-- The leading decimal digits of a text, and what follows them. -/
def spanDigits (cs : List Char) : List Char × List Char :=
  (cs.takeWhile isDigit, cs.dropWhile isDigit)

/-- A written number. -/
structure Numeral where
  negative : Bool
  /-- The digits before the point. -/
  whole : List Char
  /-- The digits after the point, if there is one. -/
  fraction : Option (List Char)
  /-- Whether the exponent is negative, and its digits, if there is one. -/
  exponent : Option (Bool × List Char)
  deriving DecidableEq, Repr

namespace Numeral

/-- Whether a fraction or an exponent was written. -/
def isFloat (n : Numeral) : Bool := n.fraction.isSome || n.exponent.isSome

/-- The whole number, of a numeral without fraction and exponent. -/
def toInt (n : Numeral) : Int :=
  let m : Int := ofDigits 10 (n.whole.map digitOf)
  if n.negative then -m else m

/-- The power of ten that was written. -/
def power (n : Numeral) : Int :=
  match n.exponent with
  | none => 0
  | some (negative, digits) =>
    let m : Int := ofDigits 10 (digits.map digitOf)
    if negative then -m else m

/-- The double nearest to the number. -/
def toBinary64 (n : Numeral) : Binary64 :=
  let places := n.fraction.getD []
  Binary64.ofDecimal n.negative (ofDigits 10 ((n.whole ++ places).map digitOf))
    (n.power - places.length)

end Numeral

end ServiceFlow
