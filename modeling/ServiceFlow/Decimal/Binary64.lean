/-!
# Double-precision numbers

A double is known by its bit pattern, so that equality of doubles is decidable and every conversion
below is exact arithmetic on natural numbers. A finite double is `mantissa * 2 ^ exponent` up to
sign; a decimal number is read to the nearest double, a tie going to the even mantissa.
-/

namespace ServiceFlow

/-- An IEEE 754 double, by its bits. -/
structure Binary64 where
  bits : UInt64
  deriving DecidableEq, Repr

namespace Binary64

/-- The bit above the fraction: the leading bit of every mantissa but those of the least doubles. -/
def leadingBit : Nat := 1 <<< 52

/-- Whether the sign bit is set. -/
def isNegative (x : Binary64) : Bool := x.bits >>> 63 == 1

/-- The eleven exponent bits. -/
def exponentField (x : Binary64) : Nat := (x.bits.toNat >>> 52) % 2048

/-- The fifty-two fraction bits. -/
def fractionField (x : Binary64) : Nat := x.bits.toNat % leadingBit

/-- What a double stands for, its sign apart. -/
inductive Magnitude where
  | finite (mantissa : Nat) (exponent : Int)
  | infinite
  | notANumber
  deriving DecidableEq, Repr

/-- The magnitude that the bits spell. -/
def magnitude (x : Binary64) : Magnitude :=
  if x.exponentField = 2047 then if x.fractionField = 0 then .infinite else .notANumber
  else if x.exponentField = 0 then .finite x.fractionField (-1074)
  else .finite (leadingBit + x.fractionField) (x.exponentField - 1075 : Int)

/-- Zero of either sign. -/
def isZero (x : Binary64) : Bool := x.bits <<< 1 == 0

/-- The double with the given sign and remaining bits. -/
def ofFields (negative : Bool) (rest : Nat) : Binary64 :=
  ⟨(if negative then 0x8000000000000000 else 0) ||| UInt64.ofNat rest⟩

/-- Infinity of the given sign. -/
def infinity (negative : Bool) : Binary64 := ofFields negative 0x7ff0000000000000

/-- The number that is none. -/
def nan : Binary64 := ⟨0x7ff8000000000000⟩

/-- The double with the sign turned. -/
def neg (x : Binary64) : Binary64 := ⟨x.bits ^^^ 0x8000000000000000⟩

/-- A quotient rounded to the nearest whole number, a tie going to the even one. -/
def divNearest (numerator denominator : Nat) : Nat :=
  let q := numerator / denominator
  let r := numerator % denominator
  if 2 * r < denominator then q
  else if 2 * r = denominator then q + q % 2
  else q + 1

/-- The bits, sign apart, of the double nearest to the positive quotient. -/
def nearestBits (numerator denominator : Nat) : Nat :=
  let scaled (q : Int) : Nat × Nat :=
    (numerator <<< (-q).toNat, denominator <<< q.toNat)
  let guess : Int := max (-1074) ((numerator.log2 : Int) - denominator.log2 - 53)
  let q : Int :=
    if (scaled guess).1 / (scaled guess).2 < 2 * leadingBit then guess else guess + 1
  let m := divNearest (scaled q).1 (scaled q).2
  if m < leadingBit then m
  else min 0x7ff0000000000000 ((q + 1075).toNat * leadingBit + (m - leadingBit))

/-- The double nearest to `coefficient * 10 ^ exponent`. Decimals whose leading digit stands beyond
the range of doubles are settled without computing the power. -/
def ofDecimal (negative : Bool) (coefficient : Nat) (exponent : Int) : Binary64 :=
  let leading : Int := (Nat.toDigits 10 coefficient).length - 1 + exponent
  if coefficient = 0 ∨ leading < -325 then ofFields negative 0
  else if 309 < leading then infinity negative
  else ofFields negative
    (nearestBits (coefficient * Nat.pow 10 exponent.toNat) (Nat.pow 10 (-exponent).toNat))

/-- The double nearest to a whole number. -/
def ofInt (n : Int) : Binary64 := ofDecimal (n < 0) n.natAbs 0

/-- The product, rounded. -/
def mul (x y : Binary64) : Binary64 := ⟨(Float.ofBits x.bits * Float.ofBits y.bits).toBits⟩

/-- The sum, rounded. -/
def add (x y : Binary64) : Binary64 := ⟨(Float.ofBits x.bits + Float.ofBits y.bits).toBits⟩

end Binary64

end ServiceFlow
