import ServiceFlow.Decimal.Binary64

/-!
# The shortest decimal that reads back

The decimals that read back as a given finite double are those of an interval around it, its ends
included exactly when the mantissa is even. For each number of digits the two decimals next to the
double are tried, so the first number of digits at which one lies in the interval is the least one;
of two hits the nearer is taken, and of two equally near the even one.
-/

namespace ServiceFlow

/-- A positive decimal number, `coefficient * 10 ^ exponent`. -/
structure Decimal where
  coefficient : Nat
  exponent : Int
  deriving DecidableEq, Repr

namespace Decimal

/-- The decimals that read back as `mantissa * 2 ^ exponent`, measured in quarters of the last
place. The interval is narrower below a power of two. -/
structure Interval where
  low : Nat
  /-- The double itself. -/
  centre : Nat
  high : Nat
  /-- Whether the ends read back too. -/
  closed : Bool
  /-- The power of two that the other fields count. -/
  unit : Int
  deriving DecidableEq, Repr

/-- The interval around a double. -/
def Interval.around (mantissa : Nat) (exponent : Int) : Interval where
  low :=
    if mantissa = Binary64.leadingBit ∧ -1074 < exponent then 4 * mantissa - 1
    else 4 * mantissa - 2
  centre := 4 * mantissa
  high := 4 * mantissa + 2
  closed := mantissa % 2 == 0
  unit := exponent - 2

/-- The factors that bring `coefficient * 10 ^ tens` and `quarters * 2 ^ twos` to one measure. -/
def commonMeasure (tens twos : Int) : Nat × Nat :=
  (Nat.pow 10 tens.toNat <<< (-twos).toNat, Nat.pow 10 (-tens).toNat <<< twos.toNat)

/-- Whether `coefficient * 10 ^ tens` lies in the interval. -/
def Interval.holds (i : Interval) (coefficient : Nat) (tens : Int) : Bool :=
  let (ten, two) := commonMeasure tens i.unit
  let x := coefficient * ten
  (i.low * two < x || (i.closed && i.low * two == x))
    && (x < i.high * two || (i.closed && i.high * two == x))

/-- The decimal next to the centre on the grid `10 ^ tens` that reads back, if either does. -/
def Interval.nearest? (i : Interval) (tens : Int) : Option Nat :=
  let (ten, two) := commonMeasure tens i.unit
  let below := i.centre * two / ten
  let above := below + 1
  match i.holds below tens, i.holds above tens with
  | true, true =>
    let distance := compare (2 * (i.centre * two)) ((below + above) * ten)
    some (if distance = .lt ∨ distance = .eq ∧ below % 2 = 0 then below else above)
  | true, false => some below
  | false, true => some above
  | false, false => none

/-- The exponent of the leading decimal digit of `mantissa * 2 ^ exponent`. -/
def leadingExponent (mantissa : Nat) (exponent : Int) : Int :=
  let guess := ((mantissa.log2 + exponent) * 30103) / 100000
  let (ten, two) := commonMeasure (guess + 1) exponent
  if ten ≤ mantissa * two then guess + 1 else guess

/-- The fewest digits that read back as the positive double `mantissa * 2 ^ exponent`. Seventeen
always suffice. -/
def shortest (mantissa : Nat) (exponent : Int) : Decimal :=
  let i := Interval.around mantissa exponent
  let top := leadingExponent mantissa exponent
  let grids := (List.range 18).map fun (n : Nat) => top - n
  match grids.findSome? fun tens => (i.nearest? tens).map (Decimal.mk · tens) with
  | some d => d
  | none => ⟨i.centre, i.unit⟩

end Decimal

end ServiceFlow
