import ServiceFlow.Decimal.Shortest

/-!
# Layout of floating-point numbers

A number is written with the fewest digits that read back. It is written positionally when its
leading digit stands between the fourth place after the point and the sixteenth before it, and then
always has a digit after the point; otherwise it has an exponent of at least two digits.
-/

namespace ServiceFlow.Decimal

/-- Digits with `point` of them before the decimal point. -/
def positional (digits : List Char) (point : Int) : List Char :=
  if point ≤ 0 then '0' :: '.' :: List.replicate (-point).toNat '0' ++ digits
  else
    let whole := digits.take point.toNat
    let places := digits.drop point.toNat
    whole ++ List.replicate (point.toNat - digits.length) '0' ++ '.' ::
      (if places.isEmpty then ['0'] else places)

/-- Digits with an exponent; the leading one stands before the point. -/
def scientific (digits : List Char) (exponent : Int) : List Char :=
  let power := Nat.toDigits 10 exponent.natAbs
  let mantissa := match digits with
    | [] => []
    | [d] => [d]
    | d :: rest => d :: '.' :: rest
  mantissa ++ 'e' :: (if exponent < 0 then '-' else '+') ::
    (List.replicate (2 - power.length) '0' ++ power)

/-- A positive decimal, positionally or with an exponent. -/
def layout (d : Decimal) : List Char :=
  let all := Nat.toDigits 10 d.coefficient
  let digits := (all.reverse.dropWhile (· == '0')).reverse
  let leading : Int := all.length - 1 + d.exponent
  if -4 ≤ leading ∧ leading < 16 then positional digits (leading + 1)
  else scientific digits leading

end ServiceFlow.Decimal

namespace ServiceFlow.Binary64

/-- The magnitude of a double in words or digits. -/
def Magnitude.render : Magnitude → String
  | .infinite => "inf"
  | .notANumber => "nan"
  | .finite 0 _ => "0.0"
  | .finite mantissa exponent =>
    String.ofList (Decimal.shortest mantissa exponent).layout

/-- The text of a double. A number that is none has no sign. -/
def render (x : Binary64) : String :=
  if x.isNegative && x.magnitude ≠ .notANumber then "-" ++ x.magnitude.render
  else x.magnitude.render

end ServiceFlow.Binary64
