/-!
# Ranges of code points

A class of characters is kept as the list of its maximal ranges in ascending order. The search stops
at the first range that starts beyond the code point, which is what the order is for.
-/

namespace ServiceFlow.Text

/-- Whether a code point lies in one of the ascending ranges, ends included. -/
def Ranges.contains : List (Nat × Nat) → Nat → Bool
  | [], _ => false
  | (low, high) :: rest, n => if n < low then false else n ≤ high || contains rest n

end ServiceFlow.Text
