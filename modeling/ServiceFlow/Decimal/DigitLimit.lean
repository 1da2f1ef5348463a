/-!
# The limit on digits

Whole numbers may have any size, but texts of more than a fixed number of decimal digits are neither
read as one nor written for one. Digits in bases two, eight and sixteen are not limited.
-/

namespace ServiceFlow

/-- The most decimal digits of a whole number that are read or written. -/
def digitLimit : Nat := 4300

/-- The least number with more digits than are written. -/
def illegibleFrom : Nat := Nat.pow 10 digitLimit

/-- Whether a whole number can be written in decimal digits. -/
def isLegible (n : Int) : Bool := n.natAbs < illegibleFrom

/-- The limit in words, and what can be done about it. -/
def digitLimitMessage (detail : String) : String :=
  s!"Exceeds the limit ({digitLimit} digits) for integer string conversion{detail}; "
    ++ "use sys.set_int_max_str_digits() to increase the limit"

/-- What is wrong with a text of too many digits. -/
def tooManyDigitsMessage (count : Nat) : String :=
  digitLimitMessage s!": value has {count} digits"

/-- What is wrong with a number of too many digits. -/
def illegibleMessage : String := digitLimitMessage ""

end ServiceFlow
