/-!
# Hexadecimal digits

Numbers are written with a fixed number of lower-case digits, and digits of either case are read.
Reading gives back what was written if the number fits the digits.
-/

namespace ServiceFlow.Text

/-- The value of a hexadecimal digit. -/
def hexValue? (c : Char) : Option Nat :=
  if '0' ≤ c ∧ c ≤ '9' then some (c.toNat - '0'.toNat)
  else if 'a' ≤ c ∧ c ≤ 'f' then some (c.toNat - 'a'.toNat + 10)
  else if 'A' ≤ c ∧ c ≤ 'F' then some (c.toNat - 'A'.toNat + 10)
  else none

/-- The value of a run of hexadecimal digits. -/
def hexNumber? (cs : List Char) : Option Nat :=
  cs.foldlM (fun n c => (hexValue? c).map (n * 16 + ·)) 0

/-- The last `width` hexadecimal digits of a number. -/
def hex : Nat → Nat → List Char
  | 0, _ => []
  | width + 1, n => hex width (n / 16) ++ [Nat.digitChar (n % 16)]

/-- Every digit reads back. -/
theorem hexValue?_digitChar {d : Nat} (h : d < 16) : hexValue? (Nat.digitChar d) = some d := by
  have : ∀ d : Fin 16, hexValue? (Nat.digitChar d.val) = some d.val := by decide
  exact this ⟨d, h⟩

/-- A number that fits reads back from its digits. -/
theorem hexNumber?_hex {width n : Nat} (h : n < Nat.pow 16 width) :
    hexNumber? (hex width n) = some n := by
  unfold hexNumber?
  induction width generalizing n with
  | zero => simp_all [hex]
  | succ width ih =>
    have hq : n / 16 < Nat.pow 16 width := (Nat.div_lt_iff_lt_mul (by decide)).2 h
    simp only [hex, List.foldlM_append, ih hq, Option.bind_eq_bind, Option.bind_some,
      List.foldlM_cons, List.foldlM_nil, hexValue?_digitChar (Nat.mod_lt n (by decide)),
      Option.map_some, Option.pure_def]
    congr 1
    omega

end ServiceFlow.Text
