/-!
# UTF-16 units

An escape can name a UTF-16 unit instead of a character. A high unit and a low unit next to each
other then spell a character beyond the first plane, while a unit that finds no partner spells none
and is replaced by U+FFFD.

Here the model differs from the program: that keeps a unit without a partner in the text, and its
schema then refuses the text where a field asks for one. A text of the model is made of characters
and has no place for such a unit, so it is accepted with the replacement.
-/

namespace ServiceFlow.Text

/-- A part of a text with escapes: a character, or a UTF-16 unit. -/
inductive Piece where
  | char (c : Char)
  | unit (n : Nat)
  deriving DecidableEq, Repr

/-- A unit that opens a pair. -/
def isHighUnit (n : Nat) : Bool := 0xd800 ≤ n && n < 0xdc00

/-- A unit that closes a pair. -/
def isLowUnit (n : Nat) : Bool := 0xdc00 ≤ n && n < 0xe000

/-- The characters that the parts spell. -/
def joinPieces : List Piece → List Char
  | [] => []
  | .char c :: rest => c :: joinPieces rest
  | .unit n :: .unit m :: rest =>
    if isHighUnit n && isLowUnit m then
      Char.ofNat (0x10000 + (n - 0xd800) * 0x400 + (m - 0xdc00)) :: joinPieces rest
    else (if isHighUnit n || isLowUnit n then '\ufffd' else Char.ofNat n) ::
      joinPieces (.unit m :: rest)
  | .unit n :: rest =>
    (if isHighUnit n || isLowUnit n then '\ufffd' else Char.ofNat n) :: joinPieces rest

end ServiceFlow.Text
