/-!
# Blanks

A blank is a character that separates words in any script: the ASCII blanks, the four information
separators, the next-line control and the Unicode space separators. The byte order mark and the
zero-width space are none.
-/

namespace ServiceFlow.Text

/-- Whether a character is a blank. -/
def isBlank (c : Char) : Bool :=
  let n := c.toNat
  (9 ≤ n && n ≤ 13) || (28 ≤ n && n ≤ 32) || n == 0x85 || n == 0xa0 || n == 0x1680
    || (0x2000 ≤ n && n ≤ 0x200a) || n == 0x2028 || n == 0x2029 || n == 0x202f || n == 0x205f
    || n == 0x3000

/-- The text without the blanks that it starts with. -/
def dropBlanks (cs : List Char) : List Char := cs.dropWhile isBlank

end ServiceFlow.Text
