/-!
# Places in a YAML text

Reading YAML needs to know, beside the text that is left, the column of the next character, for
indentation, and its line and index, for keys that have to end on the line on which they start. The
end of the text reads as a null character, which a YAML text cannot hold.
-/

namespace ServiceFlow.Yaml

/-- The rest of a text and the place at which it starts. -/
structure Cursor where
  rest : List Char
  /-- The number of characters of the whole text. -/
  size : Nat
  index : Nat := 0
  line : Nat := 0
  column : Nat := 0
  deriving DecidableEq, Repr

/-- A line break. -/
def isBreak (c : Char) : Bool :=
  c = '\n' || c = '\r' || c = '\x85' || c = '\u2028' || c = '\u2029'

/-- A line break or the end of the text. -/
def isBreakOrEnd (c : Char) : Bool := isBreak c || c = '\x00'

/-- A space, a line break or the end of the text. -/
def isSpaceOrEnd (c : Char) : Bool := c = ' ' || isBreakOrEnd c

/-- A blank, a line break or the end of the text. -/
def isGap (c : Char) : Bool := c = '\t' || isSpaceOrEnd c

/-- A letter, digit, dash or underscore of ASCII. -/
def isWordChar (c : Char) : Bool :=
  ('0' ≤ c && c ≤ '9') || ('A' ≤ c && c ≤ 'Z') || ('a' ≤ c && c ≤ 'z') || c = '-' || c = '_'

namespace Cursor

/-- The start of a text. -/
def ofText (cs : List Char) : Cursor := { rest := cs, size := cs.length }

/-- One more than the number of characters that are left, which is fuel enough for any loop that
takes a character per round. -/
def fuel (c : Cursor) : Nat := c.size - c.index + 1

/-- The next character. -/
def peek (c : Cursor) : Char := c.rest.headD '\x00'

/-- The character some places further on. -/
def peekAt (c : Cursor) (n : Nat) : Char := (c.rest[n]?).getD '\x00'

/-- The place after the next character. A carriage return before a line feed ends no line. -/
def next (c : Cursor) : Cursor :=
  match c.rest with
  | [] => c
  | ch :: rest =>
    if isBreak ch ∧ ¬(ch = '\r' ∧ rest.head? = some '\n') then
      { c with rest, index := c.index + 1, line := c.line + 1, column := 0 }
    else if ch = '\ufeff' then { c with rest, index := c.index + 1 }
    else { c with rest, index := c.index + 1, column := c.column + 1 }

/-- The place some characters further on. -/
def skip (c : Cursor) : Nat → Cursor
  | 0 => c
  | n + 1 => c.next.skip n

/-- The characters up to the first that fails a test, and the place of that one. -/
def span (c : Cursor) (p : Char → Bool) : List Char × Cursor :=
  let taken := c.rest.takeWhile p
  (taken, c.skip taken.length)

/-- The place of the first character that fails a test. -/
def skipWhile (c : Cursor) (p : Char → Bool) : Cursor := (c.span p).2

/-- The place of the next character that is no space. -/
def skipSpaces (c : Cursor) : Cursor := c.skipWhile (· = ' ')

/-- The place after spaces, but not beyond a column. -/
def skipSpacesTo (c : Cursor) (column : Nat) : Cursor :=
  c.skip ((c.rest.take (column - c.column)).takeWhile (· = ' ')).length

/-- A line break, as the character that it counts as, and the place after it. -/
def lineBreak? (c : Cursor) : Option (Char × Cursor) :=
  match c.rest with
  | '\r' :: '\n' :: _ => some ('\n', c.skip 2)
  | ch :: _ =>
    if ch = '\u2028' ∨ ch = '\u2029' then some (ch, c.next)
    else if isBreak ch then some ('\n', c.next)
    else none
  | [] => none

/-- The place after a line break, if there is one here. -/
def skipBreak (c : Cursor) : Cursor := (c.lineBreak?.map (·.2)).getD c

/-- The place after spaces and a comment. -/
def skipComment (c : Cursor) : Cursor :=
  let c := c.skipSpaces
  if c.peek = '#' then c.skipWhile (!isBreak ·) else c

/-- Whether the next characters are the given ones and a gap follows. -/
def isMarker (c : Cursor) (marker : List Char) : Bool :=
  marker.isPrefixOf c.rest && isGap (c.peekAt marker.length)

/-- Whether a document starts or ends here. -/
def isDocumentMarker (c : Cursor) : Bool :=
  c.isMarker ['-', '-', '-'] || c.isMarker ['.', '.', '.']

end Cursor

end ServiceFlow.Yaml
