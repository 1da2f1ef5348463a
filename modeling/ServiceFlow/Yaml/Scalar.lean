import ServiceFlow.Text.Hex
import ServiceFlow.Text.Utf16
import ServiceFlow.Yaml.Cursor
import ServiceFlow.Yaml.Fault

/-!
# Scalars of YAML texts

A scalar is written plain, in single or double quotes, or as a block of lines. Line breaks inside
the first three fold: one break reads as a space, several as one less. A block keeps its breaks or
folds them, and its header says what becomes of those at its end.

Each loop takes at least one character per round, so the number of characters left is fuel enough.
-/

namespace ServiceFlow.Yaml

open ServiceFlow.Text (Piece isHighUnit isLowUnit joinPieces hexNumber?)

/-- What a break and the breaks after it fold to. -/
def foldBreaks (first : Char) (more : List Char) : List Char :=
  if first ≠ '\n' then first :: more else if more.isEmpty then [' '] else more

/-! ## Quoted scalars -/

/-- The breaks of the lines that are blank from here on; a document marker may not stand there. -/
def quotedBreaks : Nat → Cursor → Except Fault (List Char × Cursor)
  | 0, _ => .error .malformed
  | fuel + 1, c =>
    if c.isDocumentMarker then .error .malformed
    else
      let c := c.skipWhile fun ch => ch = ' ' || ch = '\t'
      match c.lineBreak? with
      | some (ch, after) => do
        let (more, last) ← quotedBreaks fuel after
        return (ch :: more, last)
      | none => .ok ([], c)

/-- The blanks and breaks between two words of a quoted scalar. -/
def quotedSpaces (c : Cursor) : Except Fault (List Char × Cursor) :=
  let (blanks, after) := c.span fun ch => ch = ' ' || ch = '\t'
  match after.lineBreak? with
  | some (ch, next) => do
    let (more, last) ← quotedBreaks next.fuel next
    return (foldBreaks ch more, last)
  | none => if after.rest.isEmpty then .error .malformed else .ok (blanks, after)

/-- The character of an escape of one letter. -/
def escape? : Char → Option Char
  | '0' => some '\x00'
  | 'a' => some '\x07'
  | 'b' => some '\x08'
  | 't' | '\t' => some '\t'
  | 'n' => some '\n'
  | 'v' => some '\x0b'
  | 'f' => some '\x0c'
  | 'r' => some '\r'
  | 'e' => some '\x1b'
  | ' ' => some ' '
  | '"' => some '"'
  | '\\' => some '\\'
  | '/' => some '/'
  | 'N' => some '\x85'
  | '_' => some '\xa0'
  | 'L' => some '\u2028'
  | 'P' => some '\u2029'
  | _ => none

/-- The number of hexadecimal digits of an escape by code point. -/
def escapeWidth? : Char → Option Nat
  | 'x' => some 2
  | 'u' => some 4
  | 'U' => some 8
  | _ => none

/-- What an escape by code point stands for. -/
def pieceOfCode (n : Nat) : Except Fault Piece :=
  if isHighUnit n || isLowUnit n then .ok (.unit n)
  else if n < 0x110000 then .ok (.char (Char.ofNat n))
  else .error (.conversion (if n < 0x80000000 then .noCharacter else .noCodePoint))

/-- What an escape stands for; `c` is the place after its backslash. -/
def readEscape (c : Cursor) : Except Fault (List Piece × Cursor) :=
  match escape? c.peek, escapeWidth? c.peek with
  | some ch, _ => .ok ([.char ch], c.next)
  | none, some width =>
    let digits := c.next.rest.take width
    match hexNumber? digits with
    | some n =>
      if digits.length = width then do return ([← pieceOfCode n], c.next.skip width)
      else .error .malformed
    | none => .error .malformed
  | none, none => match c.lineBreak? with
    | some (_, after) => do
      let (breaks, last) ← quotedBreaks after.fuel after
      return (breaks.map .char, last)
    | none => .error .malformed

/-- The rest of a quoted scalar, up to and with its closing quote. -/
def quotedRest (double : Bool) : Nat → Cursor → Except Fault (List Piece × Cursor)
  | 0, _ => .error .malformed
  | fuel + 1, c =>
    let continueWith (part : List Piece) (after : Cursor) : Except Fault (List Piece × Cursor) := do
      let (more, last) ← quotedRest double fuel after
      return (part ++ more, last)
    match c.rest with
    | [] => .error .malformed
    | ch :: _ =>
      if ch = '\'' ∧ double = false then
        if c.peekAt 1 = '\'' then continueWith [.char '\''] (c.skip 2) else .ok ([], c.next)
      else if ch = '"' ∧ double then .ok ([], c.next)
      else if ch = '\\' ∧ double then do
        let (part, after) ← readEscape c.next
        continueWith part after
      else if isGap ch then do
        let (part, after) ← quotedSpaces c
        continueWith (part.map .char) after
      else continueWith [.char ch] c.next

/-- Reads a quoted scalar from its opening quote. -/
def readQuoted (double : Bool) (c : Cursor) : Except Fault (String × Cursor) := do
  let (pieces, after) ← quotedRest double c.fuel c.next
  return (String.ofList (joinPieces pieces), after)

/-! ## Plain scalars -/

/-- The characters of a plain scalar up to the next gap or indicator. -/
def plainWord (inFlow : Bool) : List Char → List Char
  | [] => []
  | c :: rest =>
    let next := rest.headD '\x00'
    if isGap c || (c = ':' && (isGap next || (inFlow && ",[]\x7b\x7d".toList.contains next)))
        || (inFlow && ",?[]\x7b\x7d".toList.contains c) then []
    else c :: plainWord inFlow rest

/-- The breaks of blank lines from here on, and whether a document marker stops them. -/
def plainBreaks : Nat → Cursor → List Char × Bool × Cursor
  | 0, c => ([], false, c)
  | fuel + 1, c =>
    let c := c.skipSpaces
    match c.lineBreak? with
    | some (ch, after) =>
      if after.isDocumentMarker then ([], true, after)
      else
        let (more, stopped, last) := plainBreaks fuel after
        (ch :: more, stopped, last)
    | none => ([], false, c)

/-- What stands after a word of a plain scalar. -/
structure PlainGap where
  /-- What the gap reads as between two words; nothing ends the scalar. -/
  folded : List Char
  /-- Whether the gap holds a line break. -/
  breaks : Bool
  after : Cursor

/-- The gap after a word of a plain scalar. -/
def plainGap (c : Cursor) : PlainGap :=
  let (spaces, after) := c.span (· = ' ')
  match after.lineBreak? with
  | none => ⟨spaces, false, after⟩
  | some (ch, next) =>
    if next.isDocumentMarker then ⟨[], true, next⟩
    else
      let (more, stopped, last) := plainBreaks next.fuel next
      ⟨if stopped then [] else foldBreaks ch more, true, last⟩

/-- The words of a plain scalar from here on; `gap` is what stands before the next one, and lines
that are indented less than `indent` do not belong to it. -/
def plainWords (inFlow : Bool) (indent : Int) : Nat → List Char → Bool → Cursor →
    List Char × Bool × Cursor
  | 0, _, breaks, c => ([], breaks, c)
  | fuel + 1, gap, breaks, c =>
    if c.peek = '#' then ([], breaks, c)
    else match plainWord inFlow c.rest with
      | [] => ([], breaks, c)
      | word =>
        let g := plainGap (c.skip word.length)
        let ended := g.folded.isEmpty || g.after.peek = '#' || (!inFlow && g.after.column < indent)
        let (more, broken, last) :=
          if ended then ([], g.breaks, g.after)
          else plainWords inFlow indent fuel g.folded g.breaks g.after
        (gap ++ word ++ more, broken, last)

/-- A plain scalar, whether a line break follows it, and the place after it. -/
def readPlain (inFlow : Bool) (indent : Int) (c : Cursor) : String × Bool × Cursor :=
  let (cs, breaks, last) := plainWords inFlow indent c.fuel [] false c
  (String.ofList cs, breaks, last)

/-! ## Block scalars -/

/-- What becomes of the breaks at the end of a block. -/
inductive Chomping where
  | strip
  | clip
  | keep
  deriving DecidableEq, Repr

/-- The sign that says what becomes of the last breaks. -/
def chomping? : Char → Option Chomping
  | '+' => some .keep
  | '-' => some .strip
  | _ => none

/-- The digit that says how far a block is indented; zero is refused. -/
def indentation? (c : Char) : Except Fault (Option Nat) :=
  if c = '0' then .error .malformed
  else .ok (if '1' ≤ c ∧ c ≤ '9' then some (c.toNat - '0'.toNat) else none)

/-- The header of a block: a sign and a digit in either order, then nothing but a comment. -/
def blockHeader (c : Cursor) : Except Fault ((Chomping × Option Nat) × Cursor) := do
  let sign := chomping? c.peek
  let c := if sign.isSome then c.next else c
  let digit ← indentation? c.peek
  let c := if digit.isSome then c.next else c
  let late := if sign.isNone ∧ digit.isSome then chomping? c.peek else none
  let c := if late.isSome then c.next else c
  unless isSpaceOrEnd c.peek do throw .malformed
  let c := c.skipComment
  unless isBreakOrEnd c.peek do throw .malformed
  return ((((sign <|> late).getD .clip), digit), c.skipBreak)

/-- The breaks before the first line of a block, and the deepest indentation among them. -/
def blockIndentation : Nat → Nat → Cursor → List Char × Nat × Cursor
  | 0, deepest, c => ([], deepest, c)
  | fuel + 1, deepest, c =>
    match c.lineBreak? with
    | some (ch, after) =>
      let (more, found, last) := blockIndentation fuel deepest after
      (ch :: more, found, last)
    | none =>
      if c.peek = ' ' then blockIndentation fuel (max deepest c.next.column) c.next
      else ([], deepest, c)

/-- The breaks of the lines that are empty within an indentation. -/
def blockBreaks (indent : Nat) : Nat → Cursor → List Char × Cursor
  | 0, c => ([], c)
  | fuel + 1, c =>
    let c := c.skipSpacesTo indent
    match c.lineBreak? with
    | some (ch, after) =>
      let (more, last) := blockBreaks indent fuel after
      (ch :: more, last)
    | none => ([], c)

/-- The lines of a block: their text with the breaks between them, the break after the last line,
and the breaks after that. -/
def blockLines (folded : Bool) (indent : Nat) : Nat → List Char → Cursor →
    List Char × List Char × List Char × Cursor
  | 0, breaks, c => ([], [], breaks, c)
  | fuel + 1, breaks, c =>
    if c.column = indent ∧ c.rest ≠ [] then
      let isText (ch : Char) : Bool := ch ≠ ' ' && ch ≠ '\t'
      let startsText := isText c.peek
      let (line, afterLine) := c.span (!isBreak ·)
      let ending := (afterLine.lineBreak?.map fun b => [b.1]).getD []
      let start := afterLine.skipBreak
      let (more, next) := blockBreaks indent start.fuel start
      if next.column = indent ∧ next.rest ≠ [] then
        let joint :=
          if folded ∧ ending = ['\n'] ∧ startsText ∧ isText next.peek then
            if more.isEmpty then [' '] else []
          else ending
        let (text, final, tail, last) := blockLines folded indent fuel more next
        (breaks ++ line ++ joint ++ text, final, tail, last)
      else (breaks ++ line, ending, more, next)
    else ([], [], breaks, c)

/-- Reads a block from its indicator; `indent` is the indentation around it. -/
def readBlock (folded : Bool) (indent : Int) (c : Cursor) : Except Fault (String × Cursor) := do
  let ((chomping, digit), start) ← blockHeader c.next
  let least := (max 1 (indent + 1)).toNat
  let fuel := start.fuel
  let (breaks, width, first) := match digit with
    | none =>
      let (breaks, deepest, first) := blockIndentation fuel 0 start
      (breaks, max least deepest, first)
    | some n =>
      let (breaks, first) := blockBreaks (least + n - 1) fuel start
      (breaks, least + n - 1, first)
  let (text, final, tail, last) := blockLines folded width first.fuel breaks first
  let ending := match chomping with
    | .strip => []
    | .clip => final
    | .keep => final ++ tail
  return (String.ofList (text ++ ending), last)

end ServiceFlow.Yaml
