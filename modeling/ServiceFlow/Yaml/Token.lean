import ServiceFlow.Text.Utf8
import ServiceFlow.Yaml.Scalar

/-!
# Tokens of YAML texts

A YAML text is a list of tokens: indicators, scalars, properties of nodes, and the marks at which
indentation opens and closes a block collection. What makes YAML awkward to cut up is that a mapping
key is recognised only by the colon after it. Every token that could start a key is therefore
remembered by its number, and the key mark is put in front of it when the colon is met, which has to
happen on the same line and within 1024 characters.
-/

namespace ServiceFlow.Yaml

/-- A token of a YAML text. -/
inductive Token where
  | version (major minor : Nat)
  | tagHandle (handle start : String)
  | otherDirective
  | documentStart
  | documentEnd
  | blockSequenceStart
  | blockMappingStart
  | blockEnd
  | flowSequenceStart
  | flowSequenceEnd
  | flowMappingStart
  | flowMappingEnd
  | blockEntry
  | flowEntry
  | key
  | value
  | alias (name : String)
  | anchor (name : String)
  | tag (handle : Option String) (suffix : String)
  | scalar (plain : Bool) (text : String)
  /-- The text is at its end. -/
  | streamEnd
  /-- The text cannot be cut into tokens any further. -/
  | stop (fault : Fault)
  deriving DecidableEq, Repr

/-- A token that could turn out to be a mapping key. -/
structure KeyCandidate where
  /-- The flow collections that are open around it. -/
  depth : Nat
  /-- The number of tokens before it. -/
  number : Nat
  /-- Whether nothing but a key can stand there. -/
  required : Bool
  index : Nat
  line : Nat
  column : Nat
  deriving DecidableEq, Repr

/-- The state of cutting a text into tokens. -/
structure Cutting where
  cursor : Cursor
  /-- The tokens so far, the last one first. -/
  tokens : List Token := []
  /-- The number of tokens so far. -/
  count : Nat := 0
  /-- The number of tokens that a reader has been given. -/
  given : Nat := 0
  /-- Whether the text is at its end. -/
  finished : Bool := false
  /-- The number of flow collections that are open. -/
  depth : Nat := 0
  /-- The column of the innermost open block collection, -1 outside all of them. -/
  indent : Int := -1
  /-- The columns of the block collections around that. -/
  outer : List Int := []
  /-- Whether a key may start at this place. -/
  keyAllowed : Bool := true
  /-- The tokens that a colon would make keys, at most one to a depth. -/
  candidates : List KeyCandidate := []

/-! ## Directives, anchors and tags -/

/-- The characters of a tag, escapes apart. -/
def isTagChar (c : Char) : Bool := isWordChar c || ";/?:@&=+$,_.!~*'()[]".toList.contains c

/-- The byte of two hexadecimal digits. -/
def escapedByte? (a b : Char) : Option UInt8 := (Text.hexNumber? [a, b]).map UInt8.ofNat

/-- The bytes of the percent escapes from here on, and how many there are. -/
def escapedBytes : List Char → Except Fault (List UInt8)
  | '%' :: a :: b :: rest => match escapedByte? a b with
    | some byte => (escapedBytes rest).map (byte :: ·)
    | none => .error .malformed
  | '%' :: _ => .error .malformed
  | _ => .ok []

/-- The parts of a tag from here on. -/
def tagParts : Nat → Cursor → Except Fault (List Char × Cursor)
  | 0, _ => .error .malformed
  | fuel + 1, c =>
    if c.peek = '%' then do
      let bytes ← escapedBytes c.rest
      match Text.Utf8.decode bytes with
      | .error _ => .error .malformed
      | .ok s => do
        let (more, last) ← tagParts fuel (c.skip (3 * bytes.length))
        return (s.toList ++ more, last)
    else if isTagChar c.peek then do
      let (more, last) ← tagParts fuel c.next
      return (c.peek :: more, last)
    else .ok ([], c)

/-- A tag or the start of one; it has at least one character. -/
def readTagText (c : Cursor) : Except Fault (String × Cursor) := do
  let (cs, after) ← tagParts c.fuel c
  if after.index = c.index then throw .malformed
  return (String.ofList cs, after)

/-- A tag handle: an exclamation mark alone before a space, or a word between two of them. -/
def readTagHandle (c : Cursor) : Except Fault (String × Cursor) :=
  if c.peek ≠ '!' then .error .malformed
  else if c.peekAt 1 = ' ' then .ok ("!", c.next)
  else
    let (word, after) := c.next.span isWordChar
    if after.peek = '!' then .ok (String.ofList ('!' :: word ++ ['!']), after.next)
    else .error .malformed

/-- A number of a version directive. -/
def readVersionNumber (c : Cursor) : Except Fault (Nat × Cursor) :=
  match c.span fun ch => '0' ≤ ch && ch ≤ '9' with
  | ([], _) => .error .malformed
  | (digits, after) =>
    if digitLimit < digits.length then .error (.conversion (.tooManyDigits digits.length))
    else .ok (digits.foldl (fun n d => n * 10 + (d.toNat - '0'.toNat)) 0, after)

/-- The content of a directive by its name. -/
def readDirectiveContent (name : String) (c : Cursor) : Except Fault (Token × Cursor) := do
  if name = "YAML" then
    let (major, afterMajor) ← readVersionNumber c.skipSpaces
    unless afterMajor.peek = '.' do throw .malformed
    let (minor, after) ← readVersionNumber afterMajor.next
    unless isSpaceOrEnd after.peek do throw .malformed
    return (.version major minor, after)
  else if name = "TAG" then
    let (handle, afterHandle) ← readTagHandle c.skipSpaces
    unless afterHandle.peek = ' ' do throw .malformed
    let (start, after) ← readTagText afterHandle.skipSpaces
    unless isSpaceOrEnd after.peek do throw .malformed
    return (.tagHandle handle start, after)
  else return (.otherDirective, c.skipWhile (!isBreak ·))

/-- Reads a directive from its percent sign, with the rest of its line. -/
def readDirective (c : Cursor) : Except Fault (Token × Cursor) := do
  let (name, afterName) := c.next.span isWordChar
  if name.isEmpty ∨ isSpaceOrEnd afterName.peek = false then throw .malformed
  let (token, afterContent) ← readDirectiveContent (String.ofList name) afterName
  let last := afterContent.skipComment
  unless isBreakOrEnd last.peek do throw .malformed
  return (token, last.skipBreak)

/-- Reads the name of an anchor or alias from its indicator. -/
def readAnchorName (c : Cursor) : Except Fault (String × Cursor) :=
  let (name, after) := c.next.span isWordChar
  if name.isEmpty then .error .malformed
  else if isGap after.peek || "?:,]\x7d%@\x60".toList.contains after.peek then
    .ok (String.ofList name, after)
  else .error .malformed

/-- Whether a second exclamation mark ends the handle of a tag; `cs` follows the first one. -/
def hasHandle (cs : List Char) : Bool :=
  (cs.takeWhile fun c => !isSpaceOrEnd c).contains '!'

/-- Reads a tag from its exclamation mark. -/
def readTag (c : Cursor) : Except Fault (Token × Cursor) := do
  let (token, after) ←
    if c.peekAt 1 = '<' then do
      let (suffix, after) ← readTagText (c.skip 2)
      unless after.peek = '>' do throw .malformed
      pure (Token.tag none suffix, after.next)
    else if isGap (c.peekAt 1) then pure (Token.tag none "!", c.next)
    else if hasHandle c.next.rest then do
      let (handle, afterHandle) ← readTagHandle c
      let (suffix, after) ← readTagText afterHandle
      pure (Token.tag (some handle) suffix, after)
    else do
      let (suffix, after) ← readTagText c.next
      pure (Token.tag (some "!") suffix, after)
  unless isSpaceOrEnd after.peek do throw .malformed
  return (token, after)

/-! ## Cutting -/

namespace Cutting

/-- Puts a token in front of the last `after` ones. -/
def insert (s : Cutting) (after : Nat) (t : Token) : Cutting :=
  { s with tokens := s.tokens.insertIdx after t, count := s.count + 1 }

/-- Adds a token and goes on at a place. -/
def push (s : Cutting) (t : Token) (place : Cursor) : Cutting :=
  { s.insert 0 t with cursor := place }

/-- Allows or forbids keys. -/
def allowKeys (s : Cutting) (allowed : Bool) : Cutting := { s with keyAllowed := allowed }

/-- Forgets the candidate of this depth; it must not have been a required key. -/
def dropCandidate (s : Cutting) : Except Fault Cutting :=
  if s.candidates.any fun k => k.depth == s.depth && k.required then .error .malformed
  else .ok { s with candidates := s.candidates.filter (·.depth != s.depth) }

/-- Remembers that the next token could be a key. -/
def markCandidate (s : Cutting) : Except Fault Cutting :=
  if s.keyAllowed then do
    let s ← s.dropCandidate
    let c := s.cursor
    return { s with candidates :=
      ⟨s.depth, s.count, s.depth == 0 && s.indent == c.column, c.index, c.line, c.column⟩
        :: s.candidates }
  else .ok s

/-- Forgets the candidates that lie on an earlier line or too far back. -/
def dropStale (s : Cutting) : Except Fault Cutting :=
  let stale (k : KeyCandidate) : Bool :=
    k.line != s.cursor.line || decide (1024 < s.cursor.index - k.index)
  if s.candidates.any fun k => stale k && k.required then .error .malformed
  else .ok { s with candidates := s.candidates.filter (!stale ·) }

/-- Closes the block collections that are indented further than a column. -/
def closeBlocks (s : Cutting) (column : Int) : Cutting :=
  if s.depth = 0 then close s.indent s.outer s else s
where
  /-- Closes them one by one, innermost first. -/
  close (indent : Int) : List Int → Cutting → Cutting
    | [], s => { s with indent, outer := [] }
    | next :: outer, s =>
      if column < indent then close next outer (s.insert 0 .blockEnd)
      else { s with indent, outer := next :: outer }

/-- Opens a block collection at a column unless the innermost one is already there: the token that
opens it goes in front of the last `after` tokens. -/
def openBlock (s : Cutting) (column : Nat) (t : Token) (after : Nat) : Cutting :=
  if s.depth = 0 ∧ s.indent < column then
    { s.insert after t with outer := s.indent :: s.outer, indent := column }
  else s

/-- The place of the next token. A line break outside flow collections allows keys again. -/
def skipToToken : Nat → Cutting → Cutting
  | 0, s => s
  | fuel + 1, s =>
    let c := s.cursor.skipComment
    match c.lineBreak? with
    | some (_, after) =>
      skipToToken fuel { s with cursor := after, keyAllowed := s.keyAllowed || s.depth == 0 }
    | none => { s with cursor := c }

/-- A directive or document marker: closes everything before it. -/
def closeDocument (s : Cutting) : Except Fault Cutting :=
  return (← (s.closeBlocks (-1)).dropCandidate).allowKeys false

/-- The start of a flow collection, which may itself be a key. -/
def openFlow (s : Cutting) (t : Token) : Except Fault Cutting := do
  let s ← s.markCandidate
  return { s.push t s.cursor.next with depth := s.depth + 1, keyAllowed := true }

/-- The end of a flow collection. -/
def closeFlow (s : Cutting) (t : Token) : Except Fault Cutting := do
  if s.depth = 0 then throw .malformed
  let s ← s.dropCandidate
  return { s.push t s.cursor.next with depth := s.depth - 1, keyAllowed := false }

/-- A comma. -/
def flowEntry (s : Cutting) : Except Fault Cutting :=
  return (← s.dropCandidate).allowKeys true |>.push .flowEntry s.cursor.next

/-- A dash. -/
def blockEntry (s : Cutting) : Except Fault Cutting := do
  if s.depth = 0 ∧ s.keyAllowed = false then throw .malformed
  let s ← (s.openBlock s.cursor.column .blockSequenceStart 0).dropCandidate
  return (s.allowKeys true).push .blockEntry s.cursor.next

/-- A question mark. -/
def complexKey (s : Cutting) : Except Fault Cutting := do
  if s.depth = 0 ∧ s.keyAllowed = false then throw .malformed
  let s ← (s.openBlock s.cursor.column .blockMappingStart 0).dropCandidate
  return (s.allowKeys (s.depth == 0)).push .key s.cursor.next

/-- A colon: the value of the candidate of this depth, if there is one, else of a complex key. -/
def mappingValue (s : Cutting) : Except Fault Cutting :=
  match s.candidates.find? (·.depth == s.depth) with
  | some k =>
    let after := s.count - k.number
    let s := { s.insert after .key with candidates := s.candidates.filter (·.depth != s.depth) }
    let s := s.openBlock k.column .blockMappingStart (after + 1)
    .ok ((s.allowKeys false).push .value s.cursor.next)
  | none => do
    if s.depth = 0 ∧ s.keyAllowed = false then throw .malformed
    let s ← (s.openBlock s.cursor.column .blockMappingStart 0).dropCandidate
    return (s.allowKeys (s.depth == 0)).push .value s.cursor.next

/-- A token that may be a key and after which none may start. -/
def property (s : Cutting) (read : Cursor → Except Fault (Token × Cursor)) :
    Except Fault Cutting := do
  let s ← s.markCandidate
  let (t, after) ← read s.cursor
  return (s.allowKeys false).push t after

/-- A plain scalar; a line break after it allows keys again. -/
def plainScalar (s : Cutting) : Except Fault Cutting := do
  let s ← s.markCandidate
  let (text, breaks, after) := readPlain (s.depth != 0) (s.indent + 1) s.cursor
  return (s.allowKeys breaks).push (.scalar true text) after

/-- A block scalar, after which a key may start. -/
def blockScalar (s : Cutting) (folded : Bool) : Except Fault Cutting := do
  let s ← s.dropCandidate
  let (text, after) ← readBlock folded s.indent s.cursor
  return (s.allowKeys true).push (.scalar false text) after

/-- Whether a plain scalar starts here. -/
def startsPlain (s : Cutting) : Bool :=
  let c := s.cursor
  (!isGap c.peek && !"-?:,[]\x7b\x7d#&*!|>'\"%@\x60".toList.contains c.peek)
    || (!isGap (c.peekAt 1) && (c.peek = '-' || (s.depth == 0 && "?:".toList.contains c.peek)))

/-- Cuts the token that starts here. -/
def cut (s : Cutting) : Except Fault Cutting :=
  let c := s.cursor
  let gapFollows := isGap (c.peekAt 1)
  let quotedScalar (double : Bool) :=
    s.property fun c => (readQuoted double c).map fun (text, after) => (.scalar false text, after)
  if c.column = 0 ∧ c.peek = '%' then do
    let s ← s.closeDocument
    let (t, after) ← readDirective c
    return s.push t after
  else if c.column = 0 ∧ c.isMarker ['-', '-', '-'] then
    return (← s.closeDocument).push .documentStart (c.skip 3)
  else if c.column = 0 ∧ c.isMarker ['.', '.', '.'] then
    return (← s.closeDocument).push .documentEnd (c.skip 3)
  else match c.peek with
    | '[' => s.openFlow .flowSequenceStart
    | '\x7b' => s.openFlow .flowMappingStart
    | ']' => s.closeFlow .flowSequenceEnd
    | '\x7d' => s.closeFlow .flowMappingEnd
    | ',' => s.flowEntry
    | '*' => s.property fun c => (readAnchorName c).map fun (name, after) => (.alias name, after)
    | '&' => s.property fun c => (readAnchorName c).map fun (name, after) => (.anchor name, after)
    | '!' => s.property readTag
    | '\'' => quotedScalar false
    | '"' => quotedScalar true
    | ch =>
      if ch = '-' ∧ gapFollows then s.blockEntry
      else if ch = '?' ∧ (s.depth ≠ 0 ∨ gapFollows) then s.complexKey
      else if ch = ':' ∧ (s.depth ≠ 0 ∨ gapFollows) then s.mappingValue
      else if ch = '|' ∧ s.depth = 0 then s.blockScalar false
      else if ch = '>' ∧ s.depth = 0 then s.blockScalar true
      else if s.startsPlain then s.plainScalar
      else .error .malformed

/-- Closes everything at the end of the text. -/
def finish (s : Cutting) : Except Fault Cutting := do
  let s ← s.closeDocument
  return { s.push .streamEnd s.cursor with candidates := [], finished := true }

/-- Goes to the next token and cuts it, with the ends of the block collections before it. -/
def advance (s : Cutting) : Except Fault Cutting := do
  let s ← (skipToToken s.cursor.fuel s).dropStale
  let s := s.closeBlocks s.cursor.column
  if s.cursor.rest.isEmpty then s.finish else s.cut

/-- Whether the text has to be cut further before the next token can be given: there is none yet, or
it could still turn out to be a key. -/
def isPending (s : Cutting) : Bool :=
  !s.finished && (s.count ≤ s.given || s.candidates.any (·.number == s.given))

/-- The tokens that have been given, and the fault that keeps the others back. -/
def stopped (s : Cutting) (fault : Fault) : List Token :=
  s.tokens.reverse.take s.given ++ [.stop fault]

/-- The tokens of the text. Each is given as soon as it is certain, so that those in front of a
fault are there unless the fault had to be met to make them certain. -/
def giveAll : Nat → Cutting → List Token
  | 0, s => s.stopped .malformed
  | fuel + 1, s =>
    if s.finished then s.tokens.reverse
    else match s.dropStale with
      | .error fault => s.stopped fault
      | .ok s =>
        if s.isPending then match s.advance with
          | .error fault => s.stopped fault
          | .ok s => giveAll fuel s
        else giveAll fuel { s with given := s.given + 1 }

end Cutting

/-- A character that a YAML text may hold. -/
def isTextChar (c : Char) : Bool :=
  let n := c.toNat
  n == 9 || n == 10 || n == 13 || (0x20 ≤ n && n ≤ 0x7e) || n == 0x85
    || (0xa0 ≤ n && n ≤ 0xfffd) || 0x10000 ≤ n

/-- The tokens of a text. A byte order mark in front of it is no part of it. Cutting takes at least
one character and adds at most four tokens at a time, the ends of block collections apart, of which
there are no more than starts. -/
def Token.ofText (cs : List Char) : List Token :=
  if cs.all isTextChar then
    let start := Cursor.ofText cs
    let start := if cs.head? = some '\ufeff' then start.next else start
    Cutting.giveAll (8 * cs.length + 8) { cursor := start }
  else [.stop .malformed]

end ServiceFlow.Yaml
