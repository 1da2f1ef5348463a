import ServiceFlow.Json.Fault
import ServiceFlow.Text.Hex
import ServiceFlow.Text.Utf16

/-!
# Texts in JSON

A text stands in double quotes. Writing escapes everything outside the printable ASCII range by
UTF-16 units, so a character beyond the first plane takes two escapes; reading joins such a pair
again.
-/

namespace ServiceFlow.Json

/-- The character of a short escape. -/
def shortEscape? : Char → Option Char
  | '"' => some '"'
  | '\\' => some '\\'
  | '/' => some '/'
  | 'b' => some '\x08'
  | 'f' => some '\x0c'
  | 'n' => some '\n'
  | 'r' => some '\r'
  | 't' => some '\t'
  | _ => none

/-- Reads the parts of a text after its opening quote; `opening` is the text from that quote on. -/
def readPieces (opening : List Char) : List Char → Except Stop (List Text.Piece × List Char)
  | [] => .error ⟨.unterminatedText, opening⟩
  | '"' :: rest => .ok ([], rest)
  | '\\' :: [] => .error ⟨.unterminatedText, opening⟩
  | '\\' :: 'u' :: a :: b :: c :: d :: rest =>
    match Text.hexNumber? [a, b, c, d], rest with
    | some n, _ :: _ => do
      let (pieces, after) ← readPieces opening rest
      return (.unit n :: pieces, after)
    | _, _ => .error ⟨.badUnicodeEscape, 'u' :: a :: b :: c :: d :: rest⟩
  | '\\' :: 'u' :: rest => .error ⟨.badUnicodeEscape, 'u' :: rest⟩
  | '\\' :: e :: rest =>
    match shortEscape? e with
    | some c => do
      let (pieces, after) ← readPieces opening rest
      return (.char c :: pieces, after)
    | none => .error ⟨.badEscape, '\\' :: e :: rest⟩
  | c :: rest =>
    if c < ' ' then .error ⟨.controlCharacter, c :: rest⟩
    else do
      let (pieces, after) ← readPieces opening rest
      return (.char c :: pieces, after)

/-- Reads a text after its opening quote. -/
def readText (rest : List Char) : Except Stop (String × List Char) := do
  let (pieces, after) ← readPieces ('"' :: rest) rest
  return (String.ofList (Text.joinPieces pieces), after)

/-- An escaped UTF-16 unit. -/
def writeUnit (n : Nat) : List Char := '\\' :: 'u' :: Text.hex 4 n

/-- One character of a written text. -/
def writeChar (c : Char) : List Char :=
  if c = '"' then ['\\', '"']
  else if c = '\\' then ['\\', '\\']
  else if c = '\n' then ['\\', 'n']
  else if c = '\r' then ['\\', 'r']
  else if c = '\t' then ['\\', 't']
  else if c = '\x08' then ['\\', 'b']
  else if c = '\x0c' then ['\\', 'f']
  else if ' ' ≤ c ∧ c ≤ '~' then [c]
  else if c.toNat < 0x10000 then writeUnit c.toNat
  else
    writeUnit (0xd800 + (c.toNat - 0x10000) / 0x400)
      ++ writeUnit (0xdc00 + (c.toNat - 0x10000) % 0x400)

/-- A written text. -/
def writeText (s : String) : List Char := '"' :: s.toList.flatMap writeChar ++ ['"']

end ServiceFlow.Json
