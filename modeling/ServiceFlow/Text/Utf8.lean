import ServiceFlow.Text.Hex

/-!
# UTF-8

Bytes are read strictly: overlong forms, surrogates and code points beyond the last are refused. A
fault names the span of bytes at which reading stopped: the lead byte alone when it can start no
character, or the longest beginning of a character that is still valid.
-/

namespace ServiceFlow.Text

/-- Why bytes are not UTF-8. -/
inductive Utf8Cause where
  | invalidStart
  | invalidContinuation
  | unexpectedEnd
  deriving DecidableEq, Repr

/-- A fault in bytes that should be UTF-8: where it starts, and the bytes it spans. -/
structure Utf8Fault where
  /-- The number of bytes before the fault. -/
  start : Nat
  span : List UInt8
  cause : Utf8Cause
  deriving DecidableEq, Repr

namespace Utf8

/-- A byte that continues a character. -/
def isContinuation (b : UInt8) : Bool := 0x80 ≤ b && b < 0xc0

/-- Whether `b` may be the second byte of a character that starts with `lead`. -/
def isSecond (lead b : UInt8) : Bool :=
  isContinuation b &&
    (if lead == 0xe0 then 0xa0 ≤ b else if lead == 0xed then b < 0xa0
     else if lead == 0xf0 then 0x90 ≤ b else if lead == 0xf4 then b < 0x90 else true)

/-- How many bytes follow a lead byte of a character of more than one byte. -/
def followers? (lead : UInt8) : Option Nat :=
  if 0xc2 ≤ lead && lead < 0xe0 then some 1
  else if 0xe0 ≤ lead && lead < 0xf0 then some 2
  else if 0xf0 ≤ lead && lead < 0xf5 then some 3
  else none

/-- The bits that a lead byte of a character of more than one byte contributes. -/
def leadBits (lead : UInt8) : Nat :=
  if lead < 0xe0 then lead.toNat % 0x20 else if lead < 0xf0 then lead.toNat % 0x10
  else lead.toNat % 0x08

/-- The longest valid beginning of the bytes after `lead`, at most `wanted` of them. -/
def validFollowers (lead : UInt8) (wanted : Nat) (rest : List UInt8) : List UInt8 :=
  match rest.take wanted with
  | [] => []
  | second :: others =>
    if isSecond lead second then second :: others.takeWhile isContinuation else []

/-- One character, with the number of bytes it takes, or the span and cause of the fault. -/
def readChar (lead : UInt8) (rest : List UInt8) : Except (List UInt8 × Utf8Cause) (Char × Nat) :=
  if lead < 0x80 then .ok (Char.ofNat lead.toNat, 0)
  else match followers? lead with
    | none => .error ([lead], .invalidStart)
    | some wanted =>
      let found := validFollowers lead wanted rest
      if found.length = wanted then
        let number := found.foldl (fun n b => n * 0x40 + b.toNat % 0x40) (leadBits lead)
        .ok (Char.ofNat number, wanted)
      else .error (lead :: found,
        if found.length = rest.length then .unexpectedEnd else .invalidContinuation)

/-- Reads bytes from position `at` on. -/
def decodeFrom (position : Nat) : List UInt8 → Except Utf8Fault (List Char)
  | [] => .ok []
  | lead :: rest =>
    match readChar lead rest with
    | .error (span, cause) => .error ⟨position, span, cause⟩
    | .ok (c, n) => (decodeFrom (position + 1 + n) (rest.drop n)).map (c :: ·)
  termination_by bytes => bytes.length
  decreasing_by simp only [List.length_drop, List.length_cons]; omega

/-- The text that the bytes spell. -/
def decode (bytes : List UInt8) : Except Utf8Fault String :=
  (decodeFrom 0 bytes).map String.ofList

/-- The bytes that spell a text. -/
def encode (s : String) : List UInt8 := s.toUTF8.toList

end Utf8

/-- What is wrong, in words. -/
def Utf8Cause.message : Utf8Cause → String
  | .invalidStart => "invalid start byte"
  | .invalidContinuation => "invalid continuation byte"
  | .unexpectedEnd => "unexpected end of data"

/-- The fault in words: one byte is shown, of several the positions. -/
def Utf8Fault.message (f : Utf8Fault) : String :=
  let place := match f.span with
    | [b] => s!"byte 0x{String.ofList (hex 2 b.toNat)} in position {f.start}"
    | span => s!"bytes in position {f.start}-{f.start + span.length - 1}"
  s!"'utf-8' codec can't decode {place}: {f.cause.message}"

end ServiceFlow.Text
