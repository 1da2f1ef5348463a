import ServiceFlow.Text.Hex
import ServiceFlow.Text.Printable

/-!
# Quoted text

A text inside a displayed collection stands in single quotes, or in double quotes when it holds a
single quote and no double one. The backslash, the quote in use and every character that does not
print are escaped.
-/

namespace ServiceFlow.Text

/-- The quote for a text that holds the given characters. -/
def quoteFor (cs : List Char) : Char :=
  if cs.contains '\'' && !cs.contains '"' then '"' else '\''

/-- A character that does not print, by its code point. -/
def escapeCode (n : Nat) : List Char :=
  if n < 0x100 then '\\' :: 'x' :: hex 2 n
  else if n < 0x10000 then '\\' :: 'u' :: hex 4 n
  else '\\' :: 'U' :: hex 8 n

/-- One character of a quoted text. -/
def escapeChar (quote c : Char) : List Char :=
  if c = '\\' ∨ c = quote then ['\\', c]
  else if c = '\n' then ['\\', 'n']
  else if c = '\r' then ['\\', 'r']
  else if c = '\t' then ['\\', 't']
  else if isPrintable c then [c]
  else escapeCode c.toNat

/-- A text in quotes. -/
def quoted (s : String) : String :=
  let quote := quoteFor s.toList
  String.ofList (quote :: s.toList.flatMap (escapeChar quote) ++ [quote])

/-- Bytes in quotes, marked with a `b`; a byte outside the printable ASCII range is escaped. -/
def quotedBytes (bytes : List UInt8) : String :=
  let cs := bytes.map fun b => Char.ofNat b.toNat
  let quote := quoteFor cs
  let escape (c : Char) : List Char :=
    if c.toNat < 0x7f then escapeChar quote c else escapeCode c.toNat
  String.ofList ('b' :: quote :: cs.flatMap escape ++ [quote])

end ServiceFlow.Text
