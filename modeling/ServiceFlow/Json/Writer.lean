import ServiceFlow.Json.Text
import ServiceFlow.Value.Display

/-!
# Writing JSON

A value is written on one line, or with a line for each item and entry and a fixed indentation for
each level; an empty collection always stays on its line. What JSON has no form for is written as
the text that displays it.
-/

namespace ServiceFlow.Json

/-- A line break and the indentation of a level, or nothing on one line. -/
def lineBreak (indent : Option Nat) (level : Nat) : List Char :=
  match indent with
  | none => []
  | some width => '\n' :: List.replicate (width * level) ' '

/-- What separates two items at a level. -/
def separator (indent : Option Nat) (level : Nat) : List Char :=
  match indent with
  | none => [',', ' ']
  | some _ => ',' :: lineBreak indent level

/-- A double; those that are no numbers are written as words. -/
def writeFloat (x : Binary64) : String :=
  match x.magnitude with
  | .infinite => if x.isNegative then "-Infinity" else "Infinity"
  | .notANumber => "NaN"
  | .finite _ _ => x.render

/-- A scalar. -/
def writeScalar : Scalar → List Char
  | .null => "null".toList
  | .bool b => if b then "true".toList else "false".toList
  | .int n => (toString n).toList
  | .float x => (writeFloat x).toList
  | s => writeText s.display

/-- The name of an entry: a text key as it is, any other scalar as it is written. -/
def writeKey : Scalar → List Char
  | .text s => writeText s
  | s => writeText (String.ofList (writeScalar s))

mutual

/-- A value at a level of nesting. -/
def writeValue (indent : Option Nat) (level : Nat) : Value → List Char
  | .scalar s => writeScalar s
  | .list [] => ['[', ']']
  | .list (v :: rest) =>
    '[' :: lineBreak indent (level + 1) ++ writeValue indent (level + 1) v
      ++ writeItems indent (level + 1) rest ++ lineBreak indent level ++ [']']
  | .map [] => ['\x7b', '\x7d']
  | .map ((k, v) :: rest) =>
    '\x7b' :: lineBreak indent (level + 1) ++ writeKey k ++ ':' :: ' ' ::
      writeValue indent (level + 1) v ++ writeEntries indent (level + 1) rest
      ++ lineBreak indent level ++ ['\x7d']
  | v => writeText v.display

/-- The items of a list after the first. -/
def writeItems (indent : Option Nat) (level : Nat) : List Value → List Char
  | [] => []
  | v :: rest => separator indent level ++ writeValue indent level v ++ writeItems indent level rest

/-- The entries of a mapping after the first. -/
def writeEntries (indent : Option Nat) (level : Nat) : List (Scalar × Value) → List Char
  | [] => []
  | (k, v) :: rest => separator indent level ++ writeKey k ++ ':' :: ' ' ::
      writeValue indent level v ++ writeEntries indent level rest

end

/-- The JSON text of a value. -/
def write (indent : Option Nat) (v : Value) : String := String.ofList (writeValue indent 0 v)

end ServiceFlow.Json
