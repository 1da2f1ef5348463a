import ServiceFlow.Decimal.DigitLimit
import ServiceFlow.Decimal.Layout
import ServiceFlow.Text.Quoted
import ServiceFlow.Value

/-!
# Display of values

A message names a value in one of two forms. A text, a date or a time stands plain on its own and
quoted inside a collection; every other value looks the same in both places. Only a value whose
whole numbers keep to the limit on digits can be displayed.
-/

namespace ServiceFlow

/-- A scalar on its own. -/
def Scalar.display : Scalar → String
  | .null => "None"
  | .bool true => "True"
  | .bool false => "False"
  | .int n => toString n
  | .float x => x.render
  | .text s => s
  | .bytes bs => Text.quotedBytes bs
  | .date d => d.render
  | .dateTime t => t.render

/-- Whether a scalar can be displayed. -/
def Scalar.isLegible : Scalar → Bool
  | .int n => ServiceFlow.isLegible n
  | _ => true

/-- A scalar inside a collection. -/
def Scalar.quoted : Scalar → String
  | .text s => Text.quoted s
  | .date d => d.quoted
  | .dateTime t => t.quoted
  | s => s.display

namespace Value

/-- Parts between brackets, separated by commas. -/
def bracketed (opening closing : String) (parts : List String) : String :=
  opening ++ String.intercalate ", " parts ++ closing

mutual

/-- A value inside a collection. -/
def quoted : Value → String
  | .scalar s => s.quoted
  | .list items => bracketed "[" "]" (quotedItems items)
  | .map entries => bracketed "\x7b" "\x7d" (quotedEntries entries)
  | .pair first second => bracketed "(" ")" [first.quoted, second.quoted]
  | .set [] => "set()"
  | .set members => bracketed "\x7b" "\x7d" (members.map Scalar.quoted)
  | .foldedList => "[...]"
  | .foldedMap => "\x7b...\x7d"
  | .foldedPair => "(...)"

/-- The values of a list inside a collection. -/
def quotedItems : List Value → List String
  | [] => []
  | v :: rest => v.quoted :: quotedItems rest

/-- The entries of a mapping inside a collection. -/
def quotedEntries : List (Scalar × Value) → List String
  | [] => []
  | (k, v) :: rest => (k.quoted ++ ": " ++ v.quoted) :: quotedEntries rest

end

mutual

/-- Whether a value can be displayed. -/
def isLegible : Value → Bool
  | .scalar s => s.isLegible
  | .list items => itemsAreLegible items
  | .map entries => entriesAreLegible entries
  | .pair first second => first.isLegible && second.isLegible
  | .set members => members.all Scalar.isLegible
  | .foldedList | .foldedMap | .foldedPair => true

/-- Whether all values of a list can be displayed. -/
def itemsAreLegible : List Value → Bool
  | [] => true
  | v :: rest => v.isLegible && itemsAreLegible rest

/-- Whether all entries of a mapping can be displayed. -/
def entriesAreLegible : List (Scalar × Value) → Bool
  | [] => true
  | (k, v) :: rest => k.isLegible && v.isLegible && entriesAreLegible rest

end

/-- A value on its own. -/
def display : Value → String
  | .scalar s => s.display
  | v => v.quoted

end Value

end ServiceFlow
