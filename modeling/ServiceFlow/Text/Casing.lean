import ServiceFlow.Text.CaseTable

/-!
# Lower case

Lower-casing works character by character except in two places: the dotted capital I becomes two
characters, and a capital sigma becomes a final sigma when it ends a word, that is when a cased
letter stands before it and none after it, in both directions past the characters that case ignores.
-/

namespace ServiceFlow.Text

/-- The characters that case ignores are passed over; what then follows decides. -/
def meetsCased (cs : List Char) : Bool :=
  match cs.dropWhile fun c => Ranges.contains caseIgnorable c.toNat with
  | [] => false
  | c :: _ => Ranges.contains cased c.toNat

/-- The lower case of a character that has no rule of its own. -/
def lowerChar (c : Char) : Char :=
  match caseRuns.find? (·.covers c.toNat) with
  | some run => Char.ofNat (c.toNat + run.shift).toNat
  | none => c

/-- Lower case of the rest of a text; `before` is what precedes it, last character first. -/
def lowerFrom (before : List Char) : List Char → List Char
  | [] => []
  | c :: rest =>
    let lowered :=
      if c = 'Σ' then [if meetsCased before && !meetsCased rest then 'ς' else 'σ']
      else if c = 'İ' then ['i', '\u0307']
      else [lowerChar c]
    lowered ++ lowerFrom (c :: before) rest

/-- The text in lower case. -/
def lower (s : String) : String := String.ofList (lowerFrom [] s.toList)

end ServiceFlow.Text
