import ServiceFlow.Value

/-!
# Members of sets

A set of numbers shows its members in the order of their places in a table, whose size is a power of
two that leaves room. A member wants the place that its number leaves when divided by the size, and
takes the next free one when another member is there. Members that are no numbers have no place of
their own; a set that holds one shows its members in the order in which they were added.
-/

namespace ServiceFlow

/-- The prime by which numbers are reduced before they are given a place. -/
def placePrime : Nat := 1 <<< 61 - 1

/-- The remainder of `m * 2 ^ e` for the prime, with the sign of `m`. Powers of two repeat after 61
steps. -/
def reduced (m e : Int) : Int :=
  let rest : Int := (m.natAbs <<< (e % 61).toNat % placePrime : Nat)
  let signed := if m < 0 then -rest else rest
  if signed = -1 then -2 else signed

/-- The number that decides the place of a member. -/
def Scalar.placeNumber? : Scalar → Option Int
  | .float x => match x.magnitude with
    | .infinite => some (if x.isNegative then -314159 else 314159)
    | _ => (Scalar.float x).number?.map fun (m, e) => reduced m e
  | s => s.number?.map fun (m, e) => reduced m e

namespace SetTable

/-- The size of the table for a number of members. -/
def size (count : Nat) : Nat :=
  if count < 5 then 8 else 1 <<< ((2 * count).log2 + 1)

/-- The first free place from one on, among it and the nine after it if these are in the table. -/
def freeNear? (table : Array (Option Scalar)) (place : Nat) : Option Nat :=
  let last := if place + 9 < table.size then place + 9 else place
  (List.range' place (last + 1 - place)).find? fun i => (table.getD i none).isNone

/-- The place for a member: near the one that it wants, else near others that its number leads to.
The number counts in two's complement with 64 bits, of which each round uses five more. -/
def place : Nat → Array (Option Scalar) → Nat → Nat → Nat
  | 0, _, wanted, _ => wanted
  | fuel + 1, table, wanted, number =>
    match freeNear? table wanted with
    | some i => i
    | none =>
      let number := number / 32
      place fuel table ((wanted * 5 + 1 + number) % table.size) number

/-- The table with a member added. -/
def add (table : Array (Option Scalar)) (member : Scalar × Int) : Array (Option Scalar) :=
  let number := (member.2 % 0x10000000000000000).toNat
  let i := place (table.size + 13) table (number % table.size) number
  table.setIfInBounds i (some member.1)

end SetTable

/-- The members of a set in the order in which it shows them; no two of them are the same. -/
def arrangeMembers (members : List Scalar) : List Scalar :=
  match members.mapM fun s => s.placeNumber?.map (s, ·) with
  | some numbered =>
    let empty := Array.replicate (SetTable.size members.length) none
    (numbered.foldl SetTable.add empty).toList.filterMap id
  | none => members

end ServiceFlow
