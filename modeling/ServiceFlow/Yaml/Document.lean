import ServiceFlow.Value.Display
import ServiceFlow.Yaml.Fault

/-!
# YAML documents

A document is a root and the collections that can be reached from it. A collection can be a part of
several others and of itself, so a document is no tree; it is made into values in two ways.
Unfolding shows it down to a given depth, and expanding shows all of an item, but no collection once
more inside itself.
-/

namespace ServiceFlow.Yaml

/-- A part of a document: a scalar, or a collection by its number. -/
inductive Item where
  | scalar (s : Scalar)
  | collection (n : Nat)
  deriving DecidableEq, Repr

/-- The parts of a collection. -/
inductive Parts where
  | list (items : List Item)
  | map (entries : List (Scalar × Item))
  | pair (first second : Item)
  | set (members : List Scalar)
  deriving DecidableEq, Repr

/-- A document. -/
structure Document where
  root : Item
  /-- The parts of the collections by their numbers. -/
  collections : Array Parts := #[]

/-- The document of an empty text. -/
def Document.empty : Document := { root := .scalar .null }

namespace Parts

/-- A collection that is not shown. -/
def folded : Parts → Value
  | list _ => .foldedList
  | map _ => .foldedMap
  | pair _ _ => .foldedPair
  | set members => .set members

/-- The value of a collection, from the values of its items. -/
def value (item : Item → Value) : Parts → Value
  | list items => .list (items.map item)
  | map entries => .map (entries.map fun (k, i) => (k, item i))
  | pair first second => .pair (item first) (item second)
  | set members => .set members

/-- A collection without parts stands for nothing. -/
def isEmpty : Parts → Bool
  | list items => items.isEmpty
  | map entries => entries.isEmpty
  | pair _ _ => false
  | set members => members.isEmpty

end Parts

/-- The value of an item, from the values of the collections. -/
def Item.value (shown : Nat → Value) : Item → Value
  | scalar s => .scalar s
  | collection n => shown n

namespace Document

/-- The parts of a collection. -/
def parts (d : Document) (n : Nat) : Parts := d.collections.getD n (.list [])

/-- The values of all collections, shown a given number of levels down. -/
def levels (d : Document) : Nat → Array Value
  | 0 => d.collections.map Parts.folded
  | depth + 1 =>
    let inner := d.levels depth
    d.collections.map (Parts.value (Item.value fun n => inner.getD n .foldedList))

/-- The document as a value, shown a given number of levels down. -/
def unfold (d : Document) (depth : Nat) : Value :=
  let shown := d.levels depth
  d.root.value fun n => shown.getD n .foldedList

/-- A collection shown in full, inside the collections `around` it. -/
def expandCollection (d : Document) : Nat → List Nat → Nat → Value
  | 0, _, n => (d.parts n).folded
  | fuel + 1, around, n =>
    if around.contains n then (d.parts n).folded
    else (d.parts n).value (Item.value (d.expandCollection fuel (n :: around)))

/-- An item shown in full. No collection lies within more others than there are. -/
def expand (d : Document) (item : Item) : Value :=
  item.value (d.expandCollection d.collections.size [])

/-- The items of a list. -/
def list? (d : Document) : Item → Option (List Item)
  | .collection n => match d.parts n with
    | .list items => some items
    | _ => none
  | _ => none

end Document

end ServiceFlow.Yaml
