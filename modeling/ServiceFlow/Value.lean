import ServiceFlow.Calendar
import ServiceFlow.Decimal.Binary64
import ServiceFlow.Table

/-!
# Values of documents

A document read from a text is a value: a scalar, a list, a mapping, or one of the forms that only a
YAML text can give, a set and a pair of an ordered mapping. A collection of a YAML text can hold
itself; a value shows it unfolded some way down and leaves it folded there. The keys of mappings and
the members of sets are scalars.
-/

namespace ServiceFlow

/-- A value without parts. -/
inductive Scalar where
  | null
  | bool (b : Bool)
  | int (n : Int)
  | float (x : Binary64)
  | text (s : String)
  | bytes (bs : List UInt8)
  | date (d : Date)
  | dateTime (t : DateTime)
  deriving DecidableEq, Repr

/-- A value of a document. -/
inductive Value where
  | scalar (s : Scalar)
  | list (items : List Value)
  | map (entries : List (Scalar × Value))
  | pair (first second : Value)
  | set (members : List Scalar)
  /-- A list whose items are not shown. -/
  | foldedList
  /-- A mapping whose entries are not shown. -/
  | foldedMap
  /-- A pair whose two values are not shown. -/
  | foldedPair

namespace Scalar

/-- The number that a scalar counts as, as `m * 2 ^ e`: the truth values count as one and zero. -/
def number? : Scalar → Option (Int × Int)
  | .bool b => some (if b then 1 else 0, 0)
  | .int n => some (n, 0)
  | .float x => match x.magnitude with
    | .finite m e => some (if x.isNegative then -m else m, e)
    | _ => none
  | _ => none

/-- The number `m * 2 ^ e`, measured in units of `2 ^ least`. -/
def measured (m e least : Int) : Int := m * (1 <<< (e - least).toNat : Nat)

/-- Whether two scalars are the same key: numbers are compared by value, times by the moment that
they are, all else by form. -/
def same (a b : Scalar) : Bool :=
  match a.number?, b.number? with
  | some (m, e), some (n, f) => measured m e (min e f) == measured n f (min e f)
  | _, _ => match a, b with
    | .dateTime t, .dateTime u => t.same u
    | _, _ => a == b

/-- Null, false, zero and the empty text stand for nothing. -/
def isTruthy : Scalar → Bool
  | .null => false
  | .bool b => b
  | .int n => n != 0
  | .float x => !x.isZero
  | .text s => s != ""
  | .bytes bs => !bs.isEmpty
  | .date _ | .dateTime _ => true

@[simp] theorem same_text (s t : String) : same (.text s) (.text t) = (s == t) := by
  rw [Bool.eq_iff_iff]
  simp [same, number?]

end Scalar

namespace Value

/-- The null value. -/
@[match_pattern] abbrev null : Value := .scalar .null

/-- A truth value. -/
@[match_pattern] abbrev bool (b : Bool) : Value := .scalar (.bool b)

/-- A whole number. -/
@[match_pattern] abbrev int (n : Int) : Value := .scalar (.int n)

/-- A text. -/
@[match_pattern] abbrev text (s : String) : Value := .scalar (.text s)

/-- The mapping that setting the entries one after the other makes. -/
def ofEntries (entries : List (Scalar × Value)) : Value :=
  .map (Table.ofEntries Scalar.same entries)

/-- A mapping with the given texts as keys, which must differ. -/
def record (fields : List (String × Value)) : Value :=
  .map (fields.map fun (k, v) => (.text k, v))

/-- The entry of a text key among the entries of a mapping. -/
def lookup? (name : String) (entries : List (Scalar × Value)) : Option Value :=
  Table.find? Scalar.same (.text name) entries

/-- An empty collection stands for nothing, and so do the scalars that do. -/
def isTruthy : Value → Bool
  | .scalar s => s.isTruthy
  | .list items => !items.isEmpty
  | .map entries => !entries.isEmpty
  | .pair _ _ => true
  | .set members => !members.isEmpty
  | .foldedList | .foldedMap | .foldedPair => true

@[simp] theorem isTruthy_text (s : String) : isTruthy (.text s) = (s != "") := rfl

/-- Entries with distinct texts as keys make the mapping of these entries. -/
theorem ofEntries_record {fields : List (String × Value)} (h : (fields.map (·.1)).Nodup) :
    ofEntries (fields.map fun f => (.text f.1, f.2)) = record fields := by
  have hkeys : (fields.map fun f => (Scalar.text f.1, f.2)).Pairwise
      fun a b => Scalar.same a.1 b.1 = false := by
    rw [List.pairwise_map]
    refine List.Pairwise.imp ?_ (List.pairwise_map.mp h)
    intro a b hab
    simp [hab]
  rw [ofEntries, Table.ofEntries_of_pairwise _ hkeys]
  rfl

/-- The entry of a text key that stands first is its value. -/
@[simp] theorem lookup?_cons_self (name : String) (v : Value) (rest : List (Scalar × Value)) :
    lookup? name ((.text name, v) :: rest) = some v := by
  simp [lookup?, Table.find?]

/-- An entry of another text key is passed over. -/
theorem lookup?_cons_ne {name other : String} (h : other ≠ name) (v : Value)
    (rest : List (Scalar × Value)) :
    lookup? name ((.text other, v) :: rest) = lookup? name rest := by
  simp [lookup?, Table.find?, h]

@[simp] theorem lookup?_nil (name : String) : lookup? name [] = none := rfl

/-- The first entry of a text key is its value. -/
theorem lookup?_cons (name other : String) (v : Value) (rest : List (Scalar × Value)) :
    lookup? name ((.text other, v) :: rest) =
      if other = name then some v else lookup? name rest := by
  by_cases h : other = name
  · subst h
    simp only [lookup?_cons_self, ite_true]
  · simp only [lookup?_cons_ne h, h, ite_false]

end Value

end ServiceFlow
