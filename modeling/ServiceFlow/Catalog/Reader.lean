import ServiceFlow.Catalog
import ServiceFlow.Value.Display

/-!
# Reading catalogue overrides

An override is a mapping from the names of kinds to lists of types. A listed type gets that kind and
may be listed once only, under whatever kind; the list `single_instance` names the types that occur
once instead. Whatever is not listed stays as the base has it.

What the items of the lists are is left open: an override is read with a function that gives the
name that an item counts as. A value under a key that is no list is given as `none`.
-/

namespace ServiceFlow

/-- Why an override is refused. -/
inductive CatalogFault where
  | notAMapping
  | notAList (key : String)
  | unknownKind (key : String)
  | listedTwice (type first second : String)
  /-- A name would hold a whole number of too many digits. -/
  | illegible
  deriving DecidableEq, Repr

/-- What is wrong, in words. -/
def CatalogFault.message : CatalogFault → String
  | notAMapping => "Catalog must be a mapping of kind -> list of types"
  | notAList key => s!"Catalog entry '{key}' must be a list of types"
  | unknownKind key => s!"Unknown node kind in catalog: {key}"
  | listedTwice type first second =>
    s!"Type {type} listed under both '{first}' and '{second}'"
  | illegible => illegibleMessage

/-- The kind that a key names. -/
def Scalar.kind? : Scalar → Option NodeKind
  | text s => NodeKind.ofName? s
  | _ => none

/-- The name of a value: the text that displays it. -/
def Value.name (v : Value) : Except CatalogFault String :=
  if v.isLegible then .ok v.display else .error .illegible

namespace Catalog

/-- A catalogue in the making, with the types listed so far and the kind each is listed under. -/
structure Override where
  catalog : Catalog
  listed : List (String × NodeKind) := []
  deriving DecidableEq, Repr

/-- Lists a type under a kind. -/
def Override.list (o : Override) (kind : NodeKind) (type : String) : Except CatalogFault Override :=
  match Table.find? (· == ·) type o.listed with
  | some first => .error (.listedTwice type first.name kind.name)
  | none => .ok ⟨o.catalog.setKind type kind, (type, kind) :: o.listed⟩

/-- The key under which the types stand that occur once. -/
def singleInstanceKey : Scalar := .text "single_instance"

variable {α : Type}

/-- Takes an entry of an override into account. -/
def Override.entry (name : α → Except CatalogFault String) (o : Override) (key : Scalar)
    (types : Option (List α)) : Except CatalogFault Override := do
  match types with
  | none => throw (.notAList (← Value.name (.scalar key)))
  | some items =>
    if key = singleInstanceKey then do
      let names ← items.mapM name
      return { o with catalog := { o.catalog with singleInstance := sortedNames names } }
    else match key.kind? with
      | some kind => items.foldlM (fun o item => do o.list kind (← name item)) o
      | none => throw (.unknownKind (← Value.name (.scalar key)))

/-- The catalogue that the entries of an override make of a base. -/
def override (name : α → Except CatalogFault String) (base : Catalog)
    (entries : List (Scalar × Option (List α))) : Except CatalogFault Catalog :=
  (entries.foldlM (fun o e => Override.entry name o e.1 e.2) ⟨base, []⟩).map (·.catalog)

end Catalog

end ServiceFlow
