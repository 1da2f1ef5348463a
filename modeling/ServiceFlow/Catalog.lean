import ServiceFlow.Graph
import ServiceFlow.Table

/-!
# Catalogues

A catalogue gives every node type its kind and names the types of which a graph has at most one
node. A type that it does not list is a service. Classifying a graph fills in the kinds that are
unset and changes no other.
-/

namespace ServiceFlow

/-- A list of names without repetition, in the order of their characters. -/
def sortedNames (names : List String) : List String :=
  names.foldr insertName []
where
  /-- Puts a name into its place unless it is there. -/
  insertName (name : String) : List String → List String
    | [] => [name]
    | other :: rest =>
      if name < other then name :: other :: rest
      else if name = other then other :: rest
      else other :: insertName name rest

/-- The kinds of types, and the types that occur once. -/
structure Catalog where
  /-- The types that have a kind of their own, each once. -/
  kinds : List (String × NodeKind)
  /-- The types of which there is at most one node, in order. -/
  singleInstance : List String
  deriving DecidableEq, Repr

namespace Catalog

/-- The types that every catalogue starts with. -/
def defaultKinds : List (String × NodeKind) :=
  [("StartNode", .entry), ("EndNode", .terminal), ("DescriptionBox", .note),
    ("TextNode", .note), ("ConditionalLogic", .branch), ("Condition", .branch)] ++
  ["WebApp", "IDV", "Media", "PII", "POA", "AnyDoc", "AgeEstimation", "Liveness", "FaceCompare",
    "OBI", "AML", "KYB"].map (·, .service)

/-- The catalogue that holds unless it is overridden. -/
def default : Catalog := ⟨defaultKinds, ["WebApp"]⟩

instance : Inhabited Catalog := ⟨default⟩

/-- The kind of a type. -/
def kindOf (c : Catalog) (type : String) : NodeKind :=
  (Table.find? (· == ·) type c.kinds).getD .service

/-- The catalogue with one type's kind set. -/
def setKind (c : Catalog) (type : String) (kind : NodeKind) : Catalog :=
  { c with kinds := Table.insert (· == ·) type kind c.kinds }

/-- The node with its kind filled in. -/
def classify (c : Catalog) (n : Node) : Node :=
  { n with kind := some (n.kind.getD (c.kindOf n.type)) }

/-- The graph with all kinds filled in. -/
def classifyGraph (c : Catalog) (g : Graph) : Graph := { g with nodes := g.nodes.map c.classify }

/-- A type whose kind has just been set has that kind. -/
theorem kindOf_setKind_self (c : Catalog) (type : String) (kind : NodeKind) :
    (c.setKind type kind).kindOf type = kind := by
  simp [kindOf, setKind, Table.find?_insert_self]

/-- Setting the kind of one type leaves the others alone. -/
theorem kindOf_setKind_of_ne (c : Catalog) {type other : String} (h : type ≠ other)
    (kind : NodeKind) : (c.setKind type kind).kindOf other = c.kindOf other := by
  unfold kindOf setKind
  rw [Table.find?_insert_of_ne _ (by simp_all) (by simpa using h)]

/-- Classifying keeps all of a node but its kind, which is then set. -/
@[simp] theorem classify_id (c : Catalog) (n : Node) : (c.classify n).id = n.id := rfl

@[simp] theorem classify_type (c : Catalog) (n : Node) : (c.classify n).type = n.type := rfl

@[simp] theorem classifyGraph_edges (c : Catalog) (g : Graph) :
    (c.classifyGraph g).edges = g.edges := rfl

end Catalog

end ServiceFlow
