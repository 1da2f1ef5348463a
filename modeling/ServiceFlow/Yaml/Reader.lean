import ServiceFlow.Value.Members
import ServiceFlow.Yaml.Document
import ServiceFlow.Yaml.Grammar
import ServiceFlow.Yaml.Merge

/-!
# Reading YAML

The document of a text is built from its nodes. A scalar is read as soon as it is met; a collection
is first there without parts and filled in when its turn comes, in the order in which the
collections are met. Faults in what lies less deep are therefore met first, and a node that is met
again is the same item again.

Of several entries of a mapping with one key the last gives the value and the first the place. Keys
have to be scalars. What merge keys and the key `=` do to a mapping is seen by everything that looks
at it later.
-/

namespace ServiceFlow.Yaml

/-- Where building a document stands. -/
structure Construction where
  nodes : Nodes
  /-- The items of the nodes that have been met. -/
  items : Array (Option Item)
  collections : Array Parts
  /-- The collections that are still to be filled in, the last one first. -/
  waiting : List Nat := []
  /-- The number of merge keys of the text. -/
  mergeKeys : Nat

/-- A step of building a document. -/
abbrev Build := StateT Construction (Except Fault)

/-- A key of a mapping. A number that is none is the same key only if it comes from the same place.
-/
structure Key where
  scalar : Scalar
  /-- The node of the key and one more, or zero for the number that is none by its own name. -/
  origin : Nat

/-- Whether a scalar is the number that is none. -/
def isNaN : Scalar → Bool
  | .float x => x.magnitude == .notANumber
  | _ => false

/-- Whether two keys are the same. -/
def Key.same (a b : Key) : Bool :=
  if isNaN a.scalar && isNaN b.scalar then a.origin == b.origin else a.scalar.same b.scalar

/-- The text of a node that is read as a scalar: that of the node, or that of the entry `=` of a
mapping. -/
def Nodes.scalarText? (ns : Nodes) : Nat → Nat → Option String
  | 0, _ => none
  | fuel + 1, n => match ns.content n with
    | .scalar text => some text
    | .sequence _ => none
    | .mapping entries => match entries.find? fun e => ns.tag e.1 == .value with
      | some (_, value) => ns.scalarText? fuel value
      | none => none

/-- The text of a node that is read as a scalar. -/
def Nodes.text? (ns : Nodes) (n : Nat) : Option String := ns.scalarText? (ns.size + 1) n

/-- The scalar of a node by its tag. A timestamp has to be written in one piece. -/
def Nodes.toScalar (ns : Nodes) (n : Nat) : Except Fault Scalar :=
  match ns.text? n with
  | none => .error .malformed
  | some text => match ns.tag n, ns.content n with
    | .timestamp, .mapping _ => .error (.conversion .timestampInParts)
    | tag, _ => tag.toScalar text

/-- A collection without parts, for the tag of a collection. -/
def Tag.emptyParts? : Tag → Option Parts
  | .sequence | .orderedMap | .pairs => some (.list [])
  | .mapping => some (.map [])
  | .set => some (.set [])
  | _ => none

namespace Build

/-- The item of a node. -/
def item (n : Nat) : Build Item := do
  let s ← get
  match s.items.getD n none with
  | some item => return item
  | none => match (s.nodes.tag n).emptyParts? with
    | some parts => do
      let item := Item.collection n
      set { s with
        items := s.items.setIfInBounds n item
        collections := s.collections.setIfInBounds n parts
        waiting := n :: s.waiting }
      return item
    | none => do
      let item := Item.scalar (← s.nodes.toScalar n)
      set { s with items := s.items.setIfInBounds n item }
      return item

/-- The key of a node, which has to be a scalar. -/
def key (n : Nat) : Build Key := do
  match ← item n with
  | .scalar s => do
    let named := ((← get).nodes.text? n).any fun text => isNamedNaN text.toList
    return ⟨s, if isNaN s && named then 0 else n + 1⟩
  | _ => throw .malformed

/-- The entries of a mapping, after it has taken over those that its merge keys name. -/
def entries (n : Nat) : Build (List (Scalar × Item)) := do
  let s ← get
  let nodes ← s.nodes.flatten s.mergeKeys n
  set { s with nodes }
  match nodes.entries? n with
  | none => throw .malformed
  | some parts => do
    let table ← parts.foldlM (fun table (k, v) => do
      let key ← key k
      return Table.insert Key.same key (← item v) table) []
    return table.map fun (key, item) => (key.scalar, item)

/-- The pair that a mapping with a single entry is. -/
def pair (n : Nat) : Build Item := do
  match (← get).nodes.entries? n with
  | some [(k, v)] => do
    let first ← item k
    let second ← item v
    modifyGet fun s => (.collection s.collections.size,
      { s with collections := s.collections.push (.pair first second) })
  | _ => throw .malformed

/-- The parts of a collection by its tag. -/
def parts (n : Nat) : Build Parts := do
  let ns := (← get).nodes
  match ns.tag n, ns.content n with
  | .sequence, .sequence items => return .list (← items.mapM item)
  | .orderedMap, .sequence items | .pairs, .sequence items => return .list (← items.mapM pair)
  | .mapping, .mapping _ => return .map (← entries n)
  | .set, .mapping _ => return .set (arrangeMembers ((← entries n).map (·.1)))
  | _, _ => throw .malformed

/-- Fills in a collection. -/
def fill (n : Nat) : Build Unit := do
  let parts ← parts n
  modify fun s => { s with collections := s.collections.setIfInBounds n parts }

/-- Fills in collections, and then those that were met on the way. -/
def fillAll : Nat → List Nat → Build Unit
  | 0, _ => return
  | fuel + 1, n :: rest => do
    fill n
    fillAll fuel rest
  | fuel + 1, [] => do
    match (← get).waiting with
    | [] => return
    | met => do
      modify fun s => { s with waiting := [] }
      fillAll fuel met.reverse

/-- Builds the document of a node. Each collection is filled in once, and each turn but the last
fills in one. -/
def document (root : Nat) : Build Document := do
  let item ← item root
  fillAll (2 * (← get).nodes.size + 2) []
  return { root := item, collections := (← get).collections }

end Build

/-- The document of a node of a text. -/
def Document.ofNodes (ns : Nodes) (root : Nat) : Except Fault Document :=
  (Build.document root).run'
    { nodes := ns
      items := Array.replicate ns.size none
      collections := Array.replicate ns.size (.list [])
      mergeKeys := ns.mergeKeys }

/-- The document of a YAML text. -/
def read (s : String) : Except Fault Document := do
  match ← Nodes.ofText s.toList with
  | (_, none) => return .empty
  | (ns, some root) => Document.ofNodes ns root

end ServiceFlow.Yaml
