import ServiceFlow.Yaml.Tag

/-!
# Nodes of YAML texts

The nodes of a text are scalars, sequences and mappings. They are numbered in the order in which
they start, and a collection names its parts by their numbers: a node with an alias is a part in
more than one place, and a collection can be a part of itself.
-/

namespace ServiceFlow.Yaml

/-- What a node is made of. -/
inductive Content where
  | scalar (text : String)
  | sequence (items : List Nat)
  | mapping (entries : List (Nat × Nat))
  deriving DecidableEq, Repr

/-- A node of a text. -/
structure Node where
  tag : Tag
  content : Content
  deriving DecidableEq, Repr

/-- A node that is not written is null. -/
def Node.empty : Node := ⟨.null, .scalar ""⟩

/-- The nodes of a text by their numbers. -/
abbrev Nodes := Array Node

namespace Nodes

/-- A node by its number. -/
def node (ns : Nodes) (n : Nat) : Node := ns.getD n .empty

/-- The tag of a node. -/
def tag (ns : Nodes) (n : Nat) : Tag := (ns.node n).tag

/-- The content of a node. -/
def content (ns : Nodes) (n : Nat) : Content := (ns.node n).content

/-- The entries of a mapping. -/
def entries? (ns : Nodes) (n : Nat) : Option (List (Nat × Nat)) :=
  match ns.content n with
  | .mapping entries => some entries
  | _ => none

/-- The nodes with the tag of one changed. -/
def setTag (ns : Nodes) (n : Nat) (tag : Tag) : Nodes := ns.modify n fun node => { node with tag }

/-- The nodes with the content of one changed. -/
def setContent (ns : Nodes) (n : Nat) (content : Content) : Nodes :=
  ns.modify n fun node => { node with content }

/-- The number of merge keys in all mappings. -/
def mergeKeys (ns : Nodes) : Nat :=
  ns.foldl (fun count node => match node.content with
    | .mapping entries => count + entries.countP fun e => ns.tag e.1 == .merge
    | _ => count) 0

end Nodes

end ServiceFlow.Yaml
