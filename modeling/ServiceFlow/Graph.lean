import ServiceFlow.Text.Casing

/-!
# Service graphs

A graph is what an editor draws: nodes and edges in the order in which they were drawn. Nodes and
edges refer to each other by id alone, and nothing makes ids unique: looking up a node takes the
first of its id. A node has a kind once a catalogue, or whoever drew it, has given it one.
-/

namespace ServiceFlow

/-- What a node is to a workflow. -/
inductive NodeKind where
  | entry
  | terminal
  | service
  | branch
  | note
  deriving DecidableEq, Repr

namespace NodeKind

/-- The kinds in their usual order. -/
def all : List NodeKind := [entry, terminal, service, branch, note]

/-- The name of a kind. -/
def name : NodeKind → String
  | entry => "entry"
  | terminal => "terminal"
  | service => "service"
  | branch => "branch"
  | note => "annotation"

/-- The kind of a name. -/
def ofName? (s : String) : Option NodeKind := all.find? (·.name == s)

/-- Names and kinds correspond. -/
theorem ofName?_eq_some_iff {s : String} {k : NodeKind} : ofName? s = some k ↔ k.name = s := by
  constructor
  · intro h
    simpa using List.find?_some h
  · rintro rfl
    cases k <;> decide

end NodeKind

/-- The way in which a branch node of one outgoing path decides. -/
inductive BranchMode where
  | success
  | failed
  | conditional
  | indecisive
  | custom
  deriving DecidableEq, Repr

namespace BranchMode

/-- The modes in their usual order. -/
def all : List BranchMode := [success, failed, conditional, indecisive, custom]

/-- The name of a mode. -/
def name : BranchMode → String
  | success => "Success"
  | failed => "Failed"
  | conditional => "Conditional"
  | indecisive => "Indecisive"
  | custom => "Custom"

/-- The mode of a name. -/
def ofName? (s : String) : Option BranchMode := all.find? (·.name == s)

/-- Names and modes correspond. -/
theorem ofName?_eq_some_iff {s : String} {m : BranchMode} : ofName? s = some m ↔ m.name = s := by
  constructor
  · intro h
    simpa using List.find?_some h
  · rintro rfl
    cases m <;> decide

end BranchMode

/-- One comparison of a branch node: a component of a service's result against a value. -/
structure Clause where
  /-- The service whose result is looked at. -/
  service : String := ""
  /-- The part of the result. -/
  component : String := ""
  /-- How the part is compared. -/
  comparator : String := ""
  /-- What the part is compared with. -/
  value : String := ""
  deriving DecidableEq, Repr

/-- A node. Its type is the editor's name for it; its kind is unset until it is classified. -/
structure Node where
  id : String
  /-- The editor's name for what the node does. -/
  type : String
  kind : Option NodeKind := none
  label : String := ""
  /-- How a branch node decides, if it says so. -/
  mode : Option BranchMode := none
  /-- The comparisons of a branch node. -/
  clauses : List Clause := []
  deriving DecidableEq, Repr

/-- An edge from one node id to another. An edge without a condition type is a plain continuation.
-/
structure Edge where
  id : String
  /-- The id of the node that the edge leaves. -/
  source : String
  /-- The id of the node that the edge reaches. -/
  target : String
  /-- The handle by which the edge leaves its node. -/
  sourceHandle : Option String := none
  /-- The sort of condition under which the edge is followed. -/
  conditionType : Option String := none
  /-- The user's own condition. -/
  customLogic : Option String := none
  /-- A condition in the engine's words, which wins over all else. -/
  engineCondition : Option String := none
  label : String := ""
  deriving DecidableEq, Repr

/-- Nodes and edges in drawing order. -/
structure Graph where
  nodes : List Node := []
  edges : List Edge := []
  deriving DecidableEq, Repr

namespace Node

/-- The type of branch node that routes on its two named handles. -/
def conditionType : String := "Condition"

/-- The name under which the engine knows the service of a node. -/
def serviceName (n : Node) : String := Text.lower n.type

/-- Whether a node routes on named handles. -/
def isCondition (n : Node) : Bool := n.kind == some .branch && n.type == conditionType

end Node

namespace Edge

/-- The handle by which a condition node is left when its condition holds. -/
def matchHandle : String := "match"

/-- The handle by which a condition node is left otherwise. -/
def otherHandle : String := "notMatch"

/-- Whether an edge is followed unconditionally: it has no condition type, or an empty one, or
`always`. -/
def isDefault (e : Edge) : Bool :=
  match e.conditionType with
  | none => true
  | some t => t == "" || t == "always"

end Edge

namespace Graph

/-- The first node of an id. -/
def node? (g : Graph) (id : String) : Option Node := g.nodes.find? (·.id == id)

/-- The edges that leave an id, in drawing order. -/
def outgoing (g : Graph) (id : String) : List Edge := g.edges.filter (·.source == id)

/-- The edges that reach an id, in drawing order. -/
def incoming (g : Graph) (id : String) : List Edge := g.edges.filter (·.target == id)

@[simp] theorem mem_outgoing {g : Graph} {id : String} {e : Edge} :
    e ∈ g.outgoing id ↔ e ∈ g.edges ∧ e.source = id := by
  simp [outgoing]

@[simp] theorem mem_incoming {g : Graph} {id : String} {e : Edge} :
    e ∈ g.incoming id ↔ e ∈ g.edges ∧ e.target = id := by
  simp [incoming]

/-- A node that is looked up is a node of the graph with that id. -/
theorem node?_eq_some {g : Graph} {id : String} {n : Node} (h : g.node? id = some n) :
    n ∈ g.nodes ∧ n.id = id :=
  ⟨List.mem_of_find?_eq_some h, by simpa using List.find?_some h⟩

/-- Looking up fails exactly for an id that no node has. -/
theorem node?_eq_none_iff {g : Graph} {id : String} :
    g.node? id = none ↔ ∀ n ∈ g.nodes, n.id ≠ id := by
  simp [node?]

end Graph

end ServiceFlow
