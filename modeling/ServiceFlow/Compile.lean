import ServiceFlow.Catalog
import ServiceFlow.Graph.Connection
import ServiceFlow.Workflow

/-!
# Compiling graphs

A classified graph with an entry node compiles to a workflow: the end steps of its terminal nodes
first, then one step for each service and branch node, both in drawing order. A node with two or
more edges to service nodes calls these side by side; the step goes on at the node to which most of
their edges lead, of several such nodes at the one that is named first. A condition node routes on
its two handles; any other node becomes one service call with a condition for each conditional edge.
-/

namespace ServiceFlow

/-- The first edge that leaves by a handle. -/
def leavingBy (handle : String) (edges : List Edge) : Option Edge :=
  edges.find? fun e => e.sourceHandle == some handle

/-- How often each candidate is voted for, in the order of the first vote for each. -/
def tally (votes : List String) : List (String × Nat) :=
  votes.foldl
    (fun counts v => Table.insert (· == ·) v ((Table.find? (· == ·) v counts).getD 0 + 1) counts) []

/-- The first candidate that no other outnumbers. -/
def leader : List (String × Nat) → Option (String × Nat)
  | [] => none
  | (candidate, count) :: rest =>
    match leader rest with
    | some (other, more) => some (if count < more then (other, more) else (candidate, count))
    | none => some (candidate, count)

/-- The candidate with the most votes, of several the one first voted for. -/
def majority (votes : List String) : Option String := (leader (tally votes)).map (·.1)

namespace Graph

/-- The first entry node. -/
def entryNode? (g : Graph) : Option Node := g.nodes.find? (·.kind == some .entry)

/-- Whether the first node of an id is a service node. -/
def isService (g : Graph) (id : String) : Bool :=
  match g.node? id with
  | some n => n.kind == some .service
  | none => false

/-- The edges of a node that lead to service nodes. -/
def fanOut (g : Graph) (n : Node) : List Edge := (g.outgoing n.id).filter (g.isService ·.target)

/-- The edges that fan out of a node are those that lead from its id to service nodes. -/
@[simp] theorem mem_fanOut {g : Graph} {n : Node} {e : Edge} :
    e ∈ g.fanOut n ↔ e ∈ g.edges ∧ e.source = n.id ∧ g.isService e.target = true := by
  simp [fanOut, and_assoc]

/-- The votes of some ids: the targets of their edges, id by id. -/
def votes (g : Graph) (ids : List String) : List String :=
  ids.flatMap fun id => (g.outgoing id).map (·.target)

/-- A vote is cast by an edge that leaves one of the ids. -/
theorem mem_votes {g : Graph} {ids : List String} {target : String} :
    target ∈ g.votes ids ↔ ∃ e ∈ g.edges, e.source ∈ ids ∧ e.target = target := by
  simp only [votes, List.mem_flatMap, List.mem_map, mem_outgoing]
  constructor
  · rintro ⟨_, hid, e, ⟨he, rfl⟩, ht⟩
    exact ⟨e, he, hid, ht⟩
  · rintro ⟨e, he, hid, ht⟩
    exact ⟨_, hid, e, ⟨he, rfl⟩, ht⟩

/-- Where services that are called side by side meet again. -/
def meetingPoint (g : Graph) (ids : List String) : Option String := majority (g.votes ids)

end Graph

namespace Node

/-- Whether a node becomes a step after the end steps. -/
def isWorking (n : Node) : Bool := n.kind == some .service || n.kind == some .branch

/-- The name of the service that the engine reserves for condition nodes. -/
def conditionService : String := "condition"

/-- The step of a condition node, from the edges that leave it. -/
def conditionStep (n : Node) (edges : List Edge) : Step :=
  let holds (e : Edge) : Condition := ⟨(nonempty? e.engineCondition).getD alwaysTrue, e.target⟩
  .service n.id conditionService (some ((leavingBy Edge.matchHandle edges).map holds).toList)
    ((leavingBy Edge.otherHandle edges).map (·.target))

/-- The conditions of a service call: one for each conditional edge. -/
def conditions (edges : List Edge) : List Condition :=
  (edges.filter (!·.isDefault)).map fun e => ⟨e.expression, e.target⟩

/-- The step of a node that calls one service, from the edges that leave it. -/
def serviceStep (n : Node) (edges : List Edge) : Step :=
  .service n.id n.serviceName (some (conditions edges) |>.filter (!·.isEmpty))
    ((edges.find? (·.isDefault)).map (·.target))

/-- The step of a node that calls several services side by side, from the edges to them. -/
def fanOutStep (g : Graph) (n : Node) (edges : List Edge) : Step :=
  let ids := edges.map (·.target)
  .fanOut n.id ids (g.meetingPoint ids)

/-- The step of a service or branch node. -/
def step (g : Graph) (n : Node) : Step :=
  if n.isCondition then n.conditionStep (g.outgoing n.id)
  else if 1 < (g.fanOut n).length then fanOutStep g n (g.fanOut n)
  else n.serviceStep (g.outgoing n.id)

end Node

namespace Graph

/-- The end steps of a classified graph. -/
def endSteps (g : Graph) : List Step :=
  (g.nodes.filter (·.kind == some .terminal)).map fun n => .finish n.id

/-- The other steps of a classified graph. -/
def workingSteps (g : Graph) : List Step := (g.nodes.filter (·.isWorking)).map (Node.step g)

/-- The workflow of a classified graph; there is none without an entry node. -/
def workflow? (g : Graph) : Option Workflow :=
  g.entryNode?.map fun entry => ⟨entry.id, g.endSteps ++ g.workingSteps, some entry.id⟩

end Graph

/-- The workflow of a graph under a catalogue. -/
def Catalog.compile? (c : Catalog) (g : Graph) : Option Workflow := (c.classifyGraph g).workflow?

end ServiceFlow
