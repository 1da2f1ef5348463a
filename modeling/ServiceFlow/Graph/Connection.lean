import ServiceFlow.Graph

/-!
# Connections

An edge carries the condition under which it is followed. Here stand the condition and label that a
freshly drawn edge gets from the node it leaves, and the engine expression that stands for an edge's
condition in a workflow: one that was written for the engine wins over the edge's condition type.
-/

namespace ServiceFlow

/-- The condition type and the label of a connection. -/
structure Connection where
  conditionType : String
  label : String
  deriving DecidableEq, Repr

namespace Connection

/-- What a connection is unless its source node says otherwise. -/
def plain : Connection := ⟨"match", "Connection"⟩

/-- What a connection from a branch node of a mode is. -/
def ofMode : BranchMode → Connection
  | .success => ⟨"success", "On Success"⟩
  | .failed => ⟨"failure", "On Failure"⟩
  | .conditional => ⟨"condition", "If Condition Met"⟩
  | .indecisive => ⟨"review", "On Review"⟩
  | .custom => ⟨"custom", "Custom Path"⟩

/-- The type of the branch node that names its connections after its mode. -/
def branchType : String := "ConditionalLogic"

/-- What a freshly drawn connection is, by the node it leaves if that is there. -/
def fresh (source : Option Node) : Connection :=
  match source with
  | none => plain
  | some n => if n.type = branchType then (n.mode.map ofMode).getD plain else plain

end Connection

/-- Wraps a text as an engine expression. -/
def engineExpression (text : String) : String := "$\x7b" ++ text ++ "\x7d"

/-- The engine expression that always holds. -/
def alwaysTrue : String := engineExpression "true"

/-- An optional text that is there and not empty. -/
def nonempty? (s : Option String) : Option String := s.filter (· != "")

namespace Edge

/-- The engine expression of an edge's condition type; a custom condition is the user's own text. -/
def typedExpression (e : Edge) : String :=
  if e.conditionType = some "match" then engineExpression "result.success == true"
  else if e.conditionType = some "nomatch" then engineExpression "result.success == false"
  else if e.conditionType = some "custom" then
    ((nonempty? e.customLogic).map engineExpression).getD alwaysTrue
  else alwaysTrue

/-- The engine expression of an edge. -/
def expression (e : Edge) : String := (nonempty? e.engineCondition).getD e.typedExpression

/-- An edge between two ids with the condition type and label of a fresh connection. -/
def connect (g : Graph) (id source target : String) (sourceHandle : Option String) : Edge :=
  let connection := Connection.fresh (g.node? source)
  { id, source, target, sourceHandle
    conditionType := some connection.conditionType
    label := connection.label }

end Edge

/-- The label that lists the clauses of a branch node, one to a line. -/
def clausesLabel (clauses : List Clause) : String :=
  String.intercalate "\n" (clauses.map fun c => s!"{c.service} {c.comparator} {c.value}")

end ServiceFlow
