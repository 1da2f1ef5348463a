import ServiceFlow.Canvas

/-!
# Writing canvas payloads

A payload is written with every declared field, null where there is nothing, and then the fields
that are not declared. The nodes and edges of a graph are written in the form in which a canvas
hands them over; that form has no place for a kind.
-/

namespace ServiceFlow

/-- An optional text as a value. -/
def optionalText (s : Option String) : Value := (s.map Value.text).getD .null

/-- A clause, with its comparator under a given name. -/
def Clause.toValue (comparator : String) (c : Clause) : Value :=
  .record [("service", .text c.service), ("component", .text c.component),
    (comparator, .text c.comparator), ("value", .text c.value)]

/-- The data of a node. -/
def NodeData.toValue (d : NodeData) : Value :=
  .ofEntries (([("type", .text d.type), ("label", .text d.label),
    ("logicType", optionalText d.logicType),
    ("conditions", .list (d.clauses.map (Clause.toValue "comparator")))] ++ d.others).map
      fun (k, v) => (.text k, v))

/-- A canvas node. -/
def CanvasNode.toValue (n : CanvasNode) : Value :=
  .record [("id", .text n.id), ("data", n.data.toValue)]

/-- The data of an edge. -/
def EdgeData.toValue (d : EdgeData) : Value :=
  .ofEntries (([("conditionType", optionalText d.conditionType),
    ("customLogic", optionalText d.customLogic),
    ("camundaCondition", optionalText d.engineCondition),
    ("label", optionalText d.label)] ++ d.others).map fun (k, v) => (.text k, v))

/-- A canvas edge. -/
def CanvasEdge.toValue (e : CanvasEdge) : Value :=
  .record [("id", .text e.id), ("source", .text e.source), ("target", .text e.target),
    ("sourceHandle", optionalText e.sourceHandle),
    ("data", (e.data.map EdgeData.toValue).getD .null)]

/-- A payload. -/
def Canvas.toValue (c : Canvas) : Value :=
  .record [("nodes", .list (c.nodes.map CanvasNode.toValue)),
    ("edges", .list (c.edges.map CanvasEdge.toValue))]

/-- A node of a graph as a canvas hands it over. -/
def Node.toPayload (n : Node) : Value :=
  .record [("id", .text n.id), ("data", .record [("type", .text n.type), ("label", .text n.label),
    ("logicType", optionalText (n.mode.map BranchMode.name)),
    ("conditions", .list (n.clauses.map (Clause.toValue "function")))])]

/-- An edge of a graph as a canvas hands it over. -/
def Edge.toPayload (e : Edge) : Value :=
  .record [("id", .text e.id), ("source", .text e.source), ("target", .text e.target),
    ("sourceHandle", optionalText e.sourceHandle),
    ("data", .record [("conditionType", optionalText e.conditionType),
      ("customLogic", optionalText e.customLogic),
      ("camundaCondition", optionalText e.engineCondition), ("label", .text e.label)])]

end ServiceFlow
