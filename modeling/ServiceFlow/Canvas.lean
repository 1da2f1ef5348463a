import ServiceFlow.Catalog
import ServiceFlow.Value

/-!
# Canvas payloads

A canvas hands its graph over as a payload of named fields: the nodes with their data, the edges
with theirs. Data that the declared fields do not cover is kept but plays no part. A payload becomes
a graph by giving each node the kind that a catalogue has for its type; an edge without data is one
whose data is all null.
-/

namespace ServiceFlow

/-- The data of a node on the canvas. -/
structure NodeData where
  type : String
  label : String := ""
  logicType : Option String := none
  clauses : List Clause := []
  others : List (String × Value) := []

/-- A node on the canvas. -/
structure CanvasNode where
  id : String
  data : NodeData

/-- The data of an edge on the canvas. -/
structure EdgeData where
  conditionType : Option String := none
  customLogic : Option String := none
  engineCondition : Option String := none
  label : Option String := none
  others : List (String × Value) := []

/-- An edge on the canvas. -/
structure CanvasEdge where
  id : String
  source : String
  target : String
  sourceHandle : Option String := none
  data : Option EdgeData := none

/-- The nodes and edges of a canvas. -/
structure Canvas where
  nodes : List CanvasNode
  edges : List CanvasEdge

/-- The node that a canvas node is under a catalogue. A mode that there is not counts as none. -/
def CanvasNode.toNode (c : Catalog) (n : CanvasNode) : Node where
  id := n.id
  type := n.data.type
  kind := some (c.kindOf n.data.type)
  label := n.data.label
  mode := n.data.logicType.bind BranchMode.ofName?
  clauses := n.data.clauses

/-- The edge that a canvas edge is. -/
def CanvasEdge.toEdge (e : CanvasEdge) : Edge :=
  let data := e.data.getD {}
  { id := e.id
    source := e.source
    target := e.target
    sourceHandle := e.sourceHandle
    conditionType := data.conditionType
    customLogic := data.customLogic
    engineCondition := data.engineCondition
    label := data.label.getD "" }

/-- The graph of a canvas under a catalogue. -/
def Canvas.toGraph (c : Catalog) (canvas : Canvas) : Graph where
  nodes := canvas.nodes.map (CanvasNode.toNode c)
  edges := canvas.edges.map CanvasEdge.toEdge

end ServiceFlow
