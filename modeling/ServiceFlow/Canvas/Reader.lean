import ServiceFlow.Canvas
import ServiceFlow.Schema

/-!
# Reading canvas payloads

A payload is a record of two lists. Nodes and edges may carry fields beside the declared ones, and
so may their data, whose keys then have to be texts. The comparator of a clause goes by two names;
the editor's own, `function`, wins when both are there.
-/

namespace ServiceFlow

open Schema

/-- The name under which a clause has its comparator. -/
def comparatorName (fields : Fields) : String :=
  if (Value.lookup? "function" fields).isSome then "function" else "comparator"

/-- Reads a clause of a branch node. -/
def Clause.check : Value → Checked Clause :=
  record "ConditionClauseSpec" fun fields =>
    Clause.mk <$> defaulted "service" "" text fields
      <*> defaulted "component" "" text fields
      <*> defaulted (comparatorName fields) "" text fields
      <*> defaulted "value" "" text fields

/-- The declared fields of node data. -/
def NodeData.declared : List String := ["type", "label", "logicType", "conditions"]

/-- Reads the data of a node. -/
def NodeData.check : Value → Checked NodeData :=
  record "NodeDataSpec" fun fields =>
    NodeData.mk <$> required "type" text fields
      <*> defaulted "label" "" text fields
      <*> defaulted "logicType" none (nullable text) fields
      <*> defaulted "conditions" [] (list Clause.check) fields
      <*> undeclared NodeData.declared fields

/-- Reads a node. -/
def CanvasNode.check : Value → Checked CanvasNode :=
  record "NodeSpec" fun fields =>
    CanvasNode.mk <$> required "id" text fields <*> required "data" NodeData.check fields

/-- The declared fields of edge data. -/
def EdgeData.declared : List String := ["conditionType", "customLogic", "camundaCondition", "label"]

/-- Reads the data of an edge. -/
def EdgeData.check : Value → Checked EdgeData :=
  record "EdgeDataSpec" fun fields =>
    EdgeData.mk <$> defaulted "conditionType" none (nullable text) fields
      <*> defaulted "customLogic" none (nullable text) fields
      <*> defaulted "camundaCondition" none (nullable text) fields
      <*> defaulted "label" none (nullable text) fields
      <*> undeclared EdgeData.declared fields

/-- Reads an edge. -/
def CanvasEdge.check : Value → Checked CanvasEdge :=
  record "EdgeSpec" fun fields =>
    CanvasEdge.mk <$> required "id" text fields
      <*> required "source" text fields
      <*> required "target" text fields
      <*> defaulted "sourceHandle" none (nullable text) fields
      <*> defaulted "data" none (nullable EdgeData.check) fields

/-- Reads a payload. -/
def Canvas.check : Value → Checked Canvas :=
  record "GraphSpec" fun fields =>
    Canvas.mk <$> required "nodes" (list CanvasNode.check) fields
      <*> required "edges" (list CanvasEdge.check) fields

end ServiceFlow
