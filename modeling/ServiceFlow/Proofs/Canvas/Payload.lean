import ServiceFlow.Load

/-!
# Graphs handed over by a canvas

The payload of a node or an edge passes the schema of canvases, whatever texts stand in it, and is
read as what it was written from: the comparator of a clause under the editor's name for it, the
mode of a branch node by its name, an absent text as null. Only the kind of a node is lost, for
which a payload has no place; loading sets it by the catalogue.
-/

namespace ServiceFlow

open Schema

/-- An optional text reads back. -/
theorem nullable_optionalText (s : Option String) : nullable text (optionalText s) = .ok s := by
  cases s <;> rfl

/-- A clause with its comparator under the editor's name reads back. -/
theorem Clause.check_toValue (cl : Clause) : Clause.check (cl.toValue "function") = .ok cl := by
  obtain ⟨fields, hfields, hservice, hcomponent, hfunction, hvalue⟩ : ∃ fields,
      cl.toValue "function" = .map fields ∧
      Value.lookup? "service" fields = some (.text cl.service) ∧
      Value.lookup? "component" fields = some (.text cl.component) ∧
      Value.lookup? "function" fields = some (.text cl.comparator) ∧
      Value.lookup? "value" fields = some (.text cl.value) := by
    refine ⟨_, rfl, ?_⟩
    simp [Value.lookup?_cons]
  have hname : comparatorName fields = "function" := by simp [comparatorName, hfunction]
  have hread {name s : String} (h : Value.lookup? name fields = some (.text s)) :
      defaulted name "" text fields = .ok s := defaulted_eq_ok h (text_text s) ""
  simp only [Clause.check, hfields, record, hname, hread hservice, hread hcomponent,
    hread hfunction, hread hvalue]
  rfl

namespace Node

/-- The data of the payload of a node. -/
def dataPayload (n : Node) : Value :=
  .record [("type", .text n.type), ("label", .text n.label),
    ("logicType", optionalText (n.mode.map BranchMode.name)),
    ("conditions", .list (n.clauses.map (Clause.toValue "function")))]

/-- The canvas node that the payload of a node is read as. -/
def toCanvas (n : Node) : CanvasNode :=
  ⟨n.id, n.type, n.label, n.mode.map BranchMode.name, n.clauses, []⟩

/-- The data of the payload of a node is read. -/
theorem check_dataPayload (n : Node) : NodeData.check n.dataPayload = .ok n.toCanvas.data := by
  obtain ⟨fields, hfields, htype, hlabel, hmode, hclauses, hothers⟩ : ∃ fields,
      n.dataPayload = .map fields ∧
      Value.lookup? "type" fields = some (.text n.type) ∧
      Value.lookup? "label" fields = some (.text n.label) ∧
      Value.lookup? "logicType" fields = some (optionalText (n.mode.map BranchMode.name)) ∧
      Value.lookup? "conditions" fields =
        some (.list (n.clauses.map (Clause.toValue "function"))) ∧
      undeclared NodeData.declared fields = .ok [] := by
    refine ⟨_, rfl, ?_, ?_, ?_, ?_, undeclared_eq_nil (by simp [NodeData.declared])⟩ <;>
      simp [Value.lookup?_cons]
  have htype := required_eq_ok htype (text_text _)
  have hlabel := defaulted_eq_ok hlabel (text_text _) ""
  have hmode := defaulted_eq_ok hmode (nullable_optionalText _) none
  have hclauses := defaulted_eq_ok hclauses (list_map_self Clause.check_toValue _) []
  simp only [NodeData.check, hfields, record, htype, hlabel, hmode, hclauses, hothers]
  rfl

/-- The payload of a node is read. -/
theorem check_toPayload (n : Node) : CanvasNode.check n.toPayload = .ok n.toCanvas := by
  obtain ⟨fields, hfields, hid, hdata⟩ : ∃ fields, n.toPayload = .map fields ∧
      Value.lookup? "id" fields = some (.text n.id) ∧
      Value.lookup? "data" fields = some n.dataPayload :=
    ⟨_, rfl, by simp, by simp [Value.lookup?_cons, dataPayload]⟩
  have hid := required_eq_ok hid (text_text _)
  have hdata := required_eq_ok hdata n.check_dataPayload
  simp only [CanvasNode.check, hfields, record, hid, hdata]
  rfl

/-- The node that is handed over comes back, but for its kind. -/
theorem toNode_toCanvas (c : Catalog) (n : Node) :
    n.toCanvas.toNode c = { n with kind := some (c.kindOf n.type) } := by
  have hmode : (n.mode.map BranchMode.name).bind BranchMode.ofName? = n.mode := by
    cases h : n.mode with
    | none => rfl
    | some m => exact BranchMode.ofName?_eq_some_iff.mpr rfl
  simp only [CanvasNode.toNode, toCanvas, hmode]

end Node

namespace Edge

/-- The data of the payload of an edge. -/
def dataPayload (e : Edge) : Value :=
  .record [("conditionType", optionalText e.conditionType),
    ("customLogic", optionalText e.customLogic),
    ("camundaCondition", optionalText e.engineCondition), ("label", .text e.label)]

/-- The canvas edge that the payload of an edge is read as. -/
def toCanvas (e : Edge) : CanvasEdge :=
  ⟨e.id, e.source, e.target, e.sourceHandle,
    some ⟨e.conditionType, e.customLogic, e.engineCondition, some e.label, []⟩⟩

/-- The data of the payload of an edge is read. -/
theorem check_dataPayload (e : Edge) :
    nullable EdgeData.check e.dataPayload = .ok e.toCanvas.data := by
  obtain ⟨fields, hfields, htype, hlogic, hcondition, hlabel, hothers⟩ : ∃ fields,
      e.dataPayload = .map fields ∧
      Value.lookup? "conditionType" fields = some (optionalText e.conditionType) ∧
      Value.lookup? "customLogic" fields = some (optionalText e.customLogic) ∧
      Value.lookup? "camundaCondition" fields = some (optionalText e.engineCondition) ∧
      Value.lookup? "label" fields = some (optionalText (some e.label)) ∧
      undeclared EdgeData.declared fields = .ok [] := by
    refine ⟨_, rfl, ?_, ?_, ?_, ?_, undeclared_eq_nil (by simp [EdgeData.declared])⟩ <;>
      simp [Value.lookup?_cons, optionalText]
  have hread {name : String} {s : Option String}
      (h : Value.lookup? name fields = some (optionalText s)) :
      defaulted name none (nullable text) fields = .ok s :=
    defaulted_eq_ok h (nullable_optionalText s) none
  simp only [nullable, EdgeData.check, hfields, record, hread htype, hread hlogic,
    hread hcondition, hread hlabel, hothers]
  rfl

/-- The payload of an edge is read. -/
theorem check_toPayload (e : Edge) : CanvasEdge.check e.toPayload = .ok e.toCanvas := by
  obtain ⟨fields, hfields, hid, hsource, htarget, hhandle, hdata⟩ : ∃ fields,
      e.toPayload = .map fields ∧
      Value.lookup? "id" fields = some (.text e.id) ∧
      Value.lookup? "source" fields = some (.text e.source) ∧
      Value.lookup? "target" fields = some (.text e.target) ∧
      Value.lookup? "sourceHandle" fields = some (optionalText e.sourceHandle) ∧
      Value.lookup? "data" fields = some e.dataPayload := by
    refine ⟨_, rfl, ?_, ?_, ?_, ?_, ?_⟩ <;> simp [Value.lookup?_cons, dataPayload]
  have hid := required_eq_ok hid (text_text _)
  have hsource := required_eq_ok hsource (text_text _)
  have htarget := required_eq_ok htarget (text_text _)
  have hhandle := defaulted_eq_ok hhandle (nullable_optionalText _) none
  have hdata := defaulted_eq_ok hdata e.check_dataPayload none
  simp only [CanvasEdge.check, hfields, record, hid, hsource, htarget, hhandle, hdata]
  rfl

/-- The edge that is handed over comes back. -/
theorem toEdge_toCanvas (e : Edge) : e.toCanvas.toEdge = e := rfl

end Edge

namespace Graph

/-- A graph as a canvas hands it over. -/
def toPayload (g : Graph) : Value :=
  .record [("nodes", .list (g.nodes.map Node.toPayload)),
    ("edges", .list (g.edges.map Edge.toPayload))]

/-- A graph all of whose kinds are unset. -/
def eraseKinds (g : Graph) : Graph := { g with nodes := g.nodes.map ({ · with kind := none }) }

/-- Nothing is erased from a graph without kinds. -/
theorem eraseKinds_eq_self {g : Graph} (h : ∀ n ∈ g.nodes, n.kind = none) : g.eraseKinds = g := by
  have hnodes : g.nodes.map ({ · with kind := none }) = g.nodes := by
    rw [List.map_congr_left (g := id), List.map_id]
    intro n hn
    simp [← h n hn]
  rw [eraseKinds, hnodes]

/-- A graph that is handed over and loaded again is the classified graph, except that kinds which
were set do not count. -/
theorem read_toPayload (g : Graph) (c : Catalog) :
    (Canvas.read g.toPayload).map (Canvas.toGraph c) = .ok (c.classifyGraph g.eraseKinds) := by
  obtain ⟨fields, hfields, hnodes, hedges⟩ : ∃ fields, g.toPayload = .map fields ∧
      Value.lookup? "nodes" fields = some (.list (g.nodes.map Node.toPayload)) ∧
      Value.lookup? "edges" fields = some (.list (g.edges.map Edge.toPayload)) :=
    ⟨_, rfl, by simp, by simp [Value.lookup?_cons]⟩
  have hnodes := required_eq_ok hnodes (list_map Node.check_toPayload g.nodes)
  have hedges := required_eq_ok hedges (list_map Edge.check_toPayload g.edges)
  have hcanvas : Canvas.read g.toPayload =
      .ok ⟨g.nodes.map Node.toCanvas, g.edges.map Edge.toCanvas⟩ := by
    simp only [Canvas.read, Canvas.check, hfields, record, hnodes, hedges]
    rfl
  rw [hcanvas]
  simp only [Except.map, Canvas.toGraph, List.map_map, Function.comp_def, Node.toNode_toCanvas,
    Edge.toEdge_toCanvas, List.map_id', Catalog.classifyGraph, eraseKinds]
  rfl

end Graph

end ServiceFlow
