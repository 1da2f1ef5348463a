import Mathlib.Data.List.Forall2
import ServiceFlow.Proofs.Graph.Redrawing
import ServiceFlow.Proofs.Schema.Passing
import ServiceFlow.Load

/-!
# What counts of a payload

A canvas hands over much that is for the editor alone: labels, positions, styles, the mode and the
clauses of a branch node. Of a node only its id and its type count, of an edge its two ends, its
handle and three fields of its data. Payloads that pass the schema and agree in these, node by node
and edge by edge, give graphs that agree in all that counts of a graph.
-/

namespace ServiceFlow

open Schema

/-- Whether two values have the same at the ends of some paths of fields. -/
def Value.Agree (paths : List (List String)) (v v' : Value) : Prop :=
  ∀ path ∈ paths, v.atPath path = v'.atPath path

/-- The items of a field of a value, none when it is not read as a list. -/
def Value.itemsAt (v : Value) (name : String) : List Value := ((v.get name).parts?).getD []

namespace CanvasNode

/-- Where the payload of a node has what counts of it. -/
def paths : List (List String) := [["id"], ["data", "type"]]

variable {v v' : Value} {n n' : CanvasNode}

/-- What counts of a node is read from its place in the payload. -/
theorem reads (h : check v = .ok n) :
    text (v.atPath ["id"]) = .ok n.id ∧ text (v.atPath ["data", "type"]) = .ok n.data.type := by
  obtain ⟨fields, rfl, hfields⟩ := record_eq_ok_iff.mp h
  simp only [Checked.map_def, Checked.seq_def, Checked.seq_eq_ok_iff, Checked.map_eq_ok_iff]
    at hfields
  obtain ⟨_, data, ⟨id, hid, rfl⟩, hdata, rfl⟩ := hfields
  refine ⟨check_get_of_required hid, ?_⟩
  obtain ⟨parts, hparts, hdata⟩ := record_eq_ok_iff.mp (check_get_of_required hdata)
  simp only [Checked.map_def, Checked.seq_def, Checked.seq_eq_ok_iff, Checked.map_eq_ok_iff]
    at hdata
  obtain ⟨_, _, ⟨_, _, ⟨_, _, ⟨_, _, ⟨type, htype, rfl⟩, _, rfl⟩, _, rfl⟩, _, rfl⟩, _, rfl⟩ := hdata
  rw [Value.atPath_cons, hparts]
  exact check_get_of_required htype

/-- Nodes whose payloads agree in what counts become nodes that agree in what counts. -/
theorem strip_toNode_congr (c : Catalog) (hagree : Value.Agree paths v v') (h : check v = .ok n)
    (h' : check v' = .ok n') : (n.toNode c).strip = (n'.toNode c).strip := by
  obtain ⟨hid, htype⟩ := reads h
  obtain ⟨hid', htype'⟩ := reads h'
  rw [hagree ["id"] (by simp [paths]), hid', Checked.ok.injEq] at hid
  rw [hagree ["data", "type"] (by simp [paths]), htype', Checked.ok.injEq] at htype
  simp only [Node.strip, toNode, hid, htype]

end CanvasNode

namespace EdgeData

/-- The fields of the data of an edge that count. -/
theorem reads {v : Value} {d : EdgeData} (h : check v = .ok d) :
    nullable text (v.get "conditionType") = .ok d.conditionType ∧
      nullable text (v.get "customLogic") = .ok d.customLogic ∧
      nullable text (v.get "camundaCondition") = .ok d.engineCondition := by
  obtain ⟨fields, rfl, hfields⟩ := record_eq_ok_iff.mp h
  simp only [Checked.map_def, Checked.seq_def, Checked.seq_eq_ok_iff, Checked.map_eq_ok_iff,
    defaulted_none_eq_ok_iff] at hfields
  obtain ⟨_, _, ⟨_, _, ⟨_, _, ⟨_, _, ⟨_, htype, rfl⟩, hlogic, rfl⟩, hcondition, rfl⟩, _, rfl⟩, _,
    rfl⟩ := hfields
  exact ⟨htype, hlogic, hcondition⟩

end EdgeData

namespace CanvasEdge

/-- Where the payload of an edge has what counts of it. -/
def paths : List (List String) :=
  [["source"], ["target"], ["sourceHandle"], ["data", "conditionType"], ["data", "customLogic"],
    ["data", "camundaCondition"]]

variable {v v' : Value} {e e' : CanvasEdge}

/-- The ends and the handle of an edge, and its data, are read from their places in the payload. -/
theorem reads (h : check v = .ok e) :
    text (v.atPath ["source"]) = .ok e.source ∧ text (v.atPath ["target"]) = .ok e.target ∧
      nullable text (v.atPath ["sourceHandle"]) = .ok e.sourceHandle ∧
      nullable EdgeData.check (v.get "data") = .ok e.data := by
  obtain ⟨fields, rfl, hfields⟩ := record_eq_ok_iff.mp h
  simp only [Checked.map_def, Checked.seq_def, Checked.seq_eq_ok_iff, Checked.map_eq_ok_iff,
    defaulted_none_eq_ok_iff] at hfields
  obtain ⟨_, _, ⟨_, _, ⟨_, _, ⟨_, _, ⟨_, _, rfl⟩, hsource, rfl⟩, htarget, rfl⟩, hhandle, rfl⟩,
    hdata, rfl⟩ := hfields
  exact ⟨check_get_of_required hsource, check_get_of_required htarget, hhandle, hdata⟩

/-- The fields of the data of an edge that count are read from their places in the payload; an edge
without data is read as one whose data is all null. -/
theorem reads_data (h : check v = .ok e) :
    nullable text (v.atPath ["data", "conditionType"]) = .ok e.toEdge.conditionType ∧
      nullable text (v.atPath ["data", "customLogic"]) = .ok e.toEdge.customLogic ∧
      nullable text (v.atPath ["data", "camundaCondition"]) = .ok e.toEdge.engineCondition := by
  obtain ⟨-, -, -, hdata⟩ := reads h
  simp only [Value.atPath_cons]
  cases hd : e.data with
  | none =>
      rw [hd, nullable_eq_ok_none_iff] at hdata
      simp only [hdata, ← Value.atPath_cons, Value.atPath_null, nullable, toEdge, hd,
        Option.getD_none, and_self]
  | some data =>
      rw [hd] at hdata
      simp only [toEdge, hd, Option.getD_some]
      exact EdgeData.reads (check_of_nullable hdata)

/-- Edges whose payloads agree in what counts become edges that agree in what counts. -/
theorem strip_toEdge_congr (hagree : Value.Agree paths v v') (h : check v = .ok e)
    (h' : check v' = .ok e') : e.toEdge.strip = e'.toEdge.strip := by
  obtain ⟨hsource, htarget, hhandle, -⟩ := reads h
  obtain ⟨hsource', htarget', hhandle', -⟩ := reads h'
  obtain ⟨htype, hlogic, hcondition⟩ := reads_data h
  obtain ⟨htype', hlogic', hcondition'⟩ := reads_data h'
  have hpaths (path : List String) (hp : path ∈ paths) : v.atPath path = v'.atPath path :=
    hagree path hp
  rw [hpaths _ (by simp [paths]), hsource', Checked.ok.injEq] at hsource
  rw [hpaths _ (by simp [paths]), htarget', Checked.ok.injEq] at htarget
  rw [hpaths _ (by simp [paths]), hhandle', Checked.ok.injEq] at hhandle
  rw [hpaths _ (by simp [paths]), htype', Checked.ok.injEq] at htype
  rw [hpaths _ (by simp [paths]), hlogic', Checked.ok.injEq] at hlogic
  rw [hpaths _ (by simp [paths]), hcondition', Checked.ok.injEq] at hcondition
  rw [Edge.strip, Edge.strip, ← hlogic, ← hcondition, ← htype]
  simp only [toEdge, hsource, htarget, hhandle]

end CanvasEdge

/-- Items of two lists that pair by pair come to the same come to the same as lists. -/
theorem map_eq_of_forall₂ {α β : Type} {related : Value → Value → Prop} (check : Value → Checked α)
    {f : α → β}
    (h : ∀ v v' a a', related v v' → check v = .ok a → check v' = .ok a' → f a = f a')
    {vs vs' : List Value} (hvs : List.Forall₂ related vs vs') :
    ∀ {as as' : List α}, vs.map check = as.map .ok → vs'.map check = as'.map .ok →
      as.map f = as'.map f := by
  induction hvs with
  | nil =>
      intro as as' has has'
      rw [List.map_eq_nil_iff.mp has.symm, List.map_eq_nil_iff.mp has'.symm]
  | @cons v v' vs vs' hv _ ih =>
      intro as as' has has'
      obtain ⟨a, rest, rfl, ha, hrest⟩ := List.map_eq_cons_iff.mp has.symm
      obtain ⟨a', rest', rfl, ha', hrest'⟩ := List.map_eq_cons_iff.mp has'.symm
      rw [List.map_cons, List.map_cons, h v v' a a' hv ha.symm ha'.symm,
        ih hrest.symm hrest'.symm]

namespace Canvas

/-- Whether two payloads have as many nodes and edges, and agree one by one in what counts. -/
structure Agree (p p' : Value) : Prop where
  nodes : List.Forall₂ (Value.Agree CanvasNode.paths) (p.itemsAt "nodes") (p'.itemsAt "nodes")
  edges : List.Forall₂ (Value.Agree CanvasEdge.paths) (p.itemsAt "edges") (p'.itemsAt "edges")

/-- The nodes and edges of a payload are read from the items of its two lists. -/
theorem reads {p : Value} {canvas : Canvas} (h : Canvas.read p = .ok canvas) :
    (p.itemsAt "nodes").map CanvasNode.check = canvas.nodes.map .ok ∧
      (p.itemsAt "edges").map CanvasEdge.check = canvas.edges.map .ok := by
  obtain ⟨fields, rfl, hfields⟩ := record_eq_ok_iff.mp (Checked.toExcept_eq_ok_iff.mp h)
  simp only [Checked.map_def, Checked.seq_def, Checked.seq_eq_ok_iff, Checked.map_eq_ok_iff]
    at hfields
  obtain ⟨_, _, ⟨_, hnodes, rfl⟩, hedges, rfl⟩ := hfields
  obtain ⟨nodes, hparts, hnodes⟩ := list_eq_ok_iff.mp (check_get_of_required hnodes)
  obtain ⟨edges, hparts', hedges⟩ := list_eq_ok_iff.mp (check_get_of_required hedges)
  rw [Value.itemsAt, Value.itemsAt, hparts, hparts']
  exact ⟨hnodes, hedges⟩

/-- Payloads that agree in what counts become graphs that agree in what counts. -/
theorem strip_toGraph_congr (c : Catalog) {p p' : Value} {canvas canvas' : Canvas}
    (h : Canvas.read p = .ok canvas) (h' : Canvas.read p' = .ok canvas') (hagree : Agree p p') :
    (canvas.toGraph c).strip = (canvas'.toGraph c).strip := by
  obtain ⟨hnodes, hedges⟩ := reads h
  obtain ⟨hnodes', hedges'⟩ := reads h'
  have hn : canvas.nodes.map (fun n => (n.toNode c).strip) =
      canvas'.nodes.map fun n => (n.toNode c).strip :=
    map_eq_of_forall₂ CanvasNode.check
      (fun _ _ _ _ ha h h' => CanvasNode.strip_toNode_congr c ha h h') hagree.nodes hnodes hnodes'
  have he : canvas.edges.map (fun e => e.toEdge.strip) =
      canvas'.edges.map fun e => e.toEdge.strip :=
    map_eq_of_forall₂ CanvasEdge.check
      (fun _ _ _ _ ha h h' => CanvasEdge.strip_toEdge_congr ha h h') hagree.edges hedges hedges'
  simp only [toGraph, Graph.strip, Graph.redraw, List.map_map]
  exact congrArg₂ Graph.mk hn he

end Canvas

end ServiceFlow
