import ServiceFlow.Proofs.Canvas.Relevance
import ServiceFlow.Proofs.Compile.Redrawing
import ServiceFlow.Proofs.Export.Gate

/-!
# Data for the editor does not reach the engine

Graphs that agree in what counts have the same outcomes. Two payloads that agree in what counts are
therefore compiled and exported alike, whatever else stands in them at any depth; only the messages
about an edge with an unknown end quote something that does not count, the id of the edge.
-/

namespace ServiceFlow

/-- The fault without the ids of edges. -/
def Fault.strip : Fault → Fault
  | blocked onGraph onDocument => blocked (onGraph.map GraphFinding.strip) onDocument
  | f => f

namespace Catalog

/-- Graphs that agree in what counts are exported to the same document or refused for the same
reasons, but for the ids of edges. -/
theorem exportGraph_strip_congr (c : Catalog) {g g' : Graph} (h : g.strip = g'.strip) :
    (c.exportGraph g).mapError Fault.strip = (c.exportGraph g').mapError Fault.strip := by
  have hcompile := c.compile_strip_congr h
  have hfindings := c.findings_strip_congr h
  have hempty : (c.findings g).isEmpty = (c.findings g').isEmpty := by
    rw [← List.isEmpty_map (f := GraphFinding.strip), hfindings, List.isEmpty_map]
  cases hg' : c.compile g' with
  | error f =>
      rw [exportGraph_of_compile_error (hcompile.trans hg'), exportGraph_of_compile_error hg']
  | ok w =>
      rw [exportGraph_of_compile (hcompile.trans hg'), exportGraph_of_compile hg', hempty]
      split
      · rfl
      · exact congrArg (fun fs => Except.error (Fault.blocked fs w.findings)) hfindings

/-- Data for the editor has no influence. Two payloads that pass the schema and agree, node by node
and edge by edge, in what counts compile to the same document or not at all, and they are exported
to the same document or refused with the same findings, but for the ids of edges in them. The
catalogue that loads them and the one that compiles and exports them may differ. -/
theorem outcomes_of_agree (c d : Catalog) {p p' : Value} {canvas canvas' : Canvas}
    (h : Canvas.read p = .ok canvas) (h' : Canvas.read p' = .ok canvas')
    (hagree : Canvas.Agree p p') :
    d.compile (canvas.toGraph c) = d.compile (canvas'.toGraph c) ∧
      (d.exportGraph (canvas.toGraph c)).mapError Fault.strip =
        (d.exportGraph (canvas'.toGraph c)).mapError Fault.strip := by
  have hstrip := Canvas.strip_toGraph_congr c h h' hagree
  exact ⟨d.compile_strip_congr hstrip, d.exportGraph_strip_congr hstrip⟩

/-- A payload with nothing but what counts: an entry node, a service and a condition that leads to
no node. -/
def barePayload : Value :=
  .record [
    ("nodes", .list [
      .record [("id", .text "e"), ("data", .record [("type", .text "StartNode")])],
      .record [("id", .text "s"), ("data", .record [("type", .text "IDV")])]]),
    ("edges", .list [
      .record [("id", .text "1"), ("source", .text "e"), ("target", .text "s")],
      .record [("id", .text "2"), ("source", .text "s"), ("target", .text "t"),
        ("data", .record [("conditionType", .text "match")])]])]

/-- The same payload as an editor saves it: with a viewport, positions, labels, a mode, clauses and
styles, with null where the other has nothing, and with other ids of edges. -/
def decoratedPayload : Value :=
  .record [
    ("viewport", .record [("zoom", .int 2)]),
    ("edges", .list [
      .record [("source", .text "e"), ("id", .text "a"), ("target", .text "s"), ("data", .null),
        ("style", .record [("width", .int 3)])],
      .record [("id", .text ""), ("source", .text "s"), ("target", .text "t"),
        ("sourceHandle", .null),
        ("data", .record [("label", .text "On match"), ("conditionType", .text "match"),
          ("customLogic", .null), ("animated", .bool true)])]]),
    ("nodes", .list [
      .record [("id", .text "e"), ("position", .list [.int 1, .int 2]),
        ("data", .record [("type", .text "StartNode"), ("label", .text "Start")])],
      .record [("id", .text "s"),
        ("data", .record [("type", .text "IDV"), ("logicType", .text "Custom"),
          ("conditions", .list [.record [("service", .text "aml"), ("weight", .int 7)]]),
          ("config", .record [("retries", .null)])])]])]

theorem outcomes_of_agree_decoratedPayload :
    ∃ canvas canvas', Canvas.read barePayload = .ok canvas ∧
      Canvas.read decoratedPayload = .ok canvas' ∧ Canvas.Agree barePayload decoratedPayload ∧
      (canvas.toGraph .default).findings [] = [.unknownEnd "2" "t"] ∧
      (canvas'.toGraph .default).findings [] = [.unknownEnd "" "t"] ∧
      Catalog.default.compile (canvas.toGraph .default) =
        Catalog.default.compile (canvas'.toGraph .default) ∧
      (Catalog.default.exportGraph (canvas.toGraph .default)).mapError Fault.strip =
        (Catalog.default.exportGraph (canvas'.toGraph .default)).mapError Fault.strip := by
  have hagree : Canvas.Agree barePayload decoratedPayload := by
    refine ⟨.cons ?_ (.cons ?_ .nil), .cons ?_ (.cons ?_ .nil)⟩ <;>
      simp only [Value.Agree, CanvasNode.paths, CanvasEdge.paths, List.forall_mem_cons] <;>
      and_intros <;> first | rfl | exact List.forall_mem_nil _
  refine ⟨_, _, rfl, rfl, hagree, rfl, rfl, ?_⟩
  exact outcomes_of_agree .default .default rfl rfl hagree

end Catalog

end ServiceFlow
