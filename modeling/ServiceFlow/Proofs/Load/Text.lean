import ServiceFlow.Export
import ServiceFlow.Proofs.Canvas.Payload
import ServiceFlow.Proofs.FileTree.Write
import ServiceFlow.Proofs.Json.Plain

/-!
# Graph files written as JSON

A mapping that is written as JSON starts with a brace, so it is taken for JSON when it is loaded,
and reads back if JSON has a form for what is in it. The payload of a graph is such a mapping. The
file of a graph therefore loads as what the graph is when a canvas hands it over, and is exported
like that.
-/

namespace ServiceFlow

open Json (Expressible)

section Payload

theorem expressible_optionalText (s : Option String) : Expressible (optionalText s) := by
  cases s with
  | none => exact .bare .null
  | some s => exact .text s

theorem Clause.expressible_toValue (cl : Clause) : Expressible (cl.toValue "function") := by
  refine .record (by simp) ?_
  simp [Expressible.text]

theorem Node.expressible_toPayload (n : Node) : Expressible n.toPayload := by
  have hclauses : Expressible (.list (n.clauses.map (Clause.toValue "function"))) := by
    refine .list ?_
    simp only [List.forall_mem_map]
    exact fun cl _ => cl.expressible_toValue
  have hdata : Expressible n.dataPayload := by
    refine .record (by simp) ?_
    simp [Expressible.text, expressible_optionalText, hclauses]
  refine .record (by simp) ?_
  simp only [List.forall_mem_cons]
  exact ⟨.text _, hdata, List.forall_mem_nil _⟩

theorem Edge.expressible_toPayload (e : Edge) : Expressible e.toPayload := by
  have hdata : Expressible e.dataPayload := by
    refine .record (by simp) ?_
    simp [Expressible.text, expressible_optionalText]
  refine .record (by simp) ?_
  simp only [List.forall_mem_cons]
  exact ⟨.text _, .text _, .text _, expressible_optionalText _, hdata, List.forall_mem_nil _⟩

/-- A graph is handed over as a value that JSON has a form for. -/
theorem Graph.expressible_toPayload (g : Graph) : Expressible g.toPayload := by
  have hnodes : Expressible (.list (g.nodes.map Node.toPayload)) := by
    refine .list ?_
    simp only [List.forall_mem_map]
    exact fun n _ => n.expressible_toPayload
  have hedges : Expressible (.list (g.edges.map Edge.toPayload)) := by
    refine .list ?_
    simp only [List.forall_mem_map]
    exact fun e _ => e.expressible_toPayload
  refine .record (by simp) ?_
  simp [hnodes, hedges]

end Payload

/-- A written mapping is taken for JSON. -/
theorem isJsonText_write (indent : Option Nat) (fields : List (Scalar × Value)) :
    isJsonText (Json.write indent (.map fields)) = true := by
  rw [isJsonText, Json.write, String.toList_ofList]
  cases fields <;> rfl

/-- A mapping that JSON has a form for loads from its text. -/
theorem readGraphText_write {fields : List (Scalar × Value)} (h : Expressible (.map fields))
    (indent : Option Nat) :
    readGraphText (Json.write indent (.map fields)) = .ok (.map fields) := by
  rw [readGraphText, isJsonText_write, Json.read_write h]
  rfl

/-- The text of a graph loads as the classified graph, except that kinds which were set do not
count. -/
theorem Catalog.readGraph_write (c : Catalog) (g : Graph) (indent : Option Nat) :
    c.readGraph (Json.write indent g.toPayload) = .ok (c.classifyGraph g.eraseKinds) := by
  obtain ⟨fields, hfields, hnodes, hedges⟩ : ∃ fields, g.toPayload = .map fields ∧
      (Value.lookup? "nodes" fields).isNone = false ∧
      (Value.lookup? "edges" fields).isNone = false :=
    ⟨_, rfl, by simp, by simp [Value.lookup?_cons]⟩
  have hexpressible := g.expressible_toPayload
  have hread := g.read_toPayload c
  rw [hfields] at hexpressible hread ⊢
  rw [readGraph, readGraphText_write hexpressible, ← hread]
  simp only [bind, Except.bind, canvasOfValue, hnodes, hedges]
  cases Canvas.read (.map fields) <;> rfl

/-- The file of a graph is exported like the graph that a canvas hands over. -/
theorem Catalog.exportBytes_write (c : Catalog) (g : Graph) (indent : Option Nat) :
    c.exportBytes (Text.Utf8.encode (Json.write indent g.toPayload)) =
      c.exportGraph (c.classifyGraph g.eraseKinds) := by
  have hplain := Json.plain_write g.expressible_toPayload indent
  rw [exportBytes, textOfFile_encode hplain.return_notMem]
  simp only [Except.mapError, bind, Except.bind, c.readGraph_write]

end ServiceFlow
