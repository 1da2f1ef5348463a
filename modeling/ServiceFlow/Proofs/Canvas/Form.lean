import ServiceFlow.Load
import ServiceFlow.Proofs.Schema.Form

/-!
# The form of payloads

Which payloads of JSON a canvas may hand over, said without saying how they are read. Ids, ends and
types are texts that have to be there. What may be left out differs in whether it may also be null:
the texts of an edge and the mode of a node may, the label and the clauses of a node may not. A
comparator that goes by the editor's own name for it is not looked at under the other one.
-/

namespace ServiceFlow

open Schema Checked

/-- The form of a clause. -/
def Clause.form : Form :=
  .record "ConditionClauseSpec" [.optional "service" .text, .optional "component" .text,
    .preferring "function" (.optional "comparator" .text), .optional "value" .text]

/-- The form of the data of a node. -/
def NodeData.form : Form :=
  .record "NodeDataSpec" [.required "type" .text, .optional "label" .text,
    .optional "logicType" (.nullable .text), .optional "conditions" (.list Clause.form)]

/-- The form of a node. -/
def CanvasNode.form : Form :=
  .record "NodeSpec" [.required "id" .text, .required "data" NodeData.form]

/-- The form of the data of an edge. -/
def EdgeData.form : Form :=
  .record "EdgeDataSpec" [.optional "conditionType" (.nullable .text),
    .optional "customLogic" (.nullable .text), .optional "camundaCondition" (.nullable .text),
    .optional "label" (.nullable .text)]

/-- The form of an edge. -/
def CanvasEdge.form : Form :=
  .record "EdgeSpec" [.required "id" .text, .required "source" .text, .required "target" .text,
    .optional "sourceHandle" (.nullable .text), .optional "data" (.nullable EdgeData.form)]

/-- The form of a payload. -/
def Canvas.form : Form :=
  .record "GraphSpec" [.required "nodes" (.list CanvasNode.form),
    .required "edges" (.list CanvasEdge.form)]

theorem Clause.describes_check : Clause.form.Describes Clause.check := by
  refine Form.describes_record fun fields hj => ?_
  have htext (name : String) :
      (defaulted name "" text fields).TellsSlot (.optional name .text) fields :=
    Form.describes_text.optional hj name ""
  have hcomparator : (defaulted (comparatorName fields) "" text fields).TellsSlot
      (.preferring "function" (.optional "comparator" .text)) fields :=
    Form.describes_text.defaulted hj (.preferring "function" (.optional "comparator" .text))
      rfl rfl ""
  have hservice := (htext "service").single Clause.mk
  exact ((hservice.seq (htext "component") (by decide)).seq hcomparator (by decide)).seq
    (htext "value") (by decide)

theorem NodeData.describes_check : NodeData.form.Describes NodeData.check := by
  refine Form.describes_record fun fields hj => ?_
  have htype := (Form.describes_text.required hj "type").single NodeData.mk
  have hlabel := Form.describes_text.optional hj "label" ""
  have hmode := Form.describes_text.nullable.optional hj "logicType" none
  have hclauses := Clause.describes_check.list.optional hj "conditions" []
  have hothers := exists_undeclared_eq_ok hj NodeData.declared
  exact (((htype.seq hlabel (by decide)).seq hmode (by decide)).seq hclauses (by decide)).seq_ok
    hothers

theorem CanvasNode.describes_check : CanvasNode.form.Describes CanvasNode.check := by
  refine Form.describes_record fun fields hj => ?_
  have hid := (Form.describes_text.required hj "id").single CanvasNode.mk
  have hdata := NodeData.describes_check.required hj "data"
  exact hid.seq hdata (by decide)

theorem EdgeData.describes_check : EdgeData.form.Describes EdgeData.check := by
  refine Form.describes_record fun fields hj => ?_
  have htext (name : String) : (defaulted name none (nullable text) fields).TellsSlot
      (.optional name (.nullable .text)) fields :=
    Form.describes_text.nullable.optional hj name none
  have htype := (htext "conditionType").single EdgeData.mk
  have hothers := exists_undeclared_eq_ok hj EdgeData.declared
  exact (((htype.seq (htext "customLogic") (by decide)).seq (htext "camundaCondition")
    (by decide)).seq (htext "label") (by decide)).seq_ok hothers

theorem CanvasEdge.describes_check : CanvasEdge.form.Describes CanvasEdge.check := by
  refine Form.describes_record fun fields hj => ?_
  have htext (name : String) :
      (required name text fields).TellsSlot (.required name .text) fields :=
    Form.describes_text.required hj name
  have hid := (htext "id").single CanvasEdge.mk
  have hhandle := Form.describes_text.nullable.optional hj "sourceHandle" none
  have hdata := EdgeData.describes_check.nullable.optional hj "data" none
  exact (((hid.seq (htext "source") (by decide)).seq (htext "target") (by decide)).seq hhandle
    (by decide)).seq hdata (by decide)

namespace Canvas

theorem describes_check : Canvas.form.Describes Canvas.check := by
  refine Form.describes_record fun fields hj => ?_
  have hnodes := (CanvasNode.describes_check.list.required hj "nodes").single Canvas.mk
  have hedges := CanvasEdge.describes_check.list.required hj "edges"
  exact hnodes.seq hedges (by decide)

/-- A payload of JSON is read exactly when it has the form of one. When it is refused, the issues
are all that is wrong with it by that form, and each place at which something is wrong is named
once. -/
theorem read_iff_fits {v : Value} (hj : v.isJson = true) :
    ((∃ canvas, Canvas.read v = .ok canvas) ↔ Canvas.form.Fits v) ∧
      ∀ fault, Canvas.read v = .error fault → ∃ issues, fault = .canvas issues ∧ issues ≠ [] ∧
        (issues.map (·.place)).Nodup ∧
        ∀ place cause, ⟨place, cause⟩ ∈ issues ↔ Canvas.form.Misfit v place cause := by
  have h := describes_check v hj
  constructor
  · rw [← h.isOk_iff, Checked.isOk_iff]
    exact exists_congr fun canvas => Checked.toExcept_eq_ok_iff
  · intro fault hfault
    unfold Canvas.read at hfault
    cases hv : Canvas.check v with
    | ok canvas =>
        rw [hv] at hfault
        cases hfault
    | faulty issues =>
        rw [hv] at hfault h
        cases hfault
        refine ⟨issues, rfl, ?_, h.nodup, h.mem_issues_iff⟩
        intro hnil
        have hpassed := h.isOk_iff.mpr (h.issues_eq_nil_iff.mp hnil)
        cases hpassed

/-- The payload of two nodes and an edge. -/
def threeParts (first second edge : Value) : Value :=
  .record [("nodes", .list [first, second]), ("edges", .list [edge])]

/-- A payload in order, which makes use of what may be left out, of what may be null, of fields that
are not declared and of a comparator under both of its names. -/
def sparse : Value :=
  threeParts (.record [("id", .text "e"), ("data", .record [("type", .text "StartNode")])])
    (.record [("id", .text "s"), ("data", .record [("type", .text "IDV"), ("logicType", .null),
      ("size", .list [.int 1]), ("conditions", .list [
        .record [("comparator", .int 1), ("function", .text "eq")], .record []])])])
    (.record [("id", .text ""), ("source", .text "e"), ("target", .text "s"), ("data", .null),
      ("sourceHandle", .null)])

/-- A payload out of order: a node without an id whose label is null and whose comparator is no
text, a node that is no record, and an edge whose end and condition are numbers. -/
def damaged : Value :=
  threeParts (.record [("data", .record [("type", .text "IDV"), ("label", .null),
      ("conditions", .list [.record [("comparator", .int 1), ("function", .int 2)]])])])
    (.text "s")
    (.record [("id", .text "1"), ("source", .text "e"), ("target", .int 5),
      ("data", .record [("customLogic", .null), ("camundaCondition", .int 3)])])

/-- What is wrong with it. -/
def damages : List Issue :=
  [⟨[.field "nodes", .index 0, .field "id"], .missing⟩,
    ⟨[.field "nodes", .index 0, .field "data", .field "label"], .notText⟩,
    ⟨[.field "nodes", .index 0, .field "data", .field "conditions", .index 0, .field "function"],
      .notText⟩,
    ⟨[.field "nodes", .index 1], .notRecord "NodeSpec"⟩,
    ⟨[.field "edges", .index 0, .field "target"], .notText⟩,
    ⟨[.field "edges", .index 0, .field "data", .field "camundaCondition"], .notText⟩]

theorem read_iff_fits_damaged :
    sparse.isJson = true ∧ Canvas.form.Fits sparse ∧
      damaged.isJson = true ∧ Canvas.read damaged = .error (.canvas damages) ∧
      ¬ Canvas.form.Fits damaged ∧ (damages.map (·.place)).Nodup ∧
      ∀ place cause, Canvas.form.Misfit damaged place cause ↔ ⟨place, cause⟩ ∈ damages := by
  have hsparse : sparse.isJson = true := rfl
  have hdamaged : damaged.isJson = true := rfl
  have hread : Canvas.read damaged = .error (.canvas damages) := rfl
  obtain ⟨hfits, hissues⟩ := read_iff_fits hdamaged
  obtain ⟨issues, heq, -, hnodup, hmem⟩ := hissues _ hread
  cases heq
  refine ⟨hsparse, (read_iff_fits hsparse).1.mp ⟨_, rfl⟩, hdamaged, hread, ?_, hnodup,
    fun place cause => ?_⟩
  · intro h
    obtain ⟨canvas, hcanvas⟩ := hfits.mpr h
    cases hread.symm.trans hcanvas
  · exact (hmem place cause).symm

end Canvas

end ServiceFlow
