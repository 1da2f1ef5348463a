import ServiceFlow.Load
import ServiceFlow.Proofs.Json.RoundTrip
import ServiceFlow.Proofs.Workflow.Written

/-!
# Documents read back

A document is written as a value with a form in JSON, and the schema of documents reads that value
as the document with its entry node forgotten: a field that was left out has its default, an empty
list is not the same as none, and the type of a step leads back to its shape. A document that was
read from any payload has no entry node to forget, so it reads back as itself.
-/

namespace ServiceFlow

open Schema

/-- A written condition reads back. -/
theorem Condition.check_toValue (c : Condition) : Condition.check c.toValue = .ok c := by
  obtain ⟨fields, hfields, hcondition, hgoTo⟩ : ∃ fields, c.toValue = .map fields ∧
      Value.lookup? "condition" fields = some (.text c.condition) ∧
      Value.lookup? "goToStep" fields = some (.text c.goToStep) :=
    ⟨_, rfl, by simp, by simp [Value.lookup?_cons]⟩
  have hread : required "condition" text fields = .ok c.condition := required_eq_ok hcondition rfl
  have hnext : required "goToStep" text fields = .ok c.goToStep := required_eq_ok hgoTo rfl
  simp only [Condition.check, hfields, record, hread, hnext]
  rfl

namespace Step

/-- Every written step has its id. -/
theorem lookup?_id (s : Step) : Value.lookup? "id" s.written = some (.text s.id) := by
  cases s <;>
    simp [written_finish, written_service, written_fanOut, Value.lookup?_cons, Step.id]

/-- A written step has a continuation when the step has one. -/
theorem lookup?_goToStep (s : Step) :
    Value.lookup? "goToStep" s.written = s.next?.map .text := by
  cases s with
  | finish id => simp [written_finish, Value.lookup?_cons, next?]
  | service id name conditions goToStep =>
      cases conditions <;> cases goToStep <;> simp [written_service, Value.lookup?_cons, next?]
  | fanOut id ids goToStep =>
      cases goToStep <;> simp [written_fanOut, Value.lookup?_cons, next?]

/-- A written step has a list of conditions when the step has one, be it empty. -/
theorem lookup?_conditions (s : Step) : Value.lookup? "conditions" s.written =
    s.conditions?.map fun cs => .list (cs.map Condition.toValue) := by
  cases s with
  | finish id => simp [written_finish, Value.lookup?_cons, conditions?]
  | service id name conditions goToStep =>
      cases conditions <;> cases goToStep <;>
        simp [written_service, Value.lookup?_cons, conditions?]
  | fanOut id ids goToStep =>
      cases goToStep <;> simp [written_fanOut, Value.lookup?_cons, conditions?]

/-- The fields of a written step read back by its type. -/
theorem checkFields_written (s : Step) : checkFields s.typeName s.written = .ok s := by
  have hid : required "id" text s.written = .ok s.id := required_eq_ok s.lookup?_id rfl
  have hgoTo : defaulted "goToStep" none (nullable text) s.written = .ok s.next? :=
    defaulted_nullable s.lookup?_goToStep fun _ => rfl
  cases s with
  | finish id =>
      simp only [checkFields, typeName, ite_true, hid]
      rfl
  | service id name conditions goToStep =>
      have hname : Value.lookup? "service" (service id name conditions goToStep).written =
          some (.text name) := by
        simp [written_service, Value.lookup?_cons]
      have hservice : required "service" text (service id name conditions goToStep).written =
          .ok name := required_eq_ok hname rfl
      have hitems (cs : List Condition) :
          nullable (list Condition.check) (.list (cs.map Condition.toValue)) = .ok (some cs) := by
        simp only [nullable, list_map_self Condition.check_toValue, Checked.map]
      have hconditions : defaulted "conditions" none (nullable (list Condition.check))
          (service id name conditions goToStep).written = .ok conditions :=
        defaulted_nullable (lookup?_conditions _) hitems
      have hne : "service" ≠ "end" := by decide
      simp only [checkFields, typeName, hne, ite_false, ite_true, hid, hservice, hconditions, hgoTo]
      rfl
  | fanOut id ids goToStep =>
      have hitems : list text (.list (ids.map .text)) = .ok ids := list_map_self text_text ids
      have hlookup : Value.lookup? "subSteps" (fanOut id ids goToStep).written =
          some (.list (ids.map .text)) := by
        simp [written_fanOut, Value.lookup?_cons]
      have hsubSteps : defaulted "subSteps" [] (list text) (fanOut id ids goToStep).written =
          .ok ids := defaulted_eq_ok hlookup hitems []
      have hend : "multi_services" ≠ "end" := by decide
      have hservice : "multi_services" ≠ "service" := by decide
      simp only [checkFields, typeName, hend, hservice, ite_false, hid, hsubSteps, hgoTo]
      rfl

/-- A written step reads back. -/
theorem check_toValue (s : Step) : check s.toValue = .ok s := by
  have htype : Value.lookup? "type" s.written = some (.text s.typeName) := by
    cases s <;> simp [written_finish, written_service, written_fanOut, typeName]
  have hname : typeNames.contains s.typeName = true := by cases s <;> rfl
  rw [toValue_eq_map]
  simp only [check, htype, checkTagged, hname, ite_true, checkFields_written, Checked.within]

end Step

/-- A condition is written as a value that JSON has a form for. -/
theorem Condition.expressible_toValue (c : Condition) : Json.Expressible c.toValue := by
  refine .record (by simp) ?_
  simp only [List.forall_mem_cons]
  exact ⟨.text _, .text _, List.forall_mem_nil _⟩

/-- A step is written as a value that JSON has a form for. -/
theorem Step.expressible_toValue (s : Step) : Json.Expressible s.toValue := by
  have htexts (ids : List String) : Json.Expressible (.list (ids.map .text)) := by
    refine .list ?_
    simp only [List.forall_mem_map]
    exact fun t _ => .text t
  have hconditions (cs : List Condition) :
      Json.Expressible (.list (cs.map Condition.toValue)) := by
    refine .list ?_
    simp only [List.forall_mem_map]
    exact fun c _ => c.expressible_toValue
  cases s with
  | finish id =>
      refine .record (by simp) ?_
      simp only [List.forall_mem_cons]
      exact ⟨.text _, .text _, List.forall_mem_nil _⟩
  | service id name conditions goToStep =>
      cases conditions <;> cases goToStep <;> refine .record (by simp [optionalField]) ?_ <;>
        simp [optionalField, Json.Expressible.text, hconditions]
  | fanOut id ids goToStep =>
      cases goToStep <;> refine .record (by simp [optionalField]) ?_ <;>
        simp [optionalField, Json.Expressible.text, htexts]

namespace Workflow

/-- A document is written as a value that JSON has a form for. -/
theorem expressible_toValue (w : Workflow) : Json.Expressible w.toValue := by
  have hsteps : Json.Expressible (.list (w.steps.map Step.toValue)) := by
    refine .list ?_
    simp only [List.forall_mem_map]
    exact fun s _ => s.expressible_toValue
  refine .record (by simp) ?_
  simp [Json.Expressible.text, hsteps]

/-- A written document reads back, its entry node forgotten. -/
theorem read_toValue (w : Workflow) : Workflow.read w.toValue = .ok w.forgetEntry := by
  obtain ⟨fields, hfields, hstart, hsteps⟩ : ∃ fields, w.toValue = .map fields ∧
      Value.lookup? "startStep" fields = some (.text w.startStep) ∧
      Value.lookup? "steps" fields = some (.list (w.steps.map Step.toValue)) :=
    ⟨_, rfl, by simp, by simp [Value.lookup?_cons]⟩
  have hread : required "startStep" text fields = .ok w.startStep := required_eq_ok hstart rfl
  have hlist : defaulted "steps" [] (list Step.check) fields = .ok w.steps :=
    defaulted_eq_ok hsteps (list_map_self Step.check_toValue w.steps) []
  simp only [Workflow.read, Workflow.check, hfields, record, hread, hlist]
  rfl

/-- A document that was read has no entry node. -/
theorem entryStep_of_read {p : Value} {w : Workflow} (h : Workflow.read p = .ok w) :
    w.entryStep = none := by
  have hcheck : Workflow.check p = .ok w := Checked.toExcept_eq_ok_iff.mp h
  cases p with
  | map fields =>
      obtain ⟨g, steps, hg, -, rfl⟩ := Checked.seq_eq_ok_iff.mp hcheck
      obtain ⟨start, -, rfl⟩ := Checked.map_eq_ok_iff.mp hg
      rfl
  | _ => simp [Workflow.check, record, Checked.fail] at hcheck

/-- A document and what is written of it stand for each other. The JSON text of a document, however
far it is indented, reads as the written document; that reads back as the document, of which only
the entry node is forgotten; and a document that was read from any payload reads back unchanged, so
that writing and reading it again adds nothing and loses nothing. -/
theorem toJson_readsBack (w : Workflow) (indent : Nat) :
    Json.read (w.toJson indent) = .ok w.toValue ∧
      Workflow.read w.toValue = .ok w.forgetEntry ∧
      ∀ p v, Workflow.read p = .ok v → Workflow.read v.toValue = .ok v := by
  refine ⟨Json.read_write w.expressible_toValue (some indent), w.read_toValue, ?_⟩
  intro p v hv
  have hforget : v.forgetEntry = v := by
    rw [forgetEntry, ← entryStep_of_read hv]
  rw [read_toValue, hforget]

/-- A document with an empty list, an empty continuation and no steps called side by side, and with
texts that are escaped in every way. -/
def escapedTexts : Workflow where
  startStep := "a\x00\x7f\"\\/\n"
  steps := [.finish "", .service "é😀\uffff" "" (some []) (some ""),
    .service "s" "idv" (some [⟨"\t\r", "t"⟩]) none, .fanOut "f" [] none]
  entryStep := some "e"

/-- A payload of a document with its fields in another order, a null field and a field that is not
declared. -/
def looseDocument : Value :=
  .record [("steps", .list [.record [("goToStep", .null), ("conditions", .list []),
    ("note", .int 3), ("service", .text "idv"), ("id", .text "s"), ("type", .text "service")]]),
    ("startStep", .text "s")]

theorem toJson_readsBack_escapedTexts :
    Json.read (escapedTexts.toJson 2) = .ok escapedTexts.toValue ∧
      Workflow.read escapedTexts.toValue = .ok { escapedTexts with entryStep := none } ∧
      Workflow.read looseDocument = .ok ⟨"s", [.service "s" "idv" (some []) none], none⟩ ∧
      Workflow.read (Workflow.toValue ⟨"s", [.service "s" "idv" (some []) none], none⟩) =
        .ok ⟨"s", [.service "s" "idv" (some []) none], none⟩ := by
  obtain ⟨hjson, hread, hagain⟩ := toJson_readsBack escapedTexts 2
  have hloose : Workflow.read looseDocument =
    .ok ⟨"s", [.service "s" "idv" (some []) none], none⟩ := rfl
  exact ⟨hjson, hread, hloose, hagain _ _ hloose⟩

example : Workflow.toJson ⟨"é😀", [], none⟩ 1 =
    "\x7b\n \"startStep\": \"\\u00e9\\ud83d\\ude00\",\n \"steps\": []\n\x7d" := by decide

end Workflow

end ServiceFlow
