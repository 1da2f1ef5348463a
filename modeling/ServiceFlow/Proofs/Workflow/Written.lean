import ServiceFlow.Workflow.Findings

/-!
# Steps and their written form

A document is judged in its written form, in which a field can be absent or hold any value. The
fields of a step that was written from a typed one are known: this module reads each of them back,
so that nothing that is said about written steps has to look into the writing again.
-/

namespace ServiceFlow

namespace Step

/-- The name of the service that a step calls, if it is a step that calls one. -/
def service? : Step → Option String
  | service _ name _ _ => some name
  | _ => none

/-- The conditions that a step carries, if it has a list of them. -/
def conditions? : Step → Option (List Condition)
  | service _ _ conditions _ => conditions
  | _ => none

/-- The conditions of a step; a step without a list of them has none. -/
def guards (s : Step) : List Condition := s.conditions?.getD []

/-- Where a step goes on when no condition holds. -/
def next? : Step → Option String
  | finish _ => none
  | service _ _ _ goToStep => goToStep
  | fanOut _ _ goToStep => goToStep

/-- The steps that a step calls side by side. -/
def subSteps : Step → List String
  | fanOut _ ids _ => ids
  | _ => []

/-- The ids of other steps that stand in a step. -/
def references (s : Step) : List String :=
  s.next?.toList ++ s.guards.map (·.goToStep) ++ s.subSteps

theorem mem_references {s : Step} {t : String} : t ∈ s.references ↔
    s.next? = some t ∨ (∃ c ∈ s.guards, c.goToStep = t) ∨ t ∈ s.subSteps := by
  simp only [references, List.mem_append, Option.mem_toList, List.mem_map, or_assoc]

/-- The entries of a step as it is written. -/
def written (s : Step) : RawStep :=
  match s.toValue with
  | .map entries => entries
  | _ => []

/-- A step is written as a mapping. -/
theorem toValue_eq_map (s : Step) : s.toValue = .map s.written := by
  cases s <;> rfl

end Step

namespace RawStep

/-- The first entry of a record that has the name is the field. -/
theorem field_cons (name other : String) (v : Value) (rest : RawStep) :
    field ((.text other, v) :: rest) name = if other = name then v else field rest name := by
  by_cases h : other = name
  · subst h
    simp only [field, Value.lookup?_cons_self, Option.getD_some, ite_true]
  · simp only [field, Value.lookup?_cons_ne h, h, ite_false]

@[simp] theorem field_nil (name : String) : field [] name = .null := rfl

end RawStep

namespace Step

theorem written_finish (id : String) :
    (finish id).written = [(.text "type", .text "end"), (.text "id", .text id)] := rfl

theorem written_service (id name : String) (conditions : Option (List Condition))
    (goToStep : Option String) :
    (service id name conditions goToStep).written =
      (.text "type", .text "service") :: (.text "id", .text id) :: (.text "service", .text name) ::
        ((conditions.map fun cs => (.text "conditions", .list (cs.map Condition.toValue))).toList ++
          (goToStep.map fun t => (.text "goToStep", .text t)).toList) := by
  cases conditions <;> cases goToStep <;> rfl

theorem written_fanOut (id : String) (subSteps : List String) (goToStep : Option String) :
    (fanOut id subSteps goToStep).written =
      (.text "type", .text "multi_services") :: (.text "id", .text id) ::
        (.text "subSteps", .list (subSteps.map .text)) ::
          (goToStep.map fun t => (.text "goToStep", .text t)).toList := by
  cases goToStep <;> rfl

/-- The id of a step is its field of that name. -/
@[simp] theorem field_id (s : Step) : s.written.field "id" = .text s.id := by
  cases s <;> simp [written_finish, written_service, written_fanOut, RawStep.field_cons, Step.id]

/-- The type of a step is its field of that name. -/
@[simp] theorem field_type (s : Step) : s.written.field "type" = .text s.typeName := by
  cases s <;>
    simp [written_finish, written_service, written_fanOut, RawStep.field_cons, Step.typeName]

/-- The service of a step is its field of that name, which only a service step has. -/
@[simp] theorem field_service (s : Step) :
    s.written.field "service" = (s.service?.map Value.text).getD .null := by
  cases s with
  | finish id => simp [written_finish, RawStep.field_cons, service?]
  | service id name conditions goToStep =>
      simp [written_service, RawStep.field_cons, service?]
  | fanOut id ids goToStep =>
      cases goToStep <;> simp [written_fanOut, RawStep.field_cons, service?]

/-- The continuation of a step is its field `goToStep`, absent when there is none. -/
@[simp] theorem field_goToStep (s : Step) :
    s.written.field "goToStep" = (s.next?.map Value.text).getD .null := by
  cases s with
  | finish id => simp [written_finish, RawStep.field_cons, next?]
  | service id name conditions goToStep =>
      cases conditions <;> cases goToStep <;>
        simp [written_service, RawStep.field_cons, next?]
  | fanOut id ids goToStep =>
      cases goToStep <;> simp [written_fanOut, RawStep.field_cons, next?]

/-- The list of conditions of a step is its field of that name, absent when there is no list. -/
@[simp] theorem field_conditions (s : Step) :
    s.written.field "conditions" =
      (s.conditions?.map fun cs => .list (cs.map Condition.toValue)).getD .null := by
  cases s with
  | finish id => simp [written_finish, RawStep.field_cons, conditions?]
  | service id name conditions goToStep =>
      cases conditions <;> cases goToStep <;>
        simp [written_service, RawStep.field_cons, conditions?]
  | fanOut id ids goToStep =>
      cases goToStep <;> simp [written_fanOut, RawStep.field_cons, conditions?]

/-- The sub-steps of a step are its field of that name, which only a fan-out has. -/
theorem field_subSteps_fanOut (id : String) (ids : List String) (goToStep : Option String) :
    (fanOut id ids goToStep).written.field "subSteps" = .list (ids.map .text) := by
  simp [written_fanOut, RawStep.field_cons]

end Step

end ServiceFlow
