import ServiceFlow.Proofs.Workflow.Acceptance
import ServiceFlow.Proofs.Workflow.Reload

/-!
# The verdict on written documents

A written document may hold any values at any places. The verdict on it is told here by what stands
in its fields: which documents have no findings, which are rejected as a whole, and which findings
the others have on their references. A document that is not rejected has one finding for each place
where a reference names no step, in the order in which these places are read.
-/

namespace ServiceFlow

/-- A reference to a step, by the place in a written step where it stands. -/
inductive Reference where
  | continuation (target : Value)
  | condition (target : Value)
  | subStep (target : Value)

namespace Reference

/-- What a reference names. -/
def target : Reference → Value
  | continuation target | condition target | subStep target => target

/-- The finding on a reference of a step, given the id of the step, that it names no step. -/
def finding (step : Value) : Reference → Finding
  | continuation target => .unknownGoTo step target
  | condition target => .unknownConditionTarget step target
  | subStep target => .unknownSubStep step target

end Reference

namespace RawStep

/-- Whether a value is the id of one of the steps. Only texts count as ids. -/
def Names (steps : List RawStep) (v : Value) : Prop :=
  ∃ id : String, v = .text id ∧ ∃ s ∈ steps, s.field "id" = .text id

/-- What is asked of a step of a document with the given steps. -/
structure InOrder (steps : List RawStep) (s : RawStep) : Prop where
  /-- There is something in its id. -/
  id : (s.field "id").isTruthy = true
  /-- A service step has something in its service. -/
  service : s.field "type" = .text "service" → (s.field "service").isTruthy = true
  /-- If there is something in its conditions, there is something in its continuation. -/
  fallback : (s.field "conditions").isTruthy = true → (s.field "goToStep").isTruthy = true
  /-- If there is something in its continuation, that names a step. -/
  continuation : (s.field "goToStep").isTruthy = true → Names steps (s.field "goToStep")
  /-- Each of its listed conditions is a mapping whose continuation names a step. -/
  conditions : ∀ items, s.field "conditions" = .list items → ∀ c ∈ items, ∃ fields target,
    c = .map fields ∧ Value.lookup? "goToStep" fields = some target ∧ Names steps target
  /-- Each of the listed sub-steps of a fan-out names a step. -/
  subSteps : s.field "type" = .text "multi_services" →
    ∀ items, s.field "subSteps" = .list items → ∀ t ∈ items, Names steps t

/-- The references of a step: the continuation if there is something in it, what the listed
conditions lead to, and the listed sub-steps of a fan-out. -/
def references (s : RawStep) : List Reference :=
  (if (s.field "goToStep").isTruthy then [.continuation (s.field "goToStep")] else [])
    ++ (s.items "conditions").map (fun c => .condition (conditionTarget c))
    ++ (if s.hasType "multi_services" then (s.items "subSteps").map .subStep else [])

end RawStep

namespace Value

/-- Whether a value is a mapping whose list of steps is the given one. A mapping without an entry
for steps has an empty list of them. -/
def HasSteps (d : Value) (steps : List RawStep) : Prop :=
  ∃ fields, d = .map fields ∧ (lookup? "steps" fields).getD (.list []) = .list (steps.map .map)

/-- Whether a value is a document that can be run. -/
def IsRunnable (d : Value) : Prop :=
  ∃ fields steps start, d = .map fields ∧ lookup? "steps" fields = some (.list (steps.map .map)) ∧
    lookup? "startStep" fields = some start ∧ RawStep.Names steps start ∧
      ∀ s ∈ steps, RawStep.InOrder steps s

end Value

namespace RawStep

variable {steps : List RawStep} {s : RawStep} {v : Value}

/-- A value refers to an id of the steps when it names one of them. -/
theorem refersTo_rawIds_iff : refersTo (rawIds steps) v = true ↔ Names steps v := by
  simp only [refersTo_iff, rawIds, List.mem_filterMap, id?_eq_some_iff, Names]
  constructor
  · rintro ⟨id, hs, rfl⟩
    exact ⟨id, rfl, hs⟩
  · rintro ⟨id, rfl, hs⟩
    exact ⟨id, hs, rfl⟩

instance (steps : List RawStep) : DecidablePred (Names steps) :=
  fun _ => decidable_of_iff _ refersTo_rawIds_iff

/-- The findings on those references of a step that name none of the steps. -/
def unresolved (steps : List RawStep) (s : RawStep) : List Finding :=
  (s.references.filter fun r => ¬ Names steps r.target).map (Reference.finding (s.field "id"))

theorem not_names_null : ¬ Names steps .null := by
  rintro ⟨id, h, -⟩
  cases h

/-- A condition leads to a step when it is a mapping whose continuation names one. -/
theorem names_conditionTarget_iff : Names steps (conditionTarget v) ↔
    ∃ fields target, v = .map fields ∧ Value.lookup? "goToStep" fields = some target ∧
      Names steps target := by
  cases v with
  | map fields =>
      cases h : Value.lookup? "goToStep" fields with
      | none => simp [conditionTarget, h, not_names_null]
      | some target => simp [conditionTarget, h]
  | _ => simp [conditionTarget, not_names_null]

/-- A step is sound when it is in order. -/
theorem sound_iff : s.Sound (rawIds steps) ↔ s.InOrder steps := by
  constructor
  · intro h
    exact {
      id := h.id
      service := fun ht => h.service (hasType_iff.mpr ht)
      fallback := h.fallback
      continuation := fun ht => refersTo_rawIds_iff.mp (h.continuation ht)
      conditions := fun items hi c hc => names_conditionTarget_iff.mp
        (refersTo_rawIds_iff.mp (h.targets c (mem_items_iff.mpr ⟨items, hi, hc⟩)))
      subSteps := fun ht items hi t hm => refersTo_rawIds_iff.mp
        (h.subSteps (hasType_iff.mpr ht) t (mem_items_iff.mpr ⟨items, hi, hm⟩)) }
  · intro h
    refine ⟨h.id, fun ht => h.service (hasType_iff.mp ht), h.fallback, ?_, ?_, ?_⟩
    · intro ht
      exact refersTo_rawIds_iff.mpr (h.continuation ht)
    · intro c hc
      obtain ⟨items, hi, hmem⟩ := mem_items_iff.mp hc
      exact refersTo_rawIds_iff.mpr (names_conditionTarget_iff.mpr (h.conditions items hi c hmem))
    · intro ht t hm
      obtain ⟨items, hi, hmem⟩ := mem_items_iff.mp hm
      exact refersTo_rawIds_iff.mpr (h.subSteps (hasType_iff.mp ht) items hi t hmem)

/-- The findings on the references of a step are those on the references to none of the ids, each
once and in the order of the references. -/
theorem danglingReferences_eq (ids : List String) (s : RawStep) :
    s.danglingReferences ids =
      (s.references.filter (!refersTo ids ·.target)).map (Reference.finding (s.field "id")) := by
  have hgoTo : (if (s.field "goToStep").isTruthy && !refersTo ids (s.field "goToStep") then
        [Finding.unknownGoTo (s.field "id") (s.field "goToStep")] else []) =
      ((if (s.field "goToStep").isTruthy then [Reference.continuation (s.field "goToStep")] else
        []).filter (!refersTo ids ·.target)).map (Reference.finding (s.field "id")) := by
    cases (s.field "goToStep").isTruthy with
    | false => rfl
    | true => cases h : refersTo ids (s.field "goToStep") <;> simp [h, Reference.target,
        Reference.finding]
  have hsubSteps : (if s.hasType "multi_services" then
        (s.items "subSteps").filter (!refersTo ids ·) else []).map
          (.unknownSubStep (s.field "id") ·) =
      ((if s.hasType "multi_services" then (s.items "subSteps").map Reference.subStep else
        []).filter (!refersTo ids ·.target)).map (Reference.finding (s.field "id")) := by
    cases s.hasType "multi_services" with
    | false => rfl
    | true => simp only [ite_true, List.filter_map, List.map_map, Function.comp_def,
        Reference.target, Reference.finding]
  simp only [danglingReferences, references, List.filter_append, List.map_append, hgoTo, hsubSteps,
    List.filter_map, List.map_map, Function.comp_def, Reference.target, Reference.finding]

/-- The findings on the references of a step of a document are those on the references that name no
step. -/
theorem danglingReferences_ids (steps : List RawStep) :
    danglingReferences (steps.filterMap id?) = unresolved steps := by
  funext s
  rw [danglingReferences_eq, unresolved]
  refine congrArg _ (List.filter_congr fun r _ => ?_)
  rw [Bool.eq_iff_iff, decide_eq_true_iff, ← refersTo_rawIds_iff, Bool.not_eq_true',
    Bool.not_eq_true, rawIds]

end RawStep

variable {d : Value} {steps : List RawStep}

/-- A value has the given steps when these are read as its steps. -/
theorem rawSteps_eq_ok_iff_hasSteps : rawSteps d = .ok steps ↔ d.HasSteps steps :=
  rawSteps_eq_ok_iff

/-- A value that has no list of steps is rejected as a whole. -/
theorem rawSteps_eq_error {f : Finding} (h : rawSteps d = .error f) :
    f = .notADocument ∨ f = .notARecord := by
  unfold rawSteps at h
  split at h
  · split at h
    · split at h
      · cases h
      · exact .inr (Except.error.inj h).symm
    · exact .inl (Except.error.inj h).symm
  · exact .inl (Except.error.inj h).symm

/-- The finding of such a value names nothing, and its message says what it is about. -/
theorem message_of_rawSteps {f : Finding} (h : rawSteps d = .error f) :
    f.values = [] ∧ ∃ what, f.message = "Invalid workflow document: " ++ what := by
  rcases rawSteps_eq_error h with rfl | rfl
  · exact ⟨rfl, "expected a mapping with a list of steps", by decide⟩
  · exact ⟨rfl, "every step must be a mapping", by decide⟩

/-- The findings on the steps of a document before those on their references. -/
def headFindings (entry : Option String) (start : Value) (steps : List RawStep) : List Finding :=
  counted .missingIds (steps.countP fun s => !(s.field "id").isTruthy)
    ++ counted .missingServices (steps.countP RawStep.lacksService)
    ++ counted .missingFallbacks (steps.countP RawStep.lacksFallback)
    ++ (if refersTo (rawIds steps ++ (entry.filter (· != "")).toList) start then [] else
      [.unknownStart start])

/-- Each of these is a count or is on the start step. -/
theorem isCount_or_eq_of_mem_headFindings {entry : Option String} {start : Value} {f : Finding}
    (hf : f ∈ headFindings entry start steps) : f.isCount = true ∨ f = .unknownStart start := by
  simp only [headFindings, List.mem_append] at hf
  obtain ((hids | hservices) | hfallbacks) | hstart := hf
  · exact .inl (isCount_of_mem_counted (fun _ => rfl) hids)
  · exact .inl (isCount_of_mem_counted (fun _ => rfl) hservices)
  · exact .inl (isCount_of_mem_counted (fun _ => rfl) hfallbacks)
  · split at hstart
    · cases hstart
    · exact .inr (List.mem_singleton.mp hstart)

/-- None of these is on a reference of a step. -/
theorem isReference_of_mem_headFindings {entry : Option String} {start : Value} {f : Finding}
    (hf : f ∈ headFindings entry start steps) : f.isReference = false := by
  rcases isCount_or_eq_of_mem_headFindings hf with hcount | rfl
  · cases f <;> first | rfl | cases hcount
  · rfl

/-- The findings on a document are those on its steps. -/
theorem documentFindings_eq_stepFindings (entry : Option String) (h : d.HasSteps steps) :
    documentFindings entry d = stepFindings entry (rawStart d) steps := by
  rw [documentFindings, rawSteps_eq_ok_iff_hasSteps.mpr h]

/-- The findings on a document are those before its references, and then step by step those on the
references that name no step. -/
theorem documentFindings_eq (entry : Option String) (h : d.HasSteps steps) :
    documentFindings entry d =
      headFindings entry (rawStart d) steps ++ steps.flatMap (RawStep.unresolved steps) := by
  rw [documentFindings_eq_stepFindings entry h, ← RawStep.danglingReferences_ids]
  rfl

/-- A document that can be run is one whose steps are read and sound and whose start names one. -/
theorem Value.isRunnable_iff : d.IsRunnable ↔ ∃ steps, d.HasSteps steps ∧
    RawStep.Names steps (rawStart d) ∧ ∀ s ∈ steps, RawStep.InOrder steps s := by
  constructor
  · rintro ⟨fields, steps, start, rfl, hsteps, hstart, hnames, hall⟩
    refine ⟨steps, ⟨fields, rfl, by rw [hsteps, Option.getD_some]⟩, ?_, hall⟩
    rwa [rawStart, hstart, Option.getD_some]
  · rintro ⟨steps, ⟨fields, rfl, hsteps⟩, hnames, hall⟩
    obtain ⟨id, hstart, s, hs, hid⟩ := hnames
    have hlist : Value.lookup? "steps" fields = some (.list (steps.map .map)) := by
      cases hl : Value.lookup? "steps" fields with
      | none =>
          rw [hl, Option.getD_none, Value.list.injEq, eq_comm, List.map_eq_nil_iff] at hsteps
          exact absurd (hsteps ▸ hs) List.not_mem_nil
      | some v => rw [← hsteps, hl, Option.getD_some]
    exact ⟨fields, steps, .text id, rfl, hlist, RawStep.lookup?_of_field hstart (by simp),
      ⟨id, rfl, s, hs, hid⟩, hall⟩

/-- A written document has no findings exactly when it can be run. A value without a list of steps
is rejected with one finding; any other has, after its other findings, one finding for each
reference that names no step: in the order of the steps, and for a step in the order of its
references. -/
theorem documentFindings_verdict (d : Value) :
    (documentFindings none d = [] ↔ d.IsRunnable) ∧
      ((∃ f what, documentFindings none d = [f] ∧ f.values = [] ∧
          f.message = "Invalid workflow document: " ++ what ∧ ∀ steps, ¬ d.HasSteps steps) ∨
        ∃ steps others, d.HasSteps steps ∧ (∀ f ∈ others, f.isReference = false) ∧
          documentFindings none d = others ++ steps.flatMap (RawStep.unresolved steps)) := by
  refine ⟨?_, ?_⟩
  · rw [documentFindings_eq_nil_iff, Value.isRunnable_iff]
    simp only [rawSteps_eq_ok_iff_hasSteps, Option.filter_none, Option.toList_none,
      List.append_nil, RawStep.refersTo_rawIds_iff, RawStep.sound_iff]
  · cases h : rawSteps d with
    | error f =>
        obtain ⟨hvalues, what, hwhat⟩ := message_of_rawSteps h
        refine .inl ⟨f, what, by rw [documentFindings, h], hvalues, hwhat, fun steps hsteps => ?_⟩
        rw [rawSteps_eq_ok_iff_hasSteps.mpr hsteps] at h
        cases h
    | ok steps =>
        have hsteps := rawSteps_eq_ok_iff_hasSteps.mp h
        exact .inr ⟨steps, headFindings none (rawStart d) steps, hsteps,
          fun f => isReference_of_mem_headFindings, documentFindings_eq none hsteps⟩

end ServiceFlow
