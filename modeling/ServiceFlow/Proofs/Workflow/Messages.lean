import ServiceFlow.Proofs.Json.Legible
import ServiceFlow.Proofs.Outcome
import ServiceFlow.Proofs.Workflow.Verdict
import ServiceFlow.Workflow.Validation

/-!
# Messages on documents

Checking a document puts its findings in words, each in one message, or fails because one of them
names a whole number beyond the limit on digits. A finding names no value that the document does not
hold. So a document that can be displayed is checked without fail, and that is every document that
is read from a JSON text and every one that is a workflow in its written form.
-/

namespace ServiceFlow

section Legible

variable {d : Value} {steps : List RawStep}

/-- A field of a step that can be displayed can be displayed. -/
theorem RawStep.isLegible_field {s : RawStep} (h : (Value.map s).isLegible = true) (name : String) :
    (s.field name).isLegible = true := by
  unfold field
  cases hl : Value.lookup? name s with
  | none => rfl
  | some v => exact Value.isLegible_of_lookup? h hl

/-- What a reference of a step names can be displayed when the step can. -/
theorem RawStep.isLegible_target {s : RawStep} (h : (Value.map s).isLegible = true) :
    ∀ r ∈ s.references, r.target.isLegible = true := by
  have hitems {name : String} {v : Value} (hv : v ∈ s.items name) : v.isLegible = true := by
    obtain ⟨items, hi, hmem⟩ := mem_items_iff.mp hv
    have hfield := isLegible_field h name
    rw [hi] at hfield
    exact Value.isLegible_list_iff.mp hfield v hmem
  intro r hr
  simp only [references, List.mem_append, List.mem_map] at hr
  obtain (hr | ⟨c, hc, rfl⟩) | hr := hr
  · split at hr
    · rw [List.mem_singleton.mp hr]
      exact isLegible_field h "goToStep"
    · cases hr
  · have hc := hitems hc
    cases c with
    | map fields => exact isLegible_field hc "goToStep"
    | _ => rfl
  · split at hr
    · obtain ⟨t, ht, rfl⟩ := List.mem_map.mp hr
      exact hitems ht
    · cases hr

/-- The steps of a document that can be displayed can be displayed. -/
theorem isLegible_of_mem_steps (h : d.isLegible = true) (hsteps : d.HasSteps steps) :
    ∀ s ∈ steps, (Value.map s).isLegible = true := by
  obtain ⟨fields, rfl, hlist⟩ := hsteps
  have hlegible : (Value.list (steps.map .map)).isLegible = true := by
    rw [← hlist]
    cases hl : Value.lookup? "steps" fields with
    | none => rfl
    | some v => exact Value.isLegible_of_lookup? h hl
  intro s hs
  exact Value.isLegible_list_iff.mp hlegible _ (List.mem_map_of_mem hs)

/-- The findings before those on references name the start step at most. -/
theorem eq_of_mem_values {entry : Option String} {start v : Value} {f : Finding}
    (hf : f ∈ headFindings entry start steps) (hv : v ∈ f.values) : v = start := by
  rcases isCount_or_eq_of_mem_headFindings hf with hcount | rfl
  · have hvalues : f.values = [] := by
      cases f <;> first | rfl | cases hcount
    rw [hvalues] at hv
    cases hv
  · exact List.mem_singleton.mp hv

/-- The findings on a document that can be displayed name values that can be displayed. -/
theorem documentFindings_legible {entry : Option String} (h : d.isLegible = true) :
    ∀ f ∈ documentFindings entry d, ∀ v ∈ f.values, v.isLegible = true := by
  intro f hf v hv
  cases hsteps : rawSteps d with
  | error finding =>
      rw [documentFindings, hsteps, List.mem_singleton] at hf
      subst hf
      rw [(message_of_rawSteps hsteps).1] at hv
      cases hv
  | ok steps =>
      have hsteps := rawSteps_eq_ok_iff_hasSteps.mp hsteps
      have hstep := isLegible_of_mem_steps h hsteps
      rw [documentFindings_eq entry hsteps] at hf
      obtain hf | hf := List.mem_append.mp hf
      · obtain ⟨fields, rfl, -⟩ := hsteps
        rw [eq_of_mem_values hf hv]
        exact RawStep.isLegible_field h "startStep"
      · obtain ⟨s, hs, hf⟩ := List.mem_flatMap.mp hf
        obtain ⟨r, hr, rfl⟩ := List.mem_map.mp hf
        have hvalues : (r.finding (s.field "id")).values = [s.field "id", r.target] := by
          cases r <;> rfl
        rw [hvalues] at hv
        rcases List.mem_cons.mp hv with rfl | hv
        · exact RawStep.isLegible_field (hstep s hs) "id"
        · rw [List.mem_singleton.mp hv]
          exact RawStep.isLegible_target (hstep s hs) r (List.mem_filter.mp hr).1

end Legible

section Words

variable {findings : List Finding}

/-- A finding can be put in words when the values that it names can be displayed. -/
theorem Finding.isLegible_iff {f : Finding} :
    f.isLegible = true ↔ ∀ v ∈ f.values, v.isLegible = true := List.all_eq_true

/-- Findings that can be put in words have a message each. -/
theorem mapM_inWords_of_legible (h : ∀ f ∈ findings, f.isLegible = true) :
    findings.mapM Finding.inWords = .ok (findings.map Finding.message) :=
  mapM_eq_ok fun f hf => by rw [Finding.inWords, if_pos (h f hf)]

/-- One finding that cannot be put in words leaves all of them without. -/
theorem mapM_inWords_of_illegible (h : ∃ f ∈ findings, f.isLegible = false) :
    findings.mapM Finding.inWords = .error .illegible := by
  obtain ⟨f, hf, hlegible⟩ := h
  refine mapM_eq_error ?_ ⟨f, hf, ?_⟩
  · intro g _ e hg
    unfold Finding.inWords at hg
    split at hg
    · cases hg
    · exact (Except.error.inj hg).symm
  · rw [Finding.inWords, if_neg (Bool.eq_false_iff.mp hlegible)]

/-- There are no messages when there is nothing to be put in words, and only then. -/
theorem mapM_inWords_eq_nil_iff : findings.mapM Finding.inWords = .ok [] ↔ findings = [] := by
  constructor
  · intro h
    by_cases hlegible : ∀ f ∈ findings, f.isLegible = true
    · rw [mapM_inWords_of_legible hlegible] at h
      exact List.map_eq_nil_iff.mp (Except.ok.inj h)
    · push Not at hlegible
      simp only [Bool.not_eq_true] at hlegible
      rw [mapM_inWords_of_illegible hlegible] at h
      cases h
  · rintro rfl
    rfl

end Words

section Outcomes

variable {d : Value} {entry : Option String}

/-- The findings on a document that can be displayed can be put in words. -/
theorem isLegible_of_mem_documentFindings (h : d.isLegible = true) :
    ∀ f ∈ documentFindings entry d, f.isLegible = true :=
  fun f hf => Finding.isLegible_iff.mpr (documentFindings_legible h f hf)

/-- A document that can be displayed is checked without fail. -/
theorem validate_of_legible (entry : Option String) (h : d.isLegible = true) :
    validate entry d = .ok ((documentFindings entry d).map Finding.message) :=
  mapM_inWords_of_legible (isLegible_of_mem_documentFindings h)

/-- No message on a document is no finding. -/
theorem validate_eq_nil_iff : validate entry d = .ok [] ↔ documentFindings entry d = [] :=
  mapM_inWords_eq_nil_iff

/-- Checking a document gives a message for each of its findings, unless one of them names a value
that cannot be displayed. Then it fails, and the document is not that of a JSON text. -/
theorem validate_cases (entry : Option String) (d : Value) :
    ((∀ f ∈ documentFindings entry d, f.isLegible = true) ∧
        validate entry d = .ok ((documentFindings entry d).map Finding.message)) ∨
      ((∃ f ∈ documentFindings entry d, f.isLegible = false) ∧
        (∀ text, Json.read text ≠ .ok d) ∧ validate entry d = .error .illegible) := by
  by_cases h : ∀ f ∈ documentFindings entry d, f.isLegible = true
  · exact .inl ⟨h, mapM_inWords_of_legible h⟩
  · push Not at h
    simp only [Bool.not_eq_true] at h
    refine .inr ⟨h, fun text hread => ?_, mapM_inWords_of_illegible h⟩
    obtain ⟨f, hf, hillegible⟩ := h
    have hlegible := isLegible_of_mem_documentFindings (Json.isLegible_of_read hread) f hf
    rw [hlegible] at hillegible
    cases hillegible

/-- A workflow is checked without fail: all that stands in its written form are texts. -/
theorem Workflow.validate_eq (w : Workflow) :
    w.validate = .ok (w.findings.map Finding.message) := by
  have hread := Json.read_write w.expressible_toValue none
  exact validate_of_legible w.entryStep (Json.isLegible_of_read hread)

/-- Checking a written document gives no messages exactly when it can be run. Otherwise there are
three outcomes. A value without a list of steps is rejected with one message. Any other has, after
its other messages, one message for each reference that names no step: in the order of the steps,
and for a step in the order of its references. The third outcome is that there are no messages for
what is found, because it names a whole number of too many digits; no JSON text is read as a document
with such a number, so a document that comes from JSON always has one of the other two. -/
theorem validate_verdict (d : Value) :
    (validate none d = .ok [] ↔ d.IsRunnable) ∧
      ((∃ what, validate none d = .ok ["Invalid workflow document: " ++ what] ∧
          ∀ steps, ¬ d.HasSteps steps) ∨
        ∃ steps others, d.HasSteps steps ∧ (∀ f ∈ others, f.isReference = false) ∧
          let found := others ++ steps.flatMap (RawStep.unresolved steps)
          (validate none d = .ok (found.map Finding.message) ∨
            (validate none d = .error .illegible ∧ (∃ f ∈ found, f.isLegible = false) ∧
              ∀ text, Json.read text ≠ .ok d))) := by
  obtain ⟨hrunnable, hverdict⟩ := documentFindings_verdict d
  refine ⟨validate_eq_nil_iff.trans hrunnable, ?_⟩
  obtain ⟨f, what, hf, hvalues, hwhat, hsteps⟩ | ⟨steps, others, hsteps, hothers, hfound⟩ :=
    hverdict
  · refine .inl ⟨what, ?_, hsteps⟩
    have hlegible : ∀ g ∈ [f], g.isLegible = true := by
      refine List.forall_mem_singleton.mpr (Finding.isLegible_iff.mpr ?_)
      rw [hvalues]
      exact List.forall_mem_nil _
    rw [validate, hf, mapM_inWords_of_legible hlegible, List.map_singleton, hwhat]
  · refine .inr ⟨steps, others, hsteps, hothers, ?_⟩
    rw [← hfound]
    obtain ⟨-, hmessages⟩ | ⟨hillegible, htext, hfails⟩ := validate_cases none d
    · exact .inl hmessages
    · exact .inr ⟨hfails, hillegible, htext⟩

/-- A step that goes on to a number. -/
def numberedStep (n : Int) : RawStep :=
  [(.text "type", .text "end"), (.text "id", .text "a"), (.text "goToStep", .int n)]

/-- The document of that step. -/
def numbered (n : Int) : Value :=
  .record [("startStep", .text "a"), ("steps", .list [.map (numberedStep n)])]

/-- The third outcome is there: a number of too many digits is no step, and that cannot be said. -/
theorem validate_numbered {n : Int} (h : isLegible n = false) :
    validate none (numbered n) = .error .illegible := by
  have hsteps : (numbered n).HasSteps [numberedStep n] := ⟨_, rfl, rfl⟩
  have hn : (Value.int n).isTruthy = true := by
    refine bne_iff_ne.mpr ?_
    rintro rfl
    have hzero : isLegible 0 = true := by
      unfold isLegible illegibleFrom
      generalize digitLimit = limit
      exact decide_eq_true (Nat.pow_pos (by decide))
    cases hzero.symm.trans h
  have hreference : Reference.continuation (.int n) ∈ (numberedStep n).references := by
    have hfield : (numberedStep n).field "goToStep" = .int n := rfl
    rw [RawStep.references, hfield, if_pos hn]
    exact List.mem_append_left _ (List.mem_append_left _ List.mem_cons_self)
  have hnames : ¬ RawStep.Names [numberedStep n] (.int n) := by
    rintro ⟨id, hid, -⟩
    cases hid
  have hfound : Finding.unknownGoTo (.text "a") (.int n) ∈ documentFindings none (numbered n) := by
    rw [documentFindings_eq none hsteps, List.flatMap_singleton]
    refine List.mem_append_right _ (List.mem_map.mpr ⟨_, List.mem_filter.mpr ⟨hreference, ?_⟩, rfl⟩)
    exact decide_eq_true hnames
  refine mapM_inWords_of_illegible ⟨_, hfound, ?_⟩
  simp [Finding.isLegible, Finding.values, Value.isLegible, Scalar.isLegible, h]

/-- A fan-out whose references stand in all three places: a number is no id, and neither is what a
condition leads to that is no mapping. -/
example : validate none (.record [("startStep", .text "a"), ("steps", .list [.record
    [("type", .text "multi_services"), ("id", .text "a"), ("subSteps", .list [.int 1, .text "a"]),
      ("conditions", .list [.bool false]), ("goToStep", .text "b")]])]) =
    .ok ["Step a references non-existent goToStep b",
      "Step a has a condition referencing non-existent goToStep None",
      "Multi-service step a references non-existent subStep 1"] :=
  (validate_of_legible none (by decide +kernel)).trans (congrArg Except.ok (by decide))

end Outcomes

end ServiceFlow
