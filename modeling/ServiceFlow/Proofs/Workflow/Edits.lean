import ServiceFlow.Proofs.Workflow.Messages
import ServiceFlow.Proofs.Workflow.Order

/-!
# Findings after an edit

What an edit of its steps does to the findings on a document. Another order of the steps moves what
is found on their references along with them. Without one of its steps a document that had no
findings has those on what still names the step, in the order of the steps that name it, unless
another step goes by the same id.
-/

namespace ServiceFlow

section Reordering

/-- The document with other steps in place of its own. -/
def Value.withSteps (d : Value) (steps : List RawStep) : Value :=
  match d with
  | .map fields =>
    .map (Table.insert Scalar.same (.text "steps") (.list (steps.map .map)) fields)
  | _ => d

variable {d : Value} {steps steps' : List RawStep}

/-- The steps that are put in place are then the steps of the document. -/
theorem Value.HasSteps.withSteps (h : d.HasSteps steps) (steps' : List RawStep) :
    (d.withSteps steps').HasSteps steps' := by
  obtain ⟨fields, rfl, -⟩ := h
  refine ⟨_, rfl, ?_⟩
  rw [lookup?, Table.find?_insert_self _ (by simp), Option.getD_some]

/-- A key that is the same as a text is that text. -/
theorem Scalar.same_text_right_iff {key : Scalar} {s : String} :
    key.same (.text s) = true ↔ key = .text s := by
  unfold same
  cases key <;> simp [number?]

/-- The start step stays when other steps are put in place. -/
theorem rawStart_withSteps (d : Value) (steps : List RawStep) :
    rawStart (d.withSteps steps) = rawStart d := by
  cases d with
  | map fields =>
      have hkey (k : Scalar) (hk : k.same (.text "steps") = true) :
          k.same (.text "startStep") = false := by
        obtain rfl := Scalar.same_text_right_iff.mp hk
        decide
      simp only [Value.withSteps, rawStart, Value.lookup?]
      rw [Table.find?_insert_of_ne _ hkey (by decide)]
  | _ => rfl

/-- Before the findings on references stand counts, and then what is found on the start step. -/
theorem exists_headFindings_eq (entry : Option String) (start : Value) (steps : List RawStep) :
    ∃ counts found, headFindings entry start steps = counts ++ found ∧
      (∀ f ∈ counts, f.isCount = true) ∧ (found = [] ∨ found = [.unknownStart start]) := by
  refine ⟨_, _, rfl, fun f hf => ?_, ?_⟩
  · simp only [List.mem_append] at hf
    obtain (hf | hf) | hf := hf <;> exact isCount_of_mem_counted (fun _ => rfl) hf
  · split
    · exact .inl rfl
    · exact .inr rfl

/-- Another order of the steps leaves the counts and what is found on the start step as they are,
and moves what is found on the references of each step along with that step. -/
theorem documentFindings_withSteps_of_perm (entry : Option String) (h : d.HasSteps steps)
    (hp : steps.Perm steps') :
    ∃ counts start, (∀ f ∈ counts, f.isCount = true) ∧
      (start = [] ∨ start = [.unknownStart (rawStart d)]) ∧
      documentFindings entry d = counts ++ start ++ steps.flatMap (RawStep.unresolved steps) ∧
      documentFindings entry (d.withSteps steps') =
        counts ++ start ++ steps'.flatMap (RawStep.unresolved steps) := by
  obtain ⟨general, hfound, hfound'⟩ := stepFindings_of_perm hp entry (rawStart d)
  rw [RawStep.danglingReferences_ids] at hfound hfound'
  rw [← documentFindings_eq_stepFindings entry h, documentFindings_eq entry h] at hfound
  obtain rfl : general = headFindings entry (rawStart d) steps :=
    List.append_cancel_right hfound.symm
  obtain ⟨counts, start, hhead, hcounts, hstart⟩ :=
    exists_headFindings_eq entry (rawStart d) steps
  refine ⟨counts, start, hcounts, hstart, ?_, ?_⟩
  · rw [documentFindings_eq entry h, hhead]
  · rw [documentFindings_eq_stepFindings entry (h.withSteps steps'), rawStart_withSteps, hfound',
      hhead]

/-- Another order of the steps rearranges the messages on a document: the counts and the message on
the start step stay the same in the same place, and behind them the messages on the references of
each step move along with that step. In either order checking fails for the same reason or not at
all; it fails when a message would name a whole number of too many digits, and then the document is
not that of a JSON text. -/
theorem validate_withSteps_of_perm (entry : Option String) (h : d.HasSteps steps)
    (hp : steps.Perm steps') :
    ∃ counts start, (∀ f ∈ counts, f.isCount = true) ∧
      (start = [] ∨ start = [.unknownStart (rawStart d)]) ∧
      let found := counts ++ start ++ steps.flatMap (RawStep.unresolved steps)
      let found' := counts ++ start ++ steps'.flatMap (RawStep.unresolved steps)
      ((validate entry d = .ok (found.map Finding.message) ∧
          validate entry (d.withSteps steps') = .ok (found'.map Finding.message) ∧
          (found.map Finding.message).Perm (found'.map Finding.message)) ∨
        (validate entry d = .error .illegible ∧
          validate entry (d.withSteps steps') = .error .illegible ∧
          (∃ f ∈ found, f.isLegible = false) ∧ ∀ text, Json.read text ≠ .ok d)) := by
  obtain ⟨counts, start, hcounts, hstart, hfound, hfound'⟩ :=
    documentFindings_withSteps_of_perm entry h hp
  refine ⟨counts, start, hcounts, hstart, ?_⟩
  have hperm : (counts ++ start ++ steps.flatMap (RawStep.unresolved steps)).Perm
      (counts ++ start ++ steps'.flatMap (RawStep.unresolved steps)) :=
    (hp.flatMap_right _).append_left _
  rw [← hfound, ← hfound'] at hperm ⊢
  obtain ⟨hlegible, hmessages⟩ | ⟨⟨f, hf, hillegible⟩, htext, hfails⟩ := validate_cases entry d
  · have hlegible' : ∀ f ∈ documentFindings entry (d.withSteps steps'), f.isLegible = true :=
      fun f hf => hlegible f (hperm.mem_iff.mpr hf)
    exact .inl ⟨hmessages, mapM_inWords_of_legible hlegible', hperm.map _⟩
  · have hfails' := mapM_inWords_of_illegible ⟨f, hperm.mem_iff.mp hf, hillegible⟩
    exact .inr ⟨hfails, hfails', ⟨f, hf, hillegible⟩, htext⟩

/-- A fan-out without an id of its own, which calls a step that there is and one that is not there.
-/
def namelessStep : RawStep :=
  [(.text "type", .text "multi_services"), (.text "subSteps", .list [.text "a", .text "c"])]

/-- A step that goes on nowhere. -/
def strayStep : RawStep := [(.text "id", .text "a"), (.text "goToStep", .text "b")]

/-- A document of these two steps, with a start that is neither. -/
def strayDocument : Value :=
  .record [("startStep", .int 1), ("steps", .list [.map namelessStep, .map strayStep])]

/-- The messages on it. -/
def strayMessages : List String := ["Found 1 steps without IDs",
  "Start step 1 does not exist in the workflow",
  "Multi-service step None references non-existent subStep c",
  "Step a references non-existent goToStep b"]

/-- The messages on it with its steps the other way round. -/
def strayMessages' : List String := ["Found 1 steps without IDs",
  "Start step 1 does not exist in the workflow",
  "Step a references non-existent goToStep b",
  "Multi-service step None references non-existent subStep c"]

theorem validate_withSteps_of_perm_stray :
    strayDocument.HasSteps [namelessStep, strayStep] ∧
      [namelessStep, strayStep].Perm [strayStep, namelessStep] ∧
      validate none strayDocument = .ok strayMessages ∧
      validate none (strayDocument.withSteps [strayStep, namelessStep]) = .ok strayMessages' ∧
      strayMessages.Perm strayMessages' := by
  have hsteps : strayDocument.HasSteps [namelessStep, strayStep] := ⟨_, rfl, rfl⟩
  have hperm : [namelessStep, strayStep].Perm [strayStep, namelessStep] := .swap _ _ _
  have hmessages : validate none strayDocument = .ok strayMessages :=
    (validate_of_legible none (by decide +kernel)).trans (congrArg Except.ok (by decide))
  have hmessages' :
      validate none (strayDocument.withSteps [strayStep, namelessStep]) = .ok strayMessages' :=
    (validate_of_legible none (by decide +kernel)).trans (congrArg Except.ok (by decide))
  refine ⟨hsteps, hperm, hmessages, hmessages', ?_⟩
  obtain ⟨_, _, -, -, ⟨hfound, hfound', hperm⟩ | ⟨hfails, -⟩⟩ :=
    validate_withSteps_of_perm none hsteps hperm
  · rwa [← Except.ok.inj (hmessages.symm.trans hfound),
      ← Except.ok.inj (hmessages'.symm.trans hfound')] at hperm
  · cases hmessages.symm.trans hfails

end Reordering

section Dropping

namespace Step

/-- The findings on the references of a step to an id that no step has: one for each place where the
id stands. -/
def mentions (id : String) (t : Step) : List Finding :=
  (if t.next? = some id then [.unknownGoTo (.text t.id) (.text id)] else [])
    ++ List.replicate ((t.guards.map (·.goToStep)).count id)
      (.unknownConditionTarget (.text t.id) (.text id))
    ++ List.replicate (t.subSteps.count id) (.unknownSubStep (.text t.id) (.text id))

variable {ids targets : List String} {id : String} {t : Step}

/-- Where all that is named is an id or one that is none, only that one is not found. -/
theorem filter_notMem_eq_replicate (hid : id ∉ ids)
    (h : ∀ target ∈ targets, target = id ∨ target ∈ ids) :
    (targets.filter fun target => !ids.contains target) = List.replicate (targets.count id) id := by
  rw [← List.filter_beq]
  refine List.filter_congr fun target ht => ?_
  obtain rfl | hmem := h target ht
  · simp [hid]
  · have hne : target ≠ id := fun heq => hid (heq ▸ hmem)
    simp [hmem, hne]

/-- The references of a step are not found where they name the one id that is none. -/
theorem dangling_eq_mentions (hid : id ∉ ids) (hne : id ≠ "")
    (hnext : ∀ target, t.next? = some target → target = "" ∨ target = id ∨ target ∈ ids)
    (hguards : ∀ c ∈ t.guards, c.goToStep = id ∨ c.goToStep ∈ ids)
    (hsubSteps : ∀ target ∈ t.subSteps, target = id ∨ target ∈ ids) :
    t.dangling ids = t.mentions id := by
  have hgoTo : (t.next?.toList.filter fun target => target != "" && !ids.contains target).map
      (fun target => Finding.unknownGoTo (.text t.id) (.text target)) =
      if t.next? = some id then [.unknownGoTo (.text t.id) (.text id)] else [] := by
    cases hnext? : t.next? with
    | none => rfl
    | some target =>
        obtain rfl | rfl | hmem := hnext target hnext?
        · simp [hne.symm]
        · simp [hid, hne]
        · have htarget : target ≠ id := fun heq => hid (heq ▸ hmem)
          simp [hmem, htarget]
  have htargets : ∀ target ∈ t.guards.map (·.goToStep), target = id ∨ target ∈ ids :=
    List.forall_mem_map.mpr hguards
  rw [dangling, hgoTo, filter_notMem_eq_replicate hid htargets,
    filter_notMem_eq_replicate hid hsubSteps, List.map_replicate, List.map_replicate, mentions]

end Step

namespace Workflow

variable {w : Workflow} {steps before after : List Step} {s : Step}

/-- Of the steps of a sound document none has a fault that is counted, whichever are left. -/
theorem Sound.countFindings_of_subset (h : w.Sound) (hsteps : steps ⊆ w.steps) :
    countFindings { w with steps } = [] := by
  simp only [countFindings, List.append_eq_nil_iff, counted_eq_nil_iff, List.countP_eq_zero,
    Step.not_lacksFallback_iff, beq_iff_eq]
  exact ⟨⟨fun t ht => h.ids t (hsteps ht), fun t ht => h.services t (hsteps ht)⟩,
    fun t ht => h.fallbacks t (hsteps ht)⟩

/-- A sound document stays sound without some steps whose ids other steps have too. -/
theorem Sound.of_subset (h : w.Sound) (hsteps : steps ⊆ w.steps)
    (hids : ∀ id ∈ w.stepIds, id ∈ steps.map Step.id) : Sound { w with steps } where
  ids t ht := h.ids t (hsteps ht)
  services t ht := h.services t (hsteps ht)
  fallbacks t ht := h.fallbacks t (hsteps ht)
  start := h.start.imp_left (hids _)
  continuations t ht target htarget := (h.continuations t (hsteps ht) target htarget).imp_right
    (hids _)
  targets t ht c hc := hids _ (h.targets t (hsteps ht) c hc)
  subSteps t ht target htarget := hids _ (h.subSteps t (hsteps ht) target htarget)

/-- Without steps of one id a sound document has the findings on the places where that id stands. -/
theorem Sound.findings_of_subset {id : String} (h : w.Sound) (hsteps : steps ⊆ w.steps)
    (hne : id ≠ "") (hid : id ∉ steps.map Step.id)
    (hids : ∀ target ∈ w.stepIds, target = id ∨ target ∈ steps.map Step.id) :
    { w with steps }.findings =
      (if w.startStep = id ∧ w.entryStep ≠ some id then [.unknownStart (.text id)] else [])
        ++ steps.flatMap (Step.mentions id) := by
  have hreferences : referenceFindings { w with steps } = steps.flatMap (Step.mentions id) := by
    refine List.flatMap_congr fun t ht => Step.dangling_eq_mentions hid hne ?_ ?_ ?_
    · intro target htarget
      exact (h.continuations t (hsteps ht) target htarget).imp_right (hids target)
    · intro c hc
      exact hids _ (h.targets t (hsteps ht) c hc)
    · intro target htarget
      exact hids _ (h.subSteps t (hsteps ht) target htarget)
  have hstart : (w.startStep ∈ steps.map Step.id ∨
      (w.startStep ≠ "" ∧ w.entryStep = some w.startStep)) ↔
        ¬ (w.startStep = id ∧ w.entryStep ≠ some id) := by
    by_cases heq : w.startStep = id
    · simp [heq, hid, hne]
    · have hmem (hw : w.startStep ∈ w.stepIds) := (hids _ hw).resolve_left heq
      exact iff_of_true (h.start.imp_left hmem) fun hid => heq hid.1
  rw [findings, documentFindings_parts, h.countFindings_of_subset hsteps, hreferences,
    List.nil_append]
  refine congrArg (· ++ _) ?_
  rw [stepIds, if_congr hstart rfl rfl, ite_not]
  exact if_ctx_congr .rfl (fun hfound => by rw [hfound.1]) fun _ => rfl

/-- Without one of its steps a document that had no findings still has none if another step goes by
the same id. Otherwise it has the finding on the start step, should a run have started at that step
and nowhere else, and then one finding for each place where a step that is left names it, step by
step. -/
theorem findings_of_dropped (h : w.findings = []) (hs : w.steps = before ++ s :: after) :
    ((∃ t ∈ before ++ after, t.id = s.id) →
      { w with steps := before ++ after }.findings = []) ∧
    ((∀ t ∈ before ++ after, t.id ≠ s.id) →
      { w with steps := before ++ after }.findings =
        (if w.startStep = s.id ∧ w.entryStep ≠ some s.id then [.unknownStart (.text s.id)] else [])
          ++ (before ++ after).flatMap (Step.mentions s.id)) := by
  have hsound := (findings_eq_nil_iff w).mp h
  have hmem : s ∈ w.steps := by simp [hs]
  have hsteps : before ++ after ⊆ w.steps := by
    rw [hs]
    exact List.append_subset.mpr ⟨by simp, by simp⟩
  have hids : ∀ id ∈ w.stepIds, id = s.id ∨ id ∈ (before ++ after).map Step.id := by
    simp only [stepIds, hs, List.map_append, List.map_cons, List.mem_append, List.mem_cons]
    tauto
  constructor
  · rintro ⟨t, ht, hid⟩
    refine (findings_eq_nil_iff _).mpr (hsound.of_subset hsteps fun id hmem => ?_)
    obtain rfl | hleft := hids id hmem
    · exact List.mem_map.mpr ⟨t, ht, hid⟩
    · exact hleft
  · intro hlast
    refine hsound.findings_of_subset hsteps (hsound.ids s hmem) (fun hleft => ?_) hids
    obtain ⟨t, ht, hid⟩ := List.mem_map.mp hleft
    exact hlast t ht hid

/-- A document whose first step is named in all ways that there are, and which has an end twice. -/
def woven : Workflow where
  startStep := "a"
  steps := [.service "a" "A" none (some "b"),
    .service "b" "B" (some [⟨"again", "a"⟩, ⟨"over", "e"⟩, ⟨"anew", "a"⟩]) (some "a"),
    .fanOut "f" ["a", "b"] (some "e"), .finish "e", .finish "e"]

theorem findings_of_dropped_woven :
    woven.findings = [] ∧
      { woven with steps := woven.steps.dropLast }.findings = [] ∧
      { woven with steps := woven.steps.tail }.findings =
        [.unknownStart (.text "a"), .unknownGoTo (.text "b") (.text "a"),
          .unknownConditionTarget (.text "b") (.text "a"),
          .unknownConditionTarget (.text "b") (.text "a"),
          .unknownSubStep (.text "f") (.text "a")] := by
  have hnone : woven.findings = [] := rfl
  have hend : woven.steps = woven.steps.dropLast ++ Step.finish "e" :: [] := rfl
  have hstart : woven.steps = [] ++ Step.service "a" "A" none (some "b") :: woven.steps.tail := rfl
  refine ⟨hnone, ?_, ?_⟩
  · have hdropped := (findings_of_dropped hnone hend).1 (by decide)
    rwa [List.append_nil] at hdropped
  · exact (findings_of_dropped hnone hstart).2 (by decide)

end Workflow

end Dropping

end ServiceFlow
