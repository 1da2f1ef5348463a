import ServiceFlow.Proofs.Compile.Steps
import ServiceFlow.Proofs.Workflow.Reload

/-!
# Findings on compiled documents

Compiling rules out some findings. A compiled document has the form of a document, every service
that it calls side by side with others has a step, and a run can start at the entry node unless the
id of that is empty. What is left to be found are steps that lack an id, a service or a fallback,
and continuations and conditions that lead to an id without a step: an id that only entries and
notes have, or no node at all.
-/

namespace ServiceFlow

section Messages

/-- A text starts as its first part does. -/
theorem head?_toList_append {s : String} {c : Char} (h : s.toList.head? = some c) (t : String) :
    (s ++ t).toList.head? = some c := by
  rw [String.toList_append, List.head?_append, h, Option.some_or]

/-- The letter that a message starts with. -/
def Finding.letter : Finding → Char
  | notADocument | notARecord => 'I'
  | missingIds _ | missingServices _ | missingFallbacks _ => 'F'
  | unknownStart _ | unknownGoTo .. | unknownConditionTarget .. => 'S'
  | unknownSubStep .. => 'M'

/-- A message starts with its letter, whatever values it names. -/
theorem Finding.head?_message (f : Finding) : f.message.toList.head? = some f.letter := by
  unfold message
  cases f with
  | notADocument | notARecord => rfl
  | missingIds | missingServices | missingFallbacks | unknownStart =>
      exact head?_toList_append (head?_toList_append rfl _) _
  | unknownGoTo | unknownConditionTarget | unknownSubStep =>
      exact head?_toList_append (head?_toList_append (head?_toList_append rfl _) _) _

/-- A message rejects a document as a whole exactly when the document has not the form of one. -/
theorem Finding.message_eq_invalid_iff (f : Finding) :
    (∃ what, f.message = "Invalid workflow document: " ++ what) ↔
      f = .notADocument ∨ f = .notARecord := by
  constructor
  · rintro ⟨what, h⟩
    have hletter : some f.letter = some 'I' := by
      rw [← f.head?_message, h]
      exact head?_toList_append rfl what
    cases f with
    | notADocument => exact .inl rfl
    | notARecord => exact .inr rfl
    | _ => exact absurd (Option.some.inj hletter) (by simp [letter])
  · rintro (rfl | rfl)
    · exact ⟨"expected a mapping with a list of steps", by decide⟩
    · exact ⟨"every step must be a mapping", by decide⟩

end Messages

/-- A count is on no reference. -/
theorem Finding.isReference_of_isCount {f : Finding} (h : f.isCount = true) :
    f.isReference = false := by
  cases f with
  | missingIds | missingServices | missingFallbacks => rfl
  | _ => exact absurd h Bool.false_ne_true

/-- What is found on the references of a step: a continuation that is not empty, the targets of its
conditions and its sub-steps, each if it is none of the ids. -/
theorem Step.mem_dangling_iff {ids : List String} {s : Step} {f : Finding} :
    f ∈ s.dangling ids ↔
      (∃ t, s.next? = some t ∧ t ≠ "" ∧ t ∉ ids ∧ f = .unknownGoTo (.text s.id) (.text t)) ∨
      (∃ t ∈ s.guards.map (·.goToStep), t ∉ ids ∧
        f = .unknownConditionTarget (.text s.id) (.text t)) ∨
      ∃ t ∈ s.subSteps, t ∉ ids ∧ f = .unknownSubStep (.text s.id) (.text t) := by
  simp only [dangling, List.mem_append, List.mem_map (b := f), List.mem_filter, Option.mem_toList,
    Bool.and_eq_true, bne_iff_ne, Bool.not_eq_true', List.contains_eq_mem, decide_eq_false_iff_not,
    or_assoc, and_assoc, @eq_comm _ f]

section Dangling

variable {ids : List String} {s : Step} {step target : Value}

/-- The continuation of a step is reported if it is not empty and none of the ids. -/
theorem Step.unknownGoTo_mem_dangling_iff : .unknownGoTo step target ∈ s.dangling ids ↔
    ∃ t, s.next? = some t ∧ t ≠ "" ∧ t ∉ ids ∧ step = .text s.id ∧ target = .text t := by
  simp [mem_dangling_iff]

/-- The targets of the conditions of a step are reported if they are none of the ids. -/
theorem Step.unknownConditionTarget_mem_dangling_iff :
    .unknownConditionTarget step target ∈ s.dangling ids ↔
      ∃ t ∈ s.guards.map (·.goToStep), t ∉ ids ∧ step = .text s.id ∧ target = .text t := by
  simp only [mem_dangling_iff, reduceCtorEq, and_false, exists_false, false_or, or_false,
    Finding.unknownConditionTarget.injEq]

/-- The sub-steps of a step are reported if they are none of the ids. -/
theorem Step.unknownSubStep_mem_dangling_iff : .unknownSubStep step target ∈ s.dangling ids ↔
    ∃ t ∈ s.subSteps, t ∉ ids ∧ step = .text s.id ∧ target = .text t := by
  simp [mem_dangling_iff]

end Dangling

namespace Workflow

variable {w : Workflow} {f : Finding}

/-- Whether a run of a document can start: at a step, or at the entry node if that has an id. -/
def CanStart (w : Workflow) : Prop :=
  w.startStep ∈ w.stepIds ∨ (w.startStep ≠ "" ∧ w.entryStep = some w.startStep)

/-- A finding on a document is a count, or is on its start, or is on a reference of a step. -/
theorem mem_findings_iff : f ∈ w.findings ↔ f ∈ w.countFindings ∨
    (¬ w.CanStart ∧ f = .unknownStart (.text w.startStep)) ∨
      ∃ s ∈ w.steps, f ∈ s.dangling w.stepIds := by
  have hstart : f ∈ (if w.startStep ∈ w.stepIds ∨ (w.startStep ≠ "" ∧
      w.entryStep = some w.startStep) then [] else [Finding.unknownStart (.text w.startStep)]) ↔
      ¬ w.CanStart ∧ f = .unknownStart (.text w.startStep) := by
    unfold CanStart
    split <;> simp [*]
  rw [findings, documentFindings_parts, List.mem_append, List.mem_append, hstart,
    referenceFindings, List.mem_flatMap, or_assoc]

/-- A typed document has the form of a document. -/
theorem ne_of_mem_findings (hf : f ∈ w.findings) : f ≠ .notADocument ∧ f ≠ .notARecord := by
  rcases mem_findings_iff.mp hf with hcount | ⟨-, rfl⟩ | ⟨s, -, hs⟩
  · have hcount := isCount_of_mem_countFindings hcount
    constructor <;> rintro rfl <;> exact absurd hcount (by decide)
  · simp
  · have href := Step.isReference_of_mem_dangling hs
    constructor <;> rintro rfl <;> exact absurd href (by decide)

/-- The start of a document is reported when no run can start there. -/
theorem exists_unknownStart_iff : (∃ start, .unknownStart start ∈ w.findings) ↔ ¬ w.CanStart := by
  constructor
  · rintro ⟨start, hf⟩
    rcases mem_findings_iff.mp hf with hcount | ⟨hstart, -⟩ | ⟨s, -, hs⟩
    · exact absurd (isCount_of_mem_countFindings hcount) Bool.false_ne_true
    · exact hstart
    · exact absurd (Step.isReference_of_mem_dangling hs) Bool.false_ne_true
  · intro hstart
    exact ⟨_, mem_findings_iff.mpr (.inr (.inl ⟨hstart, rfl⟩))⟩

/-- What is reported on a reference is found on a step. -/
theorem mem_findings_iff_of_isReference (hf : f.isReference = true) :
    f ∈ w.findings ↔ ∃ s ∈ w.steps, f ∈ s.dangling w.stepIds := by
  rw [mem_findings_iff]
  constructor
  · rintro (hcount | ⟨-, rfl⟩ | href)
    · have hnone := Finding.isReference_of_isCount (isCount_of_mem_countFindings hcount)
      exact absurd (hnone.symm.trans hf) Bool.false_ne_true
    · exact absurd hf Bool.false_ne_true
    · exact href
  · intro href
    exact .inr (.inr href)

end Workflow

namespace Graph

variable {g : Graph} {w : Workflow} {step target : Value}

/-- An id has no step when it is that of no terminal, service or branch node. -/
theorem Classified.not_hasStep_iff (hg : g.Classified) {t : String} :
    ¬ g.HasStep t ↔ ∀ n ∈ g.nodes, n.kind = some .terminal ∨ n.kind = some .service ∨
      n.kind = some .branch → n.id ≠ t := by
  have hkind (n : Node) (hn : n ∈ g.nodes) : n.IsStep ↔ n.kind = some .terminal ∨
      n.kind = some .service ∨ n.kind = some .branch := by
    rw [hg.isStep_iff hn, Node.isWorking, Bool.or_eq_true, beq_iff_eq, beq_iff_eq]
  simp only [HasStep, not_exists, not_and]
  exact forall₂_congr fun n hn => by rw [hkind n hn]

/-- What is reported on a reference of a compiled document is found on the step of a service or
branch node. -/
theorem mem_findings_iff_of_isReference (h : g.workflow? = some w) {f : Finding}
    (hf : f.isReference = true) : f ∈ w.findings ↔
      ∃ n ∈ g.nodes, n.isWorking = true ∧ f ∈ (n.step g).dangling w.stepIds := by
  rw [Workflow.mem_findings_iff_of_isReference hf]
  constructor
  · rintro ⟨s, hs, hd⟩
    rcases (mem_steps_iff h).mp hs with ⟨n, -, -, rfl⟩ | ⟨n, hn, hw, rfl⟩
    · -- an end step refers to nothing
      cases hd
    · exact ⟨n, hn, hw, hd⟩
  · rintro ⟨n, hn, hw, hd⟩
    exact ⟨n.step g, (mem_steps_iff h).mpr (.inr ⟨n, hn, hw, rfl⟩), hd⟩

/-- A compiled document reports a continuation when a node continues at an id that is not empty and
has no step. -/
theorem unknownGoTo_mem_findings_iff (hg : g.Classified) (h : g.workflow? = some w) :
    .unknownGoTo step target ∈ w.findings ↔ ∃ n ∈ g.nodes, ∃ t, g.Continues n t ∧ t ≠ "" ∧
      ¬ g.HasStep t ∧ step = .text n.id ∧ target = .text t := by
  rw [mem_findings_iff_of_isReference h rfl]
  simp only [Step.unknownGoTo_mem_dangling_iff, Node.step_id, mem_stepIds_iff hg h]
  constructor
  · rintro ⟨n, hn, hw, t, hnext, hrest⟩
    exact ⟨n, hn, t, (Node.next?_step_iff hg hn hw).mp hnext, hrest⟩
  · rintro ⟨n, hn, t, ht, hrest⟩
    have hw := ht.isWorking hg hn
    exact ⟨n, hn, hw, t, (Node.next?_step_iff hg hn hw).mpr ht, hrest⟩

/-- A compiled document reports the target of a condition when a node guards an edge to an id that
has no step. -/
theorem unknownConditionTarget_mem_findings_iff (hg : g.Classified) (h : g.workflow? = some w) :
    .unknownConditionTarget step target ∈ w.findings ↔ ∃ n ∈ g.nodes, ∃ e, g.Guarded n e ∧
      ¬ g.HasStep e.target ∧ step = .text n.id ∧ target = .text e.target := by
  rw [mem_findings_iff_of_isReference h rfl]
  simp only [Step.unknownConditionTarget_mem_dangling_iff, Node.step_id, mem_stepIds_iff hg h]
  constructor
  · rintro ⟨n, hn, hw, t, ht, hrest⟩
    obtain ⟨e, he, rfl⟩ := (Node.mem_targets_step_iff hg hn hw).mp ht
    exact ⟨n, hn, e, he, hrest⟩
  · rintro ⟨n, hn, e, he, hrest⟩
    have hw := he.isWorking hg hn
    exact ⟨n, hn, hw, e.target, (Node.mem_targets_step_iff hg hn hw).mpr ⟨e, he, rfl⟩, hrest⟩

/-- A compiled document reports no sub-step. -/
theorem unknownSubStep_notMem_findings (hg : g.Classified) (h : g.workflow? = some w) :
    .unknownSubStep step target ∉ w.findings := by
  rw [Workflow.mem_findings_iff_of_isReference rfl]
  rintro ⟨s, hs, hd⟩
  obtain ⟨t, ht, hids, -⟩ := Step.unknownSubStep_mem_dangling_iff.mp hd
  exact hids (subSteps_mem_stepIds hg h s hs t ht)

/-- A run of a compiled document can start unless the id of the entry node is empty and no step has
the empty id. -/
theorem not_canStart_iff {entry : Node} (he : g.entryNode? = some entry)
    (h : g.workflow? = some w) : ¬ w.CanStart ↔ entry.id = "" ∧ ∀ s ∈ w.steps, s.id ≠ "" := by
  obtain ⟨entry', he', rfl⟩ := workflow?_eq_some_iff.mp h
  obtain rfl := Option.some.inj (he.symm.trans he')
  simp only [Workflow.CanStart, Workflow.stepIds, List.mem_map, and_true, not_or, not_exists,
    not_and, Decidable.not_not]
  constructor
  · rintro ⟨hno, hid⟩
    rw [hid] at hno
    exact ⟨hid, hno⟩
  · rintro ⟨hid, hno⟩
    rw [hid]
    exact ⟨hno, rfl⟩

end Graph

namespace Catalog

variable {c : Catalog} {g : Graph} {w : Workflow}

/-- What compiling guarantees to the checks on documents. No compiled document is rejected as a
whole, and none has a sub-step that is no step. Its start is reported exactly when the id of the
entry node is empty and no step has the empty id. A continuation and the target of a condition are
reported exactly when they lead to an id that no terminal, service or branch node has, where an
empty continuation counts as none. -/
theorem compile_findings (h : c.compile g = .ok w) :
    (∀ f ∈ w.findings, ∀ what, f.message ≠ "Invalid workflow document: " ++ what) ∧
    (∀ step target, .unknownSubStep step target ∉ w.findings) ∧
    (∃ entry, (c.classifyGraph g).entryNode? = some entry ∧
      ((∃ start, .unknownStart start ∈ w.findings) ↔
        entry.id = "" ∧ ∀ s ∈ w.steps, s.id ≠ "")) ∧
    (∀ step target, .unknownGoTo step target ∈ w.findings ↔
      ∃ n ∈ (c.classifyGraph g).nodes, ∃ t, (c.classifyGraph g).Continues n t ∧ t ≠ "" ∧
        (∀ m ∈ (c.classifyGraph g).nodes, m.kind = some .terminal ∨ m.kind = some .service ∨
          m.kind = some .branch → m.id ≠ t) ∧
        step = .text n.id ∧ target = .text t) ∧
    ∀ step target, .unknownConditionTarget step target ∈ w.findings ↔
      ∃ n ∈ (c.classifyGraph g).nodes, ∃ e, (c.classifyGraph g).Guarded n e ∧
        (∀ m ∈ (c.classifyGraph g).nodes, m.kind = some .terminal ∨ m.kind = some .service ∨
          m.kind = some .branch → m.id ≠ e.target) ∧
        step = .text n.id ∧ target = .text e.target := by
  have hg := c.classifyGraph_classified g
  have hw := compile_eq_ok_iff.mp h
  obtain ⟨entry, hentry, -⟩ := Graph.workflow?_eq_some_iff.mp hw
  refine ⟨?_, ?_, ⟨entry, hentry, ?_⟩, ?_, ?_⟩
  · intro f hf what hmessage
    obtain ⟨hdocument, hrecord⟩ := Workflow.ne_of_mem_findings hf
    exact (f.message_eq_invalid_iff.mp ⟨what, hmessage⟩).elim hdocument hrecord
  · exact fun _ _ => Graph.unknownSubStep_notMem_findings hg hw
  · rw [Workflow.exists_unknownStart_iff, Graph.not_canStart_iff hentry hw]
  · intro step target
    simp only [Graph.unknownGoTo_mem_findings_iff hg hw, hg.not_hasStep_iff]
  · intro step target
    simp only [Graph.unknownConditionTarget_mem_findings_iff hg hw, hg.not_hasStep_iff]

/-- An entry without an id, a service that goes on at a note and has a condition that leads to no
node, and another service that goes on at an id which a note and a terminal share. -/
def stranded : Graph where
  nodes := [{ id := "", type := "StartNode" }, { id := "s", type := "IDV" },
    { id := "k", type := "TextNode" }, { id := "m", type := "AML" },
    { id := "t", type := "TextNode" }, { id := "t", type := "EndNode" }]
  edges := [{ id := "1", source := "", target := "s" }, { id := "2", source := "s", target := "k" },
    { id := "3", source := "s", target := "ghost", conditionType := some "match" },
    { id := "4", source := "m", target := "t" }]

/-- The document of that graph. -/
def strandedDocument : Workflow where
  startStep := ""
  steps := [.finish "t",
    .service "s" "idv" (some [⟨"$\x7bresult.success == true\x7d", "ghost"⟩]) (some "k"),
    .service "m" "aml" none (some "t")]
  entryStep := some ""

theorem compile_findings_stranded :
    Catalog.default.compile stranded = .ok strandedDocument ∧
      strandedDocument.findings.map (·.message) = ["Start step  does not exist in the workflow",
        "Step s references non-existent goToStep k",
        "Step s has a condition referencing non-existent goToStep ghost"] ∧
      (∃ start, .unknownStart start ∈ strandedDocument.findings) ∧
      .unknownGoTo (.text "s") (.text "k") ∈ strandedDocument.findings ∧
      .unknownGoTo (.text "m") (.text "t") ∉ strandedDocument.findings := by
  have hw : Catalog.default.compile stranded = .ok strandedDocument := rfl
  obtain ⟨-, -, ⟨entry, hentry, hstart⟩, hnext, -⟩ := compile_findings hw
  have hblank : entry.id = "" := by
    obtain rfl := Option.some.inj (hentry.symm.trans (by rfl))
    rfl
  have hdefault : ((Catalog.default.classifyGraph stranded).outgoing "s").find? (·.isDefault) =
      some { id := "2", source := "s", target := "k" } := rfl
  have hplain : (Catalog.default.classifyGraph stranded).IsPlain
      { id := "s", type := "IDV", kind := some .service } := by decide
  refine ⟨hw, by decide, hstart.mpr ⟨hblank, by decide⟩, (hnext _ _).mpr ?_, ?_⟩
  · exact ⟨_, by decide, "k", .plain hplain hdefault, by decide, by decide, rfl, rfl⟩
  · intro hf
    obtain ⟨_, -, t, -, -, hno, -, ht⟩ := (hnext _ _).mp hf
    obtain rfl : "t" = t := by simpa using ht
    have hterminal : { id := "t", type := "EndNode", kind := some .terminal } ∈
        (Catalog.default.classifyGraph stranded).nodes := by decide
    exact hno _ hterminal (.inl rfl) rfl

end Catalog

end ServiceFlow
