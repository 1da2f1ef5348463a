import ServiceFlow.Load
import ServiceFlow.Proofs.Graph.Classified
import ServiceFlow.Proofs.Workflow.Findings

/-!
# Steps of a compiled graph

What stands in the step of a node is said here in terms of the node and its edges: at which ids the
node continues, which edges it guards, which services it calls side by side. A compiled document
has one step for each step node, and its step ids are the ids of those nodes.
-/

namespace ServiceFlow

/-- A name in lower case is empty only when the name is. -/
theorem Node.serviceName_eq_empty_iff {n : Node} : n.serviceName = "" ↔ n.type = "" := by
  have hl (before cs : List Char) : Text.lowerFrom before cs = [] ↔ cs = [] := by
    cases cs with
    | nil => simp [Text.lowerFrom]
    | cons c rest =>
        simp only [Text.lowerFrom, List.append_eq_nil_iff, reduceCtorEq, iff_false]
        split
        · simp
        · split <;> simp
  rw [serviceName, Text.lower, String.ofList_eq_empty_iff, hl, String.toList_eq_nil_iff]

namespace Graph

/-- A node continues at an id: a plain node where its first default edge leads, a condition node
where its first edge leads that is not for a match, a node that fans out where its services meet. -/
inductive Continues (g : Graph) (n : Node) : String → Prop
  | plain {d : Edge} (hn : g.IsPlain n) (hd : (g.outgoing n.id).find? (·.isDefault) = some d) :
      Continues g n d.target
  | condition {d : Edge} (hn : n.isCondition = true)
      (hd : leavingBy Edge.otherHandle (g.outgoing n.id) = some d) : Continues g n d.target
  | fanOut {t : String} (hn : g.FansOut n)
      (ht : g.meetingPoint ((g.fanOut n).map (·.target)) = some t) : Continues g n t

/-- A node guards an edge: a plain node all its edges but the default ones, a condition node the
first that is for a match. -/
inductive Guarded (g : Graph) (n : Node) : Edge → Prop
  | plain {e : Edge} (hn : g.IsPlain n) (he : e ∈ g.outgoing n.id) (hd : e.isDefault = false) :
      Guarded g n e
  | condition {e : Edge} (hn : n.isCondition = true)
      (he : leavingBy Edge.matchHandle (g.outgoing n.id) = some e) : Guarded g n e

/-- A node that fans out guards no edge. -/
theorem FansOut.not_guarded {g : Graph} {n : Node} (hf : g.FansOut n) (e : Edge) :
    ¬ g.Guarded n e := by
  rintro (⟨hn, -, -⟩ | ⟨hn, -⟩)
  · exact hn.not_fansOut hf
  · exact absurd hn hf.not_isCondition

/-- A node that continues somewhere works. -/
theorem Continues.isWorking {g : Graph} {n : Node} {t : String} (h : g.Continues n t)
    (hg : g.Classified) (hn : n ∈ g.nodes) : n.isWorking = true := by
  rcases h with ⟨hp, -⟩ | ⟨hc, -⟩ | ⟨hf, -⟩
  · exact hg.isWorking_of_isPlain hn hp
  · exact Node.isWorking_of_isCondition hc
  · exact hg.isWorking_of_fansOut hn hf

/-- A node that guards an edge works. -/
theorem Guarded.isWorking {g : Graph} {n : Node} {e : Edge} (h : g.Guarded n e)
    (hg : g.Classified) (hn : n ∈ g.nodes) : n.isWorking = true := by
  rcases h with ⟨hp, -, -⟩ | ⟨hc, -⟩
  · exact hg.isWorking_of_isPlain hn hp
  · exact Node.isWorking_of_isCondition hc

end Graph

namespace Node

variable {g : Graph} {n : Node}

@[simp] theorem step_id (g : Graph) (n : Node) : (n.step g).id = n.id := by
  unfold step
  split
  · rfl
  · split <;> rfl

theorem step_of_isCondition (h : n.isCondition = true) :
    n.step g = n.conditionStep (g.outgoing n.id) := by
  simp only [step, h, ite_true]

theorem step_of_fansOut (h : g.FansOut n) : n.step g = fanOutStep g n (g.fanOut n) := by
  obtain ⟨_, _, hc, hf⟩ := h
  have hl : 1 < (g.fanOut n).length := hf
  simp only [step, hc, hl, Bool.false_eq_true, ite_false, ite_true]

theorem step_of_isPlain (h : g.IsPlain n) : n.step g = n.serviceStep (g.outgoing n.id) := by
  obtain ⟨_, _, hc, hf⟩ := h
  have hl : ¬ 1 < (g.fanOut n).length := by omega
  simp only [step, hc, hl, Bool.false_eq_true, ite_false]

/-- The condition of a condition node is that of its first edge for a match. -/
theorem guards_conditionStep (n : Node) (edges : List Edge) :
    (n.conditionStep edges).guards = (leavingBy Edge.matchHandle edges).toList.map
      fun e => ⟨(nonempty? e.engineCondition).getD alwaysTrue, e.target⟩ := by
  cases h : leavingBy Edge.matchHandle edges <;>
    simp [conditionStep, Step.guards, Step.conditions?, h]

/-- The conditions of a service call are those of its conditional edges. -/
theorem guards_serviceStep (n : Node) (edges : List Edge) :
    (n.serviceStep edges).guards = conditions edges := by
  cases h : conditions edges <;>
    simp [serviceStep, Step.guards, Step.conditions?, Option.filter_some, h]

/-- The continuation of the step of a working node is where the node continues. -/
theorem next?_step_iff (hg : g.Classified) (hn : n ∈ g.nodes) (hw : n.isWorking = true)
    {t : String} : (n.step g).next? = some t ↔ g.Continues n t := by
  constructor
  · intro h
    rcases hg.shape hn hw with hc | hf | hp
    · rw [step_of_isCondition hc] at h
      obtain ⟨d, hd, rfl⟩ := Option.map_eq_some_iff.mp h
      exact .condition hc hd
    · rw [step_of_fansOut hf] at h
      exact .fanOut hf h
    · rw [step_of_isPlain hp] at h
      obtain ⟨d, hd, rfl⟩ := Option.map_eq_some_iff.mp h
      exact .plain hp hd
  · rintro (⟨hp, hd⟩ | ⟨hc, hd⟩ | ⟨hf, ht⟩)
    · rw [step_of_isPlain hp]
      exact Option.map_eq_some_iff.mpr ⟨_, hd, rfl⟩
    · rw [step_of_isCondition hc]
      exact Option.map_eq_some_iff.mpr ⟨_, hd, rfl⟩
    · rw [step_of_fansOut hf]
      exact ht

/-- The conditions of the step of a working node lead where its guarded edges lead. -/
theorem mem_targets_step_iff (hg : g.Classified) (hn : n ∈ g.nodes) (hw : n.isWorking = true)
    {t : String} :
    t ∈ (n.step g).guards.map (·.goToStep) ↔ ∃ e, g.Guarded n e ∧ e.target = t := by
  rcases hg.shape hn hw with hc | hf | hp
  · rw [step_of_isCondition hc, guards_conditionStep, List.map_map]
    constructor
    · intro h
      obtain ⟨e, he, rfl⟩ := List.mem_map.mp h
      exact ⟨e, .condition hc (Option.mem_toList.mp he), rfl⟩
    · rintro ⟨e, ⟨hp, -, -⟩ | ⟨-, he⟩, rfl⟩
      · exact absurd hc hp.not_isCondition
      · exact List.mem_map.mpr ⟨e, Option.mem_toList.mpr he, rfl⟩
  · rw [step_of_fansOut hf]
    constructor
    · intro h
      exact absurd h (List.not_mem_nil)
    · rintro ⟨e, he, -⟩
      exact absurd he (hf.not_guarded e)
  · rw [step_of_isPlain hp, guards_serviceStep, conditions, List.map_map]
    constructor
    · intro h
      obtain ⟨e, he, rfl⟩ := List.mem_map.mp h
      obtain ⟨ho, hd⟩ := List.mem_filter.mp he
      exact ⟨e, .plain hp ho (by simpa using hd), rfl⟩
    · rintro ⟨e, ⟨-, ho, hd⟩ | ⟨hc, -⟩, rfl⟩
      · exact List.mem_map.mpr ⟨e, List.mem_filter.mpr ⟨ho, by simp [hd]⟩, rfl⟩
      · exact absurd hc hp.not_isCondition

/-- The step of a working node has conditions when the node guards an edge. -/
theorem guards_step_ne_nil_iff (hg : g.Classified) (hn : n ∈ g.nodes) (hw : n.isWorking = true) :
    (n.step g).guards ≠ [] ↔ ∃ e, g.Guarded n e := by
  have ht := fun t => mem_targets_step_iff hg hn hw (t := t)
  constructor
  · intro h
    obtain ⟨c, hc⟩ := List.exists_mem_of_ne_nil _ h
    obtain ⟨e, he, -⟩ := (ht c.goToStep).mp (List.mem_map_of_mem hc)
    exact ⟨e, he⟩
  · rintro ⟨e, he⟩ hnil
    have hm := (ht e.target).mpr ⟨e, he, rfl⟩
    rw [hnil] at hm
    exact absurd hm List.not_mem_nil

/-- The sub-steps of the step of a working node are the services that it fans out to. -/
theorem mem_subSteps_step_iff (hg : g.Classified) (hn : n ∈ g.nodes) (hw : n.isWorking = true)
    {t : String} :
    t ∈ (n.step g).subSteps ↔ g.FansOut n ∧ ∃ e ∈ g.fanOut n, e.target = t := by
  rcases hg.shape hn hw with hc | hf | hp
  · have h : ¬ g.FansOut n := fun hf => absurd hc hf.not_isCondition
    simp [step_of_isCondition hc, conditionStep, Step.subSteps, h]
  · simp only [step_of_fansOut hf, fanOutStep, Step.subSteps, List.mem_map, hf, true_and]
  · simp [step_of_isPlain hp, serviceStep, Step.subSteps, hp.not_fansOut]

/-- The step of a working node lacks its service when the node is plain and has no type. -/
theorem service?_step_iff (hg : g.Classified) (hn : n ∈ g.nodes) (hw : n.isWorking = true) :
    (n.step g).service? = some "" ↔ g.IsPlain n ∧ n.type = "" := by
  rcases hg.shape hn hw with hc | hf | hp
  · have h : ¬ g.IsPlain n := fun hp => absurd hc hp.not_isCondition
    simp [step_of_isCondition hc, conditionStep, Step.service?, conditionService, h]
  · have h : ¬ g.IsPlain n := fun hp => hp.not_fansOut hf
    simp [step_of_fansOut hf, fanOutStep, Step.service?, h]
  · simp only [step_of_isPlain hp, serviceStep, Step.service?, Option.some.injEq,
      serviceName_eq_empty_iff, hp, true_and]

end Node

namespace Graph

variable {g : Graph} {w : Workflow}

/-- The entry node of a graph is an entry among its nodes. -/
theorem entryNode?_eq_some {n : Node} (h : g.entryNode? = some n) :
    n ∈ g.nodes ∧ n.kind = some .entry := by
  unfold entryNode? at h
  exact ⟨List.mem_of_find?_eq_some h, by simpa using List.find?_some h⟩

/-- A document compiled from a graph starts at the first entry node. -/
theorem workflow?_eq_some_iff : g.workflow? = some w ↔ ∃ entry, g.entryNode? = some entry ∧
    w = ⟨entry.id, g.endSteps ++ g.workingSteps, some entry.id⟩ := by
  rw [workflow?, Option.map_eq_some_iff]
  exact exists_congr fun _ => and_congr_right fun _ => eq_comm

/-- A compiled document has an end step for each terminal and a step for each working node. -/
theorem mem_steps_iff (h : g.workflow? = some w) {s : Step} :
    s ∈ w.steps ↔ (∃ n ∈ g.nodes, n.kind = some .terminal ∧ s = .finish n.id) ∨
      ∃ n ∈ g.nodes, n.isWorking = true ∧ s = n.step g := by
  obtain ⟨_, _, rfl⟩ := workflow?_eq_some_iff.mp h
  simp only [List.mem_append, endSteps, workingSteps, List.mem_map, List.mem_filter, beq_iff_eq,
    and_assoc, @eq_comm _ s]

/-- What holds of all steps of a compiled document holds of its end steps and of the steps of its
working nodes. -/
theorem forall_mem_steps_iff (h : g.workflow? = some w) {p : Step → Prop} :
    (∀ s ∈ w.steps, p s) ↔ (∀ n ∈ g.nodes, n.kind = some .terminal → p (.finish n.id)) ∧
      ∀ n ∈ g.nodes, n.isWorking = true → p (n.step g) := by
  constructor
  · intro hp
    refine ⟨fun n hn hk => hp _ ?_, fun n hn hw => hp _ ?_⟩
    · exact (mem_steps_iff h).mpr (Or.inl ⟨n, hn, hk, rfl⟩)
    · exact (mem_steps_iff h).mpr (Or.inr ⟨n, hn, hw, rfl⟩)
  · rintro ⟨hend, hwork⟩ s hs
    rcases (mem_steps_iff h).mp hs with ⟨n, hn, hk, rfl⟩ | ⟨n, hn, hw, rfl⟩
    · exact hend n hn hk
    · exact hwork n hn hw

/-- The step ids of a compiled document are the ids of the step nodes. -/
theorem mem_stepIds_iff (hg : g.Classified) (h : g.workflow? = some w) {t : String} :
    t ∈ w.stepIds ↔ g.HasStep t := by
  rw [Workflow.stepIds, List.mem_map]
  constructor
  · rintro ⟨s, hs, rfl⟩
    rcases (mem_steps_iff h).mp hs with ⟨n, hn, hk, rfl⟩ | ⟨n, hn, hw, rfl⟩
    · exact ⟨n, hn, (hg.isStep_iff hn).mpr (Or.inl hk), rfl⟩
    · exact ⟨n, hn, (hg.isStep_iff hn).mpr (Or.inr hw), (n.step_id g).symm⟩
  · rintro ⟨n, hn, hs, rfl⟩
    rcases (hg.isStep_iff hn).mp hs with hk | hw
    · exact ⟨.finish n.id, (mem_steps_iff h).mpr (Or.inl ⟨n, hn, hk, rfl⟩), rfl⟩
    · exact ⟨n.step g, (mem_steps_iff h).mpr (Or.inr ⟨n, hn, hw, rfl⟩), n.step_id g⟩

/-- The step ids of a compiled document are the ids of the terminals and of the working nodes. -/
theorem stepIds_eq (h : g.workflow? = some w) :
    w.stepIds = (g.nodes.filter (·.kind == some .terminal)).map (·.id) ++
      (g.nodes.filter (·.isWorking)).map (·.id) := by
  obtain ⟨_, _, rfl⟩ := workflow?_eq_some_iff.mp h
  have hs : Step.id ∘ Node.step g = fun n => n.id := funext (Node.step_id g)
  simp only [Workflow.stepIds, endSteps, workingSteps, List.map_append, List.map_map, hs]
  rfl

/-- The step ids of a compiled document are the ids of the step nodes in another order. -/
theorem stepIds_perm (hg : g.Classified) (h : g.workflow? = some w) :
    w.stepIds.Perm (g.stepNodes.map (·.id)) := by
  have hends : g.stepNodes.filter (·.kind == some .terminal) =
      g.nodes.filter (·.kind == some .terminal) := by
    rw [stepNodes, List.filter_filter]
    refine List.filter_congr fun n _ => ?_
    by_cases hk : n.kind = some .terminal <;> simp [Node.IsStep, hk]
  have hworking : g.stepNodes.filter (fun n => !(n.kind == some .terminal)) =
      g.nodes.filter (·.isWorking) := by
    rw [stepNodes, List.filter_filter]
    refine List.filter_congr fun n hn => ?_
    rw [Bool.eq_iff_iff, Node.isWorking_iff (hg n hn)]
    simp [and_comm]
  have hsplit := (List.filter_append_perm (·.kind == some .terminal) g.stepNodes).map (·.id)
  rw [hends, hworking, List.map_append] at hsplit
  rw [stepIds_eq h]
  exact hsplit

/-- A service node that is found by its id has a step. -/
theorem hasStep_of_isService {id : String} (h : g.isService id = true) : g.HasStep id := by
  unfold isService at h
  split at h
  · rename_i n hn
    obtain ⟨hmem, hid⟩ := node?_eq_some hn
    have hk : n.kind = some .service := by simpa using h
    exact ⟨n, hmem, by simp [Node.IsStep, hk], hid⟩
  · exact absurd h (by simp)

/-- The continuations in a compiled document are those of the nodes. -/
theorem forall_next?_iff (hg : g.Classified) (h : g.workflow? = some w) {p : String → Prop} :
    (∀ s ∈ w.steps, ∀ t, s.next? = some t → p t) ↔
      ∀ n ∈ g.nodes, ∀ t, g.Continues n t → p t := by
  rw [forall_mem_steps_iff h]
  constructor
  · rintro ⟨-, hp⟩ n hn t ht
    have hw := ht.isWorking hg hn
    exact hp n hn hw t ((Node.next?_step_iff hg hn hw).mpr ht)
  · intro hp
    refine ⟨?_, ?_⟩
    · intro n _ _ t ht
      exact absurd ht (Option.some_ne_none t).symm
    · intro n hn hw t ht
      exact hp n hn t ((Node.next?_step_iff hg hn hw).mp ht)

/-- The targets of the conditions in a compiled document are those of the guarded edges. -/
theorem forall_targets_iff (hg : g.Classified) (h : g.workflow? = some w) {p : String → Prop} :
    (∀ s ∈ w.steps, ∀ c ∈ s.guards, p c.goToStep) ↔
      ∀ n ∈ g.nodes, ∀ e, g.Guarded n e → p e.target := by
  rw [forall_mem_steps_iff h]
  constructor
  · rintro ⟨-, hp⟩ n hn e he
    have hw := he.isWorking hg hn
    have hm := (Node.mem_targets_step_iff hg hn hw).mpr ⟨e, he, rfl⟩
    obtain ⟨c, hc, htarget⟩ := List.mem_map.mp hm
    rw [← htarget]
    exact hp n hn hw c hc
  · intro hp
    refine ⟨?_, ?_⟩
    · intro n _ _ c hc
      exact absurd hc List.not_mem_nil
    · intro n hn hw c hc
      obtain ⟨e, he, htarget⟩ :=
        (Node.mem_targets_step_iff hg hn hw).mp (List.mem_map_of_mem hc)
      rw [← htarget]
      exact hp n hn e he

/-- A compiled document lacks no fallback when every node that guards an edge continues somewhere. -/
theorem forall_fallbacks_iff (hg : g.Classified) (h : g.workflow? = some w) :
    (∀ s ∈ w.steps, s.guards ≠ [] → ∃ t, s.next? = some t ∧ t ≠ "") ↔
      ∀ n ∈ g.nodes, ∀ e, g.Guarded n e → ∃ t, g.Continues n t ∧ t ≠ "" := by
  rw [forall_mem_steps_iff h]
  constructor
  · rintro ⟨-, hp⟩ n hn e he
    have hw := he.isWorking hg hn
    obtain ⟨t, ht, hne⟩ := hp n hn hw ((Node.guards_step_ne_nil_iff hg hn hw).mpr ⟨e, he⟩)
    exact ⟨t, (Node.next?_step_iff hg hn hw).mp ht, hne⟩
  · intro hp
    refine ⟨?_, ?_⟩
    · intro n _ _ hc
      exact absurd rfl hc
    · intro n hn hw hc
      obtain ⟨e, he⟩ := (Node.guards_step_ne_nil_iff hg hn hw).mp hc
      obtain ⟨t, ht, hne⟩ := hp n hn e he
      exact ⟨t, (Node.next?_step_iff hg hn hw).mpr ht, hne⟩

/-- A compiled document lacks no id when every step node has one. -/
theorem forall_ids_iff (hg : g.Classified) (h : g.workflow? = some w) :
    (∀ s ∈ w.steps, s.id ≠ "") ↔ ∀ n ∈ g.nodes, n.IsStep → n.id ≠ "" := by
  have hs : (∀ s ∈ w.steps, s.id ≠ "") ↔ ∀ t ∈ w.stepIds, t ≠ "" := by
    simp only [Workflow.stepIds, List.forall_mem_map]
  rw [hs]
  constructor
  · intro hp n hn hstep
    exact hp n.id ((mem_stepIds_iff hg h).mpr ⟨n, hn, hstep, rfl⟩)
  · intro hp t ht
    obtain ⟨n, hn, hstep, rfl⟩ := (mem_stepIds_iff hg h).mp ht
    exact hp n hn hstep

/-- A compiled document lacks no service when every plain node has a type. -/
theorem forall_services_iff (hg : g.Classified) (h : g.workflow? = some w) :
    (∀ s ∈ w.steps, s.service? ≠ some "") ↔ ∀ n ∈ g.nodes, g.IsPlain n → n.type ≠ "" := by
  rw [forall_mem_steps_iff h]
  constructor
  · rintro ⟨-, hp⟩ n hn hplain htype
    have hw := hg.isWorking_of_isPlain hn hplain
    exact hp n hn hw ((Node.service?_step_iff hg hn hw).mpr ⟨hplain, htype⟩)
  · intro hp
    refine ⟨?_, ?_⟩
    · intro n _ _ hnone
      exact absurd hnone (Option.some_ne_none "").symm
    · intro n hn hw hs
      obtain ⟨hplain, htype⟩ := (Node.service?_step_iff hg hn hw).mp hs
      exact hp n hn hplain htype

/-- Every sub-step of a compiled document is a step of it. -/
theorem subSteps_mem_stepIds (hg : g.Classified) (h : g.workflow? = some w) :
    ∀ s ∈ w.steps, ∀ t ∈ s.subSteps, t ∈ w.stepIds := by
  refine (forall_mem_steps_iff h).mpr ⟨?_, ?_⟩
  · intro n _ _ t ht
    exact absurd ht List.not_mem_nil
  · intro n hn hw t ht
    obtain ⟨-, e, he, rfl⟩ := (Node.mem_subSteps_step_iff hg hn hw).mp ht
    exact (mem_stepIds_iff hg h).mpr (hasStep_of_isService (mem_fanOut.mp he).2.2)

end Graph

/-- A graph compiles to a document under a catalogue when its classified form does. -/
theorem Catalog.compile_eq_ok_iff {c : Catalog} {g : Graph} {w : Workflow} :
    c.compile g = .ok w ↔ (c.classifyGraph g).workflow? = some w := by
  unfold compile compile?
  cases h : (c.classifyGraph g).workflow? with
  | none => simp
  | some v => simp

end ServiceFlow
