import Mathlib.Data.List.Forall2
import ServiceFlow.Proofs.Compile.Steps

/-!
# The shape of compiled documents

The classified nodes of a graph decide what its document looks like. It starts at the first entry
node; without one there is no document. The end steps of the terminals come first, and the service
and branch nodes follow with one step each, node by node, even when ids repeat. A condition node
always has a list of conditions, if only an empty one; a service step has none rather than an empty
one.
-/

namespace ServiceFlow

namespace Graph

/-- The step that a service or branch node has, told by the node and by the edges that leave its
id. -/
inductive Builds (g : Graph) (n : Node) : Step → Prop
  /-- A condition node asks the service for conditions, with one condition at most. -/
  | condition {conditions : List Condition} {next : Option String} (hn : n.isCondition = true)
      (hl : conditions.length ≤ 1) :
      Builds g n (.service n.id Node.conditionService (some conditions) next)
  /-- Another node with two edges to services or more calls their targets side by side. -/
  | fanOut {next : Option String} (hn : n.isCondition = false) (hf : 2 ≤ (g.fanOut n).length) :
      Builds g n (.fanOut n.id ((g.fanOut n).map (·.target)) next)
  /-- Any other node calls the service of its type, with a condition for each edge that is no
  default, and goes on along its first default edge. -/
  | service {conditions : Option (List Condition)} (hn : n.isCondition = false)
      (hf : (g.fanOut n).length < 2) (hne : conditions ≠ some [])
      (hc : conditions.getD [] =
        ((g.outgoing n.id).filter (!·.isDefault)).map fun e => ⟨e.expression, e.target⟩) :
      Builds g n (.service n.id (Text.lower n.type) conditions
        (((g.outgoing n.id).find? (·.isDefault)).map (·.target)))

/-- What makes a document the one of a classified graph. -/
structure Yields (g : Graph) (w : Workflow) : Prop where
  /-- It starts at the first entry node, and that is the entry it remembers. -/
  entry : ∃ n, g.nodes.find? (·.kind == some .entry) = some n ∧ w.startStep = n.id ∧
    w.entryStep = some n.id
  /-- The end steps of the terminals come first, then a step for each service and branch node. -/
  steps : ∃ working, List.Forall₂ g.Builds
      (g.nodes.filter fun n => n.kind == some .service || n.kind == some .branch) working ∧
    w.steps = (g.nodes.filter (·.kind == some .terminal)).map (fun n => .finish n.id) ++ working

variable {g : Graph} {n : Node} {s : Step} {w : Workflow}

/-- The step of a condition node has its list of conditions, which holds one at most. -/
theorem builds_conditionStep (hn : n.isCondition = true) (edges : List Edge) :
    g.Builds n (n.conditionStep edges) := by
  refine .condition hn ?_
  cases leavingBy Edge.matchHandle edges <;> simp

/-- The step of a plain node lists its conditional edges, and has no list when there are none. -/
theorem builds_serviceStep (hp : g.IsPlain n) : g.Builds n (n.serviceStep (g.outgoing n.id)) := by
  obtain ⟨-, -, hn, hf⟩ := hp
  refine .service hn hf ?_ ?_
  · intro hnil
    have hsome := (Option.filter_eq_some_iff.mp hnil).2
    exact absurd hsome (by decide)
  · exact Node.guards_serviceStep n _

/-- The step of a working node is the one that the node builds. -/
theorem Classified.builds_step (hg : g.Classified) (hn : n ∈ g.nodes) (hw : n.isWorking = true) :
    g.Builds n (n.step g) := by
  rcases hg.shape hn hw with hc | hf | hp
  · rw [Node.step_of_isCondition hc]
    exact builds_conditionStep hc _
  · rw [Node.step_of_fansOut hf]
    exact .fanOut hf.2.2.1 hf.2.2.2
  · rw [Node.step_of_isPlain hp]
    exact builds_serviceStep hp

/-- A classified graph yields its document. -/
theorem Classified.yields (hg : g.Classified) (h : g.workflow? = some w) : g.Yields w := by
  obtain ⟨entry, hentry, rfl⟩ := workflow?_eq_some_iff.mp h
  have hsteps : ∀ n ∈ g.nodes.filter (·.isWorking), g.Builds n (n.step g) := by
    intro n hn
    obtain ⟨hmem, hw⟩ := List.mem_filter.mp hn
    exact hg.builds_step hmem hw
  refine ⟨⟨entry, hentry, rfl, rfl⟩, g.workingSteps, ?_, rfl⟩
  exact List.forall₂_map_right_iff.mpr (List.forall₂_same.mpr hsteps)

/-- There is no document exactly when no node is an entry. -/
theorem workflow?_eq_none_iff : g.workflow? = none ↔ ∀ n ∈ g.nodes, n.kind ≠ some .entry := by
  simp [workflow?, entryNode?]

end Graph

namespace Catalog

/-- Compiling fails exactly when no node is an entry once the kinds are filled in; otherwise the
classified graph yields the document. -/
theorem compile_shape (c : Catalog) (g : Graph) :
    (c.compile g = .error .noEntry ↔ ∀ n ∈ (c.classifyGraph g).nodes, n.kind ≠ some .entry) ∧
      (c.compile g = .error .noEntry ∨
        ∃ w, c.compile g = .ok w ∧ (c.classifyGraph g).Yields w) := by
  rw [← Graph.workflow?_eq_none_iff, compile, compile?]
  cases h : (c.classifyGraph g).workflow? with
  | none => simp
  | some w =>
      have hyields : (c.classifyGraph g).Yields w := (c.classifyGraph_classified g).yields h
      exact ⟨by simp, Or.inr ⟨w, rfl, hyields⟩⟩

/-- Two nodes of one id have a step each, and an empty list of conditions is left out of the step of
a service but not out of that of a condition node. -/
example : Catalog.default.compile
    { nodes := [{ id := "s", type := "IDV" }, { id := "e", type := "StartNode" },
        { id := "s", type := "Condition" }, { id := "t", type := "EndNode" }] } =
    .ok ⟨"e", [.finish "t", .service "s" "idv" none none,
      .service "s" "condition" (some []) none], some "e"⟩ := by rfl

end Catalog

end ServiceFlow
