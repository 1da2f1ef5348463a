import ServiceFlow.Proofs.Compile.Transitions
import ServiceFlow.Proofs.Workflow.Renaming

/-!
# Compiling graphs drawn anew

The compiler compares ids and copies them; it looks into none, and of a node or an edge it looks at
nothing that a redrawing may change. Drawn anew, each part of it gives what it gave before under the
new ids: the vote, because a tally tells candidates apart by their ids and orders them by their
first vote; the three ways to build a step; and with them the whole document.
-/

namespace ServiceFlow

section Vote

variable {r : String → String}

/-- The leader of a tally is chosen by the counts alone. -/
theorem leader_map (counts : List (String × Nat)) :
    leader (counts.map (Prod.map r id)) = (leader counts).map (Prod.map r id) := by
  induction counts with
  | nil => rfl
  | cons p rest ih =>
      obtain ⟨candidate, count⟩ := p
      simp only [List.map_cons, Prod.map, id_eq, leader, ih]
      cases h : leader rest with
      | none => rfl
      | some q =>
          by_cases hlt : count < q.2
          · simp only [Option.map_some, hlt, ite_true, Prod.map, id_eq]
          · simp only [Option.map_some, hlt, ite_false, Prod.map, id_eq]

variable (hr : Function.Injective r)

include hr in
/-- A key is found under its new name. -/
theorem Table.find?_map_rename {β : Type} (key : String) (table : List (String × β)) :
    Table.find? (· == ·) (r key) (table.map (Prod.map r id)) =
      Table.find? (· == ·) key table := by
  induction table with
  | nil => rfl
  | cons p rest ih =>
      rw [List.map_cons]
      simp only [Table.find?, Prod.map, beq_rename hr, ih, id_eq]

include hr in
/-- A key is set under its new name. -/
theorem Table.insert_map_rename {β : Type} (key : String) (value : β) (table : List (String × β)) :
    Table.insert (· == ·) (r key) value (table.map (Prod.map r id)) =
      (Table.insert (· == ·) key value table).map (Prod.map r id) := by
  induction table with
  | nil => rfl
  | cons p rest ih =>
      rw [List.map_cons]
      simp only [Table.insert, Prod.map, beq_rename hr, id_eq]
      split
      · rfl
      · rw [List.map_cons, ih]
        rfl

include hr in
/-- Counting votes under new names gives the tally under new names. -/
theorem foldl_addVote_map (votes : List String) (counts : List (String × Nat)) :
    (votes.map r).foldl addVote (counts.map (Prod.map r id)) =
      (votes.foldl addVote counts).map (Prod.map r id) := by
  induction votes generalizing counts with
  | nil => rfl
  | cons v rest ih =>
      have hstep : addVote (counts.map (Prod.map r id)) (r v) =
          (addVote counts v).map (Prod.map r id) := by
        rw [addVote, addVote, Table.find?_map_rename hr, Table.insert_map_rename hr]
      rw [List.map_cons, List.foldl_cons, List.foldl_cons, hstep, ih]

include hr in
/-- The winner of a vote under new names is the winner under its new name. -/
theorem majority_map (votes : List String) : majority (votes.map r) = (majority votes).map r := by
  have htally : tally (votes.map r) = (tally votes).map (Prod.map r id) :=
    foldl_addVote_map hr votes []
  rw [majority, majority, htally, leader_map, Option.map_map, Option.map_map]
  rfl

end Vote

section Steps

variable {d : Redrawing}

/-- The first edge that leaves by a handle is the same edge drawn anew. -/
theorem leavingBy_redraw (handle : String) (edges : List Edge) :
    leavingBy handle (edges.map d.edge) = (leavingBy handle edges).map d.edge := by
  simp only [leavingBy, List.find?_map, Function.comp_def, d.edge_sourceHandle]

/-- The edges lead to the same nodes under their new ids. -/
theorem Redrawing.map_target (d : Redrawing) (edges : List Edge) :
    (edges.map d.edge).map (·.target) = (edges.map (·.target)).map d.id := by
  simp only [List.map_map, Function.comp_def, d.edge_target]

namespace Node

/-- The conditions of a service call ask the same and lead to the new ids. -/
theorem conditions_redraw (edges : List Edge) :
    conditions (edges.map d.edge) = (conditions edges).map (Condition.rename d.id) := by
  simp only [conditions, List.filter_map, List.map_map, Function.comp_def, d.isDefault_edge,
    d.expression_edge, d.edge_target, Condition.rename]

theorem serviceStep_redraw (n : Node) (edges : List Edge) :
    (d.node n).serviceStep (edges.map d.edge) = (n.serviceStep edges).rename d.id := by
  have hnext : ((edges.map d.edge).find? (·.isDefault)).map (·.target) =
      ((edges.find? (·.isDefault)).map (·.target)).map d.id := by
    simp only [List.find?_map, Option.map_map, Function.comp_def, d.isDefault_edge, d.edge_target]
  have hconditions : (some ((conditions edges).map (Condition.rename d.id))).filter (!·.isEmpty) =
      ((some (conditions edges)).filter (!·.isEmpty)).map (List.map (Condition.rename d.id)) := by
    cases conditions edges <;> rfl
  simp only [serviceStep, conditions_redraw, hnext, hconditions, d.node_id, d.serviceName_node,
    Step.rename]

theorem conditionStep_redraw (n : Node) (edges : List Edge) :
    (d.node n).conditionStep (edges.map d.edge) = (n.conditionStep edges).rename d.id := by
  simp only [conditionStep, leavingBy_redraw, Option.map_map, Function.comp_def, d.node_id,
    d.edge_target, d.edge_engineCondition]
  cases leavingBy Edge.matchHandle edges <;> cases leavingBy Edge.otherHandle edges <;> rfl

end Node

variable (hd : Function.Injective d.id) (g : Graph)

namespace Graph

include hd in
/-- Under the new ids the same nodes are service nodes. -/
theorem isService_redraw (id : String) : (g.redraw d).isService (d.id id) = g.isService id := by
  rw [isService, isService, node?_redraw hd]
  cases g.node? id with
  | none => rfl
  | some n => simp only [Option.map_some, d.node_kind]

include hd in
/-- Under the new ids the same edges fan out of a node. -/
theorem fanOut_redraw (n : Node) :
    (g.redraw d).fanOut (d.node n) = (g.fanOut n).map d.edge := by
  simp only [fanOut, d.node_id, outgoing_redraw hd, List.filter_map, Function.comp_def,
    d.edge_target, isService_redraw hd]

include hd in
/-- Under the new ids the same votes are cast in the same order. -/
theorem votes_redraw (ids : List String) :
    (g.redraw d).votes (ids.map d.id) = (g.votes ids).map d.id := by
  rw [votes, votes, List.flatMap_map, List.map_flatMap]
  refine List.flatMap_congr fun id _ => ?_
  rw [outgoing_redraw hd, d.map_target]

include hd in
/-- Services meet at the same node under its new id. -/
theorem meetingPoint_redraw (ids : List String) :
    (g.redraw d).meetingPoint (ids.map d.id) = (g.meetingPoint ids).map d.id := by
  rw [meetingPoint, meetingPoint, votes_redraw hd, majority_map hd]

end Graph

namespace Node

include hd in
theorem fanOutStep_redraw (n : Node) (edges : List Edge) :
    fanOutStep (g.redraw d) (d.node n) (edges.map d.edge) =
      (fanOutStep g n edges).rename d.id := by
  simp only [fanOutStep, d.map_target, Graph.meetingPoint_redraw hd, d.node_id, Step.rename]

include hd in
/-- The step of a node drawn anew is the step of the node under the new ids. -/
theorem step_redraw (n : Node) : (d.node n).step (g.redraw d) = (n.step g).rename d.id := by
  simp only [step, d.isCondition_node, d.node_id, Graph.outgoing_redraw hd, Graph.fanOut_redraw hd,
    List.length_map]
  split
  · exact conditionStep_redraw n _
  · split
    · exact fanOutStep_redraw hd g n _
    · exact serviceStep_redraw n _

end Node

namespace Graph

theorem endSteps_redraw : (g.redraw d).endSteps = g.endSteps.map (Step.rename d.id) := by
  have hnodes : (g.redraw d).nodes = g.nodes.map d.node := rfl
  simp only [endSteps, hnodes, List.filter_map, List.map_map, Function.comp_def, d.node_kind,
    d.node_id, Step.rename]

include hd in
theorem workingSteps_redraw :
    (g.redraw d).workingSteps = g.workingSteps.map (Step.rename d.id) := by
  have hnodes : (g.redraw d).nodes = g.nodes.map d.node := rfl
  have hworking (n : Node) : (d.node n).isWorking = n.isWorking := by
    rw [Node.isWorking, d.node_kind, Node.isWorking]
  simp only [workingSteps, hnodes, List.filter_map, List.map_map, Function.comp_def, hworking,
    Node.step_redraw hd]

include hd in
/-- A graph drawn anew has a workflow when the graph has, and it is that of the graph under the new
ids. -/
theorem workflow?_redraw : (g.redraw d).workflow? = g.workflow?.map (Workflow.rename d.id) := by
  have hentry : (g.redraw d).entryNode? = g.entryNode?.map d.node := by
    simp only [entryNode?, redraw, List.find?_map, Function.comp_def, d.node_kind]
  simp only [workflow?, hentry, endSteps_redraw, workingSteps_redraw hd, Option.map_map,
    Function.comp_def, Workflow.rename, List.map_append, d.node_id, Option.map_some]

/-- Stripping a graph leaves its workflow as it is. -/
theorem workflow?_strip : g.strip.workflow? = g.workflow? := by
  have hrename : Workflow.rename Redrawing.stripping.id = id := funext Workflow.rename_id
  rw [strip, workflow?_redraw Redrawing.stripping_injective, hrename, Option.map_id_fun, id_eq]

end Graph

end Steps

/-- Compiling a renamed graph fails when compiling the graph does, and gives else the document of
the graph, renamed. -/
theorem Catalog.compile_rename {r : String → String} (hr : Function.Injective r) (c : Catalog)
    (g : Graph) : c.compile (g.rename r) = (c.compile g).map (Workflow.rename r) := by
  have hd : Function.Injective (Redrawing.renaming r).id := hr
  unfold compile compile?
  rw [classifyGraph_rename, ← Graph.redraw_renaming, Graph.workflow?_redraw hd]
  cases (c.classifyGraph g).workflow? <;> rfl

/-- Graphs that agree in what counts compile to the same document, or neither compiles. -/
theorem Catalog.compile_strip_congr (c : Catalog) {g g' : Graph} (h : g.strip = g'.strip) :
    c.compile g = c.compile g' := by
  have hstrip (k : Graph) : c.compile k = c.compile k.strip := by
    rw [compile, compile, compile?, compile?, classifyGraph_strip, Graph.workflow?_strip]
  rw [hstrip g, hstrip g', h]

end ServiceFlow
