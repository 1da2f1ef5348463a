import ServiceFlow.Proofs.Compile.Steps
import ServiceFlow.Proofs.Graph.Findings
import ServiceFlow.Proofs.Graph.Order

/-!
# What the order of a graph means to the compiler

The step of a node is built from the edges that leave the node, from which of them lead to services,
and from the edges that leave these. Nothing else of the order of edges enters a document: the votes
are cast service by service, so edges of different sources can be drawn in any order. The order of
the nodes decides which node of an id is found and which entry node is first; where ids are distinct
and there is one entry node, it decides the order of the steps alone.
-/

namespace ServiceFlow

namespace Graph

variable {g g' : Graph}

/-- Which ids are those of services is read off the nodes. -/
theorem isService_congr (h : g.nodes = g'.nodes) (id : String) :
    g.isService id = g'.isService id := by
  rw [isService, isService, node?, node?, h]

/-- The votes of some ids are read off the edges that leave them. -/
theorem votes_congr {ids : List String} (h : ∀ id ∈ ids, g.outgoing id = g'.outgoing id) :
    g.votes ids = g'.votes ids := by
  rw [votes, votes]
  exact List.flatMap_congr fun id hid => by rw [h id hid]

end Graph

namespace Node

variable {g g' : Graph} {n : Node}

/-- The step of a node is read off the edges that leave the node, those among them that lead to
services, and the edges that leave these. -/
theorem step_of_fanOut_eq (hf : g.fanOut n = g'.fanOut n) (ho : g.outgoing n.id = g'.outgoing n.id)
    (hm : ∀ e ∈ g.fanOut n, g.outgoing e.target = g'.outgoing e.target) :
    n.step g = n.step g' := by
  have hmeet : g.meetingPoint ((g.fanOut n).map (·.target)) =
      g'.meetingPoint ((g.fanOut n).map (·.target)) := by
    rw [Graph.meetingPoint, Graph.meetingPoint]
    refine congrArg majority (Graph.votes_congr fun id hid => ?_)
    obtain ⟨e, he, rfl⟩ := List.mem_map.mp hid
    exact hm e he
  simp only [step, fanOutStep, ← hf, ← ho, hmeet]

/-- The step of a node is read off the service nodes, the edges that leave the node, and the edges
that leave the services among their targets. -/
theorem step_congr (hs : ∀ id, g.isService id = g'.isService id)
    (ho : g.outgoing n.id = g'.outgoing n.id)
    (hm : ∀ e ∈ g.fanOut n, g.outgoing e.target = g'.outgoing e.target) :
    n.step g = n.step g' :=
  step_of_fanOut_eq (by simp only [Graph.fanOut, ho, hs]) ho hm

end Node

namespace Graph

variable {g g' : Graph} {w w' : Workflow}

/-- Graphs with the same nodes and the same edges out of every id have the same workflow. -/
theorem workflow?_of_outgoing_eq (hn : g.nodes = g'.nodes)
    (ho : ∀ id, g.outgoing id = g'.outgoing id) : g.workflow? = g'.workflow? := by
  have hstep : Node.step g = Node.step g' :=
    funext fun n => Node.step_congr (isService_congr hn) (ho n.id) fun e _ => ho e.target
  simp only [workflow?, entryNode?, endSteps, workingSteps, hn, hstep]

/-- When ids are distinct, a node has the same step in whatever order the nodes are. -/
theorem step_of_nodes_perm (hp : g.nodes.Perm g'.nodes) (he : g.edges = g'.edges)
    (hd : (g.nodes.map (·.id)).Nodup) (n : Node) : n.step g = n.step g' := by
  have ho (id : String) : g.outgoing id = g'.outgoing id := by rw [outgoing, outgoing, he]
  have hs (id : String) : g.isService id = g'.isService id := by
    rw [isService, isService, node?_of_perm hp hd]
  exact Node.step_congr hs (ho n.id) fun e _ => ho e.target

/-- When ids are distinct and there is one entry node, another order of the nodes moves the steps
along with their nodes and changes nothing else in the workflow. -/
theorem workflow?_of_nodes_perm (hp : g.nodes.Perm g'.nodes) (he : g.edges = g'.edges)
    (hd : (g.nodes.map (·.id)).Nodup) (h1 : g.entries.length = 1) :
    ∃ w w', g.workflow? = some w ∧ g'.workflow? = some w' ∧ w.startStep = w'.startStep ∧
      w.entryStep = w'.entryStep ∧ w.steps.Perm w'.steps := by
  obtain ⟨n, hn⟩ := List.length_eq_one_iff.mp h1
  have hn' : g'.entries = [n] := List.perm_singleton.mp (hn ▸ (entries_perm hp).symm)
  have hends : g.endSteps.Perm g'.endSteps := (hp.filter _).map _
  have hworking : g.workingSteps.Perm g'.workingSteps := by
    rw [workingSteps, workingSteps, funext (step_of_nodes_perm hp he hd)]
    exact (hp.filter _).map _
  refine ⟨_, _, workflow?_eq_some_iff.mpr ⟨n, entryNode?_eq_of_entries hn, rfl⟩,
    workflow?_eq_some_iff.mpr ⟨n, entryNode?_eq_of_entries hn', rfl⟩, rfl, rfl, ?_⟩
  exact hends.append hworking

end Graph

end ServiceFlow
