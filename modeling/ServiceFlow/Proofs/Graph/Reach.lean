import Mathlib.Data.Fintype.Card
import Mathlib.Data.Set.Finite.List
import Mathlib.Logic.Relation
import ServiceFlow.Proofs.Graph.Findings

/-!
# What is reached along edges

The check for nodes that nothing leads to looks at one edge at a time. Walking back along such edges
from a node ends, because there are finitely many nodes: it comes to a node that no edge has to lead
to, which is an entry, a note or a node of a type that occurs at most once, or it runs into a cycle.
So a graph without findings can still have nodes that no run comes to, and what feeds them is a
cycle or a note.
-/

namespace ServiceFlow

namespace Graph

/-- Whether some edge leads from one id to another. -/
def Joins (g : Graph) (a b : String) : Prop := ∃ e ∈ g.edges, e.source = a ∧ e.target = b

/-- Whether an id is reached from another along edges. -/
def Reaches (g : Graph) : String → String → Prop := Relation.ReflTransGen g.Joins

/-- Whether an id is reached from another along at least one edge. -/
def Leads (g : Graph) : String → String → Prop := Relation.TransGen g.Joins

/-- An edge that leaves an id joins it to where the edge leads. -/
theorem joins_of_mem_outgoing {g : Graph} {id : String} {e : Edge} (he : e ∈ g.outgoing id) :
    g.Joins id e.target := by
  obtain ⟨hmem, hsource⟩ := mem_outgoing.mp he
  exact ⟨e, hmem, hsource, rfl⟩

/-- Ids that no edge leads out of are not left along edges. -/
theorem Reaches.mem {g : Graph} {ids : List String} {a b : String} (h : g.Reaches a b)
    (hids : ∀ e ∈ g.edges, e.source ∈ ids → e.target ∈ ids) (ha : a ∈ ids) : b ∈ ids := by
  induction h with
  | refl => exact ha
  | tail _ hstep ih =>
      obtain ⟨e, he, rfl, rfl⟩ := hstep
      exact hids e he ih

/-- Nothing is led to from an id that no edge leaves. -/
theorem not_leads_of_outgoing_eq_nil {g : Graph} {a b : String} (h : g.outgoing a = []) :
    ¬ g.Leads a b := by
  intro hleads
  obtain ⟨_, ⟨e, he, hsource, -⟩, -⟩ := Relation.TransGen.head'_iff.mp hleads
  have hmem : e ∈ g.outgoing a := mem_outgoing.mpr ⟨he, hsource⟩
  exact absurd (h ▸ hmem) List.not_mem_nil

/-- A graph whose edges all lead upwards has no cycle. -/
theorem not_leads_self {g : Graph} (rank : String → Nat)
    (h : ∀ e ∈ g.edges, rank e.source < rank e.target) (a : String) : ¬ g.Leads a a := by
  have hrank {b : String} (hleads : g.Leads a b) : rank a < rank b := by
    induction hleads with
    | single hstep =>
        obtain ⟨e, he, rfl, rfl⟩ := hstep
        exact h e he
    | tail _ hstep ih =>
        obtain ⟨e, he, rfl, rfl⟩ := hstep
        exact ih.trans (h e he)
  exact fun hleads => Nat.lt_irrefl _ (hrank hleads)

end Graph

section WalkingBack

variable {α : Type} {r : α → α → Prop} {members : List α} {x : α}

/-- The members of a list that come before one of them in a relation. -/
abbrev Before (r : α → α → Prop) (members : List α) (x : α) : Type :=
  {a // a ∈ members ∧ Relation.ReflTransGen r a x}

/-- Walking back in a finite list one comes to a member that nothing in the list stands before, or
to one that stands before itself. -/
theorem exists_first_or_cycle (hx : x ∈ members) :
    ∃ a ∈ members, Relation.ReflTransGen r a x ∧
      (Relation.TransGen r a a ∨ ∀ b ∈ members, ¬ r b a) := by
  by_contra hnone
  push Not at hnone
  have hfinite : Finite (Before r members x) :=
    (members.finite_toSet.subset fun a ha => ha.1 : {a | a ∈ members ∧ _}.Finite)
  have hirrefl : Std.Irrefl fun a b : Before r members x => Relation.TransGen r a.1 b.1 :=
    ⟨fun a hcycle => (hnone a.1 a.2.1 a.2.2).1 hcycle⟩
  have htrans : IsTrans (Before r members x) fun a b => Relation.TransGen r a.1 b.1 :=
    ⟨fun _ _ _ => Relation.TransGen.trans⟩
  obtain ⟨a, -, hfirst⟩ := (Finite.wellFounded_of_trans_of_irrefl
    fun a b : Before r members x => Relation.TransGen r a.1 b.1).has_min Set.univ
      ⟨⟨x, hx, .refl⟩, trivial⟩
  obtain ⟨b, hb, hba⟩ := (hnone a.1 a.2.1 a.2.2).2
  exact hfirst ⟨b, hb, .head hba a.2.2⟩ trivial (.single hba)

end WalkingBack

namespace Graph

variable {g : Graph} {single : List String} {n : Node}

/-- Nodes at which walking back can end: an entry, a note or a node of a type that occurs at most
once. -/
def IsSource (single : List String) (n : Node) : Prop :=
  n.kind = some .entry ∨ n.type ∈ single ∨ n.kind = some .note

/-- A node is a source unless an edge has to lead to it. -/
theorem isSource_iff : IsSource single n ↔ ¬ (n.IsStep ∧ n.type ∉ single) := by
  unfold IsSource Node.IsStep
  tauto

/-- Every node of a tidy graph that is no source is led to from a source or from a cycle. -/
theorem Tidy.exists_leads (h : g.Tidy single) (hn : n ∈ g.nodes) (hs : n.IsStep)
    (ht : n.type ∉ single) :
    ∃ m ∈ g.nodes, g.Leads m.id n.id ∧ (IsSource single m ∨ g.Leads m.id m.id) := by
  obtain ⟨a, ha, hreach, hcycle | hfirst⟩ :=
    exists_first_or_cycle (r := g.Joins) (List.mem_map_of_mem (f := (·.id)) hn)
  · obtain ⟨m, hm, rfl⟩ := List.mem_map.mp ha
    exact ⟨m, hm, Relation.TransGen.trans_left hcycle hreach, .inr hcycle⟩
  · obtain ⟨m, hm, rfl⟩ := List.mem_map.mp ha
    -- Both ends of an edge are nodes, so no edge at all leads to the first id.
    have hunled : ∀ e ∈ g.edges, e.target ≠ m.id := by
      intro e he htarget
      obtain ⟨⟨k, hk, hsource⟩, -⟩ := h.ends e he
      exact hfirst e.source (hsource ▸ List.mem_map_of_mem hk) ⟨e, he, rfl, htarget⟩
    have hne : n.id ≠ m.id := by
      intro hid
      obtain ⟨e, he, htarget⟩ := h.reached n hn hs ht
      exact hunled e he (htarget.trans hid)
    refine ⟨m, hm, (Relation.reflTransGen_iff_eq_or_transGen.mp hreach).resolve_left hne, .inl ?_⟩
    rw [isSource_iff]
    rintro ⟨hstep, htype⟩
    obtain ⟨e, he, htarget⟩ := h.reached m hm hstep htype
    exact hunled e he htarget

end Graph

namespace Catalog

variable {c : Catalog} {g : Graph} {n : Node}

/-- In a graph without findings every node that is no entry, no note and of a type that can repeat
is led to from the entry, from a node of a type that occurs at most once, from a note or from a node
on a cycle. Where no edge leaves a note and no node is on a cycle, every such node is led to from
the entry or from a node of a type that occurs at most once. -/
theorem led_of_findings_eq_nil (h : c.findings g = []) (hn : n ∈ (c.classifyGraph g).nodes)
    (hs : n.IsStep) (ht : n.type ∉ c.singleInstance) :
    (∃ m ∈ (c.classifyGraph g).nodes, g.Leads m.id n.id ∧
      (m.kind = some .entry ∨ m.type ∈ c.singleInstance ∨ m.kind = some .note ∨
        g.Leads m.id m.id)) ∧
    ((∀ m ∈ (c.classifyGraph g).nodes, m.kind = some .note → g.outgoing m.id = []) →
      (∀ m ∈ (c.classifyGraph g).nodes, ¬ g.Leads m.id m.id) →
      ∃ m ∈ (c.classifyGraph g).nodes, g.Leads m.id n.id ∧
        (m.kind = some .entry ∨ m.type ∈ c.singleInstance)) := by
  have htidy : (c.classifyGraph g).Tidy c.singleInstance := Graph.findings_eq_nil_iff.mp h
  obtain ⟨m, hm, hleads, (hentry | hsingle | hnote) | hcycle⟩ := htidy.exists_leads hn hs ht
  · exact ⟨⟨m, hm, hleads, .inl hentry⟩, fun _ _ => ⟨m, hm, hleads, .inl hentry⟩⟩
  · exact ⟨⟨m, hm, hleads, .inr (.inl hsingle)⟩, fun _ _ => ⟨m, hm, hleads, .inr hsingle⟩⟩
  · refine ⟨⟨m, hm, hleads, .inr (.inr (.inl hnote))⟩, fun hnotes _ => ?_⟩
    exact absurd hleads (Graph.not_leads_of_outgoing_eq_nil (hnotes m hm hnote))
  · refine ⟨⟨m, hm, hleads, .inr (.inr (.inr hcycle))⟩, fun _ hcycles => ?_⟩
    exact absurd hcycle (hcycles m hm)

/-- A service node that only an edge of its own leads to, and another that only a note leads to. -/
def strays : Graph where
  nodes := [{ id := "e", type := "StartNode" }, { id := "s", type := "IDV" },
    { id := "x", type := "AML" }, { id := "k", type := "TextNode" }, { id := "y", type := "KYB" }]
  edges := [{ id := "1", source := "e", target := "s" },
    { id := "2", source := "x", target := "x" }, { id := "3", source := "k", target := "y" }]

/-- A service node that only a node leads to whose type occurs at most once. -/
def fedService : Graph where
  nodes := [{ id := "e", type := "StartNode" }, { id := "w", type := "WebApp" },
    { id := "y", type := "KYB" }, { id := "k", type := "TextNode" }]
  edges := [{ id := "1", source := "w", target := "y" }]

/-- The service node of both graphs, as it is classified. -/
def fedNode : Node := { id := "y", type := "KYB", kind := some .service }

theorem led_of_findings_eq_nil_fedNode :
    Catalog.default.findings strays = [] ∧ Catalog.default.findings fedService = [] ∧
      fedNode ∈ (Catalog.default.classifyGraph strays).nodes ∧
      fedNode ∈ (Catalog.default.classifyGraph fedService).nodes ∧ fedNode.IsStep ∧
      fedNode.type ∉ Catalog.default.singleInstance ∧
      (∃ m ∈ (Catalog.default.classifyGraph strays).nodes, strays.Leads m.id "y" ∧
        (m.kind = some .entry ∨ m.type ∈ Catalog.default.singleInstance ∨ m.kind = some .note ∨
          strays.Leads m.id m.id)) ∧
      ∃ m ∈ (Catalog.default.classifyGraph fedService).nodes, fedService.Leads m.id "y" ∧
        (m.kind = some .entry ∨ m.type ∈ Catalog.default.singleInstance) := by
  have hstrays : fedNode ∈ (Catalog.default.classifyGraph strays).nodes := by decide
  have hfed : fedNode ∈ (Catalog.default.classifyGraph fedService).nodes := by decide
  have hstep : fedNode.IsStep := by decide
  have htype : fedNode.type ∉ Catalog.default.singleInstance := by decide
  have hnotes : ∀ m ∈ (Catalog.default.classifyGraph fedService).nodes,
      m.kind = some .note → fedService.outgoing m.id = [] := by decide
  have hcycles (m : Node) : ¬ fedService.Leads m.id m.id :=
    Graph.not_leads_self (fun id => if id = "y" then 1 else 0) (by decide) m.id
  exact ⟨rfl, rfl, hstrays, hfed, hstep, htype,
    (led_of_findings_eq_nil rfl hstrays hstep htype).1,
    (led_of_findings_eq_nil rfl hfed hstep htype).2 hnotes fun m _ => hcycles m⟩

/-- A graph without findings can have step nodes that are reached neither from its entry nor from a
node of a type that occurs at most once. -/
theorem strays_not_reached :
    Catalog.default.findings strays = [] ∧
      ∀ id ∈ ["x", "y"],
        (∃ n ∈ (Catalog.default.classifyGraph strays).nodes, n.id = id ∧ n.IsStep ∧
          n.type ∉ Catalog.default.singleInstance) ∧
        ∀ m ∈ (Catalog.default.classifyGraph strays).nodes,
          m.kind = some .entry ∨ m.type ∈ Catalog.default.singleInstance →
            ¬ strays.Reaches m.id id := by
  have hclosed : ∀ e ∈ strays.edges, e.source ∈ ["e", "s"] → e.target ∈ ["e", "s"] := by decide
  have hstarts : ∀ m ∈ (Catalog.default.classifyGraph strays).nodes,
      m.kind = some .entry ∨ m.type ∈ Catalog.default.singleInstance → m.id ∈ ["e", "s"] := by
    decide
  have hstrays : ∀ id ∈ ["x", "y"], id ∉ ["e", "s"] ∧
      ∃ n ∈ (Catalog.default.classifyGraph strays).nodes, n.id = id ∧ n.IsStep ∧
        n.type ∉ Catalog.default.singleInstance := by decide
  refine ⟨rfl, ?_⟩
  intro id hid
  obtain ⟨houtside, hstep⟩ := hstrays id hid
  refine ⟨hstep, ?_⟩
  intro m hm hstart hreach
  exact houtside (hreach.mem hclosed (hstarts m hm hstart))

end Catalog

end ServiceFlow
