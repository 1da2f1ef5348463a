import ServiceFlow.Proofs.Compile.Order
import ServiceFlow.Proofs.Compile.Transitions
import ServiceFlow.Proofs.Export.Gate

/-!
# Notes

A note is drawn for those who look at the canvas. One that no edge touches, and of whose type there
may be several, plays no part in anything that is done with a graph: not in the document, not in the
findings, not in an export. All of these look nodes up by the ends of edges, by kinds that are no
notes, or by types that occur at most once, and never by their place among the nodes.
-/

namespace ServiceFlow

namespace Graph

/-- Whether a node of a classified graph is a loose note: a note that no edge leaves or reaches by
its id, and of whose type there may be several. -/
def isLooseNote (g : Graph) (single : List String) (n : Node) : Bool :=
  n.kind == some .note && !single.contains n.type
    && g.edges.all fun e => e.source != n.id && e.target != n.id

/-- The graph without its loose notes. -/
def clearNotes (g : Graph) (single : List String) : Graph :=
  { g with nodes := g.nodes.filter (!g.isLooseNote single ·) }

variable {g : Graph} {single : List String} {n : Node} {id : String}

theorem isLooseNote_iff : g.isLooseNote single n = true ↔ n.kind = some .note ∧ n.type ∉ single ∧
    ∀ e ∈ g.edges, e.source ≠ n.id ∧ e.target ≠ n.id := by
  simp [isLooseNote, and_assoc]

/-- Only notes are loose notes. -/
theorem isLooseNote_of_kind_ne (h : n.kind ≠ some .note) : g.isLooseNote single n = false :=
  Bool.eq_false_iff.mpr fun hloose => h (isLooseNote_iff.mp hloose).1

/-- Whether an id is an end of an edge. -/
def IsEnd (g : Graph) (id : String) : Prop := ∃ e ∈ g.edges, e.source = id ∨ e.target = id

/-- A node that an edge touches is no loose note. -/
theorem IsEnd.isLooseNote_eq_false (h : g.IsEnd n.id) : g.isLooseNote single n = false := by
  obtain ⟨e, he, hid⟩ := h
  refine Bool.eq_false_iff.mpr fun hloose => ?_
  obtain ⟨hsource, htarget⟩ := (isLooseNote_iff.mp hloose).2.2 e he
  exact hid.elim hsource htarget

section Lookups

/-- Nodes among which there are no loose notes are the same without the loose notes. -/
theorem filter_clearNotes {p : Node → Bool}
    (hp : ∀ n ∈ g.nodes, p n = true → g.isLooseNote single n = false) :
    (g.clearNotes single).nodes.filter p = g.nodes.filter p := by
  rw [clearNotes, List.filter_filter]
  refine List.filter_congr fun n hn => ?_
  cases h : p n with
  | false => rfl
  | true => rw [hp n hn h]; rfl

/-- The node of an end of an edge is the same without the loose notes. -/
theorem node?_clearNotes (h : g.IsEnd id) : (g.clearNotes single).node? id = g.node? id := by
  rw [node?, node?, ← List.head?_filter, ← List.head?_filter, filter_clearNotes]
  intro n _ hid
  rw [beq_iff_eq] at hid
  exact (hid ▸ h : g.IsEnd n.id).isLooseNote_eq_false

theorem outgoing_clearNotes : (g.clearNotes single).outgoing id = g.outgoing id := rfl

theorem fanOut_clearNotes : (g.clearNotes single).fanOut n = g.fanOut n := by
  rw [fanOut, fanOut, outgoing_clearNotes]
  refine List.filter_congr fun e he => ?_
  have hend : g.IsEnd e.target := ⟨e, (mem_outgoing.mp he).1, .inr rfl⟩
  rw [isService, isService, node?_clearNotes hend]

end Lookups

/-- The document is the same without the loose notes. -/
theorem workflow?_clearNotes : (g.clearNotes single).workflow? = g.workflow? := by
  have hstep : Node.step (g.clearNotes single) = Node.step g :=
    funext fun n => Node.step_of_fanOut_eq fanOut_clearNotes rfl fun _ _ => rfl
  have hkind (k : NodeKind) (hk : k ≠ .note) : (g.clearNotes single).nodes.filter
      (·.kind == some k) = g.nodes.filter (·.kind == some k) := by
    refine filter_clearNotes fun n _ hn => isLooseNote_of_kind_ne ?_
    rw [beq_iff_eq.mp hn]
    simpa using hk
  have hentry : (g.clearNotes single).entryNode? = g.entryNode? := by
    rw [entryNode?, entryNode?, ← List.head?_filter, ← List.head?_filter, hkind _ (by decide)]
  have hworking : (g.clearNotes single).nodes.filter (·.isWorking) =
      g.nodes.filter (·.isWorking) := by
    refine filter_clearNotes fun n _ hn => isLooseNote_of_kind_ne fun hk => ?_
    rw [Node.isWorking, hk] at hn
    exact absurd hn (by decide)
  simp only [workflow?, hentry, endSteps, hkind .terminal (by decide), workingSteps, hworking,
    hstep]

/-- An id is that of a node exactly when it is looked up with success. -/
theorem contains_map_id (g : Graph) (id : String) :
    (g.nodes.map (·.id)).contains id = (g.node? id).isSome := by
  simp only [node?, List.isSome_find?, List.contains_eq_any_beq, List.any_map, Function.comp_def,
    Bool.beq_comm]

theorem entries_clearNotes : (g.clearNotes single).entries = g.entries := by
  refine filter_clearNotes fun n _ hn => isLooseNote_of_kind_ne ?_
  rw [beq_iff_eq.mp hn]
  decide

theorem repeatedTypes_clearNotes :
    (g.clearNotes single).repeatedTypes single = g.repeatedTypes single := by
  refine List.filterMap_congr fun t ht => ?_
  have hcount : (g.clearNotes single).nodes.countP (·.type == t) =
      g.nodes.countP (·.type == t) := by
    rw [List.countP_eq_length_filter, List.countP_eq_length_filter, filter_clearNotes]
    intro n _ hn
    refine Bool.eq_false_iff.mpr fun hloose => (isLooseNote_iff.mp hloose).2.1 ?_
    rwa [beq_iff_eq.mp hn]
  simp only [hcount]

theorem unreachedNodes_clearNotes :
    (g.clearNotes single).unreachedNodes single = g.unreachedNodes single := by
  have hincoming (id : String) : (g.clearNotes single).incoming id = g.incoming id := rfl
  simp only [unreachedNodes, hincoming]
  rw [filter_clearNotes]
  intro n _ hn
  refine isLooseNote_of_kind_ne ?_
  exact (needsIncoming_iff.mp (Bool.and_eq_true_iff.mp hn).1).1.2

/-- The ends of an edge that are no nodes are the same without the loose notes. -/
theorem unknownEnds_clearNotes {e : Edge} (he : e ∈ g.edges) :
    (g.clearNotes single).unknownEnds e = g.unknownEnds e := by
  rw [unknownEnds, unknownEnds]
  refine congrArg _ (List.filter_congr fun id hid => ?_)
  have hend : g.IsEnd id := by
    rcases List.mem_pair.mp hid with rfl | rfl
    · exact ⟨e, he, .inl rfl⟩
    · exact ⟨e, he, .inr rfl⟩
  rw [contains_map_id, contains_map_id, node?_clearNotes hend]

/-- The findings are the same without the loose notes. -/
theorem findings_clearNotes : (g.clearNotes single).findings single = g.findings single := by
  have hincoming (id : String) : (g.clearNotes single).incoming id = g.incoming id := rfl
  have hends : (g.clearNotes single).edges.flatMap (g.clearNotes single).unknownEnds =
      g.edges.flatMap g.unknownEnds := List.flatMap_congr fun e he => unknownEnds_clearNotes he
  simp only [findings, entryCount, reachedEntries, hincoming, entries_clearNotes,
    repeatedTypes_clearNotes, unreachedNodes_clearNotes, hends]

end Graph

namespace Catalog

variable {c : Catalog} {g g' : Graph}

/-- Graphs that are the same once their loose notes are gone have the same document, or both none,
the same findings and the same outcome of an export. -/
theorem outcomes_of_clearNotes_eq (h : (c.classifyGraph g).clearNotes c.singleInstance =
    (c.classifyGraph g').clearNotes c.singleInstance) :
    c.compile g = c.compile g' ∧ c.findings g = c.findings g' ∧
      c.exportGraph g = c.exportGraph g' := by
  have hworkflow : (c.classifyGraph g).workflow? = (c.classifyGraph g').workflow? := by
    rw [← Graph.workflow?_clearNotes, h, Graph.workflow?_clearNotes]
  have hcompile : c.compile g = c.compile g' := by
    rw [compile, compile, compile?, compile?, hworkflow]
  have hfindings : c.findings g = c.findings g' := by
    rw [findings, findings, ← Graph.findings_clearNotes, h, Graph.findings_clearNotes]
  exact ⟨hcompile, hfindings, by rw [exportGraph, exportGraph, hcompile, hfindings]⟩

/-- Notes are inert. A node that is classified as a note, of whose type there may be several, and
that no edge leaves or reaches by its id, can be drawn at any place among the nodes of a graph: the
document, or that there is none, the findings and the outcome of an export stay as they are. -/
theorem outcomes_insertNote (c : Catalog) (before after : List Node) (edges : List Edge) {a : Node}
    (hkind : (c.classify a).kind = some .note) (htype : a.type ∉ c.singleInstance)
    (hends : ∀ e ∈ edges, e.source ≠ a.id ∧ e.target ≠ a.id) :
    c.compile ⟨before ++ a :: after, edges⟩ = c.compile ⟨before ++ after, edges⟩ ∧
      c.findings ⟨before ++ a :: after, edges⟩ = c.findings ⟨before ++ after, edges⟩ ∧
      c.exportGraph ⟨before ++ a :: after, edges⟩ = c.exportGraph ⟨before ++ after, edges⟩ := by
  refine outcomes_of_clearNotes_eq ?_
  have hloose : (c.classifyGraph ⟨before ++ a :: after, edges⟩).isLooseNote c.singleInstance
      (c.classify a) = true := Graph.isLooseNote_iff.mpr ⟨hkind, htype, hends⟩
  have hnodes : (c.classifyGraph ⟨before ++ a :: after, edges⟩).nodes =
      before.map c.classify ++ c.classify a :: after.map c.classify := List.map_append
  have hrest : (c.classifyGraph ⟨before ++ after, edges⟩).nodes =
      before.map c.classify ++ after.map c.classify := List.map_append
  refine congrArg (Graph.mk · edges) ?_
  simp only [hnodes, hrest, List.filter_append, List.filter_cons, hloose, Bool.not_true,
    Bool.false_eq_true, if_false]
  -- whether a note is loose depends on the edges alone, on which the two graphs agree
  rfl

/-- A remark beside the steps of `sideBySide`, between the steps that are side by side. -/
theorem outcomes_insertNote_sideBySide :
    ∃ before after, before ++ after = sideBySide.nodes ∧
      (default.classify { id := "n", type := "TextNode" }).kind = some .note ∧
      "TextNode" ∉ default.singleInstance ∧
      (∀ e ∈ sideBySide.edges, e.source ≠ "n" ∧ e.target ≠ "n") ∧
      default.compile ⟨before ++ { id := "n", type := "TextNode" } :: after, sideBySide.edges⟩ =
        .ok sideBySideDocument := by
  refine ⟨sideBySide.nodes.take 3, sideBySide.nodes.drop 3, rfl, by decide, by decide, by decide, ?_⟩
  rw [(default.outcomes_insertNote _ _ sideBySide.edges (by decide) (by decide) (by decide)).1]
  rfl

end Catalog

end ServiceFlow
