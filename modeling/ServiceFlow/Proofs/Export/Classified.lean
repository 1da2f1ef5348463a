import ServiceFlow.Proofs.Export.Gate
import ServiceFlow.Proofs.Load.Items

/-!
# Kinds that are set stay

Compiling, checking and exporting each classify the graph that they are given, under whatever
catalogue is at hand. A kind that is set is kept, so the catalogue that classifies a graph first
decides for good. The one thing that a later catalogue is still asked for is which types occur at
most once, and only the findings depend on that.
-/

namespace ServiceFlow

namespace Catalog

variable {c d : Catalog} {g : Graph}

/-- Of a classified graph a catalogue finds what there is to be found by its types that occur at
most once. -/
theorem findings_of_classified (d : Catalog) (hg : g.Classified) :
    d.findings g = g.findings d.singleInstance := by
  rw [findings, d.classifyGraph_of_classified hg]

/-- Catalogues that ask for the same types to occur at most once find the same in a graph that one
of them has classified. -/
theorem findings_classifyGraph (h : d.singleInstance = c.singleInstance) (g : Graph) :
    d.findings (c.classifyGraph g) = c.findings g := by
  rw [d.findings_of_classified (c.classifyGraph_classified g), h, findings]

/-- They also export it with the same outcome. -/
theorem exportGraph_classifyGraph (h : d.singleInstance = c.singleInstance) (g : Graph) :
    d.exportGraph (c.classifyGraph g) = c.exportGraph g := by
  have hcompile := compile_classifyGraph c d g
  cases hw : c.compile g with
  | error f =>
      rw [exportGraph_of_compile_error (hcompile.trans hw), exportGraph_of_compile_error hw]
  | ok w =>
      rw [exportGraph_of_compile (hcompile.trans hw), exportGraph_of_compile hw,
        findings_classifyGraph h]

/-- Classifying first changes nothing. A graph that one catalogue has classified is left as it is
when another classifies it, and compiles under any other to what the graph compiles to under the
first. If the two ask for the same types to occur at most once, the findings are the same and so is
the outcome of an export. For a kind that is set wins over every catalogue. -/
theorem outcomes_classifyGraph (c d : Catalog) (g : Graph) :
    d.classifyGraph (c.classifyGraph g) = c.classifyGraph g ∧
      d.compile (c.classifyGraph g) = c.compile g ∧
      (d.singleInstance = c.singleInstance →
        d.findings (c.classifyGraph g) = c.findings g ∧
          d.exportGraph (c.classifyGraph g) = c.exportGraph g) ∧
      ∀ n : Node, n.kind ≠ none → d.classify n = n := by
  refine ⟨?_, compile_classifyGraph c d g, ?_, fun n => d.classify_of_kind_ne_none⟩
  · exact d.classifyGraph_of_classified (c.classifyGraph_classified g)
  · intro h
    exact ⟨findings_classifyGraph h g, exportGraph_classifyGraph h g⟩

/-- Two nodes of one type, of which one has a kind of its own that ends a run. -/
def ownEnd : Graph where
  nodes := [{ id := "e", type := "StartNode" }, { id := "s", type := "IDV" },
    { id := "t", type := "IDV", kind := some .terminal }]
  edges := [{ id := "1", source := "e", target := "s" },
    { id := "2", source := "s", target := "t" }]

/-- A catalogue under which the graph has no entry and its service is a note. -/
def unlikeDefault : Catalog := ⟨[("StartNode", .terminal), ("IDV", .note)], ["WebApp"]⟩

theorem outcomes_classifyGraph_ownEnd :
    unlikeDefault.compile ownEnd = .error .noEntry ∧
      unlikeDefault.compile (default.classifyGraph ownEnd) =
        .ok ⟨"e", [.finish "t", .service "s" "idv" none (some "t")], some "e"⟩ ∧
      unlikeDefault.singleInstance = default.singleInstance ∧
      unlikeDefault.findings (default.classifyGraph ownEnd) = [] ∧
      unlikeDefault.exportGraph (default.classifyGraph ownEnd) =
        .ok ⟨"e", [.finish "t", .service "s" "idv" none (some "t")], some "e"⟩ ∧
      (Catalog.mk [] ["IDV"]).findings (default.classifyGraph ownEnd) = [.repeatedType "IDV" 2] ∧
      unlikeDefault.classify { id := "t", type := "IDV", kind := some .terminal } =
        { id := "t", type := "IDV", kind := some .terminal } := by
  obtain ⟨-, hcompile, hsame, hkind⟩ := outcomes_classifyGraph default unlikeDefault ownEnd
  obtain ⟨hfindings, hexport⟩ := hsame rfl
  exact ⟨rfl, hcompile.trans rfl, rfl, hfindings.trans rfl, hexport.trans rfl, rfl,
    hkind _ (by decide)⟩

end Catalog

end ServiceFlow
