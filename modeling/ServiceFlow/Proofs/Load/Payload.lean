import ServiceFlow.Proofs.Json.Limit
import ServiceFlow.Proofs.Load.Text

/-!
# Payloads loaded from their JSON text

Loading the JSON text of a payload does what checking the payload does, for any payload of whole
numbers and however its text is indented: blanks in front do not keep the text from being taken for
JSON, the text reads back, and what is left are the two fields that have to be there and the schema.
The one exception is a number beyond the limit on digits. The schema has no such limit, so a payload
that passes may have a text that does not load.
-/

namespace ServiceFlow

open Json (Whole)

/-- The blanks of JSON are blanks. -/
theorem isBlank_of_isSpace {c : Char} (h : Json.isSpace c = true) : Text.isBlank c = true := by
  simp only [Json.isSpace, Bool.or_eq_true, decide_eq_true_eq] at h
  obtain ((rfl | rfl) | rfl) | rfl := h <;> rfl

/-- Blanks in front of a text do not decide whether it is JSON. -/
theorem isJsonText_append {blanks : List Char} (hb : ∀ b ∈ blanks, Json.isSpace b = true)
    (text : String) : isJsonText (String.ofList blanks ++ text) = isJsonText text := by
  have hdrop : Text.dropBlanks (blanks ++ text.toList) = Text.dropBlanks text.toList :=
    List.dropWhile_append_of_pos fun b hm => isBlank_of_isSpace (hb b hm)
  rw [isJsonText, isJsonText, String.toList_append, String.toList_ofList, hdrop]

/-- The entry of a text key is missing when the key is. -/
theorem Value.lookup?_record_eq_none_iff {name : String} {fields : List (String × Value)} :
    lookup? name (Json.textEntries fields) = none ↔ name ∉ fields.map (·.1) := by
  induction fields with
  | nil => simp [Json.textEntries]
  | cons f rest ih =>
      rw [Json.textEntries_cons, lookup?_cons, List.map_cons, List.mem_cons, not_or]
      by_cases hf : f.1 = name
      · simp [hf]
      · rw [if_neg hf, ih]
        exact (and_iff_right (Ne.symm hf)).symm

section Payload

variable {fields : List (String × Value)} {blanks : List Char}

/-- The text of a payload reads as the payload if its numbers are within the limit on digits;
otherwise reading it stops at a number that is not. -/
theorem readGraphText_payload (h : Whole (.record fields)) (indent : Option Nat)
    (hb : ∀ b ∈ blanks, Json.isSpace b = true) :
    ((Value.record fields).isLegible = true →
      readGraphText (String.ofList blanks ++ Json.write indent (.record fields)) =
        .ok (.record fields)) ∧
    ((Value.record fields).isLegible = false → ∃ fault count,
      readGraphText (String.ofList blanks ++ Json.write indent (.record fields)) =
        .error (.json fault) ∧ fault.cause = .tooManyDigits count ∧ digitLimit < count) := by
  have hjson : isJsonText (String.ofList blanks ++ Json.write indent (.record fields)) = true := by
    rw [isJsonText_append hb]
    exact isJsonText_write indent _
  have htext : (String.ofList blanks ++ Json.write indent (.record fields)).toList =
      blanks ++ Json.writeValue indent 0 (.record fields) := by
    rw [String.toList_append, String.toList_ofList, Json.write, String.toList_ofList]
  obtain ⟨hok, hrefused⟩ := h.readAll indent hb
  rw [readGraphText, if_pos hjson, Json.read, htext]
  refine ⟨fun hl => by rw [hok hl]; rfl, fun hl => ?_⟩
  obtain ⟨stop, count, hstop, hcause, hcount⟩ := hrefused hl
  rw [hstop]
  exact ⟨_, count, rfl, hcause, hcount⟩

/-- A payload without nodes or without edges is no graph, whatever else is in it; any other is what
the schema makes of it. -/
theorem canvasOfValue_record (fields : List (String × Value)) :
    canvasOfValue (.record fields) =
      if "nodes" ∉ fields.map (·.1) then .error (.missingField "nodes")
      else if "edges" ∉ fields.map (·.1) then .error (.missingField "edges")
      else Canvas.read (.record fields) := by
  have hrecord : Value.record fields = .map (Json.textEntries fields) := rfl
  simp only [hrecord, canvasOfValue, Option.isNone_iff_eq_none,
    Value.lookup?_record_eq_none_iff]

variable (c : Catalog)

/-- The text of a payload of JSON whose numbers are whole and within the limit on digits loads as
the payload does: the missing of one of the two fields is named, and otherwise the graph or the
issues are those of the payload. With a number beyond the limit the text is refused for it. -/
theorem Catalog.readGraph_payload (h : Whole (.record fields)) (indent : Option Nat)
    (hb : ∀ b ∈ blanks, Json.isSpace b = true) {text : String}
    (ht : text = String.ofList blanks ++ Json.write indent (.record fields)) :
    ((Value.record fields).isLegible = true →
      ("nodes" ∉ fields.map (·.1) → ∃ fault, c.readGraph text = .error fault ∧
        fault.message = "Missing required top-level field: nodes") ∧
      ("nodes" ∈ fields.map (·.1) → "edges" ∉ fields.map (·.1) →
        ∃ fault, c.readGraph text = .error fault ∧
          fault.message = "Missing required top-level field: edges") ∧
      ("nodes" ∈ fields.map (·.1) → "edges" ∈ fields.map (·.1) →
        c.readGraph text = (Canvas.read (.record fields)).map (Canvas.toGraph c))) ∧
    ((Value.record fields).isLegible = false →
      ∃ fault count, c.readGraph text = .error (.json fault) ∧
        fault.cause = .tooManyDigits count ∧ digitLimit < count) := by
  obtain ⟨hread, hrefused⟩ := readGraphText_payload h indent hb
  rw [← ht] at hread hrefused
  refine ⟨fun hl => ?_, fun hl => ?_⟩
  · have hgraph : c.readGraph text =
        (canvasOfValue (.record fields)).map (Canvas.toGraph c) := by
      rw [Catalog.readGraph, hread hl]
      simp only [bind, Except.bind]
      cases canvasOfValue (.record fields) <;> rfl
    rw [hgraph, canvasOfValue_record]
    refine ⟨fun hn => ?_, fun hn he => ?_, fun hn he => ?_⟩
    · exact ⟨.missingField "nodes", by simp [hn, Except.map], by decide⟩
    · exact ⟨.missingField "edges", by simp [hn, he, Except.map], by decide⟩
    · rw [if_neg (not_not_intro hn), if_neg (not_not_intro he)]
  · obtain ⟨fault, count, hfault, hcause, hcount⟩ := hrefused hl
    refine ⟨fault, count, ?_, hcause, hcount⟩
    rw [Catalog.readGraph, hfault]
    rfl

/-- A payload with one node, whose label has to be escaped, and a field that plays no part. -/
def smallPayload : List (String × Value) :=
  [("nodes", .list [.record [("id", .text "e"),
      ("data", .record [("type", .text "StartNode"), ("label", .text "\t\u2192")])]]),
    ("edges", .list []), ("zoom", .list [.int (-12), .bool true, .null])]

theorem smallPayload_whole : Whole (.record smallPayload) := by
  have hdata : Whole (.record [("type", .text "StartNode"), ("label", .text "\t\u2192")]) := by
    refine .record (by decide) ?_
    simp only [List.forall_mem_cons]
    exact ⟨.text _, .text _, List.forall_mem_nil _⟩
  have hnode : Whole (.record [("id", .text "e"),
      ("data", .record [("type", .text "StartNode"), ("label", .text "\t\u2192")])]) := by
    refine .record (by decide) ?_
    simp only [List.forall_mem_cons]
    exact ⟨.text _, hdata, List.forall_mem_nil _⟩
  refine .record (by decide) ?_
  simp only [smallPayload, List.forall_mem_cons]
  refine ⟨.list ?_, .list (List.forall_mem_nil _), .list ?_, List.forall_mem_nil _⟩
  · exact List.forall_mem_cons.mpr ⟨hnode, List.forall_mem_nil _⟩
  · simp only [List.forall_mem_cons]
    exact ⟨.int _, .bool _, .null, List.forall_mem_nil _⟩

theorem smallPayload_legible : (Value.record smallPayload).isLegible = true := by decide +kernel

/-- A payload without edges. -/
def bareNodes : List (String × Value) := [("nodes", .list [])]

theorem bareNodes_whole : Whole (.record bareNodes) := by
  refine .record (by simp [bareNodes]) ?_
  intro f hf
  obtain rfl := List.mem_singleton.mp hf
  exact .list (List.forall_mem_nil _)

/-- A payload without nodes and edges, with a number in a field that plays no part. -/
def zoomed (n : Int) : List (String × Value) :=
  [("nodes", .list []), ("edges", .list []), ("zoom", .int n)]

theorem zoomed_whole (n : Int) : Whole (.record (zoomed n)) := by
  have hkeys : ((zoomed n).map (·.1)).Nodup := (by decide : ["nodes", "edges", "zoom"].Nodup)
  refine .record hkeys ?_
  simp only [zoomed, List.forall_mem_cons]
  exact ⟨.list (List.forall_mem_nil _), .list (List.forall_mem_nil _), .int n,
    List.forall_mem_nil _⟩

/-- Such a payload passes, whatever the number. -/
theorem read_zoomed (n : Int) : Canvas.read (.record (zoomed n)) = .ok ⟨[], []⟩ := rfl

/-- The number decides whether such a payload can be displayed. -/
theorem zoomed_illegible {n : Int} (hn : isLegible n = false) :
    (Value.record (zoomed n)).isLegible = false := by
  rw [Bool.eq_false_iff, Ne, Value.isLegible_record_iff]
  intro hall
  have hlast : (Value.int n).isLegible = true := hall ("zoom", .int n) (.tail _ (.tail _ (.head _)))
  rw [Value.isLegible, Scalar.isLegible, hn] at hlast
  cases hlast

/-- The least number with more digits than are written. -/
theorem illegibleFrom_illegible : isLegible illegibleFrom = false := by
  rw [isLegible, Int.natAbs_natCast, decide_eq_false_iff_not]
  exact Nat.lt_irrefl _

theorem Catalog.readGraph_payload_small :
    (Whole (.record smallPayload) ∧ (Value.record smallPayload).isLegible = true ∧
      Catalog.default.readGraph (" \n" ++ Json.write (some 2) (.record smallPayload)) =
        .ok { nodes := [{ id := "e", type := "StartNode", kind := some .entry,
                          label := "\t\u2192" }] }) ∧
    (Whole (.record bareNodes) ∧ (Value.record bareNodes).isLegible = true ∧
      ∃ fault, Catalog.default.readGraph (" \n" ++ Json.write none (.record bareNodes)) =
        .error fault ∧ fault.message = "Missing required top-level field: edges") ∧
    (Whole (.record (zoomed illegibleFrom)) ∧
      (Value.record (zoomed illegibleFrom)).isLegible = false ∧
      ∃ fault count,
        Catalog.default.readGraph (" \n" ++ Json.write none (.record (zoomed illegibleFrom))) =
          .error (.json fault) ∧ fault.cause = .tooManyDigits count ∧ digitLimit < count) := by
  have hb : ∀ b ∈ [' ', '\n'], Json.isSpace b = true := by simp [Json.isSpace]
  have hcanvas : (Canvas.read (.record smallPayload)).map (Canvas.toGraph Catalog.default) =
      .ok { nodes := [{ id := "e", type := "StartNode", kind := some .entry,
                        label := "\t\u2192" }] } := by
    rfl
  have hsmall := readGraph_payload Catalog.default smallPayload_whole (some 2) hb rfl
  have hbare := readGraph_payload Catalog.default bareNodes_whole none hb rfl
  have hlong := readGraph_payload Catalog.default (zoomed_whole illegibleFrom) none hb rfl
  have hillegible := zoomed_illegible illegibleFrom_illegible
  refine ⟨⟨smallPayload_whole, smallPayload_legible, ?_⟩, ⟨bareNodes_whole, rfl, ?_⟩,
    zoomed_whole _, hillegible, hlong.2 hillegible⟩
  · exact ((hsmall.1 smallPayload_legible).2.2 (by simp [smallPayload])
      (by simp [smallPayload])).trans hcanvas
  · exact (hbare.1 rfl).2.1 (by simp [bareNodes]) (by simp [bareNodes])

/-- A payload that passes the schema does not load from its text when a number in it is beyond the
limit, even where the schema does not look at the number. -/
theorem Catalog.zoomed_not_loaded :
    Whole (.record (zoomed illegibleFrom)) ∧
      Canvas.read (.record (zoomed illegibleFrom)) = .ok ⟨[], []⟩ ∧
      Catalog.default.readGraph (Json.write none (.record (zoomed illegibleFrom))) ≠
        (Canvas.read (.record (zoomed illegibleFrom))).map (Canvas.toGraph Catalog.default) := by
  obtain ⟨fault, -, hread, -⟩ := (readGraphText_payload (zoomed_whole illegibleFrom) none
    (List.forall_mem_nil _)).2 (zoomed_illegible illegibleFrom_illegible)
  have htext : String.ofList [] ++ Json.write none (.record (zoomed illegibleFrom)) =
      Json.write none (.record (zoomed illegibleFrom)) := String.empty_append
  rw [htext] at hread
  refine ⟨zoomed_whole _, read_zoomed _, ?_⟩
  rw [Catalog.readGraph, hread, read_zoomed]
  intro heq
  cases heq

end Payload

end ServiceFlow
