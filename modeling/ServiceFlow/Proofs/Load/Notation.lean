import ServiceFlow.Proofs.Canvas.Depth
import ServiceFlow.Proofs.Load.Items

/-!
# Graph texts in YAML

A payload can be written in YAML in block style or in flow style, which writes a mapping in braces.
A graph text is loaded as the graph that it stands for as YAML, unless its first character after
blanks is a brace. Such a text is taken for JSON alone, so a mapping in braces that is YAML and no
JSON is refused, whatever it stands for.
-/

namespace ServiceFlow

open Schema

/-- The two fields that a payload must have are asked for by the schema as well. -/
theorem canvasOfValue_eq_ok_iff {v : Value} {canvas : Canvas} :
    canvasOfValue v = .ok canvas ↔ Canvas.read v = .ok canvas := by
  constructor
  · intro h
    unfold canvasOfValue at h
    split at h
    · split at h
      · cases h
      · split at h
        · cases h
        · exact h
    · cases h
  · intro h
    obtain ⟨fields, rfl, hfields⟩ := record_eq_ok_iff.mp (Checked.toExcept_eq_ok_iff.mp h)
    simp only [Checked.map_def, Checked.seq_def, Checked.seq_eq_ok_iff, Checked.map_eq_ok_iff,
      required_eq_ok_iff] at hfields
    obtain ⟨_, _, ⟨_, ⟨nodes, hnodes, -⟩, rfl⟩, ⟨edges, hedges, -⟩, rfl⟩ := hfields
    simp only [canvasOfValue, hnodes, hedges, Option.isNone_some, Bool.false_eq_true, ite_false, h]

namespace Catalog

variable {c : Catalog} {text : String}

/-- A text is loaded when its value passes as a payload. -/
theorem readGraph_eq_ok_iff {g : Graph} : c.readGraph text = .ok g ↔
    ∃ v canvas, readGraphText text = .ok v ∧ Canvas.read v = .ok canvas ∧
      canvas.toGraph c = g := by
  simp only [readGraph, bind_eq_ok_iff, canvasOfValue_eq_ok_iff, pure, Except.pure,
    Except.ok.injEq]
  constructor
  · rintro ⟨v, hv, canvas, hcanvas, hg⟩
    exact ⟨v, canvas, hv, hcanvas, hg⟩
  · rintro ⟨v, canvas, hv, hcanvas, hg⟩
    exact ⟨v, hv, canvas, hcanvas, hg⟩

/-- A text of YAML whose document passes as a payload is loaded as the graph of that payload if its
first character after blanks is no brace, whichever notation it is in from there on. If it is a
brace, then the text is loaded when JSON too reads it as a payload, and not otherwise. -/
theorem readGraph_of_yaml (c : Catalog) {d : Yaml.Document} {n : Nat} {canvas : Canvas}
    (hd : Yaml.read text = .ok d) (hc : Canvas.read (d.unfold n) = .ok canvas) :
    (isJsonText text = false → c.readGraph text = .ok (canvas.toGraph c)) ∧
      (isJsonText text = true → ∀ g, c.readGraph text = .ok g ↔
        ∃ v canvas', Json.read text = .ok v ∧ Canvas.read v = .ok canvas' ∧
          canvas'.toGraph c = g) := by
  refine ⟨fun hjson => ?_, fun hjson g => ?_⟩
  · obtain ⟨canvas', hcanvas', hgraph⟩ := Canvas.read_unfold_depth hc
    have hvalue : readGraphText text = .ok (d.unfold Canvas.depth) := by
      rw [readGraphText, hjson, hd]
      rfl
    exact readGraph_eq_ok_iff.mpr ⟨_, canvas', hvalue, hcanvas', (hgraph c).symm⟩
  · have hvalue : readGraphText text = (Json.read text).mapError .json := by
      rw [readGraphText, if_pos hjson]
    simp only [readGraph_eq_ok_iff, hvalue, mapError_eq_ok_iff]

/-- The graph that a value stands for, if it was read and passes as a payload. -/
def payloadGraph? {ε : Type} (c : Catalog) (read : Except ε Value) : Option Graph :=
  match read with
  | .ok v => match Canvas.read v with
    | .ok canvas => some (canvas.toGraph c)
    | .error _ => none
  | .error _ => none

theorem payloadGraph?_eq_some_iff {ε : Type} {read : Except ε Value} {g : Graph} :
    c.payloadGraph? read = some g ↔
      ∃ v canvas, read = .ok v ∧ Canvas.read v = .ok canvas ∧ canvas.toGraph c = g := by
  cases read with
  | error fault => simp [payloadGraph?]
  | ok v => cases hc : Canvas.read v <;> simp [payloadGraph?, hc]

/-- A graph of one entry node. -/
def oneEntry : Graph where
  nodes := [{ id := "e", type := "StartNode", kind := some .entry }]

/-- The payload of that graph in block style. -/
def blockText : String := "nodes:\n- id: e\n  data: \x7btype: StartNode\x7d\nedges: []\n"

/-- The same payload in flow style. -/
def flowText : String := "\x7bnodes: [\x7bid: e, data: \x7btype: StartNode\x7d\x7d], edges: []\x7d"

/-- The same payload in flow style, behind the mark that starts a document. -/
def markedText : String := "--- " ++ flowText

/-- The same payload in flow style with quotes, which is JSON as well. -/
def quotedText : String :=
  "\x7b\"nodes\": [\x7b\"id\": \"e\", \"data\": \x7b\"type\": \"StartNode\"\x7d\x7d], "
    ++ "\"edges\": []\x7d"

/-- The value of a text of YAML as far down as reading a payload can look. -/
def yamlValue (text : String) : Except Yaml.Fault Value :=
  (Yaml.read text).map (·.unfold Canvas.depth)

/-- A text that stands for a graph as YAML is read, and passes as a payload with this graph. -/
theorem exists_of_yamlValue {text : String} {g : Graph}
    (h : c.payloadGraph? (yamlValue text) = some g) :
    ∃ d canvas, Yaml.read text = .ok d ∧ Canvas.read (d.unfold Canvas.depth) = .ok canvas ∧
      canvas.toGraph c = g := by
  obtain ⟨v, canvas, hv, hcanvas, hg⟩ := payloadGraph?_eq_some_iff.mp h
  unfold yamlValue at hv
  cases hd : Yaml.read text with
  | error fault =>
      rw [hd] at hv
      cases hv
  | ok d =>
      rw [hd] at hv
      obtain rfl := Except.ok.inj hv
      exact ⟨d, canvas, rfl, hcanvas, hg⟩

theorem readGraph_of_yaml_oneEntry :
    (Catalog.default.payloadGraph? (yamlValue blockText) = some oneEntry ∧
      isJsonText blockText = false ∧ Catalog.default.readGraph blockText = .ok oneEntry) ∧
    (Catalog.default.payloadGraph? (yamlValue markedText) = some oneEntry ∧
      isJsonText markedText = false ∧ Catalog.default.readGraph markedText = .ok oneEntry) ∧
    Catalog.default.payloadGraph? (yamlValue quotedText) = some oneEntry ∧
      isJsonText quotedText = true ∧ Catalog.default.readGraph quotedText = .ok oneEntry := by
  have hblock : Catalog.default.payloadGraph? (yamlValue blockText) = some oneEntry := by
    decide +kernel
  have hmarked : Catalog.default.payloadGraph? (yamlValue markedText) = some oneEntry := by
    decide +kernel
  have hquoted : Catalog.default.payloadGraph? (yamlValue quotedText) = some oneEntry := by
    decide +kernel
  have hjson : Catalog.default.payloadGraph? (Json.read quotedText) = some oneEntry := by
    decide +kernel
  obtain ⟨d, canvas, hd, hc, hg⟩ := exists_of_yamlValue hblock
  obtain ⟨d', canvas', hd', hc', hg'⟩ := exists_of_yamlValue hmarked
  obtain ⟨d'', canvas'', hd'', hc'', -⟩ := exists_of_yamlValue hquoted
  refine ⟨⟨hblock, by decide, ?_⟩, ⟨hmarked, by decide, ?_⟩, hquoted, by decide, ?_⟩
  · rw [(readGraph_of_yaml Catalog.default hd hc).1 (by decide), hg]
  · rw [(readGraph_of_yaml Catalog.default hd' hc').1 (by decide), hg']
  · exact ((readGraph_of_yaml Catalog.default hd'' hc'').2 (by decide) oneEntry).mpr
      (payloadGraph?_eq_some_iff.mp hjson)

/-- In flow style without quotes the payload is refused for its first name, although it is read as
YAML and passes, and although it is loaded in block style. -/
theorem flowText_not_loaded :
    Catalog.default.payloadGraph? (yamlValue flowText) = some oneEntry ∧
      (Catalog.default.readGraph blockText).toOption = some oneEntry ∧
      ∃ fault, Catalog.default.readGraph flowText = .error fault ∧ fault.message =
        "Expecting property name enclosed in double quotes: line 1 column 2 (char 1)" := by
  refine ⟨by decide +kernel, by decide +kernel, .json ⟨.noPropertyName, 1, 2, 1⟩, rfl, ?_⟩
  decide

end Catalog

end ServiceFlow
