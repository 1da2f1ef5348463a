import ServiceFlow.Load
import ServiceFlow.Proofs.Schema.Depth

/-!
# How far down a payload is looked at

A document of YAML can hold itself, so it has no value that shows all of it. Shown further down it
deepens what is shown of it less far down, and the schema of payloads looks six levels down at most:
at the payload, its nodes, a node, its data, the clauses of that and a clause, whose fields are
texts. So it makes no difference to a payload how far down it is shown, as long as these are.
-/

namespace ServiceFlow

open Schema Value

namespace Yaml.Document

variable {d : Document} {k n n' : Nat}

/-- A collection of a document, shown a given number of levels down. -/
def shown (d : Document) (n m : Nat) : Value := (d.levels n).getD m .foldedList

theorem shown_zero (d : Document) (m : Nat) :
    d.shown 0 m = (d.collections[m]?.map Parts.folded).getD .foldedList := by
  rw [shown, levels, Array.getD_eq_getD_getElem?, Array.getElem?_map]

theorem shown_succ (d : Document) (n m : Nat) :
    d.shown (n + 1) m =
      (d.collections[m]?.map (Parts.value (Item.value (d.shown n)))).getD .foldedList := by
  rw [shown, levels, Array.getD_eq_getD_getElem?, Array.getElem?_map]
  rfl

/-- A collection that is not shown is deepened by any way to show it. -/
theorem deepens_folded (k : Nat) (p : Parts) (item : Item → Value) :
    Deepens k p.folded (p.value item) := by
  cases p <;> cases k <;> trivial

/-- A collection is deepened when its items are, one level further down. -/
theorem deepens_value {item item' : Item → Value} (h : ∀ i, Deepens k (item i) (item' i))
    (p : Parts) : Deepens (k + 1) (p.value item) (p.value item') := by
  cases p with
  | list items =>
      refine ⟨_, rfl, ?_⟩
      rw [List.forall₂_map_left_iff, List.forall₂_map_right_iff, List.forall₂_same]
      exact fun i _ => h i
  | map entries =>
      refine ⟨_, rfl, ?_⟩
      rw [List.forall₂_map_left_iff, List.forall₂_map_right_iff, List.forall₂_same]
      exact fun e _ => ⟨rfl, h e.2⟩
  | pair first second => exact ⟨_, _, rfl, h first, h second⟩
  | set members => rfl

/-- A collection is no scalar, so nothing of it has to be shown. -/
theorem deepens_zero_shown (d : Document) (n m : Nat) (w : Value) : Deepens 0 (d.shown n m) w := by
  cases n with
  | zero =>
      rw [shown_zero]
      cases d.collections[m]? with
      | none => trivial
      | some p => cases p <;> trivial
  | succ n =>
      rw [shown_succ]
      cases d.collections[m]? with
      | none => trivial
      | some p => cases p <;> trivial

/-- An item shown `k` levels down or more deepens the item however far it is shown. -/
theorem deepens_item (d : Document) (n : Nat) (hk : k ≤ n') (i : Item) :
    Deepens k (i.value (d.shown n)) (i.value (d.shown n')) := by
  induction k generalizing n n' i with
  | zero =>
      cases i with
      | scalar s => exact deepens_scalar 0 s
      | collection m => exact d.deepens_zero_shown n m _
  | succ k ih =>
      obtain ⟨n', rfl⟩ : ∃ m, n' = m + 1 := ⟨n' - 1, by omega⟩
      cases i with
      | scalar s => exact deepens_scalar (k + 1) s
      | collection m =>
          simp only [Item.value, shown_succ d n' m]
          cases n with
          | zero =>
              rw [shown_zero]
              cases d.collections[m]? with
              | none => trivial
              | some p => exact deepens_folded (k + 1) p _
          | succ n =>
              rw [shown_succ]
              cases d.collections[m]? with
              | none => trivial
              | some p => exact deepens_value (fun i => ih n (by omega) i) p

/-- A document shown `k` levels down or more deepens the document however far it is shown. -/
theorem deepens_unfold (d : Document) (n : Nat) (hk : k ≤ n') :
    Deepens k (d.unfold n) (d.unfold n') := d.deepens_item n hk d.root

end Yaml.Document

section Payload

variable (k : Nat)

/-- A clause is a mapping of texts. -/
theorem Clause.reaches_check : Reaches (k + 1) Clause.check Eq := by
  refine FieldsReach.record (fun fields fields' h => ?_) _
  have hname : comparatorName fields = comparatorName fields' := by
    obtain ⟨hnone, hnone'⟩ | ⟨v, w, hsome, hsome', -⟩ := h.lookup? "function"
    · rw [comparatorName, comparatorName, hnone, hnone']
    · rw [comparatorName, comparatorName, hsome, hsome', Option.isSome_some, Option.isSome_some]
  have htext (name : String) : Checked.Follows Eq (defaulted name "" text fields)
      (defaulted name "" text fields') := (reaches_text k).defaulted name "" rfl fields fields' h
  rw [hname]
  refine .seq (.seq (.seq (.map (htext _) ?_) (htext _)) (htext _)) (htext _)
  rintro _ _ rfl _ _ rfl _ _ rfl _ _ rfl
  rfl

/-- The data of a node without the fields that are not declared. -/
def NodeData.known (data : NodeData) : NodeData := { data with others := [] }

/-- The data of a node is a mapping of texts and of a list of clauses. -/
theorem NodeData.reaches_check : Reaches (k + 3) NodeData.check fun a b => a.known = b.known := by
  refine FieldsReach.record (fun fields fields' h => ?_) _
  have htype := (reaches_text _).required "type" fields fields' h
  have hlabel := (reaches_text _).defaulted "label" "" rfl fields fields' h
  have hmode := (reaches_optionalText _).defaulted "logicType" none rfl fields fields' h
  have hclauses := (Clause.reaches_check k).list.defaulted "conditions" [] .nil fields fields' h
  have hothers := fieldsReach_undeclared _ NodeData.declared fields fields' h
  refine .seq (.seq (.seq (.seq (.map htype ?_) hlabel) hmode) hclauses) hothers
  rintro _ _ rfl _ _ rfl _ _ rfl _ _ hc _ _ -
  rw [List.forall₂_eq_eq_eq] at hc
  rw [hc]
  rfl

/-- A node is a mapping of its id and its data. -/
theorem CanvasNode.reaches_check :
    Reaches (k + 4) CanvasNode.check fun a b => ∀ c, a.toNode c = b.toNode c := by
  refine FieldsReach.record (fun fields fields' h => ?_) _
  have hid := (reaches_text _).required "id" fields fields' h
  have hdata := (NodeData.reaches_check k).required "data" fields fields' h
  refine .seq (.map hid ?_) hdata
  rintro id _ rfl data data' hdata c
  have hnode : toNode c ⟨id, data.known⟩ = toNode c ⟨id, data'.known⟩ := by rw [hdata]
  exact hnode

/-- The data of an edge without the fields that are not declared. -/
def EdgeData.known (data : EdgeData) : EdgeData := { data with others := [] }

/-- The data of an edge is a mapping of texts. -/
theorem EdgeData.reaches_check : Reaches (k + 1) EdgeData.check fun a b => a.known = b.known := by
  refine FieldsReach.record (fun fields fields' h => ?_) _
  have htext (name : String) : Checked.Follows Eq (defaulted name none (nullable text) fields)
      (defaulted name none (nullable text) fields') :=
    (reaches_optionalText k).defaulted name none rfl fields fields' h
  have hothers := fieldsReach_undeclared k EdgeData.declared fields fields' h
  refine .seq (.seq (.seq (.seq (.map (htext _) ?_) (htext _)) (htext _)) (htext _)) hothers
  rintro _ _ rfl _ _ rfl _ _ rfl _ _ rfl _ _ -
  rfl

/-- An edge is a mapping of texts and of its data. -/
theorem CanvasEdge.reaches_check :
    Reaches (k + 2) CanvasEdge.check fun a b => a.toEdge = b.toEdge := by
  have hoptional : Reaches (k + 1) (nullable EdgeData.check) fun a b =>
      a.map EdgeData.known = b.map EdgeData.known := by
    refine (EdgeData.reaches_check k).nullable nofun rfl fun a b hab => ?_
    rw [Option.map_some, Option.map_some, hab]
  refine FieldsReach.record (fun fields fields' h => ?_) _
  have htext (name : String) := (reaches_text _).required name fields fields' h
  have hhandle := (reaches_optionalText _).defaulted "sourceHandle" none rfl fields fields' h
  have hdata := hoptional.defaulted "data" none rfl fields fields' h
  refine .seq (.seq (.seq (.seq (.map (htext _) ?_) (htext _)) (htext _)) hhandle) hdata
  rintro id _ rfl source _ rfl target _ rfl handle _ rfl data data' hdata
  have hknown (o : Option EdgeData) : toEdge ⟨id, source, target, handle, o⟩ =
      toEdge ⟨id, source, target, handle, o.map EdgeData.known⟩ := by
    cases o <;> rfl
  rw [hknown data, hknown data', hdata]

/-- A payload is a mapping of nodes and edges. -/
theorem Canvas.reaches_check :
    Reaches (k + 6) Canvas.check fun a b => ∀ c, a.toGraph c = b.toGraph c := by
  refine FieldsReach.record (fun fields fields' h => ?_) _
  have hnodes := (CanvasNode.reaches_check k).list.required "nodes" fields fields' h
  have hedges := (CanvasEdge.reaches_check (k + 2)).list.required "edges" fields fields' h
  refine .seq (.map hnodes ?_) hedges
  intro nodes nodes' hnodes edges edges' hedges c
  have hn : nodes.map (CanvasNode.toNode c) = nodes'.map (CanvasNode.toNode c) := by
    rw [← List.forall₂_eq_eq_eq, List.forall₂_map_left_iff, List.forall₂_map_right_iff]
    exact hnodes.imp fun a b hab => hab c
  have he : edges.map CanvasEdge.toEdge = edges'.map CanvasEdge.toEdge := by
    rw [← List.forall₂_eq_eq_eq, List.forall₂_map_left_iff, List.forall₂_map_right_iff]
    exact hedges
  rw [Canvas.toGraph, Canvas.toGraph, hn, he]

end Payload

/-- A document that passes as a payload when it is shown to some depth passes when it is shown as
far down as a payload reaches, and as the same graph. -/
theorem Canvas.read_unfold_depth {d : Yaml.Document} {n : Nat} {canvas : Canvas}
    (h : Canvas.read (d.unfold n) = .ok canvas) :
    ∃ canvas', Canvas.read (d.unfold Canvas.depth) = .ok canvas' ∧
      ∀ c, canvas.toGraph c = canvas'.toGraph c := by
  have hdeep : Deepens (1 + 6) (d.unfold n) (d.unfold Canvas.depth) :=
    d.deepens_unfold n (Nat.le_refl _)
  obtain ⟨canvas', hcheck, hgraph⟩ := Canvas.reaches_check 1 _ _ hdeep canvas
    (Checked.toExcept_eq_ok_iff.mp h)
  exact ⟨canvas', Checked.toExcept_eq_ok_iff.mpr hcheck, hgraph⟩

end ServiceFlow
