import ServiceFlow.Proofs.Schema.Passing

/-!
# Values of JSON

JSON has six of the forms that a value can have: null, truth values, numbers, texts, lists, and
mappings whose keys are texts. On such a value the schemas have no choice of forms left: only a text
is read as a text and only a list as a list. Whether a record of JSON passes its schema is therefore
a question of what stands in its fields.
-/

namespace ServiceFlow

/-- Whether a scalar has a form in JSON. -/
def Scalar.isJson : Scalar → Bool
  | null | bool _ | int _ | float _ | text _ => true
  | bytes _ | date _ | dateTime _ => false

/-- Whether a scalar is a text. -/
def Scalar.isText : Scalar → Bool
  | text _ => true
  | _ => false

namespace Value

mutual

/-- Whether a value is one of JSON. -/
def isJson : Value → Bool
  | .scalar s => s.isJson
  | .list items => itemsAreJson items
  | .map entries => entriesAreJson entries
  | .pair _ _ | .set _ | .foldedList | .foldedMap | .foldedPair => false

/-- Whether all values of a list are values of JSON. -/
def itemsAreJson : List Value → Bool
  | [] => true
  | v :: rest => v.isJson && itemsAreJson rest

/-- Whether all entries of a mapping are entries of JSON. -/
def entriesAreJson : List (Scalar × Value) → Bool
  | [] => true
  | (k, v) :: rest => k.isText && v.isJson && entriesAreJson rest

end

/-- Whether a value is a text. -/
def isText : Value → Bool
  | .scalar s => s.isText
  | _ => false

/-- Whether a value is null. -/
def isNull : Value → Bool
  | .null => true
  | _ => false

/-- Whether a value is null or a text. -/
def isOptionalText (v : Value) : Bool := v.isNull || v.isText

/-- Whether a value is a list. -/
def isList : Value → Bool
  | .list _ => true
  | _ => false

/-- The items of a list; any other value has none. -/
def items : Value → List Value
  | .list items => items
  | _ => []

theorem isText_iff {v : Value} : v.isText = true ↔ ∃ s, v = .text s := by
  cases v with
  | scalar s => cases s <;> simp [isText, Scalar.isText]
  | _ => simp [isText]

theorem isNull_iff {v : Value} : v.isNull = true ↔ v = .null := by
  unfold isNull
  split
  · simp
  · next hv => exact iff_of_false (by simp) hv

/-- The items of a list of JSON are values of JSON. -/
theorem isJson_of_mem {items : List Value} (h : (list items).isJson = true) :
    ∀ v ∈ items, v.isJson = true := by
  rw [isJson] at h
  induction items with
  | nil => simp
  | cons v rest ih =>
      rw [itemsAreJson, Bool.and_eq_true] at h
      exact List.forall_mem_cons.mpr ⟨h.1, ih h.2⟩

theorem isJson_of_mem_items {v w : Value} (h : v.isJson = true) (hw : w ∈ v.items) :
    w.isJson = true := by
  cases v with
  | list items => exact isJson_of_mem h w hw
  | _ => cases hw

/-- What stands in a field of a value of JSON is a value of JSON. -/
theorem isJson_of_lookup? {fields : List (Scalar × Value)} (h : (map fields).isJson = true)
    {name : String} {v : Value} (hv : lookup? name fields = some v) : v.isJson = true := by
  rw [isJson] at h
  induction fields with
  | nil => simp at hv
  | cons f rest ih =>
      obtain ⟨k, w⟩ := f
      rw [entriesAreJson, Bool.and_eq_true, Bool.and_eq_true] at h
      simp only [lookup?, Table.find?] at hv
      split at hv
      · exact Option.some.inj hv ▸ h.1.2
      · exact ih h.2 hv

theorem isJson_get {v : Value} (h : v.isJson = true) (name : String) :
    (v.get name).isJson = true := by
  cases v with
  | map fields =>
      rw [get]
      cases hl : lookup? name fields with
      | none => rfl
      | some w => exact isJson_of_lookup? h hl
  | _ => rfl

end Value

namespace Schema

variable {α : Type} {v : Value}

/-- Of the values of JSON only texts are read as texts. -/
theorem text_eq_ok_iff (h : v.isJson = true) {s : String} : text v = .ok s ↔ v = .text s := by
  cases v with
  | scalar t => cases t <;> simp_all [text, Value.isJson, Scalar.isJson, Checked.fail]
  | _ => simp [text, Checked.fail]

theorem isOk_text (h : v.isJson = true) : (text v).isOk = v.isText := by
  rw [Bool.eq_iff_iff, Checked.isOk_iff, Value.isText_iff]
  exact exists_congr fun s => text_eq_ok_iff h

/-- Of the values of JSON only lists are read as lists, when all their items pass. -/
theorem isOk_list (h : v.isJson = true) (check : Value → Checked α) :
    (list check v).isOk = (v.isList && v.items.all fun w => (check w).isOk) := by
  cases v with
  | list items => exact Checked.isOk_allFrom check 0 items
  | pair _ _ | set _ => cases h
  | _ => rfl

/-- What is read of a list of JSON is read from its items. -/
theorem exists_mem_items {check : Value → Checked α} (h : v.isJson = true) {as : List α}
    (hl : list check v = .ok as) {a : α} (ha : a ∈ as) : ∃ w ∈ v.items, check w = .ok a := by
  obtain ⟨items, hparts, hitems⟩ := list_eq_ok_iff.mp hl
  have hv : v = .list items := by
    cases v with
    | list items => exact congrArg Value.list (Option.some.inj hparts)
    | pair _ _ | set _ => cases h
    | _ => cases hparts
  have hmem : Checked.ok a ∈ items.map check := hitems ▸ List.mem_map_of_mem ha
  rw [hv]
  exact List.mem_map.mp hmem

/-- A value that may be null passes when it is null or passes the check for others. -/
theorem isOk_nullable (check : Value → Checked α) :
    (nullable check v).isOk = (v.isNull || (check v).isOk) := by
  unfold nullable
  split
  · rfl
  · next hv =>
      rw [Checked.isOk_map, Bool.eq_false_iff.mpr (mt Value.isNull_iff.mp hv), Bool.false_or]

variable {fields : Fields}

/-- A field that must be a text passes when there is one in it. -/
theorem isOk_required_text (h : (Value.map fields).isJson = true) (name : String) :
    (required name text fields).isOk = ((Value.map fields).get name).isText := by
  have hfield := Value.isJson_get h name
  unfold required
  unfold Value.get at hfield ⊢
  split
  · next v hv =>
      simp only [hv, Option.getD_some] at hfield ⊢
      rw [Checked.isOk_within, isOk_text hfield]
  · next hv =>
      simp only [hv]
      rfl

/-- A field that may be left out and may be null passes when it is null or passes the check for
others. -/
theorem isOk_defaulted_none (check : Value → Checked α) (name : String) :
    (defaulted name none (nullable check) fields).isOk =
      (((Value.map fields).get name).isNull || (check ((Value.map fields).get name)).isOk) := by
  unfold defaulted Value.get
  split
  · next v hv => simp only [Checked.isOk_within, isOk_nullable, hv, Option.getD_some]
  · next hv =>
      simp only [hv]
      rfl

theorem isOk_optional_text (h : (Value.map fields).isJson = true) (name : String) :
    (defaulted name none (nullable text) fields).isOk =
      ((Value.map fields).get name).isOptionalText := by
  rw [isOk_defaulted_none, isOk_text (Value.isJson_get h name), Value.isOptionalText]

end Schema

end ServiceFlow
