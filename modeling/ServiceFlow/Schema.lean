import ServiceFlow.Value.Display
import ServiceFlow.Text.Utf8

/-!
# Schemas

A schema reads a value into a type of its own and lists every fault instead of stopping at the
first. A check is therefore either a result or a list of issues, two checks joined have the issues
of both, and each issue names its place by the field names and list positions that lead to it.
-/

namespace ServiceFlow.Schema

/-- One step of a place within a value. -/
inductive Step where
  | field (name : String)
  | index (i : Int)
  deriving DecidableEq, Repr

/-- What is wrong at a place. -/
inductive Cause where
  | missing
  | notText
  | notUtf8
  | notList
  | notRecord (name : String)
  | notFields
  | keyNotText
  | noTag (discriminator : String)
  | unknownTag (tag : String) (discriminator : String) (expected : List String)
  deriving DecidableEq, Repr

/-- A fault and its place. -/
structure Issue where
  place : List Step
  cause : Cause
  deriving DecidableEq, Repr

/-- The result of a check, or what is wrong. -/
inductive Checked (α : Type) where
  | ok (a : α)
  | faulty (issues : List Issue)

namespace Checked

variable {α β : Type}

/-- The check that changes the result of another. -/
def map (f : α → β) : Checked α → Checked β
  | ok a => ok (f a)
  | faulty issues => faulty issues

/-- Both checks, with the issues of the first before those of the second. -/
def seq (f : Checked (α → β)) (x : Checked α) : Checked β :=
  match f, x with
  | ok f, ok a => ok (f a)
  | ok _, faulty issues => faulty issues
  | faulty issues, ok _ => faulty issues
  | faulty issues, faulty more => faulty (issues ++ more)

instance : Applicative Checked where
  pure := ok
  map f x := map f x
  seq f x := seq f (x ())

/-- The issues of a check. -/
def issues : Checked α → List Issue
  | ok _ => []
  | faulty issues => issues

/-- The check with a step put in front of all its places. -/
def within (step : Step) : Checked α → Checked α
  | ok a => ok a
  | faulty issues => faulty (issues.map fun i => { i with place := step :: i.place })

/-- A check that fails at this place. -/
def fail (cause : Cause) : Checked α := faulty [⟨[], cause⟩]

/-- All checks, each within its position in the list from `start` on. -/
def allFrom (check : β → Checked α) (start : Nat) : List β → Checked (List α)
  | [] => ok []
  | b :: rest =>
    seq (map List.cons (within (.index start) (check b))) (allFrom check (start + 1) rest)

/-- Both checks have the issues of either. -/
@[simp] theorem issues_seq (f : Checked (α → β)) (x : Checked α) :
    (seq f x).issues = f.issues ++ x.issues := by
  cases f <;> cases x <;> simp [seq, issues]

@[simp] theorem issues_map (f : α → β) (x : Checked α) : (map f x).issues = x.issues := by
  cases x <;> rfl

/-- Both checks succeed exactly when each does. -/
theorem seq_eq_ok_iff {f : Checked (α → β)} {x : Checked α} {b : β} :
    seq f x = ok b ↔ ∃ g a, f = ok g ∧ x = ok a ∧ g a = b := by
  cases f <;> cases x <;> simp [seq]

theorem map_eq_ok_iff {f : α → β} {x : Checked α} {b : β} :
    map f x = ok b ↔ ∃ a, x = ok a ∧ f a = b := by
  cases x <;> simp [map]

/-- Naming the place changes no result. -/
theorem within_eq_ok_iff {step : Step} {x : Checked α} {a : α} :
    within step x = ok a ↔ x = ok a := by
  cases x <;> simp [within]

/-- A list passes exactly when each of its items does. -/
theorem allFrom_eq_ok_iff {check : β → Checked α} {start : Nat} {bs : List β} {as : List α} :
    allFrom check start bs = ok as ↔ bs.map check = as.map ok := by
  induction bs generalizing start as with
  | nil => cases as <;> simp [allFrom]
  | cons b rest ih =>
    cases as with
    | nil => simp [allFrom, seq_eq_ok_iff, map_eq_ok_iff]
    | cons a as =>
      simp only [allFrom, seq_eq_ok_iff, map_eq_ok_iff, within_eq_ok_iff, ih, List.map_cons,
        List.cons.injEq]
      constructor
      · rintro ⟨_, _, ⟨a', ha, rfl⟩, has, heq⟩
        obtain ⟨rfl, rfl⟩ := List.cons.inj heq
        exact ⟨ha, has⟩
      · rintro ⟨ha, has⟩
        exact ⟨_, as, ⟨a, ha, rfl⟩, has, rfl⟩

/-- A result or an error made of the issues. -/
def toExcept {ε : Type} (error : List Issue → ε) : Checked α → Except ε α
  | ok a => .ok a
  | faulty issues => .error (error issues)

/-- Only a check that passes has a result. -/
theorem toExcept_eq_ok_iff {ε : Type} {error : List Issue → ε} {x : Checked α} {a : α} :
    x.toExcept error = .ok a ↔ x = ok a := by
  cases x <;> simp [toExcept]

end Checked

/-- What is wrong, as a short name. -/
def Cause.name : Cause → String
  | .missing => "missing"
  | .notText => "string_type"
  | .notUtf8 => "string_unicode"
  | .notList => "list_type"
  | .notRecord _ => "model_type"
  | .notFields => "model_attributes_type"
  | .keyNotText => "invalid_key"
  | .noTag _ => "union_tag_not_found"
  | .unknownTag .. => "union_tag_invalid"

/-- What is wrong, in words. -/
def Cause.message : Cause → String
  | .missing => "Field required"
  | .notText => "Input should be a valid string"
  | .notUtf8 => "Input should be a valid string, unable to parse raw data as a unicode string"
  | .notList => "Input should be a valid list"
  | .notRecord name => s!"Input should be a valid dictionary or instance of {name}"
  | .notFields => "Input should be a valid dictionary or object to extract fields from"
  | .keyNotText => "Keys should be strings"
  | .noTag discriminator => s!"Unable to extract tag using discriminator '{discriminator}'"
  | .unknownTag tag discriminator expected =>
    s!"Input tag '{tag}' found using '{discriminator}' does not match any of the expected tags: "
      ++ String.intercalate ", " (expected.map fun t => s!"'{t}'")

/-- The entries of a record. -/
abbrev Fields := List (Scalar × Value)

/-- Reads a text. Bytes count as the text that they spell. -/
def text (v : Value) : Checked String :=
  match v with
  | .scalar (.text s) => .ok s
  | .scalar (.bytes bs) => match Text.Utf8.decode bs with
    | .ok s => .ok s
    | .error _ => .fail .notUtf8
  | _ => .fail .notText

/-- Reads a list by reading its items. Sets and pairs count as the list of their parts. -/
def list {α : Type} (item : Value → Checked α) (v : Value) : Checked (List α) :=
  match v with
  | .list items => .allFrom item 0 items
  | .pair a b => .allFrom item 0 [a, b]
  | .set members => .allFrom item 0 (members.map .scalar)
  | _ => .fail .notList

/-- Reads null as nothing. -/
def nullable {α : Type} (check : Value → Checked α) (v : Value) : Checked (Option α) :=
  match v with
  | .scalar .null => .ok none
  | v => .map some (check v)

/-- Reads a record of a given name by its fields. -/
def record {α : Type} (name : String) (check : Fields → Checked α) (v : Value) : Checked α :=
  match v with
  | .map entries => check entries
  | _ => .fail (.notRecord name)

/-- Reads a field that must be there. -/
def required {α : Type} (name : String) (check : Value → Checked α) (fields : Fields) : Checked α :=
  match Value.lookup? name fields with
  | some v => .within (.field name) (check v)
  | none => .within (.field name) (.fail .missing)

/-- Reads a field that has a value when it is not there. -/
def defaulted {α : Type} (name : String) (absent : α) (check : Value → Checked α)
    (fields : Fields) : Checked α :=
  match Value.lookup? name fields with
  | some v => .within (.field name) (check v)
  | none => .ok absent

/-- A text is read as it is. -/
theorem text_text (s : String) : text (.text s) = .ok s := rfl

section Passing

variable {α β : Type} {name : String} {check : Value → Checked α} {fields : Fields} {v : Value}
  {a : α}

/-- A field that is there and passes is read. -/
theorem required_eq_ok (hl : Value.lookup? name fields = some v) (hc : check v = .ok a) :
    required name check fields = .ok a := by
  simp only [required, hl, hc, Checked.within]

/-- A field with a default that is there and passes is read. -/
theorem defaulted_eq_ok (hl : Value.lookup? name fields = some v) (hc : check v = .ok a)
    (absent : α) : defaulted name absent check fields = .ok a := by
  simp only [defaulted, hl, hc, Checked.within]

/-- A field with a default that is not there has its default. -/
theorem defaulted_of_absent (hl : Value.lookup? name fields = none) (absent : α) :
    defaulted name absent check fields = .ok absent := by
  simp only [defaulted, hl]

/-- A field that may be left out and may not be null where it is there is read as it was set. -/
theorem defaulted_nullable {f : α → Value} {o : Option α} (hl : Value.lookup? name fields = o.map f)
    (hc : ∀ a, nullable check (f a) = .ok (some a)) :
    defaulted name none (nullable check) fields = .ok o := by
  cases o with
  | none => exact defaulted_of_absent hl none
  | some a => exact defaulted_eq_ok hl (hc a) none

/-- A list is read when each of its items passes. -/
theorem list_map {f : β → Value} {g : β → α} (h : ∀ b, check (f b) = .ok (g b)) (bs : List β) :
    list check (.list (bs.map f)) = .ok (bs.map g) := by
  rw [list, Checked.allFrom_eq_ok_iff, List.map_map, List.map_map]
  exact List.map_congr_left fun b _ => h b

/-- A list of written items reads back when each item does. -/
theorem list_map_self {f : α → Value} (h : ∀ a, check (f a) = .ok a) (as : List α) :
    list check (.list (as.map f)) = .ok as := by
  rw [list_map h, List.map_id']

end Passing

/-- The place of a key that is no text. Truth values count as numbers there. -/
def keyStep (k : Scalar) : Step :=
  match k with
  | .int n =>
    if -0x8000000000000000 ≤ n ∧ n ≤ 0x7fffffffffffffff then .index n
    else .field (if k.isLegible then k.quoted else "<unprintable int object>")
  | .bool b => .index (if b then 1 else 0)
  | k => .field k.quoted

/-- Reads the entries of a record that have no field of their own. -/
def undeclared (declared : List String) : Fields → Checked (List (String × Value))
  | [] => .ok []
  | (k, v) :: rest =>
    let after := undeclared declared rest
    match k with
    | .text name => if declared.contains name then after else .map ((name, v) :: ·) after
    | _ => .seq (.map (fun _ more => more) (.within (keyStep k) (.fail .keyNotText) :
        Checked Unit)) after

/-- A record whose fields are all declared has no others. -/
theorem undeclared_eq_nil {declared : List String} {fields : List (String × Value)}
    (h : ∀ f ∈ fields, f.1 ∈ declared) :
    undeclared declared (fields.map fun f => (.text f.1, f.2)) = .ok [] := by
  induction fields with
  | nil => rfl
  | cons f rest ih =>
      have hf : declared.contains f.1 = true := by simpa using h f List.mem_cons_self
      simp only [List.map_cons, undeclared, hf, ite_true]
      exact ih fun x hx => h x (List.mem_cons_of_mem f hx)

end ServiceFlow.Schema
