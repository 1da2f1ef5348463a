import Mathlib.Data.List.Infix
import ServiceFlow.FileTree
import ServiceFlow.Proofs.Text.Utf8

/-!
# Writing a file

Writing puts content at the place to which a path leads and at no other place. That no directory
comes into being on the way takes an argument: a file makes directories of all names on the way to
it, and writing does not make any because a path only leads on from a directory, so they were
directories before. For the same reason the path leads to the same place afterwards, where the
content is read back. A text that is written as bytes reads back as itself when it has no carriage
returns, which reading takes for line ends.
-/

namespace ServiceFlow

section Text

/-- A text without carriage returns keeps its line ends. -/
theorem Text.unifyLineBreaks_eq_self {cs : List Char} (h : '\r' ∉ cs) :
    unifyLineBreaks cs = cs := by
  induction cs with
  | nil => rfl
  | cons c cs ih =>
      have hc : c ≠ '\r' := fun hc => h (hc ▸ List.mem_cons_self)
      rw [unifyLineBreaks.eq_4 c cs (fun _ hbreak _ => hc hbreak) hc,
        ih fun hmem => h (List.mem_cons_of_mem c hmem)]

/-- A text without carriage returns reads back from the bytes of a text file. -/
theorem textOfFile_encode {s : String} (h : '\r' ∉ s.toList) :
    textOfFile (Text.Utf8.encode s) = .ok s := by
  rw [textOfFile, Text.Utf8.decode_encode, Except.map, Text.unifyLineBreaks_eq_self h,
    String.ofList_toList]

end Text

namespace FileTree

variable {t : FileTree} {names other : List String} {content : List UInt8}

/-- The tree with a file at some names. -/
def store (t : FileTree) (names : List String) (content : List UInt8) : FileTree :=
  { t with files := t.files.filter (·.1 != names) ++ [(names, content)] }

/-- The tree with content put at a place. What lies outside the tree is not part of it. -/
def storeAt (t : FileTree) (place : Place) (content : List UInt8) : FileTree :=
  match place with
  | .inside names => t.store names content
  | _ => t

/-- Storing twice at one place is storing once. -/
theorem storeAt_storeAt (t : FileTree) (place : Place) (first content : List UInt8) :
    (t.storeAt place first).storeAt place content = t.storeAt place content := by
  cases place with
  | inside names => simp [storeAt, store]
  | _ => rfl

/-- What was stored is there. -/
theorem entry_store_self : (t.store names content).entry names = .file content := by
  have hnone : (t.files.filter (·.1 != names)).find? (·.1 == names) = none := by
    simp [List.find?_eq_none]
  have hfind : (t.store names content).files.find? (·.1 == names) = some (names, content) := by
    simp [store, List.find?_append, hnone]
  simp only [entry, hfind]

/-- Elsewhere the same file is found. -/
theorem find?_files_store (hne : other ≠ names) :
    (t.store names content).files.find? (·.1 == other) = t.files.find? (·.1 == other) := by
  have hsame (f : List String × List UInt8) :
      decide ((f.1 != names) = true ∧ (f.1 == other) = true) = (f.1 == other) := by
    rw [Bool.eq_iff_iff, decide_eq_true_iff, and_iff_right_iff_imp, beq_iff_eq, bne_iff_ne]
    rintro rfl
    exact hne
  have hnames : (names == other) = false := beq_eq_false_iff_ne.mpr hne.symm
  simp only [store, List.find?_append, List.find?_filter, hsame, List.find?_cons, hnames,
    List.find?_nil, Option.or_none]

/-- Names lead to a file below them as before, or to the new one. -/
theorem any_isPrefixOf_store : (t.store names content).files.any (other.isPrefixOf ·.1) =
    (t.files.any (other.isPrefixOf ·.1) || other.isPrefixOf names) := by
  rw [Bool.eq_iff_iff]
  simp only [store, List.any_append, List.any_filter, List.any_cons, List.any_nil, Bool.or_false,
    Bool.or_eq_true, List.any_eq_true, Bool.and_eq_true, bne_iff_ne]
  constructor
  · rintro (⟨f, hf, -, hp⟩ | hp)
    · exact .inl ⟨f, hf, hp⟩
    · exact .inr hp
  · rintro (⟨f, hf, hp⟩ | hp)
    · by_cases hnames : f.1 = names
      · exact .inr (hnames ▸ hp)
      · exact .inl ⟨f, hf, hnames, hp⟩
    · exact .inr hp

/-- Elsewhere the entry is the same, provided that names on the way are those of a directory. -/
theorem entry_store_of_ne (hne : other ≠ names)
    (hdir : other <+: names → t.entry other = .directory) :
    (t.store names content).entry other = t.entry other := by
  unfold entry at hdir ⊢
  rw [find?_files_store hne, any_isPrefixOf_store]
  cases hfile : t.files.find? (·.1 == other) with
  | some f => rfl
  | none =>
      have hdirectories : (t.store names content).directories = t.directories := rfl
      simp only [hfile, hdirectories] at hdir ⊢
      by_cases hp : other <+: names
      · have hbefore := hdir hp
        split at hbefore
        · next h => simp only [h, ← Bool.or_assoc, Bool.true_or, ite_true]
        · cases hbefore
      · have hnot : other.isPrefixOf names = false := by
          rw [Bool.eq_false_iff, ne_eq, List.isPrefixOf_iff_prefix]
          exact hp
        rw [hnot, Bool.or_false]

section Reached

/-- Whether all names on the way to a place are those of directories. -/
def Reached (t : FileTree) : Place → Prop
  | .inside names => ∀ dir, dir <+: names → dir ≠ names → t.entry dir = .directory
  | _ => True

theorem reached_start (t : FileTree) (p : Path) : t.Reached (Place.start p) := by
  unfold Place.start
  split
  · intro dir hp hne
    exact absurd (List.prefix_nil.mp hp) hne
  · trivial

/-- The place of a name in a directory is reached when the directory is. -/
theorem Reached.child {place : Place} (h : t.Reached place)
    (hdir : t.entryAt place = .directory) (name : String) : t.Reached (place.child name) := by
  cases place with
  | inside names =>
      intro dir hp hne
      by_cases hself : dir = names
      · exact hself ▸ hdir
      · obtain hend | hbefore := List.prefix_concat_iff.mp hp
        · exact absurd hend hne
        · exact h dir hbefore hself
  | _ => trivial

/-- The directory around a place that is reached is reached. -/
theorem Reached.parent {place : Place} (h : t.Reached place) : t.Reached place.parent := by
  cases place with
  | inside names =>
      cases names with
      | nil => trivial
      | cons name rest =>
          intro dir hp hne
          refine h dir (hp.trans (List.dropLast_prefix _)) ?_
          rintro rfl
          exact absurd (hp.eq_of_length_le (by simp)) hne
  | _ => trivial

/-- A walk leads from a place that is reached to one that is. -/
theorem reached_of_walk {segments : List String} {place last : Place} (h : t.Reached place)
    (hw : t.walk place segments = .ok last) : t.Reached last := by
  induction segments generalizing place with
  | nil =>
      rw [walk, Except.ok.injEq] at hw
      exact hw ▸ h
  | cons segment rest ih =>
      -- A walk only goes on from a directory, which is what the name behind it needs.
      rw [walk] at hw
      split at hw
      · cases hw
      · cases hw
      · next hdir =>
          split at hw
          · exact ih h.parent hw
          · split at hw
            · cases hw
            · exact ih (h.child hdir segment) hw

/-- A walk leads to the same place in a tree that has the same directories and more. -/
theorem walk_of_directories {t' : FileTree}
    (hdirs : ∀ place, t.entryAt place = .directory → t'.entryAt place = .directory)
    {segments : List String} {place last : Place} (hw : t.walk place segments = .ok last) :
    t'.walk place segments = .ok last := by
  induction segments generalizing place with
  | nil => exact hw
  | cons segment rest ih =>
      rw [walk] at hw
      split at hw
      · cases hw
      · cases hw
      · next hdir =>
          rw [walk, hdirs place hdir]
          simp only
          split at hw
          · next h =>
              rw [if_pos h]
              exact ih hw
          · next h =>
              split at hw
              · cases hw
              · next hshort =>
                  rw [if_neg h, if_neg hshort]
                  exact ih hw

end Reached

section Located

variable {p : Path} {place : Place}

/-- The place of a path is found by walking. -/
theorem locate_eq_ok_iff : t.locate p = .ok place ↔
    p.render.toList.contains '\x00' = false ∧ p.render.utf8ByteSize ≤ pathLimit ∧
      t.walk (Place.start p) p.segments = .ok place := by
  unfold locate
  split_ifs with hnull hlong
  · simp only [hnull, reduceCtorEq, false_and]
  · simp [Nat.not_le.mpr hlong]
  · rw [Bool.not_eq_true] at hnull
    simp only [hnull, Nat.not_lt.mp hlong, true_and]
    cases t.walk (Place.start p) p.segments <;> simp [Except.mapError]

theorem reached_of_locate (h : t.locate p = .ok place) : t.Reached place :=
  reached_of_walk (reached_start t p) (locate_eq_ok_iff.mp h).2.2

/-- Outside the working directory all trees have the same entries. -/
theorem entryAt_of_outside (h : ∀ names, place ≠ .inside names) (t t' : FileTree) :
    t.entryAt place = t'.entryAt place := by
  unfold entryAt
  split
  · exact absurd rfl (h _)
  all_goals rfl

/-- Content put at a place that is reached changes no entry at another. -/
theorem entryAt_storeAt_of_ne (h : t.Reached place) {elsewhere : Place} (hne : elsewhere ≠ place) :
    (t.storeAt place content).entryAt elsewhere = t.entryAt elsewhere := by
  cases place with
  | inside names =>
      cases elsewhere with
      | inside other =>
          have hnames : other ≠ names := fun heq => hne (congrArg Place.inside heq)
          exact entry_store_of_ne hnames fun hp => h other hp hnames
      | _ => exact entryAt_of_outside (by simp) _ _
  | _ => rfl

/-- The place of a path, if a file can be opened there to be written. -/
def openable (t : FileTree) (p : Path) : Except FileFault Place := do
  let place ← t.locate p
  if t.entryAt place = .directory then throw ⟨.isDirectory, p⟩
  return place

/-- All places can be opened but those of directories. -/
theorem openable_eq_ok_iff : t.openable p = .ok place ↔
    t.locate p = .ok place ∧ t.entryAt place ≠ .directory := by
  unfold openable
  cases hl : t.locate p with
  | error fault => simp [bind, Except.bind]
  | ok other =>
      by_cases he : t.entryAt other = .directory
      · simp only [bind, Except.bind, he, ite_true, throw, throwThe, MonadExceptOf.throw,
          reduceCtorEq, Except.ok.injEq, ne_eq, false_iff, not_and, not_not]
        rintro rfl
        exact he
      · simp only [bind, Except.bind, he, ite_false, pure, Except.pure, Except.ok.injEq, ne_eq,
          iff_self_and]
        rintro rfl
        exact he

/-- Writing puts the content at the place that is opened. -/
theorem write_eq (t : FileTree) (p : Path) (content : List UInt8) :
    t.write p content = (t.openable p).map fun place => t.storeAt place content := by
  unfold write openable
  cases t.locate p with
  | error fault => rfl
  | ok place =>
      simp only [bind, Except.bind]
      cases he : t.entryAt place <;> cases place <;> rfl

/-- What is written below the working directory is read back. -/
theorem read_storeAt (hl : t.locate p = .ok (.inside names))
    (hdir : t.entryAt (.inside names) ≠ .directory) :
    (t.storeAt (.inside names) content).read p = .ok content := by
  have hreached := reached_of_locate hl
  -- The place was no directory, so the walk does not come through it and ends there again.
  have hdirs (place : Place) (h : t.entryAt place = .directory) :
      (t.storeAt (.inside names) content).entryAt place = .directory := by
    have hne : place ≠ .inside names := by
      rintro rfl
      exact hdir h
    rw [entryAt_storeAt_of_ne hreached hne, h]
  have hwalk := locate_eq_ok_iff.mp hl
  have hlocate : (t.storeAt (.inside names) content).locate p = .ok (.inside names) :=
    locate_eq_ok_iff.mpr ⟨hwalk.1, hwalk.2.1, walk_of_directories hdirs hwalk.2.2⟩
  have hentry : (t.storeAt (.inside names) content).entryAt (.inside names) = .file content :=
    entry_store_self
  rw [read, hlocate]
  simp only [bind, Except.bind, hentry]
  rfl

end Located

end FileTree

end ServiceFlow
