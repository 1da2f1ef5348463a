import ServiceFlow.Session

/-!
# What the commands of a session leave alone

A command that only looks at a session changes nothing in it. A command about the document leaves
the catalogue and the graph alone, and no other command looks at the document. So the commands of
either kind can be left out of a session, and all others get the answers that they got before.
-/

namespace ServiceFlow.Session

/-- How a command ends: it fails, or leaves a session and gives an answer. -/
abbrev Outcome := Except Failure (Session × Answer)

namespace Outcome

/-- An outcome leaves sessions of a kind when it leaves one of that kind or is a failure. -/
def Leaves (P : Session → Prop) (x : Outcome) : Prop :=
  ∀ s answer, x = .ok (s, answer) → P s

/-- Two outcomes are alike when they are the same failure, or give the same answer and leave related
sessions. -/
inductive Alike (R : Session → Session → Prop) : Outcome → Outcome → Prop where
  | error (f : Failure) : Alike R (.error f) (.error f)
  | ok {s t : Session} (answer : Answer) (h : R s t) : Alike R (.ok (s, answer)) (.ok (t, answer))

variable {α : Type} {P : Session → Prop} {R : Session → Session → Prop}

theorem Leaves.ok {s : Session} (answer : Answer) (h : P s) :
    Leaves P (.ok (s, answer)) := by
  intro s' answer' heq
  cases heq
  exact h

/-- What is left does not depend on what may fail before. -/
theorem Leaves.bind (x : Except Failure α) {f : α → Outcome} (h : ∀ a, Leaves P (f a)) :
    Leaves P (x >>= f) := by
  cases x with
  | error failure =>
      intro s answer heq
      cases heq
  | ok a => exact h a

/-- Outcomes are alike when they go on alike from what both have found. -/
theorem Alike.bind (x : Except Failure α) {f g : α → Outcome} (h : ∀ a, Alike R (f a) (g a)) :
    Alike R (x >>= f) (x >>= g) := by
  cases x with
  | error failure => exact .error failure
  | ok a => exact h a

/-- An outcome is alike to itself where every session is related to itself. -/
theorem Alike.refl (hR : ∀ s, R s s) (x : Outcome) : Alike R x x := by
  cases x with
  | error failure => exact .error failure
  | ok outcome => exact .ok _ (hR _)

end Outcome

section LeavingOut

/-- The answers of a session to those of its commands that are kept. -/
def answersTo (keep : Command → Bool) (s : Session) (commands : List Command) :
    List (Except Failure Answer) :=
  ((commands.zip (s.run commands)).filter (keep ·.1)).map (·.2)

/-- Related sessions carry out the commands that are kept alike, and stay related when one of them
carries out another command. -/
structure Separates (R : Session → Session → Prop) (keep : Command → Bool) : Prop where
  kept {s t : Session} {c : Command} (hc : keep c = true) (h : R s t) :
    Outcome.Alike R (s.step c) (t.step c)
  other {s t : Session} {c : Command} (hc : keep c = false) (h : R s t) :
    Outcome.Leaves (R · t) (s.step c)

variable {R : Session → Session → Prop} {keep : Command → Bool} {s t : Session}

/-- The first command of a session gets the first answer, and the others are given to the session
that it leaves. -/
theorem answersTo_cons (c : Command) (rest : List Command) :
    s.answersTo keep (c :: rest) = match s.step c with
      | .ok (after, answer) => (if keep c then [.ok answer] else []) ++ after.answersTo keep rest
      | .error failure => (if keep c then [.error failure] else []) ++ s.answersTo keep rest := by
  unfold answersTo
  rw [run]
  cases s.step c <;> cases hkeep : keep c <;> simp [hkeep]

/-- What is not kept can be left out of one of two related sessions: the commands that are kept get
the same answers from both. -/
theorem Separates.answersTo_eq (h : Separates R keep) (hst : R s t) (commands : List Command) :
    s.answersTo keep commands = t.run (commands.filter keep) := by
  induction commands generalizing s t with
  | nil => rfl
  | cons c rest ih =>
      rw [answersTo_cons]
      cases hc : keep c with
      | true =>
          have halike := h.kept hc hst
          rw [List.filter_cons_of_pos hc, run]
          generalize s.step c = x, t.step c = y at halike
          cases halike with
          | error f => simp [ih hst]
          | ok answer hafter => simp [ih hafter]
      | false =>
          rw [List.filter_cons_of_neg (by simp [hc])]
          cases hstep : s.step c with
          | error f => simp [ih hst]
          | ok outcome => simp [ih (h.other hc hst _ _ hstep)]

end LeavingOut

section Looking

/-- Whether a command only looks at a session. -/
def Command.isLook : Command → Bool
  | .showGraph | .query _ | .check | .exportGraph | .validate | .validateWritten | .toJson _ => true
  | _ => false

/-- A command that only looks at a session leaves it as it is. -/
theorem step_look {s : Session} {c : Command} (hc : c.isLook = true) :
    Outcome.Leaves (· = s) (s.step c) := by
  cases c with
  | showGraph | query | check => exact .ok _ rfl
  | exportGraph | validate | toJson => exact .bind _ fun _ => .ok _ rfl
  | validateWritten => exact .bind _ fun _ => .bind _ fun _ => .ok _ rfl
  | _ => cases hc

theorem separates_look : Separates Eq fun c => !c.isLook where
  kept _ h := by
    subst h
    exact .refl (fun _ => rfl) _
  other hc h := by
    subst h
    exact step_look (by simpa using hc)

/-- A session answers the commands that change something as if nobody looked at it in between. -/
theorem answersTo_changes (s : Session) (commands : List Command) :
    s.answersTo (fun c => !c.isLook) commands = s.run (commands.filter fun c => !c.isLook) :=
  separates_look.answersTo_eq rfl commands

end Looking

section Drawing

/-- Whether a command is about the document. -/
def Command.isOnDocument : Command → Bool
  | .compile | .parseDocument _ | .reload | .markEntry _ | .setStart _ | .dropStep _ | .validate
  | .validateWritten | .toJson _ => true
  | _ => false

/-- Two sessions are over the same drawing when they differ in their documents at most. -/
def SameDrawing (s t : Session) : Prop := s.catalog = t.catalog ∧ s.graph = t.graph

variable {s t : Session} {c : Command}

/-- A command about the document leaves the drawing as it is, also when it compiles the graph. -/
theorem step_onDocument (hc : c.isOnDocument = true) (h : SameDrawing s t) :
    Outcome.Leaves (SameDrawing · t) (s.step c) := by
  cases c with
  | compile | parseDocument | markEntry | setStart | validate | toJson =>
      exact .bind _ fun _ => .ok _ h
  | reload | dropStep | validateWritten => exact .bind _ fun _ => .bind _ fun _ => .ok _ h
  | _ => cases hc

/-- No other command looks at the document. -/
theorem step_of_sameDrawing (hc : c.isOnDocument = false) (h : SameDrawing s t) :
    Outcome.Alike SameDrawing (s.step c) (t.step c) := by
  obtain ⟨catalog, graph, _⟩ := s
  obtain ⟨_, _, _⟩ := t
  obtain ⟨rfl, rfl⟩ := h
  cases c with
  | loadCatalog | loadGraph | setNode | setEdge | removeNode | removeEdge | exportGraph =>
      exact .bind _ fun _ => .ok _ ⟨rfl, rfl⟩
  | addNode | addEdge | connect | classify | showGraph | query | check => exact .ok _ ⟨rfl, rfl⟩
  | _ => cases hc

theorem separates_onDocument : Separates SameDrawing fun c => !c.isOnDocument where
  kept hc h := step_of_sameDrawing (by simpa using hc) h
  other hc h := step_onDocument (by simpa using hc) h

/-- Whatever is compiled, read or edited as a document, the commands on the catalogue and the graph
get the same answers as if there were no documents. -/
theorem answersTo_drawing (h : SameDrawing s t) (commands : List Command) :
    s.answersTo (fun c => !c.isOnDocument) commands =
      t.run (commands.filter fun c => !c.isOnDocument) :=
  separates_onDocument.answersTo_eq h commands

end Drawing

end ServiceFlow.Session
