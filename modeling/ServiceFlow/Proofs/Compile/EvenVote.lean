import Mathlib.Data.List.Infix
import Mathlib.Data.List.MinMax
import ServiceFlow.Proofs.Compile.Vote

/-!
# Even votes

Of several candidates with the most votes the one who was voted for first wins. That need not be the
one who was the first to have that many votes: it is the one whose last vote came first who had them
all first, and last votes can come in another order than first votes. Where one vote is enough to
win, they cannot.
-/

namespace ServiceFlow

/-- Whether a candidate is the first to have the most votes: after some of the votes all that are
for the candidate have been cast, and no one else has as many yet. -/
def ReachesFirst (votes : List String) (t : String) : Prop :=
  t ∈ votes ∧ (∀ u ∈ votes, votes.count u ≤ votes.count t) ∧
    ∃ early ∈ votes.inits, early.count t = votes.count t ∧
      ∀ u ∈ votes, u ≠ t → early.count u < votes.count t

instance (votes : List String) (t : String) : Decidable (ReachesFirst votes t) :=
  inferInstanceAs (Decidable (_ ∧ _ ∧ _))

/-- How many votes are cast after the last one for a candidate. -/
def castAfter (votes : List String) (t : String) : Nat := votes.reverse.idxOf t

section Reaching

variable {votes early late : List String} {t u : String}

/-- The last vote for a candidate is one of the late votes when one of these is for the candidate.
-/
theorem castAfter_lt_iff : castAfter (early ++ late) u < late.length ↔ u ∈ late := by
  have hlength : late.reverse.length = late.length := List.length_reverse
  rw [castAfter, List.reverse_append, ← hlength, ← List.mem_reverse]
  by_cases hu : u ∈ late.reverse
  · rw [List.idxOf_append_of_mem hu]
    exact iff_of_true (List.idxOf_lt_length_iff.mpr hu) hu
  · rw [List.idxOf_append_of_notMem hu]
    exact iff_of_false (by omega) hu

/-- The last vote for a candidate divides the votes. -/
theorem exists_last_vote (ht : t ∈ votes) : ∃ early late, votes = early ++ late ∧
    t ∉ late ∧ castAfter votes t = late.length := by
  obtain ⟨late, early, hsplit, hlate⟩ := List.eq_append_cons_of_mem (List.mem_reverse.mpr ht)
  refine ⟨early.reverse ++ [t], late.reverse, ?_, by rwa [List.mem_reverse], ?_⟩
  · rw [← List.reverse_reverse votes, hsplit]
    simp
  · rw [castAfter, hsplit, List.idxOf_append_of_notMem hlate, List.idxOf_cons_self,
      List.length_reverse, Nat.add_zero]

/-- Among those with most votes the one whose last vote came first was the first to have them. -/
theorem reachesFirst_iff (ht : t ∈ votes) (hmost : ∀ u ∈ votes, votes.count u ≤ votes.count t) :
    ReachesFirst votes t ↔ ∀ u ∈ votes, u ≠ t → votes.count u = votes.count t →
      castAfter votes u < castAfter votes t := by
  constructor
  · rintro ⟨-, -, early, hearly, hdone, hfewer⟩ u hu hne hcount
    obtain ⟨late, rfl⟩ := (List.mem_inits _ _).mp hearly
    have hlatet : t ∉ late := by
      rw [← List.count_eq_zero]
      rw [List.count_append] at hdone
      omega
    have hlateu : u ∈ late := by
      have hlt := hfewer u hu hne
      rw [← hcount, List.count_append] at hlt
      exact List.count_pos_iff.mp (by omega)
    exact (castAfter_lt_iff.mpr hlateu).trans_le
      (Nat.le_of_not_lt fun hlt => hlatet (castAfter_lt_iff.mp hlt))
  · intro hlast
    obtain ⟨early, late, rfl, hlate, hcast⟩ := exists_last_vote ht
    have hlatet : late.count t = 0 := List.count_eq_zero_of_not_mem hlate
    refine ⟨ht, hmost, early, (List.mem_inits _ _).mpr (List.prefix_append _ _), ?_, ?_⟩
    · rw [List.count_append, hlatet, Nat.add_zero]
    · intro u hu hne
      rcases Nat.lt_or_eq_of_le (hmost u hu) with hlt | heq
      · rw [List.count_append (a := u)] at hlt
        omega
      · have hlateu : 0 < late.count u :=
          List.count_pos_iff.mpr (castAfter_lt_iff.mp (hcast ▸ hlast u hu hne heq))
        rw [List.count_append (a := u)] at heq
        omega

/-- No two candidates are the first to have the most votes. -/
theorem ReachesFirst.unique (ht : ReachesFirst votes t) (hu : ReachesFirst votes u) : t = u := by
  obtain ⟨htv, htmost, -⟩ := id ht
  obtain ⟨huv, humost, -⟩ := id hu
  have hcount : votes.count t = votes.count u := Nat.le_antisymm (humost t htv) (htmost u huv)
  by_contra hne
  have htu := (reachesFirst_iff huv humost).mp hu t htv hne hcount
  have hut := (reachesFirst_iff htv htmost).mp ht u huv (Ne.symm hne) hcount.symm
  exact absurd htu hut.asymm

/-- Some candidate is the first to have the most votes, as soon as there are votes. -/
theorem exists_reachesFirst (h : votes ≠ []) : ∃ t, ReachesFirst votes t := by
  obtain ⟨w, hw⟩ := Option.ne_none_iff_exists'.mp (mt majority_eq_none_iff.mp h)
  obtain ⟨hvoted, hmost, -⟩ := majority_eq_some_iff.mp hw
  have hleader {u : String} : u ∈ votes.filter (votes.count · = votes.count w) ↔
      u ∈ votes ∧ votes.count u = votes.count w := by simp
  have hne := List.ne_nil_of_mem (hleader.mpr ⟨hvoted, rfl⟩)
  obtain ⟨t, ht⟩ := Option.ne_none_iff_exists'.mp
    (mt (List.argmax_eq_none (f := castAfter votes)).mp hne)
  obtain ⟨htv, htc⟩ := hleader.mp (List.argmax_mem ht)
  refine ⟨t, (reachesFirst_iff htv fun u _ => htc ▸ hmost u).mpr ?_⟩
  intro u hu hne hcount
  have hle := List.le_of_mem_argmax (hleader.mpr ⟨hu, hcount.trans htc⟩) ht
  refine Nat.lt_of_le_of_ne hle fun heq => hne ?_
  exact (List.idxOf_inj (List.mem_reverse.mpr hu)).mp heq

/-- A winner with one vote was the first to have one. -/
theorem Wins.reachesFirst_of_count_eq_one (h : Wins votes t) (h1 : votes.count t = 1) :
    ReachesFirst votes t := by
  obtain ⟨before, after, hsplit, hbefore⟩ := List.eq_append_cons_of_mem h.voted
  refine ⟨h.voted, fun u _ => h.most u, before ++ [t], ?_, ?_, ?_⟩
  · exact (List.mem_inits _ _).mpr ⟨after, by rw [hsplit, List.append_assoc]; rfl⟩
  · rw [h1, List.count_append, List.count_eq_zero_of_not_mem hbefore, List.count_singleton_self]
  · intro u hu hne
    have hunvoted : u ∉ before := by
      intro hmem
      have hsooner : votes.idxOf u < votes.idxOf t := by
        rw [hsplit, List.idxOf_append_of_mem hmem, List.idxOf_append_of_notMem hbefore]
        exact Nat.lt_add_right _ (List.idxOf_lt_length_iff.mpr hmem)
      have hfewer := h.first u hu hsooner
      have hpos := List.count_pos_iff.mpr hu
      omega
    rw [h1, List.count_append, List.count_eq_zero_of_not_mem hunvoted]
    simp [Ne.symm hne]

end Reaching

namespace Graph

/-- The meeting point need not be the first to have the most votes. Some candidate is, and no other;
the meeting point is it exactly when, among those with as many votes, its last vote came first. That
is so when one vote is enough. -/
theorem meetingPoint_reachesFirst_iff {g : Graph} {ids : List String} (h : g.votes ids ≠ []) :
    (∃! t, ReachesFirst (g.votes ids) t) ∧ ∃ t, g.meetingPoint ids = some t ∧
      (ReachesFirst (g.votes ids) t ↔ ∀ u ∈ g.votes ids, u ≠ t →
        (g.votes ids).count u = (g.votes ids).count t →
          castAfter (g.votes ids) u < castAfter (g.votes ids) t) ∧
      ((g.votes ids).count t = 1 → ReachesFirst (g.votes ids) t) := by
  obtain ⟨t, ht⟩ := Option.ne_none_iff_exists'.mp (mt majority_eq_none_iff.mp h)
  have hwins : Wins (g.votes ids) t := majority_eq_some_iff.mp ht
  obtain ⟨e, he⟩ := exists_reachesFirst h
  refine ⟨⟨e, he, fun u hu => hu.unique he⟩, t, ht, ?_, hwins.reachesFirst_of_count_eq_one⟩
  exact reachesFirst_iff hwins.voted fun u _ => hwins.most u

/-- Two services side by side, of which each can go on at either of two ends. -/
def crossedEnds : Graph where
  nodes := [{ id := "e", type := "StartNode" }, { id := "s", type := "IDV" },
    { id := "a", type := "AML" }, { id := "b", type := "KYB" }, { id := "x", type := "EndNode" },
    { id := "y", type := "EndNode" }]
  edges := [{ id := "1", source := "e", target := "s" }, { id := "2", source := "s", target := "a" },
    { id := "3", source := "s", target := "b" }, { id := "4", source := "a", target := "x" },
    { id := "5", source := "a", target := "y" }, { id := "6", source := "b", target := "y" },
    { id := "7", source := "b", target := "x" }]

theorem meetingPoint_reachesFirst_iff_crossedEnds :
    crossedEnds.votes ["a", "b", "a"] = ["x", "y", "y", "x", "x", "y"] ∧
      crossedEnds.meetingPoint ["a", "b", "a"] = some "x" ∧
      ReachesFirst (crossedEnds.votes ["a", "b", "a"]) "x" := by
  have hvotes : crossedEnds.votes ["a", "b", "a"] ≠ [] := by decide
  obtain ⟨-, t, ht, hiff, -⟩ := meetingPoint_reachesFirst_iff hvotes
  have hx : t = "x" := (Option.some.inj ht).symm
  subst hx
  exact ⟨by decide, ht, hiff.mpr (by decide)⟩

/-- The winner of an even vote can be the second to have had all its votes. -/
theorem crossedEnds_not_reachesFirst :
    crossedEnds.votes ["a", "b"] = ["x", "y", "y", "x"] ∧
      crossedEnds.meetingPoint ["a", "b"] = some "x" ∧
      ReachesFirst (crossedEnds.votes ["a", "b"]) "y" ∧
      ¬ ReachesFirst (crossedEnds.votes ["a", "b"]) "x" := by
  decide

end Graph

end ServiceFlow
