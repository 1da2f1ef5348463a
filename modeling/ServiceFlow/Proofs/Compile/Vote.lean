import Mathlib.Data.List.Basic
import Mathlib.Data.List.Induction
import ServiceFlow.Compile

/-!
# Where services meet

The meeting point of services that are called side by side is chosen by a vote. Votes are counted
one after the other. After any number of them the tally lists every candidate once with all its
votes, in the order of the first votes. So its leader is, of those with the most votes, the one who
was voted for first, and a meeting point is always where some edge of the services leads.
-/

namespace ServiceFlow

/-- A tally after one more vote. -/
def addVote (counts : List (String × Nat)) (v : String) : List (String × Nat) :=
  Table.insert (· == ·) v ((Table.find? (· == ·) v counts).getD 0 + 1) counts

theorem tally_eq_foldl (votes : List String) : tally votes = votes.foldl addVote [] := rfl

section Counting

/-- Whether a list of counts tells how some votes stand. -/
structure Tallies (votes : List String) (counts : List (String × Nat)) : Prop where
  /-- It lists those who were voted for with all their votes. -/
  mem_iff : ∀ {t : String} {k : Nat}, (t, k) ∈ counts ↔ t ∈ votes ∧ votes.count t = k
  /-- Who was voted for first stands first. -/
  ordered : (counts.map (·.1)).Pairwise fun t u => votes.idxOf t < votes.idxOf u

variable {votes : List String} {counts : List (String × Nat)}

/-- No candidate stands on a tally twice. -/
theorem Tallies.nodup_keys (h : Tallies votes counts) : (counts.map (·.1)).Nodup := by
  refine h.ordered.imp ?_
  intro t u hlt heq
  exact Nat.lt_irrefl _ (heq ▸ hlt)

/-- The candidates on a tally are those who were voted for. -/
theorem Tallies.mem_keys_iff (h : Tallies votes counts) {t : String} :
    t ∈ counts.map (·.1) ↔ t ∈ votes := by
  constructor
  · intro ht
    obtain ⟨p, hp, rfl⟩ := List.mem_map.mp ht
    exact (h.mem_iff.mp hp).1
  · intro ht
    exact List.mem_map.mpr ⟨(t, votes.count t), h.mem_iff.mpr ⟨ht, rfl⟩, rfl⟩

/-- What is found on a tally is the number of votes; none are found for who has none. -/
theorem Tallies.getD_find? (h : Tallies votes counts) (t : String) :
    (Table.find? (· == ·) t counts).getD 0 = votes.count t := by
  cases hf : Table.find? (· == ·) t counts with
  | some k => exact (h.mem_iff.mp ((Table.find?_eq_some_iff h.nodup_keys).mp hf)).2.symm
  | none =>
      have ht : t ∉ votes := by
        intro hmem
        have hfound := (Table.find?_eq_some_iff h.nodup_keys).mpr (h.mem_iff.mpr ⟨hmem, rfl⟩)
        exact Option.some_ne_none _ (hfound.symm.trans hf)
      exact (List.count_eq_zero_of_not_mem ht).symm

/-- Counting one more vote keeps a tally. -/
theorem Tallies.addVote (h : Tallies votes counts) (v : String) :
    Tallies (votes ++ [v]) (addVote counts v) := by
  rw [ServiceFlow.addVote, h.getD_find?]
  constructor
  · intro t k
    rw [Table.mem_insert_iff h.nodup_keys, h.mem_iff, List.count_append, List.mem_append]
    by_cases ht : t = v
    · subst ht
      simp [eq_comm]
    · have hv : v ≠ t := fun hvt => ht hvt.symm
      simp [ht, hv]
  · have hkeys : (counts.map (·.1)).Pairwise
        fun t u => (votes ++ [v]).idxOf t < (votes ++ [v]).idxOf u := by
      refine h.ordered.imp_of_mem ?_
      intro t u ht hu hlt
      rwa [List.idxOf_append_of_mem (h.mem_keys_iff.mp ht),
        List.idxOf_append_of_mem (h.mem_keys_iff.mp hu)]
    rw [Table.keys_insert]
    split
    · exact hkeys
    · rename_i hv
      have hfresh : v ∉ votes := fun hmem => hv (h.mem_keys_iff.mpr hmem)
      refine List.pairwise_append.mpr ⟨hkeys, List.pairwise_singleton _ _, ?_⟩
      intro t ht u hu
      have hvoted : t ∈ votes := h.mem_keys_iff.mp ht
      rw [List.mem_singleton.mp hu, List.idxOf_append_of_mem hvoted,
        List.idxOf_append_of_notMem hfresh]
      exact Nat.lt_add_right _ (List.idxOf_lt_length_iff.mpr hvoted)

/-- A tally tells how the votes stand that were counted. -/
theorem tallies_tally (votes : List String) : Tallies votes (tally votes) := by
  induction votes using List.reverseRecOn with
  | nil => exact ⟨by simp [tally], List.Pairwise.nil⟩
  | append_singleton before v ih =>
      rw [tally_eq_foldl, List.foldl_append, ← tally_eq_foldl]
      exact ih.addVote v

end Counting

/-- There is no leader only where there are no counts. -/
theorem leader_eq_none_iff {counts : List (String × Nat)} : leader counts = none ↔ counts = [] := by
  cases counts with
  | nil => simp [leader]
  | cons p rest =>
      simp only [leader, reduceCtorEq, iff_false]
      cases leader rest <;> simp

/-- Those who stand before the leader have fewer votes, those behind have no more. -/
theorem exists_split_of_leader {counts : List (String × Nat)} {p : String × Nat}
    (h : leader counts = some p) : ∃ before after, counts = before ++ p :: after ∧
      (∀ q ∈ before, q.2 < p.2) ∧ ∀ q ∈ after, q.2 ≤ p.2 := by
  induction counts generalizing p with
  | nil => exact absurd h (by simp [leader])
  | cons d rest ih =>
      rw [leader] at h
      cases hr : leader rest with
      | none =>
          simp only [hr, Option.some.injEq] at h
          subst h
          exact ⟨[], [], by rw [leader_eq_none_iff.mp hr, List.nil_append], by simp, by simp⟩
      | some q =>
          simp only [hr, Option.some.injEq] at h
          obtain ⟨before, after, hsplit, hbefore, hafter⟩ := ih hr
          split at h
          · rename_i hlt
            subst h
            refine ⟨d :: before, after, by rw [hsplit, List.cons_append], ?_, hafter⟩
            exact List.forall_mem_cons.mpr ⟨hlt, hbefore⟩
          · rename_i hge
            subst h
            have hle : q.2 ≤ d.2 := Nat.le_of_not_lt hge
            refine ⟨[], rest, rfl, by simp, hsplit ▸ List.forall_mem_append.mpr ⟨?_, ?_⟩⟩
            · exact fun r hr => Nat.le_trans (Nat.le_of_lt (hbefore r hr)) hle
            · exact List.forall_mem_cons.mpr ⟨hle, fun r hr => Nat.le_trans (hafter r hr) hle⟩

/-- Whether a candidate wins a vote. -/
structure Wins (votes : List String) (t : String) : Prop where
  /-- Someone voted for the candidate. -/
  voted : t ∈ votes
  /-- No one has more votes. -/
  most : ∀ u, votes.count u ≤ votes.count t
  /-- Who was voted for sooner has fewer votes. -/
  first : ∀ u ∈ votes, votes.idxOf u < votes.idxOf t → votes.count u < votes.count t

section Winning

variable {votes : List String} {t u : String}

/-- There is one winner at most. -/
theorem Wins.unique (ht : Wins votes t) (hu : Wins votes u) : t = u := by
  have hcount : votes.count t = votes.count u := Nat.le_antisymm (hu.most t) (ht.most u)
  rcases Nat.lt_trichotomy (votes.idxOf t) (votes.idxOf u) with hlt | heq | hgt
  · exact absurd (hu.first t ht.voted hlt) (by omega)
  · exact (List.idxOf_inj ht.voted).mp heq
  · exact absurd (ht.first u hu.voted hgt) (by omega)

/-- The leader of a tally wins the vote. -/
theorem Tallies.wins {counts : List (String × Nat)} (h : Tallies votes counts) {p : String × Nat}
    (hp : leader counts = some p) : Wins votes p.1 := by
  obtain ⟨before, after, rfl, hbefore, hafter⟩ := exists_split_of_leader hp
  obtain ⟨hvoted, hcount⟩ := h.mem_iff.mp List.mem_append_cons_self
  have hplace {u : String} (hu : u ∈ votes) : (u, votes.count u) ∈ before ∨
      u = p.1 ∨ (u, votes.count u) ∈ after := by
    have hmem := h.mem_iff.mpr ⟨hu, rfl⟩
    rw [List.mem_append, List.mem_cons] at hmem
    exact hmem.imp_right (Or.imp_left (congrArg Prod.fst))
  refine ⟨hvoted, ?_, ?_⟩
  · intro u
    by_cases hu : u ∈ votes
    · rw [hcount]
      rcases hplace hu with hu | rfl | hu
      · exact Nat.le_of_lt (hbefore _ hu)
      · exact Nat.le_of_eq hcount
      · exact hafter _ hu
    · rw [List.count_eq_zero_of_not_mem hu]
      exact Nat.zero_le _
  · intro u hu hlt
    rw [hcount]
    rcases hplace hu with hu | rfl | hu
    · exact hbefore _ hu
    · exact absurd hlt (Nat.lt_irrefl _)
    · -- Behind the leader stands no one who was voted for sooner.
      have hordered := h.ordered
      rw [List.map_append, List.map_cons] at hordered
      have hsooner := (List.pairwise_cons.mp (List.pairwise_append.mp hordered).2.1).1
      exact absurd hlt (Nat.lt_asymm (hsooner u (List.mem_map.mpr ⟨_, hu, rfl⟩)))

/-- There is a majority as soon as there are votes. -/
theorem majority_eq_none_iff : majority votes = none ↔ votes = [] := by
  rw [majority, Option.map_eq_none_iff, leader_eq_none_iff]
  constructor
  · intro hnil
    refine List.eq_nil_iff_forall_not_mem.mpr fun v hv => ?_
    have hentry := (tallies_tally votes).mem_iff.mpr ⟨hv, rfl⟩
    exact absurd (hnil ▸ hentry) List.not_mem_nil
  · rintro rfl
    rfl

/-- The majority of votes is for the winner and for no one else. -/
theorem majority_eq_some_iff : majority votes = some t ↔ Wins votes t := by
  have hwins {u : String} (h : majority votes = some u) : Wins votes u := by
    obtain ⟨p, hp, rfl⟩ := Option.map_eq_some_iff.mp h
    exact (tallies_tally votes).wins hp
  constructor
  · exact hwins
  · intro ht
    cases h : majority votes with
    | none => exact absurd (majority_eq_none_iff.mp h) (List.ne_nil_of_mem ht.voted)
    | some u => rw [(hwins h).unique ht]

end Winning

namespace Graph

/-- Services that are called side by side meet at the winner of their votes: nowhere if none of them
goes on anywhere. -/
theorem meetingPoint_wins (g : Graph) (ids : List String) :
    (g.meetingPoint ids = none ↔ g.votes ids = []) ∧
      ∀ t, g.meetingPoint ids = some t ↔ Wins (g.votes ids) t :=
  ⟨majority_eq_none_iff, fun _ => majority_eq_some_iff⟩

/-- A meeting point is where an edge of one of the services leads. -/
theorem exists_edge_of_meetingPoint {g : Graph} {ids : List String} {t : String}
    (h : g.meetingPoint ids = some t) : ∃ e ∈ g.edges, e.source ∈ ids ∧ e.target = t :=
  mem_votes.mp (majority_eq_some_iff.mp h).voted

end Graph

end ServiceFlow
