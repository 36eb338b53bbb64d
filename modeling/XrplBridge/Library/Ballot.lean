import Mathlib.Tactic.Common
import Mathlib.Data.List.Nodup
import Mathlib.Data.List.Perm.Subperm

/-!
# Ballots

Votes on one proposal, collected until a threshold of distinct voters is reached.
A vote is refused if its voter has voted; the vote that reaches the threshold closes
the ballot, which is then empty again.

`Ballot.Open` is what a ballot that is still collecting satisfies; a vote keeps it
(`Open.cast`), and the vote that closes the ballot is the threshold-th, all of them by
different voters of the electorate (`Open.reached`). So one of them is by an honest voter,
if fewer than the threshold are not (`exists_honest`).
-/

namespace XrplBridge.Library.Ballot

universe u

variable {ν : Type u} [DecidableEq ν]

/-- The vote of `v` on a ballot with the votes `voters`: whether it reaches the
threshold, and the votes that are kept. -/
def cast (threshold : ℕ) (voters : List ν) (v : ν) : Option (Bool × List ν) :=
  if v ∈ voters then none
  else if threshold ≤ (voters ++ [v]).length then some (true, [])
  else some (false, voters ++ [v])

/-- A ballot that is still collecting: distinct voters of the electorate, fewer than
the threshold. -/
structure Open (electorate : ν → Prop) (threshold : ℕ) (voters : List ν) : Prop where
  /-- No one votes twice. -/
  nodup : voters.Nodup
  /-- Only the electorate votes. -/
  elect : ∀ v ∈ voters, electorate v
  /-- The threshold is not reached. -/
  lt : voters.length < threshold

variable {electorate : ν → Prop} {threshold : ℕ} {voters voters' : List ν} {v : ν} {b : Bool}

omit [DecidableEq ν] in
theorem Open.nil (h : 0 < threshold) : Open electorate threshold [] :=
  ⟨List.nodup_nil, by simp, h⟩

theorem cast_true (h : cast threshold voters v = some (true, voters')) :
    v ∉ voters ∧ threshold ≤ voters.length + 1 ∧ voters' = [] := by
  unfold cast at h
  split_ifs at h with hv ht <;> simp_all

theorem cast_false (h : cast threshold voters v = some (false, voters')) :
    v ∉ voters ∧ voters.length + 1 < threshold ∧ voters' = voters ++ [v] := by
  unfold cast at h
  split_ifs at h with hv ht <;> simp_all

omit [DecidableEq ν] in
/-- One more vote leaves distinct voters of the electorate. -/
theorem Open.snoc (h : Open electorate threshold voters) (hv : v ∉ voters) (he : electorate v) :
    (voters ++ [v]).Nodup ∧ ∀ u ∈ voters ++ [v], electorate u := by
  refine ⟨List.nodup_append.mpr ⟨h.nodup, List.nodup_singleton v, ?_⟩, ?_⟩
  · rintro a ha b hb rfl
    rw [List.mem_singleton] at hb
    exact hv (hb ▸ ha)
  · intro u hu
    rcases List.mem_append.mp hu with hu | hu
    · exact h.elect u hu
    · rw [List.mem_singleton] at hu; exact hu ▸ he

/-- A vote keeps the ballot open, or closes and empties it. -/
theorem Open.cast (h : Open electorate threshold voters) (he : electorate v)
    (hc : cast threshold voters v = some (b, voters')) : Open electorate threshold voters' := by
  cases b with
  | true =>
    obtain ⟨-, -, rfl⟩ := cast_true hc
    exact .nil (Nat.zero_lt_of_lt h.lt)
  | false =>
    obtain ⟨hv, hlt, rfl⟩ := cast_false hc
    obtain ⟨hn, hm⟩ := h.snoc hv he
    exact ⟨hn, hm, by simpa using hlt⟩

/-- **The vote that closes a ballot is the threshold-th**, and the votes are by
distinct voters of the electorate. -/
theorem Open.reached (h : Open electorate threshold voters) (he : electorate v)
    (hc : Ballot.cast threshold voters v = some (true, voters')) :
    (voters ++ [v]).Nodup ∧ (∀ u ∈ voters ++ [v], electorate u) ∧ (voters ++ [v]).length = threshold := by
  obtain ⟨hv, hle, -⟩ := cast_true hc
  obtain ⟨hn, hm⟩ := h.snoc hv he
  have := h.lt
  exact ⟨hn, hm, by simp; omega⟩

omit [DecidableEq ν] in
/-- **Enough voters include an honest one**: distinct voters of an electorate, more of them
than there are dishonest ones in it. -/
theorem exists_honest {honest : ν → Prop} [DecidablePred honest] {electors : List ν} (hn : voters.Nodup)
    (he : ∀ v ∈ voters, v ∈ electors) (hlt : (electors.filter fun v => ¬ honest v).length < voters.length) :
    ∃ v ∈ voters, honest v := by
  by_contra hno
  have hsub : voters ⊆ electors.filter fun v => ¬ honest v := by
    intro v hv
    rw [List.mem_filter, decide_eq_true_iff]
    exact ⟨he v hv, fun hh => hno ⟨v, hv, hh⟩⟩
  have hle := (hn.subperm hsub).length_le
  omega

end XrplBridge.Library.Ballot
