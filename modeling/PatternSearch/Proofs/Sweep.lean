import PatternSearch.Pattern.Eval
import PatternSearch.Proofs.Boundary

/-!
# The loop of a wildcard

A wildcard tries what follows it at one offset after another. Its loop looks at an offset first and
asks afterwards whether there is more to come, and it has nothing that makes it end but the limit:
it is the limit being within the text that lets every step lead on. Here the loop stands by itself,
as what it does in turn, and the walk of a wildcard is shown to come to the same.

- `Haystack.Sweeps`: the loop, with the offsets that it has tried in the end.
- `Haystack.exists_sweeps`: it comes to an end from every offset, if the limit is within the text;
  if not, there is no end to it where everything backtracks (`Haystack.Sweeps.limit_le_size`).
- `Haystack.Sweeps.pairwise`: it never goes back.
- `Haystack.Sweeps.boundary_cases`: between two boundaries, it tries the boundaries up to the first
  one that decides (`Haystack.ListsBoundaries`).
- `Haystack.Sweeps.run_sweep`: a wildcard comes to the outcome of the loop, so between two
  boundaries to the first outcome other than `backtrack` (`Haystack.sweep_cases`).
-/

namespace PatternSearch

/-- The loop of a wildcard from an offset on, until it is decided or has been up to the limit. The
offsets that it has tried are listed in turn. -/
inductive Haystack.Sweeps (hay : Haystack) (limit : Nat) (attempt : Nat → Id Outcome) :
    Nat → List Nat → Outcome → Prop
  | decided {pos : Nat} (decisive : (attempt pos).run ≠ .backtrack) :
    Sweeps hay limit attempt pos [pos] (attempt pos).run
  | exhausted {pos : Nat} (backtracks : (attempt pos).run = .backtrack) (ge : limit ≤ pos) :
    Sweeps hay limit attempt pos [pos] .backtrack
  | onward {pos : Nat} {tried : List Nat} {outcome : Outcome}
    (backtracks : (attempt pos).run = .backtrack) (lt : pos < limit)
    (rest : Sweeps hay limit attempt (hay.next pos) tried outcome) :
    Sweeps hay limit attempt pos (pos :: tried) outcome

namespace Haystack

variable {hay : Haystack} {limit start : Nat} {attempt : Nat → Id Outcome} {tried : List Nat}
  {outcome : Outcome}

/-! ## The end of the loop -/

/-- With the limit within the text, the loop comes to an end wherever it starts. -/
theorem exists_sweeps (within : limit ≤ hay.size) (attempt : Nat → Id Outcome) (start : Nat) :
    ∃ tried outcome, hay.Sweeps limit attempt start tried outcome := by
  -- below the limit a step leads on, so induction is on the distance to it
  induction distance : limit - start using Nat.strongRecOn generalizing start with
  | _ distance ih =>
    by_cases backtracks : (attempt start).run = .backtrack
    · rcases Nat.lt_or_ge start limit with lt | ge
      · have ahead : start < hay.next start := lt_next_of_le_size within lt
        obtain ⟨tried, outcome, rest⟩ :=
          ih (limit - hay.next start) (by omega) (hay.next start) rfl
        exact ⟨start :: tried, outcome, .onward backtracks lt rest⟩
      · exact ⟨[start], .backtrack, .exhausted backtracks ge⟩
    · exact ⟨[start], (attempt start).run, .decided backtracks⟩

namespace Sweeps

/-- A loop in which everything backtracks can only end because of the limit, which has to be within
the text then: the steps do not lead out of it. -/
theorem limit_le_size (sweeps : hay.Sweeps limit attempt start tried outcome)
    (backtracks : ∀ pos, (attempt pos).run = .backtrack) (inside : start ≤ hay.size) :
    limit ≤ hay.size := by
  induction sweeps with
  | decided decisive => exact absurd (backtracks _) decisive
  | exhausted _ ge => exact Nat.le_trans ge inside
  | onward _ _ _ ih => exact ih (hay.next_le_size _)

/-- The loop does not go back behind where it starts. -/
theorem le_of_mem (within : limit ≤ hay.size)
    (sweeps : hay.Sweeps limit attempt start tried outcome) : ∀ pos ∈ tried, start ≤ pos := by
  induction sweeps with
  | decided | exhausted => exact List.forall_mem_singleton.2 (Nat.le_refl _)
  | onward _ lt _ ih =>
    have ahead := lt_next_of_le_size within lt
    refine List.forall_mem_cons.2 ⟨Nat.le_refl _, fun pos member => ?_⟩
    exact Nat.le_trans (Nat.le_of_lt ahead) (ih pos member)

/-- The offsets that are tried ascend. -/
theorem pairwise (within : limit ≤ hay.size)
    (sweeps : hay.Sweeps limit attempt start tried outcome) : tried.Pairwise (· < ·) := by
  induction sweeps with
  | decided | exhausted => exact List.pairwise_singleton ..
  | onward _ lt rest ih =>
    have ahead := lt_next_of_le_size within lt
    refine List.pairwise_cons.2 ⟨fun pos member => ?_, ih⟩
    exact Nat.lt_of_lt_of_le ahead (rest.le_of_mem within pos member)

end Sweeps

/-! ## Between two boundaries -/

/-- The list has the boundaries from `start` to `last`, and nothing else. -/
def ListsBoundaries (hay : Haystack) (start last : Nat) (list : List Nat) : Prop :=
  ∀ pos, pos ∈ list ↔ hay.isBoundary pos = true ∧ start ≤ pos ∧ pos ≤ last

namespace ListsBoundaries

variable {pos last : Nat}

theorem singleton (boundary : hay.isBoundary pos = true) : hay.ListsBoundaries pos pos [pos] := by
  intro place
  rw [List.mem_singleton]
  constructor
  · rintro rfl
    exact ⟨boundary, Nat.le_refl _, Nat.le_refl _⟩
  · exact fun ⟨_, ge, le⟩ => Nat.le_antisymm le ge

/-- A step from a boundary leaves out no other one. -/
theorem cons (boundary : hay.isBoundary pos = true) (ahead : pos < hay.next pos)
    (reach : hay.next pos ≤ last) (listed : hay.ListsBoundaries (hay.next pos) last tried) :
    hay.ListsBoundaries pos last (pos :: tried) := by
  intro place
  rw [List.mem_cons, listed]
  constructor
  · rintro (rfl | ⟨boundary', behind, le⟩)
    · exact ⟨boundary, Nat.le_refl _, by omega⟩
    · exact ⟨boundary', by omega, le⟩
  · rintro ⟨boundary', from_le, le⟩
    rcases Nat.eq_or_lt_of_le from_le with rfl | behind
    · exact .inl rfl
    · exact .inr ⟨boundary', next_le_of_lt boundary boundary' behind, le⟩

end ListsBoundaries

/-- Between two boundaries, the loop tries all boundaries up to the first one whose outcome is not
`backtrack`, and comes to that, or all of them if there is none. -/
theorem Sweeps.boundary_cases (sweeps : hay.Sweeps limit attempt start tried outcome)
    (limitBoundary : hay.isBoundary limit = true) (boundary : hay.isBoundary start = true)
    (le : start ≤ limit) :
    ∃ last ≤ limit, hay.ListsBoundaries start last tried ∧
      (hay.IsFirst start (limit + 1) (fun pos => (attempt pos).run ≠ .backtrack) last ∧
          outcome = (attempt last).run ∨
        hay.NoneBelow start (limit + 1) (fun pos => (attempt pos).run ≠ .backtrack) ∧
          outcome = .backtrack ∧ last = limit) := by
  induction sweeps with
  | @decided pos decisive =>
    refine ⟨pos, le, .singleton boundary, .inl ⟨?_, rfl⟩⟩
    exact .here boundary (Nat.lt_succ_of_le le) decisive
  | @exhausted pos backtracks ge =>
    obtain rfl : pos = limit := Nat.le_antisymm le ge
    refine ⟨pos, le, .singleton boundary, .inr ⟨fun place _ from_le lt => ?_, rfl, rfl⟩⟩
    obtain rfl : pos = place := Nat.le_antisymm from_le (Nat.le_of_lt_succ lt)
    exact fun decisive => decisive backtracks
  | @onward pos tried outcome backtracks lt _ ih =>
    have ahead : pos < hay.next pos := lt_next_of_lt limitBoundary lt
    have near : hay.next pos ≤ limit := next_le_of_lt boundary limitBoundary lt
    have none : hay.NoneBelow pos (hay.next pos) fun place => (attempt place).run ≠ .backtrack :=
      noneBelow_next boundary fun decisive => decisive backtracks
    obtain ⟨last, last_le, listed, ⟨first, same⟩ | ⟨rest, same, rfl⟩⟩ :=
      ih (hay.isBoundary_next pos) near
    · exact ⟨last, last_le, listed.cons boundary ahead first.le,
        .inl ⟨first.skip none (Nat.le_of_lt ahead), same⟩⟩
    · exact ⟨last, last_le, listed.cons boundary ahead near,
        .inr ⟨none.append rest, same, rfl⟩⟩

/-! ## The walk of a wildcard -/

/-- A sweep looks at the outcome at its start, and goes on one step further if that is
`backtrack`. -/
theorem run_sweep (hay : Haystack) (limit : Nat) (attempt : Nat → Id Outcome) (pos : Nat) :
    (hay.sweep limit attempt pos).run =
      match (attempt pos).run with
      | .backtrack =>
        if pos < limit ∧ pos < hay.next pos then (hay.sweep limit attempt (hay.next pos)).run
        else .backtrack
      | decisive => decisive := by
  rw [sweep, Id.run_bind]
  cases (attempt pos).run with
  | backtrack =>
    dsimp only
    split <;> rfl
  | abort | success => rfl

/-- The walk of a wildcard comes to the outcome of the loop: its own test, whether a step leads on,
never fails below the limit. -/
theorem Sweeps.run_sweep (within : limit ≤ hay.size)
    (sweeps : hay.Sweeps limit attempt start tried outcome) :
    (hay.sweep limit attempt start).run = outcome := by
  induction sweeps with
  | decided decisive =>
    rw [Haystack.run_sweep]
    split
    · next backtracks => exact absurd backtracks decisive
    · rfl
  | exhausted backtracks ge =>
    rw [Haystack.run_sweep, backtracks]
    exact if_neg fun ahead => Nat.not_lt.2 ge ahead.1
  | onward backtracks lt _ ih =>
    rw [Haystack.run_sweep, backtracks]
    dsimp only
    rw [if_pos ⟨lt, lt_next_of_le_size within lt⟩]
    exact ih

/-- A sweep comes to the outcome at the first boundary, the limit included, where that is not
`backtrack`, and backtracks if there is none. -/
theorem sweep_cases (attempt : Nat → Id Outcome) (limitBoundary : hay.isBoundary limit = true)
    (boundary : hay.isBoundary start = true) (le : start ≤ limit) :
    (∃ place,
      hay.IsFirst start (limit + 1) (fun place => (attempt place).run ≠ .backtrack) place ∧
      (hay.sweep limit attempt start).run = (attempt place).run) ∨
    hay.NoneBelow start (limit + 1) (fun place => (attempt place).run ≠ .backtrack) ∧
      (hay.sweep limit attempt start).run = .backtrack := by
  have within : limit ≤ hay.size := le_size_of_isBoundary limitBoundary
  obtain ⟨tried, outcome, sweeps⟩ := exists_sweeps within attempt start
  rw [sweeps.run_sweep within]
  obtain ⟨last, -, -, ⟨first, same⟩ | ⟨none, same, -⟩⟩ :=
    sweeps.boundary_cases limitBoundary boundary le
  · exact .inl ⟨last, first, same⟩
  · exact .inr ⟨none, same⟩

end Haystack

end PatternSearch
