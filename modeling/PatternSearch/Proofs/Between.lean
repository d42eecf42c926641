import Mathlib.Order.Bounds.Basic
import PatternSearch.Proofs.Enumeration

/-!
# What lies between an interval and the next match

The gap behind an interval can be asked for with ends of any kind: the interval may end inside a
character, and the limit may lie inside one, past the end of the text, or before the interval. The
search moves both inward to boundaries, and the gap is put together from what it finds. Told without
these moves, the gap reaches from where the interval ends to the least boundary from there on at
which the sequence matches.

- `Sequence.matchesBehind`: the places where a match behind an interval may start.
- `Sequence.isLeast_matchesBehind`, `Sequence.not_mem_matchesBehind`: what a search of the scope
  behind the interval finds starts at the least of them, and if it finds nothing there are none.
- `Sequence.betweenWithin?_eq_some_iff`, `Sequence.betweenWithin?_eq_none_iff`: so the gap ends
  there.
- `Sequence.gap_reaches_next_match`: this for all the ways to ask for a gap.
-/

namespace PatternSearch

variable {sequence : Sequence Id} {interval found gap : Interval} {limit : Nat}

/-! ## Places behind an interval -/

/-- The scope that is searched for the end of the gap. -/
def Interval.scopeBehind (interval : Interval) (limit : Nat) : Scope :=
  Scope.ofRange interval.haystack interval.stop limit

namespace Sequence

/-- The boundaries from the end of the interval on, before `bound`, at which the sequence matches
with an end by `bound`. -/
def matchesBehind (sequence : Sequence Id) (interval : Interval) (bound : Nat) : Set Nat :=
  {place | interval.stop ≤ place ∧ place < bound ∧
    interval.haystack.isBoundary place = true ∧
    sequence.MatchesAt interval.haystack bound place}

/-- The first match in the scope behind the interval starts at the least place of a match. -/
theorem isLeast_matchesBehind
    (first : sequence.FirstMatch interval.haystack (interval.scopeBehind limit).limit
      (interval.scopeBehind limit).first (some found)) :
    IsLeast (sequence.matchesBehind interval (interval.scopeBehind limit).limit) found.start := by
  obtain ⟨-, isFirst, -⟩ := first
  have from_iff := (interval.scopeBehind limit).first_le_iff isFirst.boundary isFirst.lt
  refine ⟨⟨from_iff.1 isFirst.le, isFirst.lt, isFirst.boundary, isFirst.holds⟩, ?_⟩
  rintro place ⟨from_le, lt, boundary, holds⟩
  refine Nat.le_of_not_lt fun before => isFirst.least place boundary ?_ before holds
  exact ((interval.scopeBehind limit).first_le_iff boundary lt).2 from_le

/-- Without a match in that scope there is no such place. -/
theorem not_mem_matchesBehind
    (missing : sequence.FirstMatch interval.haystack (interval.scopeBehind limit).limit
      (interval.scopeBehind limit).first none) (place : Nat) :
    place ∉ sequence.matchesBehind interval (interval.scopeBehind limit).limit := by
  rintro ⟨from_le, lt, boundary, holds⟩
  refine missing place boundary ?_ lt holds
  exact ((interval.scopeBehind limit).first_le_iff boundary lt).2 from_le

/-! ## The gap -/

/-- The gap reaches to the start of the first match in the scope behind the interval. -/
theorem run_betweenWithin? (sequence : Sequence Id) (interval : Interval) (limit : Nat) :
    (sequence.betweenWithin? interval limit).run =
      (sequence.find? (interval.scopeBehind limit)).run.map fun found =>
        ⟨interval.haystack, interval.stop, found.start⟩ := by
  have first := sequence.firstMatch_find? (interval.scopeBehind limit)
  show (sequence.find? (interval.scopeBehind limit)).run.map (fun found =>
    Interval.mk interval.haystack interval.stop (max found.start interval.stop)) = _
  cases answer : (sequence.find? (interval.scopeBehind limit)).run with
  | none => rfl
  | some found =>
    rw [answer] at first
    have behind : interval.stop ≤ found.start := (isLeast_matchesBehind first).1.1
    rw [Option.map_some, Option.map_some, Nat.max_eq_left behind]

/-- The gap is from the end of the interval to the least place of a match behind it. -/
theorem betweenWithin?_eq_some_iff :
    (sequence.betweenWithin? interval limit).run = some gap ↔
      gap.haystack = interval.haystack ∧ gap.start = interval.stop ∧
        IsLeast (sequence.matchesBehind interval (interval.haystack.floor limit)) gap.stop := by
  have first := sequence.firstMatch_find? (interval.scopeBehind limit)
  rw [run_betweenWithin?, Option.map_eq_some_iff]
  constructor
  · rintro ⟨found, answer, rfl⟩
    rw [answer] at first
    exact ⟨rfl, rfl, isLeast_matchesBehind first⟩
  · rintro ⟨haystack, start, least⟩
    cases answer : (sequence.find? (interval.scopeBehind limit)).run with
    | none =>
      rw [answer] at first
      exact absurd least.1 (not_mem_matchesBehind first gap.stop)
    | some found =>
      rw [answer] at first
      obtain ⟨hay, start', stop⟩ := gap
      obtain rfl : hay = interval.haystack := haystack
      obtain rfl : start' = interval.stop := start
      obtain rfl : found.start = stop := (isLeast_matchesBehind first).unique least
      exact ⟨found, rfl, rfl⟩

/-- There is no gap exactly if there is no such place. -/
theorem betweenWithin?_eq_none_iff :
    (sequence.betweenWithin? interval limit).run = none ↔
      ∀ place, place ∉ sequence.matchesBehind interval (interval.haystack.floor limit) := by
  have first := sequence.firstMatch_find? (interval.scopeBehind limit)
  rw [run_betweenWithin?, Option.map_eq_none_iff]
  constructor
  · intro answer
    rw [answer] at first
    exact not_mem_matchesBehind first
  · intro nowhere
    cases answer : (sequence.find? (interval.scopeBehind limit)).run with
    | none => rfl
    | some found =>
      rw [answer] at first
      exact absurd (isLeast_matchesBehind first).1 (nowhere found.start)

/-- No place lies behind the interval and before a limit that does not. -/
theorem not_mem_matchesBehind_of_le (reversed : limit ≤ interval.stop) (place : Nat) :
    place ∉ sequence.matchesBehind interval (interval.haystack.floor limit) := by
  rintro ⟨from_le, lt, -⟩
  have floor_le := interval.haystack.floor_le limit
  omega

/-- **The gap reaches to the next match**: asked for what lies between an interval and the next
match, with a limit, a sequence answers with the interval from the end of the given one to the least
boundary from there on at which it matches by the last boundary that the limit allows, and with
nothing exactly if there is no such boundary. So there is no gap if the limit does not lie behind
the interval. Without a limit the gap is the one up to the end of the text, and the queries give the
same. -/
theorem gap_reaches_next_match (sequence : Sequence Id) (interval : Interval) (limit : Nat) :
    (∃ bound,
      IsGreatest {place | interval.haystack.isBoundary place = true ∧
        place ≤ min limit interval.haystack.size} bound ∧
      (∀ gap, (sequence.betweenWithin? interval limit).run = some gap ↔
        gap.haystack = interval.haystack ∧ gap.start = interval.stop ∧
          IsLeast (sequence.matchesBehind interval bound) gap.stop) ∧
      ((sequence.betweenWithin? interval limit).run = none ↔
        ∀ place, place ∉ sequence.matchesBehind interval bound)) ∧
    (limit ≤ interval.stop → (sequence.betweenWithin? interval limit).run = none) ∧
    (sequence.between? interval).run =
      (sequence.betweenWithin? interval interval.haystack.size).run ∧
    Query.between? sequence.patterns interval (some limit) =
      .ok (sequence.betweenWithin? interval limit) ∧
    Query.between? sequence.patterns interval none = .ok (sequence.between? interval) := by
  refine ⟨⟨interval.haystack.floor limit, interval.haystack.isGreatest_floor limit,
    fun gap => betweenWithin?_eq_some_iff, betweenWithin?_eq_none_iff⟩,
    fun reversed => ?_, rfl, ?_, ?_⟩
  · exact betweenWithin?_eq_none_iff.2 (not_mem_matchesBehind_of_le reversed)
  · exact Query.answer_patterns sequence none _
  · exact Query.answer_patterns sequence none _

/-- The gap up to a semicolon in `é;é`, from inside the first character and with a limit inside
the last one: it ends at 2. With a limit before the interval there is none. -/
theorem gap_reaches_next_match_letters :
    let interval : Interval := ⟨{ text := ['é', ';', 'é'] }, 0, 1⟩
    let sequence : Sequence Id := ⟨[.text [[';']] .exact], rfl⟩
    IsLeast (sequence.matchesBehind interval 3) 2 ∧
      (1 ≤ interval.stop ∧ (sequence.betweenWithin? interval 1).run = none) := by
  intro interval sequence
  have answer : (sequence.betweenWithin? interval 4).run = some ⟨interval.haystack, 1, 2⟩ := by
    decide +kernel
  have bound_eq : interval.haystack.floor 4 = 3 := by decide
  obtain ⟨⟨bound, greatest, some_iff, -⟩, -⟩ := gap_reaches_next_match sequence interval 4
  obtain ⟨-, -, least⟩ := (some_iff _).1 answer
  obtain rfl : bound = 3 := (greatest.unique (interval.haystack.isGreatest_floor 4)).trans bound_eq
  obtain ⟨-, reversed, -⟩ := gap_reaches_next_match sequence interval 1
  exact ⟨least, Nat.le_refl 1, reversed (Nat.le_refl 1)⟩

end Sequence

end PatternSearch
