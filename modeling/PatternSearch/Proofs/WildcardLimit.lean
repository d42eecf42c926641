import PatternSearch.Proofs.DeclaredEnding
import PatternSearch.Proofs.Relaxation
import PatternSearch.Proofs.Soundness

/-!
# A wildcard before a limit

A wildcard that is the last pattern takes everything up to the limit. One might expect the same of a
wildcard with a `limit` behind it, as it looks at every place up to the limit, this included. But a
`limit` that is not reached aborts, and a wildcard gives up at the first abort: it takes nothing at
all.

- `Pattern.evalAll_any_limit`: a wildcard before a `limit` may be left out.
- `Pattern.Walk.stop_eq_limit_of_last`: a match of patterns that end in a wildcard or a `limit` ends
  at the limit.
- `Sequence.matchesTo_limited_iff`: with the `limit` behind its last wildcard, a sequence matches
  where it does without it and what stands before the wildcard reaches the limit by itself.
- `Sequence.find?_wildcard_limit_eq_iff`: so a search with the `limit` answers as the one without it
  exactly if the match that this one finds is of that kind.
-/

namespace PatternSearch

variable {hay : Haystack} {start limit stop : Nat} {ending : Ending}

namespace Pattern

variable {patterns rest : List (Pattern Id)} {cursors : List Nat}

/-! ## The wildcard takes nothing -/

/-- A `limit` succeeds or aborts wherever it is tried, so the wildcard before it comes to that at
once. -/
theorem evalAll_any_limit :
    evalAll (.any :: .limit :: rest) hay start limit ending =
      evalAll (.limit :: rest) hay start limit ending := by
  show (hay.sweep limit (fun pos => evalAll (.limit :: rest) hay pos limit ending) start).run =
    (evalAll (.limit :: rest) hay start limit ending).run
  have outcome : (evalAll (.limit :: rest) hay start limit ending).run =
      if start = limit then .success start else .abort := rfl
  rw [Haystack.run_sweep, outcome]
  by_cases reached : start = limit
  · rw [if_pos reached]
  · rw [if_neg reached]

/-- So it may be left out behind any patterns. -/
theorem evalAll_append_any_limit (own : ∀ pattern ∈ patterns, pattern.kind ≠ .custom) :
    evalAll (patterns ++ [.any, .limit]) hay start limit ending =
      evalAll (patterns ++ [.limit]) hay start limit ending :=
  evalAll_append_cons_congr own (fun _ => evalAll_any_limit) start

/-- With a `limit` at the end, patterns come to no more than with a wildcard there. -/
theorem rank_evalAll_limit_le_any (own : ∀ pattern ∈ patterns, pattern.kind ≠ .custom)
    (start : Nat) :
    (evalAll (patterns ++ [Pattern.limit]) hay start limit ending).run.rank ≤
      (evalAll (patterns ++ [Pattern.any]) hay start limit ending).run.rank :=
  rank_evalAll_append_le own (fun _ => rfl) start

/-! ## The match ends at the limit -/

/-- A walk through patterns that end in a wildcard or a `limit` stops at the limit. -/
theorem Walk.stop_eq_limit_of_last {last : Pattern Id}
    (reaches : last.kind = .any ∨ last.kind = .limit)
    (unfinished : ∀ pattern ∈ patterns, pattern.kind ≠ .finish)
    (walk : Walk hay limit ending (patterns ++ [last]) start cursors stop) : stop = limit := by
  induction patterns generalizing start cursors with
  | nil =>
    cases walk with
    | limit | anyLast => rfl
    | finish => rcases reaches with kind | kind <;> cases kind
    | step more _ _ _ takes _ =>
      cases takes with
      | any => exact absurd rfl (more rfl)
      | text _ _ | except _ | repeated _ _ _ => rcases reaches with kind | kind <;> cases kind
  | cons pattern rest ih =>
    rw [List.cons_append] at walk
    generalize behind : rest ++ [last] = others at walk
    cases walk with
    | limit | anyLast => rfl
    | finish => exact absurd rfl (unfinished _ (.head rest))
    | step _ _ _ _ _ walk =>
      subst behind
      exact ih (fun other member => unfinished other (.tail pattern member)) walk

end Pattern

/-! ## Sequences -/

namespace Sequence

variable {sequence : Sequence Id} {patterns : List (Pattern Id)}

/-- A match of a sequence that ends in a wildcard or a `limit` ends at the limit. -/
theorem MatchesTo.stop_eq_limit {last : Pattern Id}
    (declared : sequence.patterns = patterns ++ [last])
    (own : ∀ pattern ∈ sequence.patterns, pattern.kind ≠ .custom)
    (unfinished : ∀ pattern ∈ patterns, pattern.kind ≠ .finish)
    (reaches : last.kind = .any ∨ last.kind = .limit)
    (limitBoundary : hay.isBoundary limit = true) (boundary : hay.isBoundary start = true)
    (le : start ≤ limit) (matches_ : sequence.MatchesTo hay limit start stop) : stop = limit := by
  obtain ⟨choices, derives⟩ := Pattern.derives_of_success own
    (fun _ _ _ _ member => sequence.repeated_ne_nil member) limitBoundary start stop boundary le
    matches_.evalAll_eq
  rw [declared] at derives
  obtain ⟨cursors, walk⟩ := derives.exists_walk boundary le
  exact walk.stop_eq_limit_of_last reaches unfinished

/-- To try the sequence with the `limit` is to try the patterns before the wildcard up to the
limit. -/
theorem eval_limited {limited : Sequence Id}
    (own : ∀ pattern ∈ patterns, pattern.kind ≠ .custom)
    (declared : limited.patterns = patterns ++ [.any, .limit]) (hay : Haystack) (start limit : Nat)
    (ending : Ending) :
    limited.eval hay start limit ending =
      Pattern.evalAll (patterns ++ [.limit]) hay start limit ending := by
  rw [eval_eq_evalAll, declared, Pattern.evalAll_append_any_limit own]

/-- With a `limit` behind the last wildcard, a sequence matches where it matches without it and the
patterns before the wildcard reach the limit, and to the same end. -/
theorem matchesTo_limited_iff {limited : Sequence Id}
    (own : ∀ pattern ∈ patterns, pattern.kind ≠ .custom)
    (unfinished : ∀ pattern ∈ patterns, pattern.kind ≠ .finish)
    (declared : sequence.patterns = patterns ++ [.any])
    (declared' : limited.patterns = patterns ++ [.any, .limit])
    (limitBoundary : hay.isBoundary limit = true) (boundary : hay.isBoundary start = true)
    (le : start ≤ limit) :
    limited.MatchesTo hay limit start stop ↔ sequence.MatchesTo hay limit start stop ∧
      (Pattern.evalAll (patterns ++ [Pattern.limit]) hay start limit .anywhere).run.isSuccess =
        true := by
  have split : limited.patterns = patterns ++ [.any] ++ [.limit] := by rw [declared']; simp
  have own_before : ∀ pattern ∈ patterns ++ [.any], pattern.kind ≠ .custom :=
    List.forall_mem_append.2 ⟨own, List.forall_mem_singleton.2 nofun⟩
  have own_sequence : ∀ pattern ∈ sequence.patterns, pattern.kind ≠ .custom :=
    declared ▸ own_before
  have own_limited : ∀ pattern ∈ limited.patterns, pattern.kind ≠ .custom :=
    split ▸ List.forall_mem_append.2 ⟨own_before, List.forall_mem_singleton.2 nofun⟩
  have unfinished_before : ∀ pattern ∈ patterns ++ [.any], pattern.kind ≠ .finish :=
    List.forall_mem_append.2 ⟨unfinished, List.forall_mem_singleton.2 nofun⟩
  -- each of the two matches at the limit only, so it is enough that both match
  have at_limit : ∀ stop, sequence.MatchesTo hay limit start stop → stop = limit :=
    fun _ matches_ => matches_.stop_eq_limit declared own_sequence unfinished (.inl rfl)
      limitBoundary boundary le
  have at_limit' : ∀ stop, limited.MatchesTo hay limit start stop → stop = limit :=
    fun _ matches' => matches'.stop_eq_limit split own_limited unfinished_before (.inr rfl)
      limitBoundary boundary le
  constructor
  · intro matches'
    have succeeds : (limited.eval hay start limit .anywhere).run.isSuccess = true :=
      (matchesAt_iff_isSuccess own_limited limitBoundary boundary le).1 ⟨stop, matches'⟩
    rw [eval_limited own declared'] at succeeds
    have raised : (sequence.eval hay start limit .anywhere).run.isSuccess = true := by
      rw [eval_eq_evalAll, declared]
      exact Outcome.isSuccess_of_rank_le (Pattern.rank_evalAll_limit_le_any own start) succeeds
    obtain ⟨other, matches_⟩ :=
      (matchesAt_iff_isSuccess own_sequence limitBoundary boundary le).2 raised
    obtain rfl : other = stop := (at_limit _ matches_).trans (at_limit' _ matches').symm
    exact ⟨matches_, succeeds⟩
  · rintro ⟨matches_, succeeds⟩
    rw [← eval_limited own declared'] at succeeds
    obtain ⟨other, matches'⟩ :=
      (matchesAt_iff_isSuccess own_limited limitBoundary boundary le).2 succeeds
    obtain rfl : other = stop := (at_limit' _ matches').trans (at_limit _ matches_).symm
    exact matches'

/-- **A wildcard before a `limit` takes nothing**: the patterns come to what they come to without
it. So a search with a `limit` behind the last wildcard answers as the one without the `limit`
exactly if that finds nothing, or finds a match where the patterns before the wildcard can reach the
limit by themselves. -/
theorem find?_wildcard_limit_eq_iff (patterns : List (Pattern Id)) {limited : Sequence Id}
    (own : ∀ pattern ∈ patterns, pattern.kind ≠ .custom)
    (unfinished : ∀ pattern ∈ patterns, pattern.kind ≠ .finish)
    (declared : sequence.patterns = patterns ++ [.any])
    (declared' : limited.patterns = patterns ++ [.any, .limit]) :
    (∀ hay start limit ending, limited.eval hay start limit ending =
      Pattern.evalAll (patterns ++ [.limit]) hay start limit ending) ∧
    ∀ scope, (limited.find? scope).run = (sequence.find? scope).run ↔
      ∀ found, (sequence.find? scope).run = some found →
        (Pattern.evalAll (patterns ++ [Pattern.limit]) scope.haystack found.start scope.limit
          .anywhere).run.isSuccess = true := by
  refine ⟨eval_limited own declared', fun scope => ?_⟩
  have matches_iff : ∀ {start stop}, scope.haystack.isBoundary start = true →
      start ≤ scope.limit →
      (limited.MatchesTo scope.haystack scope.limit start stop ↔ _) := fun boundary le =>
    matchesTo_limited_iff own unfinished declared declared' scope.isBoundary_limit boundary le
  have first := sequence.firstMatch_find? scope
  have first' := limited.firstMatch_find? scope
  constructor
  · intro same found answer
    rw [same, answer] at first'
    obtain ⟨-, isFirst, matches'⟩ := first'
    exact ((matches_iff isFirst.boundary (Nat.le_of_lt isFirst.lt)).1 matches').2
  · intro reach
    refine first'.unique ?_
    -- where the sequence does not match, it does not with the `limit`
    have fewer : ∀ pos stop, stop ≤ scope.limit →
        scope.haystack.NoneBelow pos stop (sequence.MatchesAt scope.haystack scope.limit) →
        scope.haystack.NoneBelow pos stop (limited.MatchesAt scope.haystack scope.limit) := by
      rintro pos stop stop_le none start boundary from_le lt ⟨last, matches'⟩
      exact none start boundary from_le lt
        ⟨last, ((matches_iff boundary (by omega)).1 matches').1⟩
    cases answer : (sequence.find? scope).run with
    | none =>
      rw [answer] at first
      exact fewer scope.first scope.limit (Nat.le_refl _) first
    | some found =>
      rw [answer] at first
      obtain ⟨haystack, isFirst, matches_⟩ := first
      have le := Nat.le_of_lt isFirst.lt
      have matches' := (matches_iff isFirst.boundary le).2 ⟨matches_, reach found answer⟩
      exact ⟨haystack, ⟨isFirst.boundary, isFirst.le, isFirst.lt, ⟨_, matches'⟩,
        fewer scope.first found.start le isFirst.noneBelow⟩, matches'⟩

/-- An `a` and a wildcard, in `ba`: the `a` ends at the limit by itself, so the `limit` makes no
difference. -/
theorem find?_wildcard_limit_eq_iff_letters :
    let hay : Haystack := { text := ['b', 'a'] }
    let sequence : Sequence Id := ⟨[.text [['a']] .exact, .any], rfl⟩
    let limited : Sequence Id := ⟨[.text [['a']] .exact, .any, .limit], rfl⟩
    (limited.find? (Scope.full hay)).run = (sequence.find? (Scope.full hay)).run ∧
      (sequence.find? (Scope.full hay)).run = some ⟨hay, 1, 2⟩ := by
  intro hay sequence limited
  have answer : (sequence.find? (Scope.full hay)).run = some ⟨hay, 1, 2⟩ := by decide +kernel
  obtain ⟨-, same_iff⟩ :=
    find?_wildcard_limit_eq_iff [.text [['a']] .exact] (by decide) (by decide)
    (rfl : sequence.patterns = [.text [['a']] .exact, .any])
    (rfl : limited.patterns = [.text [['a']] .exact, .any, .limit])
  refine ⟨(same_iff (Scope.full hay)).2 fun found again => ?_, answer⟩
  obtain rfl := Option.some_inj.1 (answer.symm.trans again)
  decide +kernel

/-- An `a` and a wildcard, in `ab`: the wildcard takes the `b`, and with a `limit` behind it there
is no match at all. -/
theorem find?_wildcard_limit_ne :
    let hay : Haystack := { text := ['a', 'b'] }
    let sequence : Sequence Id := ⟨[.text [['a']] .exact, .any], rfl⟩
    let limited : Sequence Id := ⟨[.text [['a']] .exact, .any, .limit], rfl⟩
    (sequence.find? (Scope.full hay)).run = some ⟨hay, 0, 2⟩ ∧
      (limited.find? (Scope.full hay)).run = none := by
  decide +kernel

end Sequence

end PatternSearch
