import PatternSearch.Proofs.DeclaredEnding
import PatternSearch.Proofs.Derivation
import PatternSearch.Proofs.FirstOffence
import PatternSearch.Proofs.Relaxation

/-!
# A wildcard in front instead of a search

There are two ways to look for the first match of a sequence in a scope. A search tries one offset
after another below the limit, those that the lead leaves, and takes every failure as a reason to go
on. A wildcard in front of the patterns tries every offset up to the limit, this included, and gives
up at the first abort. For patterns that begin with a text whose literals are not empty, both come
to the same: a text keeps every failure behind it to itself, and none of its literals stands at the
limit.

- `Pattern.evalAll_any_text_cases`: the wildcard comes to the first success of the patterns below
  the limit.
- `Pattern.rank_evalAll_append_any`: with a wildcard behind them and the ending at the limit,
  patterns come to what they come to without either.
- `Sequence.eval_widened_iff`, `Sequence.isMatch_between_wildcards_iff`: so the wildcard in front
  finds what a search finds, and a second one behind makes a match of the whole scope of it.
- `Sequence.wildcard_scan_agrees`: both, together with the sequences that they speak of.
-/

namespace PatternSearch

variable {hay : Haystack} {start limit stop : Nat} {ending ending' : Ending}

namespace Pattern

/-! ## A text behind a wildcard -/

section LeadingText

variable {literals : List Text} {casing : Casing} {rest : List (Pattern Id)}

/-- A literal that is not empty has no room at the limit. -/
theorem not_standsAt_limit (nonempty : ∀ literal ∈ literals, literal ≠ [])
    (limitBoundary : hay.isBoundary limit = true) :
    ¬ hay.StandsAt casing limit literals limit := by
  rintro ⟨literal, member, stop, found⟩
  obtain ⟨covers, le⟩ := (Haystack.literalEnd?_eq_some_iff_covers limitBoundary).1 found
  exact absurd (covers.lt (nonempty literal member)) (Nat.not_lt.2 le)

/-- A wildcard before a text comes to the first success below the limit, and backtracks if there is
none. -/
theorem evalAll_any_text_cases {wanted : Nat → Prop}
    (nonempty : ∀ literal ∈ literals, literal ≠ [])
    (limitBoundary : hay.isBoundary limit = true)
    (boundary : hay.isBoundary start = true) (le : start ≤ limit)
    (wanted_iff : ∀ place, hay.isBoundary place = true → place < limit → (wanted place ↔
      (evalAll (.text literals casing :: rest) hay place limit ending).run.isSuccess = true)) :
    (∃ place, hay.IsFirst start limit wanted place ∧
      (evalAll (.any :: .text literals casing :: rest) hay start limit ending).run =
        (evalAll (.text literals casing :: rest) hay place limit ending).run) ∨
    hay.NoneBelow start limit wanted ∧
      (evalAll (.any :: .text literals casing :: rest) hay start limit ending).run =
        .backtrack := by
  -- the text never aborts, so a success is wherever the wildcard stops
  have wanted_iff_decisive : ∀ place, hay.isBoundary place = true → place < limit →
      (wanted place ↔
        (evalAll (.text literals casing :: rest) hay place limit ending).run ≠ .backtrack) := by
    intro place boundary lt
    have keeps : (evalAll (.text literals casing :: rest) hay place limit ending).run ≠ .abort :=
      evalAll_text_ne_abort
    rw [wanted_iff place boundary lt]
    cases outcome : (evalAll (.text literals casing :: rest) hay place limit ending).run with
    | abort => exact absurd outcome keeps
    | backtrack => exact ⟨nofun, fun decisive => absurd rfl decisive⟩
    | success stop => exact ⟨nofun, fun _ => rfl⟩
  have at_limit :
      (evalAll (.text literals casing :: rest) hay limit limit ending).run = .backtrack :=
    congrArg Id.run (eval_text_eq_backtrack (not_standsAt_limit nonempty limitBoundary) _)
  rw [evalAll_any (List.cons_ne_nil _ _)]
  rcases hay.sweep_cases
      (fun place => evalAll (.text literals casing :: rest) hay place limit ending) limitBoundary
      boundary le with ⟨place, first, same⟩ | ⟨none, same⟩
  · have lt : place < limit := by
      refine Nat.lt_of_le_of_ne (Nat.le_of_lt_succ first.lt) ?_
      rintro rfl
      exact first.holds at_limit
    refine .inl
      ⟨place, ⟨first.boundary, first.le, lt, ?_, fun earlier boundary' from_le before => ?_⟩,
      same⟩
    · exact (wanted_iff_decisive place first.boundary lt).2 first.holds
    · rw [wanted_iff_decisive earlier boundary' (Nat.lt_trans before lt)]
      exact first.least earlier boundary' from_le before
  · refine .inr ⟨fun place boundary' from_le lt => ?_, same⟩
    rw [wanted_iff_decisive place boundary' lt]
    exact none place boundary' from_le (Nat.lt_succ_of_lt lt)

end LeadingText

/-! ## A wildcard at the end -/

variable {pattern pattern' : Pattern Id} {patterns tail tail' : List (Pattern Id)}

/-- Where the rest succeeds in any case, it does not matter what it is. -/
theorem rank_evalAll_append_eq (own : ∀ pattern ∈ patterns, pattern.kind ≠ .custom)
    (succeeds : ∀ pos, (evalAll (pattern :: tail) hay pos limit ending).run.isSuccess = true)
    (succeeds' : ∀ pos, (evalAll (pattern' :: tail') hay pos limit ending').run.isSuccess = true)
    (start : Nat) :
    (evalAll (patterns ++ pattern :: tail) hay start limit ending).run.rank =
      (evalAll (patterns ++ pattern' :: tail') hay start limit ending').run.rank :=
  Nat.le_antisymm (rank_evalAll_append_le own succeeds' start)
    (rank_evalAll_append_le own succeeds start)

/-- Two wildcards succeed wherever they are tried. -/
theorem isSuccess_evalAll_any_any (start : Nat) :
    (evalAll [(.any : Pattern Id), .any] hay start limit ending).run.isSuccess = true := by
  rw [evalAll_any (List.cons_ne_nil _ _), Haystack.run_sweep]
  rfl

/-- With a wildcard at the end it is as good to end at the limit as anywhere. -/
theorem rank_evalAll_append_any (own : ∀ pattern ∈ patterns, pattern.kind ≠ .custom)
    (hay : Haystack) (start limit : Nat) :
    (evalAll (patterns ++ [Pattern.any]) hay start limit .atLimit).run.rank =
      (evalAll patterns hay start limit .anywhere).run.rank := by
  rcases List.eq_nil_or_concat patterns with rfl | ⟨front, last, rfl⟩
  · rfl
  · rw [List.concat_eq_append] at own ⊢
    obtain ⟨own_front, -⟩ := List.forall_mem_append.1 own
    by_cases wildcard : last = .any
    · -- a wildcard needs to know that it is the last one, so it is kept out of the patterns
      -- in front
      subst wildcard
      rw [List.append_assoc]
      exact rank_evalAll_append_eq own_front isSuccess_evalAll_any_any (fun _ => rfl) start
    · have no_wildcard : ∀ pattern, (front ++ [last]).getLast? = some pattern →
          pattern.kind ≠ .any := by
        intro pattern at_end
        rw [List.getLast?_concat] at at_end
        obtain rfl := Option.some_inj.1 at_end
        cases last with
        | any => exact absurd rfl wildcard
        | _ => nofun
      have finished : evalAll (front ++ [last] ++ [.finish]) hay start limit .anywhere =
          evalAll (front ++ [last]) hay start limit .anywhere :=
        evalAll_append_of_outcome own no_wildcard (fun _ => rfl) start
      rw [← finished]
      exact rank_evalAll_append_eq own (fun _ => rfl) (fun _ => rfl) start

end Pattern

/-! ## Sequences -/

namespace Sequence

variable {patterns : List (Pattern Id)}

/-- A wildcard may be put in front of every sequence. -/
theorem WellFormed.any_cons (wellFormed : WellFormed patterns) : WellFormed (.any :: patterns) where
  nonempty := List.cons_ne_nil _ _
  finish_last index at_index := by
    cases index with
    | zero => cases at_index
    | succ index => exact congrArg (· + 1) (wellFormed.finish_last index at_index)
  any_not_after_except index literals casing at_index := by
    cases index with
    | zero => cases at_index
    | succ index => exact wellFormed.any_not_after_except index literals casing at_index
  repeated_possible literal casing atLeast atMost member := by
    rcases List.mem_cons.1 member with same | member
    · cases same
    · exact wellFormed.repeated_possible literal casing atLeast atMost member

/-- A wildcard may be put behind a sequence that has no `finish` and does not end in an `except`. -/
theorem WellFormed.append_any (wellFormed : WellFormed patterns)
    (unfinished : ∀ pattern ∈ patterns, pattern.kind ≠ .finish)
    (last : ∀ pattern, patterns.getLast? = some pattern → pattern.kind ≠ .except) :
    WellFormed (patterns ++ [.any]) where
  nonempty := List.append_ne_nil_of_right_ne_nil _ (List.cons_ne_nil _ _)
  finish_last index at_index := by
    rcases List.mem_append.1 (List.mem_of_getElem? at_index) with member | member
    · exact absurd rfl (unfinished _ member)
    · cases List.mem_singleton.1 member
  any_not_after_except index literals casing at_index at_next := by
    have inside := (List.getElem?_eq_some_iff.1 at_index).1
    rw [List.length_append, List.length_singleton] at inside
    rcases Nat.lt_or_eq_of_le (Nat.le_of_lt_succ inside) with before | rfl
    · rw [List.getElem?_append_left before] at at_index
      rcases Nat.lt_or_eq_of_le (Nat.succ_le_of_lt before) with more | reach
      · rw [List.getElem?_append_left more] at at_next
        exact wellFormed.any_not_after_except index literals casing at_index at_next
      · -- the `except` is the last pattern of the sequence
        refine absurd rfl (last (.except literals casing) ?_)
        rw [List.getLast?_eq_getElem?, ← reach]
        exact at_index
    · rw [List.getElem?_append_right (Nat.le_refl _), Nat.sub_self] at at_index
      cases at_index
  repeated_possible literal casing atLeast atMost member := by
    rcases List.mem_append.1 member with member | member
    · exact wellFormed.repeated_possible literal casing atLeast atMost member
    · cases List.mem_singleton.1 member

section LeadingText

variable {sequence widened both : Sequence Id} {literals : List Text} {casing : Casing}
  {rest : List (Pattern Id)}

/-- A sequence that begins with a text matches where this and the rest succeed. -/
theorem matchesAt_iff_evalAll_text (declared : sequence.patterns = .text literals casing :: rest)
    (own : ∀ pattern ∈ sequence.patterns, pattern.kind ≠ .custom)
    (limitBoundary : hay.isBoundary limit = true) {place : Nat}
    (boundary : hay.isBoundary place = true) (lt : place < limit) :
    sequence.MatchesAt hay limit place ↔
      (Pattern.evalAll (.text literals casing :: rest) hay place limit
        .anywhere).run.isSuccess = true := by
  rw [← declared, ← sequence.eval_eq_evalAll]
  exact matchesAt_iff_isSuccess own limitBoundary boundary (Nat.le_of_lt lt)

/-- So it does with a wildcard behind them, if the match is to end at the limit. -/
theorem matchesAt_iff_evalAll_text_any
    (declared : sequence.patterns = .text literals casing :: rest)
    (own : ∀ pattern ∈ sequence.patterns, pattern.kind ≠ .custom)
    (limitBoundary : hay.isBoundary limit = true) {place : Nat}
    (boundary : hay.isBoundary place = true) (lt : place < limit) :
    sequence.MatchesAt hay limit place ↔ (Pattern.evalAll (.text literals casing ::
      (rest ++ [Pattern.any])) hay place limit .atLimit).run.isSuccess = true := by
  rw [matchesAt_iff_evalAll_text declared own limitBoundary boundary lt]
  rw [declared] at own
  have rank_eq := Pattern.rank_evalAll_append_any own hay place limit
  exact ⟨Outcome.isSuccess_of_rank_le (Nat.le_of_eq rank_eq.symm),
    Outcome.isSuccess_of_rank_le (Nat.le_of_eq rank_eq)⟩

/-- A wildcard in front stops where a search finds the sequence, and backtracks if it finds nothing;
what stands behind the text instead of the rest does not matter if the text with it succeeds where
the sequence matches. -/
theorem find?_cases_of_any {rest' : List (Pattern Id)} (scope : Scope)
    (nonempty : ∀ literal ∈ literals, literal ≠ [])
    (matches_iff : ∀ place, scope.haystack.isBoundary place = true → place < scope.limit →
      (sequence.MatchesAt scope.haystack scope.limit place ↔
        (Pattern.evalAll (.text literals casing :: rest') scope.haystack place scope.limit
          ending).run.isSuccess = true)) :
    (∃ place stop, (sequence.find? scope).run = some ⟨scope.haystack, place, stop⟩ ∧
      sequence.MatchesTo scope.haystack scope.limit place stop ∧
      (Pattern.evalAll (.text literals casing :: rest') scope.haystack place scope.limit
        ending).run.isSuccess = true ∧
      (Pattern.evalAll (.any :: .text literals casing :: rest') scope.haystack scope.first
        scope.limit ending).run =
        (Pattern.evalAll (.text literals casing :: rest') scope.haystack place scope.limit
          ending).run) ∨
    (sequence.find? scope).run = none ∧
      (Pattern.evalAll (.any :: .text literals casing :: rest') scope.haystack scope.first
        scope.limit ending).run = .backtrack := by
  have search := sequence.firstMatch_find? scope
  rcases Pattern.evalAll_any_text_cases nonempty scope.isBoundary_limit scope.isBoundary_first
      (Nat.min_le_right ..) matches_iff with ⟨place, isFirst, same⟩ | ⟨missing, same⟩
  · obtain ⟨stop, matches_⟩ := isFirst.holds
    have succeeds := (matches_iff place isFirst.boundary isFirst.lt).1 isFirst.holds
    refine .inl ⟨place, stop, search.unique ?_, matches_, succeeds, same⟩
    exact ⟨rfl, isFirst, matches_⟩
  · refine .inr ⟨search.unique ?_, same⟩
    exact missing

/-- The wildcard in front finds the end of the match that a search finds. -/
theorem eval_widened_iff (declared : sequence.patterns = .text literals casing :: rest)
    (declared' : widened.patterns = .any :: sequence.patterns)
    (own : ∀ pattern ∈ sequence.patterns, pattern.kind ≠ .custom)
    (nonempty : ∀ literal ∈ literals, literal ≠ []) (scope : Scope) :
    (∃ start, (sequence.find? scope).run = some ⟨scope.haystack, start, stop⟩) ↔
      (widened.eval scope.haystack scope.first scope.limit .anywhere).run = .success stop := by
  rw [eval_eq_evalAll, declared', declared]
  rcases find?_cases_of_any scope nonempty fun place boundary lt =>
      matchesAt_iff_evalAll_text declared own scope.isBoundary_limit boundary lt with
    ⟨place, stop', found, matches_, -, same⟩ | ⟨missing, same⟩
  · have outcome :
        (Pattern.evalAll (.text literals casing :: rest) scope.haystack place scope.limit
          .anywhere).run = .success stop' := declared ▸ matches_.evalAll_eq
    rw [same, outcome, found]
    constructor
    · rintro ⟨start, same_found⟩
      cases same_found
      rfl
    · intro same_outcome
      cases same_outcome
      exact ⟨place, rfl⟩
  · rw [same, missing]
    constructor
    · rintro ⟨start, same_found⟩
      cases same_found
    · intro same_outcome
      cases same_outcome

/-- What a search with the wildcard finds takes in all that stands before the match. -/
theorem find?_widened {found : Interval}
    (declared : sequence.patterns = .text literals casing :: rest)
    (declared' : widened.patterns = .any :: sequence.patterns)
    (own : ∀ pattern ∈ sequence.patterns, pattern.kind ≠ .custom)
    (nonempty : ∀ literal ∈ literals, literal ≠ []) {scope : Scope}
    (search : (sequence.find? scope).run = some found) :
    (widened.find? scope).run = some ⟨scope.haystack, scope.first, found.stop⟩ := by
  have first := sequence.firstMatch_find? scope
  rw [search] at first
  obtain ⟨hay, start, stop⟩ := found
  obtain ⟨rfl, isFirst, -, start_le, le_limit⟩ := first
  have outcome := (eval_widened_iff declared declared' own nonempty scope).1 ⟨start, search⟩
  have matches_ : widened.MatchesTo scope.haystack scope.limit scope.first stop :=
    ⟨outcome, Nat.le_trans isFirst.le start_le, le_limit⟩
  have lt : scope.first < scope.limit := Nat.lt_of_le_of_lt isFirst.le isFirst.lt
  refine (widened.firstMatch_find? scope).unique ?_
  exact ⟨rfl, .here scope.isBoundary_first lt ⟨stop, matches_⟩, matches_⟩

/-- With a wildcard on either side a sequence makes a match of the scope exactly if a search finds
it. -/
theorem isMatch_between_wildcards_iff (declared : sequence.patterns = .text literals casing :: rest)
    (declared' : both.patterns = .any :: (sequence.patterns ++ [.any]))
    (own : ∀ pattern ∈ sequence.patterns, pattern.kind ≠ .custom)
    (nonempty : ∀ literal ∈ literals, literal ≠ []) (scope : Scope) :
    (both.isMatch scope).run = true ↔ ∃ found, (sequence.find? scope).run = some found := by
  show (both.eval scope.haystack scope.first scope.limit .atLimit).run.isSuccess = true ↔ _
  rw [eval_eq_evalAll, declared', declared, List.cons_append]
  rcases find?_cases_of_any scope nonempty fun place boundary lt =>
      matchesAt_iff_evalAll_text_any declared own scope.isBoundary_limit boundary lt with
    ⟨place, stop, found, -, succeeds, same⟩ | ⟨missing, same⟩
  · rw [same]
    exact ⟨fun _ => ⟨_, found⟩, fun _ => succeeds⟩
  · rw [same, missing]
    constructor
    · intro succeeds
      cases succeeds
    · rintro ⟨found, same_found⟩
      cases same_found

end LeadingText

/-- **A wildcard in front does what a search does**: for patterns that begin with a text whose
literals are not empty, a search finds a match that ends at some place exactly if the patterns with
a wildcard in front, tried at the start of the scope, end there. What a search with the wildcard
finds then takes in all that stands before the match. With another wildcard behind them, where that
is allowed, the patterns match all of the scope exactly if there is a match in it. -/
theorem wildcard_scan_agrees (sequence : Sequence Id) {literals : List Text} {casing : Casing}
    {rest : List (Pattern Id)} (declared : sequence.patterns = .text literals casing :: rest)
    (own : ∀ pattern ∈ sequence.patterns, pattern.kind ≠ .custom)
    (nonempty : ∀ literal ∈ literals, literal ≠ []) :
    (∃ widened : Sequence Id, widened.patterns = .any :: sequence.patterns ∧
      (∀ scope stop,
        (∃ start, (sequence.find? scope).run = some ⟨scope.haystack, start, stop⟩) ↔
        (widened.eval scope.haystack scope.first scope.limit .anywhere).run = .success stop) ∧
      ∀ scope found, (sequence.find? scope).run = some found →
        (widened.find? scope).run = some ⟨scope.haystack, scope.first, found.stop⟩) ∧
    ((∀ pattern ∈ sequence.patterns, pattern.kind ≠ .finish) →
      (∀ last, sequence.patterns.getLast? = some last → last.kind ≠ .except) →
      ∃ both : Sequence Id, both.patterns = .any :: (sequence.patterns ++ [.any]) ∧
        ∀ scope, (both.isMatch scope).run = true ↔
          ∃ found, (sequence.find? scope).run = some found) := by
  have wellFormed := offence?_eq_none_iff_wellFormed.1 sequence.valid
  refine ⟨?_, fun unfinished last => ?_⟩
  · refine ⟨⟨_, offence?_eq_none_iff_wellFormed.2 wellFormed.any_cons⟩, rfl, ?_, ?_⟩
    · exact fun scope stop => eval_widened_iff declared rfl own nonempty scope
    · exact fun scope found => find?_widened declared rfl own nonempty
  · have wellFormed' := (wellFormed.append_any unfinished last).any_cons
    refine ⟨⟨_, offence?_eq_none_iff_wellFormed.2 wellFormed'⟩, rfl, ?_⟩
    exact isMatch_between_wildcards_iff declared rfl own nonempty

/-- An `a` and as many `b` as there are, in `xabby`: they are found from 1 to 4, so that the
wildcard in front ends there, too, and with a wildcard on either side there is a match of the
whole. -/
theorem wildcard_scan_agrees_letters :
    let hay : Haystack := { text := ['x', 'a', 'b', 'b', 'y'] }
    let sequence : Sequence Id := ⟨[.text [['a']] .exact, .repeated ['b'] .exact 1 3], rfl⟩
    (∃ widened : Sequence Id, widened.patterns = .any :: sequence.patterns ∧
      (widened.eval hay 0 5 .anywhere).run = .success 4 ∧
      (widened.find? (Scope.full hay)).run = some ⟨hay, 0, 4⟩) ∧
    ∃ both : Sequence Id, both.patterns = .any :: (sequence.patterns ++ [.any]) ∧
      (both.isMatch (Scope.full hay)).run = true := by
  intro hay sequence
  have found : (sequence.find? (Scope.full hay)).run = some ⟨hay, 1, 4⟩ := by decide +kernel
  have last : ∀ last, sequence.patterns.getLast? = some last → last.kind ≠ .except := by
    intro last at_end
    obtain rfl := Option.some_inj.1 at_end
    nofun
  obtain ⟨⟨widened, declared, ends_iff, wide⟩, more⟩ :=
    wildcard_scan_agrees sequence rfl (by decide) (by decide)
  obtain ⟨both, declared', matches_iff⟩ := more (by decide) last
  exact ⟨⟨widened, declared, (ends_iff (Scope.full hay) 4).1 ⟨1, found⟩, wide _ _ found⟩,
    both, declared', (matches_iff _).2 ⟨_, found⟩⟩

end Sequence

end PatternSearch
