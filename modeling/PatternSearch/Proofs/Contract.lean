import PatternSearch.Proofs.Journal
import PatternSearch.Proofs.Session

/-!
# The contract of trying patterns

Whatever is tried between two boundaries may only report a boundary between them. Patterns hand
offsets on to what follows, and pass back what that reports; so the contract holds of a list of
patterns if each pattern keeps it in front of anything that does. Those of a caller's own have to,
the others do.

With the contract kept, a search has nothing to refuse: where it makes an attempt, a success is a
match. And it makes its attempts at boundaries of its scope only, the first time and behind every
match.

- `KeepsContract`: the contract. What hands on a boundary to something that keeps it keeps it
  (`KeepsContract.of_handsOn`), as do the patterns that are not of a caller's own
  (`Pattern.keepsContract_eval`).
- `Pattern.CustomsKeepContract`: so do those of a caller's own, which is asked of them in their
  places only. Then every end of the list keeps it (`CustomsKeepContract.keepsContract`).
- `Sequence.searchAfter`: the search that an iterator makes behind so many steps; all its attempts
  are at boundaries of the scope (`Sequence.notes_searchAfter`).
- `Sequence.evaluation_keeps_contract`: what is reported, and where patterns are tried in a search,
  as the journals of the search tell it.
-/

namespace PatternSearch

/-! ## The contract -/

/-- What is tried between two boundaries reports a boundary between them if it succeeds. -/
def KeepsContract (tried : Haystack → Nat → Nat → Id Outcome) : Prop :=
  ∀ hay start limit stop, hay.isBoundary start = true → hay.isBoundary limit = true →
    start ≤ limit → (tried hay start limit).run = .success stop →
    hay.isBoundary stop = true ∧ start ≤ stop ∧ stop ≤ limit

/-- An ending reports the place where it is asked for. -/
theorem Ending.keepsContract (ending : Ending) :
    KeepsContract (ending.continuation : Continuation Id).run := by
  intro hay start limit stop boundary _ le succeeds
  obtain rfl := ending.eq_of_outcome succeeds
  exact ⟨boundary, Nat.le_refl start, le⟩

/-- What ends a match where it is tried or at the limit, or else hands on a boundary in between and
passes back what that leads to, keeps the contract if that does. -/
theorem KeepsContract.of_handsOn {tried handed : Haystack → Nat → Nat → Id Outcome}
    (keeps : KeepsContract handed)
    (handsOn : ∀ hay start limit stop,
      hay.isBoundary start = true → hay.isBoundary limit = true → start ≤ limit →
      (tried hay start limit).run = .success stop →
      stop = start ∨ stop = limit ∨
        ∃ mid, hay.isBoundary mid = true ∧ start ≤ mid ∧ mid ≤ limit ∧
          (handed hay mid limit).run = .success stop) : KeepsContract tried := by
  intro hay start limit stop boundary limitBoundary le succeeds
  rcases handsOn hay start limit stop boundary limitBoundary le succeeds with
    rfl | rfl | ⟨mid, boundary', from_le, mid_le, succeeds'⟩
  · exact ⟨boundary, Nat.le_refl _, le⟩
  · exact ⟨limitBoundary, le, Nat.le_refl _⟩
  · obtain ⟨end_, mid_le_stop, le_limit⟩ :=
      keeps hay mid limit stop boundary' limitBoundary mid_le succeeds'
    exact ⟨end_, Nat.le_trans from_le mid_le_stop, le_limit⟩

namespace Pattern

variable {pattern : Pattern Id} {patterns : List (Pattern Id)} {next : Continuation Id}

/-- The patterns that are not of a caller's own keep the contract before what keeps it. -/
theorem keepsContract_eval (own : pattern.kind ≠ .custom) (keeps : KeepsContract next.run) :
    KeepsContract fun hay start limit => pattern.eval hay start limit next :=
  keeps.of_handsOn fun _ _ _ _ boundary limitBoundary le succeeds =>
    (success_cases own limitBoundary boundary le succeeds).imp_left And.right

/-- Each pattern of a caller's own in the list keeps the contract if what follows it does. -/
def CustomsKeepContract (patterns : List (Pattern Id)) : Prop :=
  ∀ ending pattern rest, pattern :: rest <:+ patterns → pattern.kind = .custom →
    KeepsContract (continuation ending rest).run →
    KeepsContract fun hay start limit => pattern.eval hay start limit (continuation ending rest)

/-- It is enough that they do so before anything that keeps it. -/
theorem CustomsKeepContract.of_forall
    (keep : ∀ pattern ∈ patterns, pattern.kind = .custom → ∀ next : Continuation Id,
      KeepsContract next.run →
        KeepsContract fun hay start limit => pattern.eval hay start limit next) :
    CustomsKeepContract patterns :=
  fun _ pattern rest suffix custom => keep pattern (suffix.subset (.head rest)) custom _

/-- Then every end of the list does, with either ending. -/
theorem CustomsKeepContract.keepsContract (customs : CustomsKeepContract patterns) (ending : Ending)
    {rest : List (Pattern Id)} (suffix : rest <:+ patterns) :
    KeepsContract (continuation ending rest).run := by
  induction rest with
  | nil => exact ending.keepsContract
  | cons pattern rest ih =>
    have keeps := ih ((List.suffix_cons pattern rest).trans suffix)
    by_cases own : pattern.kind = .custom
    · exact customs ending pattern rest suffix own keeps
    · exact keepsContract_eval own keeps

/-- In particular, those of a caller's own report boundaries. -/
theorem CustomsKeepContract.reportBoundaries (customs : CustomsKeepContract patterns)
    (hay : Haystack)
    {rest : List (Pattern Id)} (suffix : rest <:+ patterns) : ReportBoundaries hay rest := by
  induction rest with
  | nil => trivial
  | cons pattern rest ih =>
    refine ⟨fun _ start limit stop boundary limitBoundary le succeeds => ?_,
      ih ((List.suffix_cons pattern rest).trans suffix)⟩
    exact (customs.keepsContract .anywhere suffix hay start limit stop boundary limitBoundary le
      succeeds).1

end Pattern

/-! ## Where an iterator goes on -/

/-- Steps change nothing but the place where an iterator goes on. -/
theorem Matches.after_eq (state : Matches Id) (count : Nat) :
    state.after count = { state with pos := (state.after count).pos } := by
  induction count generalizing state with
  | zero => rfl
  | succ count ih =>
    rw [after]
    rcases state.next_cases with ⟨found, -, same⟩ | same
    · rw [same]
      exact ih { state with pos := found.resume }
    · rw [same]
      exact ih state

/-- An iterator that goes on at a boundary of its scope does so behind any number of steps. -/
theorem Iteration.Aligned.after {iteration : Iteration} (course : iteration.OnCourse)
    (aligned : iteration.Aligned) (count : Nat) :
    Iteration.OnCourse ⟨iteration.scope, iteration.state.after count⟩ ∧
      Iteration.Aligned ⟨iteration.scope, iteration.state.after count⟩ := by
  induction count generalizing iteration with
  | zero => exact ⟨course, aligned⟩
  | succ count ih => exact ih course.advance aligned.advance

/-- The search for the next match behind so many steps through the scope, with the patterns to be
tried given: behind none, it is the search of the scope. -/
def Sequence.searchAfter {m : Type → Type} [Monad m] (sequence : Sequence Id) (tried : Sequence m)
    (scope : Scope) (count : Nat) : m (Option Interval) :=
  tried.findFrom? sequence.lead? scope.haystack scope.limit
    ((sequence.matches scope).after count).pos

/-- It finds what the step hands out. -/
theorem Sequence.searchAfter_eq_next (sequence : Sequence Id) (scope : Scope) (count : Nat) :
    (sequence.searchAfter sequence scope count).run =
      ((sequence.matches scope).after count).next.run.1 := by
  rw [Matches.after_eq]
  cases answer : (sequence.searchAfter sequence scope count).run with
  | none => exact (congrArg Prod.fst (Matches.next_of_none answer)).symm
  | some found => exact (congrArg Prod.fst (Matches.next_of_some answer)).symm

/-- So the first step hands out what a search of the scope finds. -/
theorem Sequence.find?_eq_next (sequence : Sequence Id) (scope : Scope) :
    (sequence.find? scope).run = ((sequence.matches scope).after 0).next.run.1 :=
  sequence.searchAfter_eq_next scope 0

/-! ## Where patterns are tried -/

/-- The offset is one of the boundaries from the first to the last of the scope. -/
structure Scope.HasBoundary (scope : Scope) (pos : Nat) : Prop where
  isBoundary : scope.haystack.isBoundary pos = true
  first_le : scope.first ≤ pos
  le_limit : pos ≤ scope.limit

/-- An attempt at a boundary of the scope, where each success is a match. -/
structure Sequence.Attempt (sequence : Sequence Id) (scope : Scope) (start : Nat) : Prop extends
    scope.HasBoundary start where
  accepted :
    ∀ stop, (sequence.eval scope.haystack start scope.limit .anywhere).run = .success stop →
    (sequence.matchAt? scope.haystack scope.limit start).run =
      some ⟨scope.haystack, start, stop⟩

namespace Sequence

open Journal

variable {sequence : Sequence Id} {keeping : Sequence Journal} {P : Nat → Prop} {start : Nat}

/-- A sequence keeps the contract if its patterns of a caller's own do. -/
theorem keepsContract_eval (customs : Pattern.CustomsKeepContract sequence.patterns)
    (ending : Ending) :
    KeepsContract fun hay start limit => sequence.eval hay start limit ending := by
  rw [sequence.eval_eq_run]
  exact customs.keepsContract ending (List.suffix_refl _)

/-- Then it has its successes accepted. -/
theorem attempt_of_customs (customs : Pattern.CustomsKeepContract sequence.patterns) {scope : Scope}
    (boundary : scope.haystack.isBoundary start = true) (first_le : scope.first ≤ start)
    (lt : start < scope.limit) : sequence.Attempt scope start where
  isBoundary := boundary
  first_le := first_le
  le_limit := Nat.le_of_lt lt
  accepted stop succeeds := by
    obtain ⟨-, bounds⟩ := keepsContract_eval customs .anywhere scope.haystack start scope.limit
      stop boundary scope.isBoundary_limit (Nat.le_of_lt lt) succeeds
    exact matchAt?_eq_some_iff.2 ⟨rfl, rfl, succeeds, bounds⟩

/-- Every search of an iterator makes its attempts at boundaries of its scope, below the limit. -/
theorem notes_searchAfter (customs : Pattern.CustomsKeepContract sequence.patterns) (scope : Scope)
    (count : Nat)
    (notes : ∀ start, scope.haystack.isBoundary start = true → scope.first ≤ start →
      start < scope.limit → Notes P (keeping.eval scope.haystack start scope.limit .anywhere)
        (sequence.eval scope.haystack start scope.limit .anywhere).run) :
    Notes P (sequence.searchAfter keeping scope count)
      ((sequence.matches scope).after count).next.run.1 := by
  have reports : sequence.ReportsBoundaries := fun hay =>
    customs.reportBoundaries hay (List.suffix_refl sequence.patterns)
  obtain ⟨course, aligned⟩ := Iteration.Aligned.after (.started sequence scope _)
    (.started reports scope sequence.lead?) count
  have boundary := aligned.isBoundary_pos
  have first_le := course.first_le
  rw [course.haystack] at boundary
  rw [← searchAfter_eq_next]
  exact notes_findFrom? sequence.lead? scope.isBoundary_limit boundary
    fun start boundary' behind => notes start boundary' (Nat.le_trans first_le behind)

/-- **Trying patterns is compositional**: if each pattern of a caller's own keeps the contract in
front of what does, the sequence does with either ending, and so does every end of it. Then a search
of a scope, and every search that an iterator makes in it, makes its attempts at boundaries of the
scope and takes each success for a match. Without patterns of a caller's own, these searches and the
one for a match of the whole scope try every single pattern at boundaries of the scope only. -/
theorem evaluation_keeps_contract (sequence : Sequence Id)
    (customs : Pattern.CustomsKeepContract sequence.patterns) :
    (∀ ending, KeepsContract fun hay start limit => sequence.eval hay start limit ending) ∧
    (∀ ending rest, rest <:+ sequence.patterns →
      KeepsContract (Pattern.continuation ending rest).run) ∧
    (∀ scope,
      Notes (sequence.Attempt scope) (sequence.searchAfter sequence.watched scope 0)
        (sequence.find? scope).run ∧
      ∀ count, Notes (sequence.Attempt scope) (sequence.searchAfter sequence.watched scope count)
        ((sequence.matches scope).after count).next.run.1) ∧
    ((∀ pattern ∈ sequence.patterns, pattern.kind ≠ .custom) → ∀ scope,
      Notes scope.HasBoundary (sequence.noted.isMatch scope) (sequence.isMatch scope).run ∧
      Notes scope.HasBoundary (sequence.searchAfter sequence.noted scope 0)
        (sequence.find? scope).run ∧
      ∀ count, Notes scope.HasBoundary (sequence.searchAfter sequence.noted scope count)
        ((sequence.matches scope).after count).next.run.1) := by
  refine ⟨keepsContract_eval customs,
    fun ending rest => customs.keepsContract ending, fun scope => ?_, fun own scope => ?_⟩
  · have attempts : ∀ count, Notes (sequence.Attempt scope)
        (sequence.searchAfter sequence.watched scope count)
        ((sequence.matches scope).after count).next.run.1 := fun count =>
      notes_searchAfter customs scope count fun start boundary first_le lt =>
        sequence.notes_eval_watched (attempt_of_customs customs boundary first_le lt)
    rw [find?_eq_next]
    exact ⟨attempts 0, attempts⟩
  · have tries : ∀ start ending, scope.haystack.isBoundary start = true →
        scope.first ≤ start → start ≤ scope.limit →
        Notes scope.HasBoundary (sequence.noted.eval scope.haystack start scope.limit ending)
          (sequence.eval scope.haystack start scope.limit ending).run :=
      fun start ending boundary first_le le =>
        notes_eval_noted own scope.isBoundary_limit boundary le fun pos boundary' behind le' =>
          ⟨boundary', Nat.le_trans first_le behind, le'⟩
    have searches : ∀ count, Notes scope.HasBoundary
        (sequence.searchAfter sequence.noted scope count)
        ((sequence.matches scope).after count).next.run.1 := fun count =>
      notes_searchAfter customs scope count fun start boundary first_le lt =>
        tries start .anywhere boundary first_le (Nat.le_of_lt lt)
    refine ⟨notes_isMatch ?_, ?_, searches⟩
    · exact tries scope.first .atLimit scope.isBoundary_first (Nat.le_refl _) (Nat.min_le_right ..)
    · rw [find?_eq_next]
      exact searches 0

/-- In `xaéa`, an `a` and one more character of any kind, which is a pattern of a caller's own, are
looked for at the first `a` only; an `a` and a gap up to an `a` are tried at boundaries, the gap at
two of them. -/
theorem evaluation_keeps_contract_letters :
    let hay : Haystack := { text := ['x', 'a', 'é', 'a'] }
    let step : Pattern Id := .custom "step" fun hay start limit next =>
      if start < limit then next.run hay (hay.next start) limit else pure .backtrack
    let sequence : Sequence Id := ⟨[.text [['a']] .exact, step], rfl⟩
    let plain : Sequence Id := ⟨[.text [['a']] .exact, .any, .text [['a']] .exact], rfl⟩
    (((sequence.searchAfter sequence.watched (Scope.full hay) 0).run []).run =
        (some ⟨hay, 1, 4⟩, [1]) ∧ sequence.Attempt (Scope.full hay) 1) ∧
      ((plain.searchAfter plain.noted (Scope.full hay) 0).run []).run =
        (some ⟨hay, 1, 5⟩, [1, 2, 2, 4]) ∧
      ∀ pos ∈ [1, 2, 2, 4], (Scope.full hay).HasBoundary pos := by
  intro hay step sequence plain
  have step_keeps : ∀ next : Continuation Id, KeepsContract next.run →
      KeepsContract fun hay start limit => step.eval hay start limit next := by
    intro next keeps
    refine keeps.of_handsOn fun hay start limit stop boundary limitBoundary _ succeeds => ?_
    dsimp only [step, Pattern.eval] at succeeds
    split at succeeds
    · next lt =>
      have ahead := Haystack.lt_next_of_lt limitBoundary lt
      exact .inr (.inr ⟨hay.next start, hay.isBoundary_next start, Nat.le_of_lt ahead,
        Haystack.next_le_of_lt boundary limitBoundary lt, succeeds⟩)
    · cases succeeds
  have customs : Pattern.CustomsKeepContract sequence.patterns := .of_forall
    (List.forall_mem_cons.2 ⟨nofun, List.forall_mem_singleton.2 fun _ => step_keeps⟩)
  have own : ∀ pattern ∈ plain.patterns, pattern.kind ≠ .custom := by decide
  have customs' : Pattern.CustomsKeepContract plain.patterns :=
    .of_forall fun pattern member custom => absurd custom (own pattern member)
  have journal : ((sequence.searchAfter sequence.watched (Scope.full hay) 0).run []).run =
      (some ⟨hay, 1, 4⟩, [1]) := by decide +kernel
  have journal' : ((plain.searchAfter plain.noted (Scope.full hay) 0).run []).run =
      (some ⟨hay, 1, 5⟩, [1, 2, 2, 4]) := by decide +kernel
  obtain ⟨-, -, attempts, -⟩ := evaluation_keeps_contract sequence customs
  obtain ⟨-, -, -, tries⟩ := evaluation_keeps_contract plain customs'
  obtain ⟨entries, same, all⟩ := (attempts (Scope.full hay)).1 []
  obtain ⟨entries', same', all'⟩ := (tries own (Scope.full hay)).2.1 []
  rw [journal, List.nil_append] at same
  rw [journal', List.nil_append] at same'
  obtain ⟨-, rfl⟩ := Prod.mk.inj same
  obtain ⟨-, rfl⟩ := Prod.mk.inj same'
  exact ⟨⟨journal, all 1 (.head _)⟩, journal', all'⟩

end Sequence

end PatternSearch
