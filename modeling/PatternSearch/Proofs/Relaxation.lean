import Mathlib.Data.List.Forall2
import PatternSearch.Proofs.FirstMatch
import PatternSearch.Proofs.Step

/-!
# Relaxing patterns

Outcomes are ordered by how much they leave possible: an abort is below a backtrack, which is below
every success. A list of patterns may be relaxed by more literals for a text, by fewer literals for
an `except`, and by an ending that need not be the limit; none of this moves an outcome down. It is
not enough that successes stay: a wildcard gives up at the first abort behind it, so that a
backtrack turned into an abort would hide a match further on. What each pattern has to keep is
therefore the whole order, wherever the rest may be tried.

- `Outcome.rank`: the order of outcomes.
- `Pattern.RelaxesTo`, `Ending.RelaxesTo`: the changes.
- `Haystack.rank_sweep_le`, `rank_firstSuccess_le`: raised attempts raise what a wildcard and a text
  come to.
- `Pattern.Raises`: a continuation that comes to no less than another one, wherever it is tried; a
  relaxed pattern in front keeps this (`Pattern.RelaxesTo.rank_eval_le`), and so do relaxed patterns
  (`Pattern.Raises.append`), or patterns before what succeeds in any case
  (`Pattern.rank_evalAll_append_le`).
- `Sequence.relaxing_raises_outcomes`: relaxed sequences succeed where the original did, and find a
  match that starts no later.
-/

namespace PatternSearch

variable {hay : Haystack} {start limit : Nat}

/-! ## The order of outcomes -/

/-- How much an outcome leaves possible. Where a success stops does not count. -/
def Outcome.rank : Outcome → Nat
  | .abort => 0
  | .backtrack => 1
  | .success _ => 2

namespace Outcome

variable {outcome outcome' : Outcome}

/-- No outcome is above a success. -/
theorem rank_le_success (outcome : Outcome) (stop : Nat) :
    outcome.rank ≤ (success stop).rank := by
  cases outcome <;> simp [rank]

/-- So none is above an outcome that is one. -/
theorem rank_le_of_isSuccess (outcome : Outcome) (succeeds : outcome'.isSuccess = true) :
    outcome.rank ≤ outcome'.rank := by
  cases outcome' with
  | success stop => exact rank_le_success outcome stop
  | abort | backtrack => cases succeeds

/-- What is not below a success is one. -/
theorem isSuccess_of_rank_le (le : outcome.rank ≤ outcome'.rank)
    (succeeds : outcome.isSuccess = true) : outcome'.isSuccess = true := by
  cases outcome with
  | abort | backtrack => cases succeeds
  | success stop =>
    cases outcome' with
    | abort | backtrack => simp [rank] at le
    | success stop' => rfl

end Outcome

/-! ## Alternatives and places -/

/-- Raised attempts raise what a sweep comes to. -/
theorem Haystack.rank_sweep_le {attempt attempt' : Nat → Id Outcome}
    (raises : ∀ pos, (attempt pos).run.rank ≤ (attempt' pos).run.rank) (pos : Nat) :
    (hay.sweep limit attempt pos).run.rank ≤ (hay.sweep limit attempt' pos).run.rank := by
  -- both walks take the same steps, so induction is on what is left of them
  induction distance : limit - pos using Nat.strongRecOn generalizing pos with
  | _ distance ih =>
    have raised := raises pos
    rw [run_sweep hay limit attempt, run_sweep hay limit attempt']
    cases outcome' : (attempt' pos).run with
    | success stop => exact Outcome.rank_le_success _ stop
    | abort =>
      -- nothing but an abort is as low as that
      rw [outcome'] at raised
      cases outcome : (attempt pos).run with
      | abort => exact Nat.le_refl _
      | backtrack | success => simp [outcome, Outcome.rank] at raised
    | backtrack =>
      rw [outcome'] at raised
      cases outcome : (attempt pos).run with
      | abort => exact Nat.zero_le _
      | success => simp [outcome, Outcome.rank] at raised
      | backtrack =>
        dsimp only
        split
        · next ahead => exact ih (limit - hay.next pos) (by omega) (hay.next pos) rfl
        · exact Nat.le_refl _

/-- Raised attempts at more alternatives raise what they come to. -/
theorem rank_firstSuccess_le {α : Type} {attempt attempt' : Nat → Id Outcome}
    {place? : α → Option Nat} {alternatives alternatives' : List α}
    (more : alternatives ⊆ alternatives')
    (raises : ∀ pos, (attempt pos).run.rank ≤ (attempt' pos).run.rank) :
    (firstSuccess attempt (alternatives.filterMap place?)).run.rank ≤
      (firstSuccess attempt' (alternatives'.filterMap place?)).run.rank := by
  rcases firstSuccess_cases attempt' place? alternatives' with
    ⟨-, -, place, -, -, succeeds', same', -⟩ | ⟨none', same'⟩
  · rw [same']
    exact Outcome.rank_le_of_isSuccess _ succeeds'
  · rw [same']
    rcases firstSuccess_cases attempt place? alternatives with
      ⟨index, alternative, place, at_index, leads, succeeds, -⟩ | ⟨-, same⟩
    · -- the alternative that succeeds is among the others, where none does
      have fails := none' alternative (more (List.mem_of_getElem? at_index)) place leads
      rw [Outcome.isSuccess_of_rank_le (raises place) succeeds] at fails
      cases fails
    · exact Nat.le_of_eq (congrArg Outcome.rank same)

/-! ## Patterns -/

/-- The ending is the same, or any place will do now. -/
def Ending.RelaxesTo (ending ending' : Ending) : Prop :=
  ending' = ending ∨ ending' = .anywhere

/-- The changes of one pattern that leave more possible; a pattern of the caller's own cannot be
changed or kept, as it may look at what follows it. -/
inductive Pattern.RelaxesTo : Pattern Id → Pattern Id → Prop where
  | same {pattern : Pattern Id} : pattern.kind ≠ .custom → RelaxesTo pattern pattern
  /-- More literals, put in at any place. -/
  | text {literals literals' : List Text} {casing : Casing} : literals ⊆ literals' →
    RelaxesTo (.text literals casing) (.text literals' casing)
  /-- Fewer literals. -/
  | except {literals literals' : List Text} {casing : Casing} : literals' ⊆ literals →
    RelaxesTo (.except literals casing) (.except literals' casing)

/-- An ending that is relaxed asks for no more. -/
theorem Ending.RelaxesTo.rank_outcome_le {ending ending' : Ending}
    (relaxes : ending.RelaxesTo ending') :
    (ending.outcome start limit).rank ≤ (ending'.outcome start limit).rank := by
  rcases relaxes with rfl | rfl
  · exact Nat.le_refl _
  · exact Outcome.rank_le_success _ start

namespace Pattern

/-- Continuations of which the second comes to no less, wherever it is tried. -/
structure Raises (hay : Haystack) (limit : Nat) (next next' : Continuation Id) : Prop where
  isLast_eq : next.isLast = next'.isLast
  rank_le : ∀ pos, (next.run hay pos limit).run.rank ≤ (next'.run hay pos limit).run.rank

variable {next next' : Continuation Id} {pattern pattern' : Pattern Id}

theorem rank_eval_text_le {literals literals' : List Text} (casing : Casing)
    (raises : Raises hay limit next next') (more : literals ⊆ literals') :
    ((text literals casing).eval hay start limit next).run.rank ≤
      ((text literals' casing).eval hay start limit next').run.rank :=
  rank_firstSuccess_le more raises.rank_le

/-- Where none of the literals stands, none of fewer literals does. -/
theorem rank_eval_except_le {literals literals' : List Text} (casing : Casing)
    (raises : Raises hay limit next next') (fewer : literals' ⊆ literals) :
    ((except literals casing).eval hay start limit next).run.rank ≤
      ((except literals' casing).eval hay start limit next').run.rank := by
  dsimp only [eval]
  by_cases stands :
      (literals.any fun literal => (hay.literalEnd? casing limit start literal).isSome) = true
  · rw [if_pos stands]
    exact Nat.zero_le _
  · have stands' : ¬ (literals'.any fun literal =>
        (hay.literalEnd? casing limit start literal).isSome) = true := by
      intro stands'
      obtain ⟨literal, member, ends⟩ := List.any_eq_true.1 stands'
      exact stands (List.any_eq_true.2 ⟨literal, fewer member, ends⟩)
    rw [if_neg stands, if_neg stands']
    exact raises.rank_le start

theorem rank_eval_repeated_le (literal : Text) (casing : Casing) (atLeast atMost : Nat)
    (raises : Raises hay limit next next') :
    ((repeated literal casing atLeast atMost).eval hay start limit next).run.rank ≤
      ((repeated literal casing atLeast atMost).eval hay start limit next').run.rank := by
  dsimp only [eval]
  split
  · exact raises.rank_le _
  · exact Nat.le_refl _

theorem rank_eval_any_le (raises : Raises hay limit next next') :
    (any.eval hay start limit next).run.rank ≤ (any.eval hay start limit next').run.rank := by
  dsimp only [eval]
  rw [raises.isLast_eq]
  split
  · exact Nat.le_refl _
  · exact Haystack.rank_sweep_le raises.rank_le start

/-- A relaxed pattern before what comes to no less comes to no less. -/
theorem RelaxesTo.rank_eval_le (relaxes : pattern.RelaxesTo pattern')
    (raises : Raises hay limit next next') :
    (pattern.eval hay start limit next).run.rank ≤
      (pattern'.eval hay start limit next').run.rank := by
  cases relaxes with
  | text more => exact rank_eval_text_le _ raises more
  | except fewer => exact rank_eval_except_le _ raises fewer
  | same own =>
    cases pattern with
    | limit | finish => exact Nat.le_refl _
    | any => exact rank_eval_any_le raises
    | text literals casing => exact rank_eval_text_le casing raises (List.Subset.refl literals)
    | except literals casing => exact rank_eval_except_le casing raises (List.Subset.refl literals)
    | repeated literal casing atLeast atMost =>
      exact rank_eval_repeated_le literal casing atLeast atMost raises
    | custom name logic => exact absurd rfl own

/-! ## Lists of patterns -/

variable {patterns patterns' tail tail' : List (Pattern Id)} {ending ending' : Ending}

/-- Relaxed patterns in front of patterns that come to no less come to no less. -/
theorem Raises.append (relaxed : List.Forall₂ RelaxesTo patterns patterns')
    (raises : Raises hay limit (continuation ending tail) (continuation ending' tail')) :
    Raises hay limit (continuation ending (patterns ++ tail))
      (continuation ending' (patterns' ++ tail')) := by
  -- induction on the patterns in front, over all the offsets where the rest may be tried
  induction relaxed with
  | nil => exact raises
  | cons relaxes _ ih =>
    exact ⟨rfl, fun pos => relaxes.rank_eval_le ih⟩

/-- Relaxed patterns come to no less. -/
theorem rank_evalAll_le (relaxed : List.Forall₂ RelaxesTo patterns patterns')
    (relaxes : ending.RelaxesTo ending') (start : Nat) :
    (evalAll patterns hay start limit ending).run.rank ≤
      (evalAll patterns' hay start limit ending').run.rank := by
  have none_left : Raises hay limit (continuation ending []) (continuation ending' []) :=
    ⟨rfl, fun pos => relaxes.rank_outcome_le⟩
  have raises := none_left.append relaxed
  rw [List.append_nil, List.append_nil] at raises
  exact raises.rank_le start

/-- So do unchanged patterns in front of what succeeds wherever it is tried. -/
theorem rank_evalAll_append_le (own : ∀ pattern ∈ patterns, pattern.kind ≠ .custom)
    (succeeds' : ∀ pos, (evalAll (pattern' :: tail') hay pos limit ending').run.isSuccess = true)
    (start : Nat) :
    (evalAll (patterns ++ pattern :: tail) hay start limit ending).run.rank ≤
      (evalAll (patterns ++ pattern' :: tail') hay start limit ending').run.rank := by
  have kept : List.Forall₂ RelaxesTo patterns patterns :=
    List.forall₂_same.2 fun pattern member => .same (own pattern member)
  have raises : Raises hay limit (continuation ending (pattern :: tail))
      (continuation ending' (pattern' :: tail')) :=
    ⟨rfl, fun pos => Outcome.rank_le_of_isSuccess _ (succeeds' pos)⟩
  exact (raises.append kept).rank_le start

/-! ## Sequences -/

/-- What a sequence asks of a pattern in its place is not changed. -/
theorem RelaxesTo.offence?_eq (relaxes : pattern.RelaxesTo pattern') (index : Nat)
    (previous : Option Kind) (isLast : Bool) :
    pattern.offence? index previous isLast = pattern'.offence? index previous isLast := by
  cases relaxes <;> rfl

theorem RelaxesTo.kind_eq (relaxes : pattern.RelaxesTo pattern') :
    pattern.kind = pattern'.kind := by
  cases relaxes <;> rfl

theorem RelaxesTo.own (relaxes : pattern.RelaxesTo pattern') : pattern.kind ≠ .custom := by
  cases relaxes with
  | same own => exact own
  | text _ | except _ => nofun

theorem firstOffence?_eq_of_relaxed (relaxed : List.Forall₂ RelaxesTo patterns patterns')
    (index : Nat) (previous : Option Kind) :
    firstOffence? index previous patterns = firstOffence? index previous patterns' := by
  induction relaxed generalizing index previous with
  | nil => rfl
  | @cons pattern pattern' rest rest' relaxes behind ih =>
    have isLast_eq : rest.isEmpty = rest'.isEmpty := by cases behind <;> rfl
    rw [firstOffence?, firstOffence?, relaxes.offence?_eq, relaxes.kind_eq, isLast_eq, ih]

/-- None of them is of a caller's own. -/
theorem own_of_relaxed (relaxed : List.Forall₂ RelaxesTo patterns patterns') :
    (∀ pattern ∈ patterns, pattern.kind ≠ .custom) ∧
      ∀ pattern ∈ patterns', pattern.kind ≠ .custom := by
  induction relaxed with
  | nil => exact ⟨nofun, nofun⟩
  | cons relaxes _ ih =>
    exact ⟨List.forall_mem_cons.2 ⟨relaxes.own, ih.1⟩,
      List.forall_mem_cons.2 ⟨relaxes.kind_eq ▸ relaxes.own, ih.2⟩⟩

end Pattern

namespace Sequence

variable {sequence : Sequence Id}

/-- Relaxed patterns are a sequence if the original ones are. -/
theorem offence?_eq_of_relaxed {patterns patterns' : List (Pattern Id)}
    (relaxed : List.Forall₂ Pattern.RelaxesTo patterns patterns') :
    offence? patterns = offence? patterns' := by
  have isEmpty_eq : patterns.isEmpty = patterns'.isEmpty := by cases relaxed <;> rfl
  rw [offence?, offence?, isEmpty_eq, Pattern.firstOffence?_eq_of_relaxed relaxed]

/-- A sequence of relaxed patterns comes to no less. -/
theorem rank_eval_le {sequence' : Sequence Id} {ending ending' : Ending}
    (relaxed : List.Forall₂ Pattern.RelaxesTo sequence.patterns sequence'.patterns)
    (relaxes : ending.RelaxesTo ending') (start : Nat) :
    (sequence.eval hay start limit ending).run.rank ≤
      (sequence'.eval hay start limit ending').run.rank := by
  rw [sequence.eval_eq_evalAll, sequence'.eval_eq_evalAll]
  exact Pattern.rank_evalAll_le relaxed relaxes start

/-- Without patterns of the caller's own, a sequence matches wherever it succeeds. -/
theorem matchesAt_iff_isSuccess (own : ∀ pattern ∈ sequence.patterns, pattern.kind ≠ .custom)
    (limitBoundary : hay.isBoundary limit = true) (boundary : hay.isBoundary start = true)
    (le : start ≤ limit) :
    sequence.MatchesAt hay limit start ↔
      (sequence.eval hay start limit .anywhere).run.isSuccess = true := by
  constructor
  · rintro ⟨stop, succeeds, -⟩
    rw [succeeds]
    rfl
  · intro succeeds
    cases outcome : (sequence.eval hay start limit .anywhere).run with
    | success stop =>
      refine ⟨stop, outcome, ?_⟩
      rw [eval_eq_evalAll] at outcome
      exact Pattern.bounds_of_success own limitBoundary boundary le outcome
    | abort | backtrack =>
      rw [outcome] at succeeds
      cases succeeds

/-- Where there is a match, a search from there or from before finds one that starts no later. -/
theorem FirstMatch.exists_of_matchesAt {pos : Nat} {answer : Option Interval}
    (first : sequence.FirstMatch hay limit pos answer) (boundary : hay.isBoundary start = true)
    (from_le : pos ≤ start) (lt : start < limit) (matches_ : sequence.MatchesAt hay limit start) :
    ∃ found, answer = some found ∧ found.start ≤ start := by
  cases answer with
  | none => exact absurd matches_ (first start boundary from_le lt)
  | some found =>
    refine ⟨found, rfl, Nat.le_of_not_lt fun before => ?_⟩
    exact first.isFirst.least start boundary from_le before matches_

/-- **Relaxing a sequence raises its outcomes**: more literals for a text, fewer for an `except`, or
an ending anywhere instead of at the limit, never turn a success into a failure or a backtrack into
an abort. So a sequence that matches a scope as a whole is found where the scope begins, and a
relaxed sequence is found wherever the original one is, with a start that is no later. -/
theorem relaxing_raises_outcomes (sequence : Sequence Id) {patterns' : List (Pattern Id)}
    (relaxed : List.Forall₂ Pattern.RelaxesTo sequence.patterns patterns') :
    ∃ sequence' : Sequence Id, sequence'.patterns = patterns' ∧
      (∀ hay start limit ending ending', ending.RelaxesTo ending' →
        (sequence.eval hay start limit ending).run.rank ≤
          (sequence'.eval hay start limit ending').run.rank) ∧
      (∀ scope, (sequence.isMatch scope).run = true → scope.first < scope.limit →
        ∃ found, (sequence.find? scope).run = some found ∧ found.start = scope.first) ∧
      ∀ scope found, (sequence.find? scope).run = some found →
        ∃ found', (sequence'.find? scope).run = some found' ∧ found'.start ≤ found.start := by
  obtain ⟨own, own'⟩ := Pattern.own_of_relaxed relaxed
  have kept : List.Forall₂ Pattern.RelaxesTo sequence.patterns sequence.patterns :=
    List.forall₂_same.2 fun pattern member => .same (own pattern member)
  obtain ⟨sequence', rfl⟩ : ∃ sequence' : Sequence Id, sequence'.patterns = patterns' :=
    ⟨⟨patterns', (offence?_eq_of_relaxed relaxed).symm.trans sequence.valid⟩, rfl⟩
  refine ⟨sequence', rfl, ?_, ?_, ?_⟩
  · intro hay start limit ending ending' relaxes
    exact rank_eval_le relaxed relaxes start
  · intro scope whole nonempty
    -- the match of the whole scope is one for a search, too
    have raised : (sequence.eval scope.haystack scope.first scope.limit .atLimit).run.rank ≤
        (sequence.eval scope.haystack scope.first scope.limit .anywhere).run.rank :=
      rank_eval_le kept (.inr rfl) scope.first
    have matches_ := (matchesAt_iff_isSuccess own scope.isBoundary_limit scope.isBoundary_first
      (Nat.le_of_lt nonempty)).2 (Outcome.isSuccess_of_rank_le raised whole)
    have first := sequence.firstMatch_find? scope
    obtain ⟨found, answer, le⟩ :=
      first.exists_of_matchesAt scope.isBoundary_first (Nat.le_refl _) nonempty matches_
    rw [answer] at first
    exact ⟨found, answer, Nat.le_antisymm le first.isFirst.le⟩
  · intro scope found answer
    have first := sequence.firstMatch_find? scope
    rw [answer] at first
    obtain ⟨-, isFirst, -⟩ := first
    have le := Nat.le_of_lt isFirst.lt
    have raised : (sequence.eval scope.haystack found.start scope.limit .anywhere).run.rank ≤
        (sequence'.eval scope.haystack found.start scope.limit .anywhere).run.rank :=
      rank_eval_le relaxed (.inl rfl) found.start
    have succeeds :=
      (matchesAt_iff_isSuccess own scope.isBoundary_limit isFirst.boundary le).1 isFirst.holds
    have matches' := (matchesAt_iff_isSuccess own' scope.isBoundary_limit isFirst.boundary le).2
      (Outcome.isSuccess_of_rank_le raised succeeds)
    exact (sequence'.firstMatch_find? scope).exists_of_matchesAt isFirst.boundary isFirst.le
      isFirst.lt matches'

/-- An `ab` with neither `c` nor `d` behind it is found at the end of `abcab`; an `a` or `ab`
without a `d` behind it is found no later. Where the first succeeds, the second does, and at the
first offset it succeeds where the first fails. The first two bytes alone match as a whole, so they
are found. -/
theorem relaxing_raises_outcomes_letters :
    let hay : Haystack := { text := ['a', 'b', 'c', 'a', 'b'] }
    let sequence : Sequence Id :=
      ⟨[.text [['a', 'b']] .exact, .except [['c'], ['d']] .exact], rfl⟩
    (sequence.isMatch (Scope.ofRange hay 0 2)).run = true ∧
    (∃ found, (sequence.find? (Scope.ofRange hay 0 2)).run = some found ∧ found.start = 0) ∧
    ∃ sequence' : Sequence Id,
      sequence'.patterns = [.text [['a'], ['a', 'b']] .exact, .except [['d']] .exact] ∧
      (sequence.eval hay 3 5 .atLimit).run = .success 5 ∧
      (sequence'.eval hay 3 5 .anywhere).run.isSuccess = true ∧
      (sequence.eval hay 0 5 .anywhere).run = .backtrack ∧
      (sequence'.eval hay 0 5 .anywhere).run = .success 1 ∧
      (sequence.find? (Scope.full hay)).run = some ⟨hay, 3, 5⟩ ∧
      ∃ found', (sequence'.find? (Scope.full hay)).run = some found' ∧ found'.start ≤ 3 := by
  intro hay sequence
  have relaxed : List.Forall₂ Pattern.RelaxesTo sequence.patterns
      [.text [['a'], ['a', 'b']] .exact, .except [['d']] .exact] :=
    .cons (.text (by decide)) (.cons (.except (by decide)) .nil)
  have whole : (sequence.isMatch (Scope.ofRange hay 0 2)).run = true := by decide +kernel
  have answer : (sequence.find? (Scope.full hay)).run = some ⟨hay, 3, 5⟩ := by decide +kernel
  have succeeds : (sequence.eval hay 3 5 .atLimit).run = .success 5 := by decide +kernel
  obtain ⟨sequence', same, raises, begins, finds⟩ := sequence.relaxing_raises_outcomes relaxed
  have raised := raises hay 3 5 .atLimit .anywhere (.inr rfl)
  rw [succeeds] at raised
  have rises : (sequence'.eval hay 0 5 .anywhere).run = .success 1 := by
    rw [sequence'.eval_eq_evalAll, same]
    decide +kernel
  exact ⟨whole, begins _ whole (by decide +kernel), sequence', same, succeeds,
    Outcome.isSuccess_of_rank_le raised rfl, by decide +kernel, rises, answer, finds _ _ answer⟩

end Sequence

end PatternSearch
