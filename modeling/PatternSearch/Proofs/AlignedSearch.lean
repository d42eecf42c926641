import PatternSearch.Proofs.Alignment
import PatternSearch.Proofs.Enumeration

/-!
# Searching two texts in step

Sequences of patterns that are alike, searched in two stretches of text whose boundaries correspond,
give corresponding answers. What a search answers is known without its steps, so no step of the two
searches is compared here: each may have a lead of its own and skip what it likes.

- `Alignment.Found`: two matches that correspond.
- `Alignment.firstMatch_of_rel`: the first matches from corresponding offsets on correspond.
- `Alignment.enumerates_of_rel`: so do the lists of all matches.
-/

namespace PatternSearch

namespace Alignment

variable {alignment : Alignment} {sequence sequence' : Sequence Id} {pos pos' : Nat}

/-- Matches that correspond, one in each of the haystacks. -/
structure Found (alignment : Alignment) (found found' : Interval) : Prop where
  haystack : found.haystack = alignment.hay
  haystack' : found'.haystack = alignment.hay'
  start : alignment.Rel found.start found'.start
  stop : alignment.Rel found.stop found'.stop

theorem SameEnds.symm {casing : Casing} {literal literal' : Text}
    (same : alignment.SameEnds casing literal literal') :
    alignment.symm.SameEnds casing literal' literal := by
  intro pos' pos rel
  have ends := same pos pos' rel
  show Option.Rel (fun a b => alignment.Rel b a)
    (alignment.hay'.literalEnd? casing alignment.limit' pos' literal')
    (alignment.hay.literalEnd? casing alignment.limit pos literal)
  generalize alignment.hay.literalEnd? casing alignment.limit pos literal = found at ends ⊢
  generalize alignment.hay'.literalEnd? casing alignment.limit' pos' literal' = found' at ends ⊢
  cases ends with
  | none => exact .none
  | some related => exact .some related

theorem Alike.symm {pattern pattern' : Pattern Id} (alike : alignment.Alike pattern pattern') :
    alignment.symm.Alike pattern' pattern := by
  have flipped : ∀ {casing : Casing} {literals literals' : List Text},
      List.Forall₂ (alignment.SameEnds casing) literals literals' →
      List.Forall₂ (alignment.symm.SameEnds casing) literals' literals := by
    intro casing literals literals' alike
    exact (alike.imp fun _ _ same => same.symm).flip
  cases alike with
  | limit => exact .limit
  | finish => exact .finish
  | any => exact .any
  | text alike => exact .text (flipped alike)
  | except alike => exact .except (flipped alike)
  | repeated same => exact .repeated same.symm

/-! ## One match -/

/-- Sequences of patterns that are alike come to corresponding outcomes. -/
theorem outcomes_eval (alike : List.Forall₂ alignment.Alike sequence.patterns sequence'.patterns)
    (ending : Ending) (rel : alignment.Rel pos pos') :
    (sequence.eval alignment.hay pos alignment.limit ending).run.Aligned alignment.Rel
      (sequence'.eval alignment.hay' pos' alignment.limit' ending).run := by
  rw [sequence.eval_eq_evalAll, sequence'.eval_eq_evalAll]
  exact outcomes_evalAll alike ending rel

/-- Where one sequence matches, the other one does, too, to the corresponding end. -/
theorem matchesTo_of_rel {start start' stop : Nat}
    (alike : List.Forall₂ alignment.Alike sequence.patterns sequence'.patterns)
    (rel : alignment.Rel start start')
    (matches_ : sequence.MatchesTo alignment.hay alignment.limit start stop) :
    ∃ stop', alignment.Rel stop stop' ∧
      sequence'.MatchesTo alignment.hay' alignment.limit' start' stop' := by
  obtain ⟨succeeds, le, -⟩ := matches_
  have aligned := outcomes_eval alike .anywhere rel
  generalize outcome : (sequence.eval alignment.hay start alignment.limit .anywhere).run = answer
    at aligned
  generalize outcome' : (sequence'.eval alignment.hay' start' alignment.limit' .anywhere).run =
    answer' at aligned
  obtain rfl : answer = .success stop := outcome.symm.trans succeeds
  cases aligned with
  | @success _ stop' related =>
    exact ⟨stop', related, outcome', (alignment.le_iff rel related).1 le,
      alignment.le_limit' related⟩

/-- Where one sequence matches nowhere, neither does the other one. -/
theorem noneBelow_of_rel {stop stop' : Nat}
    (alike : List.Forall₂ alignment.Alike sequence.patterns sequence'.patterns)
    (rel : alignment.Rel pos pos') (rel_stop : alignment.Rel stop stop')
    (none : alignment.hay.NoneBelow pos stop
      (sequence.MatchesAt alignment.hay alignment.limit)) :
    alignment.hay'.NoneBelow pos' stop'
      (sequence'.MatchesAt alignment.hay' alignment.limit') := by
  rintro start' boundary' from_le' lt' ⟨end', matches'⟩
  have le_limit' : start' ≤ alignment.limit' :=
    Nat.le_trans (Nat.le_of_lt lt') (alignment.le_limit' rel_stop)
  obtain ⟨start, related⟩ := alignment.total' rel boundary' from_le' le_limit'
  have alike' : List.Forall₂ alignment.symm.Alike sequence'.patterns sequence.patterns :=
    (alike.imp fun _ _ head => head.symm).flip
  obtain ⟨stop, -, matches_⟩ := matchesTo_of_rel alike' related matches'
  exact none start (alignment.isBoundary related) ((alignment.le_iff rel related).2 from_le')
    ((lt_iff related rel_stop).2 lt') ⟨stop, matches_⟩

/-- The first matches from corresponding offsets on correspond. -/
theorem firstMatch_of_rel {answer : Option Interval}
    (alike : List.Forall₂ alignment.Alike sequence.patterns sequence'.patterns)
    (rel : alignment.Rel pos pos')
    (first : sequence.FirstMatch alignment.hay alignment.limit pos answer) :
    ∃ answer', Option.Rel alignment.Found answer answer' ∧
      sequence'.FirstMatch alignment.hay' alignment.limit' pos' answer' := by
  cases answer with
  | none => exact ⟨none, .none, noneBelow_of_rel alike rel alignment.rel_limit first⟩
  | some found =>
    obtain ⟨haystack, isFirst, matches_⟩ := first
    have from_le := isFirst.le
    obtain ⟨start', rel_start⟩ :=
      alignment.total rel isFirst.boundary from_le (Nat.le_of_lt isFirst.lt)
    obtain ⟨stop', rel_stop, matches'⟩ := matchesTo_of_rel alike rel_start matches_
    refine ⟨some ⟨alignment.hay', start', stop'⟩,
      .some ⟨haystack, rfl, rel_start, rel_stop⟩, rfl, ?_, matches'⟩
    exact {
      boundary := alignment.isBoundary' rel_start
      le := (alignment.le_iff rel rel_start).1 from_le
      lt := (lt_iff rel_start alignment.rel_limit).1 isFirst.lt
      holds := ⟨stop', matches'⟩
      least := noneBelow_of_rel alike rel rel_start isFirst.noneBelow }

/-! ## All matches -/

/-- Behind matches that correspond, the searches go on at corresponding offsets. -/
theorem Found.rel_resume {found found' : Interval} (same : alignment.Found found found')
    (lt : found.start < alignment.limit) : alignment.Rel found.resume found'.resume := by
  obtain ⟨haystack, haystack', rel_start, rel_stop⟩ := same
  unfold Interval.resume
  by_cases nonempty : found.start < found.stop
  · rw [if_pos nonempty, if_pos ((lt_iff rel_start rel_stop).1 nonempty)]
    exact rel_stop
  · rw [if_neg nonempty,
      if_neg fun nonempty' => nonempty ((lt_iff rel_start rel_stop).2 nonempty'),
      haystack, haystack']
    exact rel_next rel_start lt

/-- The matches from corresponding offsets on correspond, one by one. -/
theorem enumerates_of_rel {list : List Interval}
    (alike : List.Forall₂ alignment.Alike sequence.patterns sequence'.patterns)
    (rel : alignment.Rel pos pos')
    (enumerates : sequence.Enumerates alignment.hay alignment.limit pos list) :
    ∃ list', List.Forall₂ alignment.Found list list' ∧
      sequence'.Enumerates alignment.hay' alignment.limit' pos' list' := by
  induction enumerates generalizing pos' with
  | done missing =>
    obtain ⟨_, same, missing'⟩ := firstMatch_of_rel alike rel missing
    cases same
    exact ⟨[], .nil, .done missing'⟩
  | more first rest ih =>
    obtain ⟨_, same, first'⟩ := firstMatch_of_rel alike rel first
    cases same with
    | @some _ found' same =>
      obtain ⟨list', tail, rest'⟩ := ih (same.rel_resume first.isFirst.lt)
      exact ⟨found' :: list', .cons same tail, .more first' rest'⟩

end Alignment

end PatternSearch
