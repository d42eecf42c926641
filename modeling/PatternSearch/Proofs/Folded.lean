import PatternSearch.Proofs.AlignedSearch
import PatternSearch.Proofs.CharIndex
import PatternSearch.Search.Between

/-!
# Searching folded texts

Patterns that fold letter case see the folded forms of the text and of their literals, and nothing
else. Two texts with one folded form have as many characters, which may differ in size; so all that
a search answers is the same when offsets are counted in characters.

- `Haystack.SameIndex`: offsets in two haystacks behind the same number of characters.
- `Pattern.SameFolded`: patterns that differ at most in literals of one folded form.
- `Alignment.ofFolded`: the boundaries of two texts with one folded form correspond, by their
  indices.
- `Scope.SameChars`: scopes that are searched between the same indices, such as the whole texts
  (`Scope.sameChars_full`) or parts between the same indices (`Scope.sameChars_ofRange`).
- `Sequence.search_folded`: the answers of all searches correspond.
-/

namespace PatternSearch

variable {hay hay' : Haystack} {pos pos' : Nat}

/-! ## The same characters -/

/-- The offsets are boundaries behind the same number of characters. -/
def Haystack.SameIndex (hay hay' : Haystack) (pos pos' : Nat) : Prop :=
  ∃ index ≤ hay.text.length, pos = hay.boundaryAt index ∧ pos' = hay'.boundaryAt index

/-- Texts with one folded form are equally long. -/
theorem Text.length_eq_of_fold {t t' : Text} (folded : fold t = fold t') :
    t.length = t'.length := by
  have := congrArg List.length folded
  rwa [fold, fold, List.length_map, List.length_map] at this

namespace Haystack.SameIndex

variable {other other' : Nat}

theorem isBoundary (same : hay.SameIndex hay' pos pos') : hay.isBoundary pos = true := by
  obtain ⟨index, -, rfl, -⟩ := same
  exact hay.isBoundary_boundaryAt index

theorem isBoundary' (same : hay.SameIndex hay' pos pos') : hay'.isBoundary pos' = true := by
  obtain ⟨index, -, -, rfl⟩ := same
  exact hay'.isBoundary_boundaryAt index

/-- The order of offsets is that of their indices, so it is the same in both texts. -/
theorem le_iff (folded : Text.fold hay.text = Text.fold hay'.text)
    (same : hay.SameIndex hay' pos pos') (same' : hay.SameIndex hay' other other') :
    pos ≤ other ↔ pos' ≤ other' := by
  obtain ⟨index, inside, rfl, rfl⟩ := same
  obtain ⟨further, -, rfl, rfl⟩ := same'
  rw [boundaryAt_le_iff inside, boundaryAt_le_iff (Text.length_eq_of_fold folded ▸ inside)]

theorem min (folded : Text.fold hay.text = Text.fold hay'.text)
    (same : hay.SameIndex hay' pos pos') (same' : hay.SameIndex hay' other other') :
    hay.SameIndex hay' (Min.min pos other) (Min.min pos' other') := by
  have le_iff := same.le_iff folded same'
  by_cases le : pos ≤ other
  · rwa [Nat.min_eq_left le, Nat.min_eq_left (le_iff.1 le)]
  · rwa [Nat.min_eq_right (by omega), Nat.min_eq_right (by omega)]

theorem max (folded : Text.fold hay.text = Text.fold hay'.text)
    (same : hay.SameIndex hay' pos pos') (same' : hay.SameIndex hay' other other') :
    hay.SameIndex hay' (Max.max pos other) (Max.max pos' other') := by
  have le_iff := same.le_iff folded same'
  by_cases le : pos ≤ other
  · rwa [Nat.max_eq_right le, Nat.max_eq_right (le_iff.1 le)]
  · rwa [Nat.max_eq_left (by omega), Nat.max_eq_left (by omega)]

end Haystack.SameIndex

/-- The ends of the texts correspond. -/
theorem Haystack.sameIndex_size (folded : Text.fold hay.text = Text.fold hay'.text) :
    hay.SameIndex hay' hay.size hay'.size := by
  refine ⟨hay.text.length, Nat.le_refl _, hay.boundaryAt_length.symm, ?_⟩
  rw [Text.length_eq_of_fold folded, boundaryAt_length]

/-- Patterns that fold letter case, if they have literals, and differ at most in literals of one
folded form. -/
inductive Pattern.SameFolded : Pattern Id → Pattern Id → Prop where
  | limit : SameFolded .limit .limit
  | finish : SameFolded .finish .finish
  | any : SameFolded .any .any
  | text {literals literals' : List Text} :
    literals.map Text.fold = literals'.map Text.fold →
    SameFolded (.text literals .folded) (.text literals' .folded)
  | except {literals literals' : List Text} :
    literals.map Text.fold = literals'.map Text.fold →
    SameFolded (.except literals .folded) (.except literals' .folded)
  | repeated {literal literal' : Text} {atLeast atMost : Nat} :
    Text.fold literal = Text.fold literal' →
    SameFolded (.repeated literal .folded atLeast atMost)
      (.repeated literal' .folded atLeast atMost)

/-- None of them is of a caller's own, so that all ends they report are boundaries. -/
theorem Pattern.reportBoundaries_of_sameFolded {patterns patterns' : List (Pattern Id)}
    (same : List.Forall₂ SameFolded patterns patterns') :
    ReportBoundaries hay patterns ∧ ReportBoundaries hay' patterns' := by
  induction same with
  | nil => exact ⟨trivial, trivial⟩
  | cons head _ ih => cases head <;> exact ⟨⟨nofun, ih.1⟩, ⟨nofun, ih.2⟩⟩

/-! ## Texts with one folded form -/

/-- The boundaries of two texts with one folded form correspond by their indices, up to a last
one. -/
def Alignment.ofFolded (hay hay' : Haystack) (folded : Text.fold hay.text = Text.fold hay'.text)
    (last : Nat) (inside : last ≤ hay.text.length) : Alignment where
  hay := hay
  hay' := hay'
  limit := hay.boundaryAt last
  limit' := hay'.boundaryAt last
  Rel pos pos' := ∃ index ≤ last, pos = hay.boundaryAt index ∧ pos' = hay'.boundaryAt index
  isBoundary := by
    rintro pos pos' ⟨index, -, rfl, -⟩
    exact hay.isBoundary_boundaryAt index
  isBoundary' := by
    rintro pos pos' ⟨index, -, -, rfl⟩
    exact hay'.isBoundary_boundaryAt index
  le_limit := by
    rintro pos pos' ⟨index, le, rfl, -⟩
    exact (Haystack.boundaryAt_le_iff (Nat.le_trans le inside)).2 le
  le_limit' := by
    rintro pos pos' ⟨index, le, -, rfl⟩
    rw [Text.length_eq_of_fold folded] at inside
    exact (Haystack.boundaryAt_le_iff (Nat.le_trans le inside)).2 le
  rel_limit := ⟨last, Nat.le_refl last, rfl, rfl⟩
  le_iff := by
    rintro pos pos' other other' ⟨index, le, at_index⟩ ⟨further, le', at_further⟩
    exact Haystack.SameIndex.le_iff folded ⟨index, Nat.le_trans le inside, at_index⟩
      ⟨further, Nat.le_trans le' inside, at_further⟩
  total := by
    intro first first' pos _ boundary _ le
    obtain ⟨index, within, rfl⟩ := Haystack.exists_boundaryAt boundary
    exact ⟨_, index, (Haystack.boundaryAt_le_iff within).1 le, rfl, rfl⟩
  total' := by
    intro first first' pos' _ boundary _ le
    obtain ⟨index, within, rfl⟩ := Haystack.exists_boundaryAt boundary
    exact ⟨_, index, (Haystack.boundaryAt_le_iff within).1 le, rfl, rfl⟩

section Folded

variable {folded : Text.fold hay.text = Text.fold hay'.text} {last : Nat}
  {inside : last ≤ hay.text.length}

/-- Boundaries that correspond have the same index. -/
theorem Alignment.sameIndex_of_rel (rel : (ofFolded hay hay' folded last inside).Rel pos pos') :
    hay.SameIndex hay' pos pos' := by
  obtain ⟨index, le, at_index⟩ := rel
  exact ⟨index, Nat.le_trans le inside, at_index⟩

/-- Literals of one folded form stand at corresponding places. -/
theorem Alignment.sameEnds_ofFolded {literal literal' : Text}
    (same : Text.fold literal = Text.fold literal') :
    (ofFolded hay hay' folded last inside).SameEnds .folded literal literal' := by
  rintro pos pos' ⟨index, le, rfl, rfl⟩
  have within : index ≤ hay.text.length := Nat.le_trans le inside
  have within' : index ≤ hay'.text.length := Text.length_eq_of_fold folded ▸ within
  show Option.Rel _ (hay.literalEnd? .folded (hay.boundaryAt last) (hay.boundaryAt index) literal)
    (hay'.literalEnd? .folded (hay'.boundaryAt last) (hay'.boundaryAt index) literal')
  rw [Haystack.literalEnd?_boundaryAt within, Haystack.literalEnd?_boundaryAt within']
  -- the two questions are one: the keys are the folded forms
  show Option.Rel _
    (if ((Text.fold hay.text).drop index).take literal.length = Text.fold literal ∧
      index + literal.length ≤ last then _ else _)
    (if ((Text.fold hay'.text).drop index).take literal'.length = Text.fold literal' ∧
      index + literal'.length ≤ last then _ else _)
  rw [folded, same, Text.length_eq_of_fold same]
  split
  · next fits => exact .some ⟨index + literal'.length, fits.2, rfl, rfl⟩
  · exact .none

/-- Patterns that fold letter case are alike in such texts. -/
theorem Alignment.alike_ofFolded {pattern pattern' : Pattern Id}
    (same : Pattern.SameFolded pattern pattern') :
    (ofFolded hay hay' folded last inside).Alike pattern pattern' := by
  have each : ∀ {literals literals' : List Text},
      literals.map Text.fold = literals'.map Text.fold →
      List.Forall₂ ((ofFolded hay hay' folded last inside).SameEnds .folded) literals
        literals' := by
    intro literals literals' same
    rw [← List.forall₂_eq_eq_eq, List.forall₂_map_left_iff,
      List.forall₂_map_right_iff] at same
    exact same.imp fun _ _ => sameEnds_ofFolded
  cases same with
  | limit => exact .limit
  | finish => exact .finish
  | any => exact .any
  | text same => exact .text (each same)
  | except same => exact .except (each same)
  | repeated same => exact .repeated (sameEnds_ofFolded same)

end Folded

/-! ## Scopes and intervals -/

/-- Intervals of two haystacks whose ends stand behind the same numbers of characters. -/
structure Interval.SameChars (hay hay' : Haystack) (interval interval' : Interval) : Prop where
  haystack : interval.haystack = hay
  haystack' : interval'.haystack = hay'
  start : hay.SameIndex hay' interval.start interval'.start
  stop : hay.SameIndex hay' interval.stop interval'.stop

/-- Scopes of two haystacks that are searched between the same indices. -/
structure Scope.SameChars (hay hay' : Haystack) (scope scope' : Scope) : Prop where
  haystack : scope.haystack = hay
  haystack' : scope'.haystack = hay'
  first : hay.SameIndex hay' scope.first scope'.first
  limit : hay.SameIndex hay' scope.limit scope'.limit

namespace Scope

/-- Texts with one folded form are searched between the same indices as a whole. -/
theorem sameChars_full (folded : Text.fold hay.text = Text.fold hay'.text) :
    SameChars hay hay' (full hay) (full hay') where
  haystack := rfl
  haystack' := rfl
  first := by
    rw [first_full, first_full]
    exact ⟨0, Nat.zero_le _, hay.boundaryAt_zero.symm, hay'.boundaryAt_zero.symm⟩
  limit := by
    rw [limit_full, limit_full]
    exact Haystack.sameIndex_size folded

/-- They are so from one index to another one, too, even if that is the smaller one. -/
theorem sameChars_ofRange {start start' stop stop' : Nat}
    (folded : Text.fold hay.text = Text.fold hay'.text)
    (same : hay.SameIndex hay' start start') (same' : hay.SameIndex hay' stop stop') :
    SameChars hay hay' (ofRange hay start stop) (ofRange hay' start' stop') where
  haystack := rfl
  haystack' := rfl
  first := by
    rw [first_ofRange_eq_min same.isBoundary same'.isBoundary,
      first_ofRange_eq_min same.isBoundary' same'.isBoundary']
    exact same.min folded same'
  limit := by
    rwa [limit_ofRange same'.isBoundary, limit_ofRange same'.isBoundary']

/-- The boundaries of the scopes correspond up to their limits. -/
theorem SameChars.exists_rel {scope scope' : Scope} (same : SameChars hay hay' scope scope')
    (folded : Text.fold hay.text = Text.fold hay'.text) :
    ∃ (last : Nat) (inside : last ≤ hay.text.length),
      scope.limit = hay.boundaryAt last ∧ scope'.limit = hay'.boundaryAt last ∧
      (Alignment.ofFolded hay hay' folded last inside).Rel scope.first scope'.first := by
  obtain ⟨index, within, at_index, at_index'⟩ := same.first
  obtain ⟨last, inside, at_last, at_last'⟩ := same.limit
  have le : scope.first ≤ scope.limit := Nat.min_le_right ..
  rw [at_index, at_last, Haystack.boundaryAt_le_iff within] at le
  exact ⟨last, inside, at_last, at_last', index, le, at_index, at_index'⟩

end Scope

/-! ## Searching such texts -/

/-- Outcomes that correspond do so in any wider sense. -/
theorem Outcome.Aligned.imp {rel rel' : Nat → Nat → Prop} {outcome outcome' : Outcome}
    (implies : ∀ pos pos', rel pos pos' → rel' pos pos')
    (aligned : outcome.Aligned rel outcome') :
    outcome.Aligned rel' outcome' := by
  cases aligned with
  | abort => exact .abort
  | backtrack => exact .backtrack
  | success related => exact .success (implies _ _ related)

section Search

variable {sequence sequence' : Sequence Id} {scope scope' : Scope}

/-- Matches that correspond have the same indices. -/
theorem Alignment.Found.sameChars {folded : Text.fold hay.text = Text.fold hay'.text} {last : Nat}
    {inside : last ≤ hay.text.length} {found found' : Interval}
    (same : (ofFolded hay hay' folded last inside).Found found found') :
    Interval.SameChars hay hay' found found' :=
  ⟨same.haystack, same.haystack', sameIndex_of_rel same.start, sameIndex_of_rel same.stop⟩

namespace Scope.SameChars

/-- Two such sequences match the same scopes. -/
theorem isMatch_eq (folded : Text.fold hay.text = Text.fold hay'.text)
    (patterns : List.Forall₂ Pattern.SameFolded sequence.patterns sequence'.patterns)
    (same : SameChars hay hay' scope scope') :
    (sequence.isMatch scope).run = (sequence'.isMatch scope').run := by
  obtain ⟨last, inside, limit, limit', rel⟩ := same.exists_rel folded
  obtain ⟨rfl, rfl, -, -⟩ := same
  have aligned := Alignment.outcomes_eval
    (patterns.imp fun _ _ => Alignment.alike_ofFolded) .atLimit rel
  show (sequence.eval scope.haystack scope.first scope.limit .atLimit).run.isSuccess =
    (sequence'.eval scope'.haystack scope'.first scope'.limit .atLimit).run.isSuccess
  rw [limit, limit']
  exact aligned.isSuccess_eq

/-- Their first matches correspond. -/
theorem rel_find? (folded : Text.fold hay.text = Text.fold hay'.text)
    (patterns : List.Forall₂ Pattern.SameFolded sequence.patterns sequence'.patterns)
    (same : SameChars hay hay' scope scope') :
    Option.Rel (Interval.SameChars hay hay') (sequence.find? scope).run
      (sequence'.find? scope').run := by
  obtain ⟨last, inside, limit, limit', rel⟩ := same.exists_rel folded
  obtain ⟨rfl, rfl, -, -⟩ := same
  have first := sequence.firstMatch_find? scope
  have first' := sequence'.firstMatch_find? scope'
  rw [limit] at first
  rw [limit'] at first'
  obtain ⟨answer, found, again⟩ := Alignment.firstMatch_of_rel
    (patterns.imp fun _ _ => Alignment.alike_ofFolded) rel first
  rw [first'.unique again]
  clear first again
  generalize (sequence.find? scope).run = found? at found ⊢
  cases found with
  | none => exact .none
  | some found => exact .some found.sameChars

/-- All their matches correspond, one by one. -/
theorem forall₂_matches (folded : Text.fold hay.text = Text.fold hay'.text)
    (patterns : List.Forall₂ Pattern.SameFolded sequence.patterns sequence'.patterns)
    (same : SameChars hay hay' scope scope') :
    List.Forall₂ (Interval.SameChars hay hay') (sequence.matches scope).toList.run
      (sequence'.matches scope').toList.run := by
  obtain ⟨last, inside, limit, limit', rel⟩ := same.exists_rel folded
  obtain ⟨rfl, rfl, -, -⟩ := same
  obtain ⟨report, report'⟩ := Pattern.reportBoundaries_of_sameFolded patterns
  have enumerates := Sequence.enumerates_matches scope report
  have enumerates' := Sequence.enumerates_matches scope' report'
  rw [limit] at enumerates
  rw [limit'] at enumerates'
  obtain ⟨list, found, again⟩ := Alignment.enumerates_of_rel
    (patterns.imp fun _ _ => Alignment.alike_ofFolded) rel enumerates
  rw [enumerates'.unique again]
  exact found.imp fun _ _ => Alignment.Found.sameChars

end Scope.SameChars

/-- The gaps behind intervals that correspond do so, too. -/
theorem Interval.SameChars.rel_betweenWithin? {previous previous' : Interval} {limit limit' : Nat}
    (folded : Text.fold hay.text = Text.fold hay'.text)
    (patterns : List.Forall₂ Pattern.SameFolded sequence.patterns sequence'.patterns)
    (same : SameChars hay hay' previous previous') (limits : hay.SameIndex hay' limit limit') :
    Option.Rel (SameChars hay hay') (sequence.betweenWithin? previous limit).run
      (sequence'.betweenWithin? previous' limit').run := by
  obtain ⟨rfl, rfl, -, stop⟩ := same
  have scopes := Scope.sameChars_ofRange folded stop limits
  have found := scopes.rel_find? folded patterns
  show Option.Rel _
    ((sequence.find? (Scope.ofRange previous.haystack previous.stop limit)).run.map _)
    ((sequence'.find? (Scope.ofRange previous'.haystack previous'.stop limit')).run.map _)
  generalize (sequence.find? _).run = found? at found ⊢
  generalize (sequence'.find? _).run = found?' at found ⊢
  cases found with
  | none => exact .none
  | some found => exact .some ⟨rfl, rfl, stop, found.start.max folded stop⟩

/-- **Patterns that fold letter case see folded texts only**: two sequences of them, equal but for
literals with the same folded forms, have the same answers in two texts with one folded form. A try
from one index to another one has the same outcome up to the size of the characters; the same scopes
match; and the matches, first or all, and the gaps between them have the same indices. -/
theorem Sequence.search_folded (sequence sequence' : Sequence Id)
    (patterns : List.Forall₂ Pattern.SameFolded sequence.patterns sequence'.patterns)
    (hay hay' : Haystack) (folded : Text.fold hay.text = Text.fold hay'.text) :
    (∀ first last ending, first ≤ last → last ≤ hay.text.length →
      (sequence.eval hay (hay.boundaryAt first) (hay.boundaryAt last) ending).run.Aligned
        (hay.SameIndex hay')
        (sequence'.eval hay' (hay'.boundaryAt first) (hay'.boundaryAt last) ending).run) ∧
    (∀ scope scope', Scope.SameChars hay hay' scope scope' →
      (sequence.isMatch scope).run = (sequence'.isMatch scope').run ∧
      Option.Rel (Interval.SameChars hay hay') (sequence.find? scope).run
        (sequence'.find? scope').run ∧
      List.Forall₂ (Interval.SameChars hay hay') (sequence.matches scope).toList.run
        (sequence'.matches scope').toList.run) ∧
    ∀ previous previous', Interval.SameChars hay hay' previous previous' →
      Option.Rel (Interval.SameChars hay hay') (sequence.between? previous).run
        (sequence'.between? previous').run ∧
      ∀ limit limit', hay.SameIndex hay' limit limit' →
        Option.Rel (Interval.SameChars hay hay') (sequence.betweenWithin? previous limit).run
          (sequence'.betweenWithin? previous' limit').run := by
  refine ⟨?_, ?_, ?_⟩
  · intro first last ending le inside
    have rel : (Alignment.ofFolded hay hay' folded last inside).Rel (hay.boundaryAt first)
        (hay'.boundaryAt first) := ⟨first, le, rfl, rfl⟩
    have aligned := Alignment.outcomes_eval
      (patterns.imp fun _ _ => Alignment.alike_ofFolded) ending rel
    exact aligned.imp fun _ _ => Alignment.sameIndex_of_rel
  · intro scope scope' same
    exact ⟨same.isMatch_eq folded patterns, same.rel_find? folded patterns,
      same.forall₂_matches folded patterns⟩
  · intro previous previous' same
    refine ⟨?_, fun limit limit' => same.rel_betweenWithin? folded patterns⟩
    unfold Sequence.between?
    rw [same.haystack, same.haystack']
    exact same.rel_betweenWithin? folded patterns (Haystack.sameIndex_size folded)

/-- The Kelvin sign folds to `k` and takes three bytes: where `KB` ends behind byte 4 of the one
text, it ends behind byte 2 of the other one. Both begin with a match, have a second one behind an
`x`, and the `x` is the gap. -/
theorem Sequence.search_folded_kelvin :
    let hay : Haystack := { text := ['\u212a', 'b', 'x', 'k', 'B'] }
    let hay' : Haystack := { text := ['k', 'B', 'x', '\u212a', 'b'] }
    let sequence : Sequence Id := ⟨[.text [['k']] .folded, .text [['B']] .folded], rfl⟩
    let sequence' : Sequence Id := ⟨[.text [['\u212a']] .folded, .text [['b']] .folded], rfl⟩
    (sequence.isMatch (Scope.ofRange hay 0 4)).run = true ∧
      (sequence'.isMatch (Scope.ofRange hay' 0 2)).run = true ∧
      Option.Rel (Interval.SameChars hay hay') (sequence.find? (Scope.full hay)).run
        (sequence'.find? (Scope.full hay')).run ∧
      (sequence.find? (Scope.full hay)).run = some ⟨hay, 0, 4⟩ ∧
      (sequence'.find? (Scope.full hay')).run = some ⟨hay', 0, 2⟩ ∧
      List.Forall₂ (Interval.SameChars hay hay') (sequence.matches (Scope.full hay)).toList.run
        (sequence'.matches (Scope.full hay')).toList.run ∧
      (sequence.matches (Scope.full hay)).toList.run = [⟨hay, 0, 4⟩, ⟨hay, 5, 7⟩] ∧
      (sequence'.matches (Scope.full hay')).toList.run = [⟨hay', 0, 2⟩, ⟨hay', 3, 7⟩] ∧
      Option.Rel (Interval.SameChars hay hay') (sequence.between? ⟨hay, 0, 4⟩).run
        (sequence'.between? ⟨hay', 0, 2⟩).run ∧
      (sequence.between? ⟨hay, 0, 4⟩).run = some ⟨hay, 4, 5⟩ ∧
      (sequence'.between? ⟨hay', 0, 2⟩).run = some ⟨hay', 2, 3⟩ := by
  intro hay hay' sequence sequence'
  have folded : Text.fold hay.text = Text.fold hay'.text := by decide +kernel
  have patterns : List.Forall₂ Pattern.SameFolded sequence.patterns sequence'.patterns :=
    .cons (.text (by decide +kernel)) (.cons (.text (by decide +kernel)) .nil)
  have whole : (sequence.isMatch (Scope.ofRange hay 0 4)).run = true := by decide +kernel
  -- the first match lies between the indices 0 and 2
  have start : hay.SameIndex hay' 0 0 := ⟨0, by decide, by decide, by decide⟩
  have stop : hay.SameIndex hay' 4 2 := ⟨2, by decide, by decide, by decide⟩
  obtain ⟨-, scopes, gaps⟩ := sequence.search_folded sequence' patterns hay hay' folded
  obtain ⟨same, -, -⟩ := scopes _ _ (Scope.sameChars_ofRange folded start stop)
  obtain ⟨-, found, listed⟩ := scopes _ _ (Scope.sameChars_full folded)
  obtain ⟨gap, -⟩ := gaps ⟨hay, 0, 4⟩ ⟨hay', 0, 2⟩ ⟨rfl, rfl, start, stop⟩
  exact ⟨whole, same.symm.trans whole, found, by decide +kernel, by decide +kernel, listed,
    by decide +kernel, by decide +kernel, gap, by decide +kernel, by decide +kernel⟩

end Search

end PatternSearch
