import PatternSearch.Proofs.AlignedSearch

/-!
# Searching a part of a text

To search an interval of a haystack is to search the text of the interval on its own: every answer
is the same but for the offsets, which count from the start of the interval. What stands outside the
interval makes no difference.

- `Haystack.slice?_add`: the slices of a slice are those of the haystack, further on.
- `Alignment.ofInterval`: the boundaries of an interval and those of its text correspond.
- `Sequence.search_interval_eq_search_text`: so do all the answers.
-/

namespace PatternSearch

/-! ## Slices of slices -/

namespace Haystack

variable {hay : Haystack} {start stop pos : Nat} {part : Text}

/-- The slices of a slice are those of the haystack, further on. -/
theorem slice?_add {other : Nat} (window : hay.slice? start stop = some part)
    (le : other ≤ Text.byteSize part) :
    hay.slice? (start + pos) (start + other) = slice? { text := part } pos other := by
  obtain ⟨front, rest, whole, rfl, -⟩ := slice?_eq_some_iff.1 window
  refine Option.ext fun inner => ?_
  rw [slice?_eq_some_iff, slice?_eq_some_iff]
  constructor
  · rintro ⟨upto, beyond, again, size, reach⟩
    obtain ⟨before, rfl⟩ : ∃ before, upto = front ++ before :=
      Text.exists_append_of_le (whole.symm.trans again) (by omega)
    have cut : part ++ rest = before ++ inner ++ beyond := by
      have := whole.symm.trans again
      simpa using this
    rw [Text.byteSize_append] at size
    obtain ⟨behind, rfl⟩ : ∃ behind, part = before ++ inner ++ behind := by
      refine Text.exists_append_of_le cut.symm ?_
      rw [Text.byteSize_append]
      omega
    exact ⟨before, behind, List.append_assoc .., by omega, by omega⟩
  · rintro ⟨before, behind, rfl, rfl, reach⟩
    refine ⟨front ++ before, behind ++ rest, ?_, Text.byteSize_append .., by omega⟩
    simp [whole]

/-- Boundaries are where the empty slices are. -/
theorem isBoundary_iff_slice?_self :
    hay.isBoundary pos = true ↔ hay.slice? pos pos = some [] := by
  rw [isBoundary_iff, slice?_eq_some_iff]
  constructor
  · rintro ⟨front, rest, whole, size⟩
    exact ⟨front, rest, whole, size, rfl⟩
  · rintro ⟨front, rest, whole, size, -⟩
    exact ⟨front, rest, whole, size⟩

/-- The boundaries of a slice are those of the haystack, further on. -/
theorem isBoundary_add_iff (window : hay.slice? start stop = some part)
    (le : pos ≤ Text.byteSize part) :
    hay.isBoundary (start + pos) = true ↔ isBoundary { text := part } pos = true := by
  rw [isBoundary_iff_slice?_self, isBoundary_iff_slice?_self, slice?_add window le]

/-- A literal stands in a slice where it stands in the haystack, further on. -/
theorem literalEnd?_add {casing : Casing} {literal : Text}
    (window : hay.slice? start stop = some part) :
    hay.literalEnd? casing stop (start + pos) literal =
      (literalEnd? { text := part } casing (Text.byteSize part) pos literal).map (start + ·) := by
  obtain ⟨-, -, -, -, reach⟩ := slice?_eq_some_iff.1 window
  refine Option.ext fun ending => ?_
  rw [literalEnd?_eq_some_iff, Option.map_eq_some_iff, ← reach, slice?_add window (Nat.le_refl _)]
  constructor
  · rintro ⟨matched, rest, cut, rfl, keys⟩
    refine ⟨pos + Text.byteSize matched,
      literalEnd?_eq_some_iff.2 ⟨matched, rest, cut, rfl, keys⟩, ?_⟩
    exact (Nat.add_assoc ..).symm
  · rintro ⟨inner, found, rfl⟩
    obtain ⟨matched, rest, cut, rfl, keys⟩ := literalEnd?_eq_some_iff.1 found
    exact ⟨matched, rest, cut, Nat.add_assoc .., keys⟩

end Haystack

/-! ## The text of an interval -/

namespace Interval

variable {interval : Interval}

/-- The text of the interval as a haystack of its own. -/
def alone (interval : Interval) : Haystack where
  text := interval.text

/-- A match in the text of the interval as one in the haystack. -/
def lift (interval found : Interval) : Interval :=
  ⟨interval.haystack, interval.start + found.start, interval.start + found.stop⟩

/-- The two ends. -/
def ends (interval : Interval) : Nat × Nat :=
  (interval.start, interval.stop)

/-- The text of a placed interval is what stands between its ends. -/
theorem Placed.slice?_eq (placed : interval.Placed) :
    interval.haystack.slice? interval.start interval.stop = some interval.text := by
  obtain ⟨part, window⟩ :=
    Haystack.exists_slice? placed.isBoundary_start placed.isBoundary_stop placed.le
  rw [text, window, Option.getD_some]

theorem Placed.start_add_size (placed : interval.Placed) :
    interval.start + interval.alone.size = interval.stop := by
  obtain ⟨-, -, -, -, reach⟩ := Haystack.slice?_eq_some_iff.1 placed.slice?_eq
  rw [Haystack.size_eq]
  exact reach

/-- The boundaries of the text of the interval are those of the haystack, further on. -/
theorem Placed.isBoundary_add_iff {pos : Nat} (placed : interval.Placed)
    (le : pos ≤ interval.alone.size) :
    interval.haystack.isBoundary (interval.start + pos) = true ↔
      interval.alone.isBoundary pos = true := by
  rw [Haystack.size_eq] at le
  exact Haystack.isBoundary_add_iff placed.slice?_eq le

end Interval

/-- The boundaries of an interval and those of its text correspond, further on by its start. -/
def Alignment.ofInterval (interval : Interval) (placed : interval.Placed) : Alignment where
  hay := interval.haystack
  hay' := interval.alone
  limit := interval.stop
  limit' := interval.alone.size
  Rel pos pos' := pos = interval.start + pos' ∧ interval.alone.isBoundary pos' = true
  isBoundary := by
    rintro pos pos' ⟨rfl, boundary⟩
    exact (placed.isBoundary_add_iff (Haystack.le_size_of_isBoundary boundary)).2 boundary
  isBoundary' rel := rel.2
  le_limit := by
    rintro pos pos' ⟨rfl, boundary⟩
    have := Haystack.le_size_of_isBoundary boundary
    have := placed.start_add_size
    omega
  le_limit' rel := Haystack.le_size_of_isBoundary rel.2
  rel_limit := ⟨placed.start_add_size.symm, interval.alone.isBoundary_size⟩
  le_iff := by
    rintro pos pos' other other' ⟨rfl, -⟩ ⟨rfl, -⟩
    omega
  total := by
    rintro first first' pos ⟨rfl, -⟩ boundary from_le le
    have := placed.start_add_size
    obtain ⟨pos', rfl⟩ : ∃ pos', pos = interval.start + pos' :=
      Nat.exists_eq_add_of_le (by omega)
    exact ⟨pos', rfl, (placed.isBoundary_add_iff (by omega)).1 boundary⟩
  total' := by
    intro first first' pos' _ boundary _ _
    exact ⟨interval.start + pos', rfl, boundary⟩

/-- A pattern is like itself, in an interval and in its text. -/
theorem Alignment.alike_ofInterval {interval : Interval} (placed : interval.Placed)
    {pattern : Pattern Id} (own : pattern.kind ≠ .custom) :
    (ofInterval interval placed).Alike pattern pattern := by
  have same : ∀ casing literal, (ofInterval interval placed).SameEnds casing literal literal := by
    rintro casing literal pos pos' ⟨rfl, boundary⟩
    show Option.Rel (ofInterval interval placed).Rel
      (interval.haystack.literalEnd? casing interval.stop (interval.start + pos') literal)
      (interval.alone.literalEnd? casing interval.alone.size pos' literal)
    rw [Haystack.size_eq, Haystack.literalEnd?_add placed.slice?_eq]
    show Option.Rel (ofInterval interval placed).Rel
      ((interval.alone.literalEnd? casing (Text.byteSize interval.text) pos' literal).map _)
      (interval.alone.literalEnd? casing (Text.byteSize interval.text) pos' literal)
    have limitBoundary : interval.alone.isBoundary (Text.byteSize interval.text) = true := by
      have := interval.alone.isBoundary_size
      rw [Haystack.size_eq] at this
      exact this
    cases found : interval.alone.literalEnd? casing (Text.byteSize interval.text) pos' literal with
    | none => exact .none
    | some stop =>
      have covers := ((Haystack.literalEnd?_eq_some_iff_covers limitBoundary).1 found).1
      exact .some ⟨rfl, covers.isBoundary_stop⟩
  cases pattern with
  | limit => exact .limit
  | finish => exact .finish
  | any => exact .any
  | text literals casing => exact .text (List.forall₂_same.2 fun literal _ => same casing literal)
  | except literals casing =>
    exact .except (List.forall₂_same.2 fun literal _ => same casing literal)
  | repeated literal casing atLeast atMost => exact .repeated (same casing literal)
  | custom name logic => exact absurd rfl own

/-! ## Searching the interval and its text -/

/-- The outcome with its stop counted from `start` on. -/
def Outcome.shift (start : Nat) : Outcome → Outcome
  | .success stop => .success (start + stop)
  | outcome => outcome

section Search

variable {sequence : Sequence Id} {interval : Interval}

theorem Sequence.alike_ofInterval
    (own : ∀ pattern ∈ sequence.patterns, pattern.kind ≠ .custom) (placed : interval.Placed) :
    List.Forall₂ (Alignment.ofInterval interval placed).Alike sequence.patterns
      sequence.patterns :=
  List.forall₂_same.2 fun pattern member => Alignment.alike_ofInterval placed (own pattern member)

/-- To try the sequence inside the interval is to try it on the text. -/
theorem Interval.Placed.eval_eq_shift (placed : interval.Placed)
    (own : ∀ pattern ∈ sequence.patterns, pattern.kind ≠ .custom) {start : Nat}
    (ending : Ending)
    (boundary : interval.haystack.isBoundary start = true) (from_le : interval.start ≤ start)
    (le : start ≤ interval.stop) :
    (sequence.eval interval.haystack start interval.stop ending).run =
      (sequence.eval interval.alone (start - interval.start) (interval.stop - interval.start)
        ending).run.shift interval.start := by
  have reach := placed.start_add_size
  obtain ⟨pos, rfl⟩ : ∃ pos, start = interval.start + pos := Nat.exists_eq_add_of_le from_le
  have boundary' : interval.alone.isBoundary pos = true :=
    (placed.isBoundary_add_iff (by omega)).1 boundary
  have aligned : (sequence.eval interval.haystack (interval.start + pos) interval.stop
      ending).run.Aligned (Alignment.ofInterval interval placed).Rel
      (sequence.eval interval.alone pos interval.alone.size ending).run :=
    Alignment.outcomes_eval (Sequence.alike_ofInterval own placed) ending ⟨rfl, boundary'⟩
  have limit : interval.stop - interval.start = interval.alone.size := by omega
  rw [Nat.add_sub_cancel_left, limit]
  generalize (sequence.eval interval.haystack (interval.start + pos) interval.stop ending).run =
    outcome at aligned ⊢
  generalize (sequence.eval interval.alone pos interval.alone.size ending).run = outcome'
    at aligned ⊢
  cases aligned with
  | abort | backtrack => rfl
  | success related => exact congrArg Outcome.success related.1

/-- The interval matches as a whole if its text does. -/
theorem Interval.Placed.isMatch_eq (placed : interval.Placed)
    (own : ∀ pattern ∈ sequence.patterns, pattern.kind ≠ .custom) :
    (interval.isMatch sequence).run = (sequence.isMatch (Scope.full interval.alone)).run := by
  show (sequence.eval interval.haystack (Scope.ofInterval interval).first
      (Scope.ofInterval interval).limit .atLimit).run.isSuccess =
    (sequence.eval interval.alone (Scope.full interval.alone).first
      (Scope.full interval.alone).limit .atLimit).run.isSuccess
  rw [placed.first_ofInterval, placed.limit_ofInterval, Scope.first_full, Scope.limit_full]
  exact (Alignment.outcomes_eval (Sequence.alike_ofInterval own placed) .atLimit
    ⟨rfl, interval.alone.isBoundary_zero⟩).isSuccess_eq

/-- Matches that correspond are the same but for the offsets. -/
theorem Alignment.Found.eq_lift {placed : interval.Placed} {found found' : Interval}
    (same : (ofInterval interval placed).Found found found') : found = interval.lift found' := by
  obtain ⟨haystack, start, stop⟩ := found
  obtain ⟨rfl, -, ⟨rfl, -⟩, ⟨rfl, -⟩⟩ := same
  rfl

/-- The first match in the interval is the first one in its text. -/
theorem Interval.Placed.find?_eq_map_lift (placed : interval.Placed)
    (own : ∀ pattern ∈ sequence.patterns, pattern.kind ≠ .custom) :
    (interval.find? sequence).run =
      (sequence.find? (Scope.full interval.alone)).run.map interval.lift := by
  have first := sequence.firstMatch_find? (Scope.ofInterval interval)
  have first' := sequence.firstMatch_find? (Scope.full interval.alone)
  rw [placed.first_ofInterval, placed.limit_ofInterval] at first
  rw [Scope.first_full, Scope.limit_full] at first'
  obtain ⟨answer, same, again⟩ := Alignment.firstMatch_of_rel
    (Sequence.alike_ofInterval own placed) ⟨rfl, interval.alone.isBoundary_zero⟩ first
  rw [first'.unique again]
  show (sequence.find? (Scope.ofInterval interval)).run = answer.map interval.lift
  generalize (sequence.find? (Scope.ofInterval interval)).run = found? at same ⊢
  cases same with
  | none => rfl
  | some same => exact congrArg some same.eq_lift

/-- The matches in the interval are those in its text. -/
theorem Interval.Placed.matches_eq_map_lift (placed : interval.Placed)
    (own : ∀ pattern ∈ sequence.patterns, pattern.kind ≠ .custom) :
    (interval.matches sequence).toList.run =
      (sequence.matches (Scope.full interval.alone)).toList.run.map interval.lift := by
  have enumerates := placed.enumerates_matches (Pattern.reportBoundaries_of_own own)
  have enumerates' := Sequence.enumerates_matches (Scope.full interval.alone)
    (Pattern.reportBoundaries_of_own own)
  rw [Scope.first_full, Scope.limit_full] at enumerates'
  obtain ⟨list, same, again⟩ := Alignment.enumerates_of_rel
    (Sequence.alike_ofInterval own placed) ⟨rfl, interval.alone.isBoundary_zero⟩ enumerates
  rw [enumerates'.unique again]
  clear again
  generalize (interval.matches sequence).toList.run = found at same ⊢
  induction same with
  | nil => rfl
  | cons same _ ih => rw [List.map_cons, same.eq_lift, ih]

/-- **To search an interval is to search its text**, with all offsets counted from its start; so
what two intervals at the same offsets with the same text answer is the same, whatever the haystacks
hold outside. -/
theorem Sequence.search_interval_eq_search_text (sequence : Sequence Id)
    (own : ∀ pattern ∈ sequence.patterns, pattern.kind ≠ .custom) (interval : Interval)
    (placed : interval.Placed) :
    (∀ start ending, interval.haystack.isBoundary start = true → interval.start ≤ start →
      start ≤ interval.stop →
      (sequence.eval interval.haystack start interval.stop ending).run =
        (sequence.eval interval.alone (start - interval.start) (interval.stop - interval.start)
          ending).run.shift interval.start) ∧
    (interval.isMatch sequence).run = (sequence.isMatch (Scope.full interval.alone)).run ∧
    (interval.find? sequence).run =
      (sequence.find? (Scope.full interval.alone)).run.map interval.lift ∧
    (interval.matches sequence).toList.run =
      (sequence.matches (Scope.full interval.alone)).toList.run.map interval.lift ∧
    ∀ other : Interval, other.Placed → other.start = interval.start →
      other.text = interval.text →
      (∀ start ending, interval.haystack.isBoundary start = true → interval.start ≤ start →
        start ≤ interval.stop →
        (sequence.eval other.haystack start other.stop ending).run =
          (sequence.eval interval.haystack start interval.stop ending).run) ∧
      (other.isMatch sequence).run = (interval.isMatch sequence).run ∧
      (other.find? sequence).run.map Interval.ends =
        (interval.find? sequence).run.map Interval.ends ∧
      (other.matches sequence).toList.run.map Interval.ends =
        (interval.matches sequence).toList.run.map Interval.ends := by
  refine ⟨fun start ending => placed.eval_eq_shift own ending, placed.isMatch_eq own,
    placed.find?_eq_map_lift own, placed.matches_eq_map_lift own, ?_⟩
  intro other placed' start_eq text_eq
  have alone : other.alone = interval.alone := Haystack.ext_text text_eq
  have stop_eq : other.stop = interval.stop := by
    rw [← placed'.start_add_size, ← placed.start_add_size, alone, start_eq]
  have lifted : Interval.ends ∘ other.lift = Interval.ends ∘ interval.lift := by
    funext found
    show (other.start + found.start, other.start + found.stop) = _
    rw [start_eq]
    rfl
  refine ⟨?_, ?_, ?_, ?_⟩
  · intro start ending boundary from_le le
    have reach := placed.start_add_size
    -- the start is a boundary of the other haystack, too, as it is one of the text
    have boundary' : other.haystack.isBoundary start = true := by
      obtain ⟨pos, rfl⟩ : ∃ pos, start = interval.start + pos :=
        Nat.exists_eq_add_of_le from_le
      have inside : pos ≤ interval.alone.size := by omega
      rw [← start_eq, placed'.isBoundary_add_iff (by rw [alone]; exact inside), alone]
      exact (placed.isBoundary_add_iff inside).1 boundary
    rw [placed.eval_eq_shift own ending boundary from_le le,
      placed'.eval_eq_shift own ending boundary' (by omega) (by omega), alone, start_eq, stop_eq]
  · rw [placed'.isMatch_eq own, placed.isMatch_eq own, alone]
  · rw [placed'.find?_eq_map_lift own, placed.find?_eq_map_lift own, alone, Option.map_map,
      Option.map_map, lifted]
  · rw [placed'.matches_eq_map_lift own, placed.matches_eq_map_lift own, alone, List.map_map,
      List.map_map, lifted]

/-- An `a`, a gap and a `b`, in the last four bytes of `éabab`: they match as a whole, and there
are two matches, two bytes further on than in the text `abab`. So it is in four bytes of
`xyababz`. -/
theorem Sequence.search_interval_eq_search_text_letters :
    let interval : Interval := ⟨{ text := ['é', 'a', 'b', 'a', 'b'] }, 2, 6⟩
    let other : Interval := ⟨{ text := ['x', 'y', 'a', 'b', 'a', 'b', 'z'] }, 2, 6⟩
    let sequence : Sequence Id := ⟨[.text [['a']] .exact, .any, .text [['b']] .exact], rfl⟩
    (sequence.isMatch (Scope.full interval.alone)).run = true ∧
      (interval.isMatch sequence).run = true ∧ (other.isMatch sequence).run = true ∧
      (sequence.find? (Scope.full interval.alone)).run = some ⟨interval.alone, 0, 2⟩ ∧
      (interval.find? sequence).run.map Interval.ends = some (2, 4) ∧
      (other.find? sequence).run.map Interval.ends = some (2, 4) ∧
      (sequence.matches (Scope.full interval.alone)).toList.run =
        [⟨interval.alone, 0, 2⟩, ⟨interval.alone, 2, 4⟩] ∧
      (interval.matches sequence).toList.run.map Interval.ends = [(2, 4), (4, 6)] ∧
      (other.matches sequence).toList.run.map Interval.ends = [(2, 4), (4, 6)] := by
  intro interval other sequence
  have whole : (sequence.isMatch (Scope.full interval.alone)).run = true := by decide +kernel
  have found :
      (sequence.find? (Scope.full interval.alone)).run = some ⟨interval.alone, 0, 2⟩ := by
    decide +kernel
  have listed : (sequence.matches (Scope.full interval.alone)).toList.run =
      [⟨interval.alone, 0, 2⟩, ⟨interval.alone, 2, 4⟩] := by
    decide +kernel
  obtain ⟨-, same, lifted, all_lifted, others⟩ :=
    sequence.search_interval_eq_search_text (by decide) interval
      ⟨by decide, by decide, by decide⟩
  obtain ⟨-, same', found', listed'⟩ :=
    others other ⟨by decide, by decide, by decide⟩ rfl (by decide)
  rw [found] at lifted
  rw [listed] at all_lifted
  rw [same] at same'
  rw [lifted] at found'
  rw [all_lifted] at listed'
  exact ⟨whole, same.trans whole, same'.trans whole, found, congrArg _ lifted, found', listed,
    congrArg _ all_lifted, listed'⟩

end Search

end PatternSearch
