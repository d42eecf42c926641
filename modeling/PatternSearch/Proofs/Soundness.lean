import PatternSearch.Proofs.Derivation

/-!
# Every match is derived

Wildcards may lose a match to a failure that gives up too early, but no list of patterns reports a
match that is not there: whatever the patterns, a success is the stop of a derivation. Read from
left to right, the derivation is a walk from cursor to cursor.

- `Pattern.derives_of_success`: a success is a derivation, with no condition on the wildcards.
- `Pattern.Takes`: what a pattern asks of the text between its cursor and the next one.
- `Pattern.Walk`: the cursors that the patterns stand at, one after another, and where the last one
  ends the match; every derivation is one (`Pattern.Derives.exists_walk`).
- `Sequence.success_is_walked`: every success of a sequence is the end of a walk.
-/

namespace PatternSearch

variable {hay : Haystack} {start limit stop : Nat} {ending : Ending}

namespace Pattern

variable {patterns rest : List (Pattern Id)} {choices cursors : List Nat}

/-! ## A success is a derivation -/

/-- A success that settles the matter is derived. -/
theorem Settles.derives {outcome : Outcome}
    (settles : Settles hay limit ending patterns start outcome)
    (succeeds : outcome = .success stop) :
    ∃ choices, Derives hay limit ending patterns start choices stop := by
  subst succeeds
  obtain ⟨choices, first⟩ := settles
  exact ⟨choices, first.derives⟩

section OnePattern

variable {literals : List Text} {literal : Text} {casing : Casing} {atLeast atMost : Nat}

/-- What follows is derived wherever it succeeds, at every boundary up to the limit. -/
def DerivedAfter (hay : Haystack) (limit : Nat) (ending : Ending) (rest : List (Pattern Id)) :
    Prop :=
  ∀ mid stop, hay.isBoundary mid = true → mid ≤ limit →
    (evalAll rest hay mid limit ending).run = .success stop →
    ∃ choices, Derives hay limit ending rest mid choices stop

/-- A wildcard that succeeds does so where what follows it does, behind some gap. -/
theorem derives_any (after : DerivedAfter hay limit ending rest) (more : rest ≠ [])
    (limitBoundary : hay.isBoundary limit = true) (boundary : hay.isBoundary start = true)
    (le : start ≤ limit)
    (succeeds : (evalAll (.any :: rest) hay start limit ending).run = .success stop) :
    ∃ choices, Derives hay limit ending (.any :: rest) start choices stop := by
  rw [evalAll_any more] at succeeds
  rcases hay.sweep_cases (fun mid => evalAll rest hay mid limit ending) limitBoundary boundary le
    with ⟨mid, isFirst, same⟩ | ⟨-, same⟩
  · have mid_le : mid ≤ limit := Nat.le_of_lt_succ isFirst.lt
    obtain ⟨choices, derives⟩ :=
      after mid stop isFirst.boundary mid_le (same.symm.trans succeeds)
    obtain ⟨gap, rfl⟩ := Nat.exists_eq_add_of_le isFirst.le
    exact ⟨gap :: choices, .any more isFirst.boundary mid_le derives⟩
  · exact nomatch same.symm.trans succeeds

/-- A text that succeeds does so behind one of its literals. -/
theorem derives_text (after : DerivedAfter hay limit ending rest)
    (limitBoundary : hay.isBoundary limit = true)
    (succeeds : (evalAll (.text literals casing :: rest) hay start limit ending).run =
      .success stop) :
    ∃ choices, Derives hay limit ending (.text literals casing :: rest) start choices stop := by
  rcases firstSuccess_cases (fun mid => evalAll rest hay mid limit ending)
      (hay.literalEnd? casing limit start) literals with
    ⟨index, literal, mid, at_index, ends, -, same, -⟩ | ⟨-, same⟩
  · obtain ⟨covers, mid_le⟩ := (Haystack.literalEnd?_eq_some_iff_covers limitBoundary).1 ends
    obtain ⟨choices, derives⟩ :=
      after mid stop covers.isBoundary_stop mid_le (same.symm.trans succeeds)
    exact ⟨index :: choices, .text at_index covers mid_le derives⟩
  · exact nomatch same.symm.trans succeeds

/-- An `except` that succeeds stands where none of its literals does. -/
theorem derives_except (after : DerivedAfter hay limit ending rest)
    (limitBoundary : hay.isBoundary limit = true) (boundary : hay.isBoundary start = true)
    (le : start ≤ limit)
    (succeeds : (evalAll (.except literals casing :: rest) hay start limit ending).run =
      .success stop) :
    ∃ choices, Derives hay limit ending (.except literals casing :: rest) start choices stop := by
  rw [evalAll_except] at succeeds
  split at succeeds
  · cases succeeds
  · next missing =>
    obtain ⟨choices, derives⟩ := after start stop boundary le succeeds
    refine ⟨choices, .except (fun literal member mid mid_le covers => missing ?_) derives⟩
    have ends := (Haystack.literalEnd?_eq_some_iff_covers limitBoundary).2 ⟨covers, mid_le⟩
    exact List.any_eq_true.2 ⟨literal, member, Option.isSome_iff_exists.2 ⟨mid, ends⟩⟩

/-- A repetition that succeeds does so behind the longest row, which has an accepted length. -/
theorem derives_repeated (after : DerivedAfter hay limit ending rest) (nonempty : literal ≠ [])
    (limitBoundary : hay.isBoundary limit = true) (boundary : hay.isBoundary start = true)
    (le : start ≤ limit)
    (succeeds : (evalAll (.repeated literal casing atLeast atMost :: rest) hay start limit
      ending).run = .success stop) :
    ∃ choices, Derives hay limit ending (.repeated literal casing atLeast atMost :: rest) start
      choices stop := by
  have longest : hay.LongestRow casing literal limit (hay.run casing limit literal start).1 start
      (hay.run casing limit literal start).2 :=
    Haystack.longestRow_run limitBoundary nonempty le
  rw [evalAll_repeated] at succeeds
  split at succeeds
  · next accepted =>
    obtain ⟨choices, derives⟩ :=
      after _ stop (longest.row.isBoundary_stop boundary) longest.le_limit succeeds
    exact ⟨choices, .repeated longest accepted.1 accepted.2 derives⟩
  · split at succeeds <;> cases succeeds

end OnePattern

/-- A success is derived, whatever the patterns. -/
theorem derives_of_success (own : ∀ pattern ∈ patterns, pattern.kind ≠ .custom)
    (nonempty : ∀ literal casing atLeast atMost,
      .repeated literal casing atLeast atMost ∈ patterns → literal ≠ [])
    (limitBoundary : hay.isBoundary limit = true) :
    DerivedAfter hay limit ending patterns := by
  -- induction on the list, over all the offsets where the rest may be tried
  induction patterns with
  | nil => exact fun _ _ _ _ succeeds => settles_nil.derives succeeds
  | cons pattern rest ih =>
    have after : DerivedAfter hay limit ending rest := by
      refine ih (fun other member => own other (.tail pattern member)) ?_
      intro literal casing atLeast atMost member
      exact nonempty literal casing atLeast atMost (.tail pattern member)
    intro start stop boundary le succeeds
    cases pattern with
    | limit => exact settles_limit.derives succeeds
    | finish => exact settles_finish.derives succeeds
    | any =>
      cases rest with
      | nil => exact settles_any_last.derives succeeds
      | cons next rest => exact derives_any after nofun limitBoundary boundary le succeeds
    | text literals casing => exact derives_text after limitBoundary succeeds
    | except literals casing => exact derives_except after limitBoundary boundary le succeeds
    | repeated literal casing atLeast atMost =>
      have nonempty' := nonempty literal casing atLeast atMost (.head rest)
      exact derives_repeated after nonempty' limitBoundary boundary le succeeds
    | custom name logic => exact absurd rfl (own _ (.head rest))

/-! ## A derivation is a walk -/

/-- What a pattern asks of the text from the cursor where it stands to the next one. A wildcard asks
for nothing, and an `except` goes nowhere. -/
inductive Takes (hay : Haystack) (limit : Nat) : Pattern Id → Nat → Nat → Prop where
  | any {start next : Nat} : Takes hay limit .any start next
  | text {literals : List Text} {casing : Casing} {literal : Text} {start next : Nat} :
    literal ∈ literals → hay.Covers casing literal start next →
    Takes hay limit (.text literals casing) start next
  | except {literals : List Text} {casing : Casing} {start : Nat} :
    (∀ literal ∈ literals, ∀ next ≤ limit, ¬ hay.Covers casing literal start next) →
    Takes hay limit (.except literals casing) start start
  | repeated {literal : Text} {casing : Casing} {atLeast atMost count start next : Nat} :
    hay.LongestRow casing literal limit count start next →
    atLeast ≤ count → count ≤ atMost →
    Takes hay limit (.repeated literal casing atLeast atMost) start next

/-- The patterns lead from `start` to each of the cursors in turn, and end the match at `stop`. The
cursors are boundaries up to the limit, in order. -/
inductive Walk (hay : Haystack) (limit : Nat) (ending : Ending) :
    List (Pattern Id) → Nat → List Nat → Nat → Prop where
  /-- No pattern is left; the ending may ask for the limit. -/
  | done {start : Nat} : (ending = .atLimit → start = limit) →
    Walk hay limit ending [] start [] start
  /-- The match ends at the limit, which is reached. -/
  | limit {rest : List (Pattern Id)} : Walk hay limit ending (.limit :: rest) limit [] limit
  /-- The match ends here. -/
  | finish {rest : List (Pattern Id)} {start : Nat} :
    Walk hay limit ending (.finish :: rest) start [] start
  /-- A last wildcard ends the match at the limit. -/
  | anyLast {start : Nat} : Walk hay limit ending [.any] start [] limit
  /-- Any other pattern leads to the next cursor. -/
  | step {pattern : Pattern Id} {rest : List (Pattern Id)} {start next stop : Nat}
    {cursors : List Nat} : (pattern.kind = .any → rest ≠ []) → hay.isBoundary next = true →
    start ≤ next → next ≤ limit → pattern.Takes hay limit start next →
    Walk hay limit ending rest next cursors stop →
    Walk hay limit ending (pattern :: rest) start (next :: cursors) stop

/-- The patterns of a derivation walk from its start to its stop. -/
theorem Derives.exists_walk (boundary : hay.isBoundary start = true) (le : start ≤ limit)
    (derives : Derives hay limit ending patterns start choices stop) :
    ∃ cursors, Walk hay limit ending patterns start cursors stop := by
  induction derives with
  | done reached => exact ⟨[], .done reached⟩
  | limit => exact ⟨[], .limit⟩
  | finish => exact ⟨[], .finish⟩
  | anyLast => exact ⟨[], .anyLast⟩
  | any more boundary' le' _ ih =>
    obtain ⟨cursors, walk⟩ := ih boundary' le'
    exact ⟨_ :: cursors, .step (fun _ => more) boundary' (Nat.le_add_right ..) le' .any walk⟩
  | text at_index covers le' _ ih =>
    obtain ⟨cursors, walk⟩ := ih covers.isBoundary_stop le'
    exact ⟨_ :: cursors, .step nofun covers.isBoundary_stop covers.le le'
      (.text (List.mem_of_getElem? at_index) covers) walk⟩
  | except missing _ ih =>
    obtain ⟨cursors, walk⟩ := ih boundary le
    exact ⟨_ :: cursors, .step nofun boundary (Nat.le_refl _) le (.except missing) walk⟩
  | repeated longest at_least at_most _ ih =>
    have boundary' := longest.row.isBoundary_stop boundary
    obtain ⟨cursors, walk⟩ := ih boundary' longest.le_limit
    exact ⟨_ :: cursors, .step nofun boundary' longest.row.le longest.le_limit
      (.repeated longest at_least at_most) walk⟩

namespace Walk

/-- A walk stops at a boundary, from its start to the limit. -/
theorem stop_bounds (limitBoundary : hay.isBoundary limit = true)
    (boundary : hay.isBoundary start = true) (le : start ≤ limit)
    (walk : Walk hay limit ending patterns start cursors stop) :
    hay.isBoundary stop = true ∧ start ≤ stop ∧ stop ≤ limit := by
  induction walk with
  | done _ | finish => exact ⟨boundary, Nat.le_refl _, le⟩
  | limit => exact ⟨limitBoundary, Nat.le_refl _, le⟩
  | anyLast => exact ⟨limitBoundary, le, Nat.le_refl _⟩
  | step _ boundary' ahead le' _ _ ih =>
    obtain ⟨end_, further, inside⟩ := ih boundary' le'
    exact ⟨end_, Nat.le_trans ahead further, inside⟩

/-- Without a `finish`, a walk that has to end at the limit does. -/
theorem stop_eq_limit (unfinished : ∀ pattern ∈ patterns, pattern.kind ≠ .finish)
    (walk : Walk hay limit .atLimit patterns start cursors stop) : stop = limit := by
  induction walk with
  | done reached => exact reached rfl
  | limit | anyLast => rfl
  | finish => exact absurd rfl (unfinished _ (.head _))
  | step _ _ _ _ _ _ ih => exact ih fun other member => unfinished other (.tail _ member)

end Walk

end Pattern

/-! ## Sequences -/

namespace Sequence

/-- **Every success is walked**: the patterns of a sequence that succeeds lead from the start,
cursor by cursor, to where the match ends. -/
theorem success_is_walked (sequence : Sequence Id)
    (own : ∀ pattern ∈ sequence.patterns, pattern.kind ≠ .custom)
    (boundary : hay.isBoundary start = true) (limitBoundary : hay.isBoundary limit = true)
    (le : start ≤ limit)
    (succeeds : (sequence.eval hay start limit ending).run = .success stop) :
    (∃ cursors, Pattern.Walk hay limit ending sequence.patterns start cursors stop) ∧
    (hay.isBoundary stop = true ∧ start ≤ stop ∧ stop ≤ limit) ∧
    (ending = .atLimit → (∀ pattern ∈ sequence.patterns, pattern.kind ≠ .finish) →
      stop = limit) := by
  rw [sequence.eval_eq_evalAll] at succeeds
  obtain ⟨choices, derives⟩ := Pattern.derives_of_success own
    (fun _ _ _ _ member => sequence.repeated_ne_nil member) limitBoundary start stop boundary le
    succeeds
  obtain ⟨cursors, walk⟩ := derives.exists_walk boundary le
  refine ⟨⟨cursors, walk⟩, walk.stop_bounds limitBoundary boundary le, ?_⟩
  rintro rfl unfinished
  exact walk.stop_eq_limit unfinished

/-- A `k` in either case, which the Kelvin sign is, no `b` behind it, an `É` in either case, a gap,
and one or two of `ab` up to the limit: there is a walk to the end of the nine bytes. -/
theorem success_is_walked_letters :
    let hay : Haystack := { text := ['\u212a', 'é', 'a', 'b', 'a', 'b'] }
    let sequence : Sequence Id :=
      ⟨[.text [['k']] .folded, .except [['b']] .exact, .text [['É']] .folded, .any,
        .repeated ['a', 'b'] .exact 1 2], rfl⟩
    ∃ cursors, Pattern.Walk hay 9 .atLimit sequence.patterns 0 cursors 9 := by
  intro hay sequence
  exact (sequence.success_is_walked (by decide) (by decide) (by decide) (by decide)
    (show (sequence.eval hay 0 9 .atLimit).run = .success 9 by decide +kernel)).1

end Sequence

end PatternSearch
