import PatternSearch.Proofs.DeclaredEnding
import PatternSearch.Proofs.Derivation
import PatternSearch.Proofs.SameAnswers

/-!
# Repetitions take all there is

A repetition takes its literal again and again, as long as it stands there in full. So it takes as
many of them as there are in a row: no longer row stands there, and behind the one that is taken the
literal does not stand. It never gives one of them back either, whatever follows. An `except` of the
literal behind a repetition therefore asks for nothing new, and a repetition of which there may be
none is such an `except` itself.

- `Text.copies`: copies of a literal as one literal; it stands where there is a row of that many
  (`Haystack.row_iff_covers`).
- `Haystack.LongestRow.isGreatest`: the longest row is the greatest number of copies that stand
  there.
- `Haystack.literalEnd?_run`: behind the row that is taken, the literal does not stand.
- `Pattern.MakesExplicit`: an `except` for what a repetition implies; with it the patterns come to
  the same (`Pattern.MakesExplicit.evalAll_append_eq`).
- `Sequence.repetition_takes_all`: what a repetition takes, and that sequences with and without the
  `except` answer alike.
-/

namespace PatternSearch

/-- So many copies of the literal, as one literal. -/
def Text.copies (literal : Text) (count : Nat) : Text :=
  (List.replicate count literal).flatten

theorem Text.copies_zero (literal : Text) : literal.copies 0 = [] := rfl

theorem Text.copies_succ (literal : Text) (count : Nat) :
    literal.copies (count + 1) = literal ++ literal.copies count := rfl

namespace Haystack

variable {hay : Haystack} {casing : Casing} {literal : Text} {limit start stop count : Nat}

/-! ## Rows as one literal -/

/-- The empty literal stands at every boundary, and ends there. -/
theorem covers_nil_iff :
    hay.Covers casing [] start stop ↔ hay.isBoundary start = true ∧ start = stop := by
  constructor
  · intro covers
    obtain ⟨part, window, keys⟩ := covers
    obtain rfl : part = [] := by simpa using keys
    obtain ⟨-, -, -, -, reach⟩ := slice?_eq_some_iff.1 window
    exact ⟨(isBoundary_of_slice? window).1, reach⟩
  · rintro ⟨boundary, rfl⟩
    obtain ⟨part, window⟩ := exists_slice? boundary boundary (Nat.le_refl start)
    obtain ⟨-, -, -, -, reach⟩ := slice?_eq_some_iff.1 window
    obtain rfl : part = [] := Text.byteSize_eq_zero.1 (by omega)
    exact ⟨[], window, rfl⟩

/-- A row of copies stands where the literal made of all of them does. -/
theorem row_iff_covers (boundary : hay.isBoundary start = true) :
    hay.Row casing literal count start stop ↔
      hay.Covers casing (literal.copies count) start stop := by
  induction count generalizing start with
  | zero =>
    rw [Text.copies_zero, covers_nil_iff]
    constructor
    · intro row
      cases row with
      | nil => exact ⟨boundary, rfl⟩
    · rintro ⟨-, rfl⟩
      exact .nil start
  | succ count ih =>
    rw [Text.copies_succ, covers_append_iff]
    constructor
    · intro row
      cases row with
      | cons covers rest => exact ⟨_, covers, (ih covers.isBoundary_stop).1 rest⟩
    · rintro ⟨mid, covers, rest⟩
      exact .cons covers ((ih covers.isBoundary_stop).2 rest)

/-- The copies of a literal that is not empty take a byte each at least. -/
theorem Row.add_le (nonempty : literal ≠ []) (row : hay.Row casing literal count start stop) :
    start + count ≤ stop := by
  induction row with
  | nil start => exact Nat.le_refl start
  | cons covers _ ih =>
    have := covers.lt nonempty
    omega

/-- The longest row is where the literal repeated as often ends. -/
theorem LongestRow.literalEnd?_eq (longest : hay.LongestRow casing literal limit count start stop)
    (limitBoundary : hay.isBoundary limit = true) (boundary : hay.isBoundary start = true) :
    hay.literalEnd? casing limit start (literal.copies count) = some stop :=
  (literalEnd?_eq_some_iff_covers limitBoundary).2
    ⟨(row_iff_covers boundary).1 longest.row, longest.le_limit⟩

/-- It has as many copies as the literal can be repeated and still stand there. -/
theorem LongestRow.isGreatest (longest : hay.LongestRow casing literal limit count start stop)
    (limitBoundary : hay.isBoundary limit = true) (boundary : hay.isBoundary start = true) :
    IsGreatest {count | ∃ stop,
      hay.literalEnd? casing limit start (literal.copies count) = some stop} count := by
  refine ⟨⟨stop, longest.literalEnd?_eq limitBoundary boundary⟩, ?_⟩
  rintro count' ⟨stop', found⟩
  obtain ⟨covers, le_limit⟩ := (literalEnd?_eq_some_iff_covers limitBoundary).1 found
  obtain ⟨further, rfl, -⟩ := longest.exists_rest ((row_iff_covers boundary).2 covers) le_limit
  exact Nat.le_add_right ..

/-! ## Behind a row

Here nothing is asked of the start and the limit: where they are not boundaries in their order, no
literal stands at all.
-/

/-- The loop takes one copy after the other. It always gets ahead, so its guard is never what ends
it. -/
theorem run_eq (hay : Haystack) (casing : Casing) (limit start : Nat) (nonempty : literal ≠ []) :
    hay.run casing limit literal start =
      match hay.literalEnd? casing limit start literal with
      | some mid => ((hay.run casing limit literal mid).1 + 1, (hay.run casing limit literal mid).2)
      | none => (0, start) := by
  rw [run]
  cases found : hay.literalEnd? casing limit start literal with
  | none => rfl
  | some mid => exact if_pos ⟨lt_of_literalEnd? nonempty found, (literalEnd?_bounds found).2⟩

/-- Behind the row that is taken, the literal does not stand. -/
theorem literalEnd?_run (hay : Haystack) (casing : Casing) (limit start : Nat)
    (nonempty : literal ≠ []) :
    hay.literalEnd? casing limit (hay.run casing limit literal start).2 literal = none := by
  fun_induction run hay casing limit literal start with
  | case1 start mid found ahead count last eq ih => rwa [eq] at ih
  | case2 start mid found stuck =>
    exact absurd ⟨lt_of_literalEnd? nonempty found, (literalEnd?_bounds found).2⟩ stuck
  | case3 start missing => exact missing

/-- Where the literal does not stand, none is taken. -/
theorem run_of_missing (missing : hay.literalEnd? casing limit start literal = none) :
    hay.run casing limit literal start = (0, start) := by
  rw [run, missing]

/-- Where it does stand, some are taken. -/
theorem run_ne_zero (nonempty : literal ≠ [])
    (found : hay.literalEnd? casing limit start literal = some stop) :
    (hay.run casing limit literal start).1 ≠ 0 := by
  rw [run_eq hay casing limit start nonempty, found]
  exact Nat.succ_ne_zero _

end Haystack

namespace Pattern

variable {m : Type → Type} {hay : Haystack} {limit : Nat} {ending : Ending} {literal : Text}
  {casing : Casing} {atLeast atMost : Nat}

/-! ## Exclusions that repetitions imply -/

/-- The second list says by an `except` what follows from a repetition of the first one: that the
literal does not stand behind it, or if there may be none of it, that the literal does not stand
here. -/
inductive MakesExplicit : List (Pattern m) → List (Pattern m) → Prop where
  | behind (literal : Text) (casing : Casing) (atLeast atMost : Nat) (tail : List (Pattern m)) :
    MakesExplicit (.repeated literal casing atLeast atMost :: tail)
      (.repeated literal casing atLeast atMost :: .except [literal] casing :: tail)
  | instead (literal : Text) (casing : Casing) (tail : List (Pattern m)) :
    MakesExplicit (.repeated literal casing 0 0 :: tail) (.except [literal] casing :: tail)

/-- Both have the lead of what stands in front, or none. -/
theorem MakesExplicit.lead_eq {front patterns patterns' : List (Pattern m)}
    (explicit : MakesExplicit patterns patterns') :
    (front ++ patterns).head?.bind Lead.of? = (front ++ patterns').head?.bind Lead.of? := by
  cases front with
  | nil => cases explicit <;> rfl
  | cons pattern rest => rfl

variable [Monad m]

/-- An `except` of a literal passes where that does not stand. -/
theorem evalAll_except_of_missing {start : Nat}
    (missing : hay.literalEnd? casing limit start literal = none) (tail : List (Pattern m)) :
    evalAll (.except [literal] casing :: tail) hay start limit ending =
      evalAll tail hay start limit ending := by
  simp [evalAll_except, missing]

/-- It does not pass where that stands. -/
theorem evalAll_except_of_found {start stop : Nat}
    (found : hay.literalEnd? casing limit start literal = some stop) (tail : List (Pattern m)) :
    evalAll (.except [literal] casing :: tail) hay start limit ending = pure .abort := by
  simp [evalAll_except, found]

/-- With the `except`, the patterns come to the same. -/
theorem MakesExplicit.evalAll_eq {patterns patterns' : List (Pattern m)}
    (explicit : MakesExplicit patterns patterns')
    (nonempty : ∀ literal casing atLeast atMost,
      .repeated literal casing atLeast atMost ∈ patterns → literal ≠ []) (start : Nat) :
    evalAll patterns hay start limit ending = evalAll patterns' hay start limit ending := by
  cases explicit with
  | behind literal casing atLeast atMost tail =>
    have literal_nonempty := nonempty literal casing atLeast atMost (.head tail)
    have missing := hay.literalEnd?_run casing limit start literal_nonempty
    rw [evalAll_repeated, evalAll_repeated, evalAll_except_of_missing missing]
  | instead literal casing tail =>
    have literal_nonempty := nonempty literal casing 0 0 (.head tail)
    rw [evalAll_repeated]
    cases found : hay.literalEnd? casing limit start literal with
    | none =>
      rw [evalAll_except_of_missing found, Haystack.run_of_missing found]
      rfl
    | some stop =>
      have some_taken := Haystack.run_ne_zero literal_nonempty found
      rw [evalAll_except_of_found found, if_neg (by omega), if_neg some_taken]

/-- Nor can patterns in front of them tell the difference. -/
theorem MakesExplicit.evalAll_append_eq {front patterns patterns' : List (Pattern m)}
    (explicit : MakesExplicit patterns patterns')
    (nonempty : ∀ literal casing atLeast atMost,
      .repeated literal casing atLeast atMost ∈ patterns → literal ≠ [])
    (own : ∀ pattern ∈ front, pattern.kind ≠ .custom) (start : Nat) :
    evalAll (front ++ patterns) hay start limit ending =
      evalAll (front ++ patterns') hay start limit ending := by
  refine evalAll_append_congr own (fun _ _ _ => ?_) (explicit.evalAll_eq nonempty) start
  cases explicit <;> rfl

end Pattern

/-! ## Sequences -/

namespace Sequence

/-- **A repetition takes all there is, and gives nothing back**: between two boundaries it takes the
greatest number of copies of its literal that stand in a row and end by the limit, up to the end of
that row, behind which the literal does not stand. So an `except` of the literal directly behind a
repetition makes no difference in a sequence, nor does an `except` in the place of a repetition of
which there may be none, as long as no pattern of a caller's own stands in front: tried anywhere,
the sequences come to the same, and they answer alike. -/
theorem repetition_takes_all :
    (∀ (hay : Haystack) (casing : Casing) (literal : Text) (start limit : Nat), literal ≠ [] →
      hay.isBoundary start = true → hay.isBoundary limit = true → start ≤ limit →
      ∃ count stop, hay.run casing limit literal start = (count, stop) ∧
        IsGreatest {count | ∃ stop,
          hay.literalEnd? casing limit start (literal.copies count) = some stop} count ∧
        hay.literalEnd? casing limit start (literal.copies count) = some stop ∧
        hay.literalEnd? casing limit stop literal = none ∧
        hay.LongestRow casing literal limit count start stop ∧ start + count ≤ stop) ∧
    ∀ front patterns patterns' : List (Pattern Id), Pattern.MakesExplicit patterns patterns' →
      (∀ pattern ∈ front, pattern.kind ≠ .custom) →
      ∀ sequence sequence' : Sequence Id, sequence.patterns = front ++ patterns →
        sequence'.patterns = front ++ patterns' →
        (∀ hay start limit ending, (sequence.eval hay start limit ending).run =
          (sequence'.eval hay start limit ending).run) ∧
        sequence.SameAnswers sequence' := by
  constructor
  · intro hay casing literal start limit nonempty boundary limitBoundary le
    have longest : hay.LongestRow casing literal limit _ start _ :=
      Haystack.longestRow_run limitBoundary nonempty le
    exact ⟨_, _, rfl, longest.isGreatest limitBoundary boundary,
      longest.literalEnd?_eq limitBoundary boundary,
      hay.literalEnd?_run casing limit start nonempty, longest, longest.row.add_le nonempty⟩
  · intro front patterns patterns' explicit own sequence sequence' declared declared'
    have nonempty : ∀ literal casing atLeast atMost,
        .repeated literal casing atLeast atMost ∈ patterns → literal ≠ [] := by
      intro literal casing atLeast atMost member
      have listed : Pattern.repeated literal casing atLeast atMost ∈ sequence.patterns := by
        rw [declared]
        exact List.mem_append_right front member
      exact sequence.repeated_ne_nil listed
    have same : ∀ hay start limit ending,
        sequence.eval hay start limit ending = sequence'.eval hay start limit ending := by
      intro hay start limit ending
      rw [eval_eq_evalAll, eval_eq_evalAll, declared, declared']
      exact explicit.evalAll_append_eq nonempty own start
    refine ⟨fun hay start limit ending => congrArg Id.run (same hay start limit ending),
      sameAnswers_of_eval_eq same (.inl ?_)⟩
    rw [lead?, lead?, declared, declared']
    exact explicit.lead_eq

/-- A `k` of any case three times behind an `x`, the last one as the Kelvin sign of three bytes, and
then a `b`, all of it behind a `y`: an `except` of `k` before the `b` makes no difference. -/
theorem repetition_takes_all_kelvin :
    let hay : Haystack := { text := ['y', 'x', 'k', 'K', '\u212a', 'b'] }
    let sequence : Sequence Id :=
      ⟨[.text [['x']] .exact, .repeated ['k'] .folded 1 Pattern.unbounded,
        .text [['b']] .exact], rfl⟩
    let sequence' : Sequence Id :=
      ⟨[.text [['x']] .exact, .repeated ['k'] .folded 1 Pattern.unbounded,
        .except [['k']] .folded, .text [['b']] .exact], rfl⟩
    hay.run .folded 8 ['k'] 2 = (3, 7) ∧
      IsGreatest {count | ∃ stop,
        hay.literalEnd? .folded 8 2 (Text.copies ['k'] count) = some stop} 3 ∧
      ∀ either ∈ [sequence, sequence'],
        (either.isMatch (Scope.ofRange hay 1 8)).run = true ∧
        (either.find? (Scope.full hay)).run = some ⟨hay, 1, 8⟩ ∧
        (either.findAll (Scope.full hay)).run = [⟨hay, 1, 8⟩] ∧
        (either.between? ⟨hay, 0, 0⟩).run = some ⟨hay, 0, 1⟩ := by
  intro hay sequence sequence'
  have taken : hay.run .folded 8 ['k'] 2 = (3, 7) := by decide +kernel
  have whole : (sequence.isMatch (Scope.ofRange hay 1 8)).run = true := by decide +kernel
  have found : (sequence.find? (Scope.full hay)).run = some ⟨hay, 1, 8⟩ := by decide +kernel
  have listed : (sequence.findAll (Scope.full hay)).run = [⟨hay, 1, 8⟩] := by decide +kernel
  have gap : (sequence.between? ⟨hay, 0, 0⟩).run = some ⟨hay, 0, 1⟩ := by decide +kernel
  obtain ⟨takes, alike⟩ := repetition_takes_all
  obtain ⟨count, stop, taken', greatest, -⟩ :=
    takes hay .folded ['k'] 2 8 (by decide) (by decide) (by decide) (by decide)
  obtain ⟨rfl, rfl⟩ := Prod.mk.inj (taken.symm.trans taken')
  have own :
      ∀ pattern ∈ [(Pattern.text [['x']] .exact : Pattern Id)], pattern.kind ≠ .custom := by
    decide
  obtain ⟨-, answers⟩ :=
    alike [.text [['x']] .exact] _ _ (.behind ['k'] .folded 1 Pattern.unbounded _) own
      sequence sequence' rfl rfl
  refine ⟨taken, greatest, List.forall_mem_cons.2 ⟨⟨whole, found, listed, gap⟩, ?_⟩⟩
  refine List.forall_mem_singleton.2 ⟨?_, ?_, ?_, ?_⟩
  · exact (answers.isMatch _).symm.trans whole
  · exact (answers.find? _).symm.trans found
  · exact (answers.findAll _).symm.trans listed
  · exact (answers.between? _).symm.trans gap

end Sequence

end PatternSearch
