import Mathlib.Data.List.Forall2
import PatternSearch.Proofs.Step

/-!
# Trying patterns on two texts in step

Two stretches of text can be searched in step if their boundaries correspond and the literals stand
at corresponding places. The patterns then have corresponding outcomes, although the offsets may
differ.

- `Alignment`: two stretches of text whose boundaries correspond, one to one and in order.
- `Alignment.Alike`: patterns that differ at most in literals that stand at corresponding places.
- `Alignment.outcomes_evalAll`: lists of such patterns have corresponding outcomes.
-/

namespace PatternSearch

/-- Two stretches of text, each up to its limit, whose boundaries correspond in order. -/
structure Alignment where
  hay : Haystack
  hay' : Haystack
  limit : Nat
  limit' : Nat
  /-- The boundaries that correspond. -/
  Rel : Nat → Nat → Prop
  isBoundary {pos pos' : Nat} : Rel pos pos' → hay.isBoundary pos = true
  isBoundary' {pos pos' : Nat} : Rel pos pos' → hay'.isBoundary pos' = true
  le_limit {pos pos' : Nat} : Rel pos pos' → pos ≤ limit
  le_limit' {pos pos' : Nat} : Rel pos pos' → pos' ≤ limit'
  rel_limit : Rel limit limit'
  le_iff {pos pos' other other' : Nat} : Rel pos pos' → Rel other other' →
    (pos ≤ other ↔ pos' ≤ other')
  /-- Behind boundaries that correspond, every boundary up to the limit has a counterpart. -/
  total {first first' pos : Nat} : Rel first first' → hay.isBoundary pos = true →
    first ≤ pos → pos ≤ limit → ∃ pos', Rel pos pos'
  total' {first first' pos' : Nat} : Rel first first' → hay'.isBoundary pos' = true →
    first' ≤ pos' → pos' ≤ limit' → ∃ pos, Rel pos pos'

/-- Outcomes that correspond: the same failure, or successes that stop at related offsets. -/
inductive Outcome.Aligned (rel : Nat → Nat → Prop) : Outcome → Outcome → Prop where
  | abort : Outcome.Aligned rel .abort .abort
  | backtrack : Outcome.Aligned rel .backtrack .backtrack
  | success {stop stop' : Nat} : rel stop stop' →
    Outcome.Aligned rel (.success stop) (.success stop')

/-- Outcomes that correspond are successes together. -/
theorem Outcome.Aligned.isSuccess_eq {rel : Nat → Nat → Prop} {outcome outcome' : Outcome}
    (aligned : outcome.Aligned rel outcome') : outcome.isSuccess = outcome'.isSuccess := by
  cases aligned <;> rfl

namespace Alignment

variable (alignment : Alignment) {pos pos' other other' : Nat}

/-! ## Offsets -/

/-- The same stretches, the other way round. -/
def symm : Alignment where
  hay := alignment.hay'
  hay' := alignment.hay
  limit := alignment.limit'
  limit' := alignment.limit
  Rel pos pos' := alignment.Rel pos' pos
  isBoundary := alignment.isBoundary'
  isBoundary' := alignment.isBoundary
  le_limit := alignment.le_limit'
  le_limit' := alignment.le_limit
  rel_limit := alignment.rel_limit
  le_iff rel rel' := (alignment.le_iff rel rel').symm
  total := alignment.total'
  total' := alignment.total

variable {alignment}

theorem lt_iff (rel : alignment.Rel pos pos') (rel' : alignment.Rel other other') :
    pos < other ↔ pos' < other' := by
  have := alignment.le_iff rel' rel
  omega

/-- An offset has one counterpart. -/
theorem eq_of_rel (rel : alignment.Rel pos pos') (rel' : alignment.Rel pos other') :
    pos' = other' := by
  have le := (alignment.le_iff rel rel').1 (Nat.le_refl pos)
  have ge := (alignment.le_iff rel' rel).1 (Nat.le_refl pos)
  exact Nat.le_antisymm le ge

theorem eq_of_rel' (rel : alignment.Rel pos pos') (rel' : alignment.Rel other pos') :
    pos = other := by
  have le := (alignment.le_iff rel rel').2 (Nat.le_refl pos')
  have ge := (alignment.le_iff rel' rel).2 (Nat.le_refl pos')
  exact Nat.le_antisymm le ge

/-- Steps from corresponding boundaries correspond. -/
theorem rel_next (rel : alignment.Rel pos pos') (lt : pos < alignment.limit) :
    alignment.Rel (alignment.hay.next pos) (alignment.hay'.next pos') := by
  have boundary := alignment.isBoundary rel
  have boundary' := alignment.isBoundary' rel
  have limitBoundary := alignment.isBoundary alignment.rel_limit
  have limitBoundary' := alignment.isBoundary' alignment.rel_limit
  have lt' : pos' < alignment.limit' := (lt_iff rel alignment.rel_limit).1 lt
  have ahead : pos < alignment.hay.next pos := Haystack.lt_next_of_lt limitBoundary lt
  have ahead' : pos' < alignment.hay'.next pos' := Haystack.lt_next_of_lt limitBoundary' lt'
  -- each step ends where the counterpart of the other one does, or before
  obtain ⟨reached', related⟩ := alignment.total rel (alignment.hay.isBoundary_next pos)
    (Nat.le_of_lt ahead) (Haystack.next_le_of_lt boundary limitBoundary lt)
  obtain ⟨reached, related'⟩ := alignment.total' rel (alignment.hay'.isBoundary_next pos')
    (Nat.le_of_lt ahead') (Haystack.next_le_of_lt boundary' limitBoundary' lt')
  have behind : pos < reached := (lt_iff rel related').2 ahead'
  have behind' : pos' < reached' := (lt_iff rel related).1 ahead
  have le : alignment.hay.next pos ≤ reached :=
    Haystack.next_le_of_lt boundary (alignment.isBoundary related') behind
  have ge' : alignment.hay'.next pos' ≤ reached' :=
    Haystack.next_le_of_lt boundary' (alignment.isBoundary' related) behind'
  have le' : reached' ≤ alignment.hay'.next pos' := (alignment.le_iff related related').1 le
  obtain rfl : reached' = alignment.hay'.next pos' := Nat.le_antisymm le' ge'
  exact related

/-! ## Literals -/

/-- The two literals stand at corresponding places. -/
def SameEnds (alignment : Alignment) (casing : Casing) (literal literal' : Text) : Prop :=
  ∀ pos pos', alignment.Rel pos pos' →
    Option.Rel alignment.Rel (alignment.hay.literalEnd? casing alignment.limit pos literal)
      (alignment.hay'.literalEnd? casing alignment.limit' pos' literal')

namespace SameEnds

variable {casing : Casing} {literal literal' : Text}

/-- Where one literal stands, the other one does, too. -/
theorem of_some {mid : Nat} (same : alignment.SameEnds casing literal literal')
    (rel : alignment.Rel pos pos')
    (found : alignment.hay.literalEnd? casing alignment.limit pos literal = some mid) :
    ∃ mid', alignment.hay'.literalEnd? casing alignment.limit' pos' literal' = some mid' ∧
      alignment.Rel mid mid' := by
  have ends := same pos pos' rel
  rw [found] at ends
  generalize alignment.hay'.literalEnd? casing alignment.limit' pos' literal' = found' at ends ⊢
  cases ends with
  | @some _ mid' related => exact ⟨mid', rfl, related⟩

/-- Where one literal does not stand, neither does the other one. -/
theorem of_none (same : alignment.SameEnds casing literal literal')
    (rel : alignment.Rel pos pos')
    (missing : alignment.hay.literalEnd? casing alignment.limit pos literal = none) :
    alignment.hay'.literalEnd? casing alignment.limit' pos' literal' = none := by
  have ends := same pos pos' rel
  rw [missing] at ends
  generalize alignment.hay'.literalEnd? casing alignment.limit' pos' literal' = found' at ends ⊢
  cases ends
  rfl

end SameEnds

/-- Rows of such literals are equally long and end at corresponding places. -/
theorem rel_run {casing : Casing} {literal literal' : Text}
    (same : alignment.SameEnds casing literal literal') (rel : alignment.Rel pos pos') :
    (alignment.hay.run casing alignment.limit literal pos).1 =
        (alignment.hay'.run casing alignment.limit' literal' pos').1 ∧
      alignment.Rel (alignment.hay.run casing alignment.limit literal pos).2
        (alignment.hay'.run casing alignment.limit' literal' pos').2 := by
  -- one row is followed copy by copy, and the other one with it
  fun_induction Haystack.run alignment.hay casing alignment.limit literal pos
    generalizing pos' with
  | case1 pos mid found ahead count last eq ih =>
    obtain ⟨mid', found', related⟩ := same.of_some rel found
    have ahead' : pos' < mid' ∧ mid' ≤ alignment.limit' :=
      ⟨(lt_iff rel related).1 ahead.1, alignment.le_limit' related⟩
    obtain ⟨counts, lasts⟩ := ih related
    rw [eq] at counts lasts
    rw [Haystack.run, found']
    dsimp only
    rw [if_pos ahead']
    exact ⟨congrArg (· + 1) counts, lasts⟩
  | case2 pos mid found stuck =>
    obtain ⟨mid', found', related⟩ := same.of_some rel found
    have stuck' : ¬ (pos' < mid' ∧ mid' ≤ alignment.limit') := fun ahead' =>
      stuck ⟨(lt_iff rel related).2 ahead'.1, alignment.le_limit related⟩
    rw [Haystack.run, found']
    dsimp only
    rw [if_neg stuck']
    exact ⟨rfl, rel⟩
  | case3 pos missing =>
    rw [Haystack.run, same.of_none rel missing]
    exact ⟨rfl, rel⟩

/-! ## Alternatives and places -/

variable {attempt attempt' : Nat → Id Outcome}

/-- Alternatives at corresponding places have corresponding outcomes. -/
theorem outcomes_firstSuccess
    (attempts : ∀ pos pos', alignment.Rel pos pos' →
      (attempt pos).run.Aligned alignment.Rel (attempt' pos').run)
    {places places' : List Nat} (alike : List.Forall₂ alignment.Rel places places') :
    (firstSuccess attempt places).run.Aligned alignment.Rel
      (firstSuccess attempt' places').run := by
  induction alike with
  | nil => exact .backtrack
  | @cons place place' places places' rel _ ih =>
    have aligned := attempts place place' rel
    rw [firstSuccess, firstSuccess, Id.run_bind, Id.run_bind]
    cases outcome : (attempt place).run with
    | success stop =>
      rw [outcome] at aligned
      generalize (attempt' place').run = outcome' at aligned
      cases aligned with
      | success related => exact .success related
    | abort | backtrack =>
      rw [outcome] at aligned
      generalize (attempt' place').run = outcome' at aligned
      cases aligned
      exact ih

/-- Sweeps from corresponding places have corresponding outcomes. -/
theorem outcomes_sweep
    (attempts : ∀ pos pos', alignment.Rel pos pos' →
      (attempt pos).run.Aligned alignment.Rel (attempt' pos').run)
    (rel : alignment.Rel pos pos') :
    (alignment.hay.sweep alignment.limit attempt pos).run.Aligned alignment.Rel
      (alignment.hay'.sweep alignment.limit' attempt' pos').run := by
  have limitBoundary := alignment.isBoundary alignment.rel_limit
  have boundary := alignment.isBoundary rel
  have le := alignment.le_limit rel
  -- the walk over one stretch, with the counterpart of each place at hand
  induction pos, boundary, le using Haystack.walk_induction limitBoundary generalizing pos' with
  | last =>
    obtain rfl := eq_of_rel rel alignment.rel_limit
    have aligned := attempts _ _ rel
    rw [Haystack.run_sweep, Haystack.run_sweep alignment.hay']
    generalize (attempt alignment.limit).run = outcome at aligned ⊢
    generalize (attempt' alignment.limit').run = outcome' at aligned ⊢
    cases aligned with
    | abort => exact .abort
    | success related => exact .success related
    | backtrack =>
      dsimp only
      rw [if_neg fun ahead => Nat.lt_irrefl _ ahead.1, if_neg fun ahead => Nat.lt_irrefl _ ahead.1]
      exact .backtrack
  | step pos boundary lt near ahead ih =>
    have related := rel_next rel lt
    have aligned := attempts _ _ rel
    have lt' : pos' < alignment.limit' := (lt_iff rel alignment.rel_limit).1 lt
    have ahead' : pos' < alignment.hay'.next pos' := (lt_iff rel related).1 ahead
    rw [Haystack.run_sweep, Haystack.run_sweep alignment.hay']
    generalize (attempt pos).run = outcome at aligned ⊢
    generalize (attempt' pos').run = outcome' at aligned ⊢
    cases aligned with
    | abort => exact .abort
    | success related => exact .success related
    | backtrack =>
      dsimp only
      rw [if_pos ⟨lt, ahead⟩, if_pos ⟨lt', ahead'⟩]
      exact ih related

/-! ## Patterns -/

/-- Patterns that differ at most in literals, which stand at corresponding places. -/
inductive Alike (alignment : Alignment) : Pattern Id → Pattern Id → Prop where
  | limit : Alike alignment .limit .limit
  | finish : Alike alignment .finish .finish
  | any : Alike alignment .any .any
  | text {literals literals' : List Text} {casing : Casing} :
    List.Forall₂ (alignment.SameEnds casing) literals literals' →
    Alike alignment (.text literals casing) (.text literals' casing)
  | except {literals literals' : List Text} {casing : Casing} :
    List.Forall₂ (alignment.SameEnds casing) literals literals' →
    Alike alignment (.except literals casing) (.except literals' casing)
  | repeated {literal literal' : Text} {casing : Casing} {atLeast atMost : Nat} :
    alignment.SameEnds casing literal literal' →
    Alike alignment (.repeated literal casing atLeast atMost)
      (.repeated literal' casing atLeast atMost)

/-- One of the literals stands at an offset exactly if one of the others does at its counterpart. -/
theorem any_standing_eq {casing : Casing} {literals literals' : List Text}
    (alike : List.Forall₂ (alignment.SameEnds casing) literals literals')
    (rel : alignment.Rel pos pos') :
    (literals.any fun literal =>
        (alignment.hay.literalEnd? casing alignment.limit pos literal).isSome) =
      literals'.any fun literal =>
        (alignment.hay'.literalEnd? casing alignment.limit' pos' literal).isSome := by
  induction alike with
  | nil => rfl
  | @cons literal literal' _ _ same _ ih =>
    rw [List.any_cons, List.any_cons, ih]
    cases found : alignment.hay.literalEnd? casing alignment.limit pos literal with
    | none => rw [same.of_none rel found]
    | some mid =>
      obtain ⟨mid', found', -⟩ := same.of_some rel found
      rw [found']
      rfl

/-- The ends of such literals, in order, correspond. -/
theorem ends_filterMap {casing : Casing} {literals literals' : List Text}
    (alike : List.Forall₂ (alignment.SameEnds casing) literals literals')
    (rel : alignment.Rel pos pos') :
    List.Forall₂ alignment.Rel
      (literals.filterMap (alignment.hay.literalEnd? casing alignment.limit pos))
      (literals'.filterMap (alignment.hay'.literalEnd? casing alignment.limit' pos')) :=
  List.rel_filterMap (fun _ _ same => same pos pos' rel) alike

/-- The same ending asks for the same. -/
theorem outcome_ending (ending : Ending) (rel : alignment.Rel pos pos') :
    (ending.outcome pos alignment.limit).Aligned alignment.Rel
      (ending.outcome pos' alignment.limit') := by
  cases ending with
  | anywhere => exact .success rel
  | atLimit =>
    show (if pos = alignment.limit then Outcome.success pos else .abort).Aligned alignment.Rel
      (if pos' = alignment.limit' then .success pos' else .abort)
    by_cases reached : pos = alignment.limit
    · subst reached
      rw [if_pos rfl, if_pos (eq_of_rel rel alignment.rel_limit)]
      exact .success rel
    · have missed : pos' ≠ alignment.limit' := by
        rintro rfl
        exact reached (eq_of_rel' rel alignment.rel_limit)
      rw [if_neg reached, if_neg missed]
      exact .abort

/-- Lists of patterns that are alike have corresponding outcomes at corresponding offsets. -/
theorem outcomes_evalAll {patterns patterns' : List (Pattern Id)}
    (alike : List.Forall₂ alignment.Alike patterns patterns') (ending : Ending)
    (rel : alignment.Rel pos pos') :
    (Pattern.evalAll patterns alignment.hay pos alignment.limit ending).run.Aligned alignment.Rel
      (Pattern.evalAll patterns' alignment.hay' pos' alignment.limit' ending).run := by
  -- induction on the list; what follows a pattern is tried at many places, hence any related ones
  induction alike generalizing pos pos' with
  | nil => exact outcome_ending ending rel
  | @cons pattern pattern' rest rest' head tail ih =>
    cases head with
    | limit => exact outcome_ending .atLimit rel
    | finish => exact .success rel
    | any =>
      cases tail with
      | nil => exact .success alignment.rel_limit
      | cons _ _ => exact outcomes_sweep (fun _ _ related => ih related) rel
    | text alike =>
      exact outcomes_firstSuccess (fun _ _ related => ih related) (ends_filterMap alike rel)
    | except alike =>
      rw [Pattern.evalAll_cons, Pattern.evalAll_cons]
      dsimp only [Pattern.eval]
      rw [any_standing_eq alike rel]
      split
      · exact .abort
      · exact ih rel
    | @repeated literal literal' casing atLeast atMost same =>
      obtain ⟨counts, related⟩ := rel_run same rel
      rw [Pattern.evalAll_cons, Pattern.evalAll_cons]
      dsimp only [Pattern.eval]
      rw [counts]
      split
      · exact ih related
      · split
        · exact .backtrack
        · exact .abort

end Alignment

end PatternSearch
