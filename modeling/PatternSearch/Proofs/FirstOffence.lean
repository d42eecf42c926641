import PatternSearch.Search.Query

/-!
# Which lists of patterns are sequences

The rules for a list of patterns can be told without the pass over the list that checks them: each
speaks of one pattern and, at most, of the one before it or of what stands behind it. The check goes
from left to right and stops at the first pattern that breaks a rule, so of all the offences that a
list may have it reports the one with the least index.

- `Sequence.WellFormed`: the rules, said of the list as a whole.
- `Sequence.Offends`: the pattern at an index breaks a rule; a list that is not empty is well-formed
  exactly if none does (`Sequence.wellFormed_iff`).
- `Sequence.FirstOffence`: the offence with the least index; the pass finds it
  (`Pattern.firstOffence?_eq_some_iff`).
- `Sequence.compile_reports_first_offence`: what becomes a sequence, and what is reported otherwise,
  by the compiler and by every query.
-/

namespace PatternSearch

variable {m : Type → Type} {patterns before rest : List (Pattern m)} {error : SequenceError}

/-! ## The rules -/

/-- The list makes sense as a whole. -/
structure Sequence.WellFormed (patterns : List (Pattern m)) : Prop where
  nonempty : patterns ≠ []
  /-- Nothing follows a `finish`. -/
  finish_last : ∀ index : Nat, patterns[index]? = some .finish → index + 1 = patterns.length
  /-- No wildcard directly follows an `except`. -/
  any_not_after_except : ∀ (index : Nat) literals casing,
    patterns[index]? = some (.except literals casing) → patterns[index + 1]? ≠ some .any
  /-- Every repetition can be met. -/
  repeated_possible : ∀ literal casing atLeast atMost,
    .repeated literal casing atLeast atMost ∈ patterns → literal ≠ [] ∧ atLeast ≤ atMost

/-- The pattern at the index breaks a rule, which the offence names. Of a repetition with an empty
literal, the bounds do not matter. -/
inductive Sequence.Offends (patterns : List (Pattern m)) : Nat → SequenceError → Prop where
  | misplacedEnd {index : Nat} : patterns[index]? = some .finish → index + 1 < patterns.length →
    Offends patterns index (.misplacedEnd index)
  | anyAfterExcept {index : Nat} {literals : List Text} {casing : Casing} :
    patterns[index]? = some (.except literals casing) → patterns[index + 1]? = some .any →
    Offends patterns (index + 1) (.anyAfterExcept (index + 1))
  | emptyRepeat {index : Nat} {casing : Casing} {atLeast atMost : Nat} :
    patterns[index]? = some (.repeated [] casing atLeast atMost) →
    Offends patterns index (.emptyRepeat index)
  | invalidRepeatBounds {index : Nat} {literal : Text} {casing : Casing} {atLeast atMost : Nat} :
    patterns[index]? = some (.repeated literal casing atLeast atMost) → literal ≠ [] →
    atMost < atLeast → Offends patterns index (.invalidRepeatBounds index atLeast atMost)

/-- The offence of the first pattern that has one. -/
def Sequence.FirstOffence (patterns : List (Pattern m)) (error : SequenceError) : Prop :=
  ∃ index, Offends patterns index error ∧
    ∀ earlier < index, ∀ other, ¬ Offends patterns earlier other

namespace Sequence

/-- Only a pattern of the list can break a rule. -/
theorem Offends.lt_length {index : Nat} (offends : Offends patterns index error) :
    index < patterns.length := by
  cases offends with
  | misplacedEnd at_index _ | anyAfterExcept _ at_index | emptyRepeat at_index
  | invalidRepeatBounds at_index _ _ => exact (List.getElem?_eq_some_iff.1 at_index).1

/-- A list is well-formed if it has a pattern and none that breaks a rule. -/
theorem wellFormed_iff :
    WellFormed patterns ↔ patterns ≠ [] ∧
      ∀ index error, ¬ Offends patterns index error := by
  constructor
  · intro wellFormed
    refine ⟨wellFormed.nonempty, fun index error offends => ?_⟩
    cases offends with
    | misplacedEnd at_index more =>
      have := wellFormed.finish_last index at_index
      omega
    | anyAfterExcept at_index next => exact wellFormed.any_not_after_except _ _ _ at_index next
    | emptyRepeat at_index =>
      have member := List.mem_of_getElem? at_index
      exact (wellFormed.repeated_possible _ _ _ _ member).1 rfl
    | invalidRepeatBounds at_index _ reversed =>
      have member := List.mem_of_getElem? at_index
      exact absurd (wellFormed.repeated_possible _ _ _ _ member).2 (Nat.not_le.2 reversed)
  · rintro ⟨nonempty, clean⟩
    refine ⟨nonempty, fun index at_index => ?_,
      fun index literals casing at_index next => ?_, ?_⟩
    · have lt := (List.getElem?_eq_some_iff.1 at_index).1
      refine Nat.le_antisymm lt (Nat.le_of_not_lt fun more => ?_)
      exact clean index _ (.misplacedEnd at_index more)
    · exact clean (index + 1) _ (.anyAfterExcept at_index next)
    · intro literal casing atLeast atMost member
      obtain ⟨index, at_index⟩ := List.mem_iff_getElem?.1 member
      have nonempty' : literal ≠ [] := by
        rintro rfl
        exact clean index _ (.emptyRepeat at_index)
      refine ⟨nonempty', Nat.le_of_not_lt fun reversed => ?_⟩
      exact clean index _ (.invalidRepeatBounds at_index nonempty' reversed)

end Sequence

/-! ## The check of one pattern -/

namespace Pattern

open Sequence

/-- The pattern behind those in front stands at their number. -/
theorem getElem?_append_cons_length (before : List (Pattern m)) (pattern : Pattern m)
    (rest : List (Pattern m)) : (before ++ pattern :: rest)[before.length]? = some pattern := by
  rw [List.getElem?_append_right (Nat.le_refl _), Nat.sub_self]
  rfl

/-- The kind of the pattern in front of an index. -/
theorem kind_getLast?_eq_except_iff (before rest : List (Pattern m)) :
    before.getLast?.map kind = some .except ↔
      ∃ index literals casing, before.length = index + 1 ∧
        (before ++ rest)[index]? = some (.except literals casing) := by
  rcases List.eq_nil_or_concat before with rfl | ⟨front, last, rfl⟩
  · simp
  · have at_last : (front ++ [last] ++ rest)[front.length]? = some last := by
      rw [List.append_assoc]
      exact getElem?_append_cons_length front last rest
    rw [List.concat_eq_append, List.getLast?_concat, List.length_append]
    constructor
    · intro is_except
      cases last with
      | except literals casing => exact ⟨front.length, literals, casing, rfl, at_last⟩
      | _ => cases Option.some_inj.1 is_except
    · rintro ⟨index, literals, casing, reach, at_index⟩
      obtain rfl : front.length = index := Nat.succ.inj reach
      obtain rfl := Option.some_inj.1 (at_last.symm.trans at_index)
      rfl

/-- What the check says of a pattern in its place is the rule that it breaks there. -/
theorem offence?_eq_some_iff (before : List (Pattern m)) (pattern : Pattern m)
    (rest : List (Pattern m)) (error : SequenceError) :
    pattern.offence? before.length (before.getLast?.map kind) rest.isEmpty = some error ↔
      Offends (before ++ pattern :: rest) before.length error := by
  have here := getElem?_append_cons_length before pattern rest
  generalize listed : before ++ pattern :: rest = patterns at here ⊢
  have size : patterns.length = before.length + 1 + rest.length := by
    rw [← listed, List.length_append, List.length_cons]
    omega
  have is_except := kind_getLast?_eq_except_iff before (pattern :: rest)
  rw [listed] at is_except
  constructor
  · intro found
    cases pattern with
    | finish =>
      dsimp only [offence?] at found
      split at found
      · cases found
      · next more =>
        obtain rfl := Option.some_inj.1 found
        refine .misplacedEnd here ?_
        have := List.length_pos_iff.2 fun empty => more (List.isEmpty_iff.2 empty)
        omega
    | any =>
      dsimp only [offence?] at found
      split at found
      · next after =>
        obtain rfl := Option.some_inj.1 found
        obtain ⟨index, literals, casing, reach, at_index⟩ := is_except.1 after
        rw [reach] at here ⊢
        exact .anyAfterExcept at_index here
      · cases found
    | repeated literal casing atLeast atMost =>
      dsimp only [offence?] at found
      split at found
      · next empty =>
        obtain rfl := Option.some_inj.1 found
        obtain rfl := List.isEmpty_iff.1 empty
        exact .emptyRepeat here
      · next nonempty =>
        split at found
        · next reversed =>
          obtain rfl := Option.some_inj.1 found
          exact .invalidRepeatBounds here (fun empty => nonempty (List.isEmpty_iff.2 empty))
            reversed
        · cases found
    | limit | text | except | custom => cases found
  · intro offends
    generalize reach : before.length = place at offends here size is_except ⊢
    cases offends with
    | misplacedEnd at_index more =>
      obtain rfl := Option.some_inj.1 (here.symm.trans at_index)
      have longer : rest.isEmpty = false :=
        List.isEmpty_eq_false_iff.2 (List.length_pos_iff.1 (by omega))
      dsimp only [offence?]
      rw [longer]
      rfl
    | @anyAfterExcept index literals casing at_index next =>
      obtain rfl := Option.some_inj.1 (here.symm.trans next)
      dsimp only [offence?]
      rw [if_pos (is_except.2 ⟨index, literals, casing, rfl, at_index⟩)]
    | emptyRepeat at_index =>
      obtain rfl := Option.some_inj.1 (here.symm.trans at_index)
      rfl
    | invalidRepeatBounds at_index nonempty reversed =>
      obtain rfl := Option.some_inj.1 (here.symm.trans at_index)
      dsimp only [offence?]
      rw [if_neg fun empty => nonempty (List.isEmpty_iff.1 empty), if_pos reversed]

/-! ## The pass over the list -/

/-- The pass over the patterns from an index on finds the first offence from there on. -/
theorem firstOffence?_eq_some_iff (before rest : List (Pattern m)) (error : SequenceError) :
    firstOffence? before.length (before.getLast?.map kind) rest = some error ↔
      ∃ index, before.length ≤ index ∧ Offends (before ++ rest) index error ∧
        ∀ earlier, before.length ≤ earlier → earlier < index →
          ∀ other, ¬ Offends (before ++ rest) earlier other := by
  -- induction on what is left of the list, over all that may stand in front
  induction rest generalizing before with
  | nil =>
    constructor
    · nofun
    · rintro ⟨index, from_le, offends, -⟩
      have lt := offends.lt_length
      rw [List.append_nil] at lt
      omega
  | cons pattern rest ih =>
    rw [firstOffence?]
    have here := offence?_eq_some_iff before pattern rest
    cases offence : pattern.offence? before.length (before.getLast?.map kind) rest.isEmpty with
    | some found =>
      rw [offence] at here
      constructor
      · intro same
        refine ⟨before.length, Nat.le_refl _, (here error).1 same, ?_⟩
        exact fun earlier from_le lt => absurd lt (Nat.not_lt.2 from_le)
      · rintro ⟨index, from_le, offends, first⟩
        rcases Nat.lt_or_eq_of_le from_le with behind | rfl
        · exact absurd ((here found).1 rfl) (first _ (Nat.le_refl _) behind found)
        · exact (here error).2 offends
    | none =>
      rw [offence] at here
      have clean : ∀ other, ¬ Offends (before ++ pattern :: rest) before.length other :=
        fun other offends => nomatch (here other).2 offends
      have behind := ih (before ++ [pattern])
      rw [List.length_append, List.length_singleton, List.getLast?_concat, List.append_assoc,
        List.singleton_append, Option.map_some] at behind
      dsimp only
      rw [behind]
      constructor
      · rintro ⟨index, from_le, offends, first⟩
        refine ⟨index, by omega, offends, fun earlier from_le' lt => ?_⟩
        rcases Nat.lt_or_eq_of_le from_le' with later | rfl
        · exact first earlier later lt
        · exact clean
      · rintro ⟨index, from_le, offends, first⟩
        rcases Nat.lt_or_eq_of_le from_le with later | rfl
        · exact ⟨index, later, offends, fun earlier from_le' => first earlier (by omega)⟩
        · exact absurd offends (clean error)

/-! ## Lists without an offence -/

/-- Where a pattern stands makes no difference to whether it offends there. -/
theorem offence?_eq_none_iff_shifted (pattern : Pattern m) (index index' : Nat)
    (previous : Option Kind) (isLast : Bool) :
    pattern.offence? index previous isLast = none ↔
      pattern.offence? index' previous isLast = none := by
  cases pattern with
  | finish => cases isLast <;> simp [offence?]
  | any => by_cases after : previous = some .except <;> simp [offence?, after]
  | repeated literal casing atLeast atMost =>
    by_cases empty : literal.isEmpty = true <;> by_cases reversed : atMost < atLeast <;>
      simp [offence?, empty, reversed]
  | limit | text | except | custom => exact Iff.rfl

theorem firstOffence?_cons_eq_none_iff (index : Nat) (previous : Option Kind) (pattern : Pattern m)
    (rest : List (Pattern m)) :
    firstOffence? index previous (pattern :: rest) = none ↔
      pattern.offence? index previous rest.isEmpty = none ∧
        firstOffence? (index + 1) (some pattern.kind) rest = none := by
  rw [firstOffence?]
  cases pattern.offence? index previous rest.isEmpty with
  | some error => simp
  | none => simp

/-- A list has no offence behind other patterns if one that it may stand for has none. -/
theorem firstOffence?_append_eq_none_iff {tail tail' : List (Pattern m)}
    (isEmpty_eq : tail.isEmpty = tail'.isEmpty)
    (same : ∀ index index' previous,
      firstOffence? index previous tail = none ↔ firstOffence? index' previous tail' = none)
    (front : List (Pattern m)) (index index' : Nat) (previous : Option Kind) :
    firstOffence? index previous (front ++ tail) = none ↔
      firstOffence? index' previous (front ++ tail') = none := by
  induction front generalizing index index' previous with
  | nil => exact same index index' previous
  | cons pattern rest ih =>
    have last_eq : (rest ++ tail).isEmpty = (rest ++ tail').isEmpty := by
      cases rest with
      | nil => exact isEmpty_eq
      | cons _ _ => rfl
    rw [List.cons_append, List.cons_append, firstOffence?_cons_eq_none_iff,
      firstOffence?_cons_eq_none_iff, last_eq, pattern.offence?_eq_none_iff_shifted index index',
      ih (index + 1) (index' + 1)]

/-- Where a list stands makes no difference to whether it has an offence. -/
theorem firstOffence?_eq_none_iff_shifted (patterns : List (Pattern m)) (index index' : Nat)
    (previous : Option Kind) :
    firstOffence? index previous patterns = none ↔
      firstOffence? index' previous patterns = none := by
  have nothing :
      ∀ index index' previous, firstOffence? index previous ([] : List (Pattern m)) = none ↔
      firstOffence? index' previous ([] : List (Pattern m)) = none := fun _ _ _ => Iff.rfl
  have shifted := firstOffence?_append_eq_none_iff rfl nothing patterns index index' previous
  rwa [List.append_nil] at shifted

end Pattern

namespace Sequence

/-- What is put in the place of patterns of a sequence makes no difference to whether it is one, if
it has no offence there either. -/
theorem offence?_append_eq_none_iff {tail tail' : List (Pattern m)} (nonempty : tail ≠ [])
    (nonempty' : tail' ≠ [])
    (same : ∀ index index' previous, Pattern.firstOffence? index previous tail = none ↔
      Pattern.firstOffence? index' previous tail' = none)
    (front : List (Pattern m)) :
    offence? (front ++ tail) = none ↔ offence? (front ++ tail') = none := by
  have isEmpty_eq : tail.isEmpty = tail'.isEmpty :=
    (List.isEmpty_eq_false_iff.2 nonempty).trans (List.isEmpty_eq_false_iff.2 nonempty').symm
  have pass := Pattern.firstOffence?_append_eq_none_iff isEmpty_eq same front 0 0 none
  simpa [offence?, nonempty, nonempty'] using pass

/-- A list is refused with its first offence; the empty one has an offence of its own. -/
theorem offence?_eq_some_iff_first :
    offence? patterns = some error ↔
      patterns = [] ∧ error = .empty ∨ FirstOffence patterns error := by
  cases patterns with
  | nil =>
    constructor
    · intro found
      exact .inl ⟨rfl, (Option.some_inj.1 found).symm⟩
    · rintro (⟨-, rfl⟩ | ⟨index, offends, -⟩)
      · rfl
      · exact absurd offends.lt_length (Nat.not_lt_zero index)
  | cons pattern rest =>
    have pass := Pattern.firstOffence?_eq_some_iff [] (pattern :: rest) error
    simp only [List.length_nil, Nat.zero_le, List.nil_append, true_and, forall_const] at pass
    have not_empty : ¬ (pattern :: rest = [] ∧ error = .empty) := nofun
    rw [or_iff_right not_empty]
    exact pass

/-- A list without an offence is one that is well-formed. -/
theorem offence?_eq_none_iff_wellFormed : offence? patterns = none ↔ WellFormed patterns := by
  rw [Option.eq_none_iff_forall_ne_some, wellFormed_iff]
  constructor
  · intro clean
    have nonempty : patterns ≠ [] := fun empty =>
      clean .empty (offence?_eq_some_iff_first.2 (.inl ⟨empty, rfl⟩))
    refine ⟨nonempty, fun index => ?_⟩
    -- with the least index that has an offence there would be a first one
    induction index using Nat.strongRecOn with
    | _ index earlier =>
      intro error offends
      exact clean error (offence?_eq_some_iff_first.2 (.inr ⟨index, offends, earlier⟩))
  · rintro ⟨nonempty, clean⟩ error found
    rcases offence?_eq_some_iff_first.1 found with ⟨empty, -⟩ | ⟨index, offends, -⟩
    · exact nonempty empty
    · exact clean index error offends

end Sequence

/-! ## Queries -/

namespace Query

variable [Monad m]

/-- A query that has patterns reports their first offence, whatever it asks. -/
theorem answer_eq_error_iff {α : Type} {nothing : α} {ask : Sequence m → m α} :
    answer patterns nothing ask = .error error ↔ Sequence.FirstOffence patterns error := by
  have refused : Sequence.compile patterns = .error error ↔
      patterns = [] ∧ error = .empty ∨ Sequence.FirstOffence patterns error :=
    Sequence.compile_eq_error_iff.trans Sequence.offence?_eq_some_iff_first
  unfold answer
  cases patterns with
  | nil =>
    constructor
    · nofun
    · rintro ⟨index, offends, -⟩
      exact absurd offends.lt_length (Nat.not_lt_zero index)
  | cons pattern rest =>
    have not_empty : ¬ (pattern :: rest = [] ∧ error = .empty) := nofun
    rw [or_iff_right not_empty] at refused
    rw [← refused]
    show (Sequence.compile (pattern :: rest)).map ask = .error error ↔ _
    cases Sequence.compile (pattern :: rest) with
    | ok sequence => exact ⟨nofun, nofun⟩
    | error found => exact ⟨fun same => congrArg _ (Except.error.inj same),
        fun same => congrArg _ (Except.error.inj same)⟩

/-- Every query of the patterns answers with the offence, whatever it is asked, exactly if the
statement holds. -/
structure RefusedIff (patterns : List (Pattern m)) (error : SequenceError) (statement : Prop) :
    Prop where
  isMatch : ∀ scope, isMatch patterns scope = .error error ↔ statement
  find? : ∀ scope after?, find? patterns scope after? = .error error ↔ statement
  findAll : ∀ scope, findAll patterns scope = .error error ↔ statement
  between? : ∀ interval limit?, between? patterns interval limit? = .error error ↔ statement

end Query

namespace Sequence

/-- **The first offence is reported**: the compiler accepts the lists that are well-formed, and
walking the nodes that it builds of one gives the list back in order; it refuses every other list
with the offence of the first pattern that has one. So does every query, without regard to what it
asks; only the empty list, which is refused as a sequence, is no offence there but matches
nothing. -/
theorem compile_reports_first_offence [Monad m] (patterns : List (Pattern m)) :
    ((∃ sequence, compile patterns = .ok sequence) ↔ WellFormed patterns) ∧
    (∀ sequence, compile patterns = .ok sequence →
      sequence.patterns = patterns ∧ sequence.chain.patterns = patterns ∧
      sequence.length = patterns.length) ∧
    (∀ error, compile patterns = .error error ↔
      patterns = [] ∧ error = .empty ∨ FirstOffence patterns error) ∧
    (∀ error, Query.RefusedIff patterns error (FirstOffence patterns error)) ∧
    (patterns = [] →
      (∀ scope, Query.isMatch patterns scope = .ok (pure false)) ∧
      (∀ scope after?, Query.find? patterns scope after? = .ok (pure none)) ∧
      (∀ scope, Query.findAll patterns scope = .ok (pure [])) ∧
      ∀ interval limit?, Query.between? patterns interval limit? = .ok (pure none)) := by
  refine ⟨?_, fun sequence compiled => ?_, fun error => ?_, fun error => ?_, ?_⟩
  · rw [← offence?_eq_none_iff_wellFormed]
    constructor
    · rintro ⟨sequence, compiled⟩
      rw [← compile_eq_ok_iff.1 compiled]
      exact sequence.valid
    · intro valid
      exact ⟨⟨patterns, valid⟩, compile_eq_ok_iff.2 rfl⟩
  · have kept := compile_eq_ok_iff.1 compiled
    exact ⟨kept, sequence.patterns_chain.trans kept, congrArg List.length kept⟩
  · rw [compile_eq_error_iff, offence?_eq_some_iff_first]
  · exact ⟨fun _ => Query.answer_eq_error_iff, fun _ _ => Query.answer_eq_error_iff,
      fun _ => Query.answer_eq_error_iff, fun _ _ => Query.answer_eq_error_iff⟩
  · rintro rfl
    exact ⟨fun _ => rfl, fun _ _ => rfl, fun _ => rfl, fun _ _ => rfl⟩

/-- Of two offences the first is reported, here a repetition of nothing with bounds that no number
meets. -/
example :
    let patterns : List (Pattern Id) :=
      [.text [['a']] .exact, .repeated [] .exact 2 1, .finish, .any]
    offence? patterns = some (.emptyRepeat 1) := by
  decide

end Sequence

end PatternSearch
