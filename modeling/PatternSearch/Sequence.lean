import PatternSearch.Pattern.Chain
import PatternSearch.Pattern.Describe

/-!
# Sequences

A sequence is a list of patterns that makes sense as a whole: it is not empty, nothing follows a
`finish`, no wildcard directly follows an `except` (the wildcard would step over what the `except`
forbids), and every repetition can be met. A list that breaks a rule is refused with the first
offence.

- `SequenceError` lists the offences and `SequenceError.message` their wording.
- `Pattern.offence?` is the offence of one pattern in its place, `Sequence.offence?` that of a list.
- `Sequence.compile` makes a sequence of a list of patterns.
- `Sequence.chain` is what a sequence is tried as; that is to try its patterns
  (`Sequence.eval_eq_evalAll`).
-/

namespace PatternSearch

/-! ## Offences -/

/-- Why a list of patterns is not a sequence. -/
inductive SequenceError where
  /-- There are no patterns. -/
  | empty
  /-- A `finish` is not the last pattern. -/
  | misplacedEnd (index : Nat)
  /-- A wildcard directly follows an `except`. -/
  | anyAfterExcept (index : Nat)
  /-- The literal to be repeated is empty. -/
  | emptyRepeat (index : Nat)
  /-- The least number of repetitions is above the greatest. -/
  | invalidRepeatBounds (index atLeast atMost : Nat)
  deriving DecidableEq, Repr

/-- The wording of an offence. -/
def SequenceError.message : SequenceError → String
  | .empty => "cannot compile an empty pattern sequence"
  | .misplacedEnd index =>
    "'End' can only be placed at the end of a pattern sequence (found at index " ++
      toString index ++ ")"
  | .anyAfterExcept index =>
    "'Any' cannot come immediately after 'Except' (found at index " ++ toString index ++ ")"
  | .emptyRepeat index => "'Repeat' at index " ++ toString index ++ " has an empty literal"
  | .invalidRepeatBounds index atLeast atMost =>
    "'Repeat' at index " ++ toString index ++ " requires at least " ++ toString atLeast ++
      " but at most " ++ toString atMost ++ " repetitions"

variable {m : Type → Type}

/-- The offence of a pattern at `index`, given the kind of the pattern before it and whether it is
the last one. -/
def Pattern.offence? (pattern : Pattern m) (index : Nat) (previous : Option Pattern.Kind)
    (isLast : Bool) : Option SequenceError :=
  match pattern with
  | .finish => if isLast then none else some (.misplacedEnd index)
  | .any => if previous = some .except then some (.anyAfterExcept index) else none
  | .repeated literal _ atLeast atMost =>
    if literal.isEmpty then some (.emptyRepeat index)
    else if atMost < atLeast then some (.invalidRepeatBounds index atLeast atMost)
    else none
  | _ => none

/-- The first offence among the patterns from `index` on. -/
def Pattern.firstOffence? (index : Nat) (previous : Option Pattern.Kind) :
    List (Pattern m) → Option SequenceError
  | [] => none
  | pattern :: rest =>
    match pattern.offence? index previous rest.isEmpty with
    | some offence => some offence
    | none => firstOffence? (index + 1) (some pattern.kind) rest

/-! ## Sequences -/

/-- The first offence of a list of patterns. -/
def Sequence.offence? (patterns : List (Pattern m)) : Option SequenceError :=
  if patterns.isEmpty then some .empty else Pattern.firstOffence? 0 none patterns

/-- A list of patterns without an offence. -/
structure Sequence (m : Type → Type) where
  patterns : List (Pattern m)
  valid : Sequence.offence? patterns = none

namespace Sequence

/-- The sequence of these patterns, or their first offence. -/
def compile (patterns : List (Pattern m)) : Except SequenceError (Sequence m) :=
  match h : offence? patterns with
  | some offence => .error offence
  | none => .ok ⟨patterns, h⟩

/-- A list is refused with its first offence. -/
theorem compile_eq_error_iff {patterns : List (Pattern m)} {offence : SequenceError} :
    compile patterns = .error offence ↔ offence? patterns = some offence := by
  unfold compile
  split <;> simp_all

/-- A list that is accepted is kept as it is. -/
theorem compile_eq_ok_iff {patterns : List (Pattern m)} {sequence : Sequence m} :
    compile patterns = .ok sequence ↔ sequence.patterns = patterns := by
  obtain ⟨kept, valid⟩ := sequence
  unfold compile
  split
  · next offence h =>
    constructor
    · intro impossible
      cases impossible
    · rintro rfl
      rw [valid] at h
      cases h
  · simp [eq_comm]

/-- A sequence has patterns. -/
theorem patterns_ne_nil (sequence : Sequence m) : sequence.patterns ≠ [] := by
  intro empty
  have valid := sequence.valid
  rw [empty] at valid
  cases valid

/-- The patterns as the nodes that they are compiled to. -/
def chain (sequence : Sequence m) : Chain m :=
  .ofPatterns sequence.patterns

/-- Walking the nodes gives the patterns back. -/
@[simp] theorem patterns_chain (sequence : Sequence m) :
    sequence.chain.patterns = sequence.patterns :=
  Chain.patterns_ofPatterns sequence.patterns

/-- The number of patterns. -/
def length (sequence : Sequence m) : Nat :=
  sequence.chain.length

/-- Whether there are no patterns. -/
def isEmpty (sequence : Sequence m) : Bool :=
  sequence.chain.isEmpty

/-- No sequence is empty. -/
theorem isEmpty_eq_false (sequence : Sequence m) : sequence.isEmpty = false :=
  beq_eq_false_iff_ne.2 fun none => sequence.patterns_ne_nil (List.length_eq_zero_iff.1 none)

/-- The outcome of trying the sequence at `start` up to `limit`. -/
def eval [Monad m] (sequence : Sequence m) (hay : Haystack) (start limit : Nat) (ending : Ending) :
    m Outcome :=
  sequence.chain.eval hay start limit ending

/-- To try a sequence is to try its patterns. -/
theorem eval_eq_evalAll [Monad m] (sequence : Sequence m) (hay : Haystack) (start limit : Nat)
    (ending : Ending) :
    sequence.eval hay start limit ending =
      Pattern.evalAll sequence.patterns hay start limit ending :=
  Chain.eval_ofPatterns sequence.patterns hay start limit ending

/-- As something to be tried, a sequence is the continuation that its patterns make. -/
theorem eval_eq_run [Monad m] (sequence : Sequence m) (ending : Ending) :
    (fun hay start limit => sequence.eval hay start limit ending) =
      (Pattern.continuation ending sequence.patterns).run := by
  funext hay start limit
  exact sequence.eval_eq_evalAll hay start limit ending

/-- How a sequence is shown. -/
def describe (sequence : Sequence m) : String :=
  Pattern.describeAll sequence.chain.patterns

end Sequence

end PatternSearch
