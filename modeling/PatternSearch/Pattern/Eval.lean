import PatternSearch.Pattern.Basic

/-!
# Trying patterns

A list of patterns is tried from the left: the first is tried at the start, with the rest of the
list as its continuation. The failures work together so that most searches need not look far: a
wildcard moves on as long as what follows says `backtrack`, a literal takes either failure of what
follows as a reason to try the next alternative.

- `firstSuccess` tries alternatives in order, `Haystack.sweep` places in order.
- `Pattern.eval` is the outcome of one pattern, `Pattern.evalAll` that of a list.
-/

namespace PatternSearch

variable {m : Type → Type} [Monad m]

/-- The first success among the attempts at the given offsets; both failures lead to the next. -/
def firstSuccess (attempt : Nat → m Outcome) : List Nat → m Outcome
  | [] => pure .backtrack
  | start :: rest => do
    match ← attempt start with
    | .success stop => pure (.success stop)
    | _ => firstSuccess attempt rest

/-- The first outcome other than `backtrack` among the attempts at `pos` and at the places that one
step after another leads to, up to the first that is not below the limit. A limit past the end of
the text cannot be reached; the walk ends at the end of the text then. -/
def Haystack.sweep (hay : Haystack) (limit : Nat) (attempt : Nat → m Outcome) (pos : Nat) :
    m Outcome := do
  match ← attempt pos with
  | .backtrack =>
    if pos < limit ∧ pos < hay.next pos then hay.sweep limit attempt (hay.next pos)
    else pure .backtrack
  | decisive => pure decisive
termination_by limit - pos

namespace Pattern

/-- The outcome of trying a pattern at `start` up to `limit`, where `next` is to follow. -/
def eval (pattern : Pattern m) (hay : Haystack) (start limit : Nat) (next : Continuation m) :
    m Outcome :=
  match pattern with
  | .limit => pure (Ending.atLimit.outcome start limit)
  | .finish => pure (.success start)
  | .any =>
    if next.isLast then pure (.success limit)
    else hay.sweep limit (fun pos => next.run hay pos limit) start
  | .text literals casing =>
    firstSuccess (fun stop => next.run hay stop limit)
      (literals.filterMap (hay.literalEnd? casing limit start))
  | .except literals casing =>
    if literals.any fun literal => (hay.literalEnd? casing limit start literal).isSome then
      pure .abort
    else next.run hay start limit
  | .repeated literal casing atLeast atMost =>
    let (count, stop) := hay.run casing limit literal start
    if atLeast ≤ count ∧ count ≤ atMost then next.run hay stop limit
    else if count = 0 then pure .backtrack
    else pure .abort
  | .custom _ logic => logic hay start limit next

/-- A list of patterns, then the ending, as a continuation. -/
def continuation (ending : Ending) : List (Pattern m) → Continuation m
  | [] => ending.continuation
  | pattern :: rest =>
    { ending
      isLast := false
      run := fun hay start limit => pattern.eval hay start limit (continuation ending rest) }

/-- The outcome of trying a list of patterns at `start` up to `limit`. -/
def evalAll (patterns : List (Pattern m)) (hay : Haystack) (start limit : Nat) (ending : Ending) :
    m Outcome :=
  (continuation ending patterns).run hay start limit

theorem evalAll_nil (hay : Haystack) (start limit : Nat) (ending : Ending) :
    evalAll [] hay start limit ending = (pure (ending.outcome start limit) : m Outcome) := rfl

theorem evalAll_cons (pattern : Pattern m) (rest : List (Pattern m)) (hay : Haystack)
    (start limit : Nat) (ending : Ending) :
    evalAll (pattern :: rest) hay start limit ending =
      pattern.eval hay start limit (continuation ending rest) := rfl

/-- An `except` goes on where none of its literals stands. -/
theorem evalAll_except (literals : List Text) (casing : Casing) (rest : List (Pattern m))
    (hay : Haystack) (start limit : Nat) (ending : Ending) :
    evalAll (.except literals casing :: rest) hay start limit ending =
      if literals.any fun literal => (hay.literalEnd? casing limit start literal).isSome then
        pure .abort
      else evalAll rest hay start limit ending := rfl

/-- A repetition goes on behind the row that it takes, if this is of the right length. -/
theorem evalAll_repeated (literal : Text) (casing : Casing) (atLeast atMost : Nat)
    (rest : List (Pattern m)) (hay : Haystack) (start limit : Nat) (ending : Ending) :
    evalAll (.repeated literal casing atLeast atMost :: rest) hay start limit ending =
      if atLeast ≤ (hay.run casing limit literal start).1 ∧
          (hay.run casing limit literal start).1 ≤ atMost then
        evalAll rest hay (hay.run casing limit literal start).2 limit ending
      else if (hay.run casing limit literal start).1 = 0 then pure .backtrack
      else pure .abort := rfl

/-- A wildcard takes as little as it can: here up to the first `b`. -/
example : (evalAll (m := Id) [.any, .text [['b']] .exact] { text := ['a', 'b', 'b'] } 0 3
    .anywhere).run = .success 2 := by decide +kernel

/-- A continuation is the last one exactly if no pattern is left. -/
theorem isLast_continuation (ending : Ending) (patterns : List (Pattern m)) :
    (continuation ending patterns).isLast = patterns.isEmpty := by
  cases patterns <;> rfl

end Pattern

end PatternSearch
