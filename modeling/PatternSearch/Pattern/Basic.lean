import PatternSearch.Haystack
import PatternSearch.Literal
import PatternSearch.Outcome

/-!
# Patterns

A pattern is one step of a search. It is tried at an offset of a haystack, up to a limit, and is
handed the *continuation*: what is to be tried after it. A caller may bring patterns of its own, as
functions of the same four things; they may have the effects of a monad `m`, for instance to keep a
journal of their calls, and are plain functions when `m` is `Id`.

- `Ending` says where a match may end when no pattern is left.
- `Continuation` is what follows a pattern.
- `Pattern` lists the kinds of step.
-/

namespace PatternSearch

/-! ## Endings -/

/-- Where a match may end when no pattern is left. -/
inductive Ending where
  /-- At the limit only. -/
  | atLimit
  /-- Anywhere. -/
  | anywhere
  deriving DecidableEq, Repr

/-- The outcome of having no pattern left at `start`. -/
def Ending.outcome : Ending → (start limit : Nat) → Outcome
  | .atLimit, start, limit => if start = limit then .success start else .abort
  | .anywhere, start, _ => .success start

/-! ## Continuations -/

/-- What is to be tried after a pattern. -/
structure Continuation (m : Type → Type) where
  ending : Ending
  /-- Whether no pattern is left. -/
  isLast : Bool
  /-- The outcome at an offset (second argument) up to a limit (third argument). -/
  run : Haystack → Nat → Nat → m Outcome

/-- Nothing is to be tried but the ending. -/
def Ending.continuation {m : Type → Type} [Monad m] (ending : Ending) : Continuation m where
  ending := ending
  isLast := true
  run := fun _ start limit => pure (ending.outcome start limit)

/-! ## Patterns -/

/-- One step of a search. -/
inductive Pattern (m : Type → Type) where
  /-- Nothing may be left before the limit; what follows is not tried. -/
  | limit
  /-- The match ends here; what follows is not tried. -/
  | finish
  /-- Any characters, as few as possible. -/
  | any
  /-- The first of the literals with which all the rest succeeds. -/
  | text (literals : List Text) (casing : Casing)
  /-- None of the literals stands here. -/
  | except (literals : List Text) (casing : Casing)
  /-- As many repetitions of the literal as there are, which must be `atLeast` to `atMost`. -/
  | repeated (literal : Text) (casing : Casing) (atLeast atMost : Nat)
  /-- A step of the caller's own, a function of the haystack, the offset, the limit and what
  follows. -/
  | custom (name : String) (logic : Haystack → Nat → Nat → Continuation m → m Outcome)

namespace Pattern

/-- The most repetitions when no other bound is given: the greatest number of 64 bits. -/
def unbounded : Nat :=
  18446744073709551615

/-- The kinds of step. -/
inductive Kind where
  | limit
  | finish
  | any
  | text
  | except
  | repeated
  | custom
  deriving DecidableEq, Repr

/-- The kind of a step. -/
def kind {m : Type → Type} : Pattern m → Kind
  | .limit => .limit
  | .finish => .finish
  | .any => .any
  | .text .. => .text
  | .except .. => .except
  | .repeated .. => .repeated
  | .custom .. => .custom

end Pattern

end PatternSearch
