import PatternSearch.Search.Find

/-!
# All matches, one after another

The matches of a sequence in a scope do not overlap: the search for the next one goes on at the end
of the one before, and a character further on if that was empty. They are handed out one at a time,
as a state that knows where to go on.

- `Matches.next` is one step: the next match and the state behind it.
- `Matches.drain` takes all the steps that are left, `Sequence.findAll` all of a scope.
-/

namespace PatternSearch

/-- The matches still to come. -/
structure Matches (m : Type → Type) where
  sequence : Sequence m
  /-- The lead that the searches use. -/
  lead? : Option Lead
  haystack : Haystack
  /-- Where the search goes on. -/
  pos : Nat
  limit : Nat

/-- All matches in the scope. The lead is that of the sequence, if no other one is given. -/
def Sequence.matches {m : Type → Type} (sequence : Sequence m) (scope : Scope)
    (lead? : Option Lead := sequence.lead?) : Matches m where
  sequence := sequence
  lead? := lead?
  haystack := scope.haystack
  pos := scope.first
  limit := scope.limit

/-- Where the search goes on after a match. -/
def Interval.resume (found : Interval) : Nat :=
  if found.start < found.stop then found.stop else found.haystack.next found.start

namespace Matches

variable {m : Type → Type} [Monad m]

/-- How far the search has to go. -/
def remaining (state : Matches m) : Nat :=
  state.limit - state.pos

/-- The next match, and the state behind it. Where there is no match, the state stays as it is. -/
def next (state : Matches m) : m (Option Interval × Matches m) := do
  match ← state.sequence.findFrom? state.lead? state.haystack state.limit state.pos with
  | some found => pure (some found, { state with pos := found.resume })
  | none => pure (none, state)

/-- What `use` makes of each of the remaining matches, in order, and the state behind them. Every
match takes the search closer to the limit, so there are only so many of them. -/
def drain {α : Type} (use : Interval → m α) (state : Matches m) : m (List α × Matches m) := do
  match ← state.next with
  | (some found, rest) =>
    let head ← use found
    if rest.remaining < state.remaining then
      let (tail, last) ← rest.drain use
      pure (head :: tail, last)
    else pure ([head], rest)
  | (none, rest) => pure ([], rest)
termination_by state.remaining

/-- The remaining matches. -/
def toList (state : Matches m) : m (List Interval) := do
  let (found, _) ← state.drain pure
  pure found

end Matches

/-- All matches in the interval. -/
def Interval.matches {m : Type → Type} (interval : Interval) (sequence : Sequence m)
    (lead? : Option Lead := sequence.lead?) : Matches m :=
  sequence.matches (Scope.ofInterval interval) lead?

/-- All matches in the scope, in order. -/
def Sequence.findAll {m : Type → Type} [Monad m] (sequence : Sequence m) (scope : Scope)
    (lead? : Option Lead := sequence.lead?) : m (List Interval) :=
  (sequence.matches scope lead?).toList

end PatternSearch
