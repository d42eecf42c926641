import PatternSearch.Search.Between
import PatternSearch.Search.Matches

/-!
# Queries

A query compiles a list of patterns for one use. An offence is reported before anything is searched;
the empty list is no offence here, but matches nothing.
-/

namespace PatternSearch.Query

variable {m : Type → Type} [Monad m]

/-- What `ask` says of the sequence of these patterns, and `nothing` for the empty list. -/
def answer {α : Type} (patterns : List (Pattern m)) (nothing : α) (ask : Sequence m → m α) :
    Except SequenceError (m α) :=
  if patterns.isEmpty then .ok (pure nothing) else (Sequence.compile patterns).map ask

/-- Whether the patterns match all of the scope. -/
def isMatch (patterns : List (Pattern m)) (scope : Scope) : Except SequenceError (m Bool) :=
  answer patterns false fun sequence => sequence.isMatch scope

/-- The first match in the scope, behind the interval `after?` if there is one. -/
def find? (patterns : List (Pattern m)) (scope : Scope) (after? : Option Interval) :
    Except SequenceError (m (Option Interval)) :=
  answer patterns none fun sequence =>
    match after? with
    | some after => sequence.find? (scope.startingFrom after.stop)
    | none => sequence.find? scope

/-- All matches in the scope, in order. -/
def findAll (patterns : List (Pattern m)) (scope : Scope) :
    Except SequenceError (m (List Interval)) :=
  answer patterns [] fun sequence => sequence.findAll scope

/-- What lies between the interval and the next match that ends by the limit, which is the end of
the haystack if none is given. -/
def between? (patterns : List (Pattern m)) (interval : Interval) (limit? : Option Nat) :
    Except SequenceError (m (Option Interval)) :=
  answer patterns none fun sequence =>
    sequence.betweenWithin? interval (limit?.getD interval.haystack.size)

end PatternSearch.Query
