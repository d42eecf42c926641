import PatternSearch.Interval

/-!
# Scopes

A scope is the part of a haystack that a search is asked to look at. It is kept as it was given; the
search works from `Scope.first` to `Scope.limit`, which are the ends moved inward to boundaries,
with a start behind the end moved to it.
-/

namespace PatternSearch

/-- Where to search. -/
structure Scope where
  haystack : Haystack
  start : Nat := 0
  /-- The end; without one, the search goes to the end of the haystack. -/
  stop? : Option Nat := none

namespace Scope

/-- The whole haystack. -/
def full (hay : Haystack) : Scope where
  haystack := hay

/-- The part from `start` to `stop`. -/
def ofRange (hay : Haystack) (start stop : Nat) : Scope where
  haystack := hay
  start := start
  stop? := some stop

/-- The part that an interval covers. -/
def ofInterval (interval : Interval) : Scope :=
  ofRange interval.haystack interval.start interval.stop

/-- The last boundary of the scope. -/
def limit (scope : Scope) : Nat :=
  scope.haystack.floor (scope.stop?.getD scope.haystack.size)

/-- The first boundary of the scope, and the last one if there is none before it. -/
def first (scope : Scope) : Nat :=
  min (scope.haystack.ceil scope.start) scope.limit

/-- The same scope, but from `start` on if that is later. -/
def startingFrom (scope : Scope) (start : Nat) : Scope :=
  { scope with start := max scope.start start }

/-- How a scope is shown. -/
def describe (scope : Scope) : String :=
  let stop := match scope.stop? with
    | some stop => "Some(" ++ toString stop ++ ")"
    | none => "None"
  "Input \x7b haystack: " ++ Text.quoted scope.haystack.text ++ ", start: " ++
    toString scope.start ++ ", end: " ++ stop ++ " \x7d"

end Scope

end PatternSearch
