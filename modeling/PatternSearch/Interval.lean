import PatternSearch.Haystack
import PatternSearch.Text.Quoted

/-!
# Intervals

An interval is a part of a haystack, given by its two ends. A caller makes intervals with ordered
boundaries only (`Interval.ofRange?`); those found by a search may end wherever a caller's own
pattern says, so an interval need not have a text of its own and shows the empty one then.
-/

namespace PatternSearch

/-- The part of a haystack from byte `start` to byte `stop`. -/
structure Interval where
  haystack : Haystack
  start : Nat
  stop : Nat
  deriving DecidableEq

namespace Interval

/-- The interval with these ends, if they are boundaries in this order. -/
def ofRange? (hay : Haystack) (start stop : Nat) : Option Interval :=
  if start ≤ stop ∧ hay.isBoundary start ∧ hay.isBoundary stop then
    some ⟨hay, start, stop⟩
  else none

/-- What is said of a range that is no interval. -/
def invalidMessage (hay : Haystack) (start stop : Nat) : String :=
  "invalid interval " ++ toString start ++ ".." ++ toString stop ++ " of a haystack of length " ++
    toString hay.size

/-- The interval with these ends, or what is wrong with them. -/
def ofRange (hay : Haystack) (start stop : Nat) : Except String Interval :=
  match ofRange? hay start stop with
  | some interval => .ok interval
  | none => .error (invalidMessage hay start stop)

/-- The whole haystack. -/
def full (hay : Haystack) : Interval :=
  ⟨hay, 0, hay.size⟩

/-- The number of bytes between the ends. -/
def length (interval : Interval) : Nat :=
  interval.stop - interval.start

/-- Whether there is nothing between the ends. -/
def isEmpty (interval : Interval) : Bool :=
  interval.stop ≤ interval.start

/-- The text between the ends, if these are boundaries; else the empty text. -/
def text (interval : Interval) : Text :=
  (interval.haystack.slice? interval.start interval.stop).getD []

/-- The text of an interval, if there is one. -/
def textOf (interval? : Option Interval) : Text :=
  (interval?.map text).getD []

/-- How an interval is shown. -/
def describe (interval : Interval) : String :=
  "Interval \x7b range: " ++ toString interval.start ++ ".." ++ toString interval.stop ++
    ", text: " ++ Text.quoted interval.text ++ " \x7d"

/-- How an interval that may be missing is shown. -/
def describeOption : Option Interval → String
  | some interval => "Some(" ++ interval.describe ++ ")"
  | none => "None"

end Interval

end PatternSearch
