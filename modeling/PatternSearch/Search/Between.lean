import PatternSearch.Search.Find

/-!
# Searching from an interval

An interval can stand for the scope of a search, for the place after which to go on, and for the
start of a gap: the text up to the next match.

- `Interval.find?` and `Interval.isMatch` search inside an interval.
- `Interval.findAfter?` goes on behind an interval found before.
- `Sequence.betweenWithin?` is the gap between an interval and the next match, `Sequence.between?`
  the one without a limit.
-/

namespace PatternSearch

variable {m : Type → Type} [Monad m]

/-- What lies between the interval and the next match that ends by `limit`. -/
def Sequence.betweenWithin? (sequence : Sequence m) (interval : Interval) (limit : Nat)
    (lead? : Option Lead := sequence.lead?) : m (Option Interval) := do
  let found? ← sequence.find? (Scope.ofRange interval.haystack interval.stop limit) lead?
  pure (found?.map fun found =>
    ⟨interval.haystack, interval.stop, max found.start interval.stop⟩)

/-- What lies between the interval and the next match in the haystack. -/
def Sequence.between? (sequence : Sequence m) (interval : Interval)
    (lead? : Option Lead := sequence.lead?) : m (Option Interval) :=
  sequence.betweenWithin? interval interval.haystack.size lead?

/-- What lies between an interval and the next match in the haystack, if there is an interval. -/
def Sequence.betweenOption? (sequence : Sequence m) (interval? : Option Interval)
    (lead? : Option Lead := sequence.lead?) : m (Option Interval) :=
  match interval? with
  | some interval => sequence.between? interval lead?
  | none => pure none

namespace Interval

/-- Whether the sequence matches all of the interval. -/
def isMatch (interval : Interval) (sequence : Sequence m) : m Bool :=
  sequence.isMatch (Scope.ofInterval interval)

/-- The first match in the interval. -/
def find? (interval : Interval) (sequence : Sequence m)
    (lead? : Option Lead := sequence.lead?) : m (Option Interval) :=
  sequence.find? (Scope.ofInterval interval) lead?

/-- The first match in the interval that starts at or after the end of `previous`. -/
def findAfter? (interval previous : Interval) (sequence : Sequence m)
    (lead? : Option Lead := sequence.lead?) : m (Option Interval) :=
  sequence.find? ((Scope.ofInterval interval).startingFrom previous.stop) lead?

end Interval

end PatternSearch
