/-!
# Outcomes

What comes of trying a pattern at an offset. A search may go on after either failure; they differ in
what they tell a wildcard in front, which gives up on `abort` and looks further on `backtrack`.
-/

namespace PatternSearch

/-- What comes of trying a pattern, and all that follows it, at an offset. -/
inductive Outcome where
  /-- It fails, and nothing in front may look further. -/
  | abort
  /-- It fails here. -/
  | backtrack
  /-- It matches up to `stop`. -/
  | success (stop : Nat)
  deriving DecidableEq, Repr

namespace Outcome

def isSuccess : Outcome → Bool
  | .success _ => true
  | _ => false

def isAbort : Outcome → Bool
  | .abort => true
  | _ => false

/-- Where the match ends, if it is one. -/
def stop? : Outcome → Option Nat
  | .success stop => some stop
  | _ => none

/-- How the outcome is shown. -/
def describe : Outcome → String
  | .abort => "Abort"
  | .backtrack => "Backtrack"
  | .success stop => "Success(" ++ toString stop ++ ")"

end Outcome

end PatternSearch
