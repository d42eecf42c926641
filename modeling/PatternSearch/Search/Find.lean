import PatternSearch.Scope
import PatternSearch.Search.Lead
import PatternSearch.Sequence

/-!
# Searching for a match

A sequence can be asked whether it matches all of a scope, and where its first match in a scope is.
The search tries one offset after another, as far as a lead does not let it skip some, and takes the
first match that stays between its start and the limit: a caller's own pattern may report an end
outside, which counts as a failure at that offset. The lead is that of the sequence; a search can do
without it, where it could not be made or is not wanted.

- `Sequence.isMatch` asks for the whole scope.
- `Sequence.matchAt?` is the match at one offset.
- `Sequence.findFrom?` is the search between two offsets, `Sequence.find?` that of a scope.
-/

namespace PatternSearch

variable {m : Type → Type} [Monad m]

/-- The next offset to try from `pos` on, below `limit`: `pos` itself unless a lead skips it. -/
def nextCandidate? (lead? : Option Lead) (hay : Haystack) (limit pos : Nat) : Option Nat :=
  match lead? with
  | some lead => lead.candidate? hay limit pos
  | none => some pos

namespace Sequence

/-- Whether the sequence matches the scope from its first boundary to its last. -/
def isMatch (sequence : Sequence m) (scope : Scope) : m Bool := do
  let outcome ← sequence.eval scope.haystack scope.first scope.limit .atLimit
  pure outcome.isSuccess

/-- What a match has to begin with. -/
def lead? (sequence : Sequence m) : Option Lead :=
  sequence.patterns.head?.bind Lead.of?

/-- The match that starts at `start`, if there is one and it ends from `start` to `limit`. -/
def matchAt? (sequence : Sequence m) (hay : Haystack) (limit start : Nat) :
    m (Option Interval) := do
  match ← sequence.eval hay start limit .anywhere with
  | .success stop =>
    pure (if start ≤ stop ∧ stop ≤ limit then some ⟨hay, start, stop⟩ else none)
  | _ => pure none

/-- The first match that starts at `pos` or later, below `limit`, among the offsets that the lead
leaves to be tried. Every attempt that fails is followed by a step, which leads on as long as the
limit lies within the haystack. -/
def findFrom? (sequence : Sequence m) (lead? : Option Lead) (hay : Haystack) (limit pos : Nat) :
    m (Option Interval) :=
  if pos < limit then
    match nextCandidate? lead? hay limit pos with
    | none => pure none
    | some start => do
      match ← sequence.matchAt? hay limit start with
      | some found => pure (some found)
      | none =>
        if pos < hay.next start then sequence.findFrom? lead? hay limit (hay.next start)
        else pure none
  else pure none
termination_by limit - pos

/-- The first match in the scope. The lead is that of the sequence, if no other one is given. -/
def find? (sequence : Sequence m) (scope : Scope) (lead? : Option Lead := sequence.lead?) :
    m (Option Interval) :=
  sequence.findFrom? lead? scope.haystack scope.limit scope.first

end Sequence

end PatternSearch
