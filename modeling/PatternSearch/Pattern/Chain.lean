import PatternSearch.Pattern.Eval

/-!
# Chains

A list of patterns that will be tried many times is compiled once, into nodes: each holds a pattern
and owns the node of what follows it. The last pattern gets its node first, so the list is folded
from its end. Walking the nodes gives the list back, and to try them is to try the list.

- `Node` is a pattern with what follows it, `Node.continuation` what is to be tried from it on.
- `Chain` is the first node with the number of patterns, `Chain.ofPatterns` that of a list.
- `Chain.patterns_ofPatterns`, `Chain.eval_ofPatterns`: a chain stands for the list it was made of.
-/

namespace PatternSearch

variable {m : Type → Type}

/-! ## Nodes -/

/-- A pattern and the node of what follows it, or the end of the patterns. -/
inductive Node (m : Type → Type) where
  | last
  | step (pattern : Pattern m) (next : Node m)

namespace Node

/-- The first node of a list, the nodes being built from the last pattern on. -/
def ofPatterns (patterns : List (Pattern m)) : Node m :=
  patterns.reverse.foldl (fun next pattern => .step pattern next) .last

/-- The patterns from the node on, one node after another. -/
def patterns : Node m → List (Pattern m)
  | .last => []
  | .step pattern next => pattern :: next.patterns

@[simp] theorem ofPatterns_nil : (ofPatterns [] : Node m) = .last := rfl

@[simp] theorem ofPatterns_cons (pattern : Pattern m) (rest : List (Pattern m)) :
    ofPatterns (pattern :: rest) = .step pattern (ofPatterns rest) := by
  simp only [ofPatterns, List.foldl_reverse, List.foldr_cons]

/-- To walk the nodes of a list is to go through the list. -/
@[simp] theorem patterns_ofPatterns (patterns : List (Pattern m)) :
    (ofPatterns patterns).patterns = patterns := by
  induction patterns with
  | nil => rfl
  | cons pattern rest ih => rw [ofPatterns_cons, Node.patterns, ih]

variable [Monad m]

/-- What is to be tried from the node on, then the ending, as a continuation. -/
def continuation (ending : Ending) : Node m → Continuation m
  | .last => ending.continuation
  | .step pattern next =>
    { ending
      isLast := false
      run := fun hay start limit => pattern.eval hay start limit (next.continuation ending) }

/-- From the first node of a list on, the list is tried. -/
theorem continuation_ofPatterns (ending : Ending) (patterns : List (Pattern m)) :
    (ofPatterns patterns).continuation ending = Pattern.continuation ending patterns := by
  induction patterns with
  | nil => rfl
  | cons pattern rest ih => rw [ofPatterns_cons, continuation, ih, Pattern.continuation]

end Node

/-! ## Chains -/

/-- A node with the number of patterns from it on. -/
structure Chain (m : Type → Type) where
  head : Node m
  length : Nat
  length_eq : length = head.patterns.length

namespace Chain

/-- The chain of a list of patterns. -/
def ofPatterns (patterns : List (Pattern m)) : Chain m where
  head := .ofPatterns patterns
  length := patterns.length
  length_eq := by rw [Node.patterns_ofPatterns]

/-- The patterns in order. -/
def patterns (chain : Chain m) : List (Pattern m) :=
  chain.head.patterns

/-- Whether there are no patterns. -/
def isEmpty (chain : Chain m) : Bool :=
  chain.length == 0

/-- The outcome of trying the chain at `start` up to `limit`. -/
def eval [Monad m] (chain : Chain m) (hay : Haystack) (start limit : Nat) (ending : Ending) :
    m Outcome :=
  (chain.head.continuation ending).run hay start limit

/-- A chain has the patterns that it was made of. -/
@[simp] theorem patterns_ofPatterns (patterns : List (Pattern m)) :
    (ofPatterns patterns).patterns = patterns :=
  Node.patterns_ofPatterns patterns

/-- To try a chain is to try the patterns that it was made of. -/
theorem eval_ofPatterns [Monad m] (patterns : List (Pattern m)) (hay : Haystack)
    (start limit : Nat) (ending : Ending) :
    (ofPatterns patterns).eval hay start limit ending =
      Pattern.evalAll patterns hay start limit ending :=
  congrArg (fun next => next.run hay start limit) (Node.continuation_ofPatterns ending patterns)

end Chain

end PatternSearch
