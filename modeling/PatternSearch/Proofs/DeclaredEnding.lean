import PatternSearch.Pattern.Eval

/-!
# Declared endings

Where a match may end can be said in two ways: by the ending that a list of patterns is tried with,
or by a pattern at the end of the list, `limit` or `finish`. Both come to the same, whatever the
effects of the patterns, as long as no pattern can tell them apart. A pattern sees of what follows
it only what that does at the offsets where it is tried, except for a wildcard, which also asks
whether anything follows, and for patterns of the caller's own.

- `Pattern.eval_congr`: a pattern cannot tell continuations apart that do the same.
- `Pattern.evalAll_append_congr`: neither can a list of patterns, unless it ends in a wildcard;
  before lists that are not empty it never can (`Pattern.evalAll_append_cons_congr`).
- `Pattern.declared_ending_eq_ending`: a declared ending is as good as one that the list is tried
  with, and what stands behind a `limit` is never tried.
-/

namespace PatternSearch.Pattern

variable {m : Type → Type} [Monad m] {hay : Haystack} {limit : Nat} {ending ending' : Ending}

/-- A pattern does the same before continuations that do the same; a wildcard needs to know in
addition that they are the last ones together. -/
theorem eval_congr {pattern : Pattern m} {next next' : Continuation m}
    (own : pattern.kind ≠ .custom) (last : pattern.kind = .any → next.isLast = next'.isLast)
    (same : ∀ pos, next.run hay pos limit = next'.run hay pos limit) (start : Nat) :
    pattern.eval hay start limit next = pattern.eval hay start limit next' := by
  have runs : (fun pos => next.run hay pos limit) = fun pos => next'.run hay pos limit :=
    funext same
  cases pattern with
  | limit | finish => rfl
  | any =>
    dsimp only [eval]
    rw [last rfl, runs]
  | text literals casing =>
    dsimp only [eval]
    rw [runs]
  | except literals casing =>
    dsimp only [eval]
    rw [same]
  | repeated literal casing atLeast atMost =>
    dsimp only [eval]
    rw [same]
  | custom name logic => exact absurd rfl own

/-- A list of patterns does the same in front of lists that do the same; if it ends in a wildcard,
both of them or neither have to be empty. -/
theorem evalAll_append_congr {patterns tail tail' : List (Pattern m)}
    (own : ∀ pattern ∈ patterns, pattern.kind ≠ .custom)
    (last : ∀ pattern, patterns.getLast? = some pattern → pattern.kind = .any →
      tail.isEmpty = tail'.isEmpty)
    (same : ∀ pos, evalAll tail hay pos limit ending = evalAll tail' hay pos limit ending')
    (start : Nat) :
    evalAll (patterns ++ tail) hay start limit ending =
      evalAll (patterns ++ tail') hay start limit ending' := by
  -- induction on the patterns in front, over all the offsets where the rest may be tried
  induction patterns generalizing start with
  | nil => exact same start
  | cons pattern rest ih =>
    have last_behind : ∀ other, rest.getLast? = some other → other.kind = .any →
        tail.isEmpty = tail'.isEmpty := by
      intro other at_end
      refine last other ?_
      rw [List.getLast?_cons, at_end]
      rfl
    refine eval_congr (own pattern (.head rest)) (fun wildcard => ?_) (fun pos => ?_) start
    · rw [isLast_continuation, isLast_continuation]
      cases rest with
      | nil => exact last pattern rfl wildcard
      | cons _ _ => rfl
    · exact ih (fun other member => own other (.tail pattern member)) last_behind pos

/-- So a list of patterns does the same in front of patterns that do the same, whatever it ends
in. -/
theorem evalAll_append_cons_congr {patterns tail tail' : List (Pattern m)}
    {pattern pattern' : Pattern m} (own : ∀ pattern ∈ patterns, pattern.kind ≠ .custom)
    (same : ∀ pos, evalAll (pattern :: tail) hay pos limit ending =
      evalAll (pattern' :: tail') hay pos limit ending')
    (start : Nat) :
    evalAll (patterns ++ pattern :: tail) hay start limit ending =
      evalAll (patterns ++ pattern' :: tail') hay start limit ending' := by
  refine evalAll_append_congr own (fun _ _ _ => ?_) same start
  rfl

/-- A pattern that stands for an ending may be put behind patterns that do not end in a wildcard. -/
theorem evalAll_append_of_outcome {patterns : List (Pattern m)} {pattern : Pattern m}
    (own : ∀ pattern ∈ patterns, pattern.kind ≠ .custom)
    (no_wildcard : ∀ pattern, patterns.getLast? = some pattern → pattern.kind ≠ .any)
    (stands : ∀ pos, evalAll [pattern] hay pos limit ending = pure (ending'.outcome pos limit))
    (start : Nat) :
    evalAll (patterns ++ [pattern]) hay start limit ending =
      evalAll patterns hay start limit ending' := by
  have alone : evalAll (patterns ++ [pattern]) hay start limit ending =
      evalAll (patterns ++ []) hay start limit ending' :=
    evalAll_append_congr own (fun other at_end any => absurd any (no_wildcard other at_end)) stands
      start
  rw [List.append_nil] at alone
  exact alone

/-- **A declared ending is as good as an ending**: with `limit` or `finish` behind patterns that do
not end in a wildcard, the list comes to what the patterns alone come to with the ending that this
stands for, whatever ending it is tried with itself. And whatever is declared behind a `limit` is
never tried, nor is the ending asked for. -/
theorem declared_ending_eq_ending (patterns : List (Pattern m))
    (own : ∀ pattern ∈ patterns, pattern.kind ≠ .custom) (hay : Haystack) (start limit : Nat)
    (ending : Ending) :
    ((∀ pattern, patterns.getLast? = some pattern → pattern.kind ≠ .any) →
      evalAll (patterns ++ [.limit]) hay start limit ending =
        evalAll patterns hay start limit .atLimit ∧
      evalAll (patterns ++ [.finish]) hay start limit ending =
        evalAll patterns hay start limit .anywhere) ∧
    ∀ rest ending', evalAll (patterns ++ .limit :: rest) hay start limit ending =
      evalAll (patterns ++ [.limit]) hay start limit ending' := by
  refine ⟨fun no_wildcard => ⟨?_, ?_⟩, fun rest ending' => ?_⟩
  · exact evalAll_append_of_outcome own no_wildcard (fun _ => rfl) start
  · exact evalAll_append_of_outcome own no_wildcard (fun _ => rfl) start
  · -- a `limit` does not look at what follows it
    have dead : ∀ pos, evalAll (.limit :: rest) hay pos limit ending =
        evalAll [.limit] hay pos limit ending' := fun _ => rfl
    exact evalAll_append_cons_congr own dead start

/-- A gap and then `b`, in `abb`: with `limit` behind it the second `b` is the match, with `finish`
the first one; a pattern behind the `limit` makes no difference. -/
theorem declared_ending_eq_ending_letters :
    let hay : Haystack := { text := ['a', 'b', 'b'] }
    let patterns : List (Pattern Id) := [.any, .text [['b']] .exact]
    let other : Pattern Id := .custom "other" fun _ _ _ _ => pure .abort
    (evalAll (patterns ++ [Pattern.limit]) hay 0 3 .anywhere).run = .success 3 ∧
      (evalAll (patterns ++ [Pattern.finish]) hay 0 3 .atLimit).run = .success 2 ∧
      (evalAll (patterns ++ [Pattern.limit, other]) hay 0 3 .anywhere).run = .success 3 := by
  intro hay patterns other
  have own : ∀ pattern ∈ patterns, pattern.kind ≠ .custom := by decide
  have no_wildcard : ∀ pattern, patterns.getLast? = some pattern → pattern.kind ≠ .any := by
    intro pattern at_end
    obtain rfl := Option.some_inj.1 at_end
    nofun
  obtain ⟨limited, -⟩ :=
    (declared_ending_eq_ending patterns own hay 0 3 .anywhere).1 no_wildcard
  obtain ⟨-, finished⟩ :=
    (declared_ending_eq_ending patterns own hay 0 3 .atLimit).1 no_wildcard
  have dead := (declared_ending_eq_ending patterns own hay 0 3 .anywhere).2 [other] .anywhere
  rw [dead, limited, finished]
  decide +kernel

end PatternSearch.Pattern
