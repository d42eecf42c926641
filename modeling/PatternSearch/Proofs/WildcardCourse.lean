import PatternSearch.Proofs.Journal

/-!
# The course of a wildcard

What a wildcard tries, and in which order, is what its loop tries (`Haystack.Sweeps`): a journal
that is kept on the way tells it.

- `Haystack.Sweeps.run_sweep_noting`: the walk of a wildcard writes down what the loop has tried.
- `Continuation.noted`: what is to follow, told to write down where it is tried.
- `Pattern.any_tries_boundaries_in_turn`: the course of a wildcard as a whole.
-/

namespace PatternSearch

open Journal

/-- With a journal at hand, into which each attempt writes its offset, the walk writes down what the
loop has tried. -/
theorem Haystack.Sweeps.run_sweep_noting {hay : Haystack} {limit start : Nat}
    {attempt : Nat → Id Outcome} {attempt' : Nat → Journal Outcome} {tried : List Nat}
    {outcome : Outcome}
    (noting :
      ∀ pos before, ((attempt' pos).run before).run = ((attempt pos).run, before ++ [pos]))
    (within : limit ≤ hay.size) (sweeps : hay.Sweeps limit attempt start tried outcome)
    (before : List Nat) :
    ((hay.sweep limit attempt' start).run before).run = (outcome, before ++ tried) := by
  induction sweeps generalizing before with
  | @decided pos decisive =>
    rw [sweep, StateT.run_bind, Id.run_bind, noting]
    cases outcome : (attempt pos).run with
    | backtrack => exact absurd outcome decisive
    | abort | success => rfl
  | exhausted backtracks ge =>
    rw [sweep, StateT.run_bind, Id.run_bind, noting, backtracks]
    dsimp only
    rw [if_neg fun ahead => Nat.not_lt.2 ge ahead.1]
    rfl
  | @onward pos tried outcome backtracks lt _ ih =>
    rw [sweep, StateT.run_bind, Id.run_bind, noting, backtracks]
    dsimp only
    rw [if_pos ⟨lt, lt_next_of_le_size within lt⟩, ih, List.append_assoc]
    rfl

/-- The same continuation with a journal at hand, into which it writes the offset where it is
tried. -/
def Continuation.noted (next : Continuation Id) : Continuation Journal where
  ending := next.ending
  isLast := next.isLast
  run := fun hay pos limit => do
    note pos
    pure (next.run hay pos limit).run

namespace Pattern

/-- **A wildcard tries boundaries in turn**: with more to follow, and the limit within the text, the
loop of a wildcard comes to an end from every offset, boundary or not, and never goes back. The
wildcard comes to its outcome, and tries what follows at the offsets of the loop and nowhere else.
Between two boundaries these are the boundaries up to the first one, the limit included, whose
outcome is not `backtrack`, and the wildcard comes to that outcome; or all of them, each once, and
it backtracks. -/
theorem any_tries_boundaries_in_turn (next : Continuation Id) (more : next.isLast = false)
    (hay : Haystack) (limit : Nat) (within : limit ≤ hay.size) (start : Nat) :
    ∃ tried outcome,
      hay.Sweeps limit (fun pos => next.run hay pos limit) start tried outcome ∧
      tried.Pairwise (· < ·) ∧
      ((any : Pattern Id).eval hay start limit next).run = outcome ∧
      (∀ before, (((any : Pattern Journal).eval hay start limit next.noted).run before).run =
        (outcome, before ++ tried)) ∧
      (hay.isBoundary limit = true → hay.isBoundary start = true → start ≤ limit →
        ∃ last ≤ limit, hay.ListsBoundaries start last tried ∧
          (hay.IsFirst start (limit + 1) (fun pos => (next.run hay pos limit).run ≠ .backtrack)
            last ∧ outcome = (next.run hay last limit).run ∨
            hay.NoneBelow start (limit + 1)
              (fun pos => (next.run hay pos limit).run ≠ .backtrack) ∧
              outcome = .backtrack ∧ last = limit)) := by
  obtain ⟨tried, outcome, sweeps⟩ :=
    Haystack.exists_sweeps within (fun pos => next.run hay pos limit) start
  refine ⟨tried, outcome, sweeps, sweeps.pairwise within, ?_, fun before => ?_,
    sweeps.boundary_cases⟩
  · rw [eval, more]
    exact sweeps.run_sweep within
  · have more' : next.noted.isLast = false := more
    rw [eval, more']
    exact sweeps.run_sweep_noting (fun _ _ => rfl) within before

/-- In `aéb`, a wildcard before a `b` is tried at 0, 1 and 3 and ends the match at 4. From 2,
inside the `é`, and up to 3, it is tried there and, a step further, at the end of the text. -/
theorem any_tries_boundaries_in_turn_letters :
    let hay : Haystack := { text := ['a', 'é', 'b'] }
    let next : Continuation Id := continuation .anywhere [.text [['b']] .exact]
    (((any : Pattern Journal).eval hay 0 4 next.noted).run []).run = (.success 4, [0, 1, 3]) ∧
      hay.IsFirst 0 5 (fun pos => (next.run hay pos 4).run ≠ .backtrack) 3 ∧
      hay.Sweeps 3 (fun pos => next.run hay pos 3) 2 [2, 4] .backtrack := by
  intro hay next
  have journal : (((any : Pattern Journal).eval hay 0 4 next.noted).run []).run =
      (.success 4, [0, 1, 3]) := by decide +kernel
  have journal' : (((any : Pattern Journal).eval hay 2 3 next.noted).run []).run =
      (.backtrack, [2, 4]) := by decide +kernel
  obtain ⟨tried, outcome, -, -, -, writes, between⟩ :=
    any_tries_boundaries_in_turn next rfl hay 4 (by decide) 0
  obtain ⟨tried', outcome', sweeps, -, -, writes', -⟩ :=
    any_tries_boundaries_in_turn next rfl hay 3 (by decide) 2
  obtain ⟨rfl, rfl⟩ := Prod.mk.inj ((writes []).symm.trans journal)
  obtain ⟨rfl, rfl⟩ := Prod.mk.inj ((writes' []).symm.trans journal')
  obtain ⟨last, -, listed, ⟨first, -⟩ | ⟨-, fails, -⟩⟩ :=
    between (by decide) (by decide) (by decide)
  · obtain rfl : last = 3 := by
      have member := (listed last).2 ⟨first.boundary, first.le, Nat.le_refl last⟩
      have reach := ((listed 3).1 (by decide)).2.2
      simp at member
      omega
    exact ⟨journal, first, sweeps⟩
  · cases fails

end Pattern

end PatternSearch
