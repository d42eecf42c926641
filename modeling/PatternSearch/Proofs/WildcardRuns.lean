import PatternSearch.Proofs.DeclaredEnding
import PatternSearch.Proofs.Derivation
import PatternSearch.Proofs.FirstOffence
import PatternSearch.Proofs.SameAnswers

/-!
# Wildcards in a row

Two wildcards that follow each other ask for any characters twice, which is to ask for them once.
They do not go about it in the same way. The first of them has a pattern behind it, so even if
nothing else does, it looks for a place where the other one succeeds; and if there is more to come,
it has the other one look through all the rest again, from each place on. The other one has been
there before, though: what it comes to from the next place on, it has come to from this one already,
or it has found something here.

- `Haystack.sweep_sweep`: a walk that walks on from each of its places comes to what the walk does.
- `Pattern.evalAll_any_any`: so do two wildcards, whatever follows.
- `Sequence.wildcards_collapse`: sequences with two wildcards in a row and with one answer alike.
-/

namespace PatternSearch

/-- To sweep from each place of a sweep on comes to what the sweep itself does. -/
theorem Haystack.sweep_sweep (hay : Haystack) (limit : Nat) (attempt : Nat → Id Outcome)
    (pos : Nat) :
    (hay.sweep limit (fun mid => hay.sweep limit attempt mid) pos).run =
      (hay.sweep limit attempt pos).run := by
  -- the inner walk from here goes on as the one from the next place does, so induction is on what
  -- is left of the outer one
  induction distance : limit - pos using Nat.strongRecOn generalizing pos with
  | _ distance ih =>
    rw [run_sweep]
    by_cases ahead : pos < limit ∧ pos < hay.next pos
    · have later := ih (limit - hay.next pos) (by omega) (hay.next pos) rfl
      rw [if_pos ahead, later, run_sweep hay limit attempt pos, if_pos ahead]
      cases (attempt pos).run with
      | abort | success => rfl
      | backtrack =>
        dsimp only
        cases (hay.sweep limit attempt (hay.next pos)).run <;> rfl
    · rw [if_neg ahead]
      cases (hay.sweep limit attempt pos).run <;> rfl

namespace Pattern

variable {hay : Haystack} {limit : Nat} {ending : Ending}

/-- Two wildcards do what one does, be it the last pattern or not. -/
theorem evalAll_any_any (tail : List (Pattern Id)) (start : Nat) :
    (evalAll (.any :: .any :: tail) hay start limit ending).run =
      (evalAll (.any :: tail) hay start limit ending).run := by
  rw [evalAll_any (List.cons_ne_nil _ _)]
  cases tail with
  | nil =>
    -- the second one succeeds at once, at the limit
    rw [Haystack.run_sweep]
    rfl
  | cons pattern rest =>
    have inner : (fun pos => evalAll (.any :: pattern :: rest) hay pos limit ending) =
        fun pos => hay.sweep limit
          (fun mid => evalAll (pattern :: rest) hay mid limit ending) pos := by
      funext pos
      exact evalAll_any (List.cons_ne_nil _ _)
    rw [inner, Haystack.sweep_sweep, evalAll_any (List.cons_ne_nil _ _)]

/-- A wildcard may stand behind a wildcard wherever it may stand itself. -/
theorem firstOffence?_any_any_eq_none_iff (tail : List (Pattern Id)) (index index' : Nat)
    (previous : Option Kind) :
    firstOffence? index previous (.any :: .any :: tail) = none ↔
      firstOffence? index' previous (.any :: tail) = none := by
  simp only [firstOffence?_cons_eq_none_iff]
  rw [any.offence?_eq_none_iff_shifted index index',
    firstOffence?_eq_none_iff_shifted tail (index + 1 + 1) (index' + 1)]
  simp [offence?, kind]

end Pattern

namespace Sequence

/-- **Wildcards in a row collapse**: with no pattern of a caller's own in front of them, two
wildcards that follow each other come to what one comes to, wherever the patterns are tried. The
list with two of them is a sequence if the one with one is, and the two sequences answer alike. -/
theorem wildcards_collapse (front tail : List (Pattern Id))
    (own : ∀ pattern ∈ front, pattern.kind ≠ .custom) :
    (∀ hay start limit ending,
      (Pattern.evalAll (front ++ .any :: .any :: tail) hay start limit ending).run =
        (Pattern.evalAll (front ++ .any :: tail) hay start limit ending).run) ∧
    (offence? (front ++ .any :: .any :: tail) = none ↔
      offence? (front ++ .any :: tail) = none) ∧
    ∀ sequence sequence' : Sequence Id, sequence.patterns = front ++ .any :: .any :: tail →
      sequence'.patterns = front ++ .any :: tail → sequence.SameAnswers sequence' := by
  have same : ∀ hay start limit ending,
      Pattern.evalAll (front ++ .any :: .any :: tail) hay start limit ending =
        Pattern.evalAll (front ++ .any :: tail) hay start limit ending := by
    intro hay start limit ending
    exact Pattern.evalAll_append_cons_congr own (Pattern.evalAll_any_any tail) start
  refine ⟨fun hay start limit ending => congrArg Id.run (same hay start limit ending), ?_, ?_⟩
  · exact offence?_append_eq_none_iff (List.cons_ne_nil _ _) (List.cons_ne_nil _ _)
      (Pattern.firstOffence?_any_any_eq_none_iff tail) front
  · intro sequence sequence' declared declared'
    refine sameAnswers_of_eval_eq (fun hay start limit ending => ?_) (.inl ?_)
    · rw [eval_eq_evalAll, eval_eq_evalAll, declared, declared']
      exact same hay start limit ending
    · -- the first patterns are the same
      rw [lead?, lead?, declared, declared']
      cases front <;> rfl

/-- An `a` and then, behind two gaps, a character of the caller's own choice: in `xaybz` both
sequences find the part from the `a` to the `b` and nothing else, which they match as a whole; in
front of it is the `x`. -/
theorem wildcards_collapse_letters :
    let hay : Haystack := { text := ['x', 'a', 'y', 'b', 'z'] }
    let chosen : Pattern Id := .custom "chosen" fun hay start limit next =>
      if hay.literalEnd? .exact limit start ['b'] = some (start + 1) then
        next.run hay (start + 1) limit
      else pure .backtrack
    let sequence : Sequence Id := ⟨[.text [['a']] .exact, .any, .any, chosen], rfl⟩
    let sequence' : Sequence Id := ⟨[.text [['a']] .exact, .any, chosen], rfl⟩
    ∀ either ∈ [sequence, sequence'],
      (either.isMatch (Scope.ofRange hay 1 4)).run = true ∧
      (either.find? (Scope.full hay)).run = some ⟨hay, 1, 4⟩ ∧
      (either.findAll (Scope.full hay)).run = [⟨hay, 1, 4⟩] ∧
      (either.between? ⟨hay, 0, 0⟩).run = some ⟨hay, 0, 1⟩ := by
  intro hay chosen sequence sequence'
  have whole : (sequence'.isMatch (Scope.ofRange hay 1 4)).run = true := by decide +kernel
  have found : (sequence'.find? (Scope.full hay)).run = some ⟨hay, 1, 4⟩ := by decide +kernel
  have listed : (sequence'.findAll (Scope.full hay)).run = [⟨hay, 1, 4⟩] := by decide +kernel
  have gap : (sequence'.between? ⟨hay, 0, 0⟩).run = some ⟨hay, 0, 1⟩ := by decide +kernel
  have own :
      ∀ pattern ∈ [(Pattern.text [['a']] .exact : Pattern Id)], pattern.kind ≠ .custom := by
    decide
  obtain ⟨-, -, agree⟩ := wildcards_collapse [.text [['a']] .exact] [chosen] own
  have alike := agree sequence sequence' rfl rfl
  refine List.forall_mem_cons.2
    ⟨⟨?_, ?_, ?_, ?_⟩, List.forall_mem_singleton.2 ⟨whole, found, listed, gap⟩⟩
  · exact (alike.isMatch _).trans whole
  · exact (alike.find? _).trans found
  · exact (alike.findAll _).trans listed
  · exact (alike.between? _).trans gap

end Sequence

end PatternSearch
