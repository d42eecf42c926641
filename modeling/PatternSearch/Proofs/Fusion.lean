import PatternSearch.Proofs.DeclaredEnding
import PatternSearch.Proofs.FirstMatch
import PatternSearch.Proofs.FirstOffence
import PatternSearch.Proofs.Occurrence
import PatternSearch.Proofs.SameAnswers

/-!
# Neighbours made into one

Two texts that follow each other ask for one of the literals of the first and behind it for one of
those of the second. That is to ask for one literal that is made of both: with all of them listed,
those of the first list varying last, a single text tries the same places in the same order. Each of
the two texts keeps the failures behind it to itself, which is no more than the single one does. Two
`except`s that follow each other forbid what one forbids that lists the literals of both.

- `firstSuccess_flatMap`: to look for a success among the places that places lead to is to look for
  it among all of them in a row.
- `Pattern.FusesWith`: two patterns that a third one does at once.
- `Pattern.FusesWith.evalAll_append_eq`: in a list of patterns, they and it come to the same, with
  the same effects.
- `Pattern.FusesWith.offence?_eq_none_iff`: a sequence stays one.
- `Sequence.fused_neighbours_agree`: so the two sequences match the same scopes and find the same;
  and they answer alike in all, where matches end at boundaries only.
-/

namespace PatternSearch

/-- Each of the literals with each of the others behind it, in order. -/
def Text.concats (literals others : List Text) : List Text :=
  literals.flatMap fun literal => others.map (literal ++ ·)

/-! ## Alternatives of alternatives -/

section Alternatives

variable {m : Type → Type} [Monad m]

/-- The outcome if it is a success, and what else may be tried otherwise. -/
def Outcome.orElse (outcome : Outcome) (other : m Outcome) : m Outcome :=
  match outcome with
  | .success stop => pure (.success stop)
  | _ => other

theorem firstSuccess_cons (attempt : Nat → m Outcome) (place : Nat) (rest : List Nat) :
    firstSuccess attempt (place :: rest) =
      attempt place >>= fun outcome => outcome.orElse (firstSuccess attempt rest) := rfl

variable [LawfulMonad m]

/-- The alternatives behind others are tried if none of these succeeds. -/
theorem firstSuccess_append (attempt : Nat → m Outcome) (places places' : List Nat) :
    firstSuccess attempt (places ++ places') =
      firstSuccess attempt places >>= fun outcome =>
        outcome.orElse (firstSuccess attempt places') := by
  induction places with
  | nil => simp [firstSuccess, Outcome.orElse]
  | cons place rest ih =>
    rw [List.cons_append, firstSuccess_cons, firstSuccess_cons, bind_assoc]
    refine bind_congr fun outcome => ?_
    cases outcome with
    | success stop => simp [Outcome.orElse]
    | abort | backtrack => exact ih

/-- To look for the first success among the places that each place leads to is to look for it among
all of these in a row. -/
theorem firstSuccess_flatMap (attempt : Nat → m Outcome) (onward : Nat → List Nat)
    (places : List Nat) :
    firstSuccess (fun place => firstSuccess attempt (onward place)) places =
      firstSuccess attempt (places.flatMap onward) := by
  induction places with
  | nil => rfl
  | cons place rest ih => rw [List.flatMap_cons, firstSuccess_append, firstSuccess_cons, ih]

end Alternatives

/-- The ends of the literals of two parts are the ends of the second parts from those of the
first. -/
theorem Haystack.filterMap_literalEnd?_concats (hay : Haystack) (casing : Casing)
    (limit start : Nat) (literals others : List Text) :
    (Text.concats literals others).filterMap (hay.literalEnd? casing limit start) =
      (literals.filterMap (hay.literalEnd? casing limit start)).flatMap
        fun mid => others.filterMap (hay.literalEnd? casing limit mid) := by
  induction literals with
  | nil => rfl
  | cons literal rest ih =>
    have behind : (others.map (literal ++ ·)).filterMap (hay.literalEnd? casing limit start) =
        others.filterMap fun other => (hay.literalEnd? casing limit start literal).bind
          fun mid => hay.literalEnd? casing limit mid other := by
      rw [List.filterMap_map]
      congr 1
      funext other
      exact hay.literalEnd?_append casing limit start literal other
    show (others.map (literal ++ ·) ++ Text.concats rest others).filterMap _ = _
    rw [List.filterMap_append, behind, ih]
    cases found : hay.literalEnd? casing limit start literal with
    | none => simp [List.filterMap_cons_none found]
    | some mid => simp [List.filterMap_cons_some found]

namespace Pattern

variable {m : Type → Type} {first second fused : Pattern m}

/-! ## Two neighbours -/

/-- The third pattern says at once what the two others, of one kind and one casing, say one after
the other. -/
inductive FusesWith : Pattern m → Pattern m → Pattern m → Prop where
  | text (literals others : List Text) (casing : Casing) :
    FusesWith (.text literals casing) (.text others casing)
      (.text (Text.concats literals others) casing)
  | except (literals others : List Text) (casing : Casing) :
    FusesWith (.except literals casing) (.except others casing)
      (.except (literals ++ others) casing)

/-- Two texts do what the text of both does. -/
theorem evalAll_text_text [Monad m] [LawfulMonad m] (literals others : List Text) (casing : Casing)
    (tail : List (Pattern m)) (hay : Haystack) (start limit : Nat) (ending : Ending) :
    evalAll (.text literals casing :: .text others casing :: tail) hay start limit ending =
      evalAll (.text (Text.concats literals others) casing :: tail) hay start limit ending := by
  show firstSuccess (fun mid => firstSuccess (fun stop => evalAll tail hay stop limit ending)
      (others.filterMap (hay.literalEnd? casing limit mid)))
      (literals.filterMap (hay.literalEnd? casing limit start)) =
    firstSuccess (fun stop => evalAll tail hay stop limit ending)
      ((Text.concats literals others).filterMap (hay.literalEnd? casing limit start))
  rw [firstSuccess_flatMap, Haystack.filterMap_literalEnd?_concats]

/-- Two `except`s forbid what the one with the literals of both forbids. -/
theorem evalAll_except_except [Monad m] (literals others : List Text) (casing : Casing)
    (tail : List (Pattern m)) (hay : Haystack) (start limit : Nat) (ending : Ending) :
    evalAll (.except literals casing :: .except others casing :: tail) hay start limit ending =
      evalAll (.except (literals ++ others) casing :: tail) hay start limit ending := by
  rw [evalAll_except, evalAll_except, evalAll_except, List.any_append]
  by_cases stands : (literals.any fun literal =>
      (hay.literalEnd? casing limit start literal).isSome) = true
  · simp [stands]
  · simp [stands]

/-- Two neighbours and what they are fused to come to the same, whatever follows. -/
theorem FusesWith.evalAll_eq [Monad m] [LawfulMonad m] (fuses : first.FusesWith second fused)
    (tail : List (Pattern m)) (hay : Haystack) (start limit : Nat) (ending : Ending) :
    evalAll (first :: second :: tail) hay start limit ending =
      evalAll (fused :: tail) hay start limit ending := by
  cases fuses with
  | text literals others casing =>
    exact evalAll_text_text literals others casing tail hay start limit ending
  | except literals others casing =>
    exact evalAll_except_except literals others casing tail hay start limit ending

/-- Nor can patterns in front of them tell the difference. -/
theorem FusesWith.evalAll_append_eq [Monad m] [LawfulMonad m] (fuses : first.FusesWith second fused)
    {front : List (Pattern m)} (own : ∀ pattern ∈ front, pattern.kind ≠ .custom)
    (tail : List (Pattern m)) (hay : Haystack) (start limit : Nat) (ending : Ending) :
    evalAll (front ++ first :: second :: tail) hay start limit ending =
      evalAll (front ++ fused :: tail) hay start limit ending := by
  have same := fun pos => fuses.evalAll_eq tail hay pos limit ending
  exact evalAll_append_cons_congr own same start

/-- Two neighbours may be made into one in a sequence, and only there. -/
theorem FusesWith.offence?_eq_none_iff (fuses : first.FusesWith second fused)
    (front tail : List (Pattern m)) :
    Sequence.offence? (front ++ first :: second :: tail) = none ↔
      Sequence.offence? (front ++ fused :: tail) = none := by
  have same : ∀ index index' previous,
      firstOffence? index previous (first :: second :: tail) = none ↔
        firstOffence? index' previous (fused :: tail) = none := by
    intro index index' previous
    -- neither of them offends anywhere, and what follows stands behind a pattern of the same kind
    cases fuses with
    | text | except =>
      simp only [firstOffence?_cons_eq_none_iff, offence?, true_and]
      exact firstOffence?_eq_none_iff_shifted tail _ _ _
  exact Sequence.offence?_append_eq_none_iff (List.cons_ne_nil _ _) (List.cons_ne_nil _ _) same
    front

end Pattern

/-! ## Sequences -/

namespace Sequence

/-- **Neighbours may be made into one**: two texts of one casing that follow each other, with no
pattern of a caller's own in front of them, do the same as the text of their concatenations, and two
`except`s the same as the `except` of both lists. Tried anywhere, the patterns come to the same; the
one list is a sequence if the other is; and the two sequences match the same scopes and find the
same in each. All their answers are the same if they have one lead or the caller's own patterns
report boundaries only. -/
theorem fused_neighbours_agree {first second fused : Pattern Id}
    (fuses : first.FusesWith second fused) (front tail : List (Pattern Id))
    (own : ∀ pattern ∈ front, pattern.kind ≠ .custom) :
    (∀ hay start limit ending,
      (Pattern.evalAll (front ++ first :: second :: tail) hay start limit ending).run =
        (Pattern.evalAll (front ++ fused :: tail) hay start limit ending).run) ∧
    (offence? (front ++ first :: second :: tail) = none ↔
      offence? (front ++ fused :: tail) = none) ∧
    ∀ sequence sequence' : Sequence Id, sequence.patterns = front ++ first :: second :: tail →
      sequence'.patterns = front ++ fused :: tail →
      (∀ scope, (sequence.isMatch scope).run = (sequence'.isMatch scope).run ∧
        (sequence.find? scope).run = (sequence'.find? scope).run) ∧
      (sequence.lead? = sequence'.lead? ∨
          (∀ hay, Pattern.ReportBoundaries hay sequence.patterns) →
        sequence.SameAnswers sequence') := by
  refine ⟨fun hay start limit ending => ?_, fuses.offence?_eq_none_iff front tail, ?_⟩
  · exact congrArg Id.run (fuses.evalAll_append_eq own tail hay start limit ending)
  · intro sequence sequence' declared declared'
    have same : ∀ hay start limit ending,
        sequence.eval hay start limit ending = sequence'.eval hay start limit ending := by
      intro hay start limit ending
      rw [eval_eq_evalAll, eval_eq_evalAll, declared, declared']
      exact fuses.evalAll_append_eq own tail hay start limit ending
    refine ⟨fun scope => ⟨?_, ?_⟩, sameAnswers_of_eval_eq same⟩
    · rw [isMatch, isMatch, same]
    · exact find?_congr scope fun start => same scope.haystack start scope.limit .anywhere

/-- An optional `a` and then `b` or `bc`, in `xabcyb`: made into one text they have a lead. Either
way the `abc` is matched as a whole, `ab` is found and behind it, past `cy`, the last `b`. -/
theorem fused_neighbours_agree_letters :
    let hay : Haystack := { text := ['x', 'a', 'b', 'c', 'y', 'b'] }
    let sequence : Sequence Id :=
      ⟨[.text [['a'], []] .exact, .text [['b'], ['b', 'c']] .exact], rfl⟩
    let sequence' : Sequence Id :=
      ⟨[.text [['a', 'b'], ['a', 'b', 'c'], ['b'], ['b', 'c']] .exact], rfl⟩
    sequence.lead?.isSome = false ∧ sequence'.lead?.isSome = true ∧
      ∀ either ∈ [sequence, sequence'],
        (either.isMatch (Scope.ofRange hay 1 4)).run = true ∧
        (either.find? (Scope.full hay)).run = some ⟨hay, 1, 3⟩ ∧
        (either.findAll (Scope.full hay)).run = [⟨hay, 1, 3⟩, ⟨hay, 5, 6⟩] ∧
        (either.between? ⟨hay, 1, 3⟩).run = some ⟨hay, 3, 5⟩ := by
  intro hay sequence sequence'
  have whole : (sequence.isMatch (Scope.ofRange hay 1 4)).run = true := by decide +kernel
  have found : (sequence.find? (Scope.full hay)).run = some ⟨hay, 1, 3⟩ := by decide +kernel
  have listed : (sequence.findAll (Scope.full hay)).run = [⟨hay, 1, 3⟩, ⟨hay, 5, 6⟩] := by
    decide +kernel
  have gap : (sequence.between? ⟨hay, 1, 3⟩).run = some ⟨hay, 3, 5⟩ := by decide +kernel
  obtain ⟨-, -, agree⟩ :=
    fused_neighbours_agree (.text [['a'], []] [['b'], ['b', 'c']] .exact) [] [] nofun
  obtain ⟨-, alike⟩ := agree sequence sequence' rfl rfl
  have same := alike (.inr fun hay => Pattern.reportBoundaries_of_own (by decide))
  refine ⟨rfl, rfl, List.forall_mem_cons.2 ⟨⟨whole, found, listed, gap⟩, ?_⟩⟩
  refine List.forall_mem_singleton.2 ⟨?_, ?_, ?_, ?_⟩
  · exact (same.isMatch _).symm.trans whole
  · exact (same.find? _).symm.trans found
  · exact (same.findAll _).symm.trans listed
  · exact (same.between? _).symm.trans gap

end Sequence

end PatternSearch
