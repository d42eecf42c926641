import PatternSearch.Proofs.Fusion
import PatternSearch.Proofs.Relaxation

/-!
# Alternatives searched for together

A text that lists the literals of two others tries those of the first and, if none of them is
followed by what has to follow, those of the second. The three may be searched for in three ways:
their leads are made of all the literals, and one empty literal, or one with another first letter,
leaves no lead at all. But a search answers with the first match, whatever the lead. So to search
for the alternatives together is to search for them apart and to take what starts first; of a tie,
what the first search found.

- `Interval.earlier?`: of two answers, the one to take.
- `Pattern.evalAll_text_append`: the alternatives of two texts at one offset.
- `Sequence.EitherOf`: a sequence that matches wherever one of two others does, as the first of them
  if it can. Its first match is the earlier one of theirs (`Sequence.EitherOf.firstMatch`).
- `Sequence.alternatives_found_earliest`: so searches for the alternatives together and apart agree.
-/

namespace PatternSearch

/-- Of two answers, the one that starts first, and the first one of a tie. -/
def Interval.earlier? : Option Interval → Option Interval → Option Interval
  | some found, some found' => if found.start ≤ found'.start then some found else some found'
  | some found, none => some found
  | none, answer' => answer'

/-- The literals of two lists are those of the first, and those of the second if nothing comes of
them. -/
theorem Pattern.evalAll_text_append {m : Type → Type} [Monad m] [LawfulMonad m]
    (literals others : List Text) (casing : Casing) (tail : List (Pattern m)) (hay : Haystack)
    (start limit : Nat) (ending : Ending) :
    evalAll (.text (literals ++ others) casing :: tail) hay start limit ending =
      evalAll (.text literals casing :: tail) hay start limit ending >>= fun outcome =>
        outcome.orElse (evalAll (.text others casing :: tail) hay start limit ending) := by
  show firstSuccess _ ((literals ++ others).filterMap _) = _
  rw [List.filterMap_append, firstSuccess_append]
  rfl

namespace Sequence

variable {both sequence sequence' : Sequence Id} {hay : Haystack} {limit pos start stop : Nat}
  {found : Interval} {answer answer' : Option Interval}

/-! ## Where either of two sequences matches -/

/-- At every boundary before the limit, `both` matches as `sequence` does, or as `sequence'` does if
the former does not match there. -/
def EitherOf (both sequence sequence' : Sequence Id) (hay : Haystack) (limit : Nat) : Prop :=
  ∀ start stop, hay.isBoundary start = true → start < limit →
    (both.MatchesTo hay limit start stop ↔ sequence.MatchesTo hay limit start stop ∨
      ¬ sequence.MatchesAt hay limit start ∧ sequence'.MatchesTo hay limit start stop)

namespace EitherOf

theorem matchesAt_iff (either : both.EitherOf sequence sequence' hay limit)
    (boundary : hay.isBoundary start = true) (lt : start < limit) :
    both.MatchesAt hay limit start ↔
      sequence.MatchesAt hay limit start ∨ sequence'.MatchesAt hay limit start := by
  constructor
  · rintro ⟨stop, matches_⟩
    rcases (either start stop boundary lt).1 matches_ with left | ⟨-, right⟩
    · exact .inl ⟨stop, left⟩
    · exact .inr ⟨stop, right⟩
  · intro one
    by_cases first : sequence.MatchesAt hay limit start
    · obtain ⟨stop, left⟩ := first
      exact ⟨stop, (either start stop boundary lt).2 (.inl left)⟩
    · obtain ⟨stop, right⟩ := one.resolve_left first
      exact ⟨stop, (either start stop boundary lt).2 (.inr ⟨first, right⟩)⟩

/-- Where neither sequence matches, nor do both. -/
theorem noneBelow {bound : Nat} (either : both.EitherOf sequence sequence' hay limit)
    (le : bound ≤ limit) (none : hay.NoneBelow pos bound (sequence.MatchesAt hay limit))
    (none' : hay.NoneBelow pos bound (sequence'.MatchesAt hay limit)) :
    hay.NoneBelow pos bound (both.MatchesAt hay limit) := by
  intro start boundary from_le lt matches_
  rcases (either.matchesAt_iff boundary (Nat.lt_of_lt_of_le lt le)).1 matches_ with left | right
  · exact none start boundary from_le lt left
  · exact none' start boundary from_le lt right

/-- The first match of the first sequence is that of both, unless the other one matches before. -/
theorem firstMatch_left (either : both.EitherOf sequence sequence' hay limit)
    (first : sequence.FirstMatch hay limit pos (some found))
    (none' : hay.NoneBelow pos found.start (sequence'.MatchesAt hay limit)) :
    both.FirstMatch hay limit pos (some found) := by
  obtain ⟨haystack, isFirst, matches_⟩ := first
  have matches_both : both.MatchesTo hay limit found.start found.stop :=
    (either found.start found.stop isFirst.boundary isFirst.lt).2 (.inl matches_)
  have none_both := either.noneBelow (Nat.le_of_lt isFirst.lt) isFirst.noneBelow none'
  exact ⟨haystack,
    ⟨isFirst.boundary, isFirst.le, isFirst.lt, ⟨_, matches_both⟩, none_both⟩,
    matches_both⟩

/-- The first match of the second sequence is that of both, unless the first one matches there or
before. -/
theorem firstMatch_right (either : both.EitherOf sequence sequence' hay limit)
    (first' : sequence'.FirstMatch hay limit pos (some found))
    (none : hay.NoneBelow pos (found.start + 1) (sequence.MatchesAt hay limit)) :
    both.FirstMatch hay limit pos (some found) := by
  obtain ⟨haystack, isFirst, matches_⟩ := first'
  have not_first : ¬ sequence.MatchesAt hay limit found.start :=
    none found.start isFirst.boundary isFirst.le (Nat.lt_succ_self _)
  have matches_both : both.MatchesTo hay limit found.start found.stop :=
    (either found.start found.stop isFirst.boundary isFirst.lt).2 (.inr ⟨not_first, matches_⟩)
  have before : hay.NoneBelow pos found.start (sequence.MatchesAt hay limit) :=
    fun start boundary from_le lt => none start boundary from_le (Nat.lt_succ_of_lt lt)
  have none_both := either.noneBelow (Nat.le_of_lt isFirst.lt) before isFirst.noneBelow
  exact ⟨haystack,
    ⟨isFirst.boundary, isFirst.le, isFirst.lt, ⟨_, matches_both⟩, none_both⟩,
    matches_both⟩

/-- The first match of both is the earlier one of the first matches of the two. -/
theorem firstMatch (either : both.EitherOf sequence sequence' hay limit)
    (first : sequence.FirstMatch hay limit pos answer)
    (first' : sequence'.FirstMatch hay limit pos answer') :
    both.FirstMatch hay limit pos (Interval.earlier? answer answer') := by
  cases answer with
  | none =>
    cases answer' with
    | none => exact either.noneBelow (Nat.le_refl limit) first first'
    | some found' =>
      exact either.firstMatch_right first' fun start boundary from_le lt =>
        first start boundary from_le (Nat.lt_of_lt_of_le lt first'.isFirst.lt)
  | some found =>
    cases answer' with
    | none =>
      exact either.firstMatch_left first fun start boundary from_le lt =>
        first' start boundary from_le (Nat.lt_trans lt first.isFirst.lt)
    | some found' =>
      rw [Interval.earlier?]
      split
      · next le =>
        exact either.firstMatch_left first fun start boundary from_le lt =>
          first'.isFirst.least start boundary from_le (Nat.lt_of_lt_of_le lt le)
      · next behind =>
        exact either.firstMatch_right first' fun start boundary from_le lt =>
          first.isFirst.least start boundary from_le
            (Nat.lt_of_lt_of_le lt (Nat.lt_of_not_le behind))

/-- So a search finds that one. -/
theorem run_find? {scope : Scope}
    (either : both.EitherOf sequence sequence' scope.haystack scope.limit) :
    (both.find? scope).run =
      Interval.earlier? (sequence.find? scope).run (sequence'.find? scope).run :=
  (both.find?_eq_iff_firstMatch scope).2
    (either.firstMatch (sequence.firstMatch_find? scope) (sequence'.firstMatch_find? scope))

end EitherOf

/-! ## Texts -/

variable {literals others : List Text} {casing : Casing} {tail : List (Pattern Id)}

/-- With the literals of both, a text in front of the same patterns is either of two texts. -/
theorem eitherOf_text_append (own : ∀ pattern ∈ tail, pattern.kind ≠ .custom)
    (declared_both : both.patterns = .text (literals ++ others) casing :: tail)
    (declared : sequence.patterns = .text literals casing :: tail)
    (declared' : sequence'.patterns = .text others casing :: tail)
    (limitBoundary : hay.isBoundary limit = true) : both.EitherOf sequence sequence' hay limit := by
  intro start stop boundary lt
  have joined : (both.eval hay start limit .anywhere).run =
      ((sequence.eval hay start limit .anywhere).run.orElse
        (sequence'.eval hay start limit .anywhere)).run := by
    simp only [eval_eq_evalAll]
    rw [declared_both, declared, declared', Pattern.evalAll_text_append]
    rfl
  have own_text : ∀ pattern ∈ sequence.patterns, pattern.kind ≠ .custom := by
    rw [declared]
    refine List.forall_mem_cons.2 ⟨fun custom => ?_, own⟩
    cases custom
  rw [matchesAt_iff_isSuccess own_text limitBoundary boundary (Nat.le_of_lt lt), MatchesTo, joined]
  cases outcome : (sequence.eval hay start limit .anywhere).run with
  | success mid => simp [MatchesTo, outcome, Outcome.isSuccess, Outcome.orElse]
  | abort | backtrack => simp [MatchesTo, outcome, Outcome.isSuccess, Outcome.orElse]

/-- **Alternatives are found where the first of them is**: a text with the literals of two lists is
allowed in front of the same patterns as a text with those of one, and if none of these patterns is
of a caller's own, a search for it answers with what the search for the first list answers, if that
starts no later than what the search for the second one answers or only the former finds anything,
and with the answer of the latter otherwise. -/
theorem alternatives_found_earliest (literals others : List Text) (casing : Casing)
    (tail : List (Pattern Id)) (own : ∀ pattern ∈ tail, pattern.kind ≠ .custom) :
    (offence? (.text (literals ++ others) casing :: tail) =
      offence? (.text literals casing :: tail) ∧
      offence? (.text (literals ++ others) casing :: tail) =
        offence? (.text others casing :: tail)) ∧
    ∀ both sequence sequence' : Sequence Id,
      both.patterns = .text (literals ++ others) casing :: tail →
      sequence.patterns = .text literals casing :: tail →
      sequence'.patterns = .text others casing :: tail →
      ∀ scope, (both.find? scope).run =
        Interval.earlier? (sequence.find? scope).run (sequence'.find? scope).run := by
  refine ⟨⟨rfl, rfl⟩, ?_⟩
  intro both sequence sequence' declared_both declared declared' scope
  exact (eitherOf_text_append own declared_both declared declared' scope.isBoundary_limit).run_find?

/-- A `b` or a `k` in `xaKab`, letter case aside: each search apart has the lead of its letter, the
one for both has none. What it finds is what the second one does, which starts before the other. -/
theorem alternatives_found_earliest_letters :
    let hay : Haystack := { text := ['x', 'a', 'K', 'a', 'b'] }
    let both : Sequence Id := ⟨[.text [['b'], ['k']] .folded], rfl⟩
    let sequence : Sequence Id := ⟨[.text [['b']] .folded], rfl⟩
    let sequence' : Sequence Id := ⟨[.text [['k']] .folded], rfl⟩
    (both.lead? = none ∧ sequence.lead?.isSome = true ∧ sequence'.lead?.isSome = true) ∧
      (both.find? (Scope.full hay)).run = some ⟨hay, 2, 3⟩ := by
  intro hay both sequence sequence'
  have found : (sequence.find? (Scope.full hay)).run = some ⟨hay, 4, 5⟩ := by decide +kernel
  have found' : (sequence'.find? (Scope.full hay)).run = some ⟨hay, 2, 3⟩ := by decide +kernel
  obtain ⟨-, together⟩ := alternatives_found_earliest [['b']] [['k']] .folded [] nofun
  have answer := together both sequence sequence' rfl rfl rfl (Scope.full hay)
  rw [found, found'] at answer
  exact ⟨by decide, answer⟩

end Sequence

end PatternSearch
