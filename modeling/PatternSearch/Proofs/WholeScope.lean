import PatternSearch.Proofs.Contract

/-!
# Matching all of a scope

Whether patterns match all of a scope is found out by trying them where it begins, with the ending
at the limit. This ending succeeds nowhere else, and no pattern but a `finish` ends a match before
the limit by itself. A pattern of a caller's own may do so: the contract asks for a boundary of the
scope, not for the limit, and nothing asks it to try what follows. A search looks at the end that is
reported and refuses those outside its range; the question for the whole scope takes every success
for a yes.

- `Scope.EndsAtLimit`: what is tried in the scope succeeds at its limit only.
- `Pattern.StopsShort`: a pattern of a caller's own reports another end although all that follows it
  ends at the limit.
- `Pattern.endsAtLimit_or_exists_stopsShort`: without such a pattern, the list ends at the limit.
- `Sequence.isMatch_ends_at_limit_or_stops_short`: so a match of the whole scope takes all of it,
  unless a pattern of a caller's own stops short.
-/

namespace PatternSearch

/-! ## Ending at the limit -/

/-- What is tried at a boundary of the scope ends at the limit of the scope if it succeeds. -/
def Scope.EndsAtLimit (scope : Scope) (tried : Haystack → Nat → Nat → Id Outcome) : Prop :=
  ∀ start stop, scope.HasBoundary start →
    (tried scope.haystack start scope.limit).run = .success stop → stop = scope.limit

namespace Pattern

variable {pattern : Pattern Id} {patterns : List (Pattern Id)} {next : Continuation Id}
  {scope : Scope}

/-- A pattern that is neither a `finish` nor of a caller's own ends at the limit if what follows it
does. -/
theorem endsAtLimit_eval (own : pattern.kind ≠ .custom) (unfinished : pattern.kind ≠ .finish)
    (follows : scope.EndsAtLimit next.run) :
    scope.EndsAtLimit fun hay start limit => pattern.eval hay start limit next := by
  intro start stop inside succeeds
  rcases success_cases own scope.isBoundary_limit inside.isBoundary inside.le_limit succeeds with
    ⟨finish, -⟩ | reached | ⟨mid, boundary, behind, le_limit, succeeds'⟩
  · exact absurd finish unfinished
  · exact reached
  · have inside' : scope.HasBoundary mid :=
      ⟨boundary, Nat.le_trans inside.first_le behind, le_limit⟩
    exact follows mid stop inside' succeeds'

/-- A pattern of a caller's own reports an end before the limit somewhere in the scope, although all
that follows it, wherever in the scope it is tried, ends at the limit. -/
structure StopsShort (scope : Scope) (pattern : Pattern Id) (rest : List (Pattern Id)) : Prop where
  custom : pattern.kind = .custom
  follows : scope.EndsAtLimit (continuation .atLimit rest).run
  short : ∃ start stop, scope.HasBoundary start ∧ stop ≠ scope.limit ∧
    (pattern.eval scope.haystack start scope.limit (continuation .atLimit rest)).run = .success stop

/-- A list without a `finish` ends at the limit, or one of its patterns stops short. -/
theorem endsAtLimit_or_exists_stopsShort
    (unfinished : ∀ pattern ∈ patterns, pattern.kind ≠ .finish) (scope : Scope) :
    scope.EndsAtLimit (continuation .atLimit patterns).run ∨
      ∃ pattern rest, pattern :: rest <:+ patterns ∧ StopsShort scope pattern rest := by
  -- from the last pattern to the first: the one to blame is the last that goes wrong
  induction patterns with
  | nil => exact .inl fun _ _ _ succeeds => Ending.eq_limit_of_outcome succeeds
  | cons pattern rest ih =>
    obtain ⟨unfinished_here, unfinished_rest⟩ := List.forall_mem_cons.1 unfinished
    rcases ih unfinished_rest with follows | ⟨culprit, behind, suffix, short⟩
    · by_cases ends : scope.EndsAtLimit (continuation .atLimit (pattern :: rest)).run
      · exact .inl ends
      · right
        refine ⟨pattern, rest, List.suffix_refl _, ?_, follows, ?_⟩
        · by_contra own
          exact ends (endsAtLimit_eval own unfinished_here follows)
        · simp only [Scope.EndsAtLimit, not_forall] at ends
          obtain ⟨start, stop, inside, succeeds, early⟩ := ends
          exact ⟨start, stop, inside, early, succeeds⟩
    · exact .inr ⟨culprit, behind, suffix.trans (List.suffix_cons pattern rest), short⟩

end Pattern

/-! ## Sequences -/

namespace Sequence

/-- **A match of the whole scope ends at the limit, or a pattern of a caller's own stops short**:
for a sequence without a `finish` whose own patterns keep the contract, it ends at a boundary of the
scope in any case, and at another one than the limit only if there is a pattern of a caller's own
that reports such an end in front of what always goes up to the limit. If there is none, the
sequence matches the scope exactly if it succeeds with the limit for its end. -/
theorem isMatch_ends_at_limit_or_stops_short (sequence : Sequence Id)
    (unfinished : ∀ pattern ∈ sequence.patterns, pattern.kind ≠ .finish)
    (customs : Pattern.CustomsKeepContract sequence.patterns) (scope : Scope) :
    ((sequence.isMatch scope).run = true → ∃ stop, scope.HasBoundary stop ∧
      (sequence.eval scope.haystack scope.first scope.limit .atLimit).run = .success stop ∧
      (stop = scope.limit ∨ ∃ pattern rest, pattern :: rest <:+ sequence.patterns ∧
        Pattern.StopsShort scope pattern rest)) ∧
    ((∀ pattern rest, pattern :: rest <:+ sequence.patterns →
        ¬ Pattern.StopsShort scope pattern rest) →
      ((sequence.isMatch scope).run = true ↔
        (sequence.eval scope.haystack scope.first scope.limit .atLimit).run =
          .success scope.limit)) := by
  have inside : scope.HasBoundary scope.first :=
    ⟨scope.isBoundary_first, Nat.le_refl _, Nat.min_le_right ..⟩
  have ends := Pattern.endsAtLimit_or_exists_stopsShort unfinished scope
  rw [← sequence.eval_eq_run] at ends
  constructor
  · intro whole
    obtain ⟨stop, succeeds⟩ := (sequence.isMatch_eq_true_iff scope).1 whole
    have bounds := keepsContract_eval customs .atLimit scope.haystack scope.first scope.limit stop
      inside.isBoundary scope.isBoundary_limit inside.le_limit succeeds
    refine ⟨stop, ⟨bounds.1, bounds.2.1, bounds.2.2⟩, succeeds, ?_⟩
    rcases ends with ends | short
    · exact .inl (ends scope.first stop inside succeeds)
    · exact .inr short
  · intro none_short
    rw [isMatch_eq_true_iff]
    constructor
    · rintro ⟨stop, succeeds⟩
      rcases ends with ends | ⟨pattern, rest, suffix, short⟩
      · obtain rfl := ends scope.first stop inside succeeds
        exact succeeds
      · exact absurd short (none_short pattern rest suffix)
    · exact fun succeeds => ⟨scope.limit, succeeds⟩

/-- A pattern of a caller's own that hands on what follows it where it is tried, and an `a`: they
match all of `a`, and so the end is the limit. -/
theorem isMatch_ends_at_limit_letters :
    let hay : Haystack := { text := ['a'] }
    let peek : Pattern Id := .custom "peek" fun hay start limit next => next.run hay start limit
    let sequence : Sequence Id := ⟨[peek, .text [['a']] .exact], rfl⟩
    (sequence.isMatch (Scope.full hay)).run = true ∧
      (sequence.eval hay (Scope.full hay).first (Scope.full hay).limit .atLimit).run =
        .success (Scope.full hay).limit := by
  intro hay peek sequence
  have customs : Pattern.CustomsKeepContract sequence.patterns := .of_forall
    (List.forall_mem_cons.2 ⟨fun _ _ keeps => keeps, List.forall_mem_singleton.2 nofun⟩)
  have none_short : ∀ pattern rest, pattern :: rest <:+ sequence.patterns →
      ¬ Pattern.StopsShort (Scope.full hay) pattern rest := by
    rintro pattern rest suffix ⟨custom, follows, start, stop, inside, early, succeeds⟩
    rcases List.mem_cons.1 (suffix.subset (.head rest)) with rfl | member
    · exact early (follows start stop inside succeeds)
    · obtain rfl := List.mem_singleton.1 member
      cases custom
  have whole : (sequence.isMatch (Scope.full hay)).run = true := by decide +kernel
  have limited := (sequence.isMatch_ends_at_limit_or_stops_short (by decide) customs
    (Scope.full hay)).2 none_short
  exact ⟨whole, limited.1 whole⟩

/-- An `a` and a step that stays where it is, which keeps the contract, are said to match all of
`abc`, though the match ends behind the `a`. -/
theorem isMatch_stops_short :
    let hay : Haystack := { text := ['a', 'b', 'c'] }
    let stay : Pattern Id := .custom "stay" fun _ start _ _ => pure (.success start)
    let sequence : Sequence Id := ⟨[.text [['a']] .exact, stay], rfl⟩
    (∀ pattern ∈ sequence.patterns, pattern.kind ≠ .finish) ∧
      Pattern.CustomsKeepContract sequence.patterns ∧
      (sequence.isMatch (Scope.full hay)).run = true ∧ (Scope.full hay).limit = 3 ∧
      (sequence.eval hay (Scope.full hay).first (Scope.full hay).limit .atLimit).run =
        .success 1 := by
  intro hay stay sequence
  refine ⟨by decide, ?_, by decide +kernel, by decide +kernel, by decide +kernel⟩
  refine .of_forall (List.forall_mem_cons.2 ⟨nofun, List.forall_mem_singleton.2 ?_⟩)
  intro _ next _ hay start limit stop boundary _ le succeeds
  obtain rfl : start = stop := Outcome.success.inj succeeds
  exact ⟨boundary, Nat.le_refl start, le⟩

end Sequence

end PatternSearch
