import PatternSearch.Proofs.Lead
import PatternSearch.Proofs.Occurrence
import PatternSearch.Proofs.Sweep

/-!
# What one pattern does

The outcome of a pattern, told by the outcomes of what follows it. Two of the patterns try more than
one place, each in its order: a text the ends of its literals, a wildcard the boundaries up to the
limit (`Haystack.sweep_cases`).

- `firstSuccess_cases`: the alternatives of a text come to the first success among them.
- `Pattern.success_cases`: a pattern that succeeds ends the match itself, at the limit unless it is
  a `finish`, or hands on the success of what follows at some boundary in between.
- `Pattern.bounds_of_success`: matches end from their start to the limit if there are no patterns of
  the caller's own.
- `Pattern.isBoundary_of_success`: matches end at boundaries if the caller's own patterns only
  report boundaries (`Pattern.ReportBoundaries`).
-/

namespace PatternSearch

variable {hay : Haystack} {start limit stop : Nat}

/-! ## Alternatives -/

/-- The attempts come to the first success among them, and backtrack if there is none. Each attempt
is made where its alternative leads, if it leads anywhere. -/
theorem firstSuccess_cases {α : Type} (attempt : Nat → Id Outcome) (place? : α → Option Nat)
    (alternatives : List α) :
    (∃ (index : Nat) (alternative : α) (place : Nat), alternatives[index]? = some alternative ∧
      place? alternative = some place ∧ (attempt place).run.isSuccess = true ∧
      (firstSuccess attempt (alternatives.filterMap place?)).run = (attempt place).run ∧
      ∀ earlier < index, ∀ other place', alternatives[earlier]? = some other →
        place? other = some place' → (attempt place').run.isSuccess = false) ∨
    (∀ alternative ∈ alternatives, ∀ place, place? alternative = some place →
      (attempt place).run.isSuccess = false) ∧
      (firstSuccess attempt (alternatives.filterMap place?)).run = .backtrack := by
  induction alternatives with
  | nil => exact .inr ⟨nofun, rfl⟩
  | cons alternative alternatives ih =>
    by_cases succeeds : ∃ place, place? alternative = some place ∧
        (attempt place).run.isSuccess = true
    · obtain ⟨place, leads, succeeds⟩ := succeeds
      refine .inl ⟨0, alternative, place, rfl, leads, succeeds, ?_, nofun⟩
      rw [List.filterMap_cons_some leads, firstSuccess, Id.run_bind]
      cases outcome : (attempt place).run with
      | success stop => rfl
      | abort | backtrack =>
        rw [outcome] at succeeds
        cases succeeds
    · have fails : ∀ place, place? alternative = some place →
          (attempt place).run.isSuccess = false := by
        intro place leads
        cases success : (attempt place).run.isSuccess with
        | false => rfl
        | true => exact absurd ⟨place, leads, success⟩ succeeds
      -- the first alternative is passed over, so all the rest is what it is for the others
      have passed : (firstSuccess attempt ((alternative :: alternatives).filterMap place?)).run =
          (firstSuccess attempt (alternatives.filterMap place?)).run := by
        cases leads : place? alternative with
        | none => rw [List.filterMap_cons_none leads]
        | some place =>
          have fail := fails place leads
          rw [List.filterMap_cons_some leads, firstSuccess, Id.run_bind]
          cases outcome : (attempt place).run with
          | success stop =>
            rw [outcome] at fail
            cases fail
          | abort | backtrack => rfl
      rw [passed]
      rcases ih with
        ⟨index, later, place, at_index, leads, success, same, first⟩ | ⟨none, same⟩
      · refine .inl ⟨index + 1, later, place, at_index, leads, success, same, ?_⟩
        intro earlier before other place' at_earlier leads'
        cases earlier with
        | zero =>
          obtain rfl := Option.some_inj.1 at_earlier
          exact fails place' leads'
        | succ earlier =>
          exact first earlier (Nat.lt_of_succ_lt_succ before) other place' at_earlier leads'
      · exact .inr ⟨List.forall_mem_cons.2 ⟨fails, none⟩, same⟩

/-! ## Repetitions -/

/-- A row of repetitions ends at a boundary within the limit, be the literal empty or not. -/
theorem Haystack.run_bounds (casing : Casing) (literal : Text)
    (limitBoundary : hay.isBoundary limit = true) (boundary : hay.isBoundary start = true)
    (le : start ≤ limit) :
    hay.isBoundary (hay.run casing limit literal start).2 = true ∧
      start ≤ (hay.run casing limit literal start).2 ∧
      (hay.run casing limit literal start).2 ≤ limit := by
  fun_induction run hay casing limit literal start with
  | case1 start mid found ahead count last eq ih =>
    have covers := ((literalEnd?_eq_some_iff_covers limitBoundary).1 found).1
    rw [eq] at ih
    obtain ⟨end_, from_le, le_limit⟩ := ih covers.isBoundary_stop ahead.2
    exact ⟨end_, Nat.le_trans covers.le from_le, le_limit⟩
  | case2 start mid found stuck => exact ⟨boundary, Nat.le_refl start, le⟩
  | case3 start missing => exact ⟨boundary, Nat.le_refl start, le⟩

/-! ## Success -/

/-- An ending that succeeds does so where it is asked for. -/
theorem Ending.eq_of_outcome (ending : Ending)
    (succeeds : ending.outcome start limit = .success stop) : start = stop := by
  cases ending with
  | anywhere => exact Outcome.success.inj succeeds
  | atLimit =>
    dsimp only [outcome] at succeeds
    split at succeeds
    · exact Outcome.success.inj succeeds
    · cases succeeds

/-- The ending at the limit succeeds there only. -/
theorem Ending.eq_limit_of_outcome (succeeds : atLimit.outcome start limit = .success stop) :
    stop = limit := by
  dsimp only [outcome] at succeeds
  split at succeeds
  · next reached => exact (Outcome.success.inj succeeds).symm.trans reached
  · cases succeeds

/-- A pattern that succeeds ends the match at the limit, or where it stands if it is a `finish`, or
else passes on the success of what follows, tried at a boundary in between. -/
theorem Pattern.success_cases {pattern : Pattern Id} {next : Continuation Id}
    (own : pattern.kind ≠ .custom) (limitBoundary : hay.isBoundary limit = true)
    (boundary : hay.isBoundary start = true) (le : start ≤ limit)
    (succeeds : (pattern.eval hay start limit next).run = .success stop) :
    pattern.kind = .finish ∧ stop = start ∨ stop = limit ∨
      ∃ mid, hay.isBoundary mid = true ∧ start ≤ mid ∧ mid ≤ limit ∧
        (next.run hay mid limit).run = .success stop := by
  cases pattern with
  | limit => exact .inr (.inl (Ending.eq_limit_of_outcome succeeds))
  | finish => exact .inl ⟨rfl, (Outcome.success.inj succeeds).symm⟩
  | any =>
    right
    dsimp only [eval] at succeeds
    split at succeeds
    · exact .inl (Outcome.success.inj succeeds).symm
    · right
      rcases hay.sweep_cases (fun pos => next.run hay pos limit) limitBoundary boundary le with
        ⟨mid, first, same⟩ | ⟨-, same⟩
      · exact ⟨mid, first.boundary, first.le, Nat.le_of_lt_succ first.lt,
          same.symm.trans succeeds⟩
      · exact nomatch same.symm.trans succeeds
  | text literals casing =>
    right; right
    dsimp only [eval] at succeeds
    rcases firstSuccess_cases (fun stop => next.run hay stop limit)
        (hay.literalEnd? casing limit start) literals with
      ⟨-, literal, mid, -, found, -, same, -⟩ | ⟨-, same⟩
    · obtain ⟨covers, le_limit⟩ :=
        (Haystack.literalEnd?_eq_some_iff_covers limitBoundary).1 found
      exact ⟨mid, covers.isBoundary_stop, covers.le, le_limit, same.symm.trans succeeds⟩
    · exact nomatch same.symm.trans succeeds
  | except literals casing =>
    right; right
    dsimp only [eval] at succeeds
    split at succeeds
    · cases succeeds
    · exact ⟨start, boundary, Nat.le_refl start, le, succeeds⟩
  | repeated literal casing atLeast atMost =>
    right; right
    obtain ⟨end_, from_le, le_limit⟩ :=
      Haystack.run_bounds casing literal limitBoundary boundary le
    dsimp only [eval] at succeeds
    split at succeeds
    · exact ⟨_, end_, from_le, le_limit, succeeds⟩
    · split at succeeds <;> cases succeeds
  | custom name logic => exact absurd rfl own

/-! ## Ends -/

/-- Without patterns of the caller's own, a match ends from its start to the limit. -/
theorem Pattern.bounds_of_success {patterns : List (Pattern Id)} {ending : Ending}
    (own : ∀ pattern ∈ patterns, pattern.kind ≠ .custom)
    (limitBoundary : hay.isBoundary limit = true) (boundary : hay.isBoundary start = true)
    (le : start ≤ limit)
    (succeeds : (evalAll patterns hay start limit ending).run = .success stop) :
    start ≤ stop ∧ stop ≤ limit := by
  induction patterns generalizing start with
  | nil =>
    obtain rfl := ending.eq_of_outcome succeeds
    exact ⟨Nat.le_refl start, le⟩
  | cons pattern rest ih =>
    rcases success_cases (own pattern (.head rest)) limitBoundary boundary le succeeds with
      ⟨-, rfl⟩ | rfl | ⟨mid, boundary', from_le, mid_le, succeeds'⟩
    · exact ⟨Nat.le_refl _, le⟩
    · exact ⟨le, Nat.le_refl _⟩
    · obtain ⟨mid_le_stop, le_limit⟩ :=
        ih (fun other member => own other (.tail pattern member)) boundary' mid_le succeeds'
      exact ⟨Nat.le_trans from_le mid_le_stop, le_limit⟩

/-- Every pattern of the caller's own, tried in its place in the list between two boundaries, only
reports boundaries. -/
def Pattern.ReportBoundaries (hay : Haystack) : List (Pattern Id) → Prop
  | [] => True
  | pattern :: rest =>
    (pattern.kind = .custom → ∀ start limit stop, hay.isBoundary start = true →
      hay.isBoundary limit = true → start ≤ limit →
      (pattern.eval hay start limit (continuation .anywhere rest)).run = .success stop →
      hay.isBoundary stop = true) ∧ ReportBoundaries hay rest

/-- Without patterns of the caller's own, there is nothing to ask for. -/
theorem Pattern.reportBoundaries_of_own {patterns : List (Pattern Id)}
    (own : ∀ pattern ∈ patterns, pattern.kind ≠ .custom) : ReportBoundaries hay patterns := by
  induction patterns with
  | nil => trivial
  | cons pattern rest ih =>
    refine ⟨fun custom => absurd custom (own pattern (.head rest)), ?_⟩
    exact ih fun other member => own other (.tail pattern member)

/-- With such patterns every match ends at a boundary. -/
theorem Pattern.isBoundary_of_success {patterns : List (Pattern Id)}
    (report : ReportBoundaries hay patterns) (limitBoundary : hay.isBoundary limit = true)
    (boundary : hay.isBoundary start = true) (le : start ≤ limit)
    (succeeds : (evalAll patterns hay start limit .anywhere).run = .success stop) :
    hay.isBoundary stop = true := by
  induction patterns generalizing start with
  | nil =>
    obtain rfl : start = stop := Outcome.success.inj succeeds
    exact boundary
  | cons pattern rest ih =>
    obtain ⟨reports, report⟩ := report
    by_cases own : pattern.kind = .custom
    · exact reports own start limit stop boundary limitBoundary le succeeds
    · rcases success_cases own limitBoundary boundary le succeeds with
        ⟨-, rfl⟩ | rfl | ⟨mid, boundary', -, le', succeeds'⟩
      · exact boundary
      · exact limitBoundary
      · exact ih report boundary' le' succeeds'

end PatternSearch
