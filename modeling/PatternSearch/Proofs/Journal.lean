import PatternSearch.Proofs.FirstMatch
import PatternSearch.Proofs.Step

/-!
# Searches that keep a journal

Patterns may have effects. So a search can be made to write down where it tries what, without a
second account of what a search does: the same patterns, told to write their offset down before they
are tried, are searched for by the same search. It has to be given the lead, as patterns of the
caller's own have none.

- `Journal`: what is computed with a journal at hand.
- `Journal.Notes`: a computation comes to an answer, whatever was written before, and writes offsets
  with a property only. Every loop keeps this (`Journal.notes_firstSuccess`, `Journal.notes_sweep`,
  `Journal.notes_findFrom?`).
- `Sequence.watched`: the sequence that writes down where it is tried as a whole; its answers are
  those of the original (`Sequence.notes_eval_watched`).
- `Sequence.noted`: the sequence whose patterns write down where each of them is tried; its answers
  are those of the original if that has no patterns of the caller's own
  (`Sequence.notes_eval_noted`).
-/

namespace PatternSearch

/-- What is computed with a journal of offsets at hand. -/
abbrev Journal : Type → Type :=
  StateM (List Nat)

namespace Journal

variable {α β : Type} {P : Nat → Prop} {hay : Haystack} {start limit : Nat}

/-- Write an offset down. -/
def note (pos : Nat) : Journal Unit :=
  modify (· ++ [pos])

/-- The computation comes to the answer, whatever was written before, and what it writes behind that
has the property. -/
def Notes (P : Nat → Prop) (keeping : Journal α) (answer : α) : Prop :=
  ∀ before, ∃ entries, (keeping.run before).run = (answer, before ++ entries) ∧
    ∀ pos ∈ entries, P pos

/-! ## Single steps -/

theorem notes_pure (answer : α) : Notes P (pure answer) answer :=
  fun before => ⟨[], congrArg (Prod.mk answer) (List.append_nil before).symm, nofun⟩

theorem notes_note {pos : Nat} (holds : P pos) : Notes P (note pos) () :=
  fun _ => ⟨[pos], rfl, List.forall_mem_singleton.2 holds⟩

/-- What follows an answer writes behind what has led to it. -/
theorem Notes.bind {first : Journal α} {next : α → Journal β} {answer : α} {answer' : β}
    (notes : Notes P first answer) (notes' : Notes P (next answer) answer') :
    Notes P (first >>= next) answer' := by
  intro before
  obtain ⟨entries, same, all⟩ := notes before
  obtain ⟨entries', same', all'⟩ := notes' (before ++ entries)
  refine ⟨entries ++ entries', ?_, List.forall_mem_append.2 ⟨all, all'⟩⟩
  rw [StateT.run_bind, Id.run_bind, same, ← List.append_assoc]
  exact same'

/-! ## Loops -/

variable {attempt' : Nat → Journal Outcome} {attempt : Nat → Id Outcome}

theorem notes_firstSuccess {places : List Nat}
    (notes : ∀ pos ∈ places, Notes P (attempt' pos) (attempt pos).run) :
    Notes P (firstSuccess attempt' places) (firstSuccess attempt places).run := by
  induction places with
  | nil => exact notes_pure _
  | cons pos places ih =>
    obtain ⟨here, behind⟩ := List.forall_mem_cons.1 notes
    rw [firstSuccess, firstSuccess, Id.run_bind]
    refine here.bind ?_
    cases (attempt pos).run with
    | success stop => exact notes_pure _
    | abort | backtrack => exact ih behind

/-- A sweep tries nothing but boundaries up to the limit. -/
theorem notes_sweep (limitBoundary : hay.isBoundary limit = true)
    (boundary : hay.isBoundary start = true) (le : start ≤ limit)
    (notes : ∀ pos, hay.isBoundary pos = true → start ≤ pos → pos ≤ limit →
      Notes P (attempt' pos) (attempt pos).run) :
    Notes P (hay.sweep limit attempt' start) (hay.sweep limit attempt start).run := by
  induction start, boundary, le using Haystack.walk_induction limitBoundary with
  | last =>
    rw [Haystack.run_sweep, Haystack.sweep]
    refine (notes limit limitBoundary (Nat.le_refl limit) (Nat.le_refl limit)).bind ?_
    cases (attempt limit).run with
    | backtrack =>
      dsimp only
      rw [if_neg fun ahead => Nat.lt_irrefl limit ahead.1,
        if_neg fun ahead => Nat.lt_irrefl limit ahead.1]
      exact notes_pure _
    | abort | success => exact notes_pure _
  | step start boundary lt near ahead ih =>
    rw [Haystack.run_sweep, Haystack.sweep]
    refine (notes start boundary (Nat.le_refl start) (Nat.le_of_lt lt)).bind ?_
    cases (attempt start).run with
    | backtrack =>
      dsimp only
      rw [if_pos ⟨lt, ahead⟩, if_pos ⟨lt, ahead⟩]
      exact ih fun pos boundary' behind le => notes pos boundary' (by omega) le
    | abort | success => exact notes_pure _

/-! ## Searches -/

section Searches

variable {keeping : Sequence Journal} {sequence : Sequence Id}

theorem notes_isMatch {scope : Scope}
    (notes : Notes P (keeping.eval scope.haystack scope.first scope.limit .atLimit)
      (sequence.eval scope.haystack scope.first scope.limit .atLimit).run) :
    Notes P (keeping.isMatch scope) (sequence.isMatch scope).run :=
  notes.bind (notes_pure _)

theorem notes_matchAt?
    (notes : Notes P (keeping.eval hay start limit .anywhere)
      (sequence.eval hay start limit .anywhere).run) :
    Notes P (keeping.matchAt? hay limit start) (sequence.matchAt? hay limit start).run := by
  rw [Sequence.matchAt?, Sequence.matchAt?, Id.run_bind]
  refine notes.bind ?_
  cases (sequence.eval hay start limit .anywhere).run <;> exact notes_pure _

/-- A search makes its attempts at boundaries from where it starts on, below the limit. -/
theorem notes_findFrom? {pos : Nat} (lead? : Option Lead)
    (limitBoundary : hay.isBoundary limit = true) (boundary : hay.isBoundary pos = true)
    (notes : ∀ start, hay.isBoundary start = true → pos ≤ start → start < limit →
      Notes P (keeping.eval hay start limit .anywhere)
        (sequence.eval hay start limit .anywhere).run) :
    Notes P (keeping.findFrom? lead? hay limit pos)
      (sequence.findFrom? lead? hay limit pos).run := by
  -- induction on what is left to be searched behind the attempt
  induction distance : limit - pos using Nat.strongRecOn generalizing pos with
  | _ distance ih =>
    rw [Sequence.findFrom?, Sequence.findFrom?]
    by_cases lt : pos < limit
    · rw [if_pos lt, if_pos lt]
      have finds := Sequence.finds_nextCandidate? lead? limitBoundary boundary lt
      cases candidate : nextCandidate? lead? hay limit pos with
      | none => exact notes_pure _
      | some start =>
        rw [candidate] at finds
        have le := finds.le
        have below := finds.lt
        have ahead : start < hay.next start := Haystack.lt_next_of_lt limitBoundary below
        dsimp only
        rw [Id.run_bind]
        refine (notes_matchAt? (notes start finds.boundary le below)).bind ?_
        cases (sequence.matchAt? hay limit start).run with
        | some found => exact notes_pure _
        | none =>
          dsimp only
          rw [if_pos (by omega), if_pos (by omega)]
          exact ih (limit - hay.next start) (by omega) (hay.isBoundary_next start)
            (fun later boundary' behind lt => notes later boundary' (by omega) lt) rfl
    · rw [if_neg lt, if_neg lt]
      exact notes_pure _

end Searches

end Journal

/-! ## Patterns that write -/

namespace Pattern

open Journal

/-- The same step with a journal at hand, in which it does not write. What a step of the caller's
own tries does not write either. -/
def inJournal : Pattern Id → Pattern Journal
  | .limit => .limit
  | .finish => .finish
  | .any => .any
  | .text literals casing => .text literals casing
  | .except literals casing => .except literals casing
  | .repeated literal casing atLeast atMost => .repeated literal casing atLeast atMost
  | .custom name logic => .custom name fun hay start limit next => do
    let before ← get
    pure (logic hay start limit
      { ending := next.ending
        isLast := next.isLast
        run := fun hay pos limit => pure ((next.run hay pos limit).run before).run.1 }).run

/-- The same step, which writes down where it is tried. -/
def noted (pattern : Pattern Id) : Pattern Journal :=
  .custom "noted" fun hay start limit next => do
    note start
    pattern.inJournal.eval hay start limit next

variable {hay : Haystack} {start limit : Nat} {P : Nat → Prop} {pattern : Pattern Id}
  {patterns : List (Pattern Id)}

/-- A pattern hands on boundaries between its own offset and the limit, and does with a journal what
it does without. -/
theorem notes_eval_inJournal {next' : Continuation Journal} {next : Continuation Id}
    (own : pattern.kind ≠ .custom) (limitBoundary : hay.isBoundary limit = true)
    (boundary : hay.isBoundary start = true) (le : start ≤ limit)
    (isLast_eq : next'.isLast = next.isLast)
    (notes : ∀ pos, hay.isBoundary pos = true → start ≤ pos → pos ≤ limit →
      Notes P (next'.run hay pos limit) (next.run hay pos limit).run) :
    Notes P (pattern.inJournal.eval hay start limit next')
      (pattern.eval hay start limit next).run := by
  cases pattern with
  | limit | finish => exact notes_pure _
  | any =>
    dsimp only [inJournal, eval]
    rw [isLast_eq]
    split
    · exact notes_pure _
    · exact notes_sweep limitBoundary boundary le notes
  | text literals casing =>
    refine notes_firstSuccess fun stop member => ?_
    obtain ⟨literal, -, found⟩ := List.mem_filterMap.1 member
    obtain ⟨covers, le_limit⟩ := (Haystack.literalEnd?_eq_some_iff_covers limitBoundary).1 found
    exact notes stop covers.isBoundary_stop covers.le le_limit
  | except literals casing =>
    dsimp only [inJournal, eval]
    split
    · exact notes_pure _
    · exact notes start boundary (Nat.le_refl start) le
  | repeated literal casing atLeast atMost =>
    obtain ⟨end_, from_le, le_limit⟩ :=
      Haystack.run_bounds casing literal limitBoundary boundary le
    dsimp only [inJournal, eval]
    split
    · exact notes _ end_ from_le le_limit
    · split <;> exact notes_pure _
  | custom name logic => exact absurd rfl own

/-- A list of patterns writes down boundaries up to the limit only. -/
theorem notes_evalAll_noted {ending : Ending}
    (own : ∀ pattern ∈ patterns, pattern.kind ≠ .custom)
    (limitBoundary : hay.isBoundary limit = true) (boundary : hay.isBoundary start = true)
    (le : start ≤ limit)
    (holds : ∀ pos, hay.isBoundary pos = true → start ≤ pos → pos ≤ limit → P pos) :
    Notes P (evalAll (patterns.map noted) hay start limit ending)
      (evalAll patterns hay start limit ending).run := by
  -- induction on the list, over all the offsets where the rest may be tried
  induction patterns generalizing start with
  | nil => exact notes_pure _
  | cons pattern rest ih =>
    have here : Notes P (note start) () := notes_note (holds start boundary (Nat.le_refl start) le)
    have isLast_eq : (continuation ending (rest.map noted)).isLast =
        (continuation ending rest).isLast := by
      rw [isLast_continuation, isLast_continuation, List.isEmpty_map]
    refine here.bind (notes_eval_inJournal (own pattern (.head rest)) limitBoundary boundary le
      isLast_eq fun pos boundary' from_le le' => ?_)
    refine ih (fun other member => own other (.tail pattern member)) boundary' le' ?_
    exact fun later boundary'' behind => holds later boundary'' (Nat.le_trans from_le behind)

/-- Nothing is asked of patterns of the caller's own. -/
theorem firstOffence?_map_noted (index : Nat) (previous : Option Kind) :
    firstOffence? index previous (patterns.map noted) = none := by
  induction patterns generalizing index previous with
  | nil => rfl
  | cons pattern rest ih => exact ih (index + 1) (some .custom)

end Pattern

namespace Sequence

open Journal

variable {hay : Haystack} {start limit : Nat} {ending : Ending} {P : Nat → Prop}

/-- The sequence whose patterns write down where each of them is tried. -/
def noted (sequence : Sequence Id) : Sequence Journal where
  patterns := sequence.patterns.map Pattern.noted
  valid := by
    rw [offence?, List.isEmpty_map, List.isEmpty_eq_false_iff.2 sequence.patterns_ne_nil]
    exact Pattern.firstOffence?_map_noted 0 none

/-- The sequence that writes down where it is tried as a whole. -/
def watched (sequence : Sequence Id) : Sequence Journal where
  patterns := [.custom "watched" fun hay start limit next => do
    note start
    pure (sequence.eval hay start limit next.ending).run]
  valid := rfl

theorem notes_eval_watched (sequence : Sequence Id) (holds : P start) :
    Notes P (sequence.watched.eval hay start limit ending)
      (sequence.eval hay start limit ending).run :=
  (notes_note holds).bind (notes_pure _)

theorem notes_eval_noted {sequence : Sequence Id}
    (own : ∀ pattern ∈ sequence.patterns, pattern.kind ≠ .custom)
    (limitBoundary : hay.isBoundary limit = true) (boundary : hay.isBoundary start = true)
    (le : start ≤ limit)
    (holds : ∀ pos, hay.isBoundary pos = true → start ≤ pos → pos ≤ limit → P pos) :
    Notes P (sequence.noted.eval hay start limit ending)
      (sequence.eval hay start limit ending).run := by
  rw [sequence.noted.eval_eq_evalAll, sequence.eval_eq_evalAll]
  exact Pattern.notes_evalAll_noted own limitBoundary boundary le holds

end Sequence

end PatternSearch
