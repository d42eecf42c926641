import PatternSearch.Proofs.FirstMatch
import PatternSearch.Search.Matches

/-!
# The iterator

What the iterator hands out, whatever the patterns and the lead are. A caller's own pattern may
report any end it likes, even one inside a character, so that the search may go on at any offset at
all; nothing but the limit is known to be a boundary here. Still every step finds its match at or
behind the place where it goes on, and goes on behind the start of that match.

- `Interval.Within`: an interval that starts and ends where a search between two offsets accepts it.
- `Sequence.within_findFrom?`: what a search finds is one, from any offset on.
- `Matches.toList_induction`: what holds of no match, and holds with one more match in front, holds
  of all the matches that are left.
- `Matches.exists_findFrom?_of_getElem?`: what follows a match are those from where the search goes
  on.
- `Matches.next_after`: one step after another hands out these matches, and then nothing any more.
- `Sequence.matches_ascend`: the matches of a scope are finitely many, in order and apart from each
  other (`Matches.Ascending`).
-/

namespace PatternSearch

variable {sequence : Sequence Id} {lead? : Option Lead} {hay : Haystack} {limit pos start : Nat}
  {found : Interval}

/-! ## Candidates -/

/-- A candidate is looked for between the offset and the limit, wherever these are. -/
theorem nextCandidate?_bounds (inside : limit ≤ hay.size) (lt : pos < limit)
    (answer : nextCandidate? lead? hay limit pos = some start) :
    pos ≤ start ∧ start < limit := by
  cases lead? with
  | none =>
    obtain rfl := Option.some_inj.1 answer
    exact ⟨Nat.le_refl pos, lt⟩
  | some lead => exact lead.candidate?_bounds inside (Nat.le_of_lt lt) answer

/-! ## What a search finds -/

/-- The interval starts from `first` on, before the limit, and ends from there to the limit. -/
structure Interval.Within (interval : Interval) (hay : Haystack) (first limit : Nat) : Prop where
  haystack : interval.haystack = hay
  first_le : first ≤ interval.start
  start_lt : interval.start < limit
  ordered : interval.start ≤ interval.stop
  stop_le : interval.stop ≤ limit

namespace Interval.Within

/-- What lies behind a later offset lies behind an earlier one. -/
theorem mono {first : Nat} (within : found.Within hay pos limit) (le : first ≤ pos) :
    found.Within hay first limit where
  haystack := within.haystack
  first_le := Nat.le_trans le within.first_le
  start_lt := within.start_lt
  ordered := within.ordered
  stop_le := within.stop_le

/-- Behind a match the search goes on at or behind its end, which is behind its start. -/
theorem resume_bounds (within : found.Within hay pos limit) (inside : limit ≤ hay.size) :
    found.start < found.resume ∧ found.stop ≤ found.resume := by
  obtain ⟨rfl, -, start_lt, ordered, -⟩ := within
  unfold Interval.resume
  split
  · next nonempty => exact ⟨nonempty, Nat.le_refl _⟩
  · next empty =>
    have ahead := Haystack.lt_next_of_le_size inside start_lt
    exact ⟨ahead, by omega⟩

end Interval.Within

/-- What a search finds is the match at an offset between where it begins and the limit, and at a
boundary if it begins at one. -/
theorem Sequence.exists_matchAt?_of_findFrom? (inside : limit ≤ hay.size)
    (answer : (sequence.findFrom? lead? hay limit pos).run = some found) :
    ∃ start, pos ≤ start ∧ start < limit ∧
      (sequence.matchAt? hay limit start).run = some found ∧
      (hay.isBoundary limit = true → hay.isBoundary pos = true →
        hay.isBoundary start = true) := by
  induction distance : limit - pos using Nat.strongRecOn generalizing pos with
  | _ distance ih =>
    rw [findFrom?] at answer
    split at answer
    · next lt =>
      cases candidate : nextCandidate? lead? hay limit pos with
      | none =>
        rw [candidate] at answer
        cases answer
      | some start =>
        obtain ⟨le, below⟩ := nextCandidate?_bounds inside lt candidate
        rw [candidate] at answer
        dsimp only at answer
        rw [Id.run_bind] at answer
        cases taken : (sequence.matchAt? hay limit start).run with
        | some first =>
          rw [taken] at answer
          obtain rfl : first = found := Option.some_inj.1 answer
          refine ⟨start, le, below, taken, fun limitBoundary boundary => ?_⟩
          have finds := finds_nextCandidate? lead? limitBoundary boundary lt
          rw [candidate] at finds
          exact finds.boundary
        | none =>
          have ahead : start < hay.next start := Haystack.lt_next_of_le_size inside below
          rw [taken] at answer
          dsimp only at answer
          rw [if_pos (by omega)] at answer
          obtain ⟨later, from_le, lt', taken', boundary'⟩ :=
            ih (limit - hay.next start) (by omega) answer rfl
          exact ⟨later, by omega, lt', taken',
            fun limitBoundary _ => boundary' limitBoundary (hay.isBoundary_next start)⟩
    · cases answer

/-- So it lies between where the search begins and the limit. -/
theorem Sequence.within_findFrom? (inside : limit ≤ hay.size)
    (answer : (sequence.findFrom? lead? hay limit pos).run = some found) :
    found.Within hay pos limit := by
  obtain ⟨start, le, lt, taken, -⟩ := exists_matchAt?_of_findFrom? inside answer
  obtain ⟨haystack, rfl, -, ordered, stop_le⟩ := matchAt?_eq_some_iff.1 taken
  exact ⟨haystack, le, lt, ordered, stop_le⟩

/-! ## One step after another -/

namespace Matches

variable {state rest : Matches Id}

/-- The iterator ends with the first step that finds nothing. -/
theorem toList_of_none (last : state.next.run = (none, rest)) : state.toList.run = [] := by
  unfold toList
  rw [drain, Id.run_bind, Id.run_bind, last]
  rfl

/-- A step that finds a match puts it in front of what the state behind it gives. -/
theorem toList_of_some (step : state.next.run = (some found, rest))
    (closer : rest.remaining < state.remaining) : state.toList.run = found :: rest.toList.run := by
  unfold toList
  rw [drain, Id.run_bind, Id.run_bind, step]
  dsimp only
  rw [Id.run_bind, if_pos closer]
  rfl

/-- A step that finds nothing leaves the state as it is. -/
theorem next_of_none
    (answer : (sequence.findFrom? lead? hay limit pos).run = none) :
    (Matches.mk sequence lead? hay pos limit).next.run =
      (none, ⟨sequence, lead?, hay, pos, limit⟩) := by
  rw [next, Id.run_bind, answer]
  rfl

/-- A step that finds a match goes on behind it. -/
theorem next_of_some
    (answer : (sequence.findFrom? lead? hay limit pos).run = some found) :
    (Matches.mk sequence lead? hay pos limit).next.run =
      (some found, ⟨sequence, lead?, hay, found.resume, limit⟩) := by
  rw [next, Id.run_bind, answer]
  rfl

/-- Every match takes the search closer to the limit, so the matches from an offset on are the first
one and those from behind it. -/
theorem toList_of_found (inside : limit ≤ hay.size)
    (answer : (sequence.findFrom? lead? hay limit pos).run = some found) :
    (Matches.mk sequence lead? hay pos limit).toList.run =
      found :: (Matches.mk sequence lead? hay found.resume limit).toList.run := by
  have within := Sequence.within_findFrom? inside answer
  have ahead := (within.resume_bounds inside).1
  obtain ⟨-, from_le, start_lt, -, -⟩ := within
  have closer : limit - found.resume < limit - pos := by omega
  exact toList_of_some (next_of_some answer) closer

/-- What holds of no match where nothing is found, and of the matches from a found one on if it
holds of those from behind it, holds of all the matches from any offset on. -/
theorem toList_induction (inside : limit ≤ hay.size) {motive : Nat → List Interval → Prop}
    (last : ∀ pos, (sequence.findFrom? lead? hay limit pos).run = none → motive pos [])
    (step : ∀ pos found list,
      (sequence.findFrom? lead? hay limit pos).run = some found →
      motive found.resume list → motive pos (found :: list)) (pos : Nat) :
    motive pos (Matches.mk sequence lead? hay pos limit).toList.run := by
  induction distance : limit - pos using Nat.strongRecOn generalizing pos with
  | _ distance ih =>
    cases answer : (sequence.findFrom? lead? hay limit pos).run with
    | none =>
      rw [toList_of_none (next_of_none answer)]
      exact last pos answer
    | some found =>
      have within := Sequence.within_findFrom? inside answer
      have ahead := (within.resume_bounds inside).1
      obtain ⟨-, from_le, start_lt, -, -⟩ := within
      rw [toList_of_found inside answer]
      exact step pos found _ answer (ih (limit - found.resume) (by omega) found.resume rfl)

/-- Each match is found from a place that the iterator has come to, and what follows it are the
matches from where the search goes on behind it. -/
theorem exists_findFrom?_of_getElem? {index : Nat} (inside : limit ≤ hay.size)
    (found_at : (Matches.mk sequence lead? hay pos limit).toList.run[index]? = some found) :
    ∃ place, pos ≤ place ∧ (sequence.findFrom? lead? hay limit place).run = some found ∧
      (Matches.mk sequence lead? hay pos limit).toList.run.drop (index + 1) =
        (Matches.mk sequence lead? hay found.resume limit).toList.run := by
  induction index generalizing pos with
  | zero =>
    cases answer : (sequence.findFrom? lead? hay limit pos).run with
    | none =>
      rw [toList_of_none (next_of_none answer)] at found_at
      cases found_at
    | some first =>
      rw [toList_of_found inside answer] at found_at ⊢
      obtain rfl : first = found := Option.some_inj.1 found_at
      exact ⟨pos, Nat.le_refl pos, answer, rfl⟩
  | succ index ih =>
    cases answer : (sequence.findFrom? lead? hay limit pos).run with
    | none =>
      rw [toList_of_none (next_of_none answer)] at found_at
      cases found_at
    | some first =>
      have within := Sequence.within_findFrom? inside answer
      have ahead := (within.resume_bounds inside).1
      have from_le := within.first_le
      rw [toList_of_found inside answer] at found_at ⊢
      obtain ⟨place, reached, answer', behind⟩ := ih found_at
      exact ⟨place, by omega, answer', behind⟩

/-- The state behind so many steps. -/
def after (state : Matches Id) : Nat → Matches Id
  | 0 => state
  | count + 1 => after state.next.run.2 count

/-- One step after another hands out the matches of the list, and then nothing any more. -/
theorem next_after (inside : limit ≤ hay.size) (pos count : Nat) :
    ((Matches.mk sequence lead? hay pos limit).after count).next.run.1 =
      (Matches.mk sequence lead? hay pos limit).toList.run[count]? := by
  refine toList_induction (motive := fun pos list => ∀ count,
    ((Matches.mk sequence lead? hay pos limit).after count).next.run.1 = list[count]?)
    inside ?_ ?_ pos count
  · intro pos answer count
    induction count with
    | zero =>
      rw [after, next_of_none answer]
      rfl
    | succ count ih =>
      rw [after, next_of_none answer, ih]
      rfl
  · intro pos found list answer behind count
    cases count with
    | zero =>
      rw [after, next_of_some answer]
      rfl
    | succ count =>
      rw [after, next_of_some answer, behind count]
      rfl

end Matches

/-! ## All matches in a scope -/

/-- The second interval starts behind the start of the first, and not before its end. -/
def Interval.Before (interval later : Interval) : Prop :=
  interval.start < later.start ∧ interval.stop ≤ later.start

/-- The list goes through the text from `first` to the limit: each of its intervals lies there,
before all that follow it, and they are no more than there are bytes. -/
structure Matches.Ascending (hay : Haystack) (first limit : Nat) (list : List Interval) : Prop where
  within : ∀ found ∈ list, found.Within hay first limit
  before : list.Pairwise Interval.Before
  length_le : list.length ≤ limit - first

/-- One more match in front keeps the matches ascending from where it is looked for. -/
theorem Matches.Ascending.cons {list : List Interval} (inside : limit ≤ hay.size)
    (within : found.Within hay pos limit)
    (ascending : Ascending hay found.resume limit list) :
    Ascending hay pos limit (found :: list) := by
  obtain ⟨behind, before, length_le⟩ := ascending
  obtain ⟨ahead, further⟩ := within.resume_bounds inside
  have from_le := within.first_le
  have start_lt := within.start_lt
  refine ⟨List.forall_mem_cons.2 ⟨within, fun later member => ?_⟩, .cons ?_ before, ?_⟩
  · exact (behind later member).mono (by omega)
  · intro later member
    have later_le := (behind later member).first_le
    exact ⟨by omega, by omega⟩
  · rw [List.length_cons]
    omega

/-- The matches from any offset on ascend from there. -/
theorem Matches.ascending_toList (inside : limit ≤ hay.size) (pos : Nat) :
    Ascending hay pos limit (Matches.mk sequence lead? hay pos limit).toList.run := by
  refine toList_induction (motive := fun pos list => Ascending hay pos limit list) inside ?_ ?_ pos
  · intro pos _
    exact ⟨nofun, .nil, Nat.zero_le _⟩
  · intro pos found list answer ascending
    exact ascending.cons inside (Sequence.within_findFrom? inside answer)

/-- **The matches of a scope ascend**, with the lead of the sequence, another one or none: there are
no more of them than the scope has bytes, each lies in the scope and before those that follow it,
and the iterator hands them out one by one and then nothing any more. -/
theorem Sequence.matches_ascend (sequence : Sequence Id) (scope : Scope) (lead? : Option Lead) :
    let state := sequence.matches scope lead?
    Matches.Ascending scope.haystack scope.first scope.limit state.toList.run ∧
    (∀ count, (state.after count).next.run.1 = state.toList.run[count]?) ∧
    ∀ count later, count ≤ later → (state.after count).next.run.1 = none →
      (state.after later).next.run.1 = none := by
  intro state
  have inside : scope.limit ≤ scope.haystack.size :=
    Haystack.le_size_of_isBoundary scope.isBoundary_limit
  have handed : ∀ count, (state.after count).next.run.1 = state.toList.run[count]? :=
    Matches.next_after inside scope.first
  refine ⟨Matches.ascending_toList inside scope.first, handed, fun count later le ended => ?_⟩
  rw [handed, List.getElem?_eq_none_iff] at ended ⊢
  exact Nat.le_trans ended le

end PatternSearch
