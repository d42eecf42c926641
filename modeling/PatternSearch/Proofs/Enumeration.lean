import PatternSearch.Proofs.Iterator
import PatternSearch.Proofs.Step
import PatternSearch.Search.Query

/-!
# The list of all matches

Each match of the list is the first one from where the search went on behind the match before, and
behind the last match there is none. The other ways to get at the matches, one query for each, go on
at the same places and so give the same matches.

- `Interval.ResumesAt`: where the search goes on behind a match, told without the step.
- `Sequence.Enumerates`: the matches from an offset on, each the first behind the one before.
- `Sequence.enumerates_toList`: the remaining matches of a search in progress are these.
- `Sequence.enumeration_matches`: all ways to enumerate the matches of an interval agree.
-/

namespace PatternSearch

variable {sequence : Sequence Id} {hay : Haystack} {limit pos : Nat} {found : Interval}

/-! ## Ends at boundaries -/

/-- An interval whose ends are boundaries, in order. -/
structure Interval.Placed (interval : Interval) : Prop where
  isBoundary_start : interval.haystack.isBoundary interval.start = true
  isBoundary_stop : interval.haystack.isBoundary interval.stop = true
  le : interval.start ≤ interval.stop

/-- Behind it the search goes on at a boundary. -/
theorem Interval.Placed.isBoundary_resume (placed : found.Placed) :
    found.haystack.isBoundary found.resume = true := by
  unfold Interval.resume
  split
  · exact placed.isBoundary_stop
  · exact found.haystack.isBoundary_next found.start

/-- A match that starts at a boundary is placed if the caller's own patterns report boundaries
only. -/
theorem Sequence.MatchesTo.placed {start stop : Nat}
    (report : Pattern.ReportBoundaries hay sequence.patterns)
    (limitBoundary : hay.isBoundary limit = true) (boundary : hay.isBoundary start = true)
    (le : start ≤ limit) (matches_ : sequence.MatchesTo hay limit start stop) :
    Interval.Placed ⟨hay, start, stop⟩ where
  isBoundary_start := boundary
  isBoundary_stop :=
    Pattern.isBoundary_of_success report limitBoundary boundary le matches_.evalAll_eq
  le := matches_.2.1

/-! ## Where the search goes on -/

/-- Behind a match, the search goes on at its end, or at the next boundary if it is empty. -/
inductive Interval.ResumesAt (found : Interval) : Nat → Prop where
  | behind : found.start < found.stop → ResumesAt found found.stop
  | further {resume : Nat} : found.stop = found.start →
    found.haystack.IsFirst (found.start + 1) (found.haystack.size + 1) (fun _ => True) resume →
    ResumesAt found resume

/-- A step leads to the first boundary behind its start. -/
theorem Haystack.isFirst_next (boundary : hay.isBoundary pos = true) (lt : pos < hay.size) :
    hay.IsFirst (pos + 1) (hay.size + 1) (fun _ => True) (hay.next pos) where
  boundary := hay.isBoundary_next pos
  le := lt_next lt
  lt := Nat.lt_succ_of_le (hay.next_le_size pos)
  holds := trivial
  least earlier boundary' behind before := by
    have := next_le_of_lt boundary boundary' behind
    omega

/-- A match that a search finds starts before the end of the text. -/
theorem Sequence.FirstMatch.start_lt_size (limitBoundary : hay.isBoundary limit = true)
    (first : sequence.FirstMatch hay limit pos (some found)) : found.start < hay.size :=
  Nat.lt_of_lt_of_le first.isFirst.lt (Haystack.le_size_of_isBoundary limitBoundary)

theorem Sequence.FirstMatch.resumesAt (limitBoundary : hay.isBoundary limit = true)
    (first : sequence.FirstMatch hay limit pos (some found)) : found.ResumesAt found.resume := by
  have below := first.start_lt_size limitBoundary
  obtain ⟨rfl, isFirst, -, le, -⟩ := first
  unfold Interval.resume
  split
  · next nonempty => exact .behind nonempty
  · next empty =>
    exact .further (Nat.le_antisymm (Nat.le_of_not_lt empty) le)
      (Haystack.isFirst_next isFirst.boundary below)

/-- The search goes on behind the start of the match, at or before the limit. -/
theorem Sequence.FirstMatch.resume_bounds (limitBoundary : hay.isBoundary limit = true)
    (first : sequence.FirstMatch hay limit pos (some found)) :
    pos < found.resume ∧ found.resume ≤ limit := by
  have below := first.start_lt_size limitBoundary
  obtain ⟨rfl, isFirst, -, -, le_limit⟩ := first
  have from_le := isFirst.le
  unfold Interval.resume
  split
  · exact ⟨by omega, le_limit⟩
  · exact ⟨Nat.lt_of_le_of_lt from_le (Haystack.lt_next below),
      Haystack.next_le_of_lt isFirst.boundary limitBoundary isFirst.lt⟩

/-- The search goes on at a boundary if the caller's own patterns report boundaries only. -/
theorem Sequence.FirstMatch.isBoundary_resume (limitBoundary : hay.isBoundary limit = true)
    (report : Pattern.ReportBoundaries hay sequence.patterns)
    (first : sequence.FirstMatch hay limit pos (some found)) :
    hay.isBoundary found.resume = true := by
  obtain ⟨rfl, isFirst, matches_⟩ := first
  have placed := matches_.placed report limitBoundary isFirst.boundary (Nat.le_of_lt isFirst.lt)
  exact placed.isBoundary_resume

/-! ## One match after another -/

/-- The list holds the matches from `pos` on: first the first of them, then those from where the
search goes on behind it. -/
inductive Sequence.Enumerates (sequence : Sequence Id) (hay : Haystack) (limit : Nat) :
    Nat → List Interval → Prop where
  | done {pos : Nat} :
    sequence.FirstMatch hay limit pos none →
    Enumerates sequence hay limit pos []
  | more {pos : Nat} {found : Interval} {rest : List Interval} :
    sequence.FirstMatch hay limit pos (some found) →
    Enumerates sequence hay limit found.resume rest →
    Enumerates sequence hay limit pos (found :: rest)

namespace Sequence.Enumerates

variable {list : List Interval}

/-- The head of the list answers a search for the first match. -/
theorem firstMatch_head? (enumerates : sequence.Enumerates hay limit pos list) :
    sequence.FirstMatch hay limit pos list.head? := by
  cases enumerates with
  | done missing => exact missing
  | more first _ => exact first

/-- Behind each match of the list, the list goes on with the matches from there. -/
theorem drop {index : Nat} (limitBoundary : hay.isBoundary limit = true)
    (enumerates : sequence.Enumerates hay limit pos list) (found_at : list[index]? = some found) :
    ∃ reached, pos ≤ reached ∧ sequence.FirstMatch hay limit reached (some found) ∧
      sequence.Enumerates hay limit found.resume (list.drop (index + 1)) := by
  induction enumerates generalizing index with
  | done _ => cases found_at
  | more first rest ih =>
    cases index with
    | zero =>
      obtain rfl := Option.some_inj.1 found_at
      exact ⟨_, Nat.le_refl _, first, rest⟩
    | succ index =>
      obtain ⟨reached, le, first', rest'⟩ := ih found_at
      have ahead := (first.resume_bounds limitBoundary).1
      exact ⟨reached, by omega, first', rest'⟩

/-- There is one list of the matches. -/
theorem unique {list' : List Interval} (enumerates : sequence.Enumerates hay limit pos list)
    (enumerates' : sequence.Enumerates hay limit pos list') : list = list' := by
  induction enumerates generalizing list' with
  | done missing =>
    cases enumerates' with
    | done _ => rfl
    | more first _ => cases missing.unique first
  | more first rest ih =>
    cases enumerates' with
    | done missing => cases missing.unique first
    | more first' rest' =>
      obtain rfl := Option.some_inj.1 (first.unique first')
      rw [ih rest']

end Sequence.Enumerates

/-! ## The iterator -/

/-- The remaining matches of a search in progress are the matches from where it goes on. -/
theorem Sequence.enumerates_toList (report : Pattern.ReportBoundaries hay sequence.patterns)
    (limitBoundary : hay.isBoundary limit = true) (boundary : hay.isBoundary pos = true) :
    sequence.Enumerates hay limit pos
      (Matches.mk sequence sequence.lead? hay pos limit).toList.run := by
  have inside : limit ≤ hay.size := Haystack.le_size_of_isBoundary limitBoundary
  -- every match leads on to a boundary, where the search goes on
  refine Matches.toList_induction (motive := fun pos list =>
    hay.isBoundary pos = true → sequence.Enumerates hay limit pos list) inside ?_ ?_ pos boundary
  · intro pos answer boundary
    exact .done (firstMatch_of_findFrom? limitBoundary boundary answer)
  · intro pos found list answer rest boundary
    have first := firstMatch_of_findFrom? limitBoundary boundary answer
    exact .more first (rest (first.isBoundary_resume limitBoundary report))

/-- The iterator over a scope hands out the matches from its first boundary to its last. -/
theorem Sequence.enumerates_matches (scope : Scope)
    (report : Pattern.ReportBoundaries scope.haystack sequence.patterns) :
    sequence.Enumerates scope.haystack scope.limit scope.first
      (sequence.matches scope).toList.run :=
  enumerates_toList report scope.isBoundary_limit scope.isBoundary_first

/-! ## One query for each match -/

/-- The first match between two boundaries is what a search of the scope between them answers. -/
theorem Sequence.FirstMatch.eq_find? {start stop : Nat} {answer : Option Interval}
    (boundary : hay.isBoundary start = true) (boundary' : hay.isBoundary stop = true)
    (le : start ≤ stop) (first : sequence.FirstMatch hay stop start answer) :
    answer = (sequence.find? (Scope.ofRange hay start stop)).run := by
  have found := sequence.firstMatch_find? (Scope.ofRange hay start stop)
  rw [Scope.limit_ofRange boundary', Scope.first_ofRange boundary boundary' le] at found
  exact first.unique found

/-- A query of the patterns of a sequence asks the sequence. -/
theorem Query.answer_patterns {α : Type} (sequence : Sequence Id) (nothing : α)
    (ask : Sequence Id → Id α) : answer sequence.patterns nothing ask = .ok (ask sequence) := by
  have compiled : Sequence.compile sequence.patterns = .ok sequence :=
    Sequence.compile_eq_ok_iff.2 rfl
  rw [answer, List.isEmpty_eq_false_iff.2 sequence.patterns_ne_nil, compiled]
  rfl

/-! ## All ways agree -/

namespace Interval.Placed

variable {interval : Interval}

theorem limit_ofInterval (placed : interval.Placed) :
    (Scope.ofInterval interval).limit = interval.stop :=
  Scope.limit_ofRange placed.isBoundary_stop

theorem first_ofInterval (placed : interval.Placed) :
    (Scope.ofInterval interval).first = interval.start :=
  Scope.first_ofRange placed.isBoundary_start placed.isBoundary_stop placed.le

/-- The iterator over a placed interval hands out the matches from its start to its end. -/
theorem enumerates_matches (placed : interval.Placed)
    (report : Pattern.ReportBoundaries interval.haystack sequence.patterns) :
    sequence.Enumerates interval.haystack interval.stop interval.start
      (interval.matches sequence).toList.run := by
  have enumerates := Sequence.enumerates_matches (Scope.ofInterval interval) report
  rw [placed.limit_ofInterval, placed.first_ofInterval] at enumerates
  exact enumerates

end Interval.Placed

/-- Where the next match starts, which is the end of the interval if there is none. -/
def Interval.nextStart (interval : Interval) (next? : Option Interval) : Nat :=
  (next?.map Interval.start).getD interval.stop

/-- The list is what all the ways to enumerate the matches in the interval come to. -/
structure Sequence.Enumeration (sequence : Sequence Id) (interval : Interval)
    (list : List Interval) : Prop where
  /-- The list begins with the first match in the interval, and no boundary before that one has a
  match. -/
  first : list.head? = (interval.find? sequence).run ∧
    interval.haystack.NoneBelow interval.start (interval.nextStart list.head?)
      (sequence.MatchesAt interval.haystack interval.stop)
  /-- It goes on with the first match from where the search resumes, and no boundary in between has
  a match. -/
  next : ∀ index found, list[index]? = some found → ∃ resume, found.ResumesAt resume ∧
    list[index + 1]? =
      (sequence.find? (Scope.ofRange interval.haystack resume interval.stop)).run ∧
    interval.haystack.NoneBelow resume (interval.nextStart list[index + 1]?)
      (sequence.MatchesAt interval.haystack interval.stop)
  /-- What follows a match that is not empty can be asked for. -/
  after : ∀ index found, list[index]? = some found → found.start < found.stop →
    (interval.findAfter? found sequence).run = list[index + 1]? ∧
    Query.find? sequence.patterns (Scope.ofInterval interval) (some found) =
      .ok (pure list[index + 1]?)
  /-- The query for all matches gives the list, the query for one its head. -/
  query : Query.findAll sequence.patterns (Scope.ofInterval interval) = .ok (pure list) ∧
    Query.find? sequence.patterns (Scope.ofInterval interval) none = .ok (pure list.head?)

/-- Up to where the next match starts, there is no match. -/
theorem Sequence.FirstMatch.noneBelow_nextStart {interval : Interval} {answer : Option Interval}
    (first : sequence.FirstMatch interval.haystack interval.stop pos answer) :
    interval.haystack.NoneBelow pos (interval.nextStart answer)
      (sequence.MatchesAt interval.haystack interval.stop) := by
  cases answer with
  | some found => exact first.isFirst.noneBelow
  | none => exact first

/-- To go on behind a match that is not empty is to search the rest of the interval. -/
theorem Interval.startingFrom_stop {interval : Interval} (le : interval.start ≤ found.stop) :
    (Scope.ofInterval interval).startingFrom found.stop =
      Scope.ofRange interval.haystack found.stop interval.stop := by
  unfold Scope.startingFrom Scope.ofInterval Scope.ofRange
  rw [Nat.max_eq_right le]

/-- **All ways to enumerate the matches of an interval agree**: the iterator, one search after
another from where the last one ended, the search behind a match, and the queries. -/
theorem Sequence.enumeration_matches (sequence : Sequence Id) (interval : Interval)
    (placed : interval.Placed)
    (report : Pattern.ReportBoundaries interval.haystack sequence.patterns) :
    sequence.Enumeration interval (interval.matches sequence).toList.run := by
  have enumerates := placed.enumerates_matches report
  obtain ⟨boundary, limitBoundary, le⟩ := placed
  generalize listed : (interval.matches sequence).toList.run = list at enumerates ⊢
  have head : list.head? = (interval.find? sequence).run :=
    enumerates.firstMatch_head?.eq_find? boundary limitBoundary le
  -- behind each match of the list, the next one is the first from where the search resumes
  have behind : ∀ index found, list[index]? = some found →
      interval.start ≤ found.stop ∧ found.ResumesAt found.resume ∧
      sequence.FirstMatch interval.haystack interval.stop found.resume list[index + 1]? ∧
      list[index + 1]? =
        (sequence.find? (Scope.ofRange interval.haystack found.resume interval.stop)).run := by
    intro index found found_at
    obtain ⟨reached, le, first, rest⟩ := enumerates.drop limitBoundary found_at
    have follows := rest.firstMatch_head?
    rw [List.head?_drop] at follows
    have ordered : found.start ≤ found.stop := first.start_le_stop
    have from_le := first.isFirst.le
    refine ⟨by omega, first.resumesAt limitBoundary, follows, ?_⟩
    exact follows.eq_find? (first.isBoundary_resume limitBoundary report) limitBoundary
      (first.resume_bounds limitBoundary).2
  have after : ∀ index found, list[index]? = some found → found.start < found.stop →
      (sequence.find? ((Scope.ofInterval interval).startingFrom found.stop)).run =
        list[index + 1]? := by
    intro index found found_at nonempty
    obtain ⟨from_le, -, -, same⟩ := behind index found found_at
    have resume : found.resume = found.stop := if_pos nonempty
    rw [same, resume, Interval.startingFrom_stop from_le]
  refine ⟨⟨head, enumerates.firstMatch_head?.noneBelow_nextStart⟩, ?_, ?_, ?_, ?_⟩
  · intro index found found_at
    obtain ⟨-, resumes, follows, same⟩ := behind index found found_at
    exact ⟨found.resume, resumes, same, follows.noneBelow_nextStart⟩
  · intro index found found_at nonempty
    refine ⟨after index found found_at nonempty, ?_⟩
    rw [Query.find?, Query.answer_patterns]
    exact congrArg Except.ok (after index found found_at nonempty)
  · rw [Query.findAll, Query.answer_patterns]
    exact congrArg Except.ok listed
  · rw [Query.find?, Query.answer_patterns]
    exact congrArg Except.ok head.symm

/-- An `a`, then a step that stays where it is, in the last two bytes of `éaa`: two matches. -/
theorem Sequence.enumeration_matches_letters :
    let hay : Haystack := { text := ['é', 'a', 'a'] }
    let stay : Pattern Id := .custom "stay" fun _ start _ _ => pure (.success start)
    Sequence.Enumeration ⟨[.text [['a']] .exact, stay], rfl⟩ ⟨hay, 2, 4⟩
      [⟨hay, 2, 3⟩, ⟨hay, 3, 4⟩] := by
  intro hay stay
  have report : Pattern.ReportBoundaries hay [.text [['a']] .exact, stay] := by
    refine ⟨nofun, fun _ start limit stop boundary _ _ succeeds => ?_, trivial⟩
    obtain rfl : start = stop := Outcome.success.inj succeeds
    exact boundary
  have listed :
      (Interval.matches ⟨hay, 2, 4⟩ ⟨[.text [['a']] .exact, stay], rfl⟩).toList.run =
      [⟨hay, 2, 3⟩, ⟨hay, 3, 4⟩] := by
    decide +kernel
  rw [← listed]
  exact enumeration_matches _ _ ⟨by decide, by decide, by decide⟩ report

end PatternSearch
