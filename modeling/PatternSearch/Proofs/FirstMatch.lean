import PatternSearch.Proofs.Lead
import PatternSearch.Proofs.Window
import PatternSearch.Search.Find

/-!
# The first match

A search answers with the first boundary of its range at which the sequence matches, and with the
match there. This holds for every sequence, with the caller's own patterns reporting whatever ends
they like, and it holds with a lead as without one.

- `Sequence.MatchesTo` and `Sequence.MatchesAt`: the sequence matches at an offset, with an end that
  a search accepts.
- `Sequence.FirstMatch`: the answer to a search, which is one only (`FirstMatch.unique`). Where the
  sequence matches at boundaries below the limit only, it is at the least offset with a match
  (`FirstMatch.some_iff_isLeast`).
- `Sequence.firstMatch_findFrom?`: every lead that fits wherever the sequence matches gives it; the
  lead of the sequence does (`leadSound_lead?`).
- `Sequence.find?_eq_iff_firstMatch`: a search of a scope answers with it, so sequences that come to
  the same when they are tried find the same (`Sequence.find?_congr`).
- `Sequence.find?_finds_first_match`: so a search of a scope finds the first match in it.
-/

namespace PatternSearch.Sequence

variable {sequence : Sequence Id} {hay : Haystack} {limit pos start stop : Nat}

/-! ## Matching at an offset, and all of a scope -/

/-- The sequence matches from `start` to `stop`, an end that a search up to the limit accepts. -/
def MatchesTo (sequence : Sequence Id) (hay : Haystack) (limit start stop : Nat) : Prop :=
  (sequence.eval hay start limit .anywhere).run = .success stop ∧ start ≤ stop ∧
    stop ≤ limit

/-- The sequence matches at `start`. -/
def MatchesAt (sequence : Sequence Id) (hay : Haystack) (limit start : Nat) : Prop :=
  ∃ stop, sequence.MatchesTo hay limit start stop

/-- A sequence matches at an offset in one way. -/
theorem MatchesTo.unique {stop' : Nat} (matches_ : sequence.MatchesTo hay limit start stop)
    (matches' : sequence.MatchesTo hay limit start stop') : stop = stop' :=
  Outcome.success.inj (matches_.1.symm.trans matches'.1)

/-- Then its patterns succeed there. -/
theorem MatchesTo.evalAll_eq (matches_ : sequence.MatchesTo hay limit start stop) :
    (Pattern.evalAll sequence.patterns hay start limit .anywhere).run = .success stop := by
  rw [← sequence.eval_eq_evalAll]
  exact matches_.1

theorem matchAt?_eq_some_iff {found : Interval} :
    (sequence.matchAt? hay limit start).run = some found ↔
      found.haystack = hay ∧ found.start = start ∧
        sequence.MatchesTo hay limit start found.stop := by
  rw [matchAt?, Id.run_bind]
  cases outcome : (sequence.eval hay start limit .anywhere).run with
  | abort => exact ⟨nofun, fun given => nomatch outcome.symm.trans given.2.2.1⟩
  | backtrack => exact ⟨nofun, fun given => nomatch outcome.symm.trans given.2.2.1⟩
  | success stop =>
    show (if start ≤ stop ∧ stop ≤ limit then some ⟨hay, start, stop⟩ else none) =
      some found ↔ _
    constructor
    · intro taken
      split at taken
      · next inside =>
        obtain rfl := Option.some_inj.1 taken
        exact ⟨rfl, rfl, outcome, inside⟩
      · cases taken
    · rintro ⟨rfl, rfl, matches_⟩
      obtain rfl := Outcome.success.inj (outcome.symm.trans matches_.1)
      rw [if_pos matches_.2]

theorem matchAt?_eq_none_iff :
    (sequence.matchAt? hay limit start).run = none ↔ ¬ sequence.MatchesAt hay limit start := by
  rw [Option.eq_none_iff_forall_ne_some]
  constructor
  · rintro missing ⟨stop, matches_⟩
    exact missing ⟨hay, start, stop⟩ (matchAt?_eq_some_iff.2 ⟨rfl, rfl, matches_⟩)
  · intro missing found taken
    exact missing ⟨found.stop, (matchAt?_eq_some_iff.1 taken).2.2⟩

/-- A scope is matched as a whole exactly if the sequence succeeds where it begins. -/
theorem isMatch_eq_true_iff (sequence : Sequence Id) (scope : Scope) :
    (sequence.isMatch scope).run = true ↔
      ∃ stop, (sequence.eval scope.haystack scope.first scope.limit .atLimit).run =
        .success stop := by
  show (sequence.eval scope.haystack scope.first scope.limit .atLimit).run.isSuccess = true ↔ _
  cases (sequence.eval scope.haystack scope.first scope.limit .atLimit).run with
  | abort | backtrack => simp [Outcome.isSuccess]
  | success stop => simp [Outcome.isSuccess]

/-! ## The answer to a search -/

/-- The answer to a search for the first match that starts from `pos` on, before `limit`. -/
def FirstMatch (sequence : Sequence Id) (hay : Haystack) (limit pos : Nat) :
    Option Interval → Prop
  | some found =>
    found.haystack = hay ∧ hay.IsFirst pos limit (sequence.MatchesAt hay limit) found.start ∧
      sequence.MatchesTo hay limit found.start found.stop
  | none => hay.NoneBelow pos limit (sequence.MatchesAt hay limit)

namespace FirstMatch

/-- The match that is found starts at the first boundary where there is one. -/
theorem isFirst {found : Interval} (first : sequence.FirstMatch hay limit pos (some found)) :
    hay.IsFirst pos limit (sequence.MatchesAt hay limit) found.start :=
  first.2.1

theorem start_le_stop {found : Interval}
    (first : sequence.FirstMatch hay limit pos (some found)) : found.start ≤ found.stop :=
  first.2.2.2.1

/-- Offsets where the sequence does not match may be put in front. -/
theorem skip {mid : Nat} {answer : Option Interval}
    (none : hay.NoneBelow pos mid (sequence.MatchesAt hay limit)) (le : pos ≤ mid)
    (first : sequence.FirstMatch hay limit mid answer) :
    sequence.FirstMatch hay limit pos answer := by
  cases answer with
  | some found => exact ⟨first.1, first.isFirst.skip none le, first.2.2⟩
  | none => exact none.append first

/-- There is one answer. -/
theorem unique {answer answer' : Option Interval}
    (first : sequence.FirstMatch hay limit pos answer)
    (first' : sequence.FirstMatch hay limit pos answer') : answer = answer' := by
  cases answer with
  | some found =>
    cases answer' with
    | some found' =>
      obtain ⟨haystack, start, stop⟩ := found
      obtain ⟨haystack', start', stop'⟩ := found'
      obtain ⟨rfl, isFirst, matches_⟩ := first
      obtain ⟨rfl, isFirst', matches'⟩ := first'
      obtain rfl : start = start' := isFirst.unique isFirst'
      obtain rfl : stop = stop' := matches_.unique matches'
      rfl
    | none => exact absurd first' first.isFirst.not_noneBelow
  | none =>
    cases answer' with
    | some found' => exact absurd first first'.isFirst.not_noneBelow
    | none => rfl

/-- Sequences that come to the same wherever they are tried have the same first match. -/
theorem congr {sequence' : Sequence Id} {answer : Option Interval}
    (same :
      ∀ start, sequence.eval hay start limit .anywhere = sequence'.eval hay start limit .anywhere)
    (first : sequence.FirstMatch hay limit pos answer) :
    sequence'.FirstMatch hay limit pos answer := by
  have same_matches : sequence.MatchesTo hay limit = sequence'.MatchesTo hay limit := by
    funext start stop
    rw [MatchesTo, MatchesTo, same]
  have same_places : sequence.MatchesAt hay limit = sequence'.MatchesAt hay limit := by
    funext start
    rw [MatchesAt, MatchesAt, same_matches]
  cases answer with
  | some found =>
    obtain ⟨haystack, isFirst, matches_⟩ := first
    rw [same_places] at isFirst
    rw [same_matches] at matches_
    exact ⟨haystack, isFirst, matches_⟩
  | none =>
    unfold FirstMatch at first ⊢
    rw [← same_places]
    exact first

section Placed

variable (placed : ∀ place, sequence.MatchesAt hay limit place →
  hay.isBoundary place = true ∧ place < limit)

include placed

/-- Where a sequence matches at boundaries below the limit only, the first match is at the least
offset of all. -/
theorem some_iff_isLeast {found : Interval} : sequence.FirstMatch hay limit pos (some found) ↔
    found.haystack = hay ∧
      IsLeast {place | pos ≤ place ∧ sequence.MatchesAt hay limit place} found.start ∧
      sequence.MatchesTo hay limit found.start found.stop := by
  rw [← Haystack.isFirst_iff_isLeast placed]
  exact Iff.rfl

theorem none_iff_forall : sequence.FirstMatch hay limit pos none ↔
    ∀ place, pos ≤ place → ¬ sequence.MatchesAt hay limit place :=
  Haystack.noneBelow_iff_forall placed

end Placed

end FirstMatch

/-! ## Searching with a lead -/

/-- A lead is sound for a search if it fits wherever the sequence matches. -/
def LeadSound (sequence : Sequence Id) (lead? : Option Lead) (hay : Haystack) (limit : Nat) :
    Prop :=
  ∀ lead, lead? = some lead → ∀ start, sequence.MatchesAt hay limit start →
    lead.Fits hay limit start

/-- To search without a lead is sound. -/
theorem leadSound_none : sequence.LeadSound none hay limit := nofun

/-- The lead of the sequence is sound: where it does not fit, the first pattern backtracks. -/
theorem leadSound_lead? : sequence.LeadSound sequence.lead? hay limit := by
  rintro lead made start ⟨stop, succeeds, -⟩
  obtain ⟨pattern, leading, made⟩ := Option.bind_eq_some_iff.1 made
  obtain ⟨rest, patterns⟩ := List.head?_eq_some_iff.1 leading
  cases pattern with
  | text literals casing =>
    refine Classical.byContradiction fun unfit => ?_
    have missing : ¬ hay.StandsAt casing limit literals start :=
      fun stands => unfit (Lead.fits_of_standsAt made stands)
    rw [eval_eq_evalAll, patterns, Pattern.evalAll_cons, Pattern.eval_text_eq_backtrack missing]
      at succeeds
    cases succeeds
  | _ => cases made

/-- The next candidate is the first boundary where the lead fits, every one being fit without a
lead. -/
theorem finds_nextCandidate? (lead? : Option Lead) (limitBoundary : hay.isBoundary limit = true)
    (boundary : hay.isBoundary pos = true) (lt : pos < limit) :
    hay.Finds pos limit (fun start => ∀ lead, lead? = some lead → lead.Fits hay limit start)
      (nextCandidate? lead? hay limit pos) := by
  cases lead? with
  | none => exact Haystack.IsFirst.here boundary lt nofun
  | some lead =>
    have finds := lead.finds_candidate? limitBoundary boundary (Nat.le_of_lt lt)
    have same : (fun start => ∀ lead', some lead = some lead' → lead'.Fits hay limit start) =
        lead.Fits hay limit := by
      funext start
      simp
    rw [same]
    exact finds

/-- A search with a sound lead finds the first match. -/
theorem firstMatch_findFrom? {lead? : Option Lead} (sound : sequence.LeadSound lead? hay limit)
    (limitBoundary : hay.isBoundary limit = true) (boundary : hay.isBoundary pos = true) :
    sequence.FirstMatch hay limit pos (sequence.findFrom? lead? hay limit pos).run := by
  -- no offset before `pos` is of interest, so what a failed attempt leaves is the same search
  induction distance : limit - pos using Nat.strongRecOn generalizing pos with
  | _ distance ih =>
    rw [findFrom?]
    by_cases lt : pos < limit
    · rw [if_pos lt]
      have finds := finds_nextCandidate? lead? limitBoundary boundary lt
      cases candidate : nextCandidate? lead? hay limit pos with
      | none =>
        rw [candidate] at finds
        exact Haystack.NoneBelow.mono finds fun start matches_ lead made =>
          sound lead made start matches_
      | some start =>
        rw [candidate] at finds
        -- the offsets before the candidate are those that the lead skips
        have skipped : hay.NoneBelow pos start (sequence.MatchesAt hay limit) :=
          Haystack.NoneBelow.mono (Haystack.IsFirst.noneBelow finds) fun start matches_ lead made =>
            sound lead made start matches_
        have ahead : start < hay.next start := Haystack.lt_next_of_lt limitBoundary finds.lt
        have le := finds.le
        dsimp only
        rw [Id.run_bind]
        cases taken : (sequence.matchAt? hay limit start).run with
        | some found =>
          obtain ⟨same, rfl, matches_⟩ := matchAt?_eq_some_iff.1 taken
          exact ⟨same,
            (Haystack.IsFirst.here finds.boundary finds.lt ⟨_, matches_⟩).skip skipped le,
            matches_⟩
        | none =>
          have fails := matchAt?_eq_none_iff.1 taken
          have rest := ih (limit - hay.next start) (by omega) (hay.isBoundary_next start) rfl
          dsimp only
          rw [if_pos (Nat.lt_of_le_of_lt le ahead)]
          exact (rest.skip (Haystack.noneBelow_next finds.boundary fails) (Nat.le_of_lt ahead)).skip
            skipped le
    · rw [if_neg lt]
      exact Haystack.noneBelow_of_ge (Nat.le_of_not_lt lt)

/-- What a search with the lead answers from a boundary on is the first match. -/
theorem firstMatch_of_findFrom? {answer : Option Interval}
    (limitBoundary : hay.isBoundary limit = true) (boundary : hay.isBoundary pos = true)
    (search : (sequence.findFrom? sequence.lead? hay limit pos).run = answer) :
    sequence.FirstMatch hay limit pos answer :=
  search ▸ firstMatch_findFrom? leadSound_lead? limitBoundary boundary

/-- The lead makes no difference to what a search finds. -/
theorem findFrom?_lead? (limitBoundary : hay.isBoundary limit = true)
    (boundary : hay.isBoundary pos = true) :
    (sequence.findFrom? sequence.lead? hay limit pos).run =
      (sequence.findFrom? none hay limit pos).run :=
  (firstMatch_of_findFrom? limitBoundary boundary rfl).unique
    (firstMatch_findFrom? leadSound_none limitBoundary boundary)

/-- A search of a scope answers for the boundaries from its first to its last. -/
theorem firstMatch_find? (sequence : Sequence Id) (scope : Scope) :
    sequence.FirstMatch scope.haystack scope.limit scope.first (sequence.find? scope).run :=
  firstMatch_of_findFrom? scope.isBoundary_limit scope.isBoundary_first rfl

/-- Sequences that come to the same wherever they are tried find the same, whatever their leads. -/
theorem find?_congr {sequence' : Sequence Id} (scope : Scope)
    (same : ∀ start, sequence.eval scope.haystack start scope.limit .anywhere =
      sequence'.eval scope.haystack start scope.limit .anywhere) :
    (sequence.find? scope).run = (sequence'.find? scope).run :=
  ((sequence.firstMatch_find? scope).congr same).unique (sequence'.firstMatch_find? scope)

/-- The answer of a search is the first match, be there one or not. -/
theorem find?_eq_iff_firstMatch (sequence : Sequence Id) (scope : Scope)
    {answer : Option Interval} :
    (sequence.find? scope).run = answer ↔
      sequence.FirstMatch scope.haystack scope.limit scope.first answer := by
  have search := sequence.firstMatch_find? scope
  constructor
  · rintro rfl
    exact search
  · exact fun first => search.unique first

/-- **A search finds the first match**: its answer is a match exactly if that is the one at the
first boundary of the scope where there is one, and no match exactly if there is none; and searching
without a lead answers the same. -/
theorem find?_finds_first_match (sequence : Sequence Id) (scope : Scope) :
    (∀ found, (sequence.find? scope).run = some found ↔
      found.haystack = scope.haystack ∧
      scope.haystack.IsFirst scope.first scope.limit
        (sequence.MatchesAt scope.haystack scope.limit) found.start ∧
      sequence.MatchesTo scope.haystack scope.limit found.start found.stop) ∧
    ((sequence.find? scope).run = none ↔
      scope.haystack.NoneBelow scope.first scope.limit
        (sequence.MatchesAt scope.haystack scope.limit)) ∧
    (sequence.findFrom? none scope.haystack scope.limit scope.first).run =
      (sequence.find? scope).run := by
  have first := sequence.firstMatch_find? scope
  refine ⟨fun found => ?_, ?_, ?_⟩
  · constructor
    · intro answer
      rw [answer] at first
      exact first
    · intro isFirst
      exact first.unique (show FirstMatch _ _ _ _ (some found) from isFirst)
  · constructor
    · intro answer
      rw [answer] at first
      exact first
    · intro missing
      exact first.unique (show FirstMatch _ _ _ _ none from missing)
  · exact (findFrom?_lead? scope.isBoundary_limit scope.isBoundary_first).symm

end PatternSearch.Sequence
