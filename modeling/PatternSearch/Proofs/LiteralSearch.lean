import PatternSearch.Proofs.ByteSearch
import PatternSearch.Proofs.Enumeration

/-!
# Searching for literals

A sequence may be a text alone. All that a search for it has to do with leads, attempts and the step
behind a match comes to what one would do by hand: look for the first place where one of the
literals stands, take the one of them that is declared first, and go on behind it. With a single
literal whose case is taken as it is, this is the search for a string in another one, byte by byte
and without overlaps.

- `Haystack.LiteralMatches`: the places of the literals, one behind the other, told without the
  search.
- `Sequence.enumerates_ofText_iff`: these are the matches.
- `Text.occurrences`: the plain scan for a string of bytes; `Haystack.literalMatches_occurrences`:
  it finds the places of a single literal.
- `Sequence.literals_found_leftmost_first`: what `findAll` gives for literals, and `find?` and
  `findAll` for one of them.
-/

namespace PatternSearch

variable {hay : Haystack} {casing : Casing} {limit pos start stop : Nat} {literal : Text}
  {literals : List Text}

/-! ## Places of literals -/

namespace Haystack

/-- One of the literals stands at `start`, and ends by the limit. -/
def AnyCovers (hay : Haystack) (casing : Casing) (limit : Nat) (literals : List Text)
    (start : Nat) : Prop :=
  ∃ literal ∈ literals, ∃ stop ≤ limit, hay.Covers casing literal start stop

/-- The first declared of the literals that stand at `start` and end by the limit ends at `stop`. -/
def FirstCovers (hay : Haystack) (casing : Casing) (limit : Nat) (literals : List Text)
    (start stop : Nat) : Prop :=
  ∃ before literal after, literals = before ++ literal :: after ∧
    (hay.Covers casing literal start stop ∧ stop ≤ limit) ∧
    ∀ other ∈ before, ∀ stop' ≤ limit, ¬ hay.Covers casing other start stop'

/-- The list holds the places of the literals from `pos` on: the first place where one of them
stands, which the first declared of these takes, then the places from the end of that one on. -/
inductive LiteralMatches (hay : Haystack) (casing : Casing) (limit : Nat) (literals : List Text) :
    Nat → List Interval → Prop where
  | done {pos : Nat} :
    (∀ place, pos ≤ place → ¬ hay.AnyCovers casing limit literals place) →
    LiteralMatches hay casing limit literals pos []
  | more {pos start stop : Nat} {rest : List Interval} :
    IsLeast {place | pos ≤ place ∧ hay.AnyCovers casing limit literals place} start →
    hay.FirstCovers casing limit literals start stop →
    LiteralMatches hay casing limit literals stop rest →
    LiteralMatches hay casing limit literals pos (⟨hay, start, stop⟩ :: rest)

/-- The first declared literal that stands at an offset is the first for which an end is found. -/
theorem firstCovers_iff_findSome? (limitBoundary : hay.isBoundary limit = true) :
    hay.FirstCovers casing limit literals start stop ↔
      literals.findSome? (hay.literalEnd? casing limit start) = some stop := by
  rw [List.findSome?_eq_some_iff]
  simp only [FirstCovers, literalEnd?_eq_some_iff_covers limitBoundary,
    literalEnd?_eq_none_iff_covers limitBoundary]

/-- Where literals stand there is a first declared one. -/
theorem anyCovers_iff_exists_firstCovers (limitBoundary : hay.isBoundary limit = true) :
    hay.AnyCovers casing limit literals start ↔
      ∃ stop, hay.FirstCovers casing limit literals start stop := by
  constructor
  · rintro ⟨literal, member, stop, le, covers⟩
    simp only [firstCovers_iff_findSome? limitBoundary]
    cases found : literals.findSome? (hay.literalEnd? casing limit start) with
    | some first => exact ⟨first, rfl⟩
    | none =>
      have missing := List.findSome?_eq_none_iff.1 found literal member
      exact absurd covers ((literalEnd?_eq_none_iff_covers limitBoundary).1 missing stop le)
  · rintro ⟨stop, before, literal, after, rfl, ⟨covers, le⟩, -⟩
    exact ⟨literal, List.mem_append_right _ (.head _), stop, le, covers⟩

/-- Literals that are not empty begin at boundaries before the limit. -/
theorem AnyCovers.placed (nonempty : ∀ literal ∈ literals, literal ≠ [])
    (covers : hay.AnyCovers casing limit literals start) :
    hay.isBoundary start = true ∧ start < limit := by
  obtain ⟨literal, member, stop, le, covers⟩ := covers
  exact ⟨covers.isBoundary_start, Nat.lt_of_lt_of_le (covers.lt (nonempty literal member)) le⟩

theorem FirstCovers.bounds (first : hay.FirstCovers casing limit literals start stop) :
    start ≤ stop ∧ stop ≤ limit := by
  obtain ⟨before, literal, after, -, ⟨covers, le⟩, -⟩ := first
  exact ⟨covers.le, le⟩

theorem FirstCovers.lt (nonempty : ∀ literal ∈ literals, literal ≠ [])
    (first : hay.FirstCovers casing limit literals start stop) : start < stop := by
  obtain ⟨before, literal, after, rfl, ⟨covers, -⟩, -⟩ := first
  exact covers.lt (nonempty literal (List.mem_append_right _ (.head _)))

/-- An offset where none of the literals stands may be put in front. -/
theorem LiteralMatches.skip {list : List Interval}
    (missing : ¬ hay.AnyCovers casing limit literals pos)
    (matches_ : hay.LiteralMatches casing limit literals (pos + 1) list) :
    hay.LiteralMatches casing limit literals pos list := by
  have behind : ∀ place, pos ≤ place → hay.AnyCovers casing limit literals place →
      pos + 1 ≤ place := by
    intro place from_le covers
    refine Nat.lt_of_le_of_ne from_le ?_
    rintro rfl
    exact missing covers
  cases matches_ with
  | done none =>
    refine .done fun place from_le covers => ?_
    exact none place (behind place from_le covers) covers
  | more least first rest =>
    obtain ⟨⟨from_le, covers⟩, least⟩ := least
    refine .more ⟨⟨Nat.le_of_succ_le from_le, covers⟩, ?_⟩ first rest
    rintro place ⟨from_le', covers'⟩
    exact least ⟨behind place from_le' covers', covers'⟩

end Haystack

/-! ## One text as a sequence -/

/-- A text alone succeeds where the first of its literals ends for which there is an end. -/
theorem Pattern.evalAll_text_eq_success_iff :
    (evalAll [(.text literals casing : Pattern Id)] hay start limit .anywhere).run =
        .success stop ↔
      literals.findSome? (hay.literalEnd? casing limit start) = some stop := by
  show (firstSuccess (fun mid => (pure (.success mid) : Id Outcome))
    (literals.filterMap (hay.literalEnd? casing limit start))).run = _ ↔ _
  rw [← List.head?_filterMap]
  cases literals.filterMap (hay.literalEnd? casing limit start) with
  | nil => exact ⟨nofun, nofun⟩
  | cons mid rest =>
    constructor
    · exact fun succeeds => congrArg some (Outcome.success.inj succeeds)
    · exact fun same => congrArg Outcome.success (Option.some_inj.1 same)

namespace Sequence

/-- A text alone. -/
def ofText (literals : List Text) (casing : Casing) : Sequence Id where
  patterns := [.text literals casing]
  valid := rfl

theorem matchesTo_ofText_iff (limitBoundary : hay.isBoundary limit = true) :
    (ofText literals casing).MatchesTo hay limit start stop ↔
      hay.FirstCovers casing limit literals start stop := by
  have ends_iff : (Pattern.evalAll (ofText literals casing).patterns hay start limit
      .anywhere).run = .success stop ↔ _ := Pattern.evalAll_text_eq_success_iff
  rw [MatchesTo, eval_eq_evalAll, ends_iff, ← Haystack.firstCovers_iff_findSome? limitBoundary]
  constructor
  · exact fun matches_ => matches_.1
  · exact fun first => ⟨first, first.bounds⟩

theorem matchesAt_ofText_iff (limitBoundary : hay.isBoundary limit = true) :
    (ofText literals casing).MatchesAt hay limit start ↔
      hay.AnyCovers casing limit literals start := by
  simp only [MatchesAt, matchesTo_ofText_iff limitBoundary,
    Haystack.anyCovers_iff_exists_firstCovers limitBoundary]

/-- The first match is at the first place where one of the literals stands. -/
theorem firstMatch_ofText_iff (nonempty : ∀ literal ∈ literals, literal ≠ [])
    (limitBoundary : hay.isBoundary limit = true) :
    (∀ found, (ofText literals casing).FirstMatch hay limit pos (some found) ↔
      found.haystack = hay ∧
      IsLeast {place | pos ≤ place ∧ hay.AnyCovers casing limit literals place} found.start ∧
      hay.FirstCovers casing limit literals found.start found.stop) ∧
    ((ofText literals casing).FirstMatch hay limit pos none ↔
      ∀ place, pos ≤ place → ¬ hay.AnyCovers casing limit literals place) := by
  have placed : ∀ place, (ofText literals casing).MatchesAt hay limit place →
      hay.isBoundary place = true ∧ place < limit :=
    fun place matches_ => ((matchesAt_ofText_iff limitBoundary).1 matches_).placed nonempty
  constructor
  · intro found
    rw [FirstMatch.some_iff_isLeast placed, matchesTo_ofText_iff limitBoundary]
    simp only [matchesAt_ofText_iff limitBoundary]
  · rw [FirstMatch.none_iff_forall placed]
    simp only [matchesAt_ofText_iff limitBoundary]

/-- The matches of literals are their places, one behind the other. -/
theorem enumerates_ofText_iff {list : List Interval}
    (nonempty : ∀ literal ∈ literals, literal ≠ [])
    (limitBoundary : hay.isBoundary limit = true) :
    (ofText literals casing).Enumerates hay limit pos list ↔
      hay.LiteralMatches casing limit literals pos list := by
  constructor
  · intro enumerates
    induction enumerates with
    | done missing => exact .done ((firstMatch_ofText_iff nonempty limitBoundary).2.1 missing)
    | @more pos found rest first _ ih =>
      obtain ⟨rfl, least, first⟩ :=
        ((firstMatch_ofText_iff nonempty limitBoundary).1 found).1 first
      rw [show found.resume = found.stop from if_pos (first.lt nonempty)] at ih
      exact .more least first ih
  · intro matches_
    induction matches_ with
    | done none => exact .done ((firstMatch_ofText_iff nonempty limitBoundary).2.2 none)
    | @more pos start stop rest least first _ ih =>
      refine .more (((firstMatch_ofText_iff nonempty limitBoundary).1 _).2 ⟨rfl, least, first⟩)
        ?_
      rw [show Interval.resume ⟨hay, start, stop⟩ = stop from if_pos (first.lt nonempty)]
      exact ih

end Sequence

/-! ## The plain scan -/

/-- The offsets where the bytes of a needle stand, counted from `pos`: the leftmost of them, then
those behind the needle that stands there. -/
def Text.occurrences (needle : List UInt8) (pos : Nat) : List UInt8 → List Nat
  | [] => []
  | byte :: rest =>
    if needle.isPrefixOf (byte :: rest) then
      pos :: occurrences needle (pos + needle.length) (rest.drop (needle.length - 1))
    else occurrences needle (pos + 1) rest
termination_by bytes => bytes.length

namespace Haystack

/-- A literal stands where its bytes do. -/
theorem occurs_iff_bytes (limitBoundary : hay.isBoundary limit = true) (nonempty : literal ≠ []) :
    hay.Occurs limit literal start ↔ Text.bytes literal <+: hay.bytesBetween start limit := by
  have stands_iff : hay.StandsAt .exact limit [literal] start ↔
      hay.OccursAt limit [literal] start :=
    standsAt_iff_occursAt limitBoundary (List.forall_mem_singleton.2 nonempty)
  simpa [StandsAt, OccursAt, literalEnd?_eq_some_iff_covers limitBoundary, covers_exact_and_le_iff]
    using stands_iff

/-- A single literal whose case is taken as it is stands where it occurs. -/
theorem anyCovers_singleton_iff :
    hay.AnyCovers .exact limit [literal] start ↔ hay.Occurs limit literal start := by
  constructor
  · rintro ⟨other, member, stop, le, covers⟩
    obtain rfl := List.mem_singleton.1 member
    exact (covers_exact_and_le_iff.1 ⟨covers, le⟩).1
  · exact fun occurs => ⟨literal, .head _, _, occurs.2, occurs.covers⟩

theorem firstCovers_singleton_iff :
    hay.FirstCovers .exact limit [literal] start stop ↔
      hay.Occurs limit literal start ∧ stop = start + Text.byteSize literal := by
  rw [← covers_exact_and_le_iff]
  constructor
  · rintro ⟨before, other, after, split, covers, -⟩
    have member : other ∈ [literal] := split ▸ List.mem_append_right before (.head after)
    obtain rfl := List.mem_singleton.1 member
    exact covers
  · exact fun covers => ⟨[], literal, [], rfl, covers, nofun⟩

/-- The plain scan finds the places of a single literal, wherever it begins. -/
theorem literalMatches_occurrences (limitBoundary : hay.isBoundary limit = true)
    (nonempty : literal ≠ []) (pos : Nat) :
    hay.LiteralMatches .exact limit [literal] pos
      ((Text.occurrences (Text.bytes literal) pos (hay.bytesBetween pos limit)).map
        fun start => ⟨hay, start, start + Text.byteSize literal⟩) := by
  generalize at_pos : hay.bytesBetween pos limit = bytes
  generalize of_literal : Text.bytes literal = needle
  -- the bytes that are left are always those from the offset that is reached to the limit
  fun_induction Text.occurrences needle pos bytes with
  | case1 pos =>
    refine .done fun place from_le covers => ?_
    have begins := (occurs_iff_bytes limitBoundary nonempty).1 (anyCovers_singleton_iff.1 covers)
    obtain ⟨gap, rfl⟩ := Nat.exists_eq_add_of_le from_le
    rw [← drop_bytesBetween, at_pos, List.drop_nil, List.prefix_nil] at begins
    have empty := congrArg List.length begins
    rw [Text.length_bytes] at empty
    exact nonempty (Text.byteSize_eq_zero.1 empty)
  | case2 pos byte rest hit ih =>
    have begins : Text.bytes literal <+: hay.bytesBetween pos limit := by
      rw [of_literal, at_pos]
      exact List.isPrefixOf_iff_prefix.1 hit
    have occurs := (occurs_iff_bytes limitBoundary nonempty).2 begins
    have length : needle.length = Text.byteSize literal := by
      rw [← of_literal, Text.length_bytes]
    have some_bytes : Text.byteSize literal ≠ 0 :=
      fun zero => nonempty (Text.byteSize_eq_zero.1 zero)
    have behind : hay.bytesBetween (pos + needle.length) limit = rest.drop (needle.length - 1) := by
      rw [← drop_bytesBetween, at_pos, List.drop_cons]
      omega
    rw [length] at ih behind ⊢
    refine .more
      ⟨⟨Nat.le_refl pos, anyCovers_singleton_iff.2 occurs⟩, fun place given => given.1⟩
      (firstCovers_singleton_iff.2 ⟨occurs, rfl⟩) (ih behind)
  | case3 pos byte rest miss ih =>
    have missing : ¬ hay.AnyCovers .exact limit [literal] pos := by
      rw [anyCovers_singleton_iff, occurs_iff_bytes limitBoundary nonempty, of_literal, at_pos]
      exact fun begins => miss (List.isPrefixOf_iff_prefix.2 begins)
    refine .skip missing (ih ?_)
    rw [← drop_bytesBetween, at_pos]
    rfl

end Haystack

/-! ## The matches of literals -/

namespace Sequence

/-- **Literals are found leftmost first, without overlaps**: the matches of literals that are not
empty are, from the start of the scope, the first place where one of them stands within the scope,
which the first declared of these takes, and so on behind it. A single literal, with its case taken
as it is, is found at the first offset where it occurs, and its matches are those of the plain scan
of the bytes. -/
theorem literals_found_leftmost_first (scope : Scope) :
    (∀ literals casing, (∀ literal ∈ literals, literal ≠ []) →
      ∀ list, ((ofText literals casing).findAll scope).run = list ↔
        scope.haystack.LiteralMatches casing scope.limit literals scope.first list) ∧
    ∀ literal, literal ≠ [] →
      (∀ found, ((ofText [literal] .exact).find? scope).run = some found ↔
        found.haystack = scope.haystack ∧
        IsLeast {place | scope.first ≤ place ∧ scope.haystack.Occurs scope.limit literal place}
          found.start ∧
        found.stop = found.start + Text.byteSize literal) ∧
      (((ofText [literal] .exact).find? scope).run = none ↔
        ∀ place, scope.first ≤ place → ¬ scope.haystack.Occurs scope.limit literal place) ∧
      ((ofText [literal] .exact).findAll scope).run =
        (Text.occurrences (Text.bytes literal) scope.first
          (scope.haystack.bytesBetween scope.first scope.limit)).map
          fun start => ⟨scope.haystack, start, start + Text.byteSize literal⟩ := by
  have all_iff : ∀ literals casing, (∀ literal ∈ literals, literal ≠ []) →
      ∀ list, ((ofText literals casing).findAll scope).run = list ↔
        scope.haystack.LiteralMatches casing scope.limit literals scope.first list := by
    intro literals casing nonempty list
    have own : ∀ pattern ∈ (ofText literals casing).patterns, pattern.kind ≠ .custom :=
      List.forall_mem_singleton.2 nofun
    have enumerates := enumerates_matches scope (Pattern.reportBoundaries_of_own own)
    rw [← enumerates_ofText_iff nonempty scope.isBoundary_limit]
    constructor
    · rintro rfl
      exact enumerates
    · exact fun enumerates' => enumerates.unique enumerates'
  refine ⟨all_iff, fun literal nonempty => ?_⟩
  have nonempty' : ∀ other ∈ [literal], other ≠ [] := List.forall_mem_singleton.2 nonempty
  obtain ⟨some_iff, none_iff⟩ := firstMatch_ofText_iff nonempty' scope.isBoundary_limit
  refine ⟨fun found => ?_, ?_, ?_⟩
  · rw [find?_eq_iff_firstMatch, some_iff]
    simp only [Haystack.anyCovers_singleton_iff, Haystack.firstCovers_singleton_iff]
    constructor
    · rintro ⟨haystack, least, -, stop⟩
      exact ⟨haystack, least, stop⟩
    · rintro ⟨haystack, least, stop⟩
      exact ⟨haystack, least, least.1.2, stop⟩
  · rw [find?_eq_iff_firstMatch, none_iff]
    simp only [Haystack.anyCovers_singleton_iff]
  · rw [all_iff _ _ nonempty']
    exact Haystack.literalMatches_occurrences scope.isBoundary_limit nonempty scope.first

/-- `ab` and `a`, in whatever case, in `Abba`: they are found at 0, where `ab` is declared first,
and at 3. A single `aa` is found twice in `aaaaa`, from 0 and from 2. -/
theorem literals_found_leftmost_first_letters :
    let hay : Haystack := { text := ['A', 'b', 'b', 'a'] }
    let hay' : Haystack := { text := ['a', 'a', 'a', 'a', 'a'] }
    let scope := Scope.full hay
    hay.LiteralMatches .folded scope.limit [['a', 'b'], ['a']] scope.first
        [⟨hay, 0, 2⟩, ⟨hay, 3, 4⟩] ∧
      ((ofText [['a', 'a']] .exact).findAll (Scope.full hay')).run =
        [⟨hay', 0, 2⟩, ⟨hay', 2, 4⟩] := by
  intro hay hay' scope
  have listed : ((ofText [['a', 'b'], ['a']] .folded).findAll scope).run =
      [⟨hay, 0, 2⟩, ⟨hay, 3, 4⟩] := by
    decide +kernel
  have scanned : (Text.occurrences (Text.bytes ['a', 'a']) (Scope.full hay').first
      (hay'.bytesBetween (Scope.full hay').first (Scope.full hay').limit)) = [0, 2] := by
    decide +kernel
  obtain ⟨all_iff, -⟩ := literals_found_leftmost_first scope
  obtain ⟨-, single⟩ := literals_found_leftmost_first (Scope.full hay')
  obtain ⟨-, -, same⟩ := single ['a', 'a'] (by decide)
  refine ⟨(all_iff _ _ (by decide) _).1 listed, same.trans ?_⟩
  show (Text.occurrences (Text.bytes ['a', 'a']) (Scope.full hay').first
    (hay'.bytesBetween (Scope.full hay').first (Scope.full hay').limit)).map _ = _
  rw [scanned]
  rfl

end Sequence

end PatternSearch
