import PatternSearch.Proofs.FirstCandidate

/-!
# What a lead skips

A search with a lead goes to the next candidate and leaves out all offsets before it. Nothing is
lost by that: the text that the lead was made of backtracks at each of them, whatever is to follow.
This holds wherever the search begins, inside a character as well. The candidate of literals is
defined by what stands at boundaries, character by character; a search for strings that compares
bytes, at all offsets, has the same answer.

- `Haystack.FindsLeftmost`: the answer of a search for strings among all offsets; that is the
  candidate (`Lead.candidate?_eq_iff_findsLeftmost`).
- `Text.NeedleSearch`: a search of bytes for the leftmost of several needles. Put in the place of
  the search for boundaries, it makes the same candidates (`Lead.searched?_eq_candidate?`).
- `Pattern.BacktracksBetween`: a pattern that backtracks at all boundaries of a range, whatever
  follows.
- `Lead.skips_failing_offsets_only`: what stands at a candidate, and what does not before it.
-/

namespace PatternSearch

variable {m : Type → Type} {hay : Haystack} {pos limit start : Nat} {literals : List Text}
  {casing : Casing} {lead : Lead} {answer : Option Nat}

/-! ## The leftmost candidate -/

/-- The answer to a search for the leftmost of all offsets from `pos` on, boundaries or not, with
the bytes of one of the literals. -/
def Haystack.FindsLeftmost (hay : Haystack) (limit : Nat) (literals : List Text) (pos : Nat) :
    Option Nat → Prop
  | some start => IsLeast {place | pos ≤ place ∧ hay.OccursAt limit literals place} start
  | none => ∀ place, pos ≤ place → ¬ hay.OccursAt limit literals place

/-- The bytes of literals that are not empty stand at boundaries before the limit only. -/
theorem Haystack.OccursAt.placed (nonempty : ∀ literal ∈ literals, literal ≠ [])
    (limitBoundary : hay.isBoundary limit = true) (occurs : hay.OccursAt limit literals start) :
    hay.isBoundary start = true ∧ start < limit := by
  obtain ⟨literal, member, stop, found⟩ :=
    (standsAt_iff_occursAt limitBoundary nonempty).2 occurs
  obtain ⟨covers, le⟩ := (literalEnd?_eq_some_iff_covers limitBoundary).1 found
  exact ⟨covers.isBoundary_start, Nat.lt_of_lt_of_le (covers.lt (nonempty literal member)) le⟩

/-- The candidate is what any search answers that finds the leftmost occurrence of the bytes. -/
theorem Lead.candidate?_eq_iff_findsLeftmost (nonempty : ∀ literal ∈ literals, literal ≠ [])
    (limitBoundary : hay.isBoundary limit = true) (le : pos ≤ limit) :
    (Lead.literals literals).candidate? hay limit pos = answer ↔
      hay.FindsLeftmost limit literals pos answer := by
  have fits_eq : (Lead.literals literals).Fits hay limit = hay.OccursAt limit literals := by
    funext place
    exact propext (Haystack.standsAt_iff_occursAt limitBoundary nonempty)
  have finds_iff : ∀ answer, hay.Finds pos limit (hay.OccursAt limit literals) answer ↔
      hay.FindsLeftmost limit literals pos answer := by
    have placed : ∀ place, hay.OccursAt limit literals place →
        hay.isBoundary place = true ∧ place < limit :=
      fun place occurs => occurs.placed nonempty limitBoundary
    intro answer
    cases answer with
    | some start => exact Haystack.isFirst_iff_isLeast placed
    | none => exact Haystack.noneBelow_iff_forall placed
  have finds := Lead.finds_candidate?_literals literals limitBoundary le
  rw [fits_eq] at finds
  rw [← finds_iff]
  constructor
  · rintro rfl
    exact finds
  · exact fun finds' => finds.unique finds'

/-! ## Searches of bytes -/

namespace Text

/-- The answer to a search for the leftmost place of bytes where one of the needles stands. -/
def FindsNeedle (needles : List (List UInt8)) (bytes : List UInt8) : Option Nat → Prop
  | some place => IsLeast {place | ∃ needle ∈ needles, needle <+: bytes.drop place} place
  | none => ∀ place, ∀ needle ∈ needles, ¬ needle <+: bytes.drop place

/-- The first place where one of the needles stands, one place being tried after the other. -/
def firstNeedle? (needles : List (List UInt8)) (bytes : List UInt8) : Option Nat :=
  (List.range (bytes.length + 1)).find? fun place =>
    needles.any fun needle => needle.isPrefixOf (bytes.drop place)

theorem findsNeedle_firstNeedle? (needles : List (List UInt8)) (bytes : List UInt8) :
    FindsNeedle needles bytes (firstNeedle? needles bytes) := by
  have stands_iff : ∀ place,
      (needles.any fun needle => needle.isPrefixOf (bytes.drop place)) = true ↔
        ∃ needle ∈ needles, needle <+: bytes.drop place := by
    intro place
    simp
  cases found : firstNeedle? needles bytes with
  | some place =>
    obtain ⟨hit, -, earlier⟩ := List.find?_range_eq_some.1 found
    refine ⟨(stands_iff place).1 hit, fun other stands => Nat.le_of_not_lt fun before => ?_⟩
    have miss := earlier other before
    rw [(stands_iff other).2 stands] at miss
    cases miss
  | none =>
    intro place needle member begins
    -- behind the last byte there is nothing, as at the end
    have same : bytes.drop place = bytes.drop (min place bytes.length) := by
      rcases Nat.le_total place bytes.length with le | ge
      · rw [Nat.min_eq_left le]
      · rw [Nat.min_eq_right ge, List.drop_eq_nil_of_le ge, List.drop_length]
    have miss := List.find?_range_eq_none.1 found (min place bytes.length)
      (Nat.lt_succ_of_le (Nat.min_le_right ..))
    rw [(stands_iff _).2 ⟨needle, member, same ▸ begins⟩] at miss
    cases miss

/-- A search of bytes for the leftmost of several needles. -/
structure NeedleSearch where
  leftmost? : List (List UInt8) → List UInt8 → Option Nat
  finds_leftmost? : ∀ needles bytes, FindsNeedle needles bytes (leftmost? needles bytes)

/-- The search that tries one place after the other. -/
def NeedleSearch.onePass : NeedleSearch where
  leftmost? := firstNeedle?
  finds_leftmost? := findsNeedle_firstNeedle?

end Text

/-- In the bytes of a part of a haystack, the needles stand where the bytes of the literals
occur. -/
theorem Haystack.findsLeftmost_of_findsNeedle
    (finds : Text.FindsNeedle (literals.map Text.bytes) (hay.bytesBetween pos limit) answer) :
    hay.FindsLeftmost limit literals pos (answer.map (pos + ·)) := by
  have occurs_iff : ∀ place,
      (∃ needle ∈ literals.map Text.bytes,
        needle <+: (hay.bytesBetween pos limit).drop place) ↔
        hay.OccursAt limit literals (pos + place) := by
    intro place
    rw [drop_bytesBetween]
    constructor
    · rintro ⟨needle, member, begins⟩
      obtain ⟨literal, listed, rfl⟩ := List.mem_map.1 member
      exact ⟨literal, listed, begins⟩
    · rintro ⟨literal, member, begins⟩
      exact ⟨Text.bytes literal, List.mem_map_of_mem member, begins⟩
  cases answer with
  | some place =>
    obtain ⟨stands, least⟩ := finds
    refine ⟨⟨Nat.le_add_right .., (occurs_iff place).1 stands⟩, ?_⟩
    rintro other ⟨from_le, occurs⟩
    obtain ⟨gap, rfl⟩ := Nat.exists_eq_add_of_le from_le
    exact Nat.add_le_add_left (least ((occurs_iff gap).2 occurs)) pos
  | none =>
    intro other from_le occurs
    obtain ⟨gap, rfl⟩ := Nat.exists_eq_add_of_le from_le
    obtain ⟨needle, member, begins⟩ := (occurs_iff gap).2 occurs
    exact finds gap needle member begins

namespace Lead

/-- The candidate as searches of the bytes between the offset and the limit find it. -/
def searched? (needles : Text.NeedleSearch) (letters : Text.ByteSearches) (lead : Lead)
    (hay : Haystack) (limit pos : Nat) : Option Nat :=
  match lead with
  | .literals alternatives =>
    (needles.leftmost? (alternatives.map Text.bytes) (hay.bytesBetween pos limit)).map (pos + ·)
  | .letter byte => (letters.findAsciiFolded? (hay.bytesBetween pos limit) byte).map (pos + ·)

/-- A text that a lead was made of has literals, and none that is empty; a lead whose case is taken
as it is consists of them. -/
theorem eq_literals_of_exact (made : of? (.text literals .exact : Pattern m) = some lead) :
    lead = .literals literals ∧ ∀ literal ∈ literals, literal ≠ [] := by
  unfold of? at made
  dsimp only at made
  split at made
  · cases made
  · next usable =>
    simp only [Bool.or_eq_true, List.any_eq_true, not_or] at usable
    refine ⟨(Option.some_inj.1 made).symm, fun literal member => ?_⟩
    rintro rfl
    exact usable.2 ⟨[], member, rfl⟩

/-- A lead whose case is folded is a letter. -/
theorem exists_letter_of_folded (made : of? (.text literals .folded : Pattern m) = some lead) :
    ∃ byte, lead = .letter byte := by
  unfold of? at made
  dsimp only at made
  split at made
  · cases made
  · obtain ⟨byte, -, rfl⟩ := Option.map_eq_some_iff.1 made
    exact ⟨byte, rfl⟩

/-- Whatever the searches of bytes are, they find the candidate. -/
theorem searched?_eq_candidate? (needles : Text.NeedleSearch) (letters : Text.ByteSearches)
    (made : of? (.text literals casing : Pattern m) = some lead)
    (limitBoundary : hay.isBoundary limit = true) (le : pos ≤ limit) :
    lead.searched? needles letters hay limit pos = lead.candidate? hay limit pos := by
  cases casing with
  | exact =>
    obtain ⟨rfl, nonempty⟩ := eq_literals_of_exact made
    have finds := Haystack.findsLeftmost_of_findsNeedle
      (needles.finds_leftmost? (literals.map Text.bytes) (hay.bytesBetween pos limit))
    exact ((candidate?_eq_iff_findsLeftmost nonempty limitBoundary le).2 finds).symm
  | folded =>
    obtain ⟨byte, rfl⟩ := exists_letter_of_folded made
    exact congrArg (Option.map (pos + ·)) (letters.findAsciiFolded?_eq _ byte)

end Lead

/-! ## What stands before a candidate -/

/-- The pattern backtracks at each boundary from `pos` on, before `stop`, whatever is to follow
it. -/
def Pattern.BacktracksBetween [Monad m] (pattern : Pattern m) (hay : Haystack)
    (limit pos stop : Nat) : Prop :=
  ∀ place, hay.isBoundary place = true → pos ≤ place → place < stop →
    ∀ next : Continuation m, pattern.eval hay place limit next = pure .backtrack

/-- Where a lead does not fit, the text that it was made of backtracks. -/
theorem Pattern.backtracksBetween_of_noneBelow [Monad m] {stop : Nat}
    (made : Lead.of? (.text literals casing : Pattern m) = some lead)
    (none : hay.NoneBelow pos stop (lead.Fits hay limit)) :
    (Pattern.text literals casing : Pattern m).BacktracksBetween hay limit pos stop := by
  intro place boundary from_le lt next
  have missing : ¬ hay.StandsAt casing limit literals place :=
    fun stands => none place boundary from_le lt (Lead.fits_of_standsAt made stands)
  exact Pattern.eval_text_eq_backtrack missing next

namespace Lead

/-! ## What stands at a candidate -/

/-- Where literals are found, one of them stands. -/
theorem exists_occurs_of_candidate? (limitBoundary : hay.isBoundary limit = true)
    (le : pos ≤ limit)
    (found : (Lead.literals literals).candidate? hay limit pos = some start) :
    hay.isBoundary start = true ∧ ∃ literal ∈ literals, hay.Occurs limit literal start := by
  have finds := finds_candidate?_literals literals limitBoundary le
  rw [found] at finds
  obtain ⟨literal, member, stop, ends⟩ := finds.holds
  have covers := (Haystack.literalEnd?_eq_some_iff_covers limitBoundary).1 ends
  exact ⟨finds.boundary, literal, member, (Haystack.covers_exact_and_le_iff.1 covers).1⟩

/-- A letter that is looked for from a boundary is found at one, and from inside a character right
there. -/
theorem start_of_candidate?_letter {byte : UInt8} (limitBoundary : hay.isBoundary limit = true)
    (le : pos ≤ limit) (found : (letter byte).candidate? hay limit pos = some start) :
    (hay.isBoundary pos = true → hay.isBoundary start = true) ∧
      (hay.isBoundary pos = false → start = pos) := by
  constructor
  · intro boundary
    have finds := (letter byte).finds_candidate? limitBoundary boundary le
    rw [found] at finds
    exact finds.boundary
  · intro between
    have inside : limit ≤ hay.size := Haystack.le_size_of_isBoundary limitBoundary
    obtain ⟨from_le, lt⟩ := candidate?_bounds inside le found
    rw [candidate?_letter_inside byte inside (Nat.lt_of_le_of_lt from_le lt) (by simp [between])]
      at found
    exact (Option.some_inj.1 found).symm

/-- **A lead skips failing offsets only**: from any offset that is not beyond the limit, the
candidate of the lead of a text is an offset before the limit, and the text backtracks at all
boundaries before it, or at all of them if there is no candidate, whatever patterns and ending
follow. The candidate is a boundary, but for a letter that is looked for from inside a character,
where the search stops at once. If case is taken as it is, one of the literals stands at the
candidate, all of it before the limit; and this is the answer of any search for the leftmost
occurrence of their bytes. Whatever searches of bytes are used, they find this candidate. -/
theorem skips_failing_offsets_only [Monad m] (literals : List Text) (casing : Casing) (lead : Lead)
    (made : of? (.text literals casing : Pattern m) = some lead) (hay : Haystack) (limit pos : Nat)
    (limitBoundary : hay.isBoundary limit = true) (le : pos ≤ limit) :
    (∀ start, lead.candidate? hay limit pos = some start →
      pos ≤ start ∧ start < limit ∧
      (casing = .exact ∨ hay.isBoundary pos = true → hay.isBoundary start = true) ∧
      (casing = .folded → hay.isBoundary pos = false → start = pos) ∧
      (Pattern.text literals casing : Pattern m).BacktracksBetween hay limit pos start ∧
      (casing = .exact → ∃ literal ∈ literals, hay.Occurs limit literal start)) ∧
    (lead.candidate? hay limit pos = none →
      (Pattern.text literals casing : Pattern m).BacktracksBetween hay limit pos limit) ∧
    (casing = .exact → ∀ answer, hay.FindsLeftmost limit literals pos answer ↔
      lead.candidate? hay limit pos = answer) ∧
    ∀ needles letters,
      lead.searched? needles letters hay limit pos = lead.candidate? hay limit pos := by
  have none_before := lead.noneBelow_candidate? limitBoundary le
  refine ⟨fun start found => ?_, fun missing => ?_, ?_, fun needles letters =>
    searched?_eq_candidate? needles letters made limitBoundary le⟩
  · rw [found] at none_before
    obtain ⟨from_le, lt⟩ :=
      candidate?_bounds (Haystack.le_size_of_isBoundary limitBoundary) le found
    have fails := Pattern.backtracksBetween_of_noneBelow made none_before
    cases casing with
    | exact =>
      obtain ⟨rfl, -⟩ := eq_literals_of_exact made
      obtain ⟨boundary, occurs⟩ := exists_occurs_of_candidate? limitBoundary le found
      exact ⟨from_le, lt, fun _ => boundary, nofun, fails, fun _ => occurs⟩
    | folded =>
      obtain ⟨byte, rfl⟩ := exists_letter_of_folded made
      obtain ⟨at_boundary, at_once⟩ := start_of_candidate?_letter limitBoundary le found
      refine ⟨from_le, lt, fun either => ?_, fun _ => at_once, fails, nofun⟩
      exact at_boundary (either.resolve_left nofun)
  · rw [missing] at none_before
    exact Pattern.backtracksBetween_of_noneBelow made none_before
  · rintro rfl answer
    obtain ⟨rfl, nonempty⟩ := eq_literals_of_exact made
    exact (candidate?_eq_iff_findsLeftmost nonempty limitBoundary le).symm

/-- A `ke` or `ki` of any case is looked for by its first letter: in `abKe` with the Kelvin sign
that leads to the sign, and from inside the sign nowhere else. Neither `bc` nor `c` stands before
the `b` of `éabc`, where `bc` does, not from inside the `é` either; searching the bytes finds the
`b`, too. -/
theorem skips_failing_offsets_only_kelvin :
    let hay : Haystack := { text := ['a', 'b', '\u212a', 'e'] }
    let hay' : Haystack := { text := ['é', 'a', 'b', 'c'] }
    let folded : Pattern Id := .text [['k', 'e'], ['k', 'i']] .folded
    let kept : Pattern Id := .text [['b', 'c'], ['c']] .exact
    of? folded = some (.letter 107) ∧ folded.BacktracksBetween hay 6 0 2 ∧
      (Lead.letter 107).candidate? hay 6 3 = some 3 ∧
      of? kept = some (.literals [['b', 'c'], ['c']]) ∧ kept.BacktracksBetween hay' 5 1 3 ∧
      (∃ literal ∈ [['b', 'c'], ['c']], hay'.Occurs 5 literal 3) ∧
      (Lead.literals [['b', 'c'], ['c']]).searched? .onePass .onePass hay' 5 1 = some 3 := by
  intro hay hay' folded kept
  have made : of? folded = some (.letter 107) := by decide
  have made' : of? kept = some (.literals [['b', 'c'], ['c']]) := by decide
  have found : (Lead.letter 107).candidate? hay 6 0 = some 2 := by decide
  have found' : (Lead.literals [['b', 'c'], ['c']]).candidate? hay' 5 1 = some 3 := by
    decide +kernel
  obtain ⟨at_candidate, -⟩ :=
    skips_failing_offsets_only _ _ _ made hay 6 0 (by decide) (by decide)
  obtain ⟨at_candidate', -, -, searched⟩ :=
    skips_failing_offsets_only _ _ _ made' hay' 5 1 (by decide) (by decide)
  obtain ⟨-, -, -, -, fails, -⟩ := at_candidate 2 found
  obtain ⟨-, -, -, -, fails', stands⟩ := at_candidate' 3 found'
  exact ⟨made, fails, by decide, made', fails', stands rfl, (searched _ _).trans found'⟩

end Lead

end PatternSearch
