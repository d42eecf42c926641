import Mathlib.Order.Bounds.Defs
import PatternSearch.Haystack

/-!
# Boundaries, and the first one with a property

Every loop of a search walks over the boundaries of a haystack from left to right. What such a walk
finds is stated here once, without the walk: the first boundary of a range with a property.

- `Haystack.IsFirst`: an offset is the first boundary of a range with a property.
- `Haystack.NoneBelow`: no boundary of a range has the property.
- `Haystack.isFirst_iff_isLeast`, `Haystack.noneBelow_iff_forall`: both in terms of all offsets,
  where only boundaries can have the property.
- `Haystack.walk_induction`: what the limit has, and each boundary has if the next one does, every
  boundary up to the limit has.
- `Haystack.next_le_of_lt`: a step from a boundary skips no boundary, so `NoneBelow` of a step is a
  statement about one offset (`noneBelow_next`).
- `Haystack.Finds`: the answer to a search for the first boundary with a property; the plain walk
  gives it (`finds_firstBelow?`).
- `Haystack.isGreatest_floor`, `Haystack.isLeast_ceil`: the boundaries nearest to an offset on
  either side.
-/

namespace PatternSearch.Haystack

variable {hay : Haystack} {pos limit : Nat}

/-! ## Steps -/

/-- A character starts at every boundary before the end. -/
theorem exists_from?_cons (boundary : hay.isBoundary pos = true) (lt : pos < hay.size) :
    ∃ c rest, hay.from? pos = some (c :: rest) := by
  obtain ⟨rest, cut⟩ := Option.isSome_iff_exists.1 boundary
  cases rest with
  | nil =>
    have := size_of_from? cut
    simp at this
    omega
  | cons c rest => exact ⟨c, rest, cut⟩

/-- The step from a boundary takes one character. -/
theorem next_of_from? {c : Char} {rest : Text} (cut : hay.from? pos = some (c :: rest)) :
    hay.next pos = pos + c.utf8Size := by
  unfold next
  rw [cut]

/-- A step from no boundary leads to the end of the text. -/
theorem next_of_not_isBoundary (between : ¬ hay.isBoundary pos = true) :
    hay.next pos = hay.size := by
  have missing : hay.from? pos = none := by
    cases cut : hay.from? pos with
    | none => rfl
    | some rest => exact absurd (Option.isSome_iff_exists.2 ⟨rest, cut⟩) between
  unfold next
  rw [missing]

/-- A step from a boundary goes past no other boundary. -/
theorem next_le_of_lt {other : Nat} (boundary : hay.isBoundary pos = true)
    (boundary' : hay.isBoundary other = true) (lt : pos < other) : hay.next pos ≤ other := by
  have inside : other ≤ hay.size := le_size_of_isBoundary boundary'
  obtain ⟨c, rest, cut⟩ := exists_from?_cons boundary (by omega)
  rw [next_of_from? cut]
  obtain ⟨front, split, rfl⟩ := from?_eq_some_iff.1 cut
  obtain ⟨front', rest', split', rfl⟩ := isBoundary_iff.1 boundary'
  obtain ⟨between, rfl⟩ :=
    Text.exists_append_of_le (split.symm.trans split') (Nat.le_of_lt lt)
  cases between with
  | nil => simp at lt
  | cons d between =>
    -- the first character between the two offsets is the one that the step takes
    have same : c :: rest = d :: between ++ rest' :=
      List.append_cancel_left (split.symm.trans (split'.trans (List.append_assoc ..)))
    obtain ⟨rfl, -⟩ := List.cons.inj same
    simp

/-- Below a limit within the text, a step leads on. -/
theorem lt_next_of_le_size (within : limit ≤ hay.size) (lt : pos < limit) : pos < hay.next pos :=
  lt_next (Nat.lt_of_lt_of_le lt within)

/-- Before a boundary, a step leads on. -/
theorem lt_next_of_lt (limitBoundary : hay.isBoundary limit = true) (lt : pos < limit) :
    pos < hay.next pos :=
  lt_next_of_le_size (le_size_of_isBoundary limitBoundary) lt

/-- What holds at the limit, and at each boundary before it if it holds one step further, holds at
every boundary up to the limit. -/
theorem walk_induction (limitBoundary : hay.isBoundary limit = true)
    {motive : ∀ pos, hay.isBoundary pos = true → pos ≤ limit → Prop}
    (last : motive limit limitBoundary (Nat.le_refl limit))
    (step : ∀ pos (boundary : hay.isBoundary pos = true) (lt : pos < limit)
      (near : hay.next pos ≤ limit), pos < hay.next pos →
      motive (hay.next pos) (hay.isBoundary_next pos) near →
        motive pos boundary (Nat.le_of_lt lt))
    (pos : Nat) (boundary : hay.isBoundary pos = true) (le : pos ≤ limit) :
    motive pos boundary le := by
  -- each step makes the distance to the limit shorter
  induction distance : limit - pos using Nat.strongRecOn generalizing pos with
  | _ distance ih =>
    rcases Nat.lt_or_eq_of_le le with lt | rfl
    · have ahead : pos < hay.next pos := lt_next_of_lt limitBoundary lt
      have near : hay.next pos ≤ limit := next_le_of_lt boundary limitBoundary lt
      exact step pos boundary lt near ahead
        (ih (limit - hay.next pos) (by omega) (hay.next pos) (hay.isBoundary_next pos) near rfl)
    · exact last

/-! ## The first boundary with a property -/

/-- `start` is the first boundary from `pos` on, before `stop`, with the property. -/
structure IsFirst (hay : Haystack) (pos stop : Nat) (wanted : Nat → Prop) (start : Nat) :
    Prop where
  boundary : hay.isBoundary start = true
  le : pos ≤ start
  lt : start < stop
  holds : wanted start
  least : ∀ earlier, hay.isBoundary earlier = true → pos ≤ earlier → earlier < start →
    ¬ wanted earlier

/-- No boundary from `pos` on, before `stop`, has the property. -/
def NoneBelow (hay : Haystack) (pos stop : Nat) (wanted : Nat → Prop) : Prop :=
  ∀ start, hay.isBoundary start = true → pos ≤ start → start < stop → ¬ wanted start

variable {stop mid : Nat} {wanted wanted' : Nat → Prop}

theorem NoneBelow.mono (none : hay.NoneBelow pos stop wanted)
    (imp : ∀ start, wanted' start → wanted start) : hay.NoneBelow pos stop wanted' :=
  fun start boundary le lt holds => none start boundary le lt (imp start holds)

/-- Two ranges that meet make one. -/
theorem NoneBelow.append (none : hay.NoneBelow pos mid wanted)
    (none' : hay.NoneBelow mid stop wanted) : hay.NoneBelow pos stop wanted := by
  intro start boundary le lt
  rcases Nat.lt_or_ge start mid with before | behind
  · exact none start boundary le before
  · exact none' start boundary behind lt

/-- There is one boundary only before the end of a step: its start. -/
theorem noneBelow_next (boundary : hay.isBoundary pos = true) (not : ¬ wanted pos) :
    hay.NoneBelow pos (hay.next pos) wanted := by
  intro start boundary' le lt
  rcases Nat.lt_or_eq_of_le le with before | rfl
  · have := next_le_of_lt boundary boundary' before
    omega
  · exact not

theorem noneBelow_of_ge (ge : stop ≤ pos) : hay.NoneBelow pos stop wanted :=
  fun _ _ le lt => absurd (Nat.lt_of_lt_of_le lt (Nat.le_trans ge le)) (Nat.lt_irrefl _)

namespace IsFirst

theorem here (boundary : hay.isBoundary pos = true) (lt : pos < stop) (holds : wanted pos) :
    hay.IsFirst pos stop wanted pos :=
  ⟨boundary, Nat.le_refl pos, lt, holds, fun _ _ le lt => absurd lt (Nat.not_lt.2 le)⟩

/-- A range without the property may be put in front. -/
theorem skip {start : Nat} (none : hay.NoneBelow pos mid wanted) (le : pos ≤ mid)
    (first : hay.IsFirst mid stop wanted start) : hay.IsFirst pos stop wanted start where
  boundary := first.boundary
  le := Nat.le_trans le first.le
  lt := first.lt
  holds := first.holds
  least earlier boundary from_le lt := by
    rcases Nat.lt_or_ge earlier mid with before | behind
    · exact none earlier boundary from_le before
    · exact first.least earlier boundary behind lt

/-- There is one first boundary at most. -/
theorem unique {start start' : Nat} (first : hay.IsFirst pos stop wanted start)
    (first' : hay.IsFirst pos stop wanted start') : start = start' := by
  rcases Nat.lt_trichotomy start start' with lt | same | gt
  · exact absurd first.holds (first'.least start first.boundary first.le lt)
  · exact same
  · exact absurd first'.holds (first.least start' first'.boundary first'.le gt)

theorem not_noneBelow {start : Nat} (first : hay.IsFirst pos stop wanted start) :
    ¬ hay.NoneBelow pos stop wanted :=
  fun none => none start first.boundary first.le first.lt first.holds

/-- Before the first boundary with the property there is none. -/
theorem noneBelow {start : Nat} (first : hay.IsFirst pos stop wanted start) :
    hay.NoneBelow pos start wanted :=
  first.least

end IsFirst

section Placed

variable (placed : ∀ place, wanted place → hay.isBoundary place = true ∧ place < stop)

include placed

/-- If only boundaries before `stop` have the property, the first of them is the least offset of all
that has it. -/
theorem isFirst_iff_isLeast {start : Nat} :
    hay.IsFirst pos stop wanted start ↔
      IsLeast {place | pos ≤ place ∧ wanted place} start := by
  constructor
  · intro first
    refine ⟨⟨first.le, first.holds⟩, ?_⟩
    rintro place ⟨from_le, holds⟩
    refine Nat.le_of_not_lt fun before => ?_
    exact first.least place (placed place holds).1 from_le before holds
  · rintro ⟨⟨from_le, holds⟩, least⟩
    obtain ⟨boundary, lt⟩ := placed start holds
    refine ⟨boundary, from_le, lt, holds, fun earlier _ from_le before holds => ?_⟩
    exact absurd (least ⟨from_le, holds⟩) (Nat.not_le.2 before)

/-- Then no boundary of the range has it only if no offset from `pos` on does. -/
theorem noneBelow_iff_forall :
    hay.NoneBelow pos stop wanted ↔ ∀ place, pos ≤ place → ¬ wanted place := by
  constructor
  · intro none place from_le holds
    obtain ⟨boundary, lt⟩ := placed place holds
    exact none place boundary from_le lt holds
  · exact fun none place _ from_le _ => none place from_le

end Placed

/-- The answer to a search for the first boundary from `pos` on, before `stop`, with the
property. -/
def Finds (hay : Haystack) (pos stop : Nat) (wanted : Nat → Prop) : Option Nat → Prop
  | some start => hay.IsFirst pos stop wanted start
  | none => hay.NoneBelow pos stop wanted

namespace Finds

/-- A range without the property does not change the answer. -/
theorem skip {answer : Option Nat} (none : hay.NoneBelow pos mid wanted) (le : pos ≤ mid)
    (finds : hay.Finds mid stop wanted answer) : hay.Finds pos stop wanted answer := by
  cases answer with
  | some start => exact IsFirst.skip none le finds
  | none => exact none.append finds

/-- There is one answer. -/
theorem unique {answer answer' : Option Nat} (finds : hay.Finds pos stop wanted answer)
    (finds' : hay.Finds pos stop wanted answer') : answer = answer' := by
  cases answer with
  | some start =>
    cases answer' with
    | some start' => exact congrArg some (IsFirst.unique finds finds')
    | none => exact absurd finds' (IsFirst.not_noneBelow finds)
  | none =>
    cases answer' with
    | some start' => exact absurd finds (IsFirst.not_noneBelow finds')
    | none => rfl

end Finds

/-- The plain walk finds the first wanted boundary below the limit. -/
theorem finds_firstBelow? (test : Nat → Bool) (limitBoundary : hay.isBoundary limit = true)
    (boundary : hay.isBoundary pos = true) (le : pos ≤ limit) :
    hay.Finds pos limit (fun start => test start = true) (hay.firstBelow? limit test pos) := by
  induction pos, boundary, le using walk_induction limitBoundary with
  | last =>
    rw [firstBelow?, if_neg (Nat.lt_irrefl limit)]
    exact noneBelow_of_ge (Nat.le_refl limit)
  | step pos boundary lt near ahead ih =>
    rw [firstBelow?, if_pos lt]
    by_cases hit : test pos = true
    · rw [if_pos hit]
      exact IsFirst.here boundary lt hit
    · rw [if_neg hit, if_pos ahead]
      exact ih.skip (noneBelow_next boundary hit) (Nat.le_of_lt ahead)

/-- The plain walk stays between its start and the limit. -/
theorem firstBelow?_bounds {wanted : Nat → Bool} {start : Nat}
    (answer : hay.firstBelow? limit wanted pos = some start) : pos ≤ start ∧ start < limit := by
  fun_induction firstBelow? hay limit wanted pos with
  | case1 pos lt hit =>
    obtain rfl := Option.some_inj.1 answer
    exact ⟨Nat.le_refl pos, lt⟩
  | case2 pos lt miss ahead ih =>
    obtain ⟨le, below⟩ := ih answer
    exact ⟨by omega, below⟩
  | case3 | case4 => cases answer

/-! ## Boundaries near an offset

Only four neighbouring offsets are looked at. A boundary is among them because no character has more
than four bytes.
-/

/-- Before the end there is a boundary at or before every offset, and the next one is behind it, at
most four bytes further. -/
theorem exists_isBoundary_around (lt : pos < hay.size) :
    ∃ start, hay.isBoundary start = true ∧ hay.isBoundary (hay.next start) = true ∧
      start ≤ pos ∧ pos < hay.next start ∧ hay.next start ≤ start + 4 := by
  rw [size_eq] at lt
  obtain ⟨front, c, rest, split, le, behind⟩ := Text.exists_split_around lt
  have cut : hay.from? (Text.byteSize front) = some (c :: rest) :=
    from?_eq_some_iff.2 ⟨front, split, rfl⟩
  have width := c.utf8Size_le_four
  refine ⟨Text.byteSize front, isBoundary_iff.2 ⟨front, c :: rest, split, rfl⟩,
    hay.isBoundary_next _, le, ?_, ?_⟩
  · rw [next_of_from? cut]
    exact behind
  · rw [next_of_from? cut]
    omega

/-- In a list that goes up or down, the first wanted member is the least or the greatest. -/
theorem rel_of_find?_eq_some {list : List Nat} {rel : Nat → Nat → Prop} {wanted : Nat → Bool}
    {found other : Nat} (refl : rel found found) (sorted : list.Pairwise rel)
    (answer : list.find? wanted = some found) (member : other ∈ list)
    (holds : wanted other = true) : rel found other := by
  induction sorted with
  | nil => cases member
  | @cons head tail ahead _ ih =>
    by_cases hit : wanted head = true
    · rw [List.find?_cons_of_pos hit] at answer
      obtain rfl := Option.some_inj.1 answer
      rcases List.mem_cons.1 member with rfl | behind
      · exact refl
      · exact ahead other behind
    · rw [List.find?_cons_of_neg hit] at answer
      rcases List.mem_cons.1 member with rfl | behind
      · exact absurd holds hit
      · exact ih answer behind

/-- The floor is the greatest boundary at or before the offset. -/
theorem isGreatest_floor (hay : Haystack) (pos : Nat) :
    IsGreatest {place | hay.isBoundary place = true ∧ place ≤ min pos hay.size}
      (hay.floor pos) := by
  unfold floor
  split
  · next beyond =>
    rw [Nat.min_eq_right beyond]
    exact ⟨⟨hay.isBoundary_size, Nat.le_refl _⟩, fun place given => given.2⟩
  · next inside =>
    rw [Nat.min_eq_left (Nat.le_of_not_le inside)]
    obtain ⟨start, boundary, -, start_le, behind, near⟩ :=
      exists_isBoundary_around (Nat.lt_of_not_le inside)
    have listed : ∀ place, pos - 3 ≤ place → place ≤ pos →
        place ∈ [pos, pos - 1, pos - 2, pos - 3] := by
      intro place from_le le
      simp only [List.mem_cons, List.not_mem_nil, or_false]
      omega
    cases found : [pos, pos - 1, pos - 2, pos - 3].find? hay.isBoundary with
    | none =>
      have member := listed start (by omega) start_le
      exact absurd boundary (List.find?_eq_none.1 found start member)
    | some place =>
      have down : [pos, pos - 1, pos - 2, pos - 3].Pairwise (· ≥ ·) := by
        simp
        omega
      have greatest : ∀ other, pos - 3 ≤ other → other ≤ pos →
          hay.isBoundary other = true → place ≥ other := fun other from_le le holds =>
        rel_of_find?_eq_some (Nat.le_refl place) down found (listed other from_le le) holds
      have member := List.mem_of_find?_eq_some found
      simp only [List.mem_cons, List.not_mem_nil, or_false] at member
      refine ⟨⟨List.find?_some found, ?_⟩, ?_⟩
      · rw [Option.getD_some]
        omega
      · rintro other ⟨holds, le⟩
        rw [Option.getD_some]
        rcases Nat.lt_or_ge other (pos - 3) with before | from_le
        · omega
        · exact greatest other from_le le holds

/-- The ceiling is the least boundary at or after the offset. -/
theorem isLeast_ceil (hay : Haystack) (pos : Nat) :
    IsLeast {place | hay.isBoundary place = true ∧ min pos hay.size ≤ place}
      (hay.ceil pos) := by
  unfold ceil
  split
  · next beyond =>
    rw [Nat.min_eq_right beyond]
    exact ⟨⟨hay.isBoundary_size, Nat.le_refl _⟩, fun place given => given.2⟩
  · next inside =>
    rw [Nat.min_eq_left (Nat.le_of_not_le inside)]
    obtain ⟨start, boundary, boundary', start_le, behind, near⟩ :=
      exists_isBoundary_around (Nat.lt_of_not_le inside)
    have listed : ∀ place, pos ≤ place → place ≤ pos + 3 →
        place ∈ [pos, pos + 1, pos + 2, pos + 3] := by
      intro place from_le le
      simp only [List.mem_cons, List.not_mem_nil, or_false]
      omega
    -- the character around the offset starts there, or ends among the next four
    obtain ⟨near, from_le, le, holds⟩ :
        ∃ near, pos ≤ near ∧ near ≤ pos + 3 ∧ hay.isBoundary near = true := by
      rcases Nat.lt_or_eq_of_le start_le with before | rfl
      · exact ⟨hay.next start, by omega, by omega, boundary'⟩
      · exact ⟨start, by omega, by omega, boundary⟩
    cases found : [pos, pos + 1, pos + 2, pos + 3].find? hay.isBoundary with
    | none => exact absurd holds (List.find?_eq_none.1 found near (listed near from_le le))
    | some place =>
      have up : [pos, pos + 1, pos + 2, pos + 3].Pairwise (· ≤ ·) := by simp
      have least : ∀ other, pos ≤ other → other ≤ pos + 3 →
          hay.isBoundary other = true → place ≤ other := fun other from_le le holds =>
        rel_of_find?_eq_some (Nat.le_refl place) up found (listed other from_le le) holds
      have member := List.mem_of_find?_eq_some found
      simp only [List.mem_cons, List.not_mem_nil, or_false] at member
      refine ⟨⟨List.find?_some found, ?_⟩, ?_⟩
      · rw [Option.getD_some]
        omega
      · rintro other ⟨holds', from_le'⟩
        rw [Option.getD_some]
        rcases Nat.lt_or_ge (pos + 3) other with beyond | le'
        · omega
        · exact least other from_le' le' holds'

theorem isBoundary_floor (hay : Haystack) (pos : Nat) : hay.isBoundary (hay.floor pos) = true :=
  (hay.isGreatest_floor pos).1.1

theorem isBoundary_ceil (hay : Haystack) (pos : Nat) : hay.isBoundary (hay.ceil pos) = true :=
  (hay.isLeast_ceil pos).1.1

theorem floor_le (hay : Haystack) (pos : Nat) : hay.floor pos ≤ pos :=
  Nat.le_trans (hay.isGreatest_floor pos).1.2 (Nat.min_le_left ..)

theorem le_ceil (le : pos ≤ hay.size) : pos ≤ hay.ceil pos := by
  have reach := (hay.isLeast_ceil pos).1.2
  rwa [Nat.min_eq_left le] at reach

/-- The ceiling goes past no boundary from the offset on. -/
theorem ceil_le {place : Nat} (boundary : hay.isBoundary place = true) (le : pos ≤ place) :
    hay.ceil pos ≤ place :=
  (hay.isLeast_ceil pos).2 ⟨boundary, Nat.le_trans (Nat.min_le_left ..) le⟩

/-- So there is no boundary in between. -/
theorem noneBelow_ceil {wanted : Nat → Prop} : hay.NoneBelow pos (hay.ceil pos) wanted :=
  fun _ boundary from_le lt => absurd (ceil_le boundary from_le) (Nat.not_le.2 lt)

theorem floor_eq_self (boundary : hay.isBoundary pos = true) : hay.floor pos = pos := by
  have le := le_size_of_isBoundary boundary
  exact Nat.le_antisymm (hay.floor_le pos)
    ((hay.isGreatest_floor pos).2 ⟨boundary, Nat.le_min.2 ⟨Nat.le_refl pos, le⟩⟩)

theorem ceil_eq_self (boundary : hay.isBoundary pos = true) : hay.ceil pos = pos :=
  Nat.le_antisymm (ceil_le boundary (Nat.le_refl pos)) (le_ceil (le_size_of_isBoundary boundary))

end PatternSearch.Haystack
