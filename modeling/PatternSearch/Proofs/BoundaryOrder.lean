import Mathlib.Data.Set.Function
import Mathlib.Logic.Function.Iterate
import Mathlib.Order.Bounds.Basic
import PatternSearch.Proofs.CharIndex

/-!
# The order of the boundaries

Every offset has a boundary on either side, and every boundary before the end has a next one. Going
down, going up and going on are three ways to get from an offset to a boundary, each with its own
idea of what is near; they agree wherever two of them answer the same question.

- `Haystack.monotone_floor`, `Haystack.monotone_ceil`: the boundaries on either side keep the order
  of the offsets.
- `Haystack.min_le_floor_add_three`: the one before is never more than three bytes away.
- `Haystack.floor_eq_ceil_iff`: they are the same at boundaries only, and inside a character one
  step apart (`Haystack.next_floor`).
- `Haystack.isLeast_next`: a step from a boundary leads to the next one. So the steps from the start
  lead to one boundary after another (`Haystack.next_iterate`), to all of them
  (`Haystack.bijOn_boundaryAt`).
- `Haystack.boundary_arithmetic`: all of this.
-/

namespace PatternSearch.Haystack

variable {hay : Haystack} {pos index : Nat}

/-! ## On either side of an offset -/

theorem monotone_floor (hay : Haystack) : Monotone hay.floor := by
  intro pos later le
  refine (hay.isGreatest_floor pos).mono (hay.isGreatest_floor later) ?_
  rintro place ⟨boundary, reach⟩
  exact ⟨boundary, by omega⟩

theorem monotone_ceil (hay : Haystack) : Monotone hay.ceil := by
  intro pos later le
  refine (hay.isLeast_ceil later).mono (hay.isLeast_ceil pos) ?_
  rintro place ⟨boundary, reach⟩
  exact ⟨boundary, by omega⟩

/-- To go down is to go back by three bytes at most. -/
theorem min_le_floor_add_three (hay : Haystack) (pos : Nat) :
    min pos hay.size ≤ hay.floor pos + 3 := by
  have greatest := (hay.isGreatest_floor pos).2
  rcases Nat.lt_or_ge pos hay.size with inside | beyond
  · obtain ⟨start, boundary, -, start_le, behind, near⟩ := exists_isBoundary_around inside
    have le : start ≤ hay.floor pos := greatest ⟨boundary, by omega⟩
    omega
  · have le : hay.size ≤ hay.floor pos := greatest ⟨hay.isBoundary_size, by omega⟩
    omega

/-- The two boundaries are one where the offset is a boundary itself. -/
theorem floor_eq_ceil_iff :
    hay.floor pos = hay.ceil pos ↔ hay.isBoundary (min pos hay.size) = true := by
  have below := (hay.isGreatest_floor pos).1.2
  have above := (hay.isLeast_ceil pos).1.2
  constructor
  · intro same
    have here : hay.floor pos = min pos hay.size := Nat.le_antisymm below (same ▸ above)
    rw [← here]
    exact hay.isBoundary_floor pos
  · intro boundary
    have floor_ge := (hay.isGreatest_floor pos).2 ⟨boundary, Nat.le_refl _⟩
    have ceil_le := (hay.isLeast_ceil pos).2 ⟨boundary, Nat.le_refl _⟩
    omega

/-! ## Steps -/

/-- A step from a boundary leads to the next one. -/
theorem isLeast_next (boundary : hay.isBoundary pos = true) (lt : pos < hay.size) :
    IsLeast {place | hay.isBoundary place = true ∧ pos < place} (hay.next pos) :=
  ⟨⟨hay.isBoundary_next pos, lt_next lt⟩,
    fun _ behind => next_le_of_lt boundary behind.1 behind.2⟩

/-- Inside a character, to go up is to go down and one step on. -/
theorem next_floor (lt : pos < hay.size) (between : ¬ hay.isBoundary pos = true) :
    hay.next (hay.floor pos) = hay.ceil pos := by
  have boundary := hay.isBoundary_floor pos
  have before : hay.floor pos < pos := by
    refine Nat.lt_of_le_of_ne (hay.floor_le pos) fun same => between ?_
    rw [← same]
    exact boundary
  have ahead : hay.floor pos < hay.next (hay.floor pos) := lt_next (Nat.lt_trans before lt)
  -- no boundary up to the offset lies behind its floor
  have behind : pos ≤ hay.next (hay.floor pos) := by
    refine Nat.le_of_not_lt fun early => ?_
    have le : hay.next (hay.floor pos) ≤ hay.floor pos :=
      (hay.isGreatest_floor pos).2 ⟨hay.isBoundary_next _, by omega⟩
    omega
  refine Nat.le_antisymm ?_ (ceil_le (hay.isBoundary_next _) behind)
  exact next_le_of_lt boundary (hay.isBoundary_ceil pos)
    (Nat.lt_of_lt_of_le before (le_ceil (Nat.le_of_lt lt)))

/-- A step takes one character, as long as there is one. -/
theorem next_boundaryAt (hay : Haystack) (index : Nat) :
    hay.next (hay.boundaryAt index) = hay.boundaryAt (index + 1) := by
  have cut : hay.from? (hay.boundaryAt index) = some (hay.text.drop index) :=
    from?_eq_some_iff.2 ⟨_, (List.take_append_drop index hay.text).symm, rfl⟩
  cases behind : hay.text.drop index with
  | nil =>
    have le : hay.text.length ≤ index := List.drop_eq_nil_iff.1 behind
    rw [behind] at cut
    rw [boundaryAt_of_length_le (Nat.le_succ_of_le le), next, cut]
  | cons c rest =>
    rw [behind] at cut
    rw [next_of_from? cut, boundaryAt_add, behind]
    rfl

/-- So many steps from the start take so many characters. -/
theorem next_iterate (hay : Haystack) (count : Nat) :
    hay.next^[count] 0 = hay.boundaryAt count := by
  induction count with
  | zero => rfl
  | succ count ih => rw [Function.iterate_succ_apply', ih, next_boundaryAt]

/-! ## All boundaries -/

theorem strictMonoOn_boundaryAt (hay : Haystack) :
    StrictMonoOn hay.boundaryAt (Set.Iic hay.text.length) := by
  intro index _ later inside lt
  exact Nat.lt_of_not_le fun le => Nat.not_lt.2 ((boundaryAt_le_iff inside).1 le) lt

/-- Each boundary has one index. -/
theorem bijOn_boundaryAt (hay : Haystack) :
    Set.BijOn hay.boundaryAt (Set.Iic hay.text.length) {place | hay.isBoundary place = true} := by
  refine ⟨fun index _ => hay.isBoundary_boundaryAt index, hay.strictMonoOn_boundaryAt.injOn, ?_⟩
  intro place boundary
  obtain ⟨index, inside, rfl⟩ := exists_boundaryAt boundary
  exact ⟨index, inside, rfl⟩

/-- **Boundary arithmetic**: the floor of an offset is the last boundary that is not behind it or
the end of the text, and at most three bytes away; its ceiling is the first one that is not before
it or the end. Both keep the order of offsets and leave boundaries alone, and they are the same
exactly at boundaries. A step from a boundary before the end leads to the next boundary. From inside
a character it leads to the end of the text, while one from the floor leads to the ceiling. The
steps from the start of the text lead to each of its boundaries once, in their order, and stay at
its end. -/
theorem boundary_arithmetic (hay : Haystack) :
    (∀ pos, IsGreatest {place | hay.isBoundary place = true ∧ place ≤ min pos hay.size}
        (hay.floor pos) ∧ min pos hay.size ≤ hay.floor pos + 3) ∧
    (∀ pos, IsLeast {place | hay.isBoundary place = true ∧ min pos hay.size ≤ place}
      (hay.ceil pos)) ∧
    Monotone hay.floor ∧ Monotone hay.ceil ∧
    (∀ pos, hay.floor (hay.floor pos) = hay.floor pos ∧
      hay.ceil (hay.ceil pos) = hay.ceil pos) ∧
    (∀ pos, hay.floor pos = hay.ceil pos ↔ hay.isBoundary (min pos hay.size) = true) ∧
    (∀ pos, hay.isBoundary pos = true → pos < hay.size →
      IsLeast {place | hay.isBoundary place = true ∧ pos < place} (hay.next pos)) ∧
    (∀ pos, pos < hay.size → ¬ hay.isBoundary pos = true →
      hay.next pos = hay.size ∧ hay.next (hay.floor pos) = hay.ceil pos) ∧
    Set.BijOn (fun count => hay.next^[count] 0) (Set.Iic hay.text.length)
      {place | hay.isBoundary place = true} ∧
    StrictMonoOn (fun count => hay.next^[count] 0) (Set.Iic hay.text.length) ∧
    ∀ count, hay.text.length ≤ count → hay.next^[count] 0 = hay.size := by
  have steps : (fun count => hay.next^[count] 0) = hay.boundaryAt := funext hay.next_iterate
  refine ⟨fun pos => ⟨hay.isGreatest_floor pos, hay.min_le_floor_add_three pos⟩,
    hay.isLeast_ceil, hay.monotone_floor, hay.monotone_ceil, fun pos => ⟨?_, ?_⟩,
    fun pos => floor_eq_ceil_iff, fun pos => isLeast_next,
    fun pos lt between => ⟨next_of_not_isBoundary between, next_floor lt between⟩,
    ?_, ?_, fun count le => ?_⟩
  · exact floor_eq_self (hay.isBoundary_floor pos)
  · exact ceil_eq_self (hay.isBoundary_ceil pos)
  · rw [steps]
    exact hay.bijOn_boundaryAt
  · rw [steps]
    exact hay.strictMonoOn_boundaryAt
  · rw [next_iterate]
    exact boundaryAt_of_length_le le

/-- In `a葬b`, where the second character takes the bytes 1 to 3, a step from 1 leads to 4 and one
from 3 to the end at 5; the steps from the start lead to 0, 1, 4 and 5. -/
theorem boundary_arithmetic_letters :
    let hay : Haystack := { text := ['a', '葬', 'b'] }
    IsLeast {place | hay.isBoundary place = true ∧ 1 < place} 4 ∧ hay.next 3 = 5 ∧
      hay.next (hay.floor 3) = 4 ∧ hay.floor 3 = 1 ∧
      Set.BijOn (fun count => hay.next^[count] 0) (Set.Iic 3)
        {place | hay.isBoundary place = true} ∧
      [0, 1, 2, 3].map (fun count => hay.next^[count] 0) = [0, 1, 4, 5] ∧ hay.next^[7] 0 = 5 := by
  intro hay
  obtain ⟨-, -, -, -, -, -, least, inside, all, -, stays⟩ := boundary_arithmetic hay
  obtain ⟨to_end, to_ceil⟩ := inside 3 (by decide) (by decide)
  exact ⟨least 1 (by decide) (by decide), to_end, to_ceil, by decide, all, by decide,
    stays 7 (by decide)⟩

end PatternSearch.Haystack
