import PatternSearch.Proofs.Occurrence

/-!
# Boundaries counted in characters

The boundaries of a haystack are as many as the front parts of its text, so that they can be
counted: the boundary of index `n` stands behind the first `n` characters. Where a literal stands is
then a question about the keys of the characters only, whatever their sizes.

- `Haystack.boundaryAt`: the boundary behind a number of characters; there are no others
  (`exists_boundaryAt`), and they are in order (`boundaryAt_le_iff`).
- `Haystack.covers_boundaryAt_iff` and `Haystack.literalEnd?_boundaryAt`: a literal stands at a
  boundary exactly if as many keys as it has characters are its keys.
-/

namespace PatternSearch

/-- A front part of a text is known by its size. -/
theorem Text.eq_take_of_byteSize {t front rest : Text} {count : Nat} (split : t = front ++ rest)
    (size : byteSize front = byteSize (t.take count)) : front = t.take count := by
  have again : front ++ rest = t.take count ++ t.drop count := by
    rw [List.take_append_drop, split]
  exact (append_inj_of_byteSize again size).1

namespace Haystack

variable {hay : Haystack} {casing : Casing} {literal : Text} {pos stop index last : Nat}

/-! ## The boundary of an index -/

/-- The boundary behind the first `index` characters, or the end of the text if there are fewer. -/
def boundaryAt (hay : Haystack) (index : Nat) : Nat :=
  Text.byteSize (hay.text.take index)

/-- In `aéb`, the `é` takes two bytes. -/
example : [0, 1, 2, 3].map (boundaryAt { text := ['a', 'é', 'b'] }) = [0, 1, 3, 4] := by decide

@[simp] theorem boundaryAt_zero (hay : Haystack) : hay.boundaryAt 0 = 0 := rfl

/-- There is no boundary behind that of the last character. -/
theorem boundaryAt_of_length_le (le : hay.text.length ≤ index) :
    hay.boundaryAt index = hay.size := by
  rw [boundaryAt, List.take_of_length_le le, size_eq]

@[simp] theorem boundaryAt_length (hay : Haystack) : hay.boundaryAt hay.text.length = hay.size :=
  boundaryAt_of_length_le (Nat.le_refl _)

theorem isBoundary_boundaryAt (hay : Haystack) (index : Nat) :
    hay.isBoundary (hay.boundaryAt index) = true :=
  isBoundary_iff.2
    ⟨hay.text.take index, hay.text.drop index, (List.take_append_drop ..).symm, rfl⟩

/-- Every boundary has an index. -/
theorem exists_boundaryAt (boundary : hay.isBoundary pos = true) :
    ∃ index ≤ hay.text.length, pos = hay.boundaryAt index := by
  obtain ⟨front, rest, split, rfl⟩ := isBoundary_iff.1 boundary
  refine ⟨front.length, ?_, ?_⟩
  · rw [split, List.length_append]
    exact Nat.le_add_right ..
  · rw [boundaryAt, split, List.take_left]

/-- Some more characters take some more bytes. -/
theorem boundaryAt_add (hay : Haystack) (index count : Nat) :
    hay.boundaryAt (index + count) =
      hay.boundaryAt index + Text.byteSize ((hay.text.drop index).take count) := by
  rw [boundaryAt, List.take_add, Text.byteSize_append, boundaryAt]

/-- The boundaries are in the order of their indices. -/
theorem boundaryAt_le_iff (inside : index ≤ hay.text.length) :
    hay.boundaryAt index ≤ hay.boundaryAt last ↔ index ≤ last := by
  constructor
  · intro le
    refine Nat.le_of_not_lt fun before => ?_
    obtain ⟨further, rfl⟩ := Nat.exists_eq_add_of_le (Nat.le_of_lt before)
    rw [boundaryAt_add] at le
    -- there is a character between the two boundaries, and it takes a byte
    have none : (hay.text.drop last).take further = [] := Text.byteSize_eq_zero.1 (by omega)
    have length := congrArg List.length none
    rw [List.length_take, List.length_drop, List.length_nil] at length
    omega
  · intro le
    obtain ⟨further, rfl⟩ := Nat.exists_eq_add_of_le le
    rw [boundaryAt_add]
    exact Nat.le_add_right ..

/-! ## Literals -/

/-- A literal stands at a boundary if the keys behind it begin with those of the literal, and it
ends as many characters further on. -/
theorem covers_boundaryAt_iff :
    hay.Covers casing literal (hay.boundaryAt index) stop ↔
      ((hay.text.map casing.key).drop index).take literal.length = literal.map casing.key ∧
        stop = hay.boundaryAt (index + literal.length) := by
  constructor
  · rintro ⟨part, window, keys⟩
    obtain ⟨front, rest, split, size, reach⟩ := slice?_eq_some_iff.1 window
    obtain rfl := Text.eq_take_of_byteSize split size
    have behind : hay.text.drop index = part ++ rest :=
      List.append_cancel_left ((List.take_append_drop index hay.text).trans split)
    have length : part.length = literal.length := by
      have := congrArg List.length keys
      rwa [List.length_map, List.length_map] at this
    rw [← List.map_drop, ← List.map_take, boundaryAt_add, behind, ← length, List.take_left]
    exact ⟨keys, reach.symm⟩
  · rintro ⟨keys, rfl⟩
    rw [← List.map_drop, ← List.map_take] at keys
    refine ⟨(hay.text.drop index).take literal.length, slice?_eq_some_iff.2 ?_, keys⟩
    refine ⟨hay.text.take index, (hay.text.drop index).drop literal.length, ?_, rfl, ?_⟩
    · rw [List.take_append_drop, List.take_append_drop]
    · rw [boundaryAt_add]

/-- The end of a literal, told by the keys of the text. -/
theorem literalEnd?_boundaryAt (inside : index ≤ hay.text.length) :
    hay.literalEnd? casing (hay.boundaryAt last) (hay.boundaryAt index) literal =
      if ((hay.text.map casing.key).drop index).take literal.length = literal.map casing.key ∧
          index + literal.length ≤ last then
        some (hay.boundaryAt (index + literal.length))
      else none := by
  refine Option.ext fun stop => ?_
  rw [literalEnd?_eq_some_iff_covers (hay.isBoundary_boundaryAt last), covers_boundaryAt_iff]
  -- the literal that stands there ends within the text
  have short :
      ((hay.text.map casing.key).drop index).take literal.length = literal.map casing.key →
      index + literal.length ≤ hay.text.length := by
    intro keys
    have length := congrArg List.length keys
    rw [List.length_take, List.length_drop, List.length_map, List.length_map] at length
    omega
  constructor
  · rintro ⟨⟨keys, rfl⟩, le⟩
    rw [if_pos ⟨keys, (boundaryAt_le_iff (short keys)).1 le⟩]
  · intro found
    split at found
    · next fits =>
      obtain rfl := Option.some_inj.1 found
      exact ⟨⟨fits.1, rfl⟩, (boundaryAt_le_iff (short fits.1)).2 fits.2⟩
    · cases found

end Haystack

end PatternSearch
