import PatternSearch.Haystack
import PatternSearch.Text.Case

/-!
# Literals in a haystack

A literal stands at an offset if the text between that offset and a limit begins with it. Both
offsets have to be boundaries, in this order, and the part of the haystack that agrees with the
literal may be longer or shorter in bytes than the literal.

- `Haystack.literalEnd?` is where a literal that stands at an offset ends.
- `Haystack.run` is the longest row of repetitions of a literal.
-/

namespace PatternSearch.Haystack

/-- Where `literal` ends if it stands at `pos` and ends by `limit`. -/
def literalEnd? (hay : Haystack) (casing : Casing) (limit pos : Nat) (literal : Text) :
    Option Nat := do
  let rest ← hay.from? pos
  let length ← Text.prefixSize? casing.key rest literal
  if hay.isBoundary limit ∧ pos + length ≤ limit then some (pos + length) else none

/-- A literal that stands at an offset ends at or after it, within the limit. -/
theorem literalEnd?_bounds {hay : Haystack} {casing : Casing} {limit pos stop : Nat}
    {literal : Text} (h : hay.literalEnd? casing limit pos literal = some stop) :
    pos ≤ stop ∧ stop ≤ limit := by
  simp only [literalEnd?, Option.bind_eq_bind, Option.bind_eq_some_iff] at h
  obtain ⟨rest, -, length, -, h⟩ := h
  split at h
  · cases h
    omega
  · cases h

/-- A literal that is not empty ends behind its start. -/
theorem lt_of_literalEnd? {hay : Haystack} {casing : Casing} {limit pos stop : Nat} {literal : Text}
    (nonempty : literal ≠ []) (h : hay.literalEnd? casing limit pos literal = some stop) :
    pos < stop := by
  simp only [literalEnd?, Option.bind_eq_bind, Option.bind_eq_some_iff] at h
  obtain ⟨rest, -, length, agree, h⟩ := h
  have some_bytes := Text.prefixSize?_pos agree nonempty
  split at h
  · cases h
    omega
  · cases h

/-- A literal stands at an offset exactly if the slice up to the limit begins with a part that
agrees with it, and it ends where that part does. -/
theorem literalEnd?_eq_some_iff {hay : Haystack} {casing : Casing} {limit pos stop : Nat}
    {literal : Text} :
    hay.literalEnd? casing limit pos literal = some stop ↔
      ∃ part rest, hay.slice? pos limit = some (part ++ rest) ∧
        pos + Text.byteSize part = stop ∧ part.map casing.key = literal.map casing.key := by
  simp only [literalEnd?, Option.bind_eq_bind, Option.bind_eq_some_iff]
  constructor
  · rintro ⟨behind, cut, length, agree, h⟩
    split at h
    · next inside =>
      obtain ⟨part, rest, rfl, rfl, keys⟩ := Text.prefixSize?_eq_some_iff.1 agree
      -- the limit splits what stands behind the part
      obtain ⟨front, whole, size⟩ := from?_eq_some_iff.1 cut
      obtain ⟨upto, beyond, again, reach⟩ := isBoundary_iff.1 inside.1
      have longer : Text.byteSize (front ++ part) ≤ Text.byteSize upto := by simp; omega
      obtain ⟨between, rfl⟩ : ∃ between, upto = front ++ part ++ between :=
        Text.exists_append_of_le (by rw [← again, whole, List.append_assoc]) longer
      refine ⟨part, between, slice?_eq_some_iff.2 ⟨front, beyond, by simp [again], size, ?_⟩,
        ?_, keys⟩
      · simp at reach
        simp
        omega
      · cases h
        rfl
    · cases h
  · rintro ⟨part, rest, window, rfl, keys⟩
    obtain ⟨front, beyond, whole, size, reach⟩ := slice?_eq_some_iff.1 window
    refine ⟨part ++ rest ++ beyond, ?_, Text.byteSize part, ?_, ?_⟩
    · exact from?_eq_some_iff.2 ⟨front, whole, size⟩
    · exact Text.prefixSize?_eq_some_iff.2 ⟨part, rest ++ beyond, by simp, rfl, keys⟩
    · rw [if_pos]
      refine ⟨isBoundary_iff.2 ⟨front ++ (part ++ rest), beyond, by simp [whole], ?_⟩, ?_⟩
      · simp at reach
        simp
        omega
      · simp at reach
        omega

/-- The longest row of repetitions of `literal` from `pos` on that ends by `limit`: how many there
are and where the last one ends. An empty literal is never repeated. -/
def run (hay : Haystack) (casing : Casing) (limit : Nat) (literal : Text) (pos : Nat) :
    Nat × Nat :=
  match hay.literalEnd? casing limit pos literal with
  | some stop =>
    if pos < stop ∧ stop ≤ limit then
      let (count, last) := hay.run casing limit literal stop
      (count + 1, last)
    else (0, pos)
  | none => (0, pos)
termination_by limit - pos

end PatternSearch.Haystack
