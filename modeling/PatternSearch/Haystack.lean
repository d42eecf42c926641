import PatternSearch.Text.Basic

/-!
# Haystack

A haystack is a text to be searched, with a table that answers in one step what the text is from an
offset on. The table is a function of the text, so a haystack is no more than its text
(`Haystack.ext_text`), and every statement about offsets can be read on the list of characters
(`Haystack.from?_eq_some_iff`).

- `Haystack.isBoundary` tells the offsets between characters from those inside one.
- `Haystack.floor`, `Haystack.ceil` and `Haystack.next` go to a boundary near an offset.
- `Haystack.slice?` is the text between two boundaries.
-/

namespace PatternSearch

/-- A text with the table of what follows each offset. -/
structure Haystack where
  text : Text
  /-- The text from each offset on; `none` for the offsets inside a character. -/
  suffixes : Array (Option Text) := (Text.suffixes text).toArray
  suffixes_eq : suffixes = (Text.suffixes text).toArray := by rfl

namespace Haystack

/-- A string as a haystack. -/
def ofString (s : String) : Haystack where
  text := s.toList

/-- A haystack is determined by its text. -/
theorem ext_text {a b : Haystack} (h : a.text = b.text) : a = b := by
  obtain ⟨text, suffixes, rfl⟩ := a
  obtain ⟨_, suffixes', rfl⟩ := b
  cases h
  rfl

instance : DecidableEq Haystack := fun a b =>
  if h : a.text = b.text then isTrue (ext_text h) else isFalse fun same => h (congrArg _ same)

/-! ## Offsets -/

/-- The number of bytes. -/
def size (hay : Haystack) : Nat :=
  hay.suffixes.size - 1

theorem size_eq (hay : Haystack) : hay.size = Text.byteSize hay.text := by
  rw [size, hay.suffixes_eq, List.size_toArray, Text.length_suffixes, Nat.add_sub_cancel]

/-- The text from an offset on, if the offset is a boundary. -/
def from? (hay : Haystack) (pos : Nat) : Option Text :=
  hay.suffixes[pos]?.bind id

theorem from?_eq (hay : Haystack) (pos : Nat) : hay.from? pos = Text.dropBytes? hay.text pos := by
  rw [from?, hay.suffixes_eq, List.getElem?_toArray, Text.getElem?_suffixes]

/-- What is from an offset on is the second part of a split of the text at the offset. -/
theorem from?_eq_some_iff {hay : Haystack} {pos : Nat} {rest : Text} :
    hay.from? pos = some rest ↔ ∃ front, hay.text = front ++ rest ∧
      Text.byteSize front = pos := by
  rw [from?_eq]
  exact Text.dropBytes?_eq_some_iff

/-- What is left behind a boundary is as long as the distance to the end. -/
theorem size_of_from? {hay : Haystack} {pos : Nat} {rest : Text} (h : hay.from? pos = some rest) :
    pos + Text.byteSize rest = hay.size := by
  obtain ⟨front, split, rfl⟩ := from?_eq_some_iff.1 h
  rw [size_eq, split, Text.byteSize_append]

/-- Whether a character starts or the text ends at the offset. -/
def isBoundary (hay : Haystack) (pos : Nat) : Bool :=
  (hay.from? pos).isSome

/-- A boundary splits the text. -/
theorem isBoundary_iff {hay : Haystack} {pos : Nat} :
    hay.isBoundary pos = true ↔
      ∃ front rest, hay.text = front ++ rest ∧ Text.byteSize front = pos := by
  rw [isBoundary, Option.isSome_iff_exists]
  constructor
  · rintro ⟨rest, h⟩
    obtain ⟨front, split, size⟩ := from?_eq_some_iff.1 h
    exact ⟨front, rest, split, size⟩
  · rintro ⟨front, rest, split, size⟩
    exact ⟨rest, from?_eq_some_iff.2 ⟨front, split, size⟩⟩

/-- A boundary lies within the text. -/
theorem le_size_of_isBoundary {hay : Haystack} {pos : Nat} (h : hay.isBoundary pos = true) :
    pos ≤ hay.size := by
  obtain ⟨front, rest, split, rfl⟩ := isBoundary_iff.1 h
  rw [size_eq, split, Text.byteSize_append]
  exact Nat.le_add_right ..

theorem isBoundary_zero (hay : Haystack) : hay.isBoundary 0 = true :=
  isBoundary_iff.2 ⟨[], hay.text, rfl, rfl⟩

theorem isBoundary_size (hay : Haystack) : hay.isBoundary hay.size = true :=
  isBoundary_iff.2 ⟨hay.text, [], by simp, hay.size_eq.symm⟩

/-! ## Boundaries near an offset

A character has at most four bytes, so of any four neighbouring offsets within the text one is a
boundary.
-/

/-- The last boundary at or before the offset; the end of the text for an offset past it. -/
def floor (hay : Haystack) (pos : Nat) : Nat :=
  if hay.size ≤ pos then hay.size
  else ([pos, pos - 1, pos - 2, pos - 3].find? hay.isBoundary).getD 0

/-- The first boundary at or after the offset; the end of the text for an offset past it. -/
def ceil (hay : Haystack) (pos : Nat) : Nat :=
  if hay.size ≤ pos then hay.size
  else ([pos, pos + 1, pos + 2, pos + 3].find? hay.isBoundary).getD hay.size

/-- The end of the character that starts at the offset; the end of the text if none does. -/
def next (hay : Haystack) (pos : Nat) : Nat :=
  match hay.from? pos with
  | some (c :: _) => pos + c.utf8Size
  | _ => hay.size

/-- Inside the two bytes of `é`, the floor is where it starts and the ceiling where it ends. -/
example : let hay : Haystack := { text := ['a', 'é', 'b'] }
    hay.floor 2 = 1 ∧ hay.ceil 2 = 3 ∧ hay.next 1 = 3 ∧ hay.next 2 = 4 := by decide

/-- Before the end of the text, there is a step to take. -/
theorem lt_next {hay : Haystack} {pos : Nat} (h : pos < hay.size) : pos < hay.next pos := by
  unfold next
  split
  · next c _ _ => have := c.utf8Size_pos; omega
  · exact h

/-- A step never leaves the text. -/
theorem next_le_size (hay : Haystack) (pos : Nat) : hay.next pos ≤ hay.size := by
  unfold next
  split
  · next c rest h => have := size_of_from? h; simp at this; omega
  · exact Nat.le_refl _

/-- A step always ends at a boundary. -/
theorem isBoundary_next (hay : Haystack) (pos : Nat) : hay.isBoundary (hay.next pos) = true := by
  unfold next
  split
  · next c rest h =>
    obtain ⟨front, split, rfl⟩ := from?_eq_some_iff.1 h
    exact isBoundary_iff.2 ⟨front ++ [c], rest, by simp [split], by simp⟩
  · exact hay.isBoundary_size

/-! ## Parts -/

/-- The text from `start` to `stop`, if these are boundaries in this order. -/
def slice? (hay : Haystack) (start stop : Nat) : Option Text :=
  if start ≤ stop then (hay.from? start).bind fun rest => Text.takeBytes? rest (stop - start)
  else none

/-- A slice is the middle of a split of the text at the two offsets. -/
theorem slice?_eq_some_iff {hay : Haystack} {start stop : Nat} {part : Text} :
    hay.slice? start stop = some part ↔
      ∃ front rest, hay.text = front ++ (part ++ rest) ∧ Text.byteSize front = start ∧
        start + Text.byteSize part = stop := by
  unfold slice?
  constructor
  · intro h
    split at h
    · next le =>
      obtain ⟨behind, cut, take⟩ := Option.bind_eq_some_iff.1 h
      obtain ⟨front, split, size⟩ := from?_eq_some_iff.1 cut
      obtain ⟨⟨rest, rfl⟩, length⟩ := Text.takeBytes?_eq_some_iff.1 take
      exact ⟨front, rest, split, size, by omega⟩
    · cases h
  · rintro ⟨front, rest, split, size, rfl⟩
    have cut : hay.from? start = some (part ++ rest) :=
      from?_eq_some_iff.2 ⟨front, split, size⟩
    rw [if_pos (Nat.le_add_right ..), cut, Option.bind_some, Nat.add_sub_cancel_left]
    exact Text.takeBytes?_eq_some_iff.2 ⟨⟨rest, rfl⟩, rfl⟩

/-- The ends of a slice are boundaries. -/
theorem isBoundary_of_slice? {hay : Haystack} {start stop : Nat} {part : Text}
    (window : hay.slice? start stop = some part) :
    hay.isBoundary start = true ∧ hay.isBoundary stop = true := by
  obtain ⟨front, rest, whole, rfl, rfl⟩ := slice?_eq_some_iff.1 window
  refine ⟨isBoundary_iff.2 ⟨front, part ++ rest, whole, rfl⟩, ?_⟩
  exact isBoundary_iff.2 ⟨front ++ part, rest, by simp [whole], by simp⟩

/-- Between any two boundaries in their order there is a slice. -/
theorem exists_slice? {hay : Haystack} {start stop : Nat} (boundary : hay.isBoundary start = true)
    (boundary' : hay.isBoundary stop = true) (le : start ≤ stop) :
    ∃ part, hay.slice? start stop = some part := by
  obtain ⟨front, rest, whole, rfl⟩ := isBoundary_iff.1 boundary
  obtain ⟨front', rest', whole', rfl⟩ := isBoundary_iff.1 boundary'
  obtain ⟨part, rfl⟩ : ∃ part, front' = front ++ part :=
    Text.exists_append_of_le (whole.symm.trans whole') le
  exact ⟨part, slice?_eq_some_iff.2 ⟨front, rest', by simp [whole'], rfl, by simp⟩⟩

/-- A text of two parts stands between two offsets exactly if the parts stand there one behind the
other. -/
theorem slice?_eq_some_append_iff {hay : Haystack} {start stop : Nat} {part part' : Text} :
    hay.slice? start stop = some (part ++ part') ↔
      ∃ mid, hay.slice? start mid = some part ∧ hay.slice? mid stop = some part' := by
  constructor
  · intro window
    obtain ⟨front, rest, whole, rfl, rfl⟩ := slice?_eq_some_iff.1 window
    refine ⟨Text.byteSize front + Text.byteSize part, ?_, ?_⟩
    · exact slice?_eq_some_iff.2 ⟨front, part' ++ rest, by simp [whole], rfl, rfl⟩
    · exact slice?_eq_some_iff.2 ⟨front ++ part, rest, by simp [whole], by simp,
        by simp [Nat.add_assoc]⟩
  · rintro ⟨mid, window, window'⟩
    obtain ⟨front, rest, whole, rfl, rfl⟩ := slice?_eq_some_iff.1 window
    obtain ⟨front', rest', whole', size, rfl⟩ := slice?_eq_some_iff.1 window'
    -- what stands before the second part is what stands before the first, and that part
    have same : front' ++ (part' ++ rest') = front ++ part ++ rest := by
      rw [← whole', whole, List.append_assoc]
    obtain ⟨rfl, -⟩ := Text.append_inj_of_byteSize same (by rw [Text.byteSize_append, size])
    refine slice?_eq_some_iff.2 ⟨front, rest', by simpa using whole', rfl, ?_⟩
    rw [Text.byteSize_append, Nat.add_assoc]

/-- The bytes from `start` to `stop`, which need not be boundaries. -/
def bytesBetween (hay : Haystack) (start stop : Nat) : List UInt8 :=
  ((Text.bytes hay.text).drop start).take (stop - start)

/-- The first offset below `limit` with the property, among `pos` and the places that one step after
another leads to. The walk ends where a step does not lead on, which is past the end of the text
only. -/
def firstBelow? (hay : Haystack) (limit : Nat) (wanted : Nat → Bool) (pos : Nat) : Option Nat :=
  if pos < limit then
    if wanted pos then some pos
    else if pos < hay.next pos then hay.firstBelow? limit wanted (hay.next pos)
    else none
  else none
termination_by limit - pos

end Haystack

end PatternSearch
