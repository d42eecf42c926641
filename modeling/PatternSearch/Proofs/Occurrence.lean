import PatternSearch.Pattern.Eval
import PatternSearch.Proofs.Boundary

/-!
# Where literals stand

What a literal and a repetition ask of the haystack, said of the haystack's text alone.

- `Haystack.Covers`: a literal stands between two offsets.
- `Haystack.Occurs`: the same for a literal whose case is taken as it is; it ends as many bytes
  behind its start as it has.
- `Haystack.Row`: copies of a literal stand one behind the other between two offsets.
- `Haystack.literalEnd?_eq_some_iff_covers`: `literalEnd?` finds where a literal that stands at an
  offset ends; there is one such place (`Covers.unique`). A literal of two parts ends where the
  second part ends behind the first (`literalEnd?_append`).
- `Haystack.longestRow_run`: `run` finds the row that cannot be made longer, which is one only
  (`LongestRow.unique`).
-/

namespace PatternSearch.Haystack

variable {hay : Haystack} {casing : Casing} {literal : Text} {limit start stop : Nat}

/-! ## One literal -/

/-- The literal stands in the haystack from `start` to `stop`. -/
def Covers (hay : Haystack) (casing : Casing) (literal : Text) (start stop : Nat) : Prop :=
  ∃ part, hay.slice? start stop = some part ∧ part.map casing.key = literal.map casing.key

/-- `literalEnd?` finds where the literal ends, if it ends by the limit. -/
theorem literalEnd?_eq_some_iff_covers (limitBoundary : hay.isBoundary limit = true) :
    hay.literalEnd? casing limit start literal = some stop ↔
      hay.Covers casing literal start stop ∧ stop ≤ limit := by
  rw [literalEnd?_eq_some_iff]
  constructor
  · rintro ⟨part, rest, window, rfl, keys⟩
    obtain ⟨front, beyond, whole, size, reach⟩ := slice?_eq_some_iff.1 window
    refine ⟨⟨part, slice?_eq_some_iff.2 ⟨front, rest ++ beyond, by simp [whole], size, rfl⟩,
      keys⟩, ?_⟩
    simp at reach
    omega
  · rintro ⟨⟨part, window, keys⟩, le⟩
    obtain ⟨front, behind, whole, rfl, reach⟩ := slice?_eq_some_iff.1 window
    obtain ⟨upto, beyond, again, rfl⟩ := isBoundary_iff.1 limitBoundary
    -- the limit splits what stands behind the part
    have longer : Text.byteSize (front ++ part) ≤ Text.byteSize upto := by
      rw [Text.byteSize_append]
      omega
    obtain ⟨between, rfl⟩ : ∃ between, upto = front ++ part ++ between :=
      Text.exists_append_of_le (by rw [← again, whole, List.append_assoc]) longer
    exact ⟨part, between, slice?_eq_some_iff.2 ⟨front, beyond, by simp [again], rfl, by simp⟩,
      reach, keys⟩

/-- It finds no end if the literal does not stand there, or not by the limit. -/
theorem literalEnd?_eq_none_iff_covers (limitBoundary : hay.isBoundary limit = true) :
    hay.literalEnd? casing limit start literal = none ↔
      ∀ stop ≤ limit, ¬ hay.Covers casing literal start stop := by
  rw [Option.eq_none_iff_forall_ne_some]
  constructor
  · intro missing stop le covers
    exact missing stop ((literalEnd?_eq_some_iff_covers limitBoundary).2 ⟨covers, le⟩)
  · intro missing stop found
    obtain ⟨covers, le⟩ := (literalEnd?_eq_some_iff_covers limitBoundary).1 found
    exact missing stop le covers

namespace Covers

theorem isBoundary_start (covers : hay.Covers casing literal start stop) :
    hay.isBoundary start = true := by
  obtain ⟨part, window, -⟩ := covers
  exact (isBoundary_of_slice? window).1

theorem isBoundary_stop (covers : hay.Covers casing literal start stop) :
    hay.isBoundary stop = true := by
  obtain ⟨part, window, -⟩ := covers
  exact (isBoundary_of_slice? window).2

theorem le (covers : hay.Covers casing literal start stop) : start ≤ stop := by
  obtain ⟨part, window, -⟩ := covers
  obtain ⟨-, -, -, -, reach⟩ := slice?_eq_some_iff.1 window
  omega

/-- A literal that is not empty takes at least a byte. -/
theorem lt (covers : hay.Covers casing literal start stop) (nonempty : literal ≠ []) :
    start < stop := by
  have ends := (literalEnd?_eq_some_iff_covers hay.isBoundary_size).2
    ⟨covers, le_size_of_isBoundary covers.isBoundary_stop⟩
  exact lt_of_literalEnd? nonempty ends

/-- A literal that stands at an offset ends at one place. -/
theorem unique {stop' : Nat} (covers : hay.Covers casing literal start stop)
    (covers' : hay.Covers casing literal start stop') : stop = stop' := by
  have ends := (literalEnd?_eq_some_iff_covers hay.isBoundary_size).2
    ⟨covers, le_size_of_isBoundary covers.isBoundary_stop⟩
  have ends' := (literalEnd?_eq_some_iff_covers hay.isBoundary_size).2
    ⟨covers', le_size_of_isBoundary covers'.isBoundary_stop⟩
  exact Option.some_inj.1 (ends.symm.trans ends')

end Covers

/-! ## One literal, as it is -/

/-- The literal itself stands at `start`, all of it before the limit. -/
def Occurs (hay : Haystack) (limit : Nat) (literal : Text) (start : Nat) : Prop :=
  hay.slice? start (start + Text.byteSize literal) = some literal ∧
    start + Text.byteSize literal ≤ limit

/-- With its case taken as it is, a literal stands where the text is the literal. -/
theorem covers_exact_iff : hay.Covers .exact literal start stop ↔
    hay.slice? start stop = some literal := by
  constructor
  · rintro ⟨part, window, keys⟩
    obtain rfl : part = literal := by simpa [Casing.key] using keys
    exact window
  · exact fun window => ⟨literal, window, rfl⟩

/-- Such a literal ends as many bytes behind its start as it has. -/
theorem covers_exact_and_le_iff :
    hay.Covers .exact literal start stop ∧ stop ≤ limit ↔
      hay.Occurs limit literal start ∧ stop = start + Text.byteSize literal := by
  rw [covers_exact_iff]
  constructor
  · rintro ⟨window, le⟩
    obtain ⟨-, -, -, -, rfl⟩ := slice?_eq_some_iff.1 window
    exact ⟨⟨window, le⟩, rfl⟩
  · rintro ⟨⟨window, le⟩, rfl⟩
    exact ⟨window, le⟩

namespace Occurs

theorem covers (occurs : hay.Occurs limit literal start) :
    hay.Covers .exact literal start (start + Text.byteSize literal) :=
  covers_exact_iff.2 occurs.1

theorem isBoundary (occurs : hay.Occurs limit literal start) : hay.isBoundary start = true :=
  occurs.covers.isBoundary_start

theorem le_limit (occurs : hay.Occurs limit literal start) : start ≤ limit :=
  Nat.le_trans (Nat.le_add_right ..) occurs.2

/-- A literal that is not empty begins before the limit. -/
theorem lt_limit (occurs : hay.Occurs limit literal start) (nonempty : literal ≠ []) :
    start < limit :=
  Nat.lt_of_lt_of_le (occurs.covers.lt nonempty) occurs.2

end Occurs

/-! ## Literals of two parts -/

/-- A literal of two parts stands where the second part stands behind the first. -/
theorem covers_append_iff {literal' : Text} :
    hay.Covers casing (literal ++ literal') start stop ↔
      ∃ mid, hay.Covers casing literal start mid ∧ hay.Covers casing literal' mid stop := by
  constructor
  · rintro ⟨whole, window, keys⟩
    rw [List.map_append] at keys
    obtain ⟨part, part', rfl, keys, keys'⟩ := List.map_eq_append_iff.1 keys
    obtain ⟨mid, window, window'⟩ := slice?_eq_some_append_iff.1 window
    exact ⟨mid, ⟨part, window, keys⟩, ⟨part', window', keys'⟩⟩
  · rintro ⟨mid, ⟨part, window, keys⟩, ⟨part', window', keys'⟩⟩
    refine ⟨part ++ part', slice?_eq_some_append_iff.2 ⟨mid, window, window'⟩, ?_⟩
    rw [List.map_append, List.map_append, keys, keys']

/-- Behind a literal of two parts, a search for its end looks for the end of the second part where
it finds that of the first. -/
theorem literalEnd?_append (hay : Haystack) (casing : Casing) (limit start : Nat)
    (literal literal' : Text) :
    hay.literalEnd? casing limit start (literal ++ literal') =
      (hay.literalEnd? casing limit start literal).bind
        fun mid => hay.literalEnd? casing limit mid literal' := by
  by_cases limitBoundary : hay.isBoundary limit = true
  · ext stop
    simp only [Option.bind_eq_some_iff, literalEnd?_eq_some_iff_covers limitBoundary,
      covers_append_iff]
    constructor
    · rintro ⟨⟨mid, covers, covers'⟩, le⟩
      exact ⟨mid, ⟨covers, Nat.le_trans covers'.le le⟩, covers', le⟩
    · rintro ⟨mid, ⟨covers, -⟩, covers', le⟩
      exact ⟨⟨mid, covers, covers'⟩, le⟩
  · -- nothing ends by a limit inside a character
    have nowhere : ∀ literal, hay.literalEnd? casing limit start literal = none := by
      intro literal
      refine Option.eq_none_iff_forall_ne_some.2 fun stop found => limitBoundary ?_
      obtain ⟨part, rest, window, -⟩ := literalEnd?_eq_some_iff.1 found
      exact (isBoundary_of_slice? window).2
    rw [nowhere, nowhere]
    rfl

/-! ## Rows of a literal -/

/-- `count` copies of the literal stand one behind the other from `start` to `stop`. -/
inductive Row (hay : Haystack) (casing : Casing) (literal : Text) :
    Nat → Nat → Nat → Prop where
  | nil (start : Nat) : Row hay casing literal 0 start start
  | cons {count start mid stop : Nat} : hay.Covers casing literal start mid →
    Row hay casing literal count mid stop → Row hay casing literal (count + 1) start stop

/-- A row that ends by the limit and has no further copy behind it that does, too. -/
structure LongestRow (hay : Haystack) (casing : Casing) (literal : Text) (limit count start
    stop : Nat) : Prop where
  row : hay.Row casing literal count start stop
  le_limit : stop ≤ limit
  last : ∀ further, further ≤ limit → ¬ hay.Covers casing literal stop further

namespace Row

variable {count : Nat}

theorem le (row : hay.Row casing literal count start stop) : start ≤ stop := by
  induction row with
  | nil start => exact Nat.le_refl start
  | cons covers _ ih => exact Nat.le_trans covers.le ih

theorem isBoundary_stop (boundary : hay.isBoundary start = true)
    (row : hay.Row casing literal count start stop) : hay.isBoundary stop = true := by
  induction row with
  | nil start => exact boundary
  | cons covers _ ih => exact ih covers.isBoundary_stop

end Row

/-- Every row that ends by the limit is the front part of the longest one. -/
theorem LongestRow.exists_rest {count count' stop' : Nat}
    (longest : hay.LongestRow casing literal limit count start stop)
    (row' : hay.Row casing literal count' start stop') (le_limit' : stop' ≤ limit) :
    ∃ further, count = count' + further ∧ hay.Row casing literal further stop' stop := by
  induction row' generalizing count with
  | nil start => exact ⟨count, (Nat.zero_add count).symm, longest.row⟩
  | cons covers' rest' ih =>
    obtain ⟨row, le_limit, last⟩ := longest
    cases row with
    | nil => exact absurd covers' (last _ (Nat.le_trans rest'.le le_limit'))
    | cons covers rest =>
      obtain rfl := covers.unique covers'
      obtain ⟨further, rfl, behind⟩ := ih ⟨rest, le_limit, last⟩ le_limit'
      exact ⟨further, Nat.add_right_comm .., behind⟩

/-- All longest rows from an offset on are the same. -/
theorem LongestRow.unique {count count' stop' : Nat}
    (longest : hay.LongestRow casing literal limit count start stop)
    (longest' : hay.LongestRow casing literal limit count' start stop') :
    count = count' ∧ stop = stop' := by
  obtain ⟨further, eq, rest⟩ := longest.exists_rest longest'.row longest'.le_limit
  obtain ⟨further', eq', -⟩ := longest'.exists_rest longest.row longest.le_limit
  -- each is the front part of the other
  obtain rfl : further = 0 := by omega
  cases rest with
  | nil => exact ⟨eq, rfl⟩

/-- `run` finds the longest row of a literal that is not empty. -/
theorem longestRow_run (limitBoundary : hay.isBoundary limit = true) (nonempty : literal ≠ [])
    (le : start ≤ limit) :
    hay.LongestRow casing literal limit (hay.run casing limit literal start).1 start
      (hay.run casing limit literal start).2 := by
  fun_induction run hay casing limit literal start with
  | case1 start mid found ahead count last eq ih =>
    have covers := ((literalEnd?_eq_some_iff_covers limitBoundary).1 found).1
    rw [eq] at ih
    obtain ⟨row, le_limit, last⟩ := ih ahead.2
    exact ⟨.cons covers row, le_limit, last⟩
  | case2 start mid found stuck =>
    obtain ⟨covers, mid_le⟩ := (literalEnd?_eq_some_iff_covers limitBoundary).1 found
    exact absurd ⟨covers.lt nonempty, mid_le⟩ stuck
  | case3 start missing =>
    refine ⟨.nil start, le, fun further further_le covers => ?_⟩
    have found := (literalEnd?_eq_some_iff_covers limitBoundary).2 ⟨covers, further_le⟩
    rw [missing] at found
    cases found

end PatternSearch.Haystack
