import PatternSearch.Proofs.Boundary
import PatternSearch.Scope

/-!
# The window of a scope

A search may be asked for any two offsets: inside characters, past the end, the second before the
first. It goes from `Scope.first` to `Scope.limit`, its window: each end is moved inward to a
boundary. The two ends are rounded towards each other, so they may cross, if all that was asked for
lies inside one character or the offsets are the wrong way round; the window is empty then.
Otherwise it has the boundaries that were asked for, and no other.

- `Scope.isGreatest_limit`, `Scope.isLeast_first`: the ends of the window, as the last boundary
  before the end that was asked for and the first one of those that were (`Scope.askedPlaces`).
- `Scope.first_le_iff`: the boundaries of the window before its end are those from the given start
  on.
- `Scope.limit_eq`, `Scope.first_eq_min`: ends that are boundaries are not moved.
- `Scope.window_keeps_places`: the window as a whole.
-/

namespace PatternSearch.Scope

variable {scope : Scope} {hay : Haystack} {start stop : Nat}

/-! ## What is asked for -/

/-- The end that is asked for. -/
def askedStop (scope : Scope) : Nat :=
  scope.stop?.getD scope.haystack.size

/-- The boundaries that are asked for: those from the start to the end, as far as the text goes. -/
def askedPlaces (scope : Scope) : Set Nat :=
  {place | scope.haystack.isBoundary place = true ∧ scope.start ≤ place ∧
    place ≤ min scope.askedStop scope.haystack.size}

/-! ## The ends of the window -/

/-- The window ends at the last boundary that is not behind the end asked for. -/
theorem isGreatest_limit (scope : Scope) :
    IsGreatest {place | scope.haystack.isBoundary place = true ∧
      place ≤ min scope.askedStop scope.haystack.size} scope.limit :=
  scope.haystack.isGreatest_floor scope.askedStop

theorem isBoundary_limit (scope : Scope) : scope.haystack.isBoundary scope.limit = true :=
  scope.haystack.isBoundary_floor _

theorem isBoundary_first (scope : Scope) : scope.haystack.isBoundary scope.first = true := by
  unfold first
  rcases Nat.le_total (scope.haystack.ceil scope.start) scope.limit with le | ge
  · rw [Nat.min_eq_left le]
    exact scope.haystack.isBoundary_ceil _
  · rw [Nat.min_eq_right ge]
    exact scope.isBoundary_limit

theorem first_le_limit (scope : Scope) : scope.first ≤ scope.limit :=
  Nat.min_le_right ..

theorem limit_le_size (scope : Scope) : scope.limit ≤ scope.haystack.size :=
  Haystack.le_size_of_isBoundary scope.isBoundary_limit

/-- The end moves to the left. -/
theorem limit_le_stop (given : scope.stop? = some stop) : scope.limit ≤ stop := by
  unfold limit
  rw [given]
  exact scope.haystack.floor_le stop

/-- The boundaries of the scope before its last one are those from its start on. -/
theorem first_le_iff (scope : Scope) {place : Nat}
    (boundary : scope.haystack.isBoundary place = true) (lt : place < scope.limit) :
    scope.first ≤ place ↔ scope.start ≤ place := by
  have limit_le := scope.limit_le_size
  have reach := (scope.haystack.isLeast_ceil scope.start).1.2
  unfold first
  constructor
  · intro le
    omega
  · intro le
    exact Nat.le_trans (Nat.min_le_left ..) (Haystack.ceil_le boundary le)

/-- The start moves to the right, unless there is nothing to search. -/
theorem start_le_first (lt : scope.first < scope.limit) : scope.start ≤ scope.first :=
  (scope.first_le_iff scope.isBoundary_first lt).1 (Nat.le_refl _)

/-- If any boundary is asked for, the window begins at the first of them. -/
theorem isLeast_first (asked : scope.askedPlaces.Nonempty) :
    IsLeast scope.askedPlaces scope.first := by
  obtain ⟨place, boundary, from_le, le⟩ := asked
  have place_le : place ≤ scope.limit := scope.isGreatest_limit.2 ⟨boundary, le⟩
  have ceil_le : scope.haystack.ceil scope.start ≤ place := Haystack.ceil_le boundary from_le
  have first_eq : scope.first = scope.haystack.ceil scope.start :=
    Nat.min_eq_left (Nat.le_trans ceil_le place_le)
  rw [first_eq]
  constructor
  · have start_le : scope.start ≤ scope.haystack.size :=
      Nat.le_trans from_le (Haystack.le_size_of_isBoundary boundary)
    exact ⟨scope.haystack.isBoundary_ceil _, Haystack.le_ceil start_le, Nat.le_trans ceil_le le⟩
  · rintro other ⟨boundary', from_le', -⟩
    exact Haystack.ceil_le boundary' from_le'

/-- Otherwise it is empty, at its end. -/
theorem first_eq_limit (none : ¬ scope.askedPlaces.Nonempty) : scope.first = scope.limit := by
  rcases Nat.lt_or_eq_of_le scope.first_le_limit with lt | same
  · have within : scope.first ≤ min scope.askedStop scope.haystack.size :=
      Nat.le_trans (Nat.le_of_lt lt) scope.isGreatest_limit.1.2
    exact absurd ⟨scope.first, scope.isBoundary_first, start_le_first lt, within⟩ none
  · exact same

/-! ## Ends that are boundaries -/

/-- An end that is a boundary is not moved. -/
theorem limit_eq (boundary : scope.haystack.isBoundary scope.askedStop = true) :
    scope.limit = scope.askedStop :=
  Haystack.floor_eq_self boundary

/-- Nor is a start that is one, unless it is behind the end. -/
theorem first_eq_min (boundary : scope.haystack.isBoundary scope.start = true)
    (boundary' : scope.haystack.isBoundary scope.askedStop = true) :
    scope.first = min scope.start scope.askedStop := by
  rw [first, limit_eq boundary', Haystack.ceil_eq_self boundary]

/-- A whole haystack is searched from end to end. -/
theorem limit_full (hay : Haystack) : (full hay).limit = hay.size :=
  limit_eq hay.isBoundary_size

theorem first_full (hay : Haystack) : (full hay).first = 0 := by
  have first_eq : (full hay).first = min 0 hay.size :=
    first_eq_min hay.isBoundary_zero hay.isBoundary_size
  rw [first_eq, Nat.zero_min]

/-- The scope between two boundaries is searched from end to end. -/
theorem limit_ofRange (boundary : hay.isBoundary stop = true) :
    (ofRange hay start stop).limit = stop :=
  limit_eq boundary

/-- A start behind the end is moved to it. -/
theorem first_ofRange_eq_min (boundary : hay.isBoundary start = true)
    (boundary' : hay.isBoundary stop = true) :
    (ofRange hay start stop).first = min start stop :=
  first_eq_min boundary boundary'

theorem first_ofRange (boundary : hay.isBoundary start = true)
    (boundary' : hay.isBoundary stop = true) (le : start ≤ stop) :
    (ofRange hay start stop).first = start := by
  rw [first_ofRange_eq_min boundary boundary', Nat.min_eq_left le]

/-! ## The window -/

/-- **The ends of a scope are moved inward, and no boundary is lost**: whatever offsets are given,
the window goes from a boundary to a boundary within the text. It ends at the last boundary that is
not behind the given end, its boundaries before that are those from the given start on, and it
begins at the first boundary that was asked for, or is empty if there is none. Boundaries in their
order are left as they are, so the window of the window is the window. -/
theorem window_keeps_places (scope : Scope) :
    scope.first ≤ scope.limit ∧ scope.limit ≤ scope.haystack.size ∧
    scope.haystack.isBoundary scope.first = true ∧
    scope.haystack.isBoundary scope.limit = true ∧
    IsGreatest {place | scope.haystack.isBoundary place = true ∧
      place ≤ min scope.askedStop scope.haystack.size} scope.limit ∧
    (∀ place, scope.haystack.isBoundary place = true →
      (scope.first ≤ place ∧ place < scope.limit ↔
        scope.start ≤ place ∧ place < scope.limit)) ∧
    (scope.askedPlaces.Nonempty → IsLeast scope.askedPlaces scope.first) ∧
    (¬ scope.askedPlaces.Nonempty → scope.first = scope.limit) ∧
    (scope.haystack.isBoundary scope.start = true →
      scope.haystack.isBoundary scope.askedStop = true →
      scope.start ≤ scope.askedStop →
      scope.first = scope.start ∧ scope.limit = scope.askedStop) ∧
    (ofRange scope.haystack scope.first scope.limit).first = scope.first ∧
    (ofRange scope.haystack scope.first scope.limit).limit = scope.limit := by
  refine ⟨scope.first_le_limit, scope.limit_le_size, scope.isBoundary_first,
    scope.isBoundary_limit, scope.isGreatest_limit, fun place boundary => ?_, isLeast_first,
    first_eq_limit, ?_, ?_, ?_⟩
  · exact and_congr_left fun lt => scope.first_le_iff boundary lt
  · intro boundary boundary' le
    rw [first_eq_min boundary boundary', Nat.min_eq_left le]
    exact ⟨rfl, limit_eq boundary'⟩
  · exact first_ofRange scope.isBoundary_first scope.isBoundary_limit scope.first_le_limit
  · exact limit_ofRange scope.isBoundary_limit

/-- In `aéb`, where the `é` takes the bytes 1 and 2, from 2 to the end of the text only the `b` is
asked for. From 2 to 2 no boundary is, and the window is empty at 1. -/
theorem window_keeps_places_letters :
    let hay : Haystack := { text := ['a', 'é', 'b'] }
    let behind : Scope := { haystack := hay, start := 2 }
    let inside : Scope := ofRange hay 2 2
    IsLeast behind.askedPlaces 3 ∧ behind.limit = 4 ∧ ¬ inside.askedPlaces.Nonempty ∧
      inside.first = 1 ∧ inside.limit = 1 := by
  intro hay behind inside
  have asked : behind.askedPlaces.Nonempty := ⟨3, by decide, by decide, by decide⟩
  have none : ¬ inside.askedPlaces.Nonempty := by
    rintro ⟨place, boundary, from_le, le⟩
    obtain rfl : place = 2 := Nat.le_antisymm (Nat.le_trans le (Nat.min_le_left ..)) from_le
    exact absurd boundary (by decide)
  obtain ⟨-, -, -, -, -, -, first_asked, -⟩ := window_keeps_places behind
  obtain ⟨-, -, -, -, -, -, -, empty, -⟩ := window_keeps_places inside
  exact ⟨first_asked asked, by decide, none, empty none, by decide⟩

end PatternSearch.Scope
