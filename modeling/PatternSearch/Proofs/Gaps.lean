import Mathlib.Order.Nat
import PatternSearch.Proofs.Derivation
import PatternSearch.Proofs.FirstMatch

/-!
# Literals with gaps between them

Literals with a wildcard before each but the first are what one writes to find an opening mark, a
separator and a closing mark. To try them is to try, for every end of the first gap, every end of
the second one, and so on. A reader who takes each literal where it stands next, and never looks
back, comes to the same end: if the literals can be found in their order at all, they can be found
behind the first place of each.

- `Haystack.InTurn`: literals that stand in their order, each where it stands next.
- `Haystack.InTurn.exists_of_le`: from an earlier offset they can be taken, too, as nothing is lost
  by taking a literal early.
- `Pattern.evalAll_gapped_eq_success_iff`: the patterns end where the last literal does that is
  taken so.
- `Sequence.gapped_found_in_turn`: a search finds the first place of the first literal from where
  the others can be taken in turn; with one gap, a whole scope matches if it begins with the one
  literal and ends with the other.
-/

namespace PatternSearch

variable {hay : Haystack} {limit pos start stop : Nat} {literal : Text} {others : List Text}
  {ending : Ending} {choices : List Nat}

/-! ## One literal after the other -/

namespace Haystack

/-- The literals stand in their order from `pos` on, each at the first place behind the one before
it, and the last one ends at `stop`. -/
inductive InTurn (hay : Haystack) (limit : Nat) : List Text → Nat → Nat → Prop where
  | nil {pos : Nat} : InTurn hay limit [] pos pos
  | cons {literal : Text} {rest : List Text} {pos start stop : Nat} :
    IsLeast {place | pos ≤ place ∧ hay.Occurs limit literal place} start →
    InTurn hay limit rest (start + Text.byteSize literal) stop →
    InTurn hay limit (literal :: rest) pos stop

/-- If a literal stands somewhere, there is a first place. -/
theorem Occurs.exists_isLeast (occurs : hay.Occurs limit literal start) (le : pos ≤ start) :
    ∃ first ≤ start,
      IsLeast {place | pos ≤ place ∧ hay.Occurs limit literal place} first := by
  classical
  have somewhere : ∃ place, pos ≤ place ∧ hay.Occurs limit literal place :=
    ⟨start, le, occurs⟩
  exact ⟨Nat.find somewhere, Nat.find_min' somewhere ⟨le, occurs⟩,
    Nat.isLeast_find somewhere⟩

namespace InTurn

/-- What can be taken from an offset on can be taken from an earlier one on, and ends no later. -/
theorem exists_of_le (inTurn : hay.InTurn limit others pos stop) (le : start ≤ pos) :
    ∃ stop' ≤ stop, hay.InTurn limit others start stop' := by
  induction inTurn generalizing start with
  | nil => exact ⟨start, le, .nil⟩
  | @cons literal rest pos place stop least _ ih =>
    obtain ⟨⟨from_le, occurs⟩, -⟩ := least
    obtain ⟨place', place_le, least'⟩ := occurs.exists_isLeast (Nat.le_trans le from_le)
    obtain ⟨stop', stop_le, inTurn'⟩ :=
      ih (Nat.add_le_add_right place_le (Text.byteSize literal))
    exact ⟨stop', stop_le, .cons least' inTurn'⟩

/-- The literals lead on, and stay within the limit. -/
theorem bounds (inTurn : hay.InTurn limit others pos stop) (le : pos ≤ limit) :
    pos ≤ stop ∧ stop ≤ limit := by
  induction inTurn with
  | nil => exact ⟨Nat.le_refl _, le⟩
  | cons least _ ih =>
    obtain ⟨⟨from_le, occurs⟩, -⟩ := least
    obtain ⟨behind, le_limit⟩ := ih occurs.2
    exact ⟨by omega, le_limit⟩

end InTurn

end Haystack

/-! ## The patterns -/

namespace Pattern

/-- Each of the literals with a wildcard before it. -/
def gapped : List Text → List (Pattern Id)
  | [] => []
  | literal :: rest => .any :: .text [literal] .exact :: gapped rest

/-- Literals with wildcards before them never offend behind a text. -/
theorem firstOffence?_gapped (index : Nat) (others : List Text) :
    firstOffence? index (some .text) (gapped others) = none := by
  induction others generalizing index with
  | nil => rfl
  | cons literal rest ih => exact ih (index + 2)

/-- A derivation that begins with a literal takes it where it stands. -/
theorem derives_text_exact_iff {rest : List (Pattern Id)} :
    (∃ choices, Derives hay limit ending (.text [literal] .exact :: rest) start choices stop) ↔
      hay.Occurs limit literal start ∧
        ∃ choices,
          Derives hay limit ending rest (start + Text.byteSize literal) choices stop := by
  constructor
  · rintro ⟨choices, derives⟩
    cases derives with
    | @text _ _ _ literal' _ _ _ index choices at_index covers le derives =>
      obtain rfl := List.mem_singleton.1 (List.mem_of_getElem? at_index)
      obtain ⟨occurs, rfl⟩ := Haystack.covers_exact_and_le_iff.1 ⟨covers, le⟩
      exact ⟨occurs, choices, derives⟩
  · rintro ⟨occurs, choices, derives⟩
    exact ⟨0 :: choices, .text rfl occurs.covers occurs.2 derives⟩

/-- Literals that are found in their order at all can be taken in turn. -/
theorem Derives.exists_inTurn
    (derives : Derives hay limit .anywhere (gapped others) pos choices stop) :
    ∃ stop', hay.InTurn limit others pos stop' := by
  induction others generalizing pos choices with
  | nil => exact ⟨pos, .nil⟩
  | cons literal rest ih =>
    cases derives with
    | @any _ _ gap _ choices _ _ _ derives =>
      obtain ⟨occurs, choices, derives⟩ := derives_text_exact_iff.1 ⟨choices, derives⟩
      obtain ⟨stop', inTurn⟩ := ih derives
      -- the first place of the literal is as good as the one behind the gap
      obtain ⟨first, le, least⟩ := occurs.exists_isLeast (Nat.le_add_right pos gap)
      obtain ⟨stop'', -, inTurn'⟩ := inTurn.exists_of_le (Nat.add_le_add_right le _)
      exact ⟨stop'', .cons least inTurn'⟩

/-- Behind a literal, a derivation that comes first takes it as it is. -/
theorem DerivesFirst.text_exact {rest : List (Pattern Id)} (occurs : hay.Occurs limit literal start)
    (first : DerivesFirst hay limit ending rest (start + Text.byteSize literal) choices stop) :
    DerivesFirst hay limit ending (.text [literal] .exact :: rest) start (0 :: choices) stop :=
  .text_singleton occurs.covers occurs.2 first

/-- To take literals in turn is to choose the shortest gaps. -/
theorem derivesFirst_of_inTurn (inTurn : hay.InTurn limit others pos stop) :
    ∃ choices, DerivesFirst hay limit .anywhere (gapped others) pos choices stop := by
  induction inTurn with
  | @nil pos =>
    refine ⟨[], .done nofun, fun choices' stop' derives' => ?_⟩
    cases derives'
    exact ComeFirst.refl []
  | @cons literal rest pos place stop least _ ih =>
    obtain ⟨choices, first⟩ := ih
    obtain ⟨⟨from_le, occurs⟩, least⟩ := least
    obtain ⟨gap, rfl⟩ := Nat.exists_eq_add_of_le from_le
    refine ⟨gap :: 0 :: choices,
      .any nofun occurs.isBoundary occurs.le_limit (.text_exact occurs first)
      fun gap' choices' stop' _ derives' => ?_⟩
    obtain ⟨occurs', -⟩ := derives_text_exact_iff.1 ⟨choices', derives'⟩
    have le := least ⟨Nat.le_add_right pos gap', occurs'⟩
    omega

/-- To try the literals with wildcards before them settles where they are found. -/
theorem settlesAfter_gapped (limitBoundary : hay.isBoundary limit = true) (others : List Text) :
    SettlesAfter hay limit ending (gapped others) := by
  induction others with
  | nil => exact fun _ _ _ => settles_nil
  | cons literal rest ih =>
    have after : SettlesAfter hay limit ending (.text [literal] .exact :: gapped rest) :=
      fun mid _ _ => settles_text ih limitBoundary
    intro mid boundary le
    exact settles_any after nofun (fun _ _ _ => evalAll_text_ne_abort) limitBoundary boundary le

/-- A literal and others with wildcards before them end where the others do that are taken in turn
behind it. -/
theorem evalAll_gapped_eq_success_iff (limitBoundary : hay.isBoundary limit = true) :
    (evalAll (.text [literal] .exact :: gapped others) hay start limit .anywhere).run =
        .success stop ↔
      hay.Occurs limit literal start ∧
        hay.InTurn limit others (start + Text.byteSize literal) stop := by
  have settles : Settles hay limit .anywhere (.text [literal] .exact :: gapped others) start
      (evalAll (.text [literal] .exact :: gapped others) hay start limit .anywhere).run :=
    settles_text (settlesAfter_gapped limitBoundary others) limitBoundary
  rw [settles.eq_success_iff]
  constructor
  · rintro ⟨choices, first⟩
    obtain ⟨occurs, choices', derives⟩ := derives_text_exact_iff.1 ⟨choices, first.derives⟩
    obtain ⟨stop', inTurn⟩ := derives.exists_inTurn
    obtain ⟨choices'', first'⟩ := derivesFirst_of_inTurn inTurn
    -- both are first derivations of the whole
    obtain rfl := first.unique (.text_exact occurs first')
    exact ⟨occurs, inTurn⟩
  · rintro ⟨occurs, inTurn⟩
    obtain ⟨choices, first⟩ := derivesFirst_of_inTurn inTurn
    exact ⟨0 :: choices, .text_exact occurs first⟩

end Pattern

/-! ## A scope with a literal at either end -/

/-- A text begins with one literal and ends with another, with room for both, exactly if there is
something, or nothing, between the two. -/
theorem Text.exists_between_iff {text first last : Text} :
    (first <+: text ∧ last <:+ text ∧ byteSize first + byteSize last ≤ byteSize text) ↔
      ∃ between, text = first ++ (between ++ last) := by
  constructor
  · rintro ⟨⟨rest, rfl⟩, ⟨front, same⟩, room⟩
    obtain ⟨between, rfl⟩ : ∃ between, front = first ++ between := by
      refine exists_append_of_le same.symm ?_
      have := congrArg byteSize same
      simp at this room
      omega
    exact ⟨between, by rw [← same, List.append_assoc]⟩
  · rintro ⟨between, rfl⟩
    refine ⟨List.prefix_append _ _, ?_, ?_⟩
    · exact ⟨first ++ between, List.append_assoc ..⟩
    · simp

/-- Two literals with a gap between them make up all from a boundary to the limit exactly if what
stands there begins with the one and ends with the other. -/
theorem Pattern.exists_evalAll_gap_iff {first last : Text}
    (limitBoundary : hay.isBoundary limit = true) :
    (∃ stop, (evalAll (.text [first] .exact :: gapped [last]) hay start limit .atLimit).run =
        .success stop) ↔
      ∃ between, hay.slice? start limit = some (first ++ (between ++ last)) := by
  have settles : Settles hay limit .atLimit (.text [first] .exact :: gapped [last]) start
      (evalAll (.text [first] .exact :: gapped [last]) hay start limit .atLimit).run :=
    settles_text (settlesAfter_gapped limitBoundary [last]) limitBoundary
  rw [settles.exists_success_iff]
  constructor
  · rintro ⟨choices, stop, derives⟩
    obtain ⟨occurs, choices, derives⟩ := derives_text_exact_iff.1 ⟨choices, derives⟩
    cases derives with
    | @any _ _ gap _ choices _ boundary _ derives =>
      obtain ⟨occurs', choices, derives⟩ := derives_text_exact_iff.1 ⟨choices, derives⟩
      cases derives with
      | done reach =>
        have window' := occurs'.1
        rw [reach rfl] at window'
        obtain ⟨between, window⟩ :=
          Haystack.exists_slice? occurs.covers.isBoundary_stop boundary (Nat.le_add_right _ gap)
        exact ⟨between, Haystack.slice?_eq_some_append_iff.2 ⟨_, occurs.1,
          Haystack.slice?_eq_some_append_iff.2 ⟨_, window, window'⟩⟩⟩
  · rintro ⟨between, window⟩
    obtain ⟨mid, window, rest⟩ := Haystack.slice?_eq_some_append_iff.1 window
    obtain ⟨place, gap, window'⟩ := Haystack.slice?_eq_some_append_iff.1 rest
    obtain ⟨-, -, -, -, reach⟩ := Haystack.slice?_eq_some_iff.1 rest
    obtain ⟨-, -, -, -, rfl⟩ := Haystack.slice?_eq_some_iff.1 gap
    have le : mid ≤ limit := by omega
    have covers := Haystack.covers_exact_iff.2 window
    have covers' := Haystack.covers_exact_iff.2 window'
    refine ⟨[0, Text.byteSize between, 0], limit, .text rfl covers le ?_⟩
    refine .any nofun covers'.isBoundary_start covers'.le ?_
    exact .text rfl covers' (Nat.le_refl limit) (.done fun _ => rfl)

/-! ## Sequences -/

namespace Sequence

/-- A literal, and others with wildcards before them. -/
def gapped (first : Text) (others : List Text) : Sequence Id where
  patterns := .text [first] .exact :: Pattern.gapped others
  valid := Pattern.firstOffence?_gapped 1 others

/-- Such a sequence matches where its first literal stands and the others can be taken in turn. -/
theorem matchesTo_gapped_iff {first : Text} (limitBoundary : hay.isBoundary limit = true) :
    (gapped first others).MatchesTo hay limit start stop ↔
      hay.Occurs limit first start ∧
        hay.InTurn limit others (start + Text.byteSize first) stop := by
  have ends_iff : (Pattern.evalAll (gapped first others).patterns hay start limit .anywhere).run =
      .success stop ↔ _ := Pattern.evalAll_gapped_eq_success_iff limitBoundary
  rw [MatchesTo, eval_eq_evalAll, ends_iff]
  constructor
  · exact fun matches_ => matches_.1
  · rintro ⟨occurs, inTurn⟩
    obtain ⟨behind, le_limit⟩ := inTurn.bounds occurs.2
    exact ⟨⟨occurs, inTurn⟩, Nat.le_trans (Nat.le_add_right ..) behind, le_limit⟩

/-- **Literals with gaps are found in turn**: a search for a literal that is not empty and others
with wildcards before them finds the first of its places from where the others, each taken where it
stands next, can all be taken, and the match ends where the last of them does; there is no match
only if there is no such place. A literal, a wildcard and another literal match all of a scope
exactly if it begins with the one and ends with the other and has room for both. -/
theorem gapped_found_in_turn (first : Text) (others : List Text) (nonempty : first ≠ [])
    (scope : Scope) :
    (∀ found, ((gapped first others).find? scope).run = some found ↔
      found.haystack = scope.haystack ∧
      IsLeast {place | scope.first ≤ place ∧ scope.haystack.Occurs scope.limit first place ∧
        ∃ stop, scope.haystack.InTurn scope.limit others (place + Text.byteSize first) stop}
        found.start ∧
      scope.haystack.InTurn scope.limit others (found.start + Text.byteSize first) found.stop) ∧
    (((gapped first others).find? scope).run = none ↔
      ∀ place, scope.first ≤ place → scope.haystack.Occurs scope.limit first place →
        ∀ stop,
          ¬ scope.haystack.InTurn scope.limit others (place + Text.byteSize first) stop) ∧
    ∀ last, ((gapped first [last]).isMatch scope).run = true ↔
      ∃ text, scope.haystack.slice? scope.first scope.limit = some text ∧
        first <+: text ∧ last <:+ text ∧
        Text.byteSize first + Text.byteSize last ≤ Text.byteSize text := by
  have matches_iff : ∀ place, (gapped first others).MatchesAt scope.haystack scope.limit place ↔
      scope.haystack.Occurs scope.limit first place ∧
        ∃ stop, scope.haystack.InTurn scope.limit others (place + Text.byteSize first) stop := by
    intro place
    simp only [MatchesAt, matchesTo_gapped_iff scope.isBoundary_limit, exists_and_left]
  have placed : ∀ place, (gapped first others).MatchesAt scope.haystack scope.limit place →
      scope.haystack.isBoundary place = true ∧ place < scope.limit := by
    intro place matches_
    obtain ⟨occurs, -⟩ := (matches_iff place).1 matches_
    exact ⟨occurs.isBoundary, occurs.lt_limit nonempty⟩
  refine ⟨fun found => ?_, ?_, fun last => ?_⟩
  · rw [find?_eq_iff_firstMatch, FirstMatch.some_iff_isLeast placed]
    simp only [matches_iff, matchesTo_gapped_iff scope.isBoundary_limit]
    constructor
    · rintro ⟨haystack, least, -, inTurn⟩
      exact ⟨haystack, least, inTurn⟩
    · rintro ⟨haystack, least, inTurn⟩
      exact ⟨haystack, least, least.1.2.1, inTurn⟩
  · rw [find?_eq_iff_firstMatch, FirstMatch.none_iff_forall placed]
    simp only [matches_iff, not_and, not_exists]
  · rw [isMatch_eq_true_iff]
    have whole_iff : (∃ stop, ((gapped first [last]).eval scope.haystack scope.first scope.limit
        .atLimit).run = .success stop) ↔ _ :=
      Pattern.exists_evalAll_gap_iff scope.isBoundary_limit
    rw [whole_iff]
    simp only [Text.exists_between_iff]
    constructor
    · rintro ⟨between, window⟩
      exact ⟨_, window, between, rfl⟩
    · rintro ⟨text, window, between, rfl⟩
      exact ⟨between, window⟩

/-- An `a` and two `b` behind it, in `bébabéb`: the search passes over the `b` in front, the `b`
are taken in turn from behind the `a`, and `bébabéb` begins and ends with a `b`. -/
theorem gapped_found_in_turn_letters :
    let hay : Haystack := { text := ['b', 'é', 'b', 'a', 'b', 'é', 'b'] }
    let scope := Scope.full hay
    ((gapped ['a'] [['b'], ['b']]).find? scope).run = some ⟨hay, 4, 9⟩ ∧
      hay.InTurn scope.limit [['b'], ['b']] 5 9 ∧
      ((gapped ['b'] [['b']]).isMatch scope).run = true := by
  intro hay scope
  have found : ((gapped ['a'] [['b'], ['b']]).find? scope).run = some ⟨hay, 4, 9⟩ := by
    decide +kernel
  have window : hay.slice? scope.first scope.limit = some hay.text := by decide +kernel
  obtain ⟨some_iff, -, -⟩ := gapped_found_in_turn ['a'] [['b'], ['b']] (by decide) scope
  obtain ⟨-, -, whole_iff⟩ := gapped_found_in_turn ['b'] [['b']] (by decide) scope
  obtain ⟨-, -, inTurn⟩ := (some_iff ⟨hay, 4, 9⟩).1 found
  exact ⟨found, inTurn,
    (whole_iff ['b']).2 ⟨hay.text, window, by decide, by decide, by decide⟩⟩

end Sequence

end PatternSearch
