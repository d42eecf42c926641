import PatternSearch.Pattern.Eval
import PatternSearch.Proofs.AsciiSearch
import PatternSearch.Search.Lead

/-!
# Leads skip failing offsets only

A lead is searched for instead of trying every offset. That is sound for two reasons, each stated on
its own: the search for a lead leaves out no boundary where the lead fits, and the lead fits
wherever one of the literals stands (`Lead.fits_of_standsAt`). Where no literal stands, trying the
literals backtracks (`Pattern.eval_text_eq_backtrack`).

- `Lead.finds_candidate?`: from a boundary on, the search finds the first boundary where the lead
  fits; for literals it does so from any offset on (`Lead.finds_candidate?_literals`).
- `Lead.candidate?_letter_inside`: from inside a character, a letter is found at once.
- `Lead.noneBelow_candidate?`: so no boundary before a candidate fits, wherever the search begins.
-/

namespace PatternSearch

variable {m : Type → Type} {hay : Haystack} {pos limit : Nat}

/-- One of the literals stands at the offset and ends by the limit. -/
def Haystack.StandsAt (hay : Haystack) (casing : Casing) (limit : Nat) (literals : List Text)
    (pos : Nat) : Prop :=
  ∃ literal ∈ literals, ∃ stop, hay.literalEnd? casing limit pos literal = some stop

/-- Where no literal stands, trying the literals backtracks, whatever follows them. -/
theorem Pattern.eval_text_eq_backtrack [Monad m] {literals : List Text} {casing : Casing}
    (missing : ¬ hay.StandsAt casing limit literals pos) (next : Continuation m) :
    (Pattern.text literals casing).eval hay pos limit next = pure .backtrack := by
  have nowhere : literals.filterMap (hay.literalEnd? casing limit pos) = [] := by
    rw [List.filterMap_eq_nil_iff]
    intro literal member
    cases found : hay.literalEnd? casing limit pos literal with
    | none => rfl
    | some stop => exact absurd ⟨literal, member, stop, found⟩ missing
  show firstSuccess _ (literals.filterMap _) = _
  rw [nowhere]
  rfl

namespace Lead

/-- The offsets that a lead leaves to be tried. -/
def Fits (lead : Lead) (hay : Haystack) (limit pos : Nat) : Prop :=
  match lead with
  | .literals alternatives => hay.StandsAt .exact limit alternatives pos
  | .letter byte => hay.MayFoldAt byte pos

/-- The search for literals finds the first boundary where one of them stands, from any offset on:
it begins at the next boundary. -/
theorem finds_candidate?_literals (alternatives : List Text)
    (limitBoundary : hay.isBoundary limit = true) (le : pos ≤ limit) :
    hay.Finds pos limit ((literals alternatives).Fits hay limit)
      ((literals alternatives).candidate? hay limit pos) := by
  have finds := Haystack.finds_firstBelow?
    (fun start => alternatives.any fun literal =>
      (hay.literalEnd? .exact limit start literal).isSome)
    limitBoundary (hay.isBoundary_ceil pos) (Haystack.ceil_le limitBoundary le)
  have same : (fun start => (alternatives.any fun literal =>
      (hay.literalEnd? .exact limit start literal).isSome) = true) =
      Fits (.literals alternatives) hay limit := by
    funext start
    simp [Fits, Haystack.StandsAt, Option.isSome_iff_exists]
  rw [same] at finds
  have inside : pos ≤ hay.size := Nat.le_trans le (Haystack.le_size_of_isBoundary limitBoundary)
  exact finds.skip Haystack.noneBelow_ceil (Haystack.le_ceil inside)

/-- From a boundary on, the search for a lead finds the first boundary where it fits. -/
theorem finds_candidate? (lead : Lead) (limitBoundary : hay.isBoundary limit = true)
    (boundary : hay.isBoundary pos = true) (le : pos ≤ limit) :
    hay.Finds pos limit (lead.Fits hay limit) (lead.candidate? hay limit pos) := by
  cases lead with
  | literals alternatives => exact finds_candidate?_literals alternatives limitBoundary le
  | letter byte => exact Haystack.finds_findAsciiFolded? byte limitBoundary boundary le

/-! ### From any offset

A search may go on inside a character, where a caller's own pattern has put the end of a match.
-/

/-- The candidate lies between the offset and the limit. -/
theorem candidate?_bounds {lead : Lead} {start : Nat} (inside : limit ≤ hay.size)
    (le : pos ≤ limit) (answer : lead.candidate? hay limit pos = some start) :
    pos ≤ start ∧ start < limit := by
  cases lead with
  | literals alternatives =>
    have from_le : pos ≤ hay.ceil pos := Haystack.le_ceil (Nat.le_trans le inside)
    obtain ⟨ceil_le, lt⟩ := Haystack.firstBelow?_bounds answer
    exact ⟨Nat.le_trans from_le ceil_le, lt⟩
  | letter byte =>
    obtain ⟨index, found, rfl⟩ := Option.map_eq_some_iff.1 answer
    rw [Text.findAsciiFolded?_eq_findIdx?] at found
    have below : index < (hay.bytesBetween pos limit).length :=
      (List.findIdx?_eq_some_iff_getElem.1 found).1
    rw [Haystack.bytesBetween, List.length_take] at below
    omega

/-- A lead fits at boundaries only. -/
theorem isBoundary_of_fits {lead : Lead} (fits : lead.Fits hay limit pos) :
    hay.isBoundary pos = true := by
  cases lead with
  | literals alternatives =>
    obtain ⟨literal, -, stop, ends⟩ := fits
    obtain ⟨part, rest, window, -⟩ := Haystack.literalEnd?_eq_some_iff.1 ends
    exact (Haystack.isBoundary_of_slice? window).1
  | letter byte =>
    obtain ⟨c, rest, cut, -⟩ := fits
    exact Option.isSome_iff_exists.2 ⟨c :: rest, cut⟩

/-- Literals are looked for from the next boundary on. -/
theorem candidate?_literals_ceil (alternatives : List Text) (hay : Haystack) (limit pos : Nat) :
    (literals alternatives).candidate? hay limit (hay.ceil pos) =
      (literals alternatives).candidate? hay limit pos := by
  show hay.firstBelow? limit _ (hay.ceil (hay.ceil pos)) = hay.firstBelow? limit _ (hay.ceil pos)
  rw [Haystack.ceil_eq_self (hay.isBoundary_ceil pos)]

/-- A byte inside a character is a candidate for every letter. -/
theorem candidate?_letter_inside (byte : UInt8) (inside : limit ≤ hay.size) (lt : pos < limit)
    (between : ¬ hay.isBoundary pos = true) :
    (letter byte).candidate? hay limit pos = some pos := by
  have missing : Text.dropBytes? hay.text pos = none := by
    rw [Haystack.isBoundary, Bool.not_eq_true, Option.isSome_eq_false_iff,
      Option.isNone_iff_eq_none] at between
    rw [← Haystack.from?_eq]
    exact between
  have within : pos < Text.byteSize hay.text := by
    rw [← hay.size_eq]
    exact Nat.lt_of_lt_of_le lt inside
  obtain ⟨b, rest, left, outside⟩ := Text.exists_drop_bytes within missing
  obtain ⟨further, rfl⟩ := Nat.exists_eq_add_of_lt lt
  show (Text.findAsciiFolded? (hay.bytesBetween pos (pos + further + 1)) byte).map (pos + ·) = _
  rw [Haystack.bytesBetween, left, show pos + further + 1 - pos = further + 1 by omega,
    List.take_succ_cons, Text.findAsciiFolded?_eq_findIdx?, List.findIdx?_cons, Text.mayFold,
      outside]
  rfl

/-- No boundary before the candidate fits, and none at all if there is no candidate. -/
theorem noneBelow_candidate? (lead : Lead) (limitBoundary : hay.isBoundary limit = true)
    (le : pos ≤ limit) :
    hay.NoneBelow pos ((lead.candidate? hay limit pos).getD limit) (lead.Fits hay limit) := by
  have of_finds : ∀ {answer}, hay.Finds pos limit (lead.Fits hay limit) answer →
      hay.NoneBelow pos (answer.getD limit) (lead.Fits hay limit) := by
    intro answer finds
    cases answer with
    | some start => exact Haystack.IsFirst.noneBelow finds
    | none => exact finds
  cases lead with
  | literals alternatives =>
    exact of_finds (finds_candidate?_literals alternatives limitBoundary le)
  | letter byte =>
    by_cases boundary : hay.isBoundary pos = true
    · exact of_finds (finds_candidate? _ limitBoundary boundary le)
    · -- from inside a character there is nothing to skip
      have lt : pos < limit := Nat.lt_of_le_of_ne le fun same => boundary (same ▸ limitBoundary)
      rw [candidate?_letter_inside byte (Haystack.le_size_of_isBoundary limitBoundary) lt boundary]
      exact Haystack.noneBelow_of_ge (Nat.le_refl pos)

/-! ### Where a lead fits -/

/-- The shared letter is what every literal's first character folds to. -/
theorem of_sharedLetter?_eq_some {literals : List Text} {byte : UInt8} {c : Char} {rest : Text}
    (shared : sharedLetter? literals = some byte) (member : c :: rest ∈ literals) :
    byte = UInt8.ofNat (Text.foldChar c).toNat := by
  unfold sharedLetter? at shared
  have listed : Text.foldChar c ∈
      literals.filterMap fun literal => literal.head?.map Text.foldChar :=
    List.mem_filterMap.2 ⟨c :: rest, member, rfl⟩
  split at shared
  · cases shared
  · next first others heads =>
    rw [heads] at listed
    split at shared
    · next same =>
      rw [Bool.and_eq_true, List.all_eq_true] at same
      rcases List.mem_cons.1 listed with eq | behind
      · rw [eq]
        exact (Option.some_inj.1 shared).symm
      · rw [eq_of_beq (same.1 _ behind)]
        exact (Option.some_inj.1 shared).symm
    · cases shared

/-- A lead fits wherever one of the literals stands that it was made of. -/
theorem fits_of_standsAt {literals : List Text} {casing : Casing} {lead : Lead}
    (made : of? (.text literals casing : Pattern m) = some lead)
    (stands : hay.StandsAt casing limit literals pos) : lead.Fits hay limit pos := by
  unfold of? at made
  dsimp only at made
  split at made
  · cases made
  · next usable =>
    cases casing with
    | exact =>
      obtain rfl := Option.some_inj.1 made
      exact stands
    | folded =>
      obtain ⟨byte, shared, rfl⟩ := Option.map_eq_some_iff.1 made
      obtain ⟨literal, member, stop, found⟩ := stands
      simp only [Haystack.literalEnd?, Option.bind_eq_bind, Option.bind_eq_some_iff] at found
      obtain ⟨behind, cut, length, agree, -⟩ := found
      obtain ⟨part, rest, rfl, -, keys⟩ := Text.prefixSize?_eq_some_iff.1 agree
      cases literal with
      | nil =>
        simp only [Bool.or_eq_true, List.any_eq_true, not_or] at usable
        exact absurd ⟨[], member, rfl⟩ usable.2
      | cons d literal =>
        cases part with
        | nil => cases keys
        | cons c part =>
          -- the characters that begin the part and the literal have one folded form
          obtain ⟨same, -⟩ := List.cons.inj keys
          refine ⟨c, part ++ rest, cut, fun ascii => ?_⟩
          rw [of_sharedLetter?_eq_some shared member]
          exact Text.mayFold_of_foldChar_eq ascii same

end Lead

end PatternSearch
