import PatternSearch.Proofs.Enumeration

/-!
# Searching for all matches without a lead

A lead makes no difference to what one search from a boundary finds. A search for all matches goes
on where the last match ended, which a caller's own pattern may put inside a character. From there,
the plain search tries one offset and then leaves for the end of the text, where a step from no
boundary leads; so does the search with a letter for a lead, since every byte inside a character is
a candidate. A lead of literals leads to the next place where one of them stands, and the search
goes on from there.

- `Sequence.scan`: the plain search for all matches, which tries every offset that it comes to.
- `Sequence.findFrom?_inside`: a search from inside a character finds nothing if a lead fits at
  boundaries only and does not skip the offset.
- `Sequence.drop_toList_literals`: with literals for a lead, the iterator goes on from inside a
  character as from the next boundary.
- `Sequence.scan_eq_toList`: where each search of the iterator answers as one without a lead, the
  two lists are the same.
- `Sequence.scan_eq_cut`: the plain search finds all that the iterator finds, but, if there is a
  lead of literals, nothing behind the first match that ends inside a character.
-/

namespace PatternSearch

variable {sequence : Sequence Id} {hay : Haystack} {limit pos : Nat} {found : Interval}

/-! ## The plain search -/

/-- All matches from `pos` on, the sequence being tried at `pos` and at the places that one step
after another leads to. Behind a match the search goes on where the iterator does. Every step leads
on as long as the limit lies within the haystack. -/
def Sequence.scan (sequence : Sequence Id) (hay : Haystack) (limit pos : Nat) : List Interval :=
  if pos < limit then
    match (sequence.matchAt? hay limit pos).run with
    | some found =>
      if pos < found.resume then found :: sequence.scan hay limit found.resume else [found]
    | none => if pos < hay.next pos then sequence.scan hay limit (hay.next pos) else []
  else []
termination_by limit - pos

namespace Sequence

/-- A search is at its end at the limit. -/
theorem findFrom?_of_ge {lead? : Option Lead} (ge : limit ≤ pos) :
    (sequence.findFrom? lead? hay limit pos).run = none := by
  rw [findFrom?, if_neg (Nat.not_lt.2 ge)]
  rfl

/-- Without a lead, a match at the offset where the search begins is found. -/
theorem findFrom?_none_of_some (lt : pos < limit)
    (taken : (sequence.matchAt? hay limit pos).run = some found) :
    (sequence.findFrom? none hay limit pos).run = some found := by
  rw [findFrom?, if_pos lt]
  show (sequence.matchAt? hay limit pos >>= _).run = some found
  rw [Id.run_bind, taken]
  rfl

/-- Without a lead, an offset that does not match is left for the next one. -/
theorem findFrom?_none_of_none (inside : limit ≤ hay.size) (lt : pos < limit)
    (taken : (sequence.matchAt? hay limit pos).run = none) :
    (sequence.findFrom? none hay limit pos).run =
      (sequence.findFrom? none hay limit (hay.next pos)).run := by
  have ahead : pos < hay.next pos := Haystack.lt_next_of_le_size inside lt
  rw [findFrom?, if_pos lt]
  show (sequence.matchAt? hay limit pos >>= _).run = _
  rw [Id.run_bind, taken]
  dsimp only
  rw [if_pos ahead]

/-- The plain search finds one match after another as a search without a lead does. -/
theorem scan_eq (inside : limit ≤ hay.size) (pos : Nat) :
    sequence.scan hay limit pos =
      match (sequence.findFrom? none hay limit pos).run with
      | some found => found :: sequence.scan hay limit found.resume
      | none => [] := by
  induction distance : limit - pos using Nat.strongRecOn generalizing pos with
  | _ distance ih =>
    rw [scan]
    by_cases lt : pos < limit
    · rw [if_pos lt]
      cases taken : (sequence.matchAt? hay limit pos).run with
      | some found =>
        rw [findFrom?_none_of_some lt taken]
        have within := within_findFrom? inside (findFrom?_none_of_some lt taken)
        have ahead := (within.resume_bounds inside).1
        have from_le := within.first_le
        dsimp only
        rw [if_pos (by omega)]
      | none =>
        have ahead : pos < hay.next pos := Haystack.lt_next_of_le_size inside lt
        rw [findFrom?_none_of_none inside lt taken]
        dsimp only
        rw [if_pos ahead]
        exact ih (limit - hay.next pos) (by omega) (hay.next pos) rfl
    · rw [if_neg lt, findFrom?_of_ge (Nat.le_of_not_lt lt)]

/-! ## Where the searches agree -/

/-- If the searches from all offsets that the iterator comes to answer as searches without a lead,
its list is that of the plain search. -/
theorem scan_eq_toList (good : Nat → Prop) (inside : limit ≤ hay.size)
    (agree : ∀ pos, good pos → (sequence.findFrom? sequence.lead? hay limit pos).run =
      (sequence.findFrom? none hay limit pos).run)
    (keep : ∀ pos found, good pos →
      (sequence.findFrom? sequence.lead? hay limit pos).run = some found → good found.resume)
    (begin : good pos) :
    sequence.scan hay limit pos =
      (Matches.mk sequence sequence.lead? hay pos limit).toList.run := by
  refine Matches.toList_induction (motive := fun pos list =>
    good pos → sequence.scan hay limit pos = list) inside ?_ ?_ pos begin
  · intro pos answer begin
    rw [scan_eq inside, ← agree pos begin, answer]
  · intro pos found list answer same begin
    rw [scan_eq inside, ← agree pos begin, answer]
    exact congrArg (found :: ·) (same (keep pos found begin answer))

/-! ## Inside a character -/

/-- With a lead, matches start at boundaries only. -/
theorem isBoundary_of_matchesAt {lead : Lead} (made : sequence.lead? = some lead)
    (matches_ : sequence.MatchesAt hay limit pos) : hay.isBoundary pos = true :=
  Lead.isBoundary_of_fits (leadSound_lead? lead made pos matches_)

/-- A search from inside a character that does not skip the offset finds nothing if the sequence has
a lead. -/
theorem findFrom?_inside {lead? : Option Lead} {lead : Lead} (made : sequence.lead? = some lead)
    (limitBoundary : hay.isBoundary limit = true) (between : ¬ hay.isBoundary pos = true)
    (candidate : pos < limit → nextCandidate? lead? hay limit pos = some pos) :
    (sequence.findFrom? lead? hay limit pos).run = none := by
  have inside : limit ≤ hay.size := Haystack.le_size_of_isBoundary limitBoundary
  have fails : (sequence.matchAt? hay limit pos).run = none :=
    matchAt?_eq_none_iff.2 fun matches_ => between (isBoundary_of_matchesAt made matches_)
  rw [findFrom?]
  by_cases lt : pos < limit
  · rw [if_pos lt, candidate lt]
    dsimp only
    rw [Id.run_bind, fails]
    dsimp only
    rw [Haystack.next_of_not_isBoundary between, findFrom?, if_pos (Nat.lt_of_lt_of_le lt inside),
      if_neg (Nat.not_lt.2 inside)]
    rfl
  · rw [if_neg lt]
    rfl

/-- Without literals for a lead, every search answers as one without a lead. -/
theorem findFrom?_eq_none_lead (other : ∀ literals, sequence.lead? ≠ some (.literals literals))
    (limitBoundary : hay.isBoundary limit = true) (pos : Nat) :
    (sequence.findFrom? sequence.lead? hay limit pos).run =
      (sequence.findFrom? none hay limit pos).run := by
  by_cases boundary : hay.isBoundary pos = true
  · exact findFrom?_lead? limitBoundary boundary
  · have inside : limit ≤ hay.size := Haystack.le_size_of_isBoundary limitBoundary
    cases made : sequence.lead? with
    | none => rfl
    | some lead =>
      cases lead with
      | literals literals => exact absurd made (other literals)
      | letter byte =>
        have plain : (sequence.findFrom? none hay limit pos).run = none :=
          findFrom?_inside made limitBoundary boundary fun _ => rfl
        rw [plain]
        exact findFrom?_inside made limitBoundary boundary fun lt =>
          Lead.candidate?_letter_inside byte inside lt boundary

/-! ## On to the next literal -/

/-- Literals are looked for from the next boundary on, and so is a match of a sequence whose lead
they are. -/
theorem findFrom?_literals_ceil {literals : List Text} (limitBoundary : hay.isBoundary limit = true)
    (le : pos ≤ limit) :
    (sequence.findFrom? (some (.literals literals)) hay limit (hay.ceil pos)).run =
      (sequence.findFrom? (some (.literals literals)) hay limit pos).run := by
  have inside : limit ≤ hay.size := Haystack.le_size_of_isBoundary limitBoundary
  have from_le : pos ≤ hay.ceil pos := Haystack.le_ceil (Nat.le_trans le inside)
  have ceil_le : hay.ceil pos ≤ limit := Haystack.ceil_le limitBoundary le
  have same : nextCandidate? (some (.literals literals)) hay limit (hay.ceil pos) =
      nextCandidate? (some (.literals literals)) hay limit pos :=
    Lead.candidate?_literals_ceil literals hay limit pos
  rcases Nat.lt_or_eq_of_le ceil_le with lt | at_limit
  · rw [findFrom?, if_pos lt, findFrom?, if_pos (Nat.lt_of_le_of_lt from_le lt), same]
    cases candidate : nextCandidate? (some (.literals literals)) hay limit pos with
    | none => rfl
    | some start =>
      obtain ⟨reached, below⟩ := nextCandidate?_bounds inside lt (same.trans candidate)
      have ahead : start < hay.next start := Haystack.lt_next_of_le_size inside below
      dsimp only
      rw [if_pos (by omega), if_pos (by omega)]
  · -- no boundary is left, so there is no candidate either
    have missing : nextCandidate? (some (.literals literals)) hay limit pos = none := by
      rw [← same, Option.eq_none_iff_forall_ne_some]
      intro start candidate
      obtain ⟨reached, below⟩ :=
        (Lead.literals literals).candidate?_bounds inside ceil_le candidate
      omega
    rw [findFrom?_of_ge (Nat.le_of_eq at_limit.symm), findFrom?]
    split
    · rw [missing]
      rfl
    · rfl

/-- So the iterator goes on from inside a character as from the next boundary. -/
theorem toList_literals_ceil {literals : List Text} (limitBoundary : hay.isBoundary limit = true)
    (le : pos ≤ limit) :
    (Matches.mk sequence (some (.literals literals)) hay (hay.ceil pos) limit).toList.run =
      (Matches.mk sequence (some (.literals literals)) hay pos limit).toList.run := by
  have inside : limit ≤ hay.size := Haystack.le_size_of_isBoundary limitBoundary
  have same : (sequence.findFrom? (some (.literals literals)) hay limit (hay.ceil pos)).run =
      (sequence.findFrom? (some (.literals literals)) hay limit pos).run :=
    findFrom?_literals_ceil limitBoundary le
  cases answer : (sequence.findFrom? (some (.literals literals)) hay limit pos).run with
  | none =>
    rw [Matches.toList_of_none (Matches.next_of_none answer),
      Matches.toList_of_none (Matches.next_of_none (same.trans answer))]
  | some found =>
    rw [Matches.toList_of_found inside answer, Matches.toList_of_found inside (same.trans answer)]

/-- A match that starts at a boundary and ends inside a character is not empty, so the search goes
on at its end. -/
theorem resume_eq_stop {lead? : Option Lead} {lead : Lead} (made : sequence.lead? = some lead)
    (inside : limit ≤ hay.size)
    (answer : (sequence.findFrom? lead? hay limit pos).run = some found)
    (between : hay.isBoundary found.stop = false) : found.resume = found.stop := by
  obtain ⟨start, -, -, taken, -⟩ := exists_matchAt?_of_findFrom? inside answer
  obtain ⟨-, rfl, matches_⟩ := matchAt?_eq_some_iff.1 taken
  have boundary : hay.isBoundary found.start = true :=
    isBoundary_of_matchesAt made ⟨found.stop, matches_⟩
  refine if_pos (Nat.lt_of_le_of_ne matches_.2.1 fun same => ?_)
  rw [← same, boundary] at between
  cases between

/-- Behind a match that ends inside a character, the iterator with literals for a lead goes on as
one from the next boundary. -/
theorem drop_toList_literals {literals : List Text} {index : Nat}
    (made : sequence.lead? = some (.literals literals))
    (limitBoundary : hay.isBoundary limit = true)
    (found_at : (Matches.mk sequence sequence.lead? hay pos limit).toList.run[index]? = some found)
    (between : hay.isBoundary found.stop = false) :
    (Matches.mk sequence sequence.lead? hay pos limit).toList.run.drop (index + 1) =
      (Matches.mk sequence sequence.lead? hay (hay.ceil found.stop) limit).toList.run := by
  have inside : limit ≤ hay.size := Haystack.le_size_of_isBoundary limitBoundary
  obtain ⟨place, -, answer, behind⟩ := Matches.exists_findFrom?_of_getElem? inside found_at
  have within := within_findFrom? inside answer
  rw [behind, resume_eq_stop made inside answer between, made]
  exact (toList_literals_ceil limitBoundary within.stop_le).symm

/-! ## All matches in a scope -/

/-- Where the search goes on inside a character, the plain search finds nothing more. -/
theorem scan_inside {lead : Lead} (made : sequence.lead? = some lead)
    (limitBoundary : hay.isBoundary limit = true) (between : ¬ hay.isBoundary pos = true) :
    sequence.scan hay limit pos = [] := by
  rw [scan_eq (Haystack.le_size_of_isBoundary limitBoundary),
    findFrom?_inside made limitBoundary between fun _ => rfl]

/-- With a lead, the plain search from a boundary gives the list of the iterator up to the first
match that ends inside a character. -/
theorem scan_eq_take {lead : Lead} (made : sequence.lead? = some lead)
    (limitBoundary : hay.isBoundary limit = true) (boundary : hay.isBoundary pos = true) :
    let list := (Matches.mk sequence sequence.lead? hay pos limit).toList.run
    sequence.scan hay limit pos =
      list.take (list.findIdx (fun found => !hay.isBoundary found.stop) + 1) := by
  have inside : limit ≤ hay.size := Haystack.le_size_of_isBoundary limitBoundary
  refine Matches.toList_induction (motive := fun pos list => hay.isBoundary pos = true →
    sequence.scan hay limit pos =
      list.take (list.findIdx (fun found => !hay.isBoundary found.stop) + 1))
    inside ?_ ?_ pos boundary
  · intro pos answer boundary
    rw [scan_eq inside, ← findFrom?_lead? limitBoundary boundary, answer]
    rfl
  · intro pos found list answer rest boundary
    rw [scan_eq inside, ← findFrom?_lead? limitBoundary boundary, answer, List.findIdx_cons]
    have first := firstMatch_of_findFrom? limitBoundary boundary answer
    dsimp only
    by_cases end_ : hay.isBoundary found.stop = true
    · have resume_boundary : hay.isBoundary found.resume = true := by
        obtain rfl : found.haystack = hay := first.1
        have placed : found.Placed := ⟨first.isFirst.boundary, end_, first.start_le_stop⟩
        exact placed.isBoundary_resume
      rw [end_, Bool.not_true, cond_false, List.take_succ_cons, rest resume_boundary]
    · rw [Bool.not_eq_true] at end_
      rw [end_, Bool.not_false, cond_true, List.take_succ_cons, List.take_zero,
        resume_eq_stop made inside answer end_,
        scan_inside made limitBoundary (by rw [end_]; exact Bool.false_ne_true)]

/-- To go on behind a match in a scope is to go on at the next boundary. -/
theorem first_startingFrom {scope : Scope}
    (within : found.Within scope.haystack scope.first scope.limit) :
    (scope.startingFrom found.stop).first = scope.haystack.ceil found.stop := by
  have limitBoundary := scope.isBoundary_limit
  have inside : scope.limit ≤ scope.haystack.size := Haystack.le_size_of_isBoundary limitBoundary
  have from_le : scope.start ≤ found.stop := by
    have reach := (scope.haystack.isLeast_ceil scope.start).1.2
    have first_le := within.first_le
    have start_lt := within.start_lt
    have ordered := within.ordered
    unfold Scope.first at first_le
    omega
  show min (scope.haystack.ceil (max scope.start found.stop)) scope.limit = _
  rw [Nat.max_eq_right from_le, Nat.min_eq_left (Haystack.ceil_le limitBoundary within.stop_le)]

/-- **The plain search finds what the iterator finds**: all of it if there is no lead or a letter
for one, or if the caller's own patterns report boundaries only; all up to the first match that ends
inside a character if there is a lead of literals. Behind such a match the iterator hands out the
matches from the next boundary on. -/
theorem scan_eq_cut (sequence : Sequence Id) (scope : Scope) :
    let list := (sequence.matches scope).toList.run
    let plain := sequence.scan scope.haystack scope.limit scope.first
    ((∀ literals, sequence.lead? ≠ some (.literals literals)) → plain = list) ∧
    ((∃ literals, sequence.lead? = some (.literals literals)) →
      plain = list.take
        (list.findIdx (fun found => !scope.haystack.isBoundary found.stop) + 1) ∧
      ∀ index found, list[index]? = some found →
        scope.haystack.isBoundary found.stop = false →
        list.drop (index + 1) = (sequence.findAll (scope.startingFrom found.stop)).run) ∧
    (Pattern.ReportBoundaries scope.haystack sequence.patterns → plain = list) := by
  have limitBoundary := scope.isBoundary_limit
  have inside := Haystack.le_size_of_isBoundary limitBoundary
  refine ⟨fun other => ?_, ?_, fun report => ?_⟩
  · exact scan_eq_toList (fun _ => True) inside
      (fun pos _ => findFrom?_eq_none_lead other limitBoundary pos) (fun _ _ _ _ => trivial) trivial
  · rintro ⟨literals, made⟩
    refine ⟨scan_eq_take made limitBoundary scope.isBoundary_first, ?_⟩
    intro index found found_at between
    have ascending : Matches.Ascending scope.haystack scope.first scope.limit
        (sequence.matches scope).toList.run := Matches.ascending_toList inside scope.first
    have within := ascending.within found (List.mem_of_getElem? found_at)
    have behind := drop_toList_literals made limitBoundary found_at between
    rw [← first_startingFrom within] at behind
    exact behind
  · refine scan_eq_toList (fun pos => scope.haystack.isBoundary pos = true) inside
      (fun pos boundary => findFrom?_lead? limitBoundary boundary) ?_ scope.isBoundary_first
    intro pos found boundary answer
    have first := firstMatch_of_findFrom? limitBoundary boundary answer
    exact first.isBoundary_resume limitBoundary report

/-- An `x`, then a step that takes one byte more, in `xéxa`: behind the first match, which ends
inside the `é`, the iterator goes on to the second `x` and the plain search gives up. -/
theorem scan_gives_up_inside_character :
    let hay : Haystack := { text := ['x', 'é', 'x', 'a'] }
    let more : Pattern Id := .custom "cut" fun _ start _ _ => pure (.success (start + 1))
    let sequence : Sequence Id := ⟨[.text [['x']] .exact, more], rfl⟩
    (sequence.matches (Scope.full hay)).toList.run = [⟨hay, 0, 2⟩, ⟨hay, 3, 5⟩] ∧
      sequence.scan hay (Scope.full hay).limit (Scope.full hay).first = [⟨hay, 0, 2⟩] := by
  decide +kernel

end Sequence

end PatternSearch
