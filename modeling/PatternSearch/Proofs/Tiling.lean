import PatternSearch.Proofs.Between
import PatternSearch.Proofs.Scoped

/-!
# Matches and gaps tile the text

Behind a match that is not empty, the iterator goes on where the match ends, and so does a search
for the gap behind the match. The gap therefore reaches from the match to the next one of the
iterator, and the matches with the gaps between them, what stands before the first and what stands
behind the last make up the text that is searched: nothing is lost and nothing comes twice.

- `Interval.Tiles`: intervals that cover a part of a haystack, each beginning where the one before
  it ends; their texts make up the text of that part (`Interval.Tiles.text_eq`).
- `Sequence.Enumerates.betweenWithin?_eq`: the gap behind a match of the list ends at the next
  match.
- `Sequence.matches_and_gaps_tile`: the matches of an interval and the gaps that a caller is told
  tile the interval.
-/

namespace PatternSearch

variable {sequence : Sequence Id} {hay : Haystack} {limit pos : Nat} {found : Interval}

/-! ## Tiles -/

namespace Interval

/-- Intervals with ends at boundaries that cover the haystack from one offset to another, each
beginning where the one before it ends. -/
inductive Tiles (hay : Haystack) : Nat → List Interval → Nat → Prop where
  | nil {pos : Nat} : Tiles hay pos [] pos
  | cons {start stop last : Nat} {rest : List Interval} : Placed ⟨hay, start, stop⟩ →
    Tiles hay stop rest last → Tiles hay start (⟨hay, start, stop⟩ :: rest) last

variable {start mid stop : Nat} {tiles tiles' : List Interval}

/-- Where one interval ends and another begins, the two texts make one. -/
theorem Placed.text_append (placed : Placed ⟨hay, start, mid⟩)
    (placed' : Placed ⟨hay, mid, stop⟩) :
    text ⟨hay, start, stop⟩ = text ⟨hay, start, mid⟩ ++ text ⟨hay, mid, stop⟩ := by
  have window :
      hay.slice? start stop = some (text ⟨hay, start, mid⟩ ++ text ⟨hay, mid, stop⟩) :=
    Haystack.slice?_eq_some_append_iff.2 ⟨mid, placed.slice?_eq, placed'.slice?_eq⟩
  rw [text, window, Option.getD_some]

namespace Tiles

/-- Tiles lead from a boundary to a boundary that is not before it. -/
theorem bounds (covered : Tiles hay start tiles stop) (boundary : hay.isBoundary start = true) :
    hay.isBoundary stop = true ∧ start ≤ stop := by
  induction covered with
  | nil => exact ⟨boundary, Nat.le_refl _⟩
  | cons placed _ ih =>
    obtain ⟨end_, le⟩ := ih placed.isBoundary_stop
    exact ⟨end_, Nat.le_trans placed.le le⟩

theorem append (covered : Tiles hay start tiles mid) (covered' : Tiles hay mid tiles' stop) :
    Tiles hay start (tiles ++ tiles') stop := by
  induction covered with
  | nil => exact covered'
  | cons placed _ ih => exact .cons placed (ih covered')

/-- The texts of the tiles make up the text from where they begin to where they end. -/
theorem text_eq (covered : Tiles hay start tiles stop) (boundary : hay.isBoundary start = true) :
    text ⟨hay, start, stop⟩ = tiles.flatMap text := by
  induction covered with
  | @nil pos =>
    have empty : hay.slice? pos pos = some [] := Haystack.isBoundary_iff_slice?_self.1 boundary
    unfold text
    rw [empty]
    rfl
  | cons placed behind ih =>
    obtain ⟨end_, le⟩ := behind.bounds placed.isBoundary_stop
    rw [placed.text_append ⟨placed.isBoundary_stop, end_, le⟩, ih placed.isBoundary_stop]
    rfl

end Tiles

end Interval

/-! ## Gaps -/

/-- The gap behind a match ends where the first match behind it starts. -/
theorem Sequence.FirstMatch.betweenWithin?_eq {start stop : Nat} {answer : Option Interval}
    (boundary : hay.isBoundary stop = true) (limitBoundary : hay.isBoundary limit = true)
    (le : stop ≤ limit) (first : sequence.FirstMatch hay limit stop answer) :
    (sequence.betweenWithin? ⟨hay, start, stop⟩ limit).run =
      answer.map fun next => ⟨hay, stop, next.start⟩ := by
  have searched :
      answer = (sequence.find? (Interval.scopeBehind ⟨hay, start, stop⟩ limit)).run :=
    first.eq_find? boundary limitBoundary le
  rw [run_betweenWithin?, ← searched]

/-- A match that is not empty ends at a boundary, and the search goes on there. -/
theorem Sequence.FirstMatch.placed_of_nonempty (limitBoundary : hay.isBoundary limit = true)
    (report : Pattern.ReportBoundaries hay sequence.patterns)
    (first : sequence.FirstMatch hay limit pos (some found)) (nonempty : found.start < found.stop) :
    found.Placed ∧ found.resume = found.stop := by
  have resume : found.resume = found.stop := if_pos nonempty
  have boundary' := first.isBoundary_resume limitBoundary report
  rw [resume] at boundary'
  obtain ⟨rfl, isFirst, -⟩ := first
  exact ⟨⟨isFirst.boundary, boundary', Nat.le_of_lt nonempty⟩, resume⟩

namespace Sequence.Enumerates

variable {list : List Interval}

/-- The gap behind each match of the list that is not empty ends at the next match of the list, and
there is none behind the last one. -/
theorem betweenWithin?_eq {index : Nat} (limitBoundary : hay.isBoundary limit = true)
    (report : Pattern.ReportBoundaries hay sequence.patterns)
    (enumerates : sequence.Enumerates hay limit pos list) (found_at : list[index]? = some found)
    (nonempty : found.start < found.stop) :
    (sequence.betweenWithin? found limit).run =
      list[index + 1]?.map fun next => ⟨hay, found.stop, next.start⟩ := by
  obtain ⟨reached, -, first, rest⟩ := enumerates.drop limitBoundary found_at
  obtain ⟨placed, resume⟩ := first.placed_of_nonempty limitBoundary report nonempty
  have follows := rest.firstMatch_head?
  rw [List.head?_drop, resume] at follows
  have stop_le := (first.resume_bounds limitBoundary).2
  rw [resume] at stop_le
  obtain ⟨hay', start, stop⟩ := found
  obtain rfl : hay' = hay := first.1
  exact follows.betweenWithin?_eq placed.isBoundary_stop limitBoundary stop_le

end Sequence.Enumerates

/-- The matches of the list, each with the gap behind it that a caller is told, if there is one. -/
def Sequence.withGaps (sequence : Sequence Id) (limit : Nat) (list : List Interval) :
    List Interval :=
  list.flatMap fun found => found :: (sequence.betweenWithin? found limit).run.toList

/-- From the first match to the end of the last one, the matches and the gaps between them tile the
text. -/
theorem Sequence.Enumerates.tiles_withGaps {first last : Interval} {list : List Interval}
    (limitBoundary : hay.isBoundary limit = true)
    (report : Pattern.ReportBoundaries hay sequence.patterns)
    (enumerates : sequence.Enumerates hay limit pos list)
    (nonempty : ∀ found ∈ list, found.start < found.stop) (head : list.head? = some first)
    (at_end : list.getLast? = some last) :
    Interval.Tiles hay first.start (sequence.withGaps limit list) last.stop := by
  -- induction on the matches; the gap behind one leads to where the next tiles begin
  induction enumerates generalizing first with
  | done _ => cases head
  | @more pos found rest isFirst behind ih =>
    obtain rfl : found = first := Option.some_inj.1 head
    obtain ⟨wide, behind_wide⟩ := List.forall_mem_cons.1 nonempty
    obtain ⟨placed, resume⟩ := isFirst.placed_of_nonempty limitBoundary report wide
    have here : (found :: rest)[0]? = some found := rfl
    have gap := (Enumerates.more isFirst behind).betweenWithin?_eq limitBoundary report here wide
    obtain ⟨hay', start, stop⟩ := found
    obtain rfl : hay' = hay := isFirst.1
    dsimp only at resume gap
    rw [withGaps, List.flatMap_cons, gap]
    cases rest with
    | nil =>
      obtain rfl : Interval.mk hay' start stop = last := Option.some_inj.1 at_end
      exact .cons placed .nil
    | cons next rest =>
      rw [List.getLast?_cons_cons] at at_end
      have next_first := behind.firstMatch_head?
      rw [resume] at next_first
      have gap_placed : Interval.Placed ⟨hay', stop, next.start⟩ :=
        ⟨placed.isBoundary_stop, next_first.isFirst.boundary, next_first.isFirst.le⟩
      exact .cons placed (.cons gap_placed (ih behind_wide rfl at_end))

/-! ## All of the text -/

/-- What stands before the first match, the matches with the gaps between them, and what stands
behind the last match. -/
def Sequence.tiles (sequence : Sequence Id) (interval first last : Interval)
    (list : List Interval) : List Interval :=
  ⟨interval.haystack, interval.start, first.start⟩ ::
    (sequence.withGaps interval.stop list ++ [⟨interval.haystack, last.stop, interval.stop⟩])

/-- The matches in the list and the gaps between them are cut from the interval without a rest. -/
structure Sequence.Tiling (sequence : Sequence Id) (interval : Interval) (list : List Interval) :
    Prop where
  /-- The gap behind each match ends at the next one, and there is none behind the last match. -/
  gap : ∀ index found, list[index]? = some found →
    (sequence.betweenWithin? found interval.stop).run =
      list[index + 1]?.map fun next => ⟨interval.haystack, found.stop, next.start⟩
  /-- Up to the end of the haystack, no limit need be given. -/
  unlimited : interval.stop = interval.haystack.size →
    ∀ index found, list[index]? = some found →
    (sequence.between? found).run =
      list[index + 1]?.map fun next => ⟨interval.haystack, found.stop, next.start⟩
  /-- With what stands at both ends, the matches and the gaps follow one another, and their texts
  make up the text. -/
  tiles : ∀ first last, list.head? = some first → list.getLast? = some last →
    Interval.Tiles interval.haystack interval.start (sequence.tiles interval first last list)
      interval.stop ∧
    interval.text = (sequence.tiles interval first last list).flatMap Interval.text

/-- **Matches and gaps tile the text**: if no match of the interval is empty, the gap behind each
match reaches to the next one, and from one end of the interval to the other the matches and the
gaps between them make up its text. -/
theorem Sequence.matches_and_gaps_tile (sequence : Sequence Id) (interval : Interval)
    (placed : interval.Placed)
    (report : Pattern.ReportBoundaries interval.haystack sequence.patterns)
    (nonempty : ∀ found ∈ (interval.matches sequence).toList.run, found.start < found.stop) :
    sequence.Tiling interval (interval.matches sequence).toList.run := by
  have enumerates := placed.enumerates_matches report
  generalize (interval.matches sequence).toList.run = list at nonempty enumerates ⊢
  obtain ⟨boundary, limitBoundary, le⟩ := placed
  have gap : ∀ index found, list[index]? = some found →
      (sequence.betweenWithin? found interval.stop).run =
        list[index + 1]?.map fun next => ⟨interval.haystack, found.stop, next.start⟩ :=
    fun index found found_at => enumerates.betweenWithin?_eq limitBoundary report found_at
      (nonempty found (List.mem_of_getElem? found_at))
  refine ⟨gap, fun to_end index found found_at => ?_, fun first last head at_end => ?_⟩
  · obtain ⟨reached, -, isFirst, -⟩ := enumerates.drop limitBoundary found_at
    have same : interval.stop = found.haystack.size := by rw [to_end, isFirst.1]
    show (sequence.betweenWithin? found found.haystack.size).run = _
    rw [← same]
    exact gap index found found_at
  · have first_match := enumerates.firstMatch_head?
    rw [head] at first_match
    have before : Interval.Placed ⟨interval.haystack, interval.start, first.start⟩ :=
      ⟨boundary, first_match.isFirst.boundary, first_match.isFirst.le⟩
    have inner := enumerates.tiles_withGaps limitBoundary report nonempty head at_end
    obtain ⟨last_boundary, -⟩ := inner.bounds before.isBoundary_stop
    obtain ⟨index, last_at⟩ := List.mem_iff_getElem?.1 (List.mem_of_getLast? at_end)
    have last_le : last.stop ≤ interval.stop := by
      obtain ⟨reached, -, isFirst, -⟩ := enumerates.drop limitBoundary last_at
      exact isFirst.2.2.2.2
    have tiles : Interval.Tiles interval.haystack interval.start
        (sequence.tiles interval first last list) interval.stop :=
      .cons before (inner.append (.cons ⟨last_boundary, limitBoundary, last_le⟩ .nil))
    exact ⟨tiles, tiles.text_eq boundary⟩

/-- The semicolons in the part of `é;a;;b` behind its first character: the second and the third of
them have nothing in between. -/
theorem Sequence.matches_and_gaps_tile_letters :
    let hay : Haystack := { text := ['é', ';', 'a', ';', ';', 'b'] }
    let sequence : Sequence Id := ⟨[.text [[';']] .exact], rfl⟩
    sequence.Tiling ⟨hay, 2, 7⟩ [⟨hay, 2, 3⟩, ⟨hay, 4, 5⟩, ⟨hay, 5, 6⟩] := by
  intro hay sequence
  have report : Pattern.ReportBoundaries hay sequence.patterns :=
    Pattern.reportBoundaries_of_own (by decide)
  have listed : (Interval.matches ⟨hay, 2, 7⟩ sequence).toList.run =
      [⟨hay, 2, 3⟩, ⟨hay, 4, 5⟩, ⟨hay, 5, 6⟩] := by
    decide +kernel
  have nonempty : ∀ found ∈ (Interval.matches ⟨hay, 2, 7⟩ sequence).toList.run,
      found.start < found.stop := by
    rw [listed]
    decide
  rw [← listed]
  exact matches_and_gaps_tile sequence ⟨hay, 2, 7⟩ ⟨by decide, by decide, by decide⟩ report
    nonempty

end PatternSearch
