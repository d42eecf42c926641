import PatternSearch.Proofs.Enumeration

/-!
# Sequences that answer alike

Two sequences that come to the same wherever they are tried need not search in the same way: their
leads may skip different offsets. What they answer is the same nonetheless. For a single search that
is so because it answers with the first match, whatever the lead. The iterator goes on where matches
end, and there the leads make no difference either, as long as these are boundaries; inside a
character they may, unless both sequences have one lead.

- `Sequence.SameAnswers`: the answers to all questions that a sequence may be asked are the same.
- `Matches.toList_congr`: iterators hand out the same matches if they find the same at all offsets
  that they reach.
- `Sequence.sameAnswers_of_eval_eq`: sequences that come to the same answer alike.
-/

namespace PatternSearch

variable {sequence sequence' : Sequence Id} {hay : Haystack} {limit pos : Nat}

/-- The two sequences give the same answers, whatever they are asked. -/
structure Sequence.SameAnswers (sequence sequence' : Sequence Id) : Prop where
  isMatch : ∀ scope, (sequence.isMatch scope).run = (sequence'.isMatch scope).run
  find? : ∀ scope, (sequence.find? scope).run = (sequence'.find? scope).run
  findAll : ∀ scope, (sequence.findAll scope).run = (sequence'.findAll scope).run
  betweenWithin? : ∀ interval limit,
    (sequence.betweenWithin? interval limit).run = (sequence'.betweenWithin? interval limit).run
  between? : ∀ interval, (sequence.between? interval).run = (sequence'.between? interval).run

/-! ## The iterator -/

/-- Iterators hand out the same matches if both find the same from every offset that is reached. -/
theorem Matches.toList_congr (reached : Nat → Prop) (inside : limit ≤ hay.size)
    (agree : ∀ pos, reached pos → (sequence.findFrom? sequence.lead? hay limit pos).run =
      (sequence'.findFrom? sequence'.lead? hay limit pos).run)
    (onward : ∀ pos found, reached pos →
      (sequence.findFrom? sequence.lead? hay limit pos).run = some found → reached found.resume)
    (start : reached pos) :
    (Matches.mk sequence sequence.lead? hay pos limit).toList.run =
      (Matches.mk sequence' sequence'.lead? hay pos limit).toList.run := by
  refine toList_induction (motive := fun pos list => reached pos →
    list = (Matches.mk sequence' sequence'.lead? hay pos limit).toList.run) inside ?_ ?_ pos start
  · intro pos answer here
    rw [agree pos here] at answer
    exact (toList_of_none (next_of_none answer)).symm
  · intro pos found list answer behind here
    rw [behind (onward pos found here answer)]
    rw [agree pos here] at answer
    exact (toList_of_found inside answer).symm

namespace Sequence

/-- With the same lead, sequences that come to the same search in the same way, from any offset
on. -/
theorem findFrom?_congr (lead? : Option Lead)
    (same :
      ∀ start, sequence.eval hay start limit .anywhere = sequence'.eval hay start limit .anywhere)
    (pos : Nat) :
    sequence.findFrom? lead? hay limit pos = sequence'.findFrom? lead? hay limit pos := by
  have same_attempt : ∀ start,
      sequence.matchAt? hay limit start = sequence'.matchAt? hay limit start := by
    intro start
    rw [matchAt?, matchAt?, same]
  induction distance : limit - pos using Nat.strongRecOn generalizing pos with
  | _ distance ih =>
    rw [findFrom?, findFrom?]
    split
    · next lt =>
      cases nextCandidate? lead? hay limit pos with
      | none => rfl
      | some start =>
        dsimp only
        rw [same_attempt]
        refine bind_congr fun taken => ?_
        cases taken with
        | some found => rfl
        | none =>
          dsimp only
          split
          · next ahead => exact ih (limit - hay.next start) (by omega) (hay.next start) rfl
          · rfl
    · rfl

/-- Sequences that come to the same wherever they are tried answer alike, if they have the same lead
or their matches end at boundaries only. -/
theorem sameAnswers_of_eval_eq
    (same : ∀ hay start limit ending,
      sequence.eval hay start limit ending = sequence'.eval hay start limit ending)
    (resumes : sequence.lead? = sequence'.lead? ∨
      ∀ hay, Pattern.ReportBoundaries hay sequence.patterns) :
    sequence.SameAnswers sequence' := by
  have same_found : ∀ scope, (sequence.find? scope).run = (sequence'.find? scope).run :=
    fun scope => find?_congr scope fun start => same scope.haystack start scope.limit .anywhere
  have same_gap : ∀ interval limit, (sequence.betweenWithin? interval limit).run =
      (sequence'.betweenWithin? interval limit).run := by
    intro interval limit
    rw [betweenWithin?, betweenWithin?, Id.run_bind, Id.run_bind, same_found]
  refine ⟨fun scope => ?_, same_found, fun scope => ?_, same_gap,
    fun interval => same_gap interval _⟩
  · rw [isMatch, isMatch, same]
  · have limitBoundary := scope.isBoundary_limit
    have inside := Haystack.le_size_of_isBoundary limitBoundary
    rcases resumes with same_lead | report
    · refine Matches.toList_congr (fun _ => True) inside (fun pos _ => ?_)
        (fun _ _ _ _ => trivial) trivial
      rw [same_lead]
      exact congrArg Id.run (findFrom?_congr _ (fun start => same _ start _ _) pos)
    · -- at a boundary, both find the first match
      refine Matches.toList_congr (fun pos => scope.haystack.isBoundary pos = true) inside
        (fun pos boundary => ?_) (fun pos found boundary answer => ?_) scope.isBoundary_first
      · have first := firstMatch_of_findFrom? limitBoundary boundary
          (rfl : (sequence.findFrom? sequence.lead? _ _ pos).run = _)
        exact (first.congr fun start => same _ start _ _).unique
          (firstMatch_of_findFrom? limitBoundary boundary rfl)
      · exact (firstMatch_of_findFrom? limitBoundary boundary answer).isBoundary_resume
          limitBoundary (report _)

end Sequence

end PatternSearch
