import PatternSearch.Proofs.ByteSearch
import PatternSearch.Proofs.Scoped

/-!
# Sessions

A caller makes intervals, searches them, goes on behind them and asks for gaps, and every call may
use what the calls before it answered. A session is what such a history of calls leaves behind: the
answers so far, and the iterators at work. No search checks the intervals it is given or comes to,
and a caller's own pattern may end a match inside a character; nor does it matter which leads the
searches use, those of the sequences, others or none. What holds of all intervals nevertheless is
shown by induction on the calls.

- `Session.Call` lists the calls; `Session.step` makes one of them, `Session.run` a list.
- `Session.Origin`: where an answer comes from, which is all that the invariants need to know of it.
- `Session.Sound`: intervals lie in their haystacks, and iterators look where they were asked to.
  Every call keeps this (`Sound.step`).
- `Session.Aligned`: intervals end at boundaries, and iterators go on at boundaries. Calls keep this
  if the patterns they use report boundaries only (`Aligned.step`).
- `Session.answer_valid`: so this is what holds of every answer in every session.
-/

namespace PatternSearch

/-! ## Calls -/

/-- An iterator at work. -/
structure Iteration where
  /-- What it was asked to search. -/
  scope : Scope
  state : Matches Id

/-- The iterator behind one step. -/
def Iteration.advance (iteration : Iteration) : Iteration :=
  { iteration with state := iteration.state.next.run.2 }

/-- What a history of calls leaves behind. -/
structure Session where
  /-- The lead that searches for a sequence use. -/
  leads : Sequence Id → Option Lead
  /-- The answer of each call, which need not be an interval. -/
  answers : List (Option Interval) := []
  iterations : List Iteration := []

namespace Session

/-- What a caller can do. An index stands for the interval that an earlier call answered, or for an
iterator that one started. -/
inductive Call where
  /-- Make the interval with these ends. -/
  | ofRange (hay : Haystack) (start stop : Nat)
  /-- Make the interval that covers the haystack. -/
  | full (hay : Haystack)
  /-- Ask for the first match in a scope. -/
  | find (sequence : Sequence Id) (scope : Scope)
  /-- Ask for the first match in an interval. -/
  | findIn (sequence : Sequence Id) (index : Nat)
  /-- Ask for the first match in an interval that lies behind any other one. -/
  | findAfter (sequence : Sequence Id) (index : Nat) (previous : Interval)
  /-- Ask for the gap between an interval and the next match. -/
  | between (sequence : Sequence Id) (index : Nat)
  /-- Ask for the gap up to a match that ends by the limit. -/
  | betweenWithin (sequence : Sequence Id) (index limit : Nat)
  /-- Ask for the gap behind what may be no interval. -/
  | betweenOption (sequence : Sequence Id) (index : Nat)
  /-- Start an iterator over a scope. -/
  | iterate (sequence : Sequence Id) (scope : Scope)
  /-- Start an iterator over an interval. -/
  | iterateIn (sequence : Sequence Id) (index : Nat)
  /-- Ask an iterator for its next match. -/
  | next (index : Nat)

/-- The sequence that a call brings along. -/
def Call.sequence? : Call → Option (Sequence Id)
  | .find sequence _ | .findIn sequence _ | .findAfter sequence _ _ | .between sequence _
  | .betweenWithin sequence _ _ | .betweenOption sequence _ | .iterate sequence _
  | .iterateIn sequence _ => some sequence
  | .ofRange .. | .full _ | .next _ => none

/-- The interval that an earlier call answered. -/
def interval? (session : Session) (index : Nat) : Option Interval :=
  session.answers[index]?.join

/-- The scope that a call is to find a match in. -/
def searched? (session : Session) : Call → Option Scope
  | .find _ scope => some scope
  | .findIn _ index | .findAfter _ index _ => (session.interval? index).map Scope.ofInterval
  | .next index => session.iterations[index]?.map Iteration.scope
  | _ => none

/-- What a call answers. -/
def answer? (session : Session) : Call → Option Interval
  | .ofRange hay start stop => Interval.ofRange? hay start stop
  | .full hay => some (Interval.full hay)
  | .find sequence scope => (sequence.find? scope (session.leads sequence)).run
  | .findIn sequence index =>
    (session.interval? index).bind fun interval =>
      (interval.find? sequence (session.leads sequence)).run
  | .findAfter sequence index previous =>
    (session.interval? index).bind fun interval =>
      (interval.findAfter? previous sequence (session.leads sequence)).run
  | .between sequence index =>
    (session.interval? index).bind fun interval =>
      (sequence.between? interval (session.leads sequence)).run
  | .betweenWithin sequence index limit =>
    (session.interval? index).bind fun interval =>
      (sequence.betweenWithin? interval limit (session.leads sequence)).run
  | .betweenOption sequence index =>
    (sequence.betweenOption? (session.interval? index) (session.leads sequence)).run
  | .iterate .. | .iterateIn .. => none
  | .next index =>
    session.iterations[index]?.bind fun iteration => iteration.state.next.run.1

/-- The iterators behind a call. -/
def iterationsAfter (session : Session) : Call → List Iteration
  | .iterate sequence scope =>
    session.iterations ++ [⟨scope, sequence.matches scope (session.leads sequence)⟩]
  | .iterateIn sequence index =>
    match session.interval? index with
    | some interval =>
      session.iterations ++
        [⟨Scope.ofInterval interval, interval.matches sequence (session.leads sequence)⟩]
    | none => session.iterations
  | .next index => session.iterations.modify index Iteration.advance
  | _ => session.iterations

/-- The session behind a call. -/
def step (session : Session) (call : Call) : Session where
  leads := session.leads
  answers := session.answers ++ [session.answer? call]
  iterations := session.iterationsAfter call

/-- The session behind a history of calls. -/
def run (leads : Sequence Id → Option Lead) (calls : List Call) : Session :=
  calls.foldl step { leads }

/-- A match that ends inside the `é`, and the matches of any characters within it: only the `a`. -/
example :
    let cut : Pattern Id := .custom "cut" fun _ start _ _ => pure (.success (start + 2))
    (run Sequence.lead? [.full { text := ['a', 'é', 'a'] }, .findIn ⟨[cut], rfl⟩ 0,
      .iterateIn ⟨[.any], rfl⟩ 1, .next 0, .next 0]).answers.map (Option.map Interval.ends) =
        [some (0, 4), some (0, 2), none, some (0, 1), none] := by
  decide +kernel

/-! ## Where answers and iterators come from -/

variable {session : Session} {call : Call} {found : Interval}

theorem mem_answers_of_interval? {index : Nat} (held : session.interval? index = some found) :
    some found ∈ session.answers :=
  List.mem_of_getElem? (Option.join_eq_some_iff.1 held)

/-- Where the answer to a call comes from. -/
inductive Origin (session : Session) (call : Call) : Interval → Prop where
  /-- It was made, of boundaries in order. -/
  | made {interval : Interval} : interval.Placed → Origin session call interval
  /-- It was found in a scope. -/
  | found {sequence : Sequence Id} {scope : Scope} {found : Interval} :
    call.sequence? = some sequence →
    (sequence.find? scope (session.leads sequence)).run = some found → Origin session call found
  /-- It was found by an iterator. -/
  | next {iteration : Iteration} {found : Interval} : iteration ∈ session.iterations →
    iteration.state.next.run.1 = some found → Origin session call found
  /-- It is the gap between an earlier answer and what was found behind it. -/
  | gap {sequence : Sequence Id} {interval found : Interval} {limit : Nat} :
    call.sequence? = some sequence → some interval ∈ session.answers →
    (sequence.find? (Scope.ofRange interval.haystack interval.stop limit)
      (session.leads sequence)).run = some found →
    Origin session call ⟨interval.haystack, interval.stop, max found.start interval.stop⟩

/-- A gap reaches from the interval to the next match. -/
theorem origin_of_betweenWithin? {sequence : Sequence Id} {interval gap : Interval} {limit : Nat}
    (brings : call.sequence? = some sequence) (held : some interval ∈ session.answers)
    (answer : (sequence.betweenWithin? interval limit (session.leads sequence)).run = some gap) :
    session.Origin call gap := by
  rw [Sequence.betweenWithin?, Id.run_bind] at answer
  obtain ⟨found, next, rfl⟩ := Option.map_eq_some_iff.1 answer
  exact .gap brings held next

/-- Every answer has its origin. -/
theorem origin_of_answer? (answer : session.answer? call = some found) :
    session.Origin call found := by
  cases call with
  | ofRange hay start stop =>
    dsimp only [answer?, Interval.ofRange?] at answer
    split at answer
    · next valid =>
      obtain rfl := Option.some_inj.1 answer
      exact .made ⟨valid.2.1, valid.2.2, valid.1⟩
    · cases answer
  | full hay =>
    obtain rfl := Option.some_inj.1 answer
    exact .made ⟨hay.isBoundary_zero, hay.isBoundary_size, Nat.zero_le hay.size⟩
  | find sequence scope => exact .found rfl answer
  | findIn sequence index | findAfter sequence index previous =>
    obtain ⟨interval, -, answer⟩ := Option.bind_eq_some_iff.1 answer
    exact .found rfl answer
  | between sequence index | betweenWithin sequence index limit =>
    obtain ⟨interval, held, answer⟩ := Option.bind_eq_some_iff.1 answer
    exact origin_of_betweenWithin? rfl (mem_answers_of_interval? held) answer
  | betweenOption sequence index =>
    dsimp only [answer?] at answer
    cases held : session.interval? index with
    | none =>
      rw [held] at answer
      cases answer
    | some interval =>
      rw [held] at answer
      exact origin_of_betweenWithin? rfl (mem_answers_of_interval? held) answer
  | iterate sequence scope | iterateIn sequence index => cases answer
  | next index =>
    obtain ⟨iteration, at_index, answer⟩ := Option.bind_eq_some_iff.1 answer
    exact .next (List.mem_of_getElem? at_index) answer

/-- What holds of the answers so far and of the answer to a call holds of the answers behind it. -/
theorem forall_answers_step {P : Interval → Prop}
    (earlier : ∀ interval, some interval ∈ session.answers → P interval)
    (last : ∀ found, session.answer? call = some found → P found) :
    ∀ interval, some interval ∈ (session.step call).answers → P interval := by
  intro interval member
  rcases List.mem_append.1 member with member | member
  · exact earlier interval member
  · exact last interval (List.mem_singleton.1 member).symm

/-- What holds of the iterators so far, of every iterator that the call can start, and behind a step
if it holds before, holds of the iterators behind the call. -/
theorem forall_iterations_step {P : Iteration → Prop}
    (earlier : ∀ iteration ∈ session.iterations, P iteration)
    (started : ∀ sequence scope, call.sequence? = some sequence →
      P ⟨scope, sequence.matches scope (session.leads sequence)⟩)
    (advanced : ∀ iteration, P iteration → P iteration.advance) :
    ∀ iteration ∈ (session.step call).iterations, P iteration := by
  intro iteration member
  cases call with
  | iterate sequence scope =>
    rcases List.mem_append.1 member with member | member
    · exact earlier iteration member
    · rw [List.mem_singleton.1 member]
      exact started sequence scope rfl
  | iterateIn sequence index =>
    dsimp only [step, iterationsAfter] at member
    split at member
    · next interval _ =>
      rcases List.mem_append.1 member with member | member
      · exact earlier iteration member
      · rw [List.mem_singleton.1 member]
        exact started sequence (Scope.ofInterval interval) rfl
    · exact earlier iteration member
  | next index =>
    obtain ⟨place, at_place⟩ := List.mem_iff_getElem?.1 member
    dsimp only [step, iterationsAfter] at at_place
    rw [List.getElem?_modify] at at_place
    obtain ⟨before, at_place', rfl⟩ := Option.map_eq_some_iff.1 at_place
    have holds := earlier before (List.mem_of_getElem? at_place')
    split
    · exact advanced before holds
    · exact holds
  | _ => exact earlier iteration member

end Session

/-! ## Lying in the haystack -/

/-- The interval lies in its haystack. Its ends need not be boundaries. -/
structure Interval.InText (interval : Interval) : Prop where
  ordered : interval.start ≤ interval.stop
  stop_le : interval.stop ≤ interval.haystack.size

theorem Interval.Placed.inText {interval : Interval} (placed : interval.Placed) :
    interval.InText where
  ordered := placed.le
  stop_le := Haystack.le_size_of_isBoundary placed.isBoundary_stop

/-- The interval lies in the scope, between the ends that this was given. -/
structure Interval.Inside (interval : Interval) (scope : Scope) : Prop where
  haystack : interval.haystack = scope.haystack
  start_le : scope.start ≤ interval.start
  le_stop : ∀ stop, scope.stop? = some stop → interval.stop ≤ stop

namespace Interval.Within

variable {found : Interval} {hay : Haystack} {pos limit : Nat} {scope : Scope}

theorem inText (within : found.Within hay pos limit) (inside : limit ≤ hay.size) :
    found.InText where
  ordered := within.ordered
  stop_le := by
    rw [within.haystack]
    exact Nat.le_trans within.stop_le inside

/-- What lies between the boundaries that are searched lies in the scope. -/
theorem inside (within : found.Within scope.haystack scope.first scope.limit) :
    found.Inside scope where
  haystack := within.haystack
  start_le := by
    have ahead := Nat.lt_of_le_of_lt within.first_le within.start_lt
    exact Nat.le_trans (scope.start_le_first ahead) within.first_le
  le_stop _ given := Nat.le_trans within.stop_le (scope.limit_le_stop given)

end Interval.Within

/-- What a search of a scope finds lies between its first boundary and its last. -/
theorem Sequence.within_find? {sequence : Sequence Id} {lead? : Option Lead} {scope : Scope}
    {found : Interval} (answer : (sequence.find? scope lead?).run = some found) :
    found.Within scope.haystack scope.first scope.limit :=
  within_findFrom? scope.limit_le_size answer

/-- A step of an iterator finds a match and goes on behind it, or leaves the iterator as it is. -/
theorem Matches.next_cases (state : Matches Id) :
    (∃ found, (state.sequence.findFrom? state.lead? state.haystack state.limit
        state.pos).run = some found ∧
      state.next.run = (some found, { state with pos := found.resume })) ∨
    state.next.run = (none, state) := by
  obtain ⟨sequence, lead?, hay, pos, limit⟩ := state
  cases answer : (sequence.findFrom? lead? hay limit pos).run with
  | none => exact .inr (next_of_none answer)
  | some found => exact .inl ⟨found, rfl, next_of_some answer⟩

/-- So what a step hands out is what a search from where the iterator stands finds. -/
theorem Matches.findFrom?_of_next {state : Matches Id} {found : Interval}
    (handed : state.next.run.1 = some found) :
    (state.sequence.findFrom? state.lead? state.haystack state.limit state.pos).run =
      some found := by
  rcases state.next_cases with ⟨first, answer, same⟩ | same
  · rw [same] at handed
    obtain rfl := Option.some_inj.1 handed
    exact answer
  · rw [same] at handed
    cases handed

/-- The iterator searches its scope, from some place behind the first boundary on. -/
structure Iteration.OnCourse (iteration : Iteration) : Prop where
  haystack : iteration.state.haystack = iteration.scope.haystack
  limit : iteration.state.limit = iteration.scope.limit
  first_le : iteration.scope.first ≤ iteration.state.pos

namespace Iteration.OnCourse

variable {iteration : Iteration} {found : Interval}

theorem started (sequence : Sequence Id) (scope : Scope) (lead? : Option Lead) :
    Iteration.OnCourse ⟨scope, sequence.matches scope lead?⟩ :=
  ⟨rfl, rfl, Nat.le_refl scope.first⟩

/-- What the search for the next match finds lies between the first boundary and the last. -/
theorem within_findFrom? (course : iteration.OnCourse)
    (answer : (iteration.state.sequence.findFrom? iteration.state.lead?
      iteration.state.haystack iteration.state.limit iteration.state.pos).run = some found) :
    found.Within iteration.scope.haystack iteration.scope.first iteration.scope.limit := by
  obtain ⟨haystack, limit, first_le⟩ := course
  rw [haystack, limit] at answer
  exact (Sequence.within_findFrom? iteration.scope.limit_le_size answer).mono first_le

/-- So does what a step hands out. -/
theorem within_next (course : iteration.OnCourse)
    (handed : iteration.state.next.run.1 = some found) :
    found.Within iteration.scope.haystack iteration.scope.first iteration.scope.limit :=
  course.within_findFrom? (Matches.findFrom?_of_next handed)

/-- A step goes on behind the match, which keeps the iterator on course. -/
theorem advance (course : iteration.OnCourse) : iteration.advance.OnCourse := by
  unfold Iteration.advance
  rcases iteration.state.next_cases with ⟨found, answer, same⟩ | same
  · have within := course.within_findFrom? answer
    have ahead := (within.resume_bounds iteration.scope.limit_le_size).1
    rw [same]
    exact ⟨course.haystack, course.limit, Nat.le_trans within.first_le (Nat.le_of_lt ahead)⟩
  · rw [same]
    exact course

end Iteration.OnCourse

namespace Session

variable {session : Session} {call : Call} {found : Interval}

/-- All intervals lie in their haystacks, and all iterators are on course. -/
structure Sound (session : Session) : Prop where
  answers : ∀ interval, some interval ∈ session.answers → interval.InText
  iterations : ∀ iteration ∈ session.iterations, iteration.OnCourse

namespace Sound

/-- The next answer lies in its haystack too. -/
theorem inText (sound : session.Sound) (origin : session.Origin call found) : found.InText := by
  cases origin with
  | made placed => exact placed.inText
  | @found _ scope _ _ answer => exact (Sequence.within_find? answer).inText scope.limit_le_size
  | @next iteration _ member handed =>
    exact ((sound.iterations iteration member).within_next handed).inText
      iteration.scope.limit_le_size
  | @gap _ interval next limit _ member answer =>
    have held := sound.answers interval member
    have within := Sequence.within_find? answer
    have behind := (within.inText (Scope.limit_le_size _)).stop_le
    rw [within.haystack] at behind
    exact ⟨Nat.le_max_right ..,
      Nat.max_le.2 ⟨Nat.le_trans within.ordered behind, held.stop_le⟩⟩

/-- The next answer lies in the scope that the call searches. -/
theorem inside_of_answer? {scope : Scope} (sound : session.Sound)
    (answer : session.answer? call = some found) (searched : session.searched? call = some scope) :
    found.Inside scope := by
  cases call with
  | find sequence scope' =>
    obtain rfl := Option.some_inj.1 searched
    exact (Sequence.within_find? answer).inside
  | findIn sequence index =>
    obtain ⟨interval, held, answer⟩ := Option.bind_eq_some_iff.1 answer
    obtain ⟨interval', held', rfl⟩ := Option.map_eq_some_iff.1 searched
    obtain rfl := Option.some_inj.1 (held.symm.trans held')
    exact (Sequence.within_find? answer).inside
  | findAfter sequence index previous =>
    obtain ⟨interval, held, answer⟩ := Option.bind_eq_some_iff.1 answer
    obtain ⟨interval', held', rfl⟩ := Option.map_eq_some_iff.1 searched
    obtain rfl := Option.some_inj.1 (held.symm.trans held')
    -- to search behind another interval is to search a part of the scope
    obtain ⟨haystack, start_le, le_stop⟩ := (Sequence.within_find? answer).inside
    exact ⟨haystack, Nat.le_trans (Nat.le_max_left ..) start_le, le_stop⟩
  | next index =>
    obtain ⟨iteration, at_index, handed⟩ := Option.bind_eq_some_iff.1 answer
    obtain ⟨iteration', at_index', rfl⟩ := Option.map_eq_some_iff.1 searched
    obtain rfl := Option.some_inj.1 (at_index.symm.trans at_index')
    exact ((sound.iterations _ (List.mem_of_getElem? at_index)).within_next handed).inside
  | _ => cases searched

/-- Every call keeps the session sound. -/
theorem step (sound : session.Sound) (call : Call) : (session.step call).Sound where
  answers := forall_answers_step sound.answers fun _ answer =>
    sound.inText (origin_of_answer? answer)
  iterations := forall_iterations_step sound.iterations
    (fun sequence scope _ => .started sequence scope _) fun _ course => course.advance

end Sound

/-- Every session is sound. -/
theorem sound_run (leads : Sequence Id → Option Lead) (calls : List Call) :
    (run leads calls).Sound :=
  List.foldlRecOn calls step ⟨nofun, nofun⟩ fun _ sound call _ => sound.step call

/-- What is found in an interval behind another one starts at or behind the end of that. -/
theorem stop_le_start_of_findAfter {sequence : Sequence Id} {index : Nat} {previous : Interval}
    (answer : session.answer? (.findAfter sequence index previous) = some found) :
    previous.stop ≤ found.start := by
  obtain ⟨interval, -, answer⟩ := Option.bind_eq_some_iff.1 answer
  exact Nat.le_trans (Nat.le_max_right ..) (Sequence.within_find? answer).inside.start_le

end Session

/-! ## Ending at boundaries -/

/-- The caller's own patterns in the sequence only report boundaries, in every haystack. -/
def Sequence.ReportsBoundaries (sequence : Sequence Id) : Prop :=
  ∀ hay, Pattern.ReportBoundaries hay sequence.patterns

/-- With such patterns, what a search finds from a boundary on is placed. -/
theorem Sequence.placed_of_findFrom? {sequence : Sequence Id} {lead? : Option Lead}
    {hay : Haystack} {limit pos : Nat} {found : Interval} (reports : sequence.ReportsBoundaries)
    (limitBoundary : hay.isBoundary limit = true) (boundary : hay.isBoundary pos = true)
    (answer : (sequence.findFrom? lead? hay limit pos).run = some found) : found.Placed := by
  obtain ⟨start, -, lt, taken, boundary'⟩ :=
    exists_matchAt?_of_findFrom? (Haystack.le_size_of_isBoundary limitBoundary) answer
  obtain ⟨rfl, rfl, matches_⟩ := matchAt?_eq_some_iff.1 taken
  exact matches_.placed (reports _) limitBoundary (boundary' limitBoundary boundary)
    (Nat.le_of_lt lt)

/-- The iterator goes on at a boundary, and has patterns that lead to boundaries only. -/
structure Iteration.Aligned (iteration : Iteration) : Prop where
  reports : iteration.state.sequence.ReportsBoundaries
  isBoundary_limit : iteration.state.haystack.isBoundary iteration.state.limit = true
  isBoundary_pos : iteration.state.haystack.isBoundary iteration.state.pos = true

namespace Iteration.Aligned

variable {iteration : Iteration} {found : Interval}

theorem started {sequence : Sequence Id} (reports : sequence.ReportsBoundaries) (scope : Scope)
    (lead? : Option Lead) : Iteration.Aligned ⟨scope, sequence.matches scope lead?⟩ :=
  ⟨reports, scope.isBoundary_limit, scope.isBoundary_first⟩

/-- What a step hands out is placed. -/
theorem placed_next (aligned : iteration.Aligned)
    (handed : iteration.state.next.run.1 = some found) : found.Placed := by
  obtain ⟨reports, limitBoundary, boundary⟩ := aligned
  exact Sequence.placed_of_findFrom? reports limitBoundary boundary
    (Matches.findFrom?_of_next handed)

/-- A step goes on at a boundary. -/
theorem advance (aligned : iteration.Aligned) : iteration.advance.Aligned := by
  obtain ⟨reports, limitBoundary, boundary⟩ := aligned
  unfold Iteration.advance
  rcases iteration.state.next_cases with ⟨found, answer, same⟩ | same
  · have placed := Sequence.placed_of_findFrom? reports limitBoundary boundary answer
    have within := Sequence.within_findFrom?
      (Haystack.le_size_of_isBoundary limitBoundary) answer
    have boundary' := placed.isBoundary_resume
    rw [within.haystack] at boundary'
    rw [same]
    exact ⟨reports, limitBoundary, boundary'⟩
  · rw [same]
    exact ⟨reports, limitBoundary, boundary⟩

end Iteration.Aligned

namespace Session

variable {session : Session} {call : Call} {found : Interval}

/-- The patterns that the call brings along lead to boundaries only. -/
def Call.ReportsBoundaries (call : Call) : Prop :=
  ∀ sequence, call.sequence? = some sequence → sequence.ReportsBoundaries

/-- All intervals end at boundaries, and all iterators go on at boundaries. -/
structure Aligned (session : Session) : Prop where
  answers : ∀ interval, some interval ∈ session.answers → interval.Placed
  iterations : ∀ iteration ∈ session.iterations, iteration.Aligned

namespace Aligned

/-- The next answer is placed too. -/
theorem placed (aligned : session.Aligned) (reports : call.ReportsBoundaries)
    (origin : session.Origin call found) : found.Placed := by
  cases origin with
  | made placed => exact placed
  | @found sequence scope _ brings answer =>
    exact Sequence.placed_of_findFrom? (reports sequence brings) scope.isBoundary_limit
      scope.isBoundary_first answer
  | @next iteration _ member handed =>
    exact (aligned.iterations iteration member).placed_next handed
  | @gap sequence interval next limit brings member answer =>
    have held := aligned.answers interval member
    let scope := Scope.ofRange interval.haystack interval.stop limit
    have behind := Sequence.placed_of_findFrom? (reports sequence brings) scope.isBoundary_limit
      scope.isBoundary_first answer
    have boundary := behind.isBoundary_start
    rw [(Sequence.within_find? answer).haystack] at boundary
    refine ⟨held.isBoundary_stop, ?_, Nat.le_max_right ..⟩
    rcases Nat.le_total next.start interval.stop with le | ge
    · rw [Nat.max_eq_right le]
      exact held.isBoundary_stop
    · rw [Nat.max_eq_left ge]
      exact boundary

/-- A call whose patterns lead to boundaries only keeps the session aligned. -/
theorem step (aligned : session.Aligned) (reports : call.ReportsBoundaries) :
    (session.step call).Aligned where
  answers := forall_answers_step aligned.answers fun _ answer =>
    aligned.placed reports (origin_of_answer? answer)
  iterations := forall_iterations_step aligned.iterations
    (fun sequence scope brings => .started (reports sequence brings) scope _)
    fun _ aligned => aligned.advance

end Aligned

/-- A session is aligned if the patterns of all its calls lead to boundaries only. -/
theorem aligned_run (leads : Sequence Id → Option Lead) {calls : List Call}
    (reports : ∀ call ∈ calls, call.ReportsBoundaries) : (run leads calls).Aligned :=
  List.foldlRecOn calls step ⟨nofun, nofun⟩ fun _ aligned call member =>
    aligned.step (reports call member)

/-- **Whatever the calls, their intervals are valid**, and whatever leads the searches use: an
answer lies in its haystack, in the interval that the call searches, be the ends of that inside
characters or not, and behind the interval that the call goes on behind. If the patterns of all
calls report boundaries only, the ends of the answer are boundaries and its text is what stands
between them, byte for byte. -/
theorem answer_valid (leads : Sequence Id → Option Lead) (calls : List Call) (call : Call)
    (found : Interval) (answer : (run leads calls).answer? call = some found) :
    (found.start ≤ found.stop ∧ found.stop ≤ found.haystack.size) ∧
    (∀ interval, (run leads calls).searched? call = some (Scope.ofInterval interval) →
      found.haystack = interval.haystack ∧ interval.start ≤ found.start ∧
        found.stop ≤ interval.stop) ∧
    (∀ sequence index previous, call = .findAfter sequence index previous →
      previous.stop ≤ found.start) ∧
    ((∀ made ∈ call :: calls, made.ReportsBoundaries) →
      found.haystack.isBoundary found.start = true ∧
      found.haystack.isBoundary found.stop = true ∧
      Text.bytes found.text = found.haystack.bytesBetween found.start found.stop ∧
      Text.byteSize found.text = found.length) := by
  have sound := sound_run leads calls
  refine ⟨?_, ?_, ?_, ?_⟩
  · have inText := sound.inText (origin_of_answer? answer)
    exact ⟨inText.ordered, inText.stop_le⟩
  · intro interval searched
    have inside := sound.inside_of_answer? answer searched
    exact ⟨inside.haystack, inside.start_le, inside.le_stop interval.stop rfl⟩
  · rintro sequence index previous rfl
    exact stop_le_start_of_findAfter answer
  · intro reports
    obtain ⟨reports, earlier⟩ := List.forall_mem_cons.1 reports
    have placed := (aligned_run leads earlier).placed reports (origin_of_answer? answer)
    have window := placed.slice?_eq
    refine ⟨placed.isBoundary_start, placed.isBoundary_stop,
      (Haystack.bytesBetween_of_slice? window).symm, ?_⟩
    obtain ⟨-, -, -, -, reach⟩ := Haystack.slice?_eq_some_iff.1 window
    unfold Interval.length
    omega

/-- An iterator over an interval that starts inside the `é` finds the `a` behind it, with the lead
of the sequence or without one. -/
theorem answer_valid_letters :
    let hay : Haystack := { text := ['a', 'é', 'a'] }
    let interval : Interval := ⟨hay, 2, 4⟩
    let calls : List Call :=
      [.full hay, .iterate ⟨[.text [['a']] .exact], rfl⟩ (Scope.ofInterval interval)]
    let found : Interval := ⟨hay, 3, 4⟩
    (run Sequence.lead? calls).answer? (.next 0) = some found ∧
      (run (fun _ => none) calls).answer? (.next 0) = some found ∧ found.stop ≤ hay.size ∧
      interval.start ≤ found.start ∧ found.stop ≤ interval.stop ∧
      hay.isBoundary found.start = true ∧ hay.isBoundary found.stop = true ∧
      Text.bytes found.text = hay.bytesBetween 3 4 := by
  intro hay interval calls found
  have answer : (run Sequence.lead? calls).answer? (.next 0) = some found := by decide +kernel
  have answer' : (run (fun _ => none) calls).answer? (.next 0) = some found := by decide +kernel
  have reports : ∀ made ∈ .next 0 :: calls, made.ReportsBoundaries := by
    intro made member sequence brings hay
    simp only [calls, List.mem_cons, List.not_mem_nil, or_false] at member
    rcases member with rfl | rfl | rfl
    · cases brings
    · cases brings
    · obtain rfl := Option.some_inj.1 brings
      exact Pattern.reportBoundaries_of_own (by decide)
  obtain ⟨⟨-, stop_le⟩, inside, -, aligned⟩ := answer_valid _ calls (.next 0) found answer'
  obtain ⟨-, start_le, le_stop⟩ := inside interval rfl
  obtain ⟨boundary, boundary', bytes, -⟩ := aligned reports
  exact ⟨answer, answer', stop_le, start_le, le_stop, boundary, boundary', bytes⟩

end Session

end PatternSearch
