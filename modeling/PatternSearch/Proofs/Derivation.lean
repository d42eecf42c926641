import PatternSearch.Proofs.Step
import PatternSearch.Sequence

/-!
# Derivations

A derivation tells how a list of patterns accounts for the text from a start to a stop. It says
nothing of failures or of the order in which things are tried, except that it records the choices it
makes: at each text the literal, at each wildcard the length of the gap.

- `Pattern.Derives`: the derivations, with one constructor for each way of a pattern to go on.
- `Pattern.DerivesFirst`: a derivation whose choices come before those of all others.
- `Pattern.settles_evalAll`: where wildcards are `WildcardsAbsorbed`, to try the patterns finds the
  first derivation, and fails only if there is none.
- `Sequence.eval_finds_first_derivation`: the same of a sequence.
-/

namespace PatternSearch

variable {hay : Haystack} {start limit stop : Nat} {ending : Ending}

namespace Pattern

variable {patterns rest : List (Pattern Id)} {choices : List Nat}

/-! ## Derivations -/

/-- The patterns account for the text from a start to a stop, with the given choices. -/
inductive Derives (hay : Haystack) (limit : Nat) (ending : Ending) :
    List (Pattern Id) → Nat → List Nat → Nat → Prop where
  /-- No pattern is left; the ending may ask for the limit. -/
  | done {start : Nat} : (ending = .atLimit → start = limit) →
    Derives hay limit ending [] start [] start
  /-- Nothing is left before the limit; what follows does not count. -/
  | limit {rest : List (Pattern Id)} : Derives hay limit ending (.limit :: rest) limit [] limit
  /-- The match ends; what follows does not count. -/
  | finish {rest : List (Pattern Id)} {start : Nat} :
    Derives hay limit ending (.finish :: rest) start [] start
  /-- The last wildcard takes everything up to the limit. -/
  | anyLast {start : Nat} : Derives hay limit ending [.any] start [] limit
  /-- Any other wildcard takes a gap that ends at a boundary. -/
  | any {rest : List (Pattern Id)} {start gap stop : Nat} {choices : List Nat} : rest ≠ [] →
    hay.isBoundary (start + gap) = true → start + gap ≤ limit →
    Derives hay limit ending rest (start + gap) choices stop →
    Derives hay limit ending (.any :: rest) start (gap :: choices) stop
  /-- One of the literals of a text stands here. -/
  | text {literals : List Text} {casing : Casing} {rest : List (Pattern Id)} {literal : Text}
    {start mid stop index : Nat} {choices : List Nat} : literals[index]? = some literal →
    hay.Covers casing literal start mid → mid ≤ limit →
    Derives hay limit ending rest mid choices stop →
    Derives hay limit ending (.text literals casing :: rest) start (index :: choices) stop
  /-- None of the literals stands here. -/
  | except {literals : List Text} {casing : Casing} {rest : List (Pattern Id)} {start stop : Nat}
    {choices : List Nat} :
    (∀ literal ∈ literals, ∀ mid ≤ limit, ¬ hay.Covers casing literal start mid) →
    Derives hay limit ending rest start choices stop →
    Derives hay limit ending (.except literals casing :: rest) start choices stop
  /-- The longest row of the literal has an accepted length. -/
  | repeated {literal : Text} {casing : Casing} {atLeast atMost : Nat} {rest : List (Pattern Id)}
    {start mid stop count : Nat} {choices : List Nat} :
    hay.LongestRow casing literal limit count start mid →
    atLeast ≤ count → count ≤ atMost →
    Derives hay limit ending rest mid choices stop →
    Derives hay limit ending (.repeated literal casing atLeast atMost :: rest) start choices stop

/-- The other choices are the same, or are later where they first differ: a later literal or a
longer gap. -/
def ComeFirst (choices choices' : List Nat) : Prop :=
  choices' = choices ∨ List.Lex (· < ·) choices choices'

namespace ComeFirst

theorem refl (choices : List Nat) : ComeFirst choices choices :=
  .inl rfl

/-- The first choice decides if it differs. -/
theorem of_lt {choice choice' : Nat} {choices choices' : List Nat} (lt : choice < choice') :
    ComeFirst (choice :: choices) (choice' :: choices') :=
  .inr (.rel lt)

/-- Otherwise the remaining ones do. -/
theorem cons {choices choices' : List Nat} (choice : Nat) (first : ComeFirst choices choices') :
    ComeFirst (choice :: choices) (choice :: choices') := by
  rcases first with rfl | before
  · exact .refl _
  · exact .inr (.cons before)

theorem antisymm {choices choices' : List Nat} (first : ComeFirst choices choices')
    (first' : ComeFirst choices' choices) : choices = choices' := by
  rcases first with rfl | before
  · rfl
  · rcases first' with same | before'
    · exact same
    · exact absurd before' (List.lex_asymm (fun lt => Nat.lt_asymm lt) before)

end ComeFirst

/-- A derivation whose choices come first. -/
structure DerivesFirst (hay : Haystack) (limit : Nat) (ending : Ending)
    (patterns : List (Pattern Id)) (start : Nat) (choices : List Nat) (stop : Nat) : Prop where
  derives : Derives hay limit ending patterns start choices stop
  first : ∀ choices' stop', Derives hay limit ending patterns start choices' stop' →
    ComeFirst choices choices'

/-- The choices say where a derivation stops. -/
theorem Derives.unique {stop' : Nat}
    (derives : Derives hay limit ending patterns start choices stop)
    (derives' : Derives hay limit ending patterns start choices stop') : stop = stop' := by
  induction derives with
  | done _ | limit | finish => cases derives'; rfl
  | anyLast => cases derives'; rfl
  | any _ _ _ _ ih =>
    cases derives' with
    | any _ _ _ derives' => exact ih derives'
  | text at_index covers _ _ ih =>
    cases derives' with
    | text at_index' covers' _ derives' =>
      obtain rfl := Option.some_inj.1 (at_index.symm.trans at_index')
      obtain rfl := covers.unique covers'
      exact ih derives'
  | except _ _ ih =>
    cases derives' with
    | except _ derives' => exact ih derives'
  | repeated longest _ _ _ ih =>
    cases derives' with
    | repeated longest' _ _ derives' =>
      obtain ⟨-, rfl⟩ := longest.unique longest'
      exact ih derives'

/-- There is one first derivation at most. -/
theorem DerivesFirst.unique {choices' : List Nat} {stop' : Nat}
    (first : DerivesFirst hay limit ending patterns start choices stop)
    (first' : DerivesFirst hay limit ending patterns start choices' stop') : stop = stop' := by
  have before := first.first choices' stop' first'.derives
  have before' := first'.first choices stop first.derives
  obtain rfl : choices = choices' := before.antisymm before'
  exact first.derives.unique first'.derives

/-- The outcome is a success where the first derivation stops, or else there is no derivation. -/
def Settles (hay : Haystack) (limit : Nat) (ending : Ending) (patterns : List (Pattern Id))
    (start : Nat) : Outcome → Prop
  | .success stop => ∃ choices, DerivesFirst hay limit ending patterns start choices stop
  | _ => ∀ choices stop, ¬ Derives hay limit ending patterns start choices stop

/-- A failure that settles the matter leaves no derivation. -/
theorem Settles.not_derives {outcome : Outcome}
    (settles : Settles hay limit ending patterns start outcome)
    (fails : outcome.isSuccess = false) :
    ¬ Derives hay limit ending patterns start choices stop := by
  cases outcome with
  | success stop => cases fails
  | abort | backtrack => exact settles choices stop

/-- A success that settles the matter is that of the first derivation. -/
theorem Settles.derivesFirst {outcome : Outcome}
    (settles : Settles hay limit ending patterns start outcome)
    (succeeds : outcome.isSuccess = true) :
    ∃ choices stop, outcome = .success stop ∧
      DerivesFirst hay limit ending patterns start choices stop := by
  cases outcome with
  | success stop =>
    obtain ⟨choices, first⟩ := settles
    exact ⟨choices, stop, rfl, first⟩
  | abort | backtrack => cases succeeds

/-- What settles the matter is a success exactly if there is a derivation. -/
theorem Settles.exists_success_iff {outcome : Outcome}
    (settles : Settles hay limit ending patterns start outcome) :
    (∃ stop, outcome = .success stop) ↔
      ∃ choices stop, Derives hay limit ending patterns start choices stop := by
  constructor
  · rintro ⟨stop, rfl⟩
    obtain ⟨choices, first⟩ := settles
    exact ⟨choices, stop, first.derives⟩
  · rintro ⟨choices, stop, derives⟩
    cases outcome with
    | success reached => exact ⟨reached, rfl⟩
    | abort | backtrack => exact absurd derives (settles choices stop)

/-- It stops where the first derivation does. -/
theorem Settles.eq_success_iff {outcome : Outcome}
    (settles : Settles hay limit ending patterns start outcome) :
    outcome = .success stop ↔
      ∃ choices, DerivesFirst hay limit ending patterns start choices stop := by
  constructor
  · rintro rfl
    exact settles
  · rintro ⟨choices, first⟩
    obtain ⟨reached, rfl⟩ := settles.exists_success_iff.2 ⟨choices, stop, first.derives⟩
    obtain ⟨choices', first'⟩ := settles
    rw [first.unique first']

/-- If the derivations are those of what follows from another start, so is what settles them. -/
theorem Settles.congr {mid : Nat} {outcome : Outcome}
    (settles : Settles hay limit ending rest mid outcome)
    (same : ∀ choices stop, Derives hay limit ending patterns start choices stop ↔
      Derives hay limit ending rest mid choices stop) :
    Settles hay limit ending patterns start outcome := by
  cases outcome with
  | success stop =>
    obtain ⟨choices, derives, first⟩ := settles
    refine ⟨choices, (same choices stop).2 derives, ?_⟩
    intro choices' stop' derives'
    exact first choices' stop' ((same choices' stop').1 derives')
  | abort | backtrack =>
    intro choices stop derives
    exact settles choices stop ((same choices stop).1 derives)

/-! ## One pattern

Each pattern settles the matter if what follows it does, wherever that is tried.
-/

/-- What follows settles the matter at every boundary up to the limit. -/
def SettlesAfter (hay : Haystack) (limit : Nat) (ending : Ending) (rest : List (Pattern Id)) :
    Prop :=
  ∀ mid, hay.isBoundary mid = true → mid ≤ limit →
    Settles hay limit ending rest mid (evalAll rest hay mid limit ending).run

section OnePattern

variable {literals : List Text} {literal : Text} {casing : Casing} {atLeast atMost : Nat}

theorem settles_nil : Settles hay limit ending [] start (ending.outcome start limit) := by
  cases ending with
  | atLimit =>
    show Settles hay limit .atLimit [] start (if start = limit then .success start else .abort)
    by_cases reached : start = limit
    · rw [if_pos reached]
      refine ⟨[], .done fun _ => reached, ?_⟩
      intro choices' stop' derives
      cases derives
      exact ComeFirst.refl []
    · rw [if_neg reached]
      intro choices stop derives
      cases derives with
      | done at_limit => exact reached (at_limit rfl)
  | anywhere =>
    refine ⟨[], .done nofun, ?_⟩
    intro choices' stop' derives
    cases derives
    exact ComeFirst.refl []

theorem settles_limit : Settles hay limit ending (.limit :: rest) start
    (evalAll (.limit :: rest) hay start limit ending).run := by
  show Settles hay limit ending (.limit :: rest) start
    (if start = limit then .success start else .abort)
  by_cases reached : start = limit
  · rw [if_pos reached]
    subst reached
    refine ⟨[], .limit, ?_⟩
    intro choices' stop' derives
    cases derives
    exact ComeFirst.refl []
  · rw [if_neg reached]
    intro choices stop derives
    cases derives
    exact reached rfl

theorem settles_finish : Settles hay limit ending (.finish :: rest) start
    (evalAll (.finish :: rest) hay start limit ending).run := by
  refine ⟨[], .finish, ?_⟩
  intro choices' stop' derives
  cases derives
  exact ComeFirst.refl []

theorem settles_any_last : Settles hay limit ending [.any] start
    (evalAll (m := Id) [.any] hay start limit ending).run := by
  refine ⟨[], .anyLast, ?_⟩
  intro choices' stop' derives
  cases derives with
  | anyLast => exact ComeFirst.refl []
  | any more => exact absurd rfl more

/-- A wildcard that is not the last pattern sweeps over the places for what follows. -/
theorem evalAll_any (more : rest ≠ []) :
    evalAll (.any :: rest) hay start limit ending =
      hay.sweep limit (fun mid => evalAll rest hay mid limit ending) start := by
  show (if (continuation ending rest).isLast then _ else _) = _
  rw [isLast_continuation, List.isEmpty_eq_false_iff.2 more]
  rfl

/-- A gap comes first if what follows has a first derivation behind it, and none behind a shorter
one. -/
theorem DerivesFirst.any {gap : Nat} (more : rest ≠ [])
    (boundary : hay.isBoundary (start + gap) = true) (le : start + gap ≤ limit)
    (first : DerivesFirst hay limit ending rest (start + gap) choices stop)
    (shortest : ∀ gap' choices' stop', hay.isBoundary (start + gap') = true →
      Derives hay limit ending rest (start + gap') choices' stop' → gap ≤ gap') :
    DerivesFirst hay limit ending (.any :: rest) start (gap :: choices) stop := by
  refine ⟨.any more boundary le first.derives, ?_⟩
  intro choices' stop' derives'
  cases derives' with
  | anyLast => exact absurd rfl more
  | @any _ _ gap' _ choices' _ boundary' _ derives' =>
    rcases Nat.lt_or_eq_of_le (shortest gap' choices' stop' boundary' derives') with longer | rfl
    · exact .of_lt longer
    · exact (first.first choices' stop' derives').cons _

/-- With one literal there is nothing to choose. -/
theorem DerivesFirst.text_singleton {mid : Nat} (covers : hay.Covers casing literal start mid)
    (le : mid ≤ limit) (first : DerivesFirst hay limit ending rest mid choices stop) :
    DerivesFirst hay limit ending (.text [literal] casing :: rest) start (0 :: choices) stop := by
  refine ⟨.text rfl covers le first.derives, ?_⟩
  intro choices' stop' derives'
  cases derives' with
  | @text _ _ _ _ _ _ _ index' choices' at_index' covers' _ derives' =>
    cases index' with
    | succ _ => cases at_index'
    | zero =>
      obtain rfl := Option.some_inj.1 at_index'
      obtain rfl := covers.unique covers'
      exact (first.first choices' stop' derives').cons 0

/-- A wildcard finds the shortest gap, as long as no failure behind it keeps it from looking. -/
theorem settles_any (after : SettlesAfter hay limit ending rest) (more : rest ≠ [])
    (absorbs : ∀ mid, hay.isBoundary mid = true → mid ≤ limit →
      (evalAll rest hay mid limit ending).run ≠ .abort)
    (limitBoundary : hay.isBoundary limit = true) (boundary : hay.isBoundary start = true)
    (le : start ≤ limit) :
    Settles hay limit ending (.any :: rest) start
      (evalAll (.any :: rest) hay start limit ending).run := by
  rw [evalAll_any more]
  rcases hay.sweep_cases (fun mid => evalAll rest hay mid limit ending) limitBoundary boundary le
    with ⟨mid, isFirst, same⟩ | ⟨none, same⟩
  · have mid_le : mid ≤ limit := Nat.le_of_lt_succ isFirst.lt
    have succeeds : (evalAll rest hay mid limit ending).run.isSuccess = true := by
      cases outcome : (evalAll rest hay mid limit ending).run with
      | abort => exact absurd outcome (absorbs mid isFirst.boundary mid_le)
      | backtrack => exact absurd outcome isFirst.holds
      | success stop => rfl
    obtain ⟨choices, stop, outcome, first⟩ :=
      (after mid isFirst.boundary mid_le).derivesFirst succeeds
    obtain ⟨gap, rfl⟩ := Nat.exists_eq_add_of_le isFirst.le
    rw [same, outcome]
    refine ⟨gap :: choices, .any more isFirst.boundary mid_le first ?_⟩
    intro gap' choices' stop' boundary' derives'
    -- a shorter gap would end where what follows backtracks
    refine Nat.le_of_not_lt fun shorter => ?_
    have le' : start + gap' ≤ limit := by omega
    refine isFirst.least (start + gap') boundary' (Nat.le_add_right ..) (by omega) ?_
    intro fails
    refine (after (start + gap') boundary' le').not_derives ?_ derives'
    rw [fails]
    rfl
  · rw [same]
    intro choices stop derives
    cases derives with
    | anyLast => exact absurd rfl more
    | @any _ _ gap _ choices _ boundary' le' derives =>
      refine none (start + gap) boundary' (Nat.le_add_right ..) (Nat.lt_succ_of_le le') ?_
      intro fails
      refine (after (start + gap) boundary' le').not_derives ?_ derives
      rw [fails]
      rfl

/-- A text finds the first literal with which the rest succeeds. -/
theorem settles_text (after : SettlesAfter hay limit ending rest)
    (limitBoundary : hay.isBoundary limit = true) :
    Settles hay limit ending (.text literals casing :: rest) start
      (evalAll (.text literals casing :: rest) hay start limit ending).run := by
  show Settles hay limit ending (.text literals casing :: rest) start
    (firstSuccess (fun mid => evalAll rest hay mid limit ending)
      (literals.filterMap (hay.literalEnd? casing limit start))).run
  -- where a literal ends, what follows has a derivation only if it succeeds there
  have fails : ∀ literal mid, (hay.literalEnd? casing limit start literal = some mid →
        (evalAll rest hay mid limit ending).run.isSuccess = false) →
      hay.Covers casing literal start mid → mid ≤ limit →
      ∀ choices stop, ¬ Derives hay limit ending rest mid choices stop := by
    intro literal mid fail covers mid_le choices stop
    have ends := (Haystack.literalEnd?_eq_some_iff_covers limitBoundary).2 ⟨covers, mid_le⟩
    exact (after mid covers.isBoundary_stop mid_le).not_derives (fail ends)
  rcases firstSuccess_cases (fun mid => evalAll rest hay mid limit ending)
      (hay.literalEnd? casing limit start) literals with
    ⟨index, literal, mid, at_index, ends, succeeds, same, earlier⟩ | ⟨none, same⟩
  · obtain ⟨covers, mid_le⟩ := (Haystack.literalEnd?_eq_some_iff_covers limitBoundary).1 ends
    obtain ⟨choices, stop, outcome, derives, first⟩ :=
      (after mid covers.isBoundary_stop mid_le).derivesFirst succeeds
    rw [same, outcome]
    refine ⟨index :: choices, .text at_index covers mid_le derives, ?_⟩
    intro choices' stop' derives'
    cases derives' with
    | @text _ _ _ literal' _ mid' _ index' choices' at_index' covers' mid_le' derives' =>
      have index_le : index ≤ index' := by
        refine Nat.le_of_not_lt fun before => ?_
        exact fails literal' mid' (earlier index' before literal' mid' at_index') covers' mid_le'
          choices' stop' derives'
      rcases Nat.lt_or_eq_of_le index_le with later | rfl
      · exact .of_lt later
      · obtain rfl : literal = literal' := Option.some_inj.1 (at_index.symm.trans at_index')
        obtain rfl : mid = mid' := covers.unique covers'
        exact (first choices' stop' derives').cons _
  · rw [same]
    intro choices stop derives
    cases derives with
    | @text _ _ _ literal _ mid _ index choices at_index covers mid_le derives =>
      exact fails literal mid (none literal (List.mem_of_getElem? at_index) mid) covers mid_le
        choices stop derives

theorem settles_except (after : SettlesAfter hay limit ending rest)
    (limitBoundary : hay.isBoundary limit = true) (boundary : hay.isBoundary start = true)
    (le : start ≤ limit) :
    Settles hay limit ending (.except literals casing :: rest) start
      (evalAll (.except literals casing :: rest) hay start limit ending).run := by
  rw [evalAll_except]
  by_cases stands :
      (literals.any fun literal => (hay.literalEnd? casing limit start literal).isSome) = true
  · rw [if_pos stands]
    intro choices stop derives
    cases derives with
    | except missing _ =>
      obtain ⟨literal, member, ends⟩ := List.any_eq_true.1 stands
      obtain ⟨mid, ends⟩ := Option.isSome_iff_exists.1 ends
      obtain ⟨covers, mid_le⟩ := (Haystack.literalEnd?_eq_some_iff_covers limitBoundary).1 ends
      exact missing literal member mid mid_le covers
  · rw [if_neg stands]
    have missing :
        ∀ literal ∈ literals, ∀ mid ≤ limit, ¬ hay.Covers casing literal start mid := by
      intro literal member mid mid_le covers
      have ends := (Haystack.literalEnd?_eq_some_iff_covers limitBoundary).2 ⟨covers, mid_le⟩
      refine stands (List.any_eq_true.2 ⟨literal, member, ?_⟩)
      rw [ends]
      rfl
    refine (after start boundary le).congr fun choices stop => ⟨?_, .except missing⟩
    intro derives
    cases derives with
    | except _ derives => exact derives

/-- A repetition takes the longest row, or none. -/
theorem settles_repeated (after : SettlesAfter hay limit ending rest) (nonempty : literal ≠ [])
    (limitBoundary : hay.isBoundary limit = true) (boundary : hay.isBoundary start = true)
    (le : start ≤ limit) :
    Settles hay limit ending (.repeated literal casing atLeast atMost :: rest) start
      (evalAll (.repeated literal casing atLeast atMost :: rest) hay start limit ending).run := by
  have longest : hay.LongestRow casing literal limit (hay.run casing limit literal start).1 start
      (hay.run casing limit literal start).2 :=
    Haystack.longestRow_run limitBoundary nonempty le
  rw [evalAll_repeated]
  generalize (hay.run casing limit literal start).1 = count at longest ⊢
  generalize (hay.run casing limit literal start).2 = mid at longest ⊢
  by_cases accepted : atLeast ≤ count ∧ count ≤ atMost
  · rw [if_pos accepted]
    have mid_boundary := longest.row.isBoundary_stop boundary
    refine (after mid mid_boundary longest.le_limit).congr fun choices stop => ⟨?_, ?_⟩
    · intro derives
      cases derives with
      | repeated longest' _ _ derives =>
        obtain ⟨rfl, rfl⟩ := longest.unique longest'
        exact derives
    · exact .repeated longest accepted.1 accepted.2
  · rw [if_neg accepted]
    have none : ∀ choices stop, ¬ Derives hay limit ending
        (.repeated literal casing atLeast atMost :: rest) start choices stop := by
      intro choices stop derives
      cases derives with
      | repeated longest' at_least at_most _ =>
        obtain ⟨rfl, rfl⟩ := longest.unique longest'
        exact accepted ⟨at_least, at_most⟩
    split
    · exact none
    · exact none

end OnePattern

/-! ## Lists of patterns -/

/-- Every wildcard but the last pattern is followed by a text, a wildcard or a `finish`. -/
def WildcardsAbsorbed (patterns : List (Pattern Id)) : Prop :=
  ∀ before pattern after, patterns = before ++ .any :: pattern :: after →
    pattern.kind = .text ∨ pattern.kind = .any ∨ pattern.kind = .finish

theorem WildcardsAbsorbed.tail {pattern : Pattern Id}
    (absorbed : WildcardsAbsorbed (pattern :: rest)) : WildcardsAbsorbed rest := by
  intro before next after split
  refine absorbed (pattern :: before) next after ?_
  rw [split]
  rfl

theorem WildcardsAbsorbed.head {pattern : Pattern Id}
    (absorbed : WildcardsAbsorbed (.any :: pattern :: rest)) :
    pattern.kind = .text ∨ pattern.kind = .any ∨ pattern.kind = .finish :=
  absorbed [] pattern rest rfl

/-- A text tries its literals, and backtracks in the end. -/
theorem evalAll_text_ne_abort {literals : List Text} {casing : Casing} :
    (evalAll (.text literals casing :: rest) hay start limit ending).run ≠ .abort := by
  intro aborts
  rcases firstSuccess_cases (fun mid => evalAll rest hay mid limit ending)
      (hay.literalEnd? casing limit start) literals with
    ⟨-, -, mid, -, -, succeeds, same, -⟩ | ⟨-, same⟩
  · rw [same.symm.trans aborts] at succeeds
    cases succeeds
  · exact nomatch aborts.symm.trans same

/-- A wildcard aborts only if what follows does. -/
theorem evalAll_any_ne_abort
    (absorbs : ∀ mid, hay.isBoundary mid = true → mid ≤ limit →
      (evalAll rest hay mid limit ending).run ≠ .abort)
    (limitBoundary : hay.isBoundary limit = true) (boundary : hay.isBoundary start = true)
    (le : start ≤ limit) :
    (evalAll (.any :: rest) hay start limit ending).run ≠ .abort := by
  intro aborts
  rw [evalAll_cons] at aborts
  dsimp only [eval] at aborts
  split at aborts
  · cases aborts
  · rcases hay.sweep_cases (fun mid => evalAll rest hay mid limit ending) limitBoundary boundary le
      with ⟨mid, isFirst, same⟩ | ⟨-, same⟩
    · exact absorbs mid isFirst.boundary (Nat.le_of_lt_succ isFirst.lt) (same.symm.trans aborts)
    · exact nomatch aborts.symm.trans same

/-- No pattern that may follow a wildcard aborts. -/
theorem evalAll_ne_abort {pattern : Pattern Id}
    (absorbed : WildcardsAbsorbed (pattern :: rest))
    (kind : pattern.kind = .text ∨ pattern.kind = .any ∨ pattern.kind = .finish)
    (limitBoundary : hay.isBoundary limit = true) (boundary : hay.isBoundary start = true)
    (le : start ≤ limit) :
    (evalAll (pattern :: rest) hay start limit ending).run ≠ .abort := by
  -- a row of wildcards leads to a pattern that keeps every failure behind it to itself
  induction rest generalizing pattern start with
  | nil =>
    cases pattern with
    | text literals casing => exact evalAll_text_ne_abort
    | any | finish => nofun
    | _ => rcases kind with kind | kind | kind <;> cases kind
  | cons next rest ih =>
    cases pattern with
    | text literals casing => exact evalAll_text_ne_abort
    | finish => nofun
    | any =>
      refine evalAll_any_ne_abort (fun mid boundary' le' => ?_) limitBoundary boundary le
      exact ih absorbed.tail absorbed.head boundary' le'
    | _ => rcases kind with kind | kind | kind <;> cases kind

/-- To try patterns settles whether there is a derivation and which one is the first. -/
theorem settles_evalAll (own : ∀ pattern ∈ patterns, pattern.kind ≠ .custom)
    (nonempty : ∀ literal casing atLeast atMost,
      .repeated literal casing atLeast atMost ∈ patterns → literal ≠ [])
    (absorbed : WildcardsAbsorbed patterns) (limitBoundary : hay.isBoundary limit = true) :
    SettlesAfter hay limit ending patterns := by
  -- induction on the list, over all the offsets where the rest may be tried
  induction patterns with
  | nil => exact fun _ _ _ => settles_nil
  | cons pattern rest ih =>
    have after : SettlesAfter hay limit ending rest := by
      refine ih (fun other member => own other (.tail pattern member)) ?_ absorbed.tail
      intro literal casing atLeast atMost member
      exact nonempty literal casing atLeast atMost (.tail pattern member)
    intro start boundary le
    cases pattern with
    | limit => exact settles_limit
    | finish => exact settles_finish
    | any =>
      cases rest with
      | nil => exact settles_any_last
      | cons next rest =>
        refine settles_any after nofun (fun mid boundary' le' => ?_) limitBoundary boundary le
        exact evalAll_ne_abort absorbed.tail absorbed.head limitBoundary boundary' le'
    | text literals casing => exact settles_text after limitBoundary
    | except literals casing => exact settles_except after limitBoundary boundary le
    | repeated literal casing atLeast atMost =>
      have nonempty' := nonempty literal casing atLeast atMost (.head rest)
      exact settles_repeated after nonempty' limitBoundary boundary le
    | custom name logic => exact absurd rfl (own _ (.head rest))

end Pattern

/-! ## Sequences -/

/-- In a list without an offence no pattern has one in its place. -/
theorem Pattern.offence?_eq_none_of_firstOffence? {index : Nat} {previous : Option Pattern.Kind}
    {patterns : List (Pattern Id)} {pattern : Pattern Id}
    (clean : firstOffence? index previous patterns = none) (member : pattern ∈ patterns) :
    ∃ index previous isLast, pattern.offence? index previous isLast = none := by
  induction patterns generalizing index previous with
  | nil => cases member
  | cons head rest ih =>
    rw [firstOffence?] at clean
    cases offence : head.offence? index previous rest.isEmpty with
    | some found =>
      rw [offence] at clean
      cases clean
    | none =>
      rw [offence] at clean
      cases member with
      | head => exact ⟨index, previous, rest.isEmpty, offence⟩
      | tail _ member => exact ih clean member

namespace Sequence

/-- No pattern of a sequence has an offence in its place. -/
theorem offence?_eq_none (sequence : Sequence Id) {pattern : Pattern Id}
    (member : pattern ∈ sequence.patterns) :
    ∃ index previous isLast, pattern.offence? index previous isLast = none := by
  obtain ⟨patterns, valid⟩ := sequence
  have clean : Pattern.firstOffence? 0 none patterns = none := by
    cases patterns with
    | nil => cases member
    | cons => exact valid
  exact Pattern.offence?_eq_none_of_firstOffence? clean member

/-- A sequence repeats no empty literal. -/
theorem repeated_ne_nil (sequence : Sequence Id) {literal : Text} {casing : Casing}
    {atLeast atMost : Nat}
    (member : .repeated literal casing atLeast atMost ∈ sequence.patterns) : literal ≠ [] := by
  obtain ⟨index, previous, isLast, valid⟩ := sequence.offence?_eq_none member
  rintro rfl
  cases valid

/-- **To try a sequence finds the first derivation**: it succeeds exactly if there is a derivation,
and stops where the first one does. -/
theorem eval_finds_first_derivation (sequence : Sequence Id)
    (own : ∀ pattern ∈ sequence.patterns, pattern.kind ≠ .custom)
    (absorbed : Pattern.WildcardsAbsorbed sequence.patterns)
    (boundary : hay.isBoundary start = true) (limitBoundary : hay.isBoundary limit = true)
    (le : start ≤ limit) :
    ((∃ stop, (sequence.eval hay start limit ending).run = .success stop) ↔
      ∃ choices stop, Pattern.Derives hay limit ending sequence.patterns start choices stop) ∧
    ∀ stop, (sequence.eval hay start limit ending).run = .success stop ↔
      ∃ choices, Pattern.DerivesFirst hay limit ending sequence.patterns start choices stop := by
  have settles : Pattern.Settles hay limit ending sequence.patterns start
      (sequence.eval hay start limit ending).run := by
    rw [sequence.eval_eq_evalAll]
    exact Pattern.settles_evalAll own (fun _ _ _ _ member => sequence.repeated_ne_nil member)
      absorbed limitBoundary start boundary le
  cases outcome : (sequence.eval hay start limit ending).run with
  | success reached =>
    rw [outcome] at settles
    obtain ⟨choices, first⟩ := settles
    refine ⟨⟨fun _ => ⟨choices, reached, first.derives⟩, fun _ => ⟨reached, rfl⟩⟩,
      fun stop => ?_⟩
    constructor
    · intro same
      obtain rfl := Outcome.success.inj same
      exact ⟨choices, first⟩
    · rintro ⟨choices', first'⟩
      rw [first.unique first']
  | abort | backtrack =>
    rw [outcome] at settles
    refine ⟨⟨nofun, ?_⟩, fun stop => ⟨nofun, ?_⟩⟩
    · rintro ⟨choices, stop, derives⟩
      exact absurd derives (settles choices stop)
    · rintro ⟨choices, first⟩
      exact absurd first.derives (settles choices stop)

/-- A wildcard, then `b` or `ab`, up to the end of `aab`: there is a derivation, the first of which
takes the shorter gap although the literal behind the longer one is declared earlier. -/
theorem eval_finds_first_derivation_letters :
    let hay : Haystack := { text := ['a', 'a', 'b'] }
    let sequence : Sequence Id := ⟨[.any, .text [['b'], ['a', 'b']] .exact], rfl⟩
    ∃ choices, Pattern.DerivesFirst hay 3 .anywhere sequence.patterns 0 choices 3 := by
  intro hay sequence
  have absorbed : Pattern.WildcardsAbsorbed sequence.patterns := by
    intro before pattern after split
    rcases before with _ | ⟨_, _ | ⟨_, _ | _⟩⟩
    · cases split
      exact .inl rfl
    · cases split
    · cases split
    · cases split
  have first : (sequence.eval hay 0 3 .anywhere).run = .success 3 ↔
      ∃ choices, Pattern.DerivesFirst hay 3 .anywhere sequence.patterns 0 choices 3 :=
    (eval_finds_first_derivation sequence (by decide) absorbed (by decide) (by decide)
      (by decide)).2 3
  exact first.1 (by decide +kernel)

end Sequence

end PatternSearch
