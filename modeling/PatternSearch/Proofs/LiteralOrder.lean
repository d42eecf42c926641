import PatternSearch.Proofs.DeclaredEnding
import PatternSearch.Proofs.Fusion
import PatternSearch.Proofs.SameAnswers

/-!
# The order of the literals

A text tries its literals in their order, and takes the first one behind which all the rest
succeeds. The order matters if two literals stand at one offset, and that they do only if one of
them begins with the other, letter case aside if the text says so: both begin what stands there. And
if both are the same, nothing comes of the second that did not come of the first. An `except` asks
only whether any of its literals stands, so for it the order never matters.

- `Casing.PrefixFree`: no literal begins with another one. Those of them that stand at one offset
  end at one (`Casing.PrefixFree.end_unique`), so with another order the same ends are tried
  (`Casing.PrefixFree.filterMap_eq_of_perm`).
- `firstSuccess_again`: to try a place again makes no difference.
- `Pattern.Rearranges`: the changes of a list of literals that make none; a pattern that is changed
  so does the same, whatever follows (`Pattern.Rearranges.eval_eq`).
- `Sequence.rearranged_literals_agree`: so the sequences answer alike.
-/

namespace PatternSearch

variable {hay : Haystack} {start limit stop stop' : Nat} {casing : Casing} {literal other : Text}
  {literals literals' : List Text}

/-! ## Literals at one offset -/

/-- No literal begins with another one, as far as the casing can tell; it may be there twice. -/
def Casing.PrefixFree (casing : Casing) (literals : List Text) : Prop :=
  ∀ literal ∈ literals, ∀ other ∈ literals,
    literal.map casing.key <+: other.map casing.key →
      literal.map casing.key = other.map casing.key

instance : Decidable (casing.PrefixFree literals) :=
  inferInstanceAs (Decidable (∀ literal ∈ literals, ∀ other ∈ literals,
    literal.map casing.key <+: other.map casing.key →
      literal.map casing.key = other.map casing.key))

/-- Literals that the casing cannot tell apart stand at the same offsets, with the same ends. -/
theorem Haystack.literalEnd?_congr (same : literal.map casing.key = other.map casing.key) :
    hay.literalEnd? casing limit start literal = hay.literalEnd? casing limit start other := by
  ext stop
  rw [literalEnd?_eq_some_iff, literalEnd?_eq_some_iff, same]

/-- Of two literals that stand at one offset, one begins with the other. -/
theorem Haystack.prefix_or_prefix_of_literalEnd?
    (found : hay.literalEnd? casing limit start literal = some stop)
    (found' : hay.literalEnd? casing limit start other = some stop') :
    literal.map casing.key <+: other.map casing.key ∨
      other.map casing.key <+: literal.map casing.key := by
  obtain ⟨part, rest, window, -, keys⟩ := literalEnd?_eq_some_iff.1 found
  obtain ⟨part', rest', window', -, keys'⟩ := literalEnd?_eq_some_iff.1 found'
  -- the parts that agree with them both begin the text up to the limit
  have begins : part <+: part ++ rest := List.prefix_append part rest
  have begins' : part' <+: part ++ rest := by
    rw [Option.some_inj.1 (window.symm.trans window')]
    exact List.prefix_append part' rest'
  rw [← keys, ← keys']
  rcases List.prefix_or_prefix_of_prefix begins begins' with shorter | longer
  · exact .inl (shorter.map casing.key)
  · exact .inr (longer.map casing.key)

namespace Casing.PrefixFree

/-- Literals that stand at one offset have one end. -/
theorem end_unique (free : casing.PrefixFree literals) (member : literal ∈ literals)
    (member' : other ∈ literals) (found : hay.literalEnd? casing limit start literal = some stop)
    (found' : hay.literalEnd? casing limit start other = some stop') : stop = stop' := by
  have same : literal.map casing.key = other.map casing.key := by
    rcases Haystack.prefix_or_prefix_of_literalEnd? found found' with shorter | longer
    · exact free literal member other member' shorter
    · exact (free other member' literal member longer).symm
  rw [Haystack.literalEnd?_congr same] at found
  exact Option.some_inj.1 (found.symm.trans found')

/-- So their ends are the same in every order. -/
theorem filterMap_eq_of_perm (free : casing.PrefixFree literals) (perm : literals.Perm literals') :
    literals.filterMap (hay.literalEnd? casing limit start) =
      literals'.filterMap (hay.literalEnd? casing limit start) := by
  have perm_ends := perm.filterMap (hay.literalEnd? casing limit start)
  cases ends : literals.filterMap (hay.literalEnd? casing limit start) with
  | nil =>
    rw [ends] at perm_ends
    exact perm_ends.nil_eq
  | cons stop rest =>
    -- all of them are the first one
    have one_end : ∀ stop' ∈ stop :: rest, stop' = stop := by
      intro stop' listed
      rw [← ends] at listed
      obtain ⟨other, member', found'⟩ := List.mem_filterMap.1 listed
      obtain ⟨literal, member, found⟩ := List.mem_filterMap.1 (ends ▸ List.mem_cons_self)
      exact free.end_unique member' member found' found
    rw [ends, List.eq_replicate_of_mem one_end] at perm_ends
    rw [List.eq_replicate_of_mem one_end]
    exact (List.perm_replicate.1 perm_ends.symm).symm

end Casing.PrefixFree

/-! ## Alternatives that come again -/

/-- An attempt at several places succeeds if it does at one of them. -/
theorem isSuccess_firstSuccess (attempt : Nat → Id Outcome) (places : List Nat) :
    (firstSuccess attempt places).run.isSuccess =
      places.any fun place => (attempt place).run.isSuccess := by
  induction places with
  | nil => rfl
  | cons place rest ih =>
    rw [firstSuccess_cons, Id.run_bind, List.any_cons, ← ih]
    cases (attempt place).run <;> rfl

/-- A place that was tried before need not be tried again. -/
theorem firstSuccess_again (attempt : Nat → Id Outcome) {before : List Nat} {again : Nat}
    (member : again ∈ before) (behind : List Nat) :
    (firstSuccess attempt (before ++ again :: behind)).run =
      (firstSuccess attempt (before ++ behind)).run := by
  rw [firstSuccess_append, firstSuccess_append, firstSuccess_cons]
  have succeeds_iff := isSuccess_firstSuccess attempt before
  simp only [Id.run_bind]
  cases outcome : (firstSuccess attempt before).run with
  | success stop => rfl
  | abort | backtrack =>
    -- none of the places before succeeded, so this one does not
    rw [outcome] at succeeds_iff
    have fails := List.any_eq_false.1 succeeds_iff.symm again member
    dsimp only [Outcome.orElse]
    cases outcome' : (attempt again).run with
    | success stop =>
      rw [outcome'] at fails
      exact absurd rfl fails
    | abort | backtrack => simp [outcome']

namespace Pattern

variable {pattern pattern' : Pattern Id} {next : Continuation Id} {before behind : List Text}
  {again : Text}

/-! ## One pattern -/

/-- The second pattern is the first one with its literals in another order, where this does not
matter, or without one that stands further to the left already. -/
inductive Rearranges : Pattern Id → Pattern Id → Prop where
  | text {literals literals' : List Text} {casing : Casing} : casing.PrefixFree literals →
    literals.Perm literals' → Rearranges (.text literals casing) (.text literals' casing)
  | except {literals literals' : List Text} {casing : Casing} : literals.Perm literals' →
    Rearranges (.except literals casing) (.except literals' casing)
  | textAgain {before behind : List Text} {literal again : Text} {casing : Casing} :
    literal ∈ before → again.map casing.key = literal.map casing.key →
    Rearranges (.text (before ++ again :: behind) casing) (.text (before ++ behind) casing)
  | exceptAgain {before behind : List Text} {literal again : Text} {casing : Casing} :
    literal ∈ before → again.map casing.key = literal.map casing.key →
    Rearranges (.except (before ++ again :: behind) casing) (.except (before ++ behind) casing)

/-- A text need not try a literal again. -/
theorem eval_text_again (member : literal ∈ before)
    (same : again.map casing.key = literal.map casing.key) :
    (text (before ++ again :: behind) casing).eval hay start limit next =
      (text (before ++ behind) casing).eval hay start limit next := by
  dsimp only [eval]
  cases found : hay.literalEnd? casing limit start again with
  | none => rw [List.filterMap_append, List.filterMap_append, List.filterMap_cons_none found]
  | some stop =>
    have listed : stop ∈ before.filterMap (hay.literalEnd? casing limit start) :=
      List.mem_filterMap.2 ⟨literal, member, (Haystack.literalEnd?_congr same).symm.trans found⟩
    rw [List.filterMap_append, List.filterMap_append, List.filterMap_cons_some found]
    exact firstSuccess_again _ listed _

/-- A literal that is there already makes no difference to whether any stands. -/
theorem any_standing_again (member : literal ∈ before)
    (same : again.map casing.key = literal.map casing.key) :
    ((before ++ again :: behind).any fun literal =>
        (hay.literalEnd? casing limit start literal).isSome) =
      (before ++ behind).any fun literal =>
        (hay.literalEnd? casing limit start literal).isSome := by
  rw [List.any_append, List.any_append, List.any_cons, Haystack.literalEnd?_congr same]
  by_cases stands : (hay.literalEnd? casing limit start literal).isSome = true
  · rw [List.any_eq_true.2 ⟨literal, member, stands⟩, Bool.true_or, Bool.true_or]
  · rw [Bool.eq_false_iff.2 stands, Bool.false_or]

/-- A pattern with its literals rearranged does the same, whatever follows it. -/
theorem Rearranges.eval_eq (rearranges : pattern.Rearranges pattern') :
    pattern.eval hay start limit next = pattern'.eval hay start limit next := by
  cases rearranges with
  | text free perm =>
    dsimp only [eval]
    rw [free.filterMap_eq_of_perm perm]
  | except perm =>
    dsimp only [eval]
    rw [perm.any_eq]
  | textAgain member same => exact eval_text_again member same
  | exceptAgain member same =>
    dsimp only [eval]
    rw [any_standing_again member same]

theorem Rearranges.own (rearranges : pattern.Rearranges pattern') :
    pattern.kind ≠ .custom ∧ pattern'.kind ≠ .custom := by
  cases rearranges <;> exact ⟨nofun, nofun⟩

/-- It is allowed where the other one is. -/
theorem Rearranges.offence?_eq_none_iff (rearranges : pattern.Rearranges pattern')
    (front tail : List (Pattern Id)) :
    Sequence.offence? (front ++ pattern :: tail) = none ↔
      Sequence.offence? (front ++ pattern' :: tail) = none := by
  have same : ∀ index index' previous, firstOffence? index previous (pattern :: tail) = none ↔
      firstOffence? index' previous (pattern' :: tail) = none := by
    intro index index' previous
    cases rearranges with
    | text | except | textAgain | exceptAgain =>
      simp only [firstOffence?_cons_eq_none_iff, offence?, true_and]
      exact firstOffence?_eq_none_iff_shifted tail _ _ _
  exact Sequence.offence?_append_eq_none_iff (List.cons_ne_nil _ _) (List.cons_ne_nil _ _) same
    front

end Pattern

namespace Sequence

/-- **The order of the literals matters only if one begins with another**: among patterns that are
not of a caller's own, an `except` may have its literals in any order, a text may have if none of
them begins with another one, and either may leave out a literal that is there already, letter case
aside if it says so. The patterns come to the same wherever they are tried, the one list is a
sequence if the other is, and the two sequences answer alike. -/
theorem rearranged_literals_agree {pattern pattern' : Pattern Id}
    (rearranges : pattern.Rearranges pattern') (front tail : List (Pattern Id))
    (own : ∀ other ∈ front ++ tail, other.kind ≠ .custom) :
    (∀ hay start limit ending,
      (Pattern.evalAll (front ++ pattern :: tail) hay start limit ending).run =
        (Pattern.evalAll (front ++ pattern' :: tail) hay start limit ending).run) ∧
    (offence? (front ++ pattern :: tail) = none ↔ offence? (front ++ pattern' :: tail) = none) ∧
    ∀ sequence sequence' : Sequence Id, sequence.patterns = front ++ pattern :: tail →
      sequence'.patterns = front ++ pattern' :: tail → sequence.SameAnswers sequence' := by
  obtain ⟨own_front, own_tail⟩ := List.forall_mem_append.1 own
  have same : ∀ hay start limit ending,
      Pattern.evalAll (front ++ pattern :: tail) hay start limit ending =
        Pattern.evalAll (front ++ pattern' :: tail) hay start limit ending := by
    intro hay start limit ending
    have same_here : ∀ pos, Pattern.evalAll (pattern :: tail) hay pos limit ending =
        Pattern.evalAll (pattern' :: tail) hay pos limit ending := fun _ => rearranges.eval_eq
    exact Pattern.evalAll_append_cons_congr own_front same_here start
  refine ⟨fun hay start limit ending => congrArg Id.run (same hay start limit ending),
    rearranges.offence?_eq_none_iff front tail, ?_⟩
  intro sequence sequence' declared declared'
  refine sameAnswers_of_eval_eq (fun hay start limit ending => ?_) (.inr fun hay => ?_)
  · rw [eval_eq_evalAll, eval_eq_evalAll, declared, declared']
    exact same hay start limit ending
  · rw [declared]
    exact Pattern.reportBoundaries_of_own
      (List.forall_mem_append.2
        ⟨own_front, List.forall_mem_cons.2 ⟨rearranges.own.1, own_tail⟩⟩)

/-- A `k` or `ab` without a `c` behind it, letter case aside, in a text that ends in the Kelvin
sign: with the literals the other way round the same two matches are found, behind the same gap, and
the second `ab` matches as a whole. -/
theorem rearranged_literals_agree_letters :
    let hay : Haystack := { text := ['a', 'B', 'c', 'A', 'b', '\u212a'] }
    let sequence : Sequence Id :=
      ⟨[.text [['k'], ['a', 'b']] .folded, .except [['c']] .folded], rfl⟩
    let sequence' : Sequence Id :=
      ⟨[.text [['a', 'b'], ['k']] .folded, .except [['c']] .folded], rfl⟩
    ∀ either ∈ [sequence, sequence'],
      (either.isMatch (Scope.ofRange hay 3 5)).run = true ∧
      (either.findAll (Scope.full hay)).run = [⟨hay, 3, 5⟩, ⟨hay, 5, 8⟩] ∧
      (either.between? ⟨hay, 0, 1⟩).run = some ⟨hay, 1, 3⟩ := by
  intro hay sequence sequence'
  have whole : (sequence.isMatch (Scope.ofRange hay 3 5)).run = true := by decide +kernel
  have found : (sequence.findAll (Scope.full hay)).run = [⟨hay, 3, 5⟩, ⟨hay, 5, 8⟩] := by
    decide +kernel
  have gap : (sequence.between? ⟨hay, 0, 1⟩).run = some ⟨hay, 1, 3⟩ := by decide +kernel
  have own :
      ∀ other ∈ [(Pattern.except [['c']] .folded : Pattern Id)], other.kind ≠ .custom := by
    decide
  have rearranges : (Pattern.text [['k'], ['a', 'b']] .folded : Pattern Id).Rearranges
      (.text [['a', 'b'], ['k']] .folded) := .text (by decide) (List.Perm.swap _ _ _)
  obtain ⟨-, -, agree⟩ := rearranged_literals_agree rearranges [] [.except [['c']] .folded] own
  have alike := agree sequence sequence' rfl rfl
  refine List.forall_mem_cons.2 ⟨⟨whole, found, gap⟩, ?_⟩
  refine List.forall_mem_singleton.2 ⟨?_, ?_, ?_⟩
  · exact (alike.isMatch _).symm.trans whole
  · exact (alike.findAll _).symm.trans found
  · exact (alike.between? _).symm.trans gap

/-- With literals of which one begins with the other, the order does matter: in `ab`, an `a` or `ab`
ends behind the `a`, an `ab` or `a` behind the `b`. -/
example : let hay : Haystack := { text := ['a', 'b'] }
    (Pattern.evalAll [(.text [['a'], ['a', 'b']] .exact : Pattern Id)] hay 0 2 .anywhere).run =
        .success 1 ∧
      (Pattern.evalAll [(.text [['a', 'b'], ['a']] .exact : Pattern Id)] hay 0 2 .anywhere).run =
        .success 2 := by decide +kernel

end Sequence

end PatternSearch
