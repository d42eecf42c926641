import PatternSearch.Proofs.ByteSearch

/-!
# The first candidate among bytes

The search for a letter of either case is put together from plainer searches: one for the end of the
ASCII bytes in front, and one among these for the letter in its two cases, which may be a single
one. Whatever does these plainer searches, the answer is the first byte that is the letter in either
case or outside ASCII. In the bytes of a text, that is where the first character starts that may
have the folded form of the letter.

- `Text.FindsByte`, `Text.FindsChar`: the answer to a search for the first byte of a list, or the
  first character of a text, with a property.
- `Text.ByteSearches`: searches that find the first byte outside ASCII, and the first that is one of
  two given ones. The search that is made of them is `Text.findAsciiFolded?`
  (`Text.ByteSearches.findAsciiFolded?_eq`).
- `Text.findsChar_findAsciiFolded?`: the search in the bytes of a text.
- `Text.findAsciiFolded?_finds_first_candidate`: the search as a whole.
-/

namespace PatternSearch

namespace Text

variable {bytes : List UInt8} {letter : UInt8} {answer : Option Nat}

/-! ## The first byte with a property -/

/-- The answer to a search for the first byte with a property. -/
def FindsByte (wanted : UInt8 → Prop) (bytes : List UInt8) : Option Nat → Prop
  | some place => IsLeast {place | ∃ b, bytes[place]? = some b ∧ wanted b} place
  | none => ∀ b ∈ bytes, ¬ wanted b

/-- It is what one pass over the bytes answers. -/
theorem findsByte_iff_findIdx?_eq {wanted : UInt8 → Prop} {test : UInt8 → Bool}
    (test_iff : ∀ b, test b = true ↔ wanted b) :
    FindsByte wanted bytes answer ↔ bytes.findIdx? test = answer := by
  cases answer with
  | none =>
    rw [List.findIdx?_eq_none_iff]
    refine forall₂_congr fun b _ => ?_
    rw [← test_iff, Bool.not_eq_true]
  | some place =>
    rw [List.findIdx?_eq_some_iff_getElem]
    constructor
    · rintro ⟨⟨b, at_place, holds⟩, least⟩
      obtain ⟨inside, rfl⟩ := List.getElem?_eq_some_iff.1 at_place
      refine ⟨inside, (test_iff _).2 holds, fun earlier before hit => ?_⟩
      have le : place ≤ earlier :=
        least ⟨_, List.getElem?_eq_getElem (Nat.lt_trans before inside), (test_iff _).1 hit⟩
      omega
    · rintro ⟨inside, hit, first⟩
      refine ⟨⟨_, List.getElem?_eq_getElem inside, (test_iff _).1 hit⟩, ?_⟩
      rintro other ⟨b, at_other, holds⟩
      obtain ⟨inside', rfl⟩ := List.getElem?_eq_some_iff.1 at_other
      exact Nat.le_of_not_lt fun before => first other before ((test_iff _).2 holds)

/-! ## Plainer searches -/

/-- Searches for the first byte outside ASCII, for the first that is a given one, and for the first
that is one of two given ones. -/
structure ByteSearches where
  outsideAscii? : List UInt8 → Option Nat
  one? : UInt8 → List UInt8 → Option Nat
  two? : UInt8 → UInt8 → List UInt8 → Option Nat
  finds_outsideAscii? : ∀ bytes,
    FindsByte (fun b => isAsciiByte b = false) bytes (outsideAscii? bytes)
  finds_one? : ∀ given bytes, FindsByte (fun b => b = given) bytes (one? given bytes)
  finds_two? : ∀ given given' bytes,
    FindsByte (fun b => b = given ∨ b = given') bytes (two? given given' bytes)

namespace ByteSearches

/-- Each of the searches as one pass. -/
def onePass : ByteSearches where
  outsideAscii? bytes := bytes.findIdx? fun b => !isAsciiByte b
  one? given bytes := bytes.findIdx? (· == given)
  two? given given' bytes := bytes.findIdx? fun b => b == given || b == given'
  finds_outsideAscii? _ := (findsByte_iff_findIdx?_eq (by simp)).2 rfl
  finds_one? _ _ := (findsByte_iff_findIdx?_eq (by simp)).2 rfl
  finds_two? _ _ _ := (findsByte_iff_findIdx?_eq (by simp)).2 rfl

/-- The number of ASCII bytes in front. -/
def asciiPrefixLength (searches : ByteSearches) (bytes : List UInt8) : Nat :=
  (searches.outsideAscii? bytes).getD bytes.length

/-- The place of the first byte that is one of two, which may be one and the same. -/
def either? (searches : ByteSearches) (given given' : UInt8) (bytes : List UInt8) : Option Nat :=
  if given = given' then searches.one? given bytes else searches.two? given given' bytes

/-- The search for a letter: among the ASCII bytes in front, and then right behind them. -/
def findAsciiFolded? (searches : ByteSearches) (bytes : List UInt8) (letter : UInt8) : Option Nat :=
  let length := searches.asciiPrefixLength bytes
  (searches.either? (lowerByte letter) (upperByte letter) (bytes.take length)).or
    (if (bytes.drop length).isEmpty then none else some length)

variable (searches : ByteSearches)

theorem asciiPrefixLength_eq (bytes : List UInt8) :
    searches.asciiPrefixLength bytes = Text.asciiPrefixLength bytes := by
  have found : bytes.findIdx? (fun b => !isAsciiByte b) = searches.outsideAscii? bytes :=
    (findsByte_iff_findIdx?_eq (by simp)).1 (searches.finds_outsideAscii? bytes)
  rw [asciiPrefixLength, ← found, ← List.findIdx_eq_getD_findIdx?, Text.asciiPrefixLength,
    List.takeWhile_eq_take_findIdx_not, List.length_take, Nat.min_eq_left List.findIdx_le_length]

theorem either?_eq (given given' : UInt8) (bytes : List UInt8) :
    searches.either? given given' bytes = bytes.findIdx? fun b => b == given || b == given' := by
  unfold either?
  split
  · next same =>
    subst same
    exact ((findsByte_iff_findIdx?_eq (by simp)).1 (searches.finds_one? given bytes)).symm
  · exact ((findsByte_iff_findIdx?_eq (by simp)).1 (searches.finds_two? given given' bytes)).symm

/-- Whatever the plainer searches are, they make the same search. -/
theorem findAsciiFolded?_eq (bytes : List UInt8) (letter : UInt8) :
    searches.findAsciiFolded? bytes letter = Text.findAsciiFolded? bytes letter := by
  have front : bytes.take (Text.asciiPrefixLength bytes) = bytes.takeWhile isAsciiByte := by
    have begins : bytes.takeWhile isAsciiByte <+: bytes := List.takeWhile_prefix isAsciiByte
    exact (List.prefix_iff_eq_take.1 begins).symm
  have none_left : (bytes.drop (Text.asciiPrefixLength bytes)).isEmpty = true ↔
      ¬ Text.asciiPrefixLength bytes < bytes.length := by
    rw [List.isEmpty_iff, List.drop_eq_nil_iff, Nat.not_lt]
  unfold findAsciiFolded? Text.findAsciiFolded?
  simp only [asciiPrefixLength_eq, either?_eq, front, none_left, ite_not]
  cases (bytes.takeWhile isAsciiByte).findIdx?
      fun b => b == lowerByte letter || b == upperByte letter with
  | some place => rfl
  | none => rfl

end ByteSearches

/-! ## The first character with a property -/

/-- The answer to a search for the first character of a text with a property: the boundary where it
starts. -/
def FindsChar (wanted : Char → Prop) (t : Text) : Option Nat → Prop
  | some place => ∃ front c rest, t = front ++ c :: rest ∧ byteSize front = place ∧
      wanted c ∧ ∀ d ∈ front, ¬ wanted d
  | none => ∀ d ∈ t, ¬ wanted d

end Text

namespace Haystack

variable {hay : Haystack} {pos : Nat} {letter : UInt8}

/-- The first boundary where a character with a property starts is where the first such character
does. -/
theorem Finds.findsChar {property : Nat → Prop} {wanted : Char → Prop} {answer : Option Nat}
    (property_iff : ∀ {pos c rest}, hay.from? pos = some (c :: rest) →
      (property pos ↔ wanted c))
    (finds : hay.Finds 0 hay.size property answer) : Text.FindsChar wanted hay.text answer := by
  -- a character that comes before `stop` starts at a boundary before it
  have starts : ∀ {front rest stop}, hay.text = front ++ rest → Text.byteSize front = stop →
      hay.NoneBelow 0 stop property → ∀ d ∈ front, ¬ wanted d := by
    rintro _ rest _ split rfl none d member holds
    obtain ⟨before, behind, rfl⟩ := List.append_of_mem member
    have cut : hay.from? (Text.byteSize before) = some (d :: (behind ++ rest)) :=
      from?_eq_some_iff.2 ⟨before, by simp [split], rfl⟩
    refine none _ (Option.isSome_iff_exists.2 ⟨_, cut⟩) (Nat.zero_le _) ?_
      ((property_iff cut).2 holds)
    have := d.utf8Size_pos
    simp
    omega
  cases answer with
  | none => exact starts (List.append_nil _).symm hay.size_eq.symm finds
  | some place =>
    obtain ⟨c, rest, cut⟩ := exists_from?_cons finds.boundary finds.lt
    have holds := (property_iff cut).1 finds.holds
    obtain ⟨front, split, size⟩ := from?_eq_some_iff.1 cut
    exact ⟨front, c, rest, split, size, holds, starts split size finds.noneBelow⟩

/-- A character may fold to an ASCII character if it is outside ASCII, or one of its cases. -/
theorem mayFoldAt_iff {c : Char} {rest : Text} (ascii : Text.isAsciiByte letter = true)
    (cut : hay.from? pos = some (c :: rest)) :
    hay.MayFoldAt letter pos ↔
      128 ≤ c.toNat ∨ Text.foldChar c = Text.foldChar (Char.ofUInt8 letter) := by
  have small : (Char.ofUInt8 letter).toNat < 128 := by
    rw [Text.isAsciiByte, decide_eq_true_iff, UInt8.lt_iff_toNat_lt] at ascii
    exact ascii
  have same_byte : UInt8.ofNat (Char.ofUInt8 letter).toNat = letter := UInt8.ofNat_toNat
  have of_ascii : c.toNat < 128 → (Text.mayFold letter (UInt8.ofNat c.toNat) = true ↔
      Text.foldChar c = Text.foldChar (Char.ofUInt8 letter)) := by
    intro ascii'
    rw [Text.mayFold_eq_true_iff, Text.isAsciiByte_ofNat ascii',
      Text.foldChar_eq_foldChar_iff ascii' small, same_byte]
    simp
  constructor
  · rintro ⟨c', rest', cut', imp⟩
    obtain ⟨rfl, -⟩ := List.cons.inj (Option.some_inj.1 (cut.symm.trans cut'))
    rcases Nat.lt_or_ge c.toNat 128 with ascii' | wide
    · exact .inr ((of_ascii ascii').1 (imp ascii'))
    · exact .inl wide
  · rintro (wide | same)
    · exact ⟨c, rest, cut, fun ascii' => absurd ascii' (Nat.not_lt.2 wide)⟩
    · exact ⟨c, rest, cut, fun ascii' => (of_ascii ascii').2 same⟩

end Haystack

namespace Text

variable {letter : UInt8}

/-- In the bytes of a text, the search finds where the first character starts that may fold to the
letter. -/
theorem findsChar_findAsciiFolded? (ascii : isAsciiByte letter = true) (t : Text) :
    FindsChar (fun c => 128 ≤ c.toNat ∨ foldChar c = foldChar (Char.ofUInt8 letter)) t
      (findAsciiFolded? (bytes t) letter) := by
  let hay : Haystack := { text := t }
  have window : hay.bytesBetween 0 hay.size = bytes t := by
    refine Haystack.bytesBetween_of_slice? (Haystack.slice?_eq_some_iff.2 ⟨[], [], ?_, rfl, ?_⟩)
    · exact (List.append_nil t).symm
    · rw [Nat.zero_add, Haystack.size_eq]
  have finds := Haystack.finds_findAsciiFolded? letter hay.isBoundary_size hay.isBoundary_zero
    (Nat.zero_le _)
  rw [window] at finds
  have shift :
      (findAsciiFolded? (bytes t) letter).map (0 + ·) = findAsciiFolded? (bytes t) letter := by
    simp
  rw [shift] at finds
  exact finds.findsChar (Haystack.mayFoldAt_iff ascii)

/-- The ASCII bytes in front of a text are those of the ASCII characters in front. -/
theorem exists_ascii_front (t : Text) :
    ∃ front rest, t = front ++ rest ∧ byteSize front = asciiPrefixLength (bytes t) ∧
      (∀ c ∈ front, c.toNat < 128) ∧ ∀ c ∈ rest.head?, 128 ≤ c.toNat := by
  induction t with
  | nil => exact ⟨[], [], rfl, rfl, nofun, nofun⟩
  | cons c t ih =>
    rcases Nat.lt_or_ge c.toNat 128 with ascii | wide
    · obtain ⟨front, rest, split, size, narrow, first⟩ := ih
      refine ⟨c :: front, rest, congrArg (c :: ·) split, ?_,
        List.forall_mem_cons.2 ⟨ascii, narrow⟩, first⟩
      rw [byteSize_cons, size, utf8Size_of_ascii ascii, bytes_cons, utf8EncodeChar_of_ascii ascii,
        List.singleton_append, asciiPrefixLength, asciiPrefixLength,
        List.takeWhile_cons_of_pos (isAsciiByte_ofNat ascii), List.length_cons, Nat.add_comm]
    · obtain ⟨lead, more, encoded, outside⟩ := exists_utf8EncodeChar wide
      have miss : ¬ isAsciiByte lead = true := by simp [outside]
      refine ⟨[], c :: t, rfl, ?_, nofun, ?_⟩
      · rw [bytes_cons, encoded, List.cons_append, asciiPrefixLength,
          List.takeWhile_cons_of_neg miss]
        rfl
      · rintro _ ⟨⟩
        exact wide

/-! ## The search -/

/-- **The byte search finds the first candidate**: in any bytes, for an ASCII letter, it finds the
first one that is outside ASCII or the letter in either case, if there is one. It is one pass over
the bytes, and what is made of any plainer searches. In the bytes of a text it finds where the first
character starts that is outside ASCII or has the folded form of the letter, so that no character
before it has this, and none at all if there is no such place. The ASCII bytes in front of a text
end where its ASCII characters in front do. -/
theorem findAsciiFolded?_finds_first_candidate (searches : ByteSearches) (letter : UInt8)
    (ascii : isAsciiByte letter = true) :
    (∀ bytes,
      FindsByte (fun b => isAsciiByte b = false ∨ lowerByte b = lowerByte letter) bytes
        (findAsciiFolded? bytes letter) ∧
      findAsciiFolded? bytes letter = bytes.findIdx? (mayFold letter) ∧
      searches.findAsciiFolded? bytes letter = findAsciiFolded? bytes letter ∧
      searches.asciiPrefixLength bytes = asciiPrefixLength bytes) ∧
    ∀ t : Text,
      FindsChar (fun c => 128 ≤ c.toNat ∨ foldChar c = foldChar (Char.ofUInt8 letter)) t
        (findAsciiFolded? (bytes t) letter) ∧
      ∃ front rest, t = front ++ rest ∧ byteSize front = asciiPrefixLength (bytes t) ∧
        (∀ c ∈ front, c.toNat < 128) ∧ ∀ c ∈ rest.head?, 128 ≤ c.toNat := by
  refine ⟨fun bytes => ⟨?_, findAsciiFolded?_eq_findIdx? bytes letter,
    searches.findAsciiFolded?_eq bytes letter, searches.asciiPrefixLength_eq bytes⟩, fun t =>
    ⟨findsChar_findAsciiFolded? ascii t, exists_ascii_front t⟩⟩
  rw [findsByte_iff_findIdx?_eq fun b => mayFold_eq_true_iff, findAsciiFolded?_eq_findIdx?]

/-- Looking for a `k` of either case in `xxKk`, where the third character is the Kelvin sign, leads
to the sign, whose first byte is at 2. -/
theorem findAsciiFolded?_finds_first_candidate_kelvin :
    let bytes := bytes ['x', 'x', '\u212a', 'k']
    ByteSearches.onePass.findAsciiFolded? bytes 107 = some 2 ∧
      bytes.findIdx? (mayFold 107) = some 2 ∧
      FindsByte (fun b => isAsciiByte b = false ∨ lowerByte b = lowerByte 107) bytes (some 2) ∧
      FindsChar (fun c => 128 ≤ c.toNat ∨ foldChar c = 'k') ['x', 'x', '\u212a', 'k']
        (some 2) := by
  intro bytes
  have found : findAsciiFolded? bytes 107 = some 2 := by decide
  obtain ⟨among_bytes, in_text⟩ :=
    findAsciiFolded?_finds_first_candidate .onePass 107 (by decide)
  obtain ⟨finds, one_pass, made, -⟩ := among_bytes bytes
  rw [found] at finds one_pass made
  have starts := (in_text ['x', 'x', '\u212a', 'k']).1
  have found' : findAsciiFolded? (Text.bytes ['x', 'x', '\u212a', 'k']) 107 = some 2 := found
  rw [found'] at starts
  exact ⟨made, one_pass.symm, finds, starts⟩

end Text

end PatternSearch
