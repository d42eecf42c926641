import PatternSearch.Text.Ascii
import PatternSearch.Text.Case
import PatternSearch.Proofs.Boundary

/-!
# Searching bytes for a letter of either case

The byte search splits its input at the first byte outside ASCII and looks at the front part only.
Here it is the same as one pass (`Text.findAsciiFolded?_eq_findIdx?`), and, on the bytes of a text,
the first character that may fold to the letter (`Haystack.finds_findAsciiFolded?`): one that
is the letter in either case, or that is outside ASCII.
-/

namespace PatternSearch

namespace Text

/-! ## The two cases of a byte -/

theorem toNat_lowerByte (b : UInt8) :
    (lowerByte b).toNat = if 65 ≤ b.toNat ∧ b.toNat ≤ 90 then b.toNat + 32 else b.toNat := by
  unfold lowerByte
  simp only [UInt8.le_iff_toNat_le, UInt8.reduceToNat]
  split
  · rw [UInt8.toNat_add]
    simp only [UInt8.reduceToNat]
    omega
  · rfl

theorem toNat_upperByte (b : UInt8) :
    (upperByte b).toNat = if 97 ≤ b.toNat ∧ b.toNat ≤ 122 then b.toNat - 32 else b.toNat := by
  unfold upperByte
  simp only [UInt8.le_iff_toNat_le, UInt8.reduceToNat]
  split
  · rw [UInt8.toNat_sub_of_le]
    · rfl
    · simp only [UInt8.le_iff_toNat_le, UInt8.reduceToNat]
      omega
  · rfl

/-- Two bytes have one lower case form if the one is the other in one of its cases. -/
theorem lowerByte_eq_lowerByte_iff {b letter : UInt8} :
    lowerByte b = lowerByte letter ↔ b = lowerByte letter ∨ b = upperByte letter := by
  simp only [← UInt8.toNat_inj, toNat_lowerByte, toNat_upperByte]
  split <;> split <;> split <;> omega

@[simp] theorem lowerByte_lowerByte (b : UInt8) : lowerByte (lowerByte b) = lowerByte b :=
  lowerByte_eq_lowerByte_iff.2 (.inl rfl)

/-! ## One pass over the bytes -/

/-- Whether a character that begins with this byte may fold to the ASCII character `letter`. -/
def mayFold (letter b : UInt8) : Bool :=
  !isAsciiByte b || (b == lowerByte letter || b == upperByte letter)

theorem mayFold_eq_true_iff {b letter : UInt8} :
    mayFold letter b = true ↔ isAsciiByte b = false ∨ lowerByte b = lowerByte letter := by
  rw [lowerByte_eq_lowerByte_iff]
  simp [mayFold]

/-- Splitting at the first byte outside ASCII changes nothing: the search is one pass. -/
theorem findAsciiFolded?_eq_findIdx? (bytes : List UInt8) (letter : UInt8) :
    findAsciiFolded? bytes letter = bytes.findIdx? (mayFold letter) := by
  induction bytes with
  | nil => rfl
  | cons b bytes ih =>
    rw [List.findIdx?_cons, ← ih]
    unfold findAsciiFolded? mayFold
    by_cases ascii : isAsciiByte b = true
    · simp only [List.takeWhile_cons_of_pos ascii, List.findIdx?_cons, ascii, Bool.not_true,
        Bool.false_or]
      by_cases hit : (b == lowerByte letter || b == upperByte letter) = true
      · rw [if_pos hit, if_pos hit]
      · rw [if_neg hit, if_neg hit]
        cases (bytes.takeWhile isAsciiByte).findIdx?
            fun b => b == lowerByte letter || b == upperByte letter with
        | some i => rfl
        | none =>
          simp only [Option.map_none, List.length_cons, Nat.add_lt_add_iff_right]
          split <;> rfl
    · simp [List.takeWhile_cons_of_neg ascii, ascii]

/-! ## The bytes of a character -/

/-- The only byte of an ASCII character is its code point. -/
theorem utf8EncodeChar_of_ascii {c : Char} (ascii : c.toNat < 128) :
    String.utf8EncodeChar c = [UInt8.ofNat c.toNat] :=
  if_pos (Nat.le_of_lt_succ ascii)

theorem utf8Size_of_ascii {c : Char} (ascii : c.toNat < 128) : c.utf8Size = 1 := by
  rw [← String.length_utf8EncodeChar, utf8EncodeChar_of_ascii ascii]
  rfl

theorem toNat_ofNat_of_ascii {n : Nat} (ascii : n < 128) : (UInt8.ofNat n).toNat = n :=
  UInt8.toNat_ofNat_of_lt (Nat.lt_trans ascii (by decide))

theorem isAsciiByte_ofNat {n : Nat} (ascii : n < 128) : isAsciiByte (UInt8.ofNat n) = true := by
  rw [isAsciiByte, decide_eq_true_iff, UInt8.lt_iff_toNat_lt, toNat_ofNat_of_ascii ascii]
  exact ascii

/-- All bytes of a character outside ASCII are outside ASCII. -/
theorem isAsciiByte_of_mem_utf8EncodeChar {c : Char} (wide : 128 ≤ c.toNat) :
    ∀ b ∈ String.utf8EncodeChar c, isAsciiByte b = false := by
  have outside : ∀ n, 128 ≤ n → n < 256 → isAsciiByte (UInt8.ofNat n) = false := by
    intro n wide small
    have value : (UInt8.ofNat n).toNat = n := UInt8.toNat_ofNat_of_lt small
    rw [isAsciiByte, decide_eq_false_iff_not, UInt8.lt_iff_toNat_lt, value]
    exact Nat.not_lt.2 wide
  have value : c.val.toNat = c.toNat := rfl
  fun_cases String.utf8EncodeChar c with
  | case1 => omega
  | case2 =>
    simp only [List.mem_cons, List.not_mem_nil, or_false]
    rintro b (rfl | rfl) <;> exact outside _ (by omega) (by omega)
  | case3 =>
    simp only [List.mem_cons, List.not_mem_nil, or_false]
    rintro b (rfl | rfl | rfl) <;> exact outside _ (by omega) (by omega)
  | case4 =>
    simp only [List.mem_cons, List.not_mem_nil, or_false]
    rintro b (rfl | rfl | rfl | rfl) <;> exact outside _ (by omega) (by omega)

/-- A character outside ASCII begins with a byte outside ASCII. -/
theorem exists_utf8EncodeChar {c : Char} (wide : 128 ≤ c.toNat) :
    ∃ lead rest, String.utf8EncodeChar c = lead :: rest ∧ isAsciiByte lead = false := by
  cases encoded : String.utf8EncodeChar c with
  | nil => exact absurd encoded String.utf8EncodeChar_ne_nil
  | cons lead rest =>
    refine ⟨lead, rest, rfl, isAsciiByte_of_mem_utf8EncodeChar wide lead ?_⟩
    rw [encoded]
    exact .head rest

/-- Every byte at which no character starts is outside ASCII. -/
theorem exists_drop_bytes {t : Text} {n : Nat} (within : n < byteSize t)
    (between : dropBytes? t n = none) :
    ∃ b rest, (bytes t).drop n = b :: rest ∧ isAsciiByte b = false := by
  induction t generalizing n with
  | nil => cases within
  | cons c t ih =>
    have split : bytes (c :: t) = String.utf8EncodeChar c ++ bytes t := rfl
    have length : (String.utf8EncodeChar c).length = c.utf8Size := String.length_utf8EncodeChar c
    rw [byteSize_cons] at within
    rw [split, List.drop_append]
    rcases Nat.lt_or_ge n c.utf8Size with inside | behind
    · -- an offset inside a character leaves some of its bytes, which are more than one
      have wide : 128 ≤ c.toNat := by
        refine Nat.le_of_not_lt fun ascii => ?_
        rw [utf8Size_of_ascii ascii] at inside
        obtain rfl : n = 0 := by omega
        rw [dropBytes?_zero] at between
        cases between
      cases left : (String.utf8EncodeChar c).drop n with
      | nil =>
        have := List.drop_eq_nil_iff.1 left
        omega
      | cons b rest =>
        have member : b ∈ (String.utf8EncodeChar c).drop n := left ▸ .head rest
        exact ⟨b, _, rfl,
          isAsciiByte_of_mem_utf8EncodeChar wide b (List.mem_of_mem_drop member)⟩
    · obtain ⟨further, rfl⟩ := Nat.exists_eq_add_of_le behind
      rw [dropBytes?_cons_add] at between
      rw [List.drop_eq_nil_of_le (by omega), List.nil_append, length, Nat.add_sub_cancel_left]
      exact ih (by omega) between

/-! ## Folding to an ASCII character -/

/-- The code point of the lower case form of an ASCII character. -/
theorem toNat_toLower (c : Char) :
    c.toLower.toNat = if 65 ≤ c.toNat ∧ c.toNat ≤ 90 then c.toNat + 32 else c.toNat := by
  have value : c.val.toNat = c.toNat := rfl
  unfold Char.toLower
  by_cases upper : c.val ≥ 'A'.val ∧ c.val ≤ 'Z'.val
  · rw [dif_pos upper]
    simp only [ge_iff_le, UInt32.le_iff_toNat_le, Char.reduceVal, UInt32.reduceToNat] at upper
    rw [if_pos (by omega)]
    show (c.val + _).toNat = _
    simp only [Char.reduceVal, UInt32.reduceSub, UInt32.toNat_add, UInt32.reduceToNat]
    omega
  · rw [dif_neg upper]
    simp only [ge_iff_le, UInt32.le_iff_toNat_le, Char.reduceVal, UInt32.reduceToNat] at upper
    rw [if_neg (by omega)]

/-- The byte of the folded form of an ASCII character is the lower case form of its byte. -/
theorem ofNat_foldChar {c : Char} (ascii : c.toNat < 128) :
    UInt8.ofNat (foldChar c).toNat = lowerByte (UInt8.ofNat c.toNat) := by
  rw [← UInt8.toNat_inj, toNat_lowerByte, toNat_ofNat_of_ascii ascii, foldChar, if_pos ascii,
    toNat_toLower]
  exact UInt8.toNat_ofNat_of_lt (show _ < 256 by split <;> omega)

/-- ASCII characters have one folded form if their bytes have one lower case form. -/
theorem foldChar_eq_foldChar_iff {c d : Char} (ascii : c.toNat < 128) (ascii' : d.toNat < 128) :
    foldChar c = foldChar d ↔
      lowerByte (UInt8.ofNat c.toNat) = lowerByte (UInt8.ofNat d.toNat) := by
  rw [foldChar, foldChar, if_pos ascii, if_pos ascii', ← Char.toNat_inj, toNat_toLower,
    toNat_toLower, ← UInt8.toNat_inj, toNat_lowerByte, toNat_lowerByte,
    toNat_ofNat_of_ascii ascii, toNat_ofNat_of_ascii ascii']

/-- An ASCII character that folds to an ASCII character is that character in one of the cases. -/
theorem mayFold_of_foldChar_eq {c folded : Char} (ascii : c.toNat < 128)
    (same : foldChar c = folded) :
    mayFold (UInt8.ofNat folded.toNat) (UInt8.ofNat c.toNat) = true := by
  rw [mayFold_eq_true_iff, ← same, ofNat_foldChar ascii, lowerByte_lowerByte]
  exact .inr rfl

end Text

/-! ## In a haystack -/

namespace Haystack

variable {hay : Haystack} {pos limit : Nat}

/-- The bytes from a boundary on are those of the character that starts there and what follows. -/
theorem bytesBetween_of_from? {c : Char} {rest : Text} (cut : hay.from? pos = some (c :: rest))
    (near : hay.next pos ≤ limit) :
    hay.bytesBetween pos limit =
      String.utf8EncodeChar c ++ hay.bytesBetween (hay.next pos) limit := by
  rw [next_of_from? cut] at near ⊢
  obtain ⟨front, split, rfl⟩ := from?_eq_some_iff.1 cut
  have whole : Text.bytes hay.text =
      (Text.bytes front ++ String.utf8EncodeChar c) ++ Text.bytes rest := by
    simp [Text.bytes, split]
  have length : (Text.bytes front ++ String.utf8EncodeChar c).length =
      Text.byteSize front + c.utf8Size := by
    simp
  unfold bytesBetween
  rw [whole, ← length, List.drop_left, List.append_assoc, ← Text.length_bytes front,
    List.drop_left, List.take_append, List.take_of_length_le (by simp; omega)]
  congr 2
  simp
  omega

/-- Whether the character that starts at the offset may fold to the ASCII character `letter`. -/
def MayFoldAt (hay : Haystack) (letter : UInt8) (pos : Nat) : Prop :=
  ∃ c rest, hay.from? pos = some (c :: rest) ∧
    (c.toNat < 128 → Text.mayFold letter (UInt8.ofNat c.toNat) = true)

/-- The byte search finds the first character that may fold to the letter. -/
theorem finds_findAsciiFolded? (letter : UInt8) (limitBoundary : hay.isBoundary limit = true)
    (boundary : hay.isBoundary pos = true) (le : pos ≤ limit) :
    hay.Finds pos limit (hay.MayFoldAt letter)
      ((Text.findAsciiFolded? (hay.bytesBetween pos limit) letter).map (pos + ·)) := by
  rw [Text.findAsciiFolded?_eq_findIdx?]
  induction pos, boundary, le using walk_induction limitBoundary with
  | last =>
    rw [bytesBetween, Nat.sub_self, List.take_zero, List.findIdx?_nil]
    exact noneBelow_of_ge (Nat.le_refl limit)
  | step pos boundary lt near ahead ih =>
    have inside : limit ≤ hay.size := le_size_of_isBoundary limitBoundary
    obtain ⟨c, rest, cut⟩ := exists_from?_cons boundary (Nat.lt_of_lt_of_le lt inside)
    rw [bytesBetween_of_from? cut near]
    rcases Nat.lt_or_ge c.toNat 128 with ascii | wide
    · rw [Text.utf8EncodeChar_of_ascii ascii, List.singleton_append, List.findIdx?_cons]
      by_cases hit : Text.mayFold letter (UInt8.ofNat c.toNat) = true
      · rw [if_pos hit]
        exact IsFirst.here boundary lt ⟨c, rest, cut, fun _ => hit⟩
      · rw [if_neg hit, Option.map_map]
        have shift : ((pos + ·) ∘ fun i => i + 1) = (hay.next pos + ·) := by
          funext i
          rw [next_of_from? cut, Text.utf8Size_of_ascii ascii]
          show pos + (i + 1) = pos + 1 + i
          omega
        rw [shift]
        refine ih.skip (noneBelow_next boundary ?_) (Nat.le_of_lt ahead)
        rintro ⟨c', rest', cut', imp⟩
        obtain ⟨rfl, -⟩ := List.cons.inj (Option.some_inj.1 (cut.symm.trans cut'))
        exact hit (imp ascii)
    · obtain ⟨lead, more, encoded, outside⟩ := Text.exists_utf8EncodeChar wide
      rw [encoded, List.cons_append, List.findIdx?_cons, Text.mayFold, outside]
      exact IsFirst.here boundary lt
        ⟨c, rest, cut, fun ascii => absurd ascii (Nat.not_lt.2 wide)⟩

end Haystack

end PatternSearch
