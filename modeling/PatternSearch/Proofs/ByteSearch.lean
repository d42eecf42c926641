import PatternSearch.Proofs.Lead
import PatternSearch.Proofs.Occurrence

/-!
# Literals byte by byte

The search for one of several literals goes from boundary to boundary and compares characters. A
search that knows of bytes only would look at every offset and compare bytes. It would see the same
literals: the bytes of a character tell the character and where it begins, so that the bytes of a
literal stand at boundaries only.

- `Text.exists_split_of_bytes`: where the bytes of a literal stand in those of a text, the text
  splits.
- `Haystack.standsAt_iff_occursAt`: a literal stands where its bytes do.
-/

namespace PatternSearch

namespace Text

/-! ## Bytes and characters -/

theorem bytes_cons (c : Char) (t : Text) : bytes (c :: t) = String.utf8EncodeChar c ++ bytes t :=
  rfl

theorem bytes_append (t t' : Text) : bytes (t ++ t') = bytes t ++ bytes t' :=
  List.flatMap_append

/-- The bytes of a character tell the character, whatever follows them. -/
theorem utf8EncodeChar_append_inj {c d : Char} {tail tail' : List UInt8}
    (same : String.utf8EncodeChar c ++ tail = String.utf8EncodeChar d ++ tail') :
    c = d ∧ tail = tail' := by
  have decode : ∀ (e : Char) (more : List UInt8),
      ByteArray.utf8DecodeChar? (String.utf8EncodeChar e ++ more).toByteArray 0 = some e := by
    intro e more
    rw [List.toByteArray_append]
    exact ByteArray.utf8DecodeChar?_utf8EncodeChar_append
  obtain rfl : c = d := by
    have first := decode c tail
    rw [same, decode d tail'] at first
    exact (Option.some_inj.1 first).symm
  exact ⟨rfl, List.append_cancel_left same⟩

/-- A text whose bytes begin with those of a literal begins with the literal. -/
theorem exists_append_of_bytes {t literal : Text} {tail : List UInt8}
    (same : bytes t = bytes literal ++ tail) : ∃ rest, t = literal ++ rest := by
  induction literal generalizing t with
  | nil => exact ⟨t, rfl⟩
  | cons d literal ih =>
    cases t with
    | nil =>
      have length := congrArg List.length same
      have := d.utf8Size_pos
      simp [bytes] at length
      omega
    | cons c t =>
      rw [bytes_cons, bytes_cons, List.append_assoc] at same
      obtain ⟨rfl, behind⟩ := utf8EncodeChar_append_inj same
      obtain ⟨rest, rfl⟩ := ih behind
      exact ⟨rest, rfl⟩

/-- The bytes of a literal do not stand inside a character. -/
theorem drop_utf8EncodeChar_ne {c d : Char} {n : Nat} {tail tail' : List UInt8} (pos : 0 < n)
    (lt : n < c.utf8Size) :
    (String.utf8EncodeChar c ++ tail).drop n ≠ String.utf8EncodeChar d ++ tail' := by
  intro same
  have inside : n < (String.utf8EncodeChar c).length := by
    rw [String.length_utf8EncodeChar]
    exact lt
  have first : 0 < (String.utf8EncodeChar d).length := by
    rw [String.length_utf8EncodeChar]
    exact d.utf8Size_pos
  have byte : (String.utf8EncodeChar c)[n] = (String.utf8EncodeChar d)[0] := by
    have heads : ((String.utf8EncodeChar c ++ tail).drop n)[0]? =
        (String.utf8EncodeChar d ++ tail')[0]? := by
      rw [same]
    rw [List.getElem?_drop, Nat.add_zero, List.getElem?_append_left inside,
      List.getElem?_append_left first, List.getElem?_eq_getElem inside,
      List.getElem?_eq_getElem first] at heads
    exact Option.some_inj.1 heads
  -- only the first byte of a character looks like the first byte of one
  have begins : (String.utf8EncodeChar c)[n].IsUTF8FirstByte := by
    rw [byte]
    exact UInt8.isUTF8FirstByte_getElem_utf8EncodeChar.2 rfl
  have := UInt8.isUTF8FirstByte_getElem_utf8EncodeChar.1 begins
  omega

/-- Where the bytes of a literal stand in those of a text, the text splits. -/
theorem exists_split_of_bytes {t literal : Text} {n : Nat} {tail : List UInt8}
    (nonempty : literal ≠ []) (same : (bytes t).drop n = bytes literal ++ tail) :
    ∃ front rest, t = front ++ (literal ++ rest) ∧ byteSize front = n := by
  induction t generalizing n with
  | nil =>
    obtain ⟨d, literal, rfl⟩ := List.exists_cons_of_ne_nil nonempty
    have length := congrArg List.length same
    have := d.utf8Size_pos
    simp [bytes] at length
    omega
  | cons c t ih =>
    rcases Nat.eq_zero_or_pos n with rfl | pos
    · obtain ⟨rest, split⟩ := exists_append_of_bytes same
      exact ⟨[], rest, split, rfl⟩
    · rcases Nat.lt_or_ge n c.utf8Size with inside | behind
      · obtain ⟨d, literal, rfl⟩ := List.exists_cons_of_ne_nil nonempty
        rw [bytes_cons, bytes_cons, List.append_assoc] at same
        exact absurd same (drop_utf8EncodeChar_ne pos inside)
      · have rest_bytes : (bytes t).drop (n - c.utf8Size) = bytes literal ++ tail := by
          rw [bytes_cons, List.drop_append, List.drop_eq_nil_of_le, String.length_utf8EncodeChar]
            at same
          · exact same
          · rw [String.length_utf8EncodeChar]
            exact behind
        obtain ⟨front, rest, rfl, size⟩ := ih rest_bytes
        refine ⟨c :: front, rest, rfl, ?_⟩
        rw [byteSize_cons, size]
        omega

end Text

namespace Haystack

variable {hay : Haystack} {start stop pos limit : Nat} {literals : List Text}

/-! ## In a haystack -/

/-- The bytes between two boundaries are those of the text between them. -/
theorem bytesBetween_of_slice? {part : Text} (window : hay.slice? start stop = some part) :
    hay.bytesBetween start stop = Text.bytes part := by
  obtain ⟨front, rest, whole, rfl, rfl⟩ := slice?_eq_some_iff.1 window
  unfold bytesBetween
  rw [whole, Text.bytes_append, Text.bytes_append, ← Text.length_bytes front, List.drop_left,
    Nat.add_sub_cancel_left, ← Text.length_bytes part, List.take_left]

/-- Bytes are left out at the front by going on behind them. -/
theorem drop_bytesBetween (hay : Haystack) (pos limit count : Nat) :
    (hay.bytesBetween pos limit).drop count = hay.bytesBetween (pos + count) limit := by
  rw [bytesBetween, bytesBetween, List.drop_take, List.drop_drop, Nat.sub_sub]

/-- The bytes of one of the literals stand at the offset, all of them before the limit. -/
def OccursAt (hay : Haystack) (limit : Nat) (literals : List Text) (pos : Nat) : Prop :=
  ∃ literal ∈ literals, Text.bytes literal <+: hay.bytesBetween pos limit

/-- A literal stands at an offset exactly if its bytes do. -/
theorem standsAt_iff_occursAt (limitBoundary : hay.isBoundary limit = true)
    (nonempty : ∀ literal ∈ literals, literal ≠ []) :
    hay.StandsAt .exact limit literals pos ↔ hay.OccursAt limit literals pos := by
  constructor
  · rintro ⟨literal, member, stop, found⟩
    obtain ⟨part, rest, window, -, keys⟩ := literalEnd?_eq_some_iff.1 found
    obtain rfl : part = literal := by simpa [Casing.key] using keys
    refine ⟨part, member, Text.bytes rest, ?_⟩
    rw [bytesBetween_of_slice? window, Text.bytes_append]
  · rintro ⟨literal, member, tail, begins⟩
    have dropped : (Text.bytes hay.text).drop pos =
        Text.bytes literal ++ (tail ++ ((Text.bytes hay.text).drop pos).drop (limit - pos)) := by
      rw [← List.append_assoc, begins]
      exact (List.take_append_drop ..).symm
    obtain ⟨front, rest, whole, size⟩ :=
      Text.exists_split_of_bytes (nonempty literal member) dropped
    have short : pos + Text.byteSize literal ≤ limit := by
      have length := congrArg List.length begins
      have some_bytes : Text.byteSize literal ≠ 0 := fun zero =>
        nonempty literal member (Text.byteSize_eq_zero.1 zero)
      simp [bytesBetween] at length
      omega
    have covers : hay.Covers .exact literal pos (pos + Text.byteSize literal) :=
      ⟨literal, slice?_eq_some_iff.2 ⟨front, rest, whole, size, rfl⟩, rfl⟩
    exact ⟨literal, member, _,
      (literalEnd?_eq_some_iff_covers limitBoundary).2 ⟨covers, short⟩⟩

end Haystack

end PatternSearch
