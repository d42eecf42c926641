/-!
# Text

A text is a list of characters. Places in it are counted in bytes of its UTF-8 form, in which a
character takes one to four bytes, so only some offsets are *boundaries*: those that split the list.

- `Text.byteSize` and `Text.bytes` are the length and the bytes of the UTF-8 form.
- `Text.dropBytes?` and `Text.takeBytes?` cut a text at an offset, and fail inside a character.
- `Text.suffixes` tabulates `dropBytes?` for every offset of the text.
- `Text.prefixSize?` compares the start of a text with another text, character by character, as far
  as a key of the characters can tell them apart.
-/

namespace PatternSearch

/-- A text, character by character. -/
abbrev Text := List Char

namespace Text

/-! ## Size and bytes -/

/-- The number of bytes of the UTF-8 form. -/
def byteSize : Text → Nat
  | [] => 0
  | c :: rest => c.utf8Size + byteSize rest

@[simp] theorem byteSize_nil : byteSize [] = 0 := rfl

@[simp] theorem byteSize_cons (c : Char) (t : Text) :
    byteSize (c :: t) = c.utf8Size + byteSize t := rfl

@[simp] theorem byteSize_append (s t : Text) : byteSize (s ++ t) = byteSize s + byteSize t := by
  induction s with
  | nil => simp
  | cons c s ih => simp [ih, Nat.add_assoc]

/-- Only the empty text has no bytes. -/
theorem byteSize_eq_zero {t : Text} : byteSize t = 0 ↔ t = [] := by
  cases t with
  | nil => simp
  | cons c t => have := c.utf8Size_pos; simp; omega

/-- Of two splits of one text, the one with the longer front extends the other. -/
theorem exists_append_of_le {front rest front' rest' : Text}
    (same : front ++ rest = front' ++ rest') (le : byteSize front ≤ byteSize front') :
    ∃ between, front' = front ++ between := by
  rcases List.append_eq_append_iff.1 same with ⟨between, h, -⟩ | ⟨between, h, -⟩
  · exact ⟨between, h⟩
  · obtain rfl : between = [] := byteSize_eq_zero.1 (by rw [h] at le; simp at le; omega)
    exact ⟨[], by simp [h]⟩

/-- A text is split in one way only after a number of bytes. -/
theorem append_inj_of_byteSize {front rest front' rest' : Text}
    (same : front ++ rest = front' ++ rest') (size : byteSize front = byteSize front') :
    front = front' ∧ rest = rest' := by
  obtain ⟨between, rfl⟩ := exists_append_of_le same (Nat.le_of_eq size)
  obtain rfl : between = [] := byteSize_eq_zero.1 (by rw [byteSize_append] at size; omega)
  rw [List.append_nil] at same ⊢
  exact ⟨rfl, List.append_cancel_left same⟩

/-- Every place before the end of a text is where a character starts, or inside one. -/
theorem exists_split_around {t : Text} {n : Nat} (lt : n < byteSize t) :
    ∃ front c rest, t = front ++ c :: rest ∧ byteSize front ≤ n ∧
      n < byteSize front + c.utf8Size := by
  induction t generalizing n with
  | nil => simp at lt
  | cons d t ih =>
    rcases Nat.lt_or_ge n d.utf8Size with inside | behind
    · exact ⟨[], d, t, rfl, Nat.zero_le n, by simpa using inside⟩
    · rw [byteSize_cons] at lt
      obtain ⟨front, c, rest, rfl, le, lt'⟩ := ih (n := n - d.utf8Size) (by omega)
      refine ⟨d :: front, c, rest, rfl, ?_, ?_⟩
      · rw [byteSize_cons]
        omega
      · rw [byteSize_cons]
        omega

/-- The bytes of the UTF-8 form. -/
def bytes (t : Text) : List UInt8 :=
  t.flatMap String.utf8EncodeChar

@[simp] theorem length_bytes (t : Text) : (bytes t).length = byteSize t := by
  induction t with
  | nil => rfl
  | cons c t ih => simpa [bytes] using ih

/-! ## Cutting at an offset -/

/-- The text from byte `n` on, if a character starts or the text ends there. -/
def dropBytes? : Text → Nat → Option Text
  | t, 0 => some t
  | [], _ + 1 => none
  | c :: rest, n + 1 => if c.utf8Size ≤ n + 1 then dropBytes? rest (n + 1 - c.utf8Size) else none

/-- The first `n` bytes of the text, if they are whole characters. -/
def takeBytes? : Text → Nat → Option Text
  | _, 0 => some []
  | [], _ + 1 => none
  | c :: rest, n + 1 =>
    if c.utf8Size ≤ n + 1 then (takeBytes? rest (n + 1 - c.utf8Size)).map (c :: ·) else none

@[simp] theorem dropBytes?_zero (t : Text) : dropBytes? t 0 = some t := by
  cases t <;> rfl

@[simp] theorem takeBytes?_zero (t : Text) : takeBytes? t 0 = some [] := by
  cases t <;> rfl

/-- Past its first character, a text is cut as the rest is. -/
theorem dropBytes?_cons_add (c : Char) (t : Text) (n : Nat) :
    dropBytes? (c :: t) (c.utf8Size + n) = dropBytes? t n := by
  have pos := c.utf8Size_pos
  obtain ⟨k, hk⟩ : ∃ k, c.utf8Size + n = k + 1 := ⟨c.utf8Size + n - 1, by omega⟩
  rw [hk, dropBytes?, if_pos (by omega), ← hk, Nat.add_sub_cancel_left]

/-- A text is cut at an offset exactly where it splits into two texts. -/
theorem dropBytes?_eq_some_iff {t rest : Text} {n : Nat} :
    dropBytes? t n = some rest ↔ ∃ front, t = front ++ rest ∧ byteSize front = n := by
  fun_induction dropBytes? t n with
  | case1 t =>
    constructor
    · intro h
      exact ⟨[], by simpa using h, rfl⟩
    · rintro ⟨front, rfl, size⟩
      simp [byteSize_eq_zero.1 size]
  | case2 n =>
    constructor
    · simp
    · rintro ⟨front, h, size⟩
      obtain ⟨rfl, -⟩ := List.append_eq_nil_iff.1 h.symm
      simp at size
  | case3 c t n fits ih =>
    rw [ih]
    constructor
    · rintro ⟨front, h, size⟩
      exact ⟨c :: front, by rw [h]; rfl, by rw [byteSize_cons, size]; omega⟩
    · rintro ⟨front, h, size⟩
      cases front with
      | nil => simp at size
      | cons d front =>
        obtain ⟨rfl, rfl⟩ := List.cons.inj h
        exact ⟨front, rfl, by simp at size; omega⟩
  | case4 c t n wide =>
    constructor
    · simp
    · rintro ⟨front, h, size⟩
      cases front with
      | nil => simp at size
      | cons d front =>
        obtain ⟨rfl, rfl⟩ := List.cons.inj h
        simp at size
        omega

/-- The first `n` bytes are the front of a split after `n` bytes. -/
theorem takeBytes?_eq_some_iff {t front : Text} {n : Nat} :
    takeBytes? t n = some front ↔ (∃ rest, t = front ++ rest) ∧ byteSize front = n := by
  fun_induction takeBytes? t n generalizing front with
  | case1 t =>
    simp only [Option.some.injEq, byteSize_eq_zero]
    exact ⟨fun h => ⟨⟨t, by simp [← h]⟩, h.symm⟩, fun h => h.2.symm⟩
  | case2 n =>
    constructor
    · simp
    · rintro ⟨⟨rest, h⟩, size⟩
      obtain ⟨rfl, -⟩ := List.append_eq_nil_iff.1 h.symm
      simp at size
  | case3 c t n fits ih =>
    constructor
    · intro h
      obtain ⟨part, cut, rfl⟩ := Option.map_eq_some_iff.1 h
      obtain ⟨⟨rest, split⟩, size⟩ := ih.1 cut
      exact ⟨⟨rest, by rw [split]; rfl⟩, by rw [byteSize_cons, size]; omega⟩
    · rintro ⟨⟨rest, h⟩, size⟩
      cases front with
      | nil => simp at size
      | cons d front =>
        obtain ⟨rfl, rfl⟩ := List.cons.inj h
        simp only [Option.map_eq_some_iff, List.cons.injEq, true_and, exists_eq_right]
        exact ih.2 ⟨⟨rest, rfl⟩, by simp at size; omega⟩
  | case4 c t n wide =>
    constructor
    · simp
    · rintro ⟨⟨rest, h⟩, size⟩
      cases front with
      | nil => simp at size
      | cons d front =>
        obtain ⟨rfl, rfl⟩ := List.cons.inj h
        simp at size
        omega

/-! ## The table of all cuts -/

/-- What `dropBytes?` gives at the offsets `0, 1, …, byteSize t`, in order. -/
def suffixes : Text → List (Option Text)
  | [] => [some []]
  | c :: rest => some (c :: rest) :: (List.replicate (c.utf8Size - 1) none ++ suffixes rest)

theorem length_suffixes (t : Text) : (suffixes t).length = byteSize t + 1 := by
  induction t with
  | nil => rfl
  | cons c t ih => have := c.utf8Size_pos; simp [suffixes, ih]; omega

/-- Looking an offset up in the table is cutting the text there. -/
theorem getElem?_suffixes (t : Text) (n : Nat) :
    ((suffixes t)[n]?).bind id = dropBytes? t n := by
  induction t generalizing n with
  | nil => cases n <;> simp [suffixes, dropBytes?]
  | cons c t ih =>
    have pos := c.utf8Size_pos
    cases n with
    | zero => simp [suffixes]
    | succ n =>
      rw [suffixes, List.getElem?_cons_succ, dropBytes?]
      by_cases fits : c.utf8Size ≤ n + 1
      · rw [if_pos fits, List.getElem?_append_right (by simp; omega), List.length_replicate,
          show n - (c.utf8Size - 1) = n + 1 - c.utf8Size by omega, ih]
      · rw [if_neg fits, List.getElem?_append_left (by simp; omega),
          List.getElem?_replicate_of_lt (by omega)]
        rfl

/-! ## Comparing the start of a text -/

/-- The number of bytes of the part of the text that agrees with `front` under `key`, character by
character, if the text has such a part. -/
def prefixSize? (key : Char → Char) : Text → Text → Option Nat
  | _, [] => some 0
  | [], _ :: _ => none
  | c :: rest, p :: front =>
    if key c = key p then (prefixSize? key rest front).map (c.utf8Size + ·) else none

/-- The agreeing part is the front of a split of the text, with the keys of `front`. -/
theorem prefixSize?_eq_some_iff {key : Char → Char} {t front : Text} {n : Nat} :
    prefixSize? key t front = some n ↔
      ∃ part rest, t = part ++ rest ∧ byteSize part = n ∧ part.map key = front.map key := by
  fun_induction prefixSize? key t front generalizing n with
  | case1 t =>
    constructor
    · intro h
      exact ⟨[], t, rfl, by simpa using h, rfl⟩
    · rintro ⟨part, rest, -, size, agree⟩
      obtain rfl : part = [] := by simpa using agree
      simpa using size
  | case2 p front =>
    constructor
    · simp
    · rintro ⟨part, rest, h, -, agree⟩
      obtain ⟨rfl, -⟩ := List.append_eq_nil_iff.1 h.symm
      simp at agree
  | case3 c t p front hit ih =>
    constructor
    · intro h
      obtain ⟨k, size, rfl⟩ := Option.map_eq_some_iff.1 h
      obtain ⟨part, rest, rfl, rfl, agree⟩ := ih.1 size
      exact ⟨c :: part, rest, rfl, rfl, by simp [hit, agree]⟩
    · rintro ⟨part, rest, h, size, agree⟩
      cases part with
      | nil => simp at agree
      | cons d part =>
        obtain ⟨rfl, rfl⟩ := List.cons.inj h
        rw [ih.2 ⟨part, rest, rfl, rfl, (List.cons.inj agree).2⟩]
        simpa using size
  | case4 c t p front miss =>
    constructor
    · simp
    · rintro ⟨part, rest, h, -, agree⟩
      cases part with
      | nil => simp at agree
      | cons d part =>
        obtain ⟨rfl, rfl⟩ := List.cons.inj h
        exact absurd (List.cons.inj agree).1 miss

/-- Agreeing with a text that is not empty takes at least one byte. -/
theorem prefixSize?_pos {key : Char → Char} {t front : Text} {n : Nat}
    (h : prefixSize? key t front = some n) (nonempty : front ≠ []) : 0 < n := by
  obtain ⟨part, rest, -, rfl, agree⟩ := prefixSize?_eq_some_iff.1 h
  refine Nat.pos_of_ne_zero fun zero => nonempty ?_
  obtain rfl := byteSize_eq_zero.1 zero
  simpa using agree.symm

end Text

end PatternSearch
