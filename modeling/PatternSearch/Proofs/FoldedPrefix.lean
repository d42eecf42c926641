import PatternSearch.Proofs.ByteSearch
import PatternSearch.Text.Case

/-!
# Prefixes but for case

A text begins with another one but for case if its folded form begins with the folded form of that
one. Neither form has to be made to find this out: the two texts are compared character by
character, and what is counted are the bytes of the text itself, as it stands. Folded forms may have
other sizes, so the count is neither that of the other text nor that of its folded form.

Everything but the statement on bytes holds for any key that characters are compared by.

- `Text.isSome_prefixSize?_iff`: a part of the text agrees if the keys begin with those of the other
  text.
- `Text.prefixSize?_eq_some_iff_takeBytes?`: the number is that of the bytes of this part.
- `Text.prefixSize?_append`: of a front of two parts, the second one is looked for behind the first.
- `Text.bytes_prefix_bytes_iff`: it is one thing for a text to begin with another one and for its
  bytes to begin with those of that.
- `Text.prefixSizeFolded?_compares_folds`: the comparison of folded forms.
-/

namespace PatternSearch.Text

variable {key : Char → Char} {t front : Text} {n : Nat}

/-! ## Any key -/

/-- There is a part that agrees if the keys of the text begin with those of the other one. -/
theorem isSome_prefixSize?_iff :
    (prefixSize? key t front).isSome = true ↔ front.map key <+: t.map key := by
  rw [Option.isSome_iff_exists]
  constructor
  · rintro ⟨n, found⟩
    obtain ⟨part, rest, rfl, -, keys⟩ := prefixSize?_eq_some_iff.1 found
    rw [List.map_append, ← keys]
    exact List.prefix_append _ _
  · rintro ⟨tail, keys⟩
    obtain ⟨part, rest, rfl, keys, -⟩ := List.map_eq_append_iff.1 keys.symm
    exact ⟨byteSize part, prefixSize?_eq_some_iff.2 ⟨part, rest, rfl, rfl, keys⟩⟩

/-- The part that agrees is made of the first bytes of the text, and has a character for each of the
other text. -/
theorem prefixSize?_eq_some_iff_takeBytes? :
    prefixSize? key t front = some n ↔
      ∃ part, takeBytes? t n = some part ∧ part.length = front.length ∧
        part.map key = front.map key := by
  rw [prefixSize?_eq_some_iff]
  constructor
  · rintro ⟨part, rest, split, size, keys⟩
    have length := congrArg List.length keys
    rw [List.length_map, List.length_map] at length
    exact ⟨part, takeBytes?_eq_some_iff.2 ⟨⟨rest, split⟩, size⟩, length, keys⟩
  · rintro ⟨part, cut, -, keys⟩
    obtain ⟨⟨rest, split⟩, size⟩ := takeBytes?_eq_some_iff.1 cut
    exact ⟨part, rest, split, size, keys⟩

/-- A text agrees with what it begins with as it is, over all the bytes of that. -/
theorem prefixSize?_of_prefix (begins : front <+: t) :
    prefixSize? key t front = some (byteSize front) := by
  obtain ⟨rest, rfl⟩ := begins
  exact prefixSize?_eq_some_iff.2 ⟨front, rest, rfl, rfl, rfl⟩

/-- A front of two parts is looked for part by part, the second one behind what agrees with the
first. -/
theorem prefixSize?_append (key : Char → Char) (t front behind : Text) :
    prefixSize? key t (front ++ behind) =
      (prefixSize? key t front).bind fun n => (dropBytes? t n).bind fun rest =>
        (prefixSize? key rest behind).map (n + ·) := by
  ext total
  simp only [Option.bind_eq_some_iff, Option.map_eq_some_iff, prefixSize?_eq_some_iff,
    dropBytes?_eq_some_iff, List.map_append]
  constructor
  · rintro ⟨whole, rest, rfl, rfl, keys⟩
    obtain ⟨part, part', rfl, keys, keys'⟩ := List.map_eq_append_iff.1 keys
    refine ⟨byteSize part, ⟨part, part' ++ rest, by simp, rfl, keys⟩, part' ++ rest,
      ⟨part, by simp, rfl⟩, byteSize part', ⟨part', rest, rfl, rfl, keys'⟩, ?_⟩
    rw [byteSize_append]
  · rintro ⟨_, ⟨part, rest, rfl, rfl, keys⟩, behind', ⟨part', same, size⟩, _,
      ⟨further, rest', rfl, rfl, keys'⟩, rfl⟩
    -- the text is cut where the first part ends
    obtain ⟨rfl, rfl⟩ := append_inj_of_byteSize same size.symm
    refine ⟨part ++ further, rest', by simp, byteSize_append _ _, ?_⟩
    rw [List.map_append, keys, keys']

/-! ## Bytes -/

/-- A text begins with another one if its bytes begin with those of that. -/
theorem bytes_prefix_bytes_iff : bytes front <+: bytes t ↔ front <+: t := by
  constructor
  · rintro ⟨tail, same⟩
    obtain ⟨rest, rfl⟩ := exists_append_of_bytes same.symm
    exact List.prefix_append _ _
  · rintro ⟨rest, rfl⟩
    rw [bytes_append]
    exact List.prefix_append _ _

/-! ## Folded forms -/

/-- **To look for a prefix but for case is to compare folded forms**: one is found exactly if the
folded form of the text begins with that of the prefix, in characters or in bytes. The number that
is answered is the only one of bytes from the start of the text on that are as many characters as
the prefix has, with its folded form. A prefix that stands there as it is is found in its own size,
and one of two parts is found by looking for the second part behind the first. -/
theorem prefixSizeFolded?_compares_folds (t front : Text) :
    ((prefixSizeFolded? t front).isSome = true ↔ fold front <+: fold t) ∧
    ((prefixSizeFolded? t front).isSome = true ↔ bytes (fold front) <+: bytes (fold t)) ∧
    (∀ n, prefixSizeFolded? t front = some n ↔
      ∃ part, takeBytes? t n = some part ∧ part.length = front.length ∧
        fold part = fold front) ∧
    (front <+: t → prefixSizeFolded? t front = some (byteSize front)) ∧
    ∀ behind, prefixSizeFolded? t (front ++ behind) =
      (prefixSizeFolded? t front).bind fun n => (dropBytes? t n).bind fun rest =>
        (prefixSizeFolded? rest behind).map (n + ·) := by
  refine ⟨isSome_prefixSize?_iff, ?_, fun n => prefixSize?_eq_some_iff_takeBytes?,
    prefixSize?_of_prefix, fun behind => prefixSize?_append foldChar t front behind⟩
  rw [bytes_prefix_bytes_iff]
  exact isSome_prefixSize?_iff

/-- In `Kelvin` with the Kelvin sign, the part that agrees with `kel` has five bytes; a text that
begins with `ΒΊΟΣ` agrees with this over its eight bytes, and with `βίοσ`, too. -/
theorem prefixSizeFolded?_compares_folds_kelvin :
    prefixSizeFolded? ['\u212a', 'e', 'l', 'v', 'i', 'n'] ['k', 'e', 'l'] = some 5 ∧
      prefixSizeFolded? ['Β', 'Ί', 'Ο', 'Σ', '!'] ['Β', 'Ί', 'Ο', 'Σ'] = some 8 ∧
      fold ['β', 'ί', 'ο', 'σ'] <+: fold ['Β', 'Ί', 'Ο', 'Σ', '!'] := by
  obtain ⟨-, -, found_iff, -, -⟩ :=
    prefixSizeFolded?_compares_folds ['\u212a', 'e', 'l', 'v', 'i', 'n'] ['k', 'e', 'l']
  obtain ⟨-, -, -, exact_prefix, -⟩ :=
    prefixSizeFolded?_compares_folds ['Β', 'Ί', 'Ο', 'Σ', '!'] ['Β', 'Ί', 'Ο', 'Σ']
  obtain ⟨begins_iff, -⟩ :=
    prefixSizeFolded?_compares_folds ['Β', 'Ί', 'Ο', 'Σ', '!'] ['β', 'ί', 'ο', 'σ']
  refine ⟨(found_iff 5).2 ⟨['\u212a', 'e', 'l'], ?_, rfl, ?_⟩, ?_, begins_iff.1 ?_⟩
  · decide
  · decide +kernel
  · exact exact_prefix ⟨['!'], rfl⟩
  · decide +kernel

end PatternSearch.Text
