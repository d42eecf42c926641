import PatternSearch.Text.Basic
import PatternSearch.Unicode.LowerCase

/-!
# Case

Letter case is folded one character to one character, so folded texts can be compared character by
character although a character and its folded form may differ in size (the Kelvin sign, of three
bytes, folds to `k`).

- `Text.foldChar` and `Text.fold` give the folded form of a character and of a text.
- `Casing` says whether letter case counts, and `Casing.key` what is compared then.
-/

namespace PatternSearch

namespace Text

/-- The folded form of a character: its lower case form, cut to one character. -/
def foldChar (c : Char) : Char :=
  if c.toNat < 128 then c.toLower else Unicode.lowerCase c

/-- The text with every character folded. -/
def fold (t : Text) : Text :=
  t.map foldChar

/-- Whether two characters have the same folded form. -/
def sameFolded (a b : Char) : Bool :=
  foldChar a == foldChar b

/-- The number of bytes of the part of the text that agrees with `front` but for case. -/
def prefixSizeFolded? (t front : Text) : Option Nat :=
  prefixSize? foldChar t front

end Text

/-- Whether letter case counts in a comparison. -/
inductive Casing where
  /-- Characters agree if they are equal. -/
  | exact
  /-- Characters agree if their folded forms are equal. -/
  | folded
  deriving DecidableEq, Repr

/-- What is compared of a character. -/
def Casing.key : Casing → Char → Char
  | .exact => id
  | .folded => Text.foldChar

end PatternSearch
