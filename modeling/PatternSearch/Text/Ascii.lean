/-!
# ASCII bytes

Searching bytes for an ASCII letter of either case. A character outside ASCII may fold to an ASCII
one, so every byte outside ASCII counts as a find, too: what is found is a candidate, and nothing
before it can fold to the letter.

- `Text.asciiPrefixLength` is the number of ASCII bytes in front.
- `Text.findAsciiFolded?` is the first candidate.
-/

namespace PatternSearch.Text

/-- Whether the byte is an ASCII character by itself. -/
def isAsciiByte (b : UInt8) : Bool :=
  b < 128

/-- The lower case form of an ASCII letter; any other byte as it is. -/
def lowerByte (b : UInt8) : UInt8 :=
  if 65 ≤ b ∧ b ≤ 90 then b + 32 else b

/-- The upper case form of an ASCII letter; any other byte as it is. -/
def upperByte (b : UInt8) : UInt8 :=
  if 97 ≤ b ∧ b ≤ 122 then b - 32 else b

/-- The number of ASCII bytes before the first byte that is none. -/
def asciiPrefixLength (bytes : List UInt8) : Nat :=
  (bytes.takeWhile isAsciiByte).length

/-- The place of the first byte that is the ASCII character `letter` in either case, if it stands
among the ASCII bytes in front; else the place of the first byte outside ASCII. -/
def findAsciiFolded? (bytes : List UInt8) (letter : UInt8) : Option Nat :=
  let ascii := bytes.takeWhile isAsciiByte
  match ascii.findIdx? fun b => b == lowerByte letter || b == upperByte letter with
  | some i => some i
  | none => if ascii.length < bytes.length then some ascii.length else none

end PatternSearch.Text
