import PatternSearch.Literal
import PatternSearch.Pattern.Basic
import PatternSearch.Text.Ascii

/-!
# Leads

A match of a sequence that begins with literals can start only where one of them stands. The lead of
a sequence says this in a form that is quick to search for, so that a search need not try every
offset.

- `Lead.of?` is the lead of a pattern that comes first, if it has one.
- `Lead.candidate?` is the next offset worth trying.
-/

namespace PatternSearch

/-- What a match has to begin with. -/
inductive Lead where
  /-- One of these literals, letter case being kept. -/
  | literals (alternatives : List Text)
  /-- A character that may fold to this ASCII character. -/
  | letter (byte : UInt8)
  deriving DecidableEq, Repr

namespace Lead

/-- The folded first character of all the literals, if it is one and the same and in ASCII. -/
def sharedLetter? (literals : List Text) : Option UInt8 :=
  match literals.filterMap fun literal => literal.head?.map Text.foldChar with
  | [] => none
  | c :: others =>
    if others.all (· == c) && c.toNat < 128 then some (UInt8.ofNat c.toNat) else none

/-- The lead of a sequence that begins with the pattern. An empty literal stands everywhere, so it
leaves no lead. -/
def of? {m : Type → Type} : Pattern m → Option Lead
  | .text alternatives casing =>
    if alternatives.isEmpty || alternatives.any List.isEmpty then none
    else
      match casing with
      | .exact => some (.literals alternatives)
      | .folded => (sharedLetter? alternatives).map .letter
  | _ => none

/-- The first offset from `pos` on, below `limit`, at which a match may start. -/
def candidate? (lead : Lead) (hay : Haystack) (limit pos : Nat) : Option Nat :=
  match lead with
  | .literals alternatives =>
    hay.firstBelow? limit
      (fun start => alternatives.any fun literal =>
        (hay.literalEnd? .exact limit start literal).isSome)
      (hay.ceil pos)
  | .letter byte =>
    (Text.findAsciiFolded? (hay.bytesBetween pos limit) byte).map (pos + ·)

end Lead

end PatternSearch
