import PatternSearch.Text.Basic
import PatternSearch.Unicode.GraphemeExtend
import PatternSearch.Unicode.Unprintable

/-!
# Quoted text

A text is shown between double quotes. The quote and the backslash are written behind a backslash,
as are tab, line feed, carriage return and NUL by a letter or digit; a character that cannot be read
where it stands is written by its code point in lower case hexadecimal digits, between braces. Every
other character stands for itself.
-/

namespace PatternSearch.Text

/-- Whether a character cannot be read where it stands: it has no shape, or forms one sign with the
character before it. The two halfwidth sound marks of Katakana do the latter, too, but each fills a
place of its own and is read there. -/
def isUnreadable (c : Char) : Bool :=
  Unicode.isUnprintable c ||
    (Unicode.isGraphemeExtend c && c != '\uff9e' && c != '\uff9f')

/-- How a character is written between the quotes. -/
def quotedChar (c : Char) : String :=
  match c with
  | '"' => "\\\""
  | '\\' => "\\\\"
  | '\t' => "\\t"
  | '\r' => "\\r"
  | '\n' => "\\n"
  | '\x00' => "\\0"
  | _ =>
    if isUnreadable c then
      "\\u\x7b" ++ String.ofList (Nat.toDigits 16 c.toNat) ++ "\x7d"
    else
      c.toString

/-- The text between double quotes. -/
def quoted (t : Text) : String :=
  "\"" ++ String.join (t.map quotedChar) ++ "\""

/-- The texts, quoted, in brackets. -/
def quotedList (ts : List Text) : String :=
  "[" ++ ", ".intercalate (ts.map quoted) ++ "]"

/-- A quote and a line feed are written behind a backslash, a combining mark by its code point. -/
example :
    quoted ['a', '"', '\n', '\u0301', 'é'] = "\"a\\\"\\n\\u\x7b301\x7dé\"" := by decide +kernel

/-- A filler is written by its code point, a halfwidth sound mark stands for itself. -/
example : quoted ['\u1160', '\uff9e'] = "\"\\u\x7b1160\x7d\uff9e\"" := by decide +kernel

end PatternSearch.Text
