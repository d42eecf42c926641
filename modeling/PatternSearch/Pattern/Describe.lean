import PatternSearch.Pattern.Basic
import PatternSearch.Text.Quoted

/-!
# How patterns are shown

A pattern is shown by its kind and what it was made of, a caller's own pattern by its name, a list
of patterns by the names in a row.
-/

namespace PatternSearch

/-- How a truth value is shown. -/
def describeBool (b : Bool) : String :=
  if b then "true" else "false"

/-- Whether letter case is ignored, as shown. -/
def Casing.describe (casing : Casing) : String :=
  "ignore_case: " ++ describeBool (casing = .folded)

/-- How an ending is shown. -/
def Ending.describe : Ending → String
  | .atLimit => "Anchored"
  | .anywhere => "Open"

/-- How a continuation is shown. -/
def Continuation.describe {m : Type → Type} (next : Continuation m) : String :=
  "Next \x7b is_terminal: " ++ describeBool next.isLast ++ ", terminal: " ++
    next.ending.describe ++ " \x7d"

namespace Pattern

variable {m : Type → Type}

/-- The name of a kind of step. -/
def Kind.name : Kind → String
  | .limit => "None"
  | .finish => "End"
  | .any => "Any"
  | .text => "Text"
  | .except => "Except"
  | .repeated => "Repeat"
  | .custom => "Custom"

/-- The name of a pattern: that of its kind, or the one its caller gave. -/
def name : Pattern m → String
  | .custom name _ => name
  | pattern => pattern.kind.name

/-- How a pattern is shown. -/
def describe (pattern : Pattern m) : String :=
  match pattern with
  | .text literals casing | .except literals casing =>
    pattern.name ++ " \x7b literals: " ++ Text.quotedList literals ++ ", " ++ casing.describe ++
      " \x7d"
  | .repeated literal casing atLeast atMost =>
    pattern.name ++ " \x7b literal: " ++ Text.quoted literal ++ ", " ++ casing.describe ++
      ", at_least: " ++ toString atLeast ++ ", at_most: " ++ toString atMost ++ " \x7d"
  | .custom name _ => pattern.kind.name ++ "(" ++ Text.quoted name.toList ++ ")"
  | _ => pattern.name

/-- How a list of patterns is shown. -/
def describeAll (patterns : List (Pattern m)) : String :=
  String.join (patterns.map fun pattern => pattern.name ++ " -> ") ++ "<terminal>"

end Pattern

end PatternSearch
