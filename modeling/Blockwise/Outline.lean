import Blockwise.Text.Quoted

/-!
# Outline — the structure of a value, as text

The state of every part of the library can be shown as an outline: a name with labelled parts or
with parts in parentheses, down to numbers and quoted texts. An outline is written on one line
(`compact`) or with every part on a line of its own, indented by four spaces and followed by a
comma (`indented`).

A record may leave parts of the value out; two dots at its end say so.
-/

namespace Blockwise

/-- The structure of a value. -/
inductive Outline where
  /-- A text that stands for itself. -/
  | atom (text : String)
  /-- A name with parts in parentheses. -/
  | tuple (name : String) (parts : List Outline)
  /-- A name with labelled parts; `complete` unless some parts are left out. -/
  | record (name : String) (parts : List (String × Outline)) (complete : Bool)

namespace Outline

/-- A number is written in decimal. -/
def number (n : Nat) : Outline := .atom (toString n)

/-- A truth value is written as a word. -/
def truth (b : Bool) : Outline := .atom (if b then "true" else "false")

/-- A text is written in quotes. -/
def text (s : String) : Outline := .atom (Text.quote s)

/-! ## On one line -/

mutual

/-- The outline on one line, the parts separated by commas. -/
def compact : Outline → String
  | .atom text => text
  | .tuple name [] => name
  | .tuple name (part :: rest) => name ++ "(" ++ compact part ++ compactRest rest ++ ")"
  | .record name [] true => name
  | .record name [] false => name ++ " \x7b .. \x7d"
  | .record name (part :: rest) complete =>
    name ++ " \x7b " ++ compactPart part ++ compactParts rest ++
      (if complete then " \x7d" else ", .. \x7d")

/-- The parts after the first, each behind a comma. -/
def compactRest : List Outline → String
  | [] => ""
  | part :: rest => ", " ++ compact part ++ compactRest rest

/-- A labelled part. -/
def compactPart : String × Outline → String
  | (label, part) => label ++ ": " ++ compact part

/-- The labelled parts after the first, each behind a comma. -/
def compactParts : List (String × Outline) → String
  | [] => ""
  | part :: rest => ", " ++ compactPart part ++ compactParts rest

end

/-! ## On several lines -/

/-- The start of a line at a depth of nesting. -/
def margin (depth : Nat) : String :=
  String.ofList (List.replicate (4 * depth) ' ')

mutual

/-- The outline with a line for every part; its first line starts where the text before it ends,
and its last line stands at the margin of `depth`. -/
def indentedAt (depth : Nat) : Outline → String
  | .atom text => text
  | .tuple name [] => name
  | .tuple name (part :: rest) =>
    name ++ "(\n" ++ indentedItems (depth + 1) (part :: rest) ++ margin depth ++ ")"
  | .record name [] true => name
  | .record name [] false => name ++ " \x7b .. \x7d"
  | .record name (part :: rest) complete =>
    name ++ " \x7b\n" ++ indentedParts (depth + 1) (part :: rest) ++
      (if complete then "" else margin (depth + 1) ++ "..\n") ++ margin depth ++ "\x7d"

/-- Each part on its own lines. -/
def indentedItems (depth : Nat) : List Outline → String
  | [] => ""
  | part :: rest => margin depth ++ indentedAt depth part ++ ",\n" ++ indentedItems depth rest

/-- A labelled part. -/
def indentedPart (depth : Nat) : String × Outline → String
  | (label, part) => margin depth ++ label ++ ": " ++ indentedAt depth part ++ ",\n"

/-- Each labelled part on its own lines. -/
def indentedParts (depth : Nat) : List (String × Outline) → String
  | [] => ""
  | part :: rest => indentedPart depth part ++ indentedParts depth rest

end

/-- The outline on several lines, from the left margin. -/
def indented (outline : Outline) : String :=
  outline.indentedAt 0

end Outline

end Blockwise
