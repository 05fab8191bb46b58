import Blockwise.Text.Unprintable

/-!
# Quoted — text between double quotes, with the characters that would mislead escaped

A quoted text is one line whatever the text holds: quotes and backslashes get a backslash, the
common controls their letter, and every other unprintable character its code point in hexadecimal.
-/

namespace Blockwise.Text

/-- How one character is written inside the quotes. -/
def escape (c : Char) : String :=
  if c = '"' then "\\\""
  else if c = '\\' then "\\\\"
  else if c = '\n' then "\\n"
  else if c = '\r' then "\\r"
  else if c = '\t' then "\\t"
  else if c = '\x00' then "\\0"
  else if isUnprintable c then "\\u\x7b" ++ String.ofList (Nat.toDigits 16 c.toNat) ++ "\x7d"
  else String.singleton c

/-- The text between quotes, each character escaped where it needs to be. -/
def quote (text : String) : String :=
  "\"" ++ String.join (text.toList.map escape) ++ "\""

end Blockwise.Text
