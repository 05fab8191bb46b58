import Blockwise.Bytes
import Blockwise.Diagnostic
import Blockwise.Settings
import Blockwise.Text.Blank

/-!
# Override — a chunk size from outside the program

The default chunk size can be replaced by a text, usually the value of an environment variable.
The text is a decimal number of bytes, optionally followed by a unit, with blanks around it:

    digits, then nothing, or K, KB, KiB, or M, MB, MiB

Numbers are words of 64 bits. One that does not fit, be it on the way through the digits or when it
is multiplied by its unit, is no size; none is ever brought into the limits by overflow. A text that
is no size, or a size outside the limits, leaves the default in force and is mentioned in the log.
-/

namespace Blockwise

/-! ## Sizes in words -/

/-- The number, if it fits into a word. -/
def word? (number : Nat) : Option Nat :=
  if number < UInt64.size then some number else none

/-- The value of one decimal digit. -/
def digitValue (digit : Char) : Nat := digit.toNat - '0'.toNat

/-- The value before a decimal digit, with the digit behind it. -/
def appendDigit? (value : Nat) (digit : Char) : Option Nat := do
  let shifted ← word? (10 * value)
  word? (shifted + digitValue digit)

/-- The value of decimal digits, unless it becomes too large. -/
def decimalValue? (digits : List Char) : Option Nat :=
  digits.foldlM appendDigit? 0

/-- The number of bytes that a unit stands for. -/
def unitSize? : List Char → Option Nat
  | [] => some 1
  | ['K'] | ['K', 'B'] | ['K', 'i', 'B'] => some kilobyte
  | ['M'] | ['M', 'B'] | ['M', 'i', 'B'] => some megabyte
  | _ => none

/-- The number of bytes that a text states: decimal digits and a unit. -/
def readSize? (text : List Char) : Option Nat :=
  match text.takeWhile Char.isDigit with
  | [] => none
  | digits => do
    let value ← decimalValue? digits
    let unit ← unitSize? (text.dropWhile Char.isDigit)
    word? (value * unit)

/-! ## Settings from a text -/

namespace Settings

/-- The environment variable that holds the text. -/
def overrideVariable : String := "BLOCKSTREAM_CHUNK_SIZE"

/-- The settings that a text states, if it states a size within the limits. -/
def read? (text : String) : Option Settings := do
  let size ← readSize? (Text.trimBlanks text.toList)
  (ofChunkSize size).toOption

/-- The mention of a text that was passed over. -/
def overrideIgnored (text : String) : Diagnostic where
  severity := .warn
  message := "ignoring chunk size override: not a valid size"
  fields := [("variable", .text overrideVariable), ("value", .text text)]

/-- The settings under an optional text: what it states, or else the default. -/
def ofOverride (text : Option String) : Settings × List Diagnostic :=
  match text with
  | none => (default, [])
  | some text =>
    match read? text with
    | some settings => (settings, [])
    | none => (default, [overrideIgnored text])

/-- The settings under the bytes of an environment variable. Bytes that are not UTF-8 count as no
text at all. -/
def ofEnvironment (value : Option Bytes) : Settings × List Diagnostic :=
  ofOverride (value.bind fun bytes => String.fromUTF8? ⟨bytes.toArray⟩)

end Settings

end Blockwise
