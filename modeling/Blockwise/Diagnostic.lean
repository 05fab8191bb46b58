/-!
# Diagnostic — log lines

What the library has to say beside its answers: a severity, a fixed message and named values.
Diagnostics are data, collected in the order in which they arise; nothing is printed here.
-/

namespace Blockwise

/-- How much attention a diagnostic deserves. -/
inductive Severity where
  | trace
  | debug
  | warn
  | error
deriving DecidableEq

/-- The word for a severity. -/
def Severity.name : Severity → String
  | trace => "trace"
  | debug => "debug"
  | warn => "warn"
  | error => "error"

/-- The value of a field. -/
inductive FieldValue where
  | text (value : String)
  | number (value : Nat)
deriving DecidableEq

/-- A log line: a message with named values. -/
structure Diagnostic where
  severity : Severity
  message : String
  fields : List (String × FieldValue)
deriving DecidableEq

end Blockwise
