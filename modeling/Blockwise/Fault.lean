import Blockwise.Direction
import Blockwise.Outline

/-!
# Fault — what can go wrong between a caller and a stream

A fault is reported by the call that meets it. Most leave the stream as it was: a range outside a
buffer, a call at the wrong moment, an operation that does not exist. Two are fatal: a block call
that failed, and every use of the stream after that, until it is reset.

## Results

* `requireRange_eq_ok_iff` — a range is accepted exactly if it ends inside the buffer. The sum of
  offset and length is exact, so no pair of large numbers slips through.
-/

namespace Blockwise

/-- The causes for which an operation on a stream, or the making of one, is refused. -/
inductive Fault where
  /-- The range of the `subject` (input or output) does not fit into its buffer. -/
  | outOfRange (subject : String) (offset length capacity : Nat)
  /-- The call is not allowed at this moment; nothing was changed. -/
  | untimely (reason : String)
  /-- The operation is never supported. -/
  | unsupported (operation : String)
  /-- A block call failed: it produced nothing from `staged` bytes, or more than `capacity`. -/
  | blockFailed (codec : String) (direction : Direction) (staged produced capacity : Nat)
  /-- An earlier block call failed and the stream has not been reset since. -/
  | poisoned
  /-- What provides the block transform cannot be used. -/
  | unavailable (reason : String)
  /-- A setting is outside its limits. -/
  | badSetting (reason : String)
deriving DecidableEq

namespace Fault

/-- The fault in words. -/
def message : Fault → String
  | outOfRange subject offset length capacity =>
    s!"invalid {subject} range: offset {offset} + length {length} exceeds buffer of {capacity} bytes"
  | untimely reason => s!"invalid state: {reason}"
  | unsupported operation => s!"unsupported operation: {operation}"
  | blockFailed codec direction staged produced capacity =>
    s!"{codec} {direction.name} failed: {staged} staged bytes produced {produced} bytes " ++
      s!"(capacity {capacity})"
  | poisoned => "stream is unusable after a codec failure; reset() it first"
  | unavailable reason => s!"block codec not available: {reason}"
  | badSetting reason => s!"invalid configuration: {reason}"

/-- The short, stable name of the kind of fault. -/
def category : Fault → String
  | outOfRange .. => "invalid_argument"
  | untimely _ => "invalid_state"
  | unsupported _ => "unsupported"
  | blockFailed .. => "codec"
  | poisoned => "poisoned"
  | unavailable _ => "unavailable"
  | badSetting _ => "invalid_config"

/-- Whether the stream is of no further use until it is reset. -/
def isFatal : Fault → Bool
  | blockFailed .. | poisoned => true
  | _ => false

/-- The structure of the fault. -/
def outline : Fault → Outline
  | outOfRange subject offset length capacity =>
    .record "InvalidArgument"
      [("what", .text subject), ("offset", .number offset), ("length", .number length),
        ("capacity", .number capacity)] true
  | untimely reason => .tuple "InvalidState" [.text reason]
  | unsupported operation => .tuple "Unsupported" [.text operation]
  | blockFailed codec direction staged produced capacity =>
    .record "Codec"
      [("codec", .text codec), ("direction", direction.outline), ("staged", .number staged),
        ("produced", .number produced), ("capacity", .number capacity)] true
  | poisoned => .atom "Poisoned"
  | unavailable reason => .record "Unavailable" [("reason", .text reason)] true
  | badSetting reason => .tuple "InvalidConfig" [.text reason]

end Fault

/-! ## Ranges -/

/-- Accepts the range of `length` bytes from `offset` on if it ends within `capacity` bytes. -/
def requireRange (subject : String) (capacity offset length : Nat) : Except Fault Unit :=
  if offset + length ≤ capacity then .ok ()
  else .error (.outOfRange subject offset length capacity)

theorem requireRange_eq_ok_iff {subject : String} {capacity offset length : Nat} :
    requireRange subject capacity offset length = .ok () ↔ offset + length ≤ capacity := by
  unfold requireRange
  split <;> simp [*]

end Blockwise
