import Blockwise.Fault

/-!
# Availability — whether a block transform can be used at all

What provides a transform may be missing in a process. That is a fact with a name or a reason, and
it is known before anything is encoded or decoded.
-/

namespace Blockwise

universe u

/-- Whether a transform can be used. -/
inductive Availability where
  /-- It can; `library` provides it. -/
  | available (library : String)
  /-- It cannot, for a reason. -/
  | unavailable (reason : String)
deriving DecidableEq

namespace Availability

/-- Whether the transform can be used. -/
def isAvailable : Availability → Bool
  | available _ => true
  | unavailable _ => false

/-- The name of what provides the transform. -/
def library? : Availability → Option String
  | available library => some library
  | unavailable _ => none

/-- Refuses what cannot be used. -/
def require : Availability → Except Fault Unit
  | available _ => .ok ()
  | unavailable reason => .error (.unavailable reason)

/-- What needs the transform, unless it cannot be used. -/
def guarded {α : Type u} (a : Availability) (value : α) : Except Fault α :=
  match a with
  | available _ => .ok value
  | unavailable reason => .error (.unavailable reason)

/-- The structure of an availability. -/
def outline : Availability → Outline
  | available library => .record "Available" [("library", .text library)] true
  | unavailable reason => .record "Unavailable" [("reason", .text reason)] true

theorem guarded_of_require {α : Type u} {a : Availability} {value : α} (h : a.require = .ok ()) :
    a.guarded value = .ok value := by
  cases a with
  | available => rfl
  | unavailable => cases h

theorem require_eq_ok_iff {a : Availability} : a.require = .ok () ↔ a.isAvailable = true := by
  cases a <;> simp [require, isAvailable]

/-- Stored blocks need nothing. -/
def stored : Availability := available "builtin"

/-- LZ4 blocks are always at hand. -/
def lz4 : Availability := available "lz4_flex"

end Availability

end Blockwise
