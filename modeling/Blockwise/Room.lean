import Blockwise.Bytes

/-!
# Room — memory of a fixed size for the result of a block call

A room is what a block transform is given to write its result into. It always holds as many bytes
as it has; before it is written for the first time they are zero. A result that is shorter than
the room leaves the rest as it was, so a room remembers earlier results.

The size stands beside the bytes. It is asked for on every call, and a call should cost no more
than the bytes it has to do with.
-/

namespace Blockwise

/-- Memory of a fixed size, with what it holds. -/
structure Room where
  bytes : Bytes
  size : Nat
  length_bytes : bytes.length = size
deriving DecidableEq

namespace Room

/-- A room that holds the given bytes. -/
def ofBytes (bytes : Bytes) : Room where
  bytes := bytes
  size := bytes.length
  length_bytes := rfl

/-- A room of the given size that has not been written yet. -/
def zeroed (size : Nat) : Room where
  bytes := List.replicate size 0
  size := size
  length_bytes := List.length_replicate

/-- The room with bytes written over it from the front on. -/
def write (room : Room) (bytes : Bytes) : Room where
  bytes := overlay room.bytes 0 bytes
  size := room.size
  length_bytes := (length_overlay ..).trans room.length_bytes

@[simp] theorem size_zeroed (size : Nat) : (zeroed size).size = size := rfl

@[simp] theorem size_write (room : Room) (bytes : Bytes) :
    (room.write bytes).size = room.size := rfl

end Room

end Blockwise
