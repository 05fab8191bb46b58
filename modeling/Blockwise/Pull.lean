import Blockwise.Event

/-!
# Pull — drawing bytes into a buffer of the caller

A stream hands out bytes in one of two ways: as a stretch of bytes, or into a range of a buffer
that the caller brings along. The second is the first behind a check of the range: what is drawn
is laid over the range from its start, and the rest of the buffer stays as it is.
-/

namespace Blockwise

universe u

variable {S : Type u}

/-- Draws at most `length` bytes from the state into the buffer, from `offset` on. -/
def pull (draw : S → Nat → Step S (Except Fault Bytes)) (state : S) (buffer : Bytes)
    (offset length : Nat) : Step (S × Bytes) (Except Fault Nat) :=
  match requireRange "output" buffer.length offset length with
  | .error fault => .quiet (.error fault) (state, buffer)
  | .ok () =>
    let drawn := draw state length
    match drawn.answer with
    | .error fault => ⟨.error fault, (drawn.next, buffer), drawn.events⟩
    | .ok bytes => ⟨.ok bytes.length, (drawn.next, overlay buffer offset bytes), drawn.events⟩

end Blockwise
