import Blockwise.Outline

/-!
# Direction — which half of a block transform is at work

Everything between a transform and its callers runs in one of two directions. The direction
decides which of a pump's two buffers has to hold the larger blocks, and what a fault is called.
-/

namespace Blockwise

/-- Encoding turns plain blocks into encoded ones, decoding the other way round. -/
inductive Direction where
  | encode
  | decode
deriving DecidableEq

namespace Direction

/-- The word for the direction in messages and diagnostics. -/
def name : Direction → String
  | encode => "encode"
  | decode => "decode"

/-- The structure of a direction is its name alone. -/
def outline : Direction → Outline
  | encode => .atom "Encode"
  | decode => .atom "Decode"

/-- The opposite direction. -/
def flip : Direction → Direction
  | encode => decode
  | decode => encode

@[simp] theorem flip_flip (d : Direction) : d.flip.flip = d := by
  cases d <;> rfl

end Direction

end Blockwise
