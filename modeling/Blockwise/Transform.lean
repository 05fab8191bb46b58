import Blockwise.Event
import Blockwise.Room

/-!
# Transform — one-shot transforms of bounded blocks

A block transform turns one block into another in a single call, in either direction. It is given
the block and a room to write the result into, and it reports how many bytes the result has.

The report doubles as the sign of failure: nothing from a block that is not empty is a failure, and
so is more than the room holds. An honest transform reports nothing only for an empty block.
Nothing of this is taken for granted here. A transform may write anything into its room, report any
number, and change its state as it likes, which is why a call returns all three separately: bytes
it reports but did not write are the bytes the room held before.

How large the encoding of a block can be is for the transform to say, and what it says may depend on
its state. So a room that was made in one state need not do in another, unless the transform says the
same in all of them (`HasFixedBound`).

## Results

* `size_fill` — a call never changes the size of its room.
-/

namespace Blockwise

universe u v

/-- What a call of a block transform leaves behind. -/
structure Filling (σ : Type u) where
  /-- The state of the transform after the call. -/
  state : σ
  /-- The bytes written from the front of the room on. -/
  written : Bytes
  /-- The reported size of the result. -/
  reported : Nat
  /-- Diagnostics of the transform itself. -/
  remarks : List Diagnostic

namespace Filling

variable {σ : Type u}

/-- What the room holds after the call. -/
def fill (filling : Filling σ) (room : Room) : Room :=
  room.write filling.written

@[simp] theorem size_fill (filling : Filling σ) (room : Room) :
    (filling.fill room).size = room.size := rfl

/-- The result as a whole, if there is room for it; otherwise nothing is written and nothing
reported. -/
def whole (state : σ) (room : Room) (output : Bytes) : Filling σ :=
  if output.length ≤ room.size then ⟨state, output, output.length, []⟩ else ⟨state, [], 0, []⟩

/-- The same call with another state. -/
def withState {τ : Type v} (filling : Filling σ) (state : τ) : Filling τ :=
  ⟨state, filling.written, filling.reported, filling.remarks⟩

end Filling

/-- A one-shot transform of blocks, with a state that only its own calls touch. -/
structure BlockTransform (σ : Type u) where
  /-- A short name for messages; also the extension of file names. -/
  name : String
  /-- The largest encoding of a block of a given size, as it is foreseen in a state. -/
  bound : (state : σ) → (length : Nat) → Nat := fun _ length => length
  /-- Encodes a block into a room. -/
  encode : (state : σ) → (room : Room) → (block : Bytes) → Filling σ
  /-- Decodes a block into a room. -/
  decode : (state : σ) → (room : Room) → (block : Bytes) → Filling σ
  /-- The structure of the transform, as far as it has one to show. -/
  outline : Outline := .atom name

namespace BlockTransform

variable {σ : Type u} {τ : Type v}

/-- The transform at work in a direction. -/
def apply (c : BlockTransform σ) :
    Direction → (state : σ) → (room : Room) → (block : Bytes) → Filling σ
  | .encode => c.encode
  | .decode => c.decode

/-- The transform asks for the same room in every state. -/
def HasFixedBound (c : BlockTransform σ) : Prop :=
  ∀ state state' length, c.bound state length = c.bound state' length

/-- The transform with its two directions exchanged. -/
def swap (c : BlockTransform σ) : BlockTransform σ :=
  { c with encode := c.decode, decode := c.encode }

theorem apply_swap (c : BlockTransform σ) (d : Direction) : c.swap.apply d = c.apply d.flip := by
  cases d <;> rfl

/-! ## A pair of functions -/

/-- A transform made of one function for each direction. The two have states of their own, and
neither is expected to make a block longer. -/
def ofFunctions (name : String) (encode : σ → Room → Bytes → Filling σ)
    (decode : τ → Room → Bytes → Filling τ) : BlockTransform (σ × τ) where
  name := name
  encode state room block :=
    let filling := encode state.1 room block
    filling.withState (filling.state, state.2)
  decode state room block :=
    let filling := decode state.2 room block
    filling.withState (state.1, filling.state)
  outline := .record "FnBlockCodec" [("name", .text name)] false

/-! ## Byte by byte -/

/-- A transform that maps every byte of a block, by `f` to encode and by `g` to decode. The result
has the size of the block. -/
def bytewise (name : String) (f g : UInt8 → UInt8) : BlockTransform Unit where
  name := name
  encode state room block := .whole state room (block.map f)
  decode state room block := .whole state room (block.map g)

/-- Stored blocks: every block is its own encoding. -/
def stored : BlockTransform Unit :=
  { bytewise "stored" id id with outline := .atom "StoredBlock" }

end BlockTransform

end Blockwise
