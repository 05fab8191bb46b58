import Blockwise.Lz4.Expansion
import Blockwise.Lz4.Search
import Blockwise.Transform

/-!
# Lz4 — LZ4 raw blocks as a block transform

Every call makes or takes exactly one block, with no size in front and no frame around it. An
empty block has no encoding, and nothing is decoded from no bytes.

Encoding wants room for the worst case (`Lz4.bound`), even where the result would fit into less.
Both directions report a failure as nothing, and leave a diagnostic. An encoding that fails has
written nothing, but a decoding that fails leaves in its room what it had rebuilt by then.
-/

namespace Blockwise

namespace Lz4

/-- The room that the encoding of so many bytes may need. -/
def bound (length : Nat) : Nat :=
  20 + length * 110 / 100

/-- The diagnostic of a call that failed. -/
def failure (direction : Direction) (room : Room) (block : Bytes) : Diagnostic where
  severity := .debug
  message := s!"lz4 block {direction.name} failed"
  fields := [("src_len", .number block.length), ("dst_capacity", .number room.size)]

/-- Encodes a block that is not empty, unless the room is less than the worst case needs. -/
def encode (room : Room) (block : Bytes) : Filling Unit :=
  if room.size < bound block.length then ⟨(), [], 0, [failure .encode room block]⟩
  else .whole () room (Block.ofBytes block).toBytes

/-- Decodes a block. -/
def decode (room : Room) (block : Bytes) : Filling Unit :=
  match (Expansion.start room).expand block with
  | .ok x => ⟨(), x.written, x.rebuilt.size, []⟩
  | .error x => ⟨(), x.written, 0, [failure .decode room block]⟩

end Lz4

/-- LZ4 raw blocks. -/
def BlockTransform.lz4 : BlockTransform Unit where
  name := "lz4"
  bound _ := Lz4.bound
  encode _ room block :=
    if block.isEmpty then ⟨(), [], 0, []⟩ else Lz4.encode room block
  decode _ room block :=
    if block.isEmpty then ⟨(), [], 0, []⟩ else Lz4.decode room block
  outline := .atom "Lz4Block"

end Blockwise
