import Blockwise.Lz4.Block
import Blockwise.Room

/-!
# Lz4.Expansion — rebuilding in a room what a block stands for

A block is expanded into a room from its front. Every sequence puts its literals behind what has
been rebuilt so far and then copies from there. A block that does not hold together, or that
outgrows the room, is given up where that shows, and what was rebuilt until then stays in the room.

Short runs of bytes are moved in strides of a fixed size: more is written than is meant, and only
the front of it counts. What follows is written over the surplus, and that of the last strides
stays in the room, behind the result. A stride is taken only where the room reaches far enough for
it, and one over literals only where the block does, too.
-/

namespace Blockwise.Lz4

/-- How far the expansion of a block into a room has come. -/
structure Expansion where
  /-- The size of the room. -/
  capacity : Nat
  /-- The bytes that have been rebuilt. -/
  rebuilt : Array UInt8
  /-- What strides have left behind the rebuilt bytes. -/
  surplus : Bytes
  /-- What the room held behind the rebuilt bytes before it was written. -/
  former : Bytes

namespace Expansion

/-- Nothing has been rebuilt yet. -/
def start (room : Room) : Expansion := ⟨room.size, #[], [], room.bytes⟩

/-- All that has been written to the room, from its front on. -/
def written (x : Expansion) : Bytes := x.rebuilt.toList ++ x.surplus

/-- Whether there is room for so many more bytes. -/
def fits (x : Expansion) (count : Nat) : Bool := x.rebuilt.size + count ≤ x.capacity

/-! ## Writing and copying -/

/-- Writes bytes of which the first `count` are rebuilt and the others surplus. -/
def write (bytes : Bytes) (count : Nat) : Expansion → Expansion
  | ⟨capacity, rebuilt, surplus, former⟩ =>
    { capacity
      rebuilt := rebuilt ++ (bytes.take count).toArray
      surplus := bytes.drop count ++ surplus.drop bytes.length
      former := former.drop count }

/-- The `count` bytes that the room holds from a position among the rebuilt bytes on. -/
def stretch (x : Expansion) (position count : Nat) : Bytes :=
  let ahead := x.surplus ++ x.former.drop x.surplus.length
  ((x.rebuilt.extract position (position + count)).toList ++ ahead.take count).take count

/-- Appends `count` bytes, each the byte `offset` back. A copy may reach into its own result. -/
def copyBack (offset : Nat) : Nat → Array UInt8 → Array UInt8
  | 0, bytes => bytes
  | count + 1, bytes => copyBack offset count (bytes.push (bytes.getD (bytes.size - offset) 0))

/-- Rebuilds `count` bytes, each the byte `offset` back, one after the other. -/
def repeatBack (offset count : Nat) : Expansion → Expansion
  | ⟨capacity, rebuilt, surplus, former⟩ =>
    { capacity
      rebuilt := copyBack offset count rebuilt
      surplus := surplus.drop count
      former := former.drop count }

/-! ## Strides -/

/-- The stride over the literals of a brief sequence. -/
def literalStride : Nat := 16

/-- The stride over the copy of a brief sequence. -/
def briefStride : Nat := 18

/-- Whether a sequence counts as brief, given its token and the bytes behind that: both lengths
are in the token, and neither the block nor the room comes to its end within the strides. -/
def isBrief (x : Expansion) (token : UInt8) (bytes : Bytes) : Bool :=
  token.toNat / 16 < 15 && token.toNat % 16 < 15 &&
    !(bytes.drop (literalStride + 1)).isEmpty && x.fits (literalStride + briefStride + 1)

/-- How many bytes are written for a copy that does not reach into its own result. -/
def copyStride (x : Expansion) (brief : Bool) (count : Nat) : Nat :=
  let stride := if brief then briefStride else if count ≤ 32 then 32 else 64
  if count ≤ stride && x.fits stride then stride else count

/-! ## Sequences -/

/-- Whether a copy starts at an earlier byte and ends inside the room. -/
def admits (x : Expansion) (copy : Copy) : Bool :=
  copy.offset != 0 && copy.offset ≤ x.rebuilt.size && x.fits copy.count

/-- Rebuilds the bytes of a copy. -/
def perform (x : Expansion) (brief : Bool) (copy : Copy) : Expansion :=
  if copy.count ≤ copy.offset then
    let bytes := x.stretch (x.rebuilt.size - copy.offset) (x.copyStride brief copy.count)
    x.write bytes copy.count
  else x.repeatBack copy.offset copy.count

/-- Goes on with the bytes of a block, or of what is left of one. The answer is an error, with all
that was done before it showed, unless the bytes are a block and there is room for it. -/
def expand (x : Expansion) : Bytes → Except Expansion Expansion
  | [] => .error x
  | token :: bytes =>
    match _hl : readLiterals token bytes with
    | none => .error x
    | some (literals, rest) =>
      if x.fits literals.length then
        let brief := x.isBrief token bytes
        let x := x.write (if brief then bytes.take literalStride else literals) literals.length
        if rest.isEmpty then .ok x
        else
          match _hc : readCopy token rest with
          | none => .error x
          | some (copy, rest) =>
            if x.admits copy then (x.perform brief copy).expand rest else .error x
      else .error x
termination_by bytes => bytes.length
decreasing_by
  have hl := length_readLiterals_le _hl
  have hc := length_readCopy_le _hc
  rw [List.length_cons]
  omega

end Expansion

end Blockwise.Lz4
