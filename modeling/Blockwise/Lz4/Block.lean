import Blockwise.Bytes

/-!
# Lz4.Block — the raw LZ4 block format

A block says how to rebuild a stretch of bytes. It is a list of sequences, each a run of literal
bytes followed by a copy of earlier output, and a last run of literals. A sequence is written as

    token, literal length, literals, offset, copy length

where the token holds both lengths as far as they fit into four bits each, and a length of fifteen
or more goes on in bytes of its own, all but the last of which are 255. A copy has at least four
bytes, which its length does not count, and its offset is a little-endian word. The last run has
no offset and no copy length, so a block ends right after literals.

`Block.toBytes` writes a block. A block is read piece by piece, since what can be said of a piece
may depend on the room that is left: `readLiterals` and `readCopy` read the two halves of a
sequence.

## Results

* `length_readLiterals_le`, `length_readCopy_le` — reading leaves no more bytes than there were.
-/

namespace Blockwise.Lz4

/-- A run of literals, then a copy of `extra` bytes more than the least, from `offset` bytes back. -/
structure Sequence where
  literals : Bytes
  offset : Nat
  extra : Nat
deriving DecidableEq

/-- Sequences and a last run of literals. -/
structure Block where
  sequences : List Sequence
  tail : Bytes
deriving DecidableEq

/-- The least number of bytes that a copy has. -/
def minCopy : Nat := 4

/-! ## Writing -/

/-- The bytes by which a length goes on after the token, if it needs any. -/
def lengthBytes (length : Nat) : Bytes :=
  if length < 15 then []
  else List.replicate ((length - 15) / 255) 255 ++ [UInt8.ofNat ((length - 15) % 255)]

/-- The token of two lengths. -/
def token (literals extra : Nat) : UInt8 :=
  UInt8.ofNat (16 * min literals 15 + min extra 15)

/-- A sequence as it is written. -/
def Sequence.toBytes (s : Sequence) : Bytes :=
  token s.literals.length s.extra :: lengthBytes s.literals.length ++ s.literals ++
    [UInt8.ofNat (s.offset % 256), UInt8.ofNat (s.offset / 256)] ++ lengthBytes s.extra

/-- The last run of literals as it is written. -/
def tailBytes (literals : Bytes) : Bytes :=
  token literals.length 0 :: lengthBytes literals.length ++ literals

/-- A block as it is written. -/
def Block.toBytes (block : Block) : Bytes :=
  block.sequences.flatMap Sequence.toBytes ++ tailBytes block.tail

/-! ## Reading -/

/-- Reads the bytes by which a length goes on: up to the first that is not 255. -/
def readLengthBytes : Bytes → Option (Nat × Bytes)
  | [] => none
  | b :: rest =>
    if b = 255 then (readLengthBytes rest).map fun (more, rest) => (255 + more, rest)
    else some (b.toNat, rest)

/-- Reads a length, given what the token says of it. -/
def readLength (inToken : Nat) (bytes : Bytes) : Option (Nat × Bytes) :=
  if inToken = 15 then (readLengthBytes bytes).map fun (more, rest) => (15 + more, rest)
  else some (inToken, bytes)

/-- Reads so many bytes, if there are as many. -/
def readExactly (count : Nat) (bytes : Bytes) : Option (Bytes × Bytes) :=
  let front := bytes.take count
  if front.length = count then some (front, bytes.drop count) else none

theorem length_readLengthBytes_le {bytes rest : Bytes} {n : Nat}
    (h : readLengthBytes bytes = some (n, rest)) : rest.length ≤ bytes.length := by
  induction bytes generalizing n with
  | nil => cases h
  | cons b bytes ih =>
    rw [readLengthBytes] at h
    split at h
    · obtain ⟨⟨more, rest'⟩, hr, he⟩ := Option.map_eq_some_iff.mp h
      cases he
      exact Nat.le_succ_of_le (ih hr)
    · cases h
      exact Nat.le_succ _

theorem length_readLength_le {bytes rest : Bytes} {k n : Nat}
    (h : readLength k bytes = some (n, rest)) : rest.length ≤ bytes.length := by
  unfold readLength at h
  split at h
  · obtain ⟨⟨more, rest'⟩, hr, he⟩ := Option.map_eq_some_iff.mp h
    cases he
    exact length_readLengthBytes_le hr
  · cases h
    exact Nat.le_refl _

theorem length_readExactly_le {bytes front rest : Bytes} {k : Nat}
    (h : readExactly k bytes = some (front, rest)) : rest.length ≤ bytes.length := by
  simp only [readExactly] at h
  split at h
  · cases h
    rw [List.length_drop]
    omega
  · cases h

/-- The literals that a token announces, and the bytes behind them. -/
def readLiterals (token : UInt8) (bytes : Bytes) : Option (Bytes × Bytes) :=
  match readLength (token.toNat / 16) bytes with
  | none => none
  | some (count, bytes) => readExactly count bytes

theorem length_readLiterals_le {token : UInt8} {bytes literals rest : Bytes}
    (h : readLiterals token bytes = some (literals, rest)) : rest.length ≤ bytes.length := by
  unfold readLiterals at h
  split at h
  · cases h
  · rename_i hl
    exact Nat.le_trans (length_readExactly_le h) (length_readLength_le hl)

/-- A copy of `count` bytes from `offset` bytes back. -/
structure Copy where
  offset : Nat
  count : Nat
deriving DecidableEq

/-- The copy that a token announces, and the bytes behind it. -/
def readCopy (token : UInt8) : Bytes → Option (Copy × Bytes)
  | low :: high :: bytes =>
    (readLength (token.toNat % 16) bytes).map fun (extra, rest) =>
      (⟨low.toNat + 256 * high.toNat, minCopy + extra⟩, rest)
  | _ => none

theorem length_readCopy_le {token : UInt8} {bytes rest : Bytes} {copy : Copy}
    (h : readCopy token bytes = some (copy, rest)) : rest.length ≤ bytes.length := by
  unfold readCopy at h
  split at h
  · obtain ⟨⟨extra, rest'⟩, hr, he⟩ := Option.map_eq_some_iff.mp h
    cases he
    have hle := length_readLength_le hr
    simp only [List.length_cons]
    omega
  · cases h

end Blockwise.Lz4
