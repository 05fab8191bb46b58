import Blockwise.Lz4.Block

/-!
# Lz4.Search — finding the repetitions of a stretch

The stretch is searched once, from front to back. A table remembers, for each hash of the next few
bytes, the last position at which it was seen; a position whose remembered candidate starts with
the same four bytes is a repetition. It is extended in both directions as far as the bytes agree,
and becomes a sequence. Between repetitions the search takes single steps at first, and longer
ones the longer it finds nothing.

The last twelve bytes start no repetition and the last six belong to none, so that the block ends
with literals. A stretch of less than thirteen bytes is literals altogether.
-/

namespace Blockwise.Lz4

/-! ## Words and hashes -/

/-- The byte at a position, zero past the end. -/
def byteAt (input : Array UInt8) (i : Nat) : UInt8 :=
  input.getD i 0

/-- The little-endian word of four bytes at a position. -/
def word32At (input : Array UInt8) (i : Nat) : UInt32 :=
  (byteAt input i).toUInt32 ||| (byteAt input (i + 1)).toUInt32 <<< 8 |||
    (byteAt input (i + 2)).toUInt32 <<< 16 ||| (byteAt input (i + 3)).toUInt32 <<< 24

/-- The little-endian word of eight bytes at a position. -/
def word64At (input : Array UInt8) (i : Nat) : UInt64 :=
  (word32At input i).toUInt64 ||| (word32At input (i + 4)).toUInt64 <<< 32

/-- The number of entries of the table. -/
def tableSize : Nat := 4096

/-- The hash of the bytes at a position: twelve bits of a product. Four bytes count in a stretch
of less than 65535 bytes, five in a longer one. -/
def hashAt (input : Array UInt8) (i : Nat) : Nat :=
  if input.size < 65535 then ((word32At input i * 2654435761) >>> 20).toNat
  else (((word64At input i <<< 24) * 889523592379) >>> 52).toNat

/-- The positions last seen, by hash; zero where none was. -/
abbrev Table := Array Nat

/-- The farthest that a copy reaches back. -/
def maxOffset : Nat := 65535

/-! ## Looking for a repetition -/

/-- The first position from `next` on whose candidate starts with the same four bytes, and the
candidate; and the table with every position tried. After each 32 tries in vain the step grows by
one. -/
def findMatch (input : Array UInt8) (table : Table) (next tries : Nat) :
    Option (Nat × Nat) × Table :=
  if input.size < next + 12 then (none, table)
  else
    let hash := hashAt input next
    let candidate := table.getD hash 0
    let table := table.setIfInBounds hash next
    if next - candidate ≤ maxOffset ∧ word32At input candidate = word32At input next then
      (some (next, candidate), table)
    else findMatch input table (next + (1 + tries / 32)) (tries + 1)
termination_by input.size - next
decreasing_by omega

theorem le_of_findMatch {input : Array UInt8} {table : Table} {next tries position candidate : Nat}
    (h : (findMatch input table next tries).1 = some (position, candidate)) :
    next ≤ position ∧ position + 12 ≤ input.size := by
  fun_induction findMatch input table next tries with
  | case1 => cases h
  | case2 =>
    simp only [Option.some.injEq, Prod.mk.injEq] at h
    omega
  | case3 _ _ _ _ _ _ _ _ ih => have := ih h; omega

/-- How many bytes before the two positions agree, without going below `floor` in the first or the
start in the second. -/
def agreementBefore (input : Array UInt8) (floor position : Nat) : (candidate : Nat) → Nat
  | 0 => 0
  | candidate + 1 =>
    if floor < position ∧ byteAt input (position - 1) = byteAt input candidate then
      1 + agreementBefore input floor (position - 1) candidate
    else 0

/-- How many bytes from the two positions on agree, as long as the first stays below `limit`. -/
def agreementFrom (input : Array UInt8) (limit position candidate : Nat) : Nat :=
  if position < limit ∧ byteAt input position = byteAt input candidate then
    1 + agreementFrom input limit (position + 1) (candidate + 1)
  else 0
termination_by limit - position

/-! ## The whole stretch -/

/-- The bytes from one position to another. -/
def stretch (input : Array UInt8) (start stop : Nat) : Bytes :=
  (input.extract start stop).toList

/-- The sequences from `start` on, when the search goes on at `next`, and the start of the last
run of literals. -/
def sequencesFrom (input : Array UInt8) (table : Table) (start next : Nat) : List Sequence × Nat :=
  match _h : findMatch input table next 0 with
  | (none, _) => ([], start)
  | (some (position, candidate), table) =>
    let before := agreementBefore input start position candidate
    let after := agreementFrom input (input.size - 6) (position + minCopy) (candidate + minCopy)
    let stop := position + minCopy + after
    let s : Sequence :=
      ⟨stretch input start (position - before), position - candidate, before + after⟩
    let table := table.setIfInBounds (hashAt input (stop - 2)) (stop - 2)
    let (rest, last) := sequencesFrom input table stop stop
    (s :: rest, last)
termination_by input.size - next
decreasing_by
  have hle := le_of_findMatch (congrArg Prod.fst _h)
  have hmin : minCopy = 4 := rfl
  omega

/-- The block of a stretch. -/
def Block.ofBytes (bytes : Bytes) : Block :=
  let input := bytes.toArray
  if input.size < 13 then ⟨[], bytes⟩
  else
    let table := (Array.replicate tableSize 0).setIfInBounds (hashAt input 0) 0
    let (sequences, last) := sequencesFrom input table 0 1
    ⟨sequences, stretch input last input.size⟩

end Blockwise.Lz4
