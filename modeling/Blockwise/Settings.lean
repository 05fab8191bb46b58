import Blockwise.Fault

/-!
# Settings — how large the chunks of a stream are

A stream is staged in chunks of one size. The size bounds how much plain data one block call takes
in or gives back. It is at least one byte, so that staging a chunk always makes progress, and at
most 64 MiB.
-/

namespace Blockwise

/-- 1024 bytes. -/
def kilobyte : Nat := 1024

/-- 1024 kilobytes. -/
def megabyte : Nat := 1024 * kilobyte

/-- The largest chunk size. -/
def maxChunkSize : Nat := 64 * megabyte

/-- The chunk size where none is asked for. -/
def defaultChunkSize : Nat := 4 * kilobyte

/-- The settings of a stream: a chunk size within its limits. -/
@[ext] structure Settings where
  chunkSize : Nat
  chunkSize_pos : 0 < chunkSize := by decide
  chunkSize_le : chunkSize ≤ maxChunkSize := by decide
deriving DecidableEq

namespace Settings

/-- Chunks of 4 KiB. -/
def default : Settings where
  chunkSize := defaultChunkSize

/-- The fault for a chunk size outside its limits. -/
def chunkSizeFault (chunkSize : Nat) : Fault :=
  .badSetting s!"chunk size {chunkSize} outside 1..={maxChunkSize}"

/-- Settings with a given chunk size, if it is within its limits. -/
def ofChunkSize (chunkSize : Nat) : Except Fault Settings :=
  if h : 0 < chunkSize ∧ chunkSize ≤ maxChunkSize then .ok ⟨chunkSize, h.1, h.2⟩
  else .error (chunkSizeFault chunkSize)

/-- The structure of the settings. -/
def outline (settings : Settings) : Outline :=
  .record "CodecConfig" [("chunk_size", .number settings.chunkSize)] true

end Settings

end Blockwise
