import Blockwise.Bytes

/-!
# Buffer — memory that is made larger and smaller

A buffer is lent to a source, which writes to it from the front on; then it is cut down to what was
written. It is not cleared in between. What a buffer holds beyond the bytes that it was given is
zero, and these zeros are only counted: a large buffer costs no more than what was written to it.

## Results

* `bytes_resize`, `bytes_write` — what a buffer holds after it was resized or written to.
* `bytes_resize_write` — a buffer that was written to and cut down holds just what was written,
  whatever it held before.
-/

namespace Blockwise

/-- Memory with a size that can change. It holds certain bytes, and zeros up to its size. -/
structure Buffer where
  written : Bytes
  size : Nat
  length_written : written.length ≤ size
deriving DecidableEq

namespace Buffer

/-- A buffer without any memory. -/
def empty : Buffer := ⟨[], 0, Nat.le_refl 0⟩

/-- All that the buffer holds. -/
def bytes (buffer : Buffer) : Bytes :=
  buffer.written ++ List.replicate (buffer.size - buffer.written.length) 0

/-- The buffer cut down to the size, or with zeros up to it. -/
def resize (buffer : Buffer) (size : Nat) : Buffer where
  written := buffer.written.take size
  size := size
  length_written := List.length_take_le ..

/-- The buffer with bytes written over it from the front on. What would reach past its end is
lost. -/
def write (buffer : Buffer) (bytes : Bytes) : Buffer where
  written := bytes.take buffer.size ++ buffer.written.drop bytes.length
  size := buffer.size
  length_written := by
    have hle := buffer.length_written
    rw [List.length_append, List.length_take, List.length_drop]
    omega

/-! ## What a buffer holds -/

@[simp] theorem size_resize (buffer : Buffer) (size : Nat) : (buffer.resize size).size = size := rfl

theorem length_bytes (buffer : Buffer) : buffer.bytes.length = buffer.size := by
  have hle := buffer.length_written
  rw [bytes, List.length_append, List.length_replicate]
  omega

theorem bytes_resize (buffer : Buffer) (size : Nat) :
    (buffer.resize size).bytes =
      (buffer.bytes ++ List.replicate (size - buffer.size) 0).take size := by
  have hle := buffer.length_written
  refine List.ext_getElem? fun i => ?_
  simp only [bytes, resize, List.getElem?_append, List.getElem?_take, List.getElem?_replicate,
    List.length_take, List.length_append, List.length_replicate]
  grind

theorem bytes_write (buffer : Buffer) (bytes : Bytes) :
    (buffer.write bytes).bytes = overlay buffer.bytes 0 bytes := by
  have hle := buffer.length_written
  refine List.ext_getElem? fun i => ?_
  simp only [Buffer.bytes, write, overlay, List.getElem?_append, List.getElem?_take,
    List.getElem?_replicate, List.getElem?_drop, List.getElem?_zipWith, List.length_take,
    List.length_append, List.length_replicate, List.length_drop, List.length_zipWith]
  grind

/-- A buffer that was written to and cut down to just that holds nothing else, whatever it held
before. -/
theorem bytes_resize_write {buffer : Buffer} {bytes : Bytes} (h : bytes.length ≤ buffer.size) :
    ((buffer.write bytes).resize bytes.length).bytes = bytes := by
  have hle : 0 + bytes.length ≤ buffer.bytes.length := by
    rw [length_bytes, Nat.zero_add]
    exact h
  have hfound : (overlay buffer.bytes 0 bytes).take bytes.length = bytes := take_drop_overlay hle
  have hgrown : bytes.length - (buffer.write bytes).size = 0 := Nat.sub_eq_zero_of_le h
  rw [bytes_resize, bytes_write, hgrown, List.replicate_zero, List.append_nil, hfound]

end Buffer

end Blockwise
