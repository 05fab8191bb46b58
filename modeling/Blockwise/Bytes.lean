/-!
# Bytes — stretches of bytes, how they are cut and how they are overlaid

Input, output and the buffers between them are all lists of bytes. Two operations on them
carry the library:

* `pieces` cuts a stretch into consecutive pieces of one size; only the last may be shorter.
  It says what a stream of blocks is, independently of how the blocks were staged.
* `overlay` writes a stretch into a buffer at an offset. A buffer never grows: what would reach
  past its end is lost.

## Results

* `flatten_pieces`, `flatten_flatMap_pieces` — the pieces put together again are the stretch.
* `length_le_of_mem_pieces`, `ne_nil_of_mem_pieces` — no piece is longer than the size, and none
  is empty.
* `length_overlay` — an overlay keeps the length of the buffer.
* `take_drop_overlay` — what was laid over a buffer is found there.
-/

namespace Blockwise

/-- A stretch of bytes. -/
abbrev Bytes := List UInt8

/-! ## Pieces -/

/-- The consecutive pieces of `size` bytes, the last one possibly shorter. There are none of
size zero, and none of an empty stretch. -/
def pieces (size : Nat) (bytes : Bytes) : List Bytes :=
  if size = 0 ∨ bytes = [] then []
  else bytes.take size :: pieces size (bytes.drop size)
termination_by bytes.length
decreasing_by
  rename_i h
  have hpos : 0 < bytes.length := List.length_pos_iff.mpr fun e => h (.inr e)
  rw [List.length_drop]
  omega

theorem pieces_nil (size : Nat) : pieces size [] = [] := by
  rw [pieces, if_pos (.inr rfl)]

theorem pieces_of_ne_nil {size : Nat} {bytes : Bytes} (hs : 0 < size) (hb : bytes ≠ []) :
    pieces size bytes = bytes.take size :: pieces size (bytes.drop size) := by
  rw [pieces, if_neg]
  rintro (h | h)
  · omega
  · exact hb h

/-- Cutting loses nothing and adds nothing. -/
theorem flatten_pieces {size : Nat} (hs : 0 < size) (bytes : Bytes) :
    (pieces size bytes).flatten = bytes := by
  fun_induction pieces size bytes with
  | case1 bytes h =>
    rcases h with h | h
    · omega
    · simp [h]
  | case2 bytes _ ih => rw [List.flatten_cons, ih, List.take_append_drop]

/-- The pieces of all inputs, put together again, are the inputs put together. -/
theorem flatten_flatMap_pieces {size : Nat} (hs : 0 < size) (inputs : List Bytes) :
    (inputs.flatMap (pieces size)).flatten = inputs.flatten := by
  induction inputs with
  | nil => rfl
  | cons input inputs ih =>
    rw [List.flatMap_cons, List.flatten_append, ih, flatten_pieces hs, List.flatten_cons]

theorem length_le_of_mem_pieces {size : Nat} {bytes piece : Bytes}
    (h : piece ∈ pieces size bytes) : piece.length ≤ size := by
  fun_induction pieces size bytes with
  | case1 => cases h
  | case2 bytes _ ih =>
    rcases List.mem_cons.mp h with rfl | h
    · exact List.length_take_le ..
    · exact ih h

theorem ne_nil_of_mem_pieces {size : Nat} {bytes piece : Bytes}
    (h : piece ∈ pieces size bytes) : piece ≠ [] := by
  fun_induction pieces size bytes with
  | case1 => cases h
  | case2 bytes hne ih =>
    rcases List.mem_cons.mp h with rfl | h
    · intro e
      rcases List.take_eq_nil_iff.mp e with e | e
      · exact hne (.inl e)
      · exact hne (.inr e)
    · exact ih h

/-! ## Overlays -/

/-- The buffer with `bytes` written over it from `offset` on, cut off at the buffer's end. -/
def overlay (buffer : Bytes) (offset : Nat) (bytes : Bytes) : Bytes :=
  buffer.take offset ++ (buffer.drop offset).zipWith (fun _ b => b) bytes ++
    buffer.drop (offset + bytes.length)

@[simp] theorem length_overlay (buffer : Bytes) (offset : Nat) (bytes : Bytes) :
    (overlay buffer offset bytes).length = buffer.length := by
  simp only [overlay, List.length_append, List.length_take, List.length_drop, List.length_zipWith]
  omega

@[simp] theorem overlay_nil (buffer : Bytes) (offset : Nat) :
    overlay buffer offset [] = buffer := by
  simp [overlay]

theorem zipWith_right {α β : Type} (xs : List α) (ys : List β) :
    xs.zipWith (fun _ y => y) ys = ys.take xs.length := by
  induction xs generalizing ys with
  | nil => simp
  | cons x xs ih =>
    cases ys with
    | nil => simp
    | cons y ys => simp [ih]

/-- Bytes laid over a range that holds them are found there. -/
theorem take_drop_overlay {buffer bytes : Bytes} {offset : Nat}
    (h : offset + bytes.length ≤ buffer.length) :
    ((overlay buffer offset bytes).drop offset).take bytes.length = bytes := by
  have hoffset : (buffer.take offset).length = offset := by
    rw [List.length_take]
    omega
  -- none of the bytes are cut off at the end of the buffer
  have hroom : bytes.length ≤ (buffer.drop offset).length := by
    rw [List.length_drop]
    omega
  rw [overlay, zipWith_right, List.take_of_length_le hroom, List.append_assoc,
    List.drop_left' hoffset, List.take_left]

end Blockwise
