import Blockwise.Buffer
import Blockwise.Encoder
import Blockwise.Sink

/-!
# Writer — an encoder in front of a sink

Whatever is written to a writer goes through its encoder into its sink. A write feeds all of its
bytes to the encoder and then delivers until the encoder needs input again, so a write that
succeeds has consumed everything. At the end the stream is finished, which delivers what is still
owed; a writer that is abandoned instead does the same, but can only mention a failure in the log.

What is written is gathered, and at once split off and fed to the encoder as one input. So nothing is
left gathered when a write ends, be it that the encoder refused the input; this is part of the type.

A delivery draws at most a buffer's worth from the encoder into the buffer, which keeps what it held
behind that, and hands all that was drawn to the sink. If the sink fails on the way, the bytes that
it has not taken are gone from the encoder.

## Results

* `settle` comes to an end on every sink and every transform: a delivery that succeeds brings the
  encoder nearer to needing input (`Encoder.draw_progress`).
-/

namespace Blockwise

universe u

variable {σ : Type u}

/-- A writer: what is written goes through the encoder into the sink. -/
structure Writer (c : BlockTransform σ) where
  sink : Sink
  encoder : Encoder c
  /-- What was written and is not fed to the encoder yet. -/
  gathered : Bytes
  gathered_eq_nil : gathered = []
  /-- What the encoder is drawn into. -/
  buffer : Buffer
  buffer_pos : 0 < buffer.size

namespace Writer

variable {c : BlockTransform σ}

/-- A writer with a buffer of the given size, or of one byte if that is zero. -/
def withBufferSize (sink : Sink) (encoder : Encoder c) (bufferSize : Nat) : Writer c where
  sink := sink
  encoder := encoder
  gathered := []
  gathered_eq_nil := rfl
  buffer := Buffer.empty.resize (transferSize bufferSize)
  buffer_pos := transferSize_pos bufferSize

/-- A writer with a buffer of one chunk of the default size. -/
def new (sink : Sink) (encoder : Encoder c) : Writer c :=
  withBufferSize sink encoder defaultChunkSize

/-- The most bytes that are drawn at a time. -/
def bufferSize (w : Writer c) : Nat := w.buffer.size

/-- The structure of a writer, as far as it concerns a reader of the log. -/
def outline (w : Writer c) : Outline :=
  .record "CompressorWriter"
    [("buffer_size", .number w.bufferSize), ("bytes_read", .number w.encoder.consumed),
      ("bytes_written", .number w.encoder.produced)] false

/-! ## Delivery -/

/-- Draws once from the encoder into the buffer, and hands what came to the sink. -/
def deliver (w : Writer c) : Step (Writer c) (Except ChannelError Unit) :=
  let drawn := w.encoder.draw w.bufferSize
  match drawn.answer with
  | .error fault => ⟨.error (.stream fault), { w with encoder := drawn.next }, drawn.events⟩
  | .ok bytes =>
    let buffer := w.buffer.write bytes
    let handed := w.sink.writeAll (buffer.resize bytes.length).bytes
    { answer := handed.answer.mapError .channel
      next :=
        { w with encoder := drawn.next, sink := handed.next, buffer, buffer_pos := w.buffer_pos }
      events := drawn.events ++ handed.events }

theorem deliver_progress {w : Writer c} (hn : w.encoder.needsInput = false)
    (h : w.deliver.answer = .ok ()) :
    Prod.Lex (· < ·) (· < ·) (w.deliver.next.encoder.backlog, w.deliver.next.encoder.owed)
      (w.encoder.backlog, w.encoder.owed) := by
  unfold deliver at h ⊢
  dsimp only at h ⊢
  split
  · rename_i hd
    simp [hd] at h
  · rename_i hd
    exact Encoder.draw_progress w.buffer_pos hn hd

/-- Delivers until the encoder needs input. -/
def settle (w : Writer c) : Step (Writer c) (Except ChannelError Unit) :=
  if _hn : w.encoder.needsInput then .quiet (.ok ()) w
  else
    let step := w.deliver
    match _h : step.answer with
    | .error e => ⟨.error e, step.next, step.events⟩
    | .ok () => step.next.settle.after step.events
termination_by (w.encoder.backlog, w.encoder.owed)
decreasing_by exact deliver_progress (by simpa using _hn) _h

/-! ## Writing -/

/-- Writes the bytes and returns how many were consumed, which is all of them. -/
def write (w : Writer c) (bytes : Bytes) : Step (Writer c) (Except ChannelError Nat) :=
  if bytes.isEmpty then .quiet (.ok 0) w
  else
    let input := w.gathered ++ bytes
    -- all that was gathered is split off, before it is known whether the encoder takes it
    let w₁ := { w with gathered := [], gathered_eq_nil := rfl }
    match w₁.encoder.feedAll input with
    | .error fault => .quiet (.error (.stream fault)) w₁
    | .ok encoder =>
      let step := { w₁ with encoder }.settle
      ⟨step.answer.map fun _ => bytes.length, step.next, step.events⟩

/-- Writes all of the bytes. One write does. -/
def writeAll (w : Writer c) (bytes : Bytes) : Step (Writer c) (Except ChannelError Unit) :=
  let step := w.write bytes
  ⟨step.answer.map fun _ => (), step.next, step.events⟩

/-- Flushes the sink. What the encoder holds stays there. -/
def flush (w : Writer c) : Step (Writer c) (Except ChannelError Unit) :=
  let step := w.sink.flush
  ⟨step.answer.mapError .channel, { w with sink := step.next }, step.events⟩

/-! ## The end of a stream -/

/-- Closes the encoder and delivers everything. The writer can be used again after a reset. -/
def conclude (w : Writer c) : Step (Writer c) (Except ChannelError Unit) :=
  { w with encoder := w.encoder.close }.settle

/-- The mention of a writer that was abandoned and could not deliver everything. -/
def unfinished : Diagnostic where
  severity := .warn
  message := "failed to finish compressed stream on drop"
  fields := []

/-- Gives the writer up: the stream is finished as far as that goes, and the sink is returned. -/
def abandon (w : Writer c) : Step Sink Unit :=
  let step := w.conclude
  match step.answer with
  | .ok () => ⟨(), step.next.sink, step.events⟩
  | .error _ => ⟨(), step.next.sink, step.events ++ [.remark unfinished]⟩

/-- Finishes the stream, flushes the sink and returns it. A writer that cannot finish is abandoned,
which tries once more. -/
def finish (w : Writer c) : Step Sink (Except ChannelError Unit) :=
  let step := w.conclude
  match step.answer with
  | .error e =>
    let given := step.next.abandon
    ⟨.error e, given.next, step.events ++ given.events⟩
  | .ok () =>
    let flushed := step.next.sink.flush
    ⟨flushed.answer.mapError .channel, flushed.next, step.events ++ flushed.events⟩

/-- Starts a new stream into the same sink, whatever became of the last one. -/
def reset (w : Writer c) : Step (Writer c) Unit :=
  let step := w.encoder.reset
  ⟨(), { w with encoder := step.next }, step.events⟩

end Writer

end Blockwise
