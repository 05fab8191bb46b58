import Blockwise.Buffer
import Blockwise.Decoder
import Blockwise.Source

/-!
# Reader — a decoder behind a source

What is read from a reader comes from its source through its decoder. A read hands out what the
decoder has; only when that needs input does the reader ask the source, for at most a buffer's
worth, and feed the decoder what it got. A source that gets nothing has come to its end, and is
not asked again before the reader is reset.

The source writes into a buffer, which goes to the decoder as it is. A source that fails leaves the
buffer behind at its full size, and the next read of the source begins with that one.

A read that gets nothing tells the caller that the stream is over, so it goes on asking and
decoding until there is something to hand out or the source is at its end.

## Results

* `fetch_of_refused`, `fetch_of_exhausted`, `fetch_of_served` — what the source answers decides
  everything, whatever was left in the buffer.
* `weight_fetch_lt` — a source read that gets anything leaves the source lighter, so a read comes to
  an end on every source and every transform.
-/

namespace Blockwise

universe u

variable {σ : Type u}

/-- A reader: what is read comes from the source through the decoder. -/
structure Reader (c : BlockTransform σ) where
  source : Source
  decoder : Decoder c
  /-- What the source writes into. -/
  buffer : Buffer
  /-- The most bytes that are asked of the source at a time. -/
  bufferSize : Nat
  bufferSize_pos : 0 < bufferSize
  /-- Whether the source has come to its end. -/
  atEnd : Bool

namespace Reader

variable {c : BlockTransform σ}

/-- A reader with a buffer of the given size, or of one byte if that is zero. -/
def withBufferSize (source : Source) (decoder : Decoder c) (bufferSize : Nat) : Reader c where
  source := source
  decoder := decoder
  buffer := .empty
  bufferSize := transferSize bufferSize
  bufferSize_pos := transferSize_pos bufferSize
  atEnd := false

/-- A reader with a buffer of one chunk of the default size. -/
def new (source : Source) (decoder : Decoder c) : Reader c :=
  withBufferSize source decoder defaultChunkSize

/-- The structure of a reader, as far as it concerns a reader of the log. -/
def outline (r : Reader c) : Outline :=
  .record "DecompressorReader"
    [("buffer_size", .number r.bufferSize), ("remaining", .number r.decoder.backlog),
      ("eof", .truth r.atEnd)] false

/-! ## Fetching -/

/-- Asks the source for input and feeds it to the decoder. The answer is whether there was any. -/
def fetch (r : Reader c) : Step (Reader c) (Except ChannelError Bool) :=
  let lent := r.buffer.resize r.bufferSize
  let got := r.source.readSteadily lent.size
  match got.answer with
  | .error failure =>
    ⟨.error (.channel failure), { r with source := got.next, buffer := lent }, got.events⟩
  | .ok [] => ⟨.ok false, { r with source := got.next, buffer := .empty, atEnd := true }, got.events⟩
  | .ok (b :: bytes) =>
    let filled := (lent.write (b :: bytes)).resize (b :: bytes).length
    -- the buffer goes to the decoder, and a new one takes its place
    let r₁ := { r with source := got.next, buffer := .empty }
    match r.decoder.feedAll filled.bytes with
    | .error fault => ⟨.error (.stream fault), r₁, got.events⟩
    | .ok decoder => ⟨.ok true, { r₁ with decoder }, got.events⟩

section Fetch

variable {r : Reader c}

theorem fetch_of_refused {failure : Failure}
    (h : (r.source.readSteadily r.bufferSize).answer = .error failure) :
    r.fetch =
      ⟨.error (.channel failure),
        { r with
          source := (r.source.readSteadily r.bufferSize).next
          buffer := r.buffer.resize r.bufferSize },
        (r.source.readSteadily r.bufferSize).events⟩ := by
  simp only [fetch, Buffer.size_resize, h]

theorem fetch_of_exhausted (h : (r.source.readSteadily r.bufferSize).answer = .ok []) :
    r.fetch =
      ⟨.ok false,
        { r with
          source := (r.source.readSteadily r.bufferSize).next
          buffer := .empty
          atEnd := true },
        (r.source.readSteadily r.bufferSize).events⟩ := by
  simp only [fetch, Buffer.size_resize, h]

/-- The decoder is fed what the source served. -/
theorem fetch_of_served {b : UInt8} {bytes : Bytes}
    (h : (r.source.readSteadily r.bufferSize).answer = .ok (b :: bytes)) :
    let r₁ := { r with source := (r.source.readSteadily r.bufferSize).next, buffer := .empty }
    r.fetch =
      match r.decoder.feedAll (b :: bytes) with
      | .error fault =>
        ⟨.error (.stream fault), r₁, (r.source.readSteadily r.bufferSize).events⟩
      | .ok decoder =>
        ⟨.ok true, { r₁ with decoder }, (r.source.readSteadily r.bufferSize).events⟩ := by
  have hle : (b :: bytes).length ≤ (r.buffer.resize r.bufferSize).size :=
    Source.length_le_of_readSteadily h
  simp only [fetch, Buffer.size_resize, h, Buffer.bytes_resize_write hle]

end Fetch

theorem weight_fetch_lt {r : Reader c} (h : r.fetch.answer = .ok true) :
    r.fetch.next.source.weight < r.source.weight := by
  cases hgot : (r.source.readSteadily r.bufferSize).answer with
  | error failure => simp [fetch_of_refused hgot] at h
  | ok bytes =>
    cases bytes with
    | nil => simp [fetch_of_exhausted hgot] at h
    | cons b bytes =>
      have hw := Source.weight_readSteadily_le hgot
      simp only [List.length_cons] at hw
      rw [fetch_of_served hgot]
      split <;> dsimp only <;> omega

/-! ## Reading -/

/-- Draws at most `length` bytes, asking the source for input until there are some or it is at its
end. -/
def draw (r : Reader c) (length : Nat) : Step (Reader c) (Except ChannelError Bytes) :=
  let drawn := r.decoder.draw length
  let r₁ := { r with decoder := drawn.next }
  match drawn.answer with
  | .error fault => ⟨.error (.stream fault), r₁, drawn.events⟩
  | .ok (b :: bytes) => ⟨.ok (b :: bytes), r₁, drawn.events⟩
  | .ok [] =>
    if r₁.atEnd || !r₁.decoder.needsInput then ⟨.ok [], r₁, drawn.events⟩
    else
      let fetched := r₁.fetch
      match _h : fetched.answer with
      | .error e => ⟨.error e, fetched.next, drawn.events ++ fetched.events⟩
      | .ok false => ⟨.ok [], fetched.next, drawn.events ++ fetched.events⟩
      | .ok true => (fetched.next.draw length).after (drawn.events ++ fetched.events)
termination_by r.source.weight
decreasing_by exact weight_fetch_lt _h

/-- Reads at most `length` bytes; none at the end of the stream. To read none touches nothing. -/
def read (r : Reader c) (length : Nat) : Step (Reader c) (Except ChannelError Bytes) :=
  if length = 0 then .quiet (.ok []) r else r.draw length

/-- Reads into the caller's buffer, from its start on, and returns how many bytes it got. -/
def readInto (r : Reader c) (out : Bytes) : Step (Reader c × Bytes) (Except ChannelError Nat) :=
  let step := r.read out.length
  match step.answer with
  | .error e => ⟨.error e, (step.next, out), step.events⟩
  | .ok bytes => ⟨.ok bytes.length, (step.next, overlay out 0 bytes), step.events⟩

/-- Starts a new stream from the same source, whatever became of the last one. -/
def reset (r : Reader c) : Step (Reader c) Unit :=
  let step := r.decoder.reset
  ⟨(), { r with decoder := step.next, atEnd := false }, step.events⟩

end Reader

end Blockwise
