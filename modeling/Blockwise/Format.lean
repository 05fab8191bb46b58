import Blockwise.Availability
import Blockwise.Lz4
import Blockwise.Reader
import Blockwise.Settings.Override
import Blockwise.Writer

/-!
# Format — everything that is needed to write and read one kind of stream

A format puts together a block transform, its availability and the settings of its streams. It
hands out encoders, decoders, writers and readers, each with the transform in its initial state.
Where the transform is not available nothing is handed out, and the making of the format already
says so in the log.

A writer gets a buffer of one chunk. A reader asks its source for as much as a chunk can have when
it is encoded, so a block made from a whole chunk may reach the decoder in one piece.
-/

namespace Blockwise

universe u v

variable {σ : Type u} {τ : Type v}

/-- A kind of stream. -/
structure Format (c : BlockTransform σ) where
  /-- The state in which every stream's transform starts. -/
  initial : σ
  availability : Availability
  settings : Settings

namespace Format

variable {c : BlockTransform σ} {b : BlockTransform τ}

/-- The mention of a transform that cannot be used. -/
def notAvailable (codec reason : String) : Diagnostic where
  severity := .error
  message := "block codec backend not available"
  fields := [("codec", .text codec), ("reason", .text reason)]

/-- What the making of a format has to say about the availability. -/
def remarks (c : BlockTransform σ) : Availability → List Diagnostic
  | .available _ => []
  | .unavailable reason => [notAvailable c.name reason]

/-- A format with the settings under the bytes of the environment variable
`Settings.overrideVariable`, if that is set; and what there is to say about it. -/
def new (c : BlockTransform σ) (initial : σ) (availability : Availability)
    (environment : Option Bytes) : Format c × List Diagnostic :=
  let (settings, ignored) := Settings.ofEnvironment environment
  (⟨initial, availability, settings⟩, remarks c availability ++ ignored)

/-- Streams of stored blocks. -/
def stored (environment : Option Bytes) : Format .stored × List Diagnostic :=
  new .stored () .stored environment

/-- Streams of LZ4 blocks. -/
def lz4 (environment : Option Bytes) : Format .lz4 × List Diagnostic :=
  new .lz4 () .lz4 environment

/-- The same format with other settings. -/
def withSettings (f : Format c) (settings : Settings) : Format c := { f with settings }

/-- The extension of the names of files that hold such a stream. -/
def extension (_ : Format c) : String := "." ++ c.name

/-- The most bytes that a decoder of this format stages at once. -/
def readSize (f : Format c) : Nat :=
  max (c.bound f.initial f.settings.chunkSize) f.settings.chunkSize

/-! ## Streams -/

/-- An encoder of this format. -/
def encoder (f : Format c) : Except Fault (Encoder c) :=
  f.availability.guarded (.new c f.initial f.settings)

/-- A decoder of this format. -/
def decoder (f : Format c) : Except Fault (Decoder c) :=
  f.availability.guarded (.new c f.initial f.settings)

/-- A writer over the given encoder, with a buffer for this format. -/
def writerOver (f : Format c) (encoder : Encoder b) (sink : Sink) : Except Fault (Writer b) :=
  f.availability.guarded (.withBufferSize sink encoder f.settings.chunkSize)

/-- A writer of this format. -/
def writer (f : Format c) (sink : Sink) : Except Fault (Writer c) :=
  f.encoder.map (.withBufferSize sink · f.settings.chunkSize)

/-- A reader over the given decoder, with a buffer for this format. -/
def readerOver (f : Format c) (decoder : Decoder b) (source : Source) : Except Fault (Reader b) :=
  f.availability.guarded (.withBufferSize source decoder f.readSize)

/-- A reader of this format. -/
def reader (f : Format c) (source : Source) : Except Fault (Reader c) :=
  f.decoder.map (.withBufferSize source · f.readSize)

end Format

end Blockwise
