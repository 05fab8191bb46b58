import Blockwise.Engine
import Blockwise.Pull

/-!
# Decoder — a stream of encoded blocks into a stream of plain bytes

A decoder takes encoded input in pieces and hands the plain bytes out in pieces of any size. Every
piece of input is cut into stretches of the largest size that an encoded chunk can have, and each
is decoded by one block call. Where encoded blocks are shorter than that, the caller has to feed
them one at a time.

A stream has no end mark: a decoder is finished whenever nothing waits and nothing is owed.

## Results

* `draw_progress` — a draw of at least one byte from a decoder that does not need input either
  fails or brings the stream nearer to needing input.
-/

namespace Blockwise

universe u

variable {σ : Type u}

/-- A stream decoder over a block transform. -/
structure Decoder (c : BlockTransform σ) where
  engine : Engine c .decode

namespace Decoder

variable {c : BlockTransform σ}

/-- A decoder at the start of a stream. -/
def new (c : BlockTransform σ) (state : σ) (settings : Settings) : Decoder c where
  engine := .new c .decode state settings

/-! ## Queries -/

/-- The window of the result buffer. -/
def window (d : Decoder c) : Window := d.engine.window

/-- The size of a plain chunk. -/
def chunkSize (d : Decoder c) : Nat := d.engine.chunkSize

/-- How many bytes of input wait. -/
def backlog (d : Decoder c) : Nat := d.engine.backlog

/-- How many plain bytes are owed to the caller. -/
def owed (d : Decoder c) : Nat := d.engine.owed

/-- Whether nothing waits and nothing is owed. -/
def needsInput (d : Decoder c) : Bool := d.engine.isIdle

/-- A decoder that needs input may as well be at the end. -/
def isFinished (d : Decoder c) : Bool := d.needsInput

/-- No dictionary is ever needed. -/
def needsDictionary (_ : Decoder c) : Bool := false

/-- The structure of a decoder. -/
def outline (d : Decoder c) : Outline :=
  .record "StreamingDecoder" [("codec", c.outline), ("pipe", d.engine.pump.outline)] true

/-! ## Input -/

/-- Takes the given range of the data as the next input. -/
def feed (d : Decoder c) (data : Bytes) (offset length : Nat) : Except Fault (Decoder c) :=
  (d.engine.feed data offset length).map fun engine => { d with engine }

/-- Takes all of the data as the next input. -/
def feedAll (d : Decoder c) (data : Bytes) : Except Fault (Decoder c) :=
  d.feed data 0 data.length

/-- Dictionaries are not supported: the only answer is a fault. -/
def loadDictionary (_ : Decoder c) (_ : Bytes) (_ _ : Nat) : Except Fault (Decoder c) :=
  .error (.unsupported "dictionary decompression")

/-! ## Output -/

/-- Stages the next chunk and decodes it. -/
def stroke (d : Decoder c) : Step (Decoder c) (Except Fault Unit) :=
  let step := d.engine.stroke
  ⟨step.answer.map fun _ => (), { d with engine := step.next }, step.events⟩

/-- Hands out at most `length` of the owed bytes. -/
def handOut (d : Decoder c) (length : Nat) : Step (Decoder c) (Except Fault Bytes) :=
  let drawn := d.engine.draw length
  .quiet (.ok drawn.1) { d with engine := drawn.2 }

/-- Draws at most `length` plain bytes, after a block call if nothing is owed yet. Nothing comes
from a decoder that needs input. -/
def draw (d : Decoder c) (length : Nat) : Step (Decoder c) (Except Fault Bytes) :=
  if d.engine.pump.isPoisoned then .quiet (.error .poisoned) d
  else if d.needsInput then .quiet (.ok []) d
  else if d.engine.pump.isOwing then d.handOut length
  else
    let step := d.stroke
    match step.answer with
    | .error fault => ⟨.error fault, step.next, step.events⟩
    | .ok () => (step.next.handOut length).after step.events

/-- Draws into a range of the caller's buffer and returns how many bytes it drew. -/
def pull (d : Decoder c) (out : Bytes) (offset length : Nat) :
    Step (Decoder c × Bytes) (Except Fault Nat) :=
  Blockwise.pull draw d out offset length

/-! ## New streams -/

/-- The mention of a reset. -/
def resetRemark (codec : String) : Diagnostic where
  severity := .debug
  message := "decoder reset"
  fields := [("codec", .text codec)]

/-- Starts a new stream, whatever became of the last one. The state of the transform stays. -/
def reset (d : Decoder c) : Step (Decoder c) Unit where
  answer := ()
  next := { engine := d.engine.reset }
  events := [.remark (resetRemark c.name)]

/-! ## Progress -/

/-- A draw of at least one byte from a decoder that does not need input either fails, or shortens
what waits, or leaves that and shortens what is owed. -/
theorem draw_progress {d : Decoder c} {length : Nat} {bytes : Bytes} (hl : 0 < length)
    (hn : d.needsInput = false) (h : (d.draw length).answer = .ok bytes) :
    Prod.Lex (· < ·) (· < ·) ((d.draw length).next.backlog, (d.draw length).next.owed)
      (d.backlog, d.owed) := by
  rw [Prod.lex_def]
  unfold draw at h ⊢
  split
  · rename_i hp
    simp [hp, Step.quiet] at h
  · rename_i hp
    rw [Bool.not_eq_true] at hp
    simp only [hp, hn, Bool.false_eq_true, if_false] at h ⊢
    split
    · rename_i ho
      have hpos := Engine.owed_pos_of_isOwing ho
      right
      refine ⟨Engine.backlog_draw .., ?_⟩
      show (d.engine.draw length).2.owed < d.engine.owed
      rw [Engine.owed_draw]
      omega
    · rename_i ho
      rw [Bool.not_eq_true] at ho
      have hwaiting := Engine.waiting_ne_nil_of_busy hn hp ho
      simp only [ho, Bool.false_eq_true, if_false] at h
      split at h
      · cases h
      · rename_i hs
        left
        have hc : ∃ counts, d.engine.stroke.answer = .ok counts := by
          cases hstroke : d.engine.stroke.answer with
          | error fault => simp [stroke, hstroke, Except.map] at hs
          | ok counts => exact ⟨counts, rfl⟩
        obtain ⟨counts, hc⟩ := hc
        show (d.engine.stroke.next.draw length).2.backlog < d.engine.backlog
        rw [Engine.backlog_draw]
        exact (Engine.stroke_progress hwaiting hc).1

end Decoder

end Blockwise
