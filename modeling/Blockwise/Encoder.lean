import Blockwise.Engine
import Blockwise.Pull

/-!
# Encoder — a stream of plain bytes into a stream of encoded blocks

An encoder takes input in pieces of any size and hands its encoding out in pieces of any size.
The caller feeds it while it needs input, draws until it needs input again, and at the end closes
it and draws until it is finished. Every piece of input is cut into chunks of its own: a chunk
never spans two pieces, and each is encoded by one block call.

Drawing makes at most one block call, and only when nothing is owed from the one before. A closed
encoder that is drawn from although nothing waits makes a block call on no bytes at all, which
gives a transform with an end mark the occasion to write it.

## Results

* `draw_progress` — a draw of at least one byte from an encoder that does not need input either
  fails or brings the stream nearer to needing input, so drawing until then comes to an end.
-/

namespace Blockwise

universe u

variable {σ : Type u}

/-- A stream encoder over a block transform. -/
structure Encoder (c : BlockTransform σ) where
  engine : Engine c .encode
  /-- Whether the caller said that no more input comes. -/
  closed : Bool
  /-- How many plain bytes went into block calls since the last reset. -/
  consumed : Nat
  /-- How many encoded bytes came out of block calls since the last reset. -/
  produced : Nat

namespace Encoder

variable {c : BlockTransform σ}

/-- An encoder at the start of a stream. -/
def new (c : BlockTransform σ) (state : σ) (settings : Settings) : Encoder c where
  engine := .new c .encode state settings
  closed := false
  consumed := 0
  produced := 0

/-! ## Queries -/

/-- The window of the result buffer. -/
def window (e : Encoder c) : Window := e.engine.window

/-- The size of a plain chunk. -/
def chunkSize (e : Encoder c) : Nat := e.engine.chunkSize

/-- How many bytes of input wait. -/
def backlog (e : Encoder c) : Nat := e.engine.backlog

/-- How many encoded bytes are owed to the caller. -/
def owed (e : Encoder c) : Nat := e.engine.owed

/-- Whether nothing waits and nothing is owed. -/
def needsInput (e : Encoder c) : Bool := e.engine.isIdle

/-- Whether no more input comes and everything was handed out. -/
def isFinished (e : Encoder c) : Bool := e.closed && e.engine.isIdle

/-- The structure of an encoder. -/
def outline (e : Encoder c) : Outline :=
  .record "StreamingEncoder"
    [("codec", c.outline), ("pipe", e.engine.pump.outline), ("finish", .truth e.closed),
      ("bytes_read", .number e.consumed), ("bytes_written", .number e.produced)] true

/-! ## Input -/

/-- Takes the given range of the data as the next input. -/
def feed (e : Encoder c) (data : Bytes) (offset length : Nat) : Except Fault (Encoder c) :=
  (e.engine.feed data offset length).map fun engine => { e with engine }

/-- Takes all of the data as the next input. -/
def feedAll (e : Encoder c) (data : Bytes) : Except Fault (Encoder c) :=
  e.feed data 0 data.length

/-- Dictionaries are not supported: the only answer is a fault. -/
def loadDictionary (_ : Encoder c) (_ : Bytes) (_ _ : Nat) : Except Fault (Encoder c) :=
  .error (.unsupported "dictionary compression")

/-- Says that no more input comes. -/
def close (e : Encoder c) : Encoder c := { e with closed := true }

/-! ## Output -/

/-- Stages the next chunk and encodes it, and counts what went in and came out. -/
def stroke (e : Encoder c) : Step (Encoder c) (Except Fault Unit) :=
  let step := e.engine.stroke
  match step.answer with
  | .error fault => ⟨.error fault, { e with engine := step.next }, step.events⟩
  | .ok counts =>
    { answer := .ok ()
      next :=
        { e with
          engine := step.next
          consumed := e.consumed + counts.staged
          produced := e.produced + counts.produced }
      events := step.events }

/-- Hands out at most `length` of the owed bytes. -/
def handOut (e : Encoder c) (length : Nat) : Step (Encoder c) (Except Fault Bytes) :=
  let drawn := e.engine.draw length
  .quiet (.ok drawn.1) { e with engine := drawn.2 }

/-- Draws at most `length` encoded bytes, after a block call if nothing is owed yet. Nothing comes
from an encoder that needs input, unless it is closed. -/
def draw (e : Encoder c) (length : Nat) : Step (Encoder c) (Except Fault Bytes) :=
  if e.engine.pump.isPoisoned then .quiet (.error .poisoned) e
  else if e.engine.pump.isOwing then e.handOut length
  else if e.engine.pump.waiting.isEmpty && !e.closed then .quiet (.ok []) e
  else
    let step := e.stroke
    match step.answer with
    | .error fault => ⟨.error fault, step.next, step.events⟩
    | .ok () => (step.next.handOut length).after step.events

/-- Draws into a range of the caller's buffer and returns how many bytes it drew. -/
def pull (e : Encoder c) (out : Bytes) (offset length : Nat) :
    Step (Encoder c × Bytes) (Except Fault Nat) :=
  Blockwise.pull draw e out offset length

/-! ## New streams -/

/-- The mention of a reset. -/
def resetRemark (codec : String) : Diagnostic where
  severity := .debug
  message := "encoder reset"
  fields := [("codec", .text codec)]

/-- The mention of new settings. -/
def restartRemark (codec : String) (chunkSize : Nat) : Diagnostic where
  severity := .debug
  message := "encoder reinitialised"
  fields := [("codec", .text codec), ("chunk_size", .number chunkSize)]

/-- Starts a new stream, whatever became of the last one. The state of the transform stays. -/
def reset (e : Encoder c) : Step (Encoder c) Unit where
  answer := ()
  next := { engine := e.engine.reset, closed := false, consumed := 0, produced := 0 }
  events := [.remark (resetRemark c.name)]

/-- Starts a new stream with other settings. -/
def restart (e : Encoder c) (settings : Settings) : Step (Encoder c) Unit where
  answer := ()
  next := { engine := e.engine.resize settings, closed := false, consumed := 0, produced := 0 }
  events := [.remark (restartRemark c.name settings.chunkSize)]

/-! ## Progress -/

theorem of_stroke_eq_ok {e : Encoder c} (h : e.stroke.answer = .ok ()) :
    e.stroke.next.engine = e.engine.stroke.next ∧
      ∃ counts, e.engine.stroke.answer = .ok counts := by
  unfold stroke at h ⊢
  dsimp only at h ⊢
  split at h
  · cases h
  · rename_i counts hc
    simp only [hc]
    exact ⟨trivial, counts, rfl⟩

/-- A draw of at least one byte from an encoder that does not need input either fails, or shortens
what waits, or leaves that and shortens what is owed. -/
theorem draw_progress {e : Encoder c} {length : Nat} {bytes : Bytes} (hl : 0 < length)
    (hn : e.needsInput = false) (h : (e.draw length).answer = .ok bytes) :
    Prod.Lex (· < ·) (· < ·) ((e.draw length).next.backlog, (e.draw length).next.owed)
      (e.backlog, e.owed) := by
  rw [Prod.lex_def]
  unfold draw at h ⊢
  split
  · rename_i hp
    simp [hp, Step.quiet] at h
  · rename_i hp
    rw [Bool.not_eq_true] at hp
    simp only [hp, Bool.false_eq_true, if_false] at h
    split
    · rename_i ho
      have hpos := Engine.owed_pos_of_isOwing ho
      right
      refine ⟨Engine.backlog_draw .., ?_⟩
      show (e.engine.draw length).2.owed < e.engine.owed
      rw [Engine.owed_draw]
      omega
    · rename_i ho
      rw [Bool.not_eq_true] at ho
      have hwaiting := Engine.waiting_ne_nil_of_busy hn hp ho
      simp only [ho, Bool.false_eq_true, if_false, List.isEmpty_eq_false_iff.mpr hwaiting,
        Bool.false_and] at h ⊢
      split at h
      · cases h
      · rename_i hs
        obtain ⟨hnext, counts, hc⟩ := of_stroke_eq_ok hs
        left
        show (e.stroke.next.engine.draw length).2.backlog < e.engine.backlog
        rw [Engine.backlog_draw, hnext]
        exact (Engine.stroke_progress hwaiting hc).1

end Encoder

end Blockwise
