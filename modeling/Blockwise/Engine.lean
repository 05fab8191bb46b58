import Blockwise.Pump
import Blockwise.Settings

/-!
# Engine — a pump that runs one transform in one direction

An engine couples a pump with a block transform and its state. The sizes of the pump are those
that the transform asked for, and its chunks have at least one byte; both are part of the type, so
whatever is built on an engine can rely on them.

The transform is asked for the sizes when an engine is made (`new`) and when it changes to other
chunks (`resize`), in the state it is in then. Block calls go on to other states, in which it might
ask for something else; the buffers stay as they are, and a reset does not change that.

## Results

* `stroke_progress`, `owed_draw` — a stroke that succeeds on waiting input shortens it, and a
  draw of at least one byte shortens what is owed. In this order they are the measure by which
  every loop over an engine comes to an end.
-/

namespace Blockwise

universe u

variable {σ : Type u}

/-- A pump in a direction, sized for a transform in some state, with the present state of the
transform. -/
structure Engine (c : BlockTransform σ) (d : Direction) where
  state : σ
  pump : Pump
  direction_eq : pump.direction = d
  chunkSize_pos : 0 < pump.chunkSize
  /-- The buffers are what the transform asked for, in the state it was in when they were made. -/
  fits : ∃ asked, pump.Fits (c.bound asked pump.chunkSize)

namespace Engine

variable {c : BlockTransform σ} {d : Direction}

/-- An engine at rest. -/
def new (c : BlockTransform σ) (d : Direction) (state : σ) (settings : Settings) : Engine c d where
  state := state
  pump := .forTransform d settings.chunkSize c state
  direction_eq := rfl
  chunkSize_pos := settings.chunkSize_pos
  fits := ⟨state, Pump.fits_new ..⟩

/-! ## Operations -/

/-- The window of the result buffer. -/
def window (e : Engine c d) : Window := e.pump.window

/-- The size of a plain chunk. -/
def chunkSize (e : Engine c d) : Nat := e.pump.chunkSize

/-- How many bytes of input wait. -/
def backlog (e : Engine c d) : Nat := e.pump.waiting.length

/-- How many bytes are owed to the caller. -/
def owed (e : Engine c d) : Nat := e.pump.owed

/-- Whether nothing waits and nothing is owed. -/
def isIdle (e : Engine c d) : Bool := e.pump.isIdle

/-- Takes the given range of the data as the next input. -/
def feed (e : Engine c d) (data : Bytes) (offset length : Nat) : Except Fault (Engine c d) :=
  match h : e.pump.feed data offset length with
  | .error fault => .error fault
  | .ok pump =>
    .ok { e with
      pump := pump
      direction_eq := by rw [Pump.of_feed_eq_ok h]; exact e.direction_eq
      chunkSize_pos := by rw [Pump.of_feed_eq_ok h]; exact e.chunkSize_pos
      fits := by
        obtain ⟨asked, hf⟩ := e.fits
        have hq := hf.feed h
        rw [Pump.of_feed_eq_ok h] at hq ⊢
        exact ⟨asked, hq⟩ }

/-- Stages the next chunk and makes one block call on it. -/
def stroke (e : Engine c d) : Step (Engine c d) (Except Fault Stroke) :=
  let step := e.pump.stroke c e.state
  { answer := step.answer
    next :=
      { state := step.next.2
        pump := step.next.1
        direction_eq := (Pump.direction_stroke ..).trans e.direction_eq
        chunkSize_pos := (Pump.chunkSize_stroke ..).symm ▸ e.chunkSize_pos
        fits := (Pump.chunkSize_stroke ..).symm ▸ e.fits.imp fun _ h => h.stroke c e.state }
    events := step.events }

/-- Hands out at most `length` of the owed bytes. -/
def draw (e : Engine c d) (length : Nat) : Bytes × Engine c d :=
  let drawn := e.pump.draw length
  (drawn.1,
    { e with
      pump := drawn.2
      direction_eq := (Pump.direction_draw ..).trans e.direction_eq
      chunkSize_pos := (Pump.chunkSize_draw ..).symm ▸ e.chunkSize_pos
      fits := (Pump.chunkSize_draw ..).symm ▸ e.fits.imp fun _ h => h.draw length })

/-- Forgets the waiting input and the owed bytes, and the failure if there was one. The state of
the transform stays, and so do the buffers: the transform is not asked again for their sizes. -/
def reset (e : Engine c d) : Engine c d :=
  { e with pump := e.pump.reset, fits := e.fits.imp fun _ h => h.reset }

/-- Resets the engine to chunks of another size, with the buffers for which the transform asks
now. -/
def resize (e : Engine c d) (settings : Settings) : Engine c d :=
  { e with
    pump := e.pump.resize settings.chunkSize (c.bound e.state settings.chunkSize)
    chunkSize_pos := settings.chunkSize_pos
    fits := ⟨e.state, Pump.fits_resize ..⟩ }

/-! ## The buffers -/

theorem shows (e : Engine c d) : e.window.Shows e.pump.result.bytes := by
  obtain ⟨_, hf⟩ := e.fits
  exact hf.window

theorem pump_stageSize_pos (e : Engine c d) : 0 < e.pump.stageSize := by
  obtain ⟨_, hf⟩ := e.fits
  exact Pump.stageSize_pos hf e.chunkSize_pos

/-! ## Progress -/

/-- An engine that is neither idle nor poisoned has output or waiting input. -/
theorem waiting_ne_nil_of_busy {e : Engine c d} (hidle : e.isIdle = false)
    (hp : e.pump.isPoisoned = false) (ho : e.pump.isOwing = false) : e.pump.waiting ≠ [] := by
  intro hnil
  simp only [Pump.isPoisoned, decide_eq_false_iff_not] at hp
  cases hw : e.pump.window with
  | empty => simp [isIdle, Pump.isIdle, hw, hnil] at hidle
  | draining read unread => simp [Pump.isOwing, hw] at ho
  | poisoned => exact hp hw

/-- Output is at least one byte. -/
theorem owed_pos_of_isOwing {e : Engine c d} (ho : e.pump.isOwing = true) :
    0 < e.owed := by
  have hw : e.pump.window.Shows e.pump.result.bytes := e.shows
  cases h : e.pump.window with
  | draining read unread =>
    rw [h] at hw
    simp only [owed, Pump.owed, h]
    exact List.length_pos_iff.mpr hw.1
  | empty => simp [Pump.isOwing, h] at ho
  | poisoned => simp [Pump.isOwing, h] at ho

theorem not_isPoisoned_of_stroke {e : Engine c d} {counts : Stroke}
    (h : e.stroke.answer = .ok counts) : e.pump.isPoisoned = false := by
  cases hp : e.pump.isPoisoned with
  | false => rfl
  | true => simp [stroke, Pump.stroke, hp, Step.quiet] at h

/-- A stroke that succeeds on waiting input shortens it, and leaves something owed. -/
theorem stroke_progress {e : Engine c d} {counts : Stroke} (hp : e.pump.waiting ≠ [])
    (h : e.stroke.answer = .ok counts) :
    e.stroke.next.backlog < e.backlog ∧ 0 < e.stroke.next.owed := by
  have hs := e.pump_stageSize_pos
  refine ⟨?_, Pump.owed_stroke_pos hp hs h⟩
  have hlen := Pump.length_waiting_stroke e.pump c e.state (not_isPoisoned_of_stroke h)
  have hpos := List.length_pos_iff.mpr hp
  show (e.pump.stroke c e.state).next.1.waiting.length < e.pump.waiting.length
  omega

@[simp] theorem backlog_draw (e : Engine c d) (length : Nat) :
    (e.draw length).2.backlog = e.backlog :=
  congrArg List.length (Pump.waiting_draw ..)

@[simp] theorem owed_draw (e : Engine c d) (length : Nat) :
    (e.draw length).2.owed = e.owed - length :=
  Pump.owed_draw ..

end Engine

end Blockwise
