import Blockwise.Decoder
import Blockwise.Encoder
import Blockwise.Proofs.Ledger

/-!
# Coder — what encoders and decoders have in common

An encoder and a decoder are used alike: input is fed to them, output is pulled from them, and an
encoder is told when no more input comes. What they have in common is a `Coder`: a state around an
engine, whose operations do to the engine what the laws say.

A pull is a draw into a range of the caller's buffer. What it brings is what the caller finds in the
range afterwards (`pulledBytes`).

## Results

* `Encoder.drawn` — all that a draw from an encoder can do, down to the counters.
* `pull_of_inRange`, `pull_of_outOfRange` — a pull within range is a draw, and the bytes drawn are
  those found in the buffer; out of range it is nothing.
-/

namespace Blockwise

universe u

variable {σ : Type u} {c : BlockTransform σ}

/-! ## Draws from an encoder -/

/-- How a draw of at most `length` bytes from an encoder can end. A stroke is made on waiting input
or for a closed encoder, and counted if its call succeeds. -/
inductive Encoder.Drawn (e : Encoder c) (length : Nat) :
    Except Fault Bytes → Encoder c → Trace → Prop where
  | refused (hp : e.engine.pump.isPoisoned = true) : Drawn e length (.error .poisoned) e []
  | idle (hi : e.engine.isIdle = true) (hopen : e.closed = false) : Drawn e length (.ok []) e []
  | owing (ho : e.engine.pump.isOwing = true) :
    Drawn e length (.ok (e.engine.draw length).1) { e with engine := (e.engine.draw length).2 } []
  | failed (hp : e.engine.pump.isPoisoned = false) (ho : e.engine.pump.isOwing = false)
    (hw : e.engine.waiting ≠ [] ∨ e.closed = true) (hf : e.engine.nextCall.failed = true) :
    Drawn e length (.error e.engine.nextCall.fault) { e with engine := e.engine.stroke.next }
      e.engine.stroke.events
  | struck (hp : e.engine.pump.isPoisoned = false) (ho : e.engine.pump.isOwing = false)
    (hw : e.engine.waiting ≠ [] ∨ e.closed = true) (hs : e.engine.nextCall.failed = false) :
    Drawn e length (.ok (e.engine.stroke.next.draw length).1)
      { e with
        engine := (e.engine.stroke.next.draw length).2
        consumed := e.consumed + e.engine.nextCall.source.length
        produced := e.produced + e.engine.nextCall.reported }
      e.engine.stroke.events

theorem Engine.isIdle_of_waiting_eq_nil {d : Direction} {e : Engine c d}
    (hp : e.pump.isPoisoned = false) (ho : e.pump.isOwing = false) (hw : e.waiting = []) :
    e.isIdle = true := by
  cases hidle : e.isIdle with
  | true => rfl
  | false => exact absurd hw (waiting_ne_nil_of_busy hidle hp ho)

theorem Encoder.drawn (e : Encoder c) (length : Nat) :
    e.Drawn length (e.draw length).answer (e.draw length).next (e.draw length).events := by
  unfold draw
  -- poisoned, then owing, then open with nothing waiting: the order of the tests in `draw`
  cases hp : e.engine.pump.isPoisoned with
  | true => exact .refused hp
  | false =>
    cases ho : e.engine.pump.isOwing with
    | true => exact .owing ho
    | false =>
      simp only [Bool.false_eq_true, if_false]
      split
      · rename_i hempty
        rw [Bool.and_eq_true, List.isEmpty_iff, Bool.not_eq_true'] at hempty
        exact .idle (Engine.isIdle_of_waiting_eq_nil hp ho hempty.1) hempty.2
      · rename_i hbusy
        have hw : e.engine.waiting ≠ [] ∨ e.closed = true := by
          by_cases hclosed : e.closed = true
          · exact .inr hclosed
          · refine .inl fun hwaiting => hbusy ?_
            rw [Bool.and_eq_true, List.isEmpty_iff, Bool.not_eq_true']
            exact ⟨hwaiting, Bool.eq_false_iff.mpr hclosed⟩
        -- otherwise there is a stroke, and its call decides
        have hanswer := Engine.answer_stroke hp
        cases hf : e.engine.nextCall.failed with
        | true =>
          rw [hf, if_pos rfl] at hanswer
          simp only [stroke, hanswer]
          exact .failed hp ho hw hf
        | false =>
          rw [hf, if_neg Bool.false_ne_true] at hanswer
          simp only [stroke, hanswer, handOut, Step.quiet, Step.after, List.append_nil]
          exact .struck hp ho hw hf

/-- A draw from an encoder is a draw from its engine. -/
theorem Encoder.Drawn.engine {e e' : Encoder c} {length : Nat} {answer : Except Fault Bytes}
    {events : Trace} (h : e.Drawn length answer e' events) :
    e.engine.Drawn length answer e'.engine events := by
  cases h with
  | refused hp => exact .refused hp
  | idle hi hopen => exact .idle hi
  | owing ho => exact .owing ho
  | failed hp ho hw hf => exact .failed hp ho hf
  | struck hp ho hw hs => exact .struck hp ho hs

/-! ## Draws from a decoder -/

/-- A draw from a decoder is a draw from its engine. -/
theorem Decoder.drawn (e : Decoder c) (length : Nat) :
    e.engine.Drawn length (e.draw length).answer (e.draw length).next.engine
      (e.draw length).events := by
  unfold draw
  -- a decoder asks whether it needs input before it asks whether it owes any output
  cases hp : e.engine.pump.isPoisoned with
  | true => exact .refused hp
  | false =>
    cases hi : e.needsInput with
    | true => exact .idle hi
    | false =>
      cases ho : e.engine.pump.isOwing with
      | true => exact .owing ho
      | false =>
        simp only [Bool.false_eq_true, if_false]
        have hanswer := Engine.answer_stroke hp
        cases hf : e.engine.nextCall.failed with
        | true =>
          rw [hf, if_pos rfl] at hanswer
          simp only [stroke, hanswer, Except.map]
          exact .failed hp ho hf
        | false =>
          rw [hf, if_neg Bool.false_ne_true] at hanswer
          simp only [stroke, hanswer, Except.map, handOut, Step.quiet, Step.after, List.append_nil]
          exact .struck hp ho hf

/-- A decoder that needs input brings nothing and stays as it is. -/
theorem Decoder.draw_of_idle {e : Decoder c} (h : e.needsInput = true) (length : Nat) :
    e.draw length = .quiet (.ok []) e := by
  have husable : e.engine.pump.isPoisoned = false := Engine.isPoisoned_of_isIdle h
  unfold draw
  rw [husable, h]
  rfl

/-- A decoder makes no call on an empty block. -/
theorem Decoder.source_ne_nil_of_draw (e : Decoder c) (length : Nat) :
    ∀ call ∈ (e.draw length).events.calls, call.source ≠ [] := by
  cases hidle : e.needsInput with
  | true =>
    rw [Decoder.draw_of_idle hidle]
    exact fun call hcall => by cases hcall
  | false => exact (e.drawn length).source_ne_nil_of_busy hidle

/-! ## Coders -/

/-- A state around an engine, which is fed and drawn from. -/
class Coder (S : Type u) {σ : outParam (Type u)} (c : outParam (BlockTransform σ))
    (d : outParam Direction) where
  engine : S → Engine c d
  feed : S → Bytes → Nat → Nat → Except Fault S
  draw : S → Nat → Step S (Except Fault Bytes)
  /-- Says that no more input comes. -/
  close : S → S
  engine_feed : ∀ s data offset length,
    (feed s data offset length).map engine = (engine s).feed data offset length
  drawn : ∀ s length, (engine s).Drawn length (draw s length).answer
    (engine (draw s length).next) (draw s length).events
  engine_close : ∀ s, engine (close s) = engine s

instance : Coder (Encoder c) c .encode where
  engine := Encoder.engine
  feed := Encoder.feed
  draw := Encoder.draw
  close := Encoder.close
  engine_feed e data offset length := by
    simp only [Encoder.feed]
    cases e.engine.feed data offset length <;> rfl
  drawn e length := (e.drawn length).engine
  engine_close _ := rfl

/-- A decoder is not told of the end of its input: to close it does nothing. -/
instance : Coder (Decoder c) c .decode where
  engine := Decoder.engine
  feed := Decoder.feed
  draw := Decoder.draw
  close := id
  engine_feed e data offset length := by
    simp only [Decoder.feed]
    cases e.engine.feed data offset length <;> rfl
  drawn := Decoder.drawn
  engine_close _ := rfl

/-- A coder takes any range of data while nothing waits and no call has failed. -/
theorem Coder.exists_feed_eq_ok {S : Type u} {d : Direction} [Coder S c d] {s : S} {data : Bytes}
    {offset length : Nat} (hr : offset + length ≤ data.length)
    (hp : (engine s).pump.isPoisoned = false) (hw : (engine s).waiting = []) :
    ∃ s', feed s data offset length = .ok s' := by
  obtain ⟨e, he⟩ := Engine.exists_feed_eq_ok hr hp hw
  have hengine := engine_feed s data offset length
  obtain ⟨s', hs', -⟩ := exists_eq_ok_of_map (hengine.trans he)
  exact ⟨s', hs'⟩

/-! ## Pulls -/

/-- The bytes of a pull, as the caller finds them in the buffer. -/
def pulledBytes {S : Type u} (offset : Nat) (pulled : Step (S × Bytes) (Except Fault Nat)) :
    Bytes :=
  match pulled.answer with
  | .ok count => (pulled.next.2.drop offset).take count
  | .error _ => []

theorem Engine.Drawn.length_le {c : BlockTransform σ} {d : Direction} {e e' : Engine c d}
    {length : Nat} {bytes : Bytes} {events : Trace} (h : e.Drawn length (.ok bytes) e' events) :
    bytes.length ≤ length := by
  cases h with
  | idle hi => exact Nat.zero_le _
  | owing ho => exact List.length_take_le ..
  | struck hp ho hs => exact List.length_take_le ..

section Pull

variable {S : Type u} {c : BlockTransform σ} {d : Direction} [Coder S c d]

theorem pull_of_outOfRange (s : S) {buffer : Bytes} {offset length : Nat}
    (h : ¬ offset + length ≤ buffer.length) :
    pull Coder.draw s buffer offset length =
      .quiet (.error (.outOfRange "output" offset length buffer.length)) (s, buffer) := by
  unfold pull requireRange
  rw [if_neg h]

/-- A pull within range does what the draw does, and the bytes drawn are those that the caller
finds in the buffer. -/
theorem pull_of_inRange (s : S) {buffer : Bytes} {offset length : Nat}
    (h : offset + length ≤ buffer.length) :
    (pull Coder.draw s buffer offset length).next.1 = (Coder.draw s length).next ∧
      (pull Coder.draw s buffer offset length).events = (Coder.draw s length).events ∧
      pulledBytes offset (pull Coder.draw s buffer offset length) =
        Engine.drawnBytes (Coder.draw s length).answer ∧
      (pull Coder.draw s buffer offset length).answer =
        (Coder.draw s length).answer.map List.length := by
  have hdrawn := Coder.drawn s length
  unfold pull pulledBytes
  rw [requireRange_eq_ok_iff.mpr h]
  dsimp only
  cases hanswer : (Coder.draw s length).answer with
  | error fault => exact ⟨rfl, rfl, rfl, rfl⟩
  | ok bytes =>
    -- a draw brings no more than was asked for, so the bytes lie within the range
    rw [hanswer] at hdrawn
    have hle := hdrawn.length_le
    have hwithin : offset + bytes.length ≤ buffer.length := by omega
    exact ⟨rfl, rfl, take_drop_overlay hwithin, rfl⟩

end Pull

end Blockwise
