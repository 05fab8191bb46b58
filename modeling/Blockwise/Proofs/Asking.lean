import Mathlib
import Blockwise.Proofs.Reading

/-!
# Asking — all that a read can do

A read draws from its decoder in a loop and asks its source in between, but the loop hardly ever
turns: a decoder that is not idle brings something or fails, and so does an idle one once it has been
fed. So a read asks its source at most once, apart from interruptions, and there are five ways in
which it can end (`Reader.Drawn`). Two of them leave the source alone; the other three go by what
the source answers.

Which way it is depends on three things: on the decoder, on whether the source has come to its end,
and on that answer. Nothing depends on what an earlier read left in the buffer.

## Results

* `Reader.drawn`, `Reader.drawn_readInto` — the ways in which a read can end.
-/

namespace Blockwise

universe u

variable {σ : Type u} {c : BlockTransform σ}

/-- A decoder that was fed something is not idle. -/
theorem Decoder.needsInput_of_feedAll {e e' : Decoder c} {b : UInt8} {bytes : Bytes}
    (h : e.feedAll (b :: bytes) = .ok e') : e'.needsInput = false := by
  obtain ⟨engine, hengine, rfl⟩ := exists_eq_ok_of_map h
  obtain ⟨-, -, hpump, -⟩ := Engine.of_feed_eq_ok hengine
  have hwaiting : engine.waiting = b :: bytes := by
    rw [Engine.waiting, hpump, List.drop_zero, List.take_length]
  refine Bool.eq_false_iff.mpr fun hidle => ?_
  rw [(Engine.isIdle_iff.mp hidle).2] at hwaiting
  cases hwaiting

namespace Reader

/-- What the source answers when the reader asks it. -/
abbrev got (r : Reader c) : Step Source (Except Failure Bytes) :=
  r.source.readSteadily r.bufferSize

theorem calls_got (r : Reader c) : r.got.events.calls = [] :=
  (r.source.events_readSteadily r.bufferSize).2

/-- How a draw of at most `length` bytes, and of at least one, can end. -/
inductive Drawn (r : Reader c) (length : Nat) :
    Except ChannelError Bytes → Reader c → Trace → Prop where
  /-- The decoder has something to hand out, or it fails. -/
  | busy (hbusy : r.decoder.needsInput = false) :
    Drawn r length ((r.decoder.draw length).answer.mapError .stream)
      { r with decoder := (r.decoder.draw length).next } (r.decoder.draw length).events
  /-- The source is known to be at its end. -/
  | ended (hidle : r.decoder.needsInput = true) (hend : r.atEnd = true) :
    Drawn r length (.ok []) r []
  /-- The source fails. -/
  | refused (hidle : r.decoder.needsInput = true) (hopen : r.atEnd = false) {failure : Failure}
      (hgot : r.got.answer = .error failure) :
    Drawn r length (.error (.channel failure))
      { r with source := r.got.next, buffer := r.buffer.resize r.bufferSize } r.got.events
  /-- The source turns out to be at its end. -/
  | exhausted (hidle : r.decoder.needsInput = true) (hopen : r.atEnd = false)
      (hgot : r.got.answer = .ok []) :
    Drawn r length (.ok []) { r with source := r.got.next, buffer := .empty, atEnd := true }
      r.got.events
  /-- The source serves input, and the decoder has something to hand out, or it fails. -/
  | served (hidle : r.decoder.needsInput = true) (hopen : r.atEnd = false) {b : UInt8}
      {bytes : Bytes} (hgot : r.got.answer = .ok (b :: bytes)) {decoder : Decoder c}
      (hfeed : r.decoder.feedAll (b :: bytes) = .ok decoder) :
    Drawn r length ((decoder.draw length).answer.mapError .stream)
      { r with source := r.got.next, buffer := .empty, decoder := (decoder.draw length).next }
      (r.got.events ++ (decoder.draw length).events)

section Draw

variable {r : Reader c} {length : Nat}

theorem draw_of_busy (hl : 0 < length) (hbusy : r.decoder.needsInput = false) :
    r.draw length =
      ⟨(r.decoder.draw length).answer.mapError .stream,
        { r with decoder := (r.decoder.draw length).next }, (r.decoder.draw length).events⟩ := by
  have hdrawn := r.decoder.drawn length
  unfold draw
  cases hanswer : (r.decoder.draw length).answer with
  | error fault => simp only [hanswer, Except.mapError]
  | ok bytes =>
    cases bytes with
    | nil =>
      -- it would have brought something
      rw [hanswer] at hdrawn
      exact absurd rfl (hdrawn.ne_nil_of_busy hbusy hl)
    | cons b bytes => simp only [hanswer, Except.mapError]

theorem draw_of_ended (hidle : r.decoder.needsInput = true) (hend : r.atEnd = true) :
    r.draw length = .quiet (.ok []) r := by
  rw [draw, Decoder.draw_of_idle hidle]
  exact if_pos (by rw [hend, Bool.true_or])

/-- A reader that has nothing to hand out asks its source. -/
theorem draw_of_idle (hidle : r.decoder.needsInput = true) (hopen : r.atEnd = false) :
    r.draw length =
      match r.fetch.answer with
      | .error error => ⟨.error error, r.fetch.next, r.fetch.events⟩
      | .ok false => ⟨.ok [], r.fetch.next, r.fetch.events⟩
      | .ok true => (r.fetch.next.draw length).after r.fetch.events := by
  rw [draw, Decoder.draw_of_idle hidle]
  refine (if_neg (by simp [Step.quiet, hopen, hidle])).trans ?_
  dsimp only [Step.quiet]
  split <;> rename_i hanswer <;> rw [hanswer] <;> rfl

theorem draw_of_refused (hidle : r.decoder.needsInput = true) (hopen : r.atEnd = false)
    {failure : Failure} (hgot : r.got.answer = .error failure) :
    r.draw length =
      ⟨.error (.channel failure),
        { r with source := r.got.next, buffer := r.buffer.resize r.bufferSize },
        r.got.events⟩ := by
  rw [draw_of_idle hidle hopen, fetch_of_refused hgot]

theorem draw_of_exhausted (hidle : r.decoder.needsInput = true) (hopen : r.atEnd = false)
    (hgot : r.got.answer = .ok []) :
    r.draw length =
      ⟨.ok [], { r with source := r.got.next, buffer := .empty, atEnd := true }, r.got.events⟩ := by
  rw [draw_of_idle hidle hopen, fetch_of_exhausted hgot]

theorem draw_of_served (hl : 0 < length) (hidle : r.decoder.needsInput = true)
    (hopen : r.atEnd = false) {b : UInt8} {bytes : Bytes} (hgot : r.got.answer = .ok (b :: bytes))
    {decoder : Decoder c} (hfeed : r.decoder.feedAll (b :: bytes) = .ok decoder) :
    r.draw length =
      ⟨(decoder.draw length).answer.mapError .stream,
        { r with source := r.got.next, buffer := .empty, decoder := (decoder.draw length).next },
        r.got.events ++ (decoder.draw length).events⟩ := by
  rw [draw_of_idle hidle hopen, fetch_of_served hgot, hfeed]
  -- what was fed keeps the decoder busy
  dsimp only
  rw [draw_of_busy hl (Decoder.needsInput_of_feedAll hfeed)]
  rfl

end Draw

theorem drawn (r : Reader c) {length : Nat} (hl : 0 < length) :
    r.Drawn length (r.draw length).answer (r.draw length).next (r.draw length).events := by
  cases hidle : r.decoder.needsInput with
  | false =>
    rw [draw_of_busy hl hidle]
    exact .busy hidle
  | true =>
    cases hopen : r.atEnd with
    | true =>
      rw [draw_of_ended hidle hopen]
      exact .ended hidle hopen
    | false =>
      -- the source is asked, and its answer decides
      cases hgot : r.got.answer with
      | error failure =>
        rw [draw_of_refused hidle hopen hgot]
        exact .refused hidle hopen hgot
      | ok bytes =>
        cases bytes with
        | nil =>
          rw [draw_of_exhausted hidle hopen hgot]
          exact .exhausted hidle hopen hgot
        | cons b bytes =>
          obtain ⟨decoder, hfeed⟩ := Decoder.exists_feedAll_eq_ok hidle (b :: bytes)
          rw [draw_of_served hl hidle hopen hgot hfeed]
          exact .served hidle hopen hgot hfeed

/-- A read into a buffer that is not empty is a draw, of which the caller is told the length and finds
the bytes in the buffer. -/
theorem drawn_readInto (r : Reader c) {out : Bytes} (hne : out ≠ []) :
    ∃ answer, r.Drawn out.length answer (r.readInto out).next.1 (r.readInto out).events ∧
      (r.readInto out).answer = answer.map List.length ∧
      received (r.readInto out) = readBytes answer := by
  obtain ⟨hnext, hevents, hanswer, hreceived⟩ := r.readInto_of_ne_nil hne
  refine ⟨_, ?_, hanswer, hreceived⟩
  rw [hnext, hevents]
  exact r.drawn (List.length_pos_iff.mpr hne)

end Reader

end Blockwise
