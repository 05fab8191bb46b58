import Blockwise.Proofs.Lifetime

/-!
# Likeness — coders that differ in nothing that can come out

The result buffer of a coder is never cleared. What an earlier stream left in it is still there when
a new one begins, and a transform that is given the buffer as its room might look at it. A transform
that does not (`BlockTransform.Oblivious`) makes the contents of the room irrelevant: coders that
agree in everything else (`Engine.Alike`, `Encoder.Alike`, `Decoder.Alike`) do the same on every
operation, and agree afterwards.

The one trace of an old buffer is in the record of a call that failed, of which nothing is handed
out; calls are compared without it (`BlockCall.settled`).

## Results

* `Engine.Alike.stroke`, `Encoder.Alike.draw`, `Decoder.Alike.draw` — coders that are alike make
  the same calls, give the same answers, and are alike afterwards.
-/

namespace Blockwise

universe u v

variable {σ : Type u} {c : BlockTransform σ} {d : Direction}

/-! ## Calls that do not look at their room -/

namespace BlockCall

/-- The record of a call with what it contributed in place of its output. It differs from the call
only if that failed. -/
def settled (call : BlockCall) : BlockCall := { call with output := call.contribution }

variable {call call' : BlockCall}

theorem source_of_settled (h : call.settled = call'.settled) : call.source = call'.source := by
  have hsource := congrArg source h
  exact hsource

theorem reported_of_settled (h : call.settled = call'.settled) :
    call.reported = call'.reported := by
  have hreported := congrArg reported h
  exact hreported

theorem failed_of_settled (h : call.settled = call'.settled) : call.failed = call'.failed := by
  have hfailed := congrArg failed h
  exact hfailed

theorem fault_of_settled (h : call.settled = call'.settled) : call.fault = call'.fault := by
  have hfault := congrArg fault h
  exact hfault

/-- Of a call that succeeds, the settled record shows the output. -/
theorem output_of_settled (h : call.settled = call'.settled) (hs : call.failed = false) :
    call.output = call'.output := by
  have houtput := congrArg output h
  have hs' : call'.failed = false := failed_of_settled h ▸ hs
  simpa [settled, contribution, hs, hs'] using houtput

end BlockCall

/-- In either direction, the state after a call, the number it reports and the bytes it contributes
depend on the state before, the block and the size of the room, and not on what the room held. -/
structure BlockTransform.Oblivious (c : BlockTransform σ) : Prop where
  state : ∀ d state {room room' : Room} block, room.size = room'.size →
    (c.apply d state room block).state = (c.apply d state room' block).state
  call : ∀ d state {room room' : Room} block, room.size = room'.size →
    (c.callOn d (state, room) block).settled = (c.callOn d (state, room') block).settled

/-! ## Outcomes -/

/-- Outcomes with the same answer and the same calls, which leave related states. -/
structure Step.Alike {S : Type u} {α : Type v} (P : S → S → Prop) (x y : Step S α) : Prop where
  answer : x.answer = y.answer
  next : P x.next y.next
  calls : x.events.calls.map BlockCall.settled = y.events.calls.map BlockCall.settled

/-- Both are refused with the same fault, or both go on to related states. -/
inductive Agree {S : Type u} (P : S → S → Prop) : Except Fault S → Except Fault S → Prop where
  | refused (fault : Fault) : Agree P (.error fault) (.error fault)
  | taken {s t : S} (h : P s t) : Agree P (.ok s) (.ok t)

theorem Agree.map {S : Type u} {T : Type v} {P : S → S → Prop} {Q : T → T → Prop}
    {x y : Except Fault S} {f g : S → T} (h : Agree P x y) (hfg : ∀ s t, P s t → Q (f s) (g t)) :
    Agree Q (x.map f) (y.map g) := by
  cases h with
  | refused fault => exact .refused fault
  | taken h => exact .taken (hfg _ _ h)

theorem Step.alike_quiet {S : Type u} {α : Type v} {P : S → S → Prop} {s t : S} (h : P s t)
    (answer : α) : Alike P (.quiet answer s) (.quiet answer t) :=
  ⟨rfl, h, rfl⟩

/-- What happened before may differ as much as what happens after. -/
theorem Step.Alike.after {S : Type u} {α : Type v} {P : S → S → Prop} {x y : Step S α}
    (h : Alike P x y) {earlier earlier' : Trace}
    (hcalls : earlier.calls.map BlockCall.settled = earlier'.calls.map BlockCall.settled) :
    Alike P (x.after earlier) (y.after earlier') := by
  refine ⟨h.answer, h.next, ?_⟩
  rw [Step.events_after, Step.events_after, Trace.calls_append, Trace.calls_append,
    List.map_append, List.map_append, hcalls, h.calls]

/-! ## Engines -/

theorem Pump.feed_congr {p q : Pump} (hwindow : p.window = q.window) (hwaiting : p.waiting = q.waiting)
    (data : Bytes) (offset length : Nat) :
    q.feed data offset length =
      (p.feed data offset length).map fun fed => { q with waiting := fed.waiting } := by
  unfold feed requireUsable isPoisoned
  rw [hwindow, hwaiting]
  cases requireRange "input" data.length offset length with
  | error fault => rfl
  | ok _ =>
    simp only [bind, Except.bind]
    split
    · rfl
    · split <;> rfl

namespace Engine

/-- The sizes of the staging and the result buffer. -/
def sizes (e : Engine c d) : Nat × Nat := (e.stageSize, e.pump.roomSize)

theorem sizes_stroke (e : Engine c d) : e.stroke.next.sizes = e.sizes := by
  simp only [sizes, stageSize, stroke, Pump.stroke]
  split <;> rfl

/-- The engines differ at most in what their result buffers hold outside of the window. -/
structure Alike (e f : Engine c d) : Prop where
  state : e.state = f.state
  chunkSize : e.chunkSize = f.chunkSize
  sizes : e.sizes = f.sizes
  waiting : e.waiting = f.waiting
  window : e.window = f.window

namespace Alike

variable {e f : Engine c d}

theorem stageSize (h : e.Alike f) : e.stageSize = f.stageSize :=
  congrArg Prod.fst h.sizes

theorem roomSize (h : e.Alike f) : e.pump.result.size = f.pump.result.size :=
  congrArg Prod.snd h.sizes

theorem isPoisoned (h : e.Alike f) : e.pump.isPoisoned = f.pump.isPoisoned := by
  have hwindow : e.pump.window = f.pump.window := h.window
  rw [Pump.isPoisoned, Pump.isPoisoned, hwindow]

theorem isOwing (h : e.Alike f) : e.pump.isOwing = f.pump.isOwing := by
  have hwindow : e.pump.window = f.pump.window := h.window
  rw [Pump.isOwing, Pump.isOwing, hwindow]

theorem isIdle (h : e.Alike f) : e.isIdle = f.isIdle := by
  have hwindow : e.pump.window = f.pump.window := h.window
  have hwaiting : e.pump.waiting = f.pump.waiting := h.waiting
  rw [Engine.isIdle, Engine.isIdle, Pump.isIdle, Pump.isIdle, hwindow, hwaiting]

theorem feed (h : e.Alike f) (data : Bytes) (offset length : Nat) :
    Agree Alike (e.feed data offset length) (f.feed data offset length) := by
  have hpump := Pump.feed_congr h.window h.waiting data offset length
  rw [← e.map_pump_feed, ← f.map_pump_feed] at hpump
  cases he : e.feed data offset length with
  | error fault =>
    rw [he] at hpump
    rw [eq_error_of_map hpump]
    exact .refused fault
  | ok e' =>
    rw [he] at hpump
    obtain ⟨f', hf, -⟩ := exists_eq_ok_of_map hpump
    -- both take the same range, and keep all else
    obtain ⟨-, -, hnext, hstate⟩ := of_feed_eq_ok he
    obtain ⟨-, -, hnext', hstate'⟩ := of_feed_eq_ok hf
    rw [hf]
    refine .taken ⟨?_, ?_, ?_, ?_, ?_⟩
    · rw [hstate, hstate', h.state]
    · show e'.pump.chunkSize = f'.pump.chunkSize
      rw [hnext, hnext']
      exact h.chunkSize
    · show (e'.pump.stageSize, e'.pump.roomSize) = (f'.pump.stageSize, f'.pump.roomSize)
      rw [hnext, hnext']
      exact h.sizes
    · show e'.pump.waiting = f'.pump.waiting
      rw [hnext, hnext']
    · show e'.pump.window = f'.pump.window
      rw [hnext, hnext']
      exact h.window

theorem draw (h : e.Alike f) (length : Nat) :
    (e.draw length).1 = (f.draw length).1 ∧ (e.draw length).2.Alike (f.draw length).2 := by
  have hwindow : e.pump.window = f.pump.window := h.window
  refine ⟨?_, h.state, h.chunkSize, h.sizes, h.waiting, ?_⟩
  · show e.pump.window.unread.take length = f.pump.window.unread.take length
    rw [hwindow]
  · show e.pump.window.advance length = f.pump.window.advance length
    rw [hwindow]

theorem nextCall (hc : c.Oblivious) (h : e.Alike f) :
    e.nextCall.settled = f.nextCall.settled := by
  unfold Engine.nextCall start
  rw [h.waiting, h.stageSize, h.state]
  exact hc.call d f.state _ h.roomSize

theorem stroke (hc : c.Oblivious) (h : e.Alike f) (hp : e.pump.isPoisoned = false) :
    Step.Alike Alike e.stroke f.stroke := by
  have hp' : f.pump.isPoisoned = false := h.isPoisoned ▸ hp
  have hcall := nextCall hc h
  refine ⟨?_, ⟨?_, ?_, ?_, ?_, ?_⟩, ?_⟩
  · rw [answer_stroke hp, answer_stroke hp', BlockCall.failed_of_settled hcall,
      BlockCall.fault_of_settled hcall, BlockCall.source_of_settled hcall,
      BlockCall.reported_of_settled hcall]
  · -- the states before the calls are the same, and so are the blocks
    have he := congrArg Prod.fst (start_stroke hp)
    have hf := congrArg Prod.fst (start_stroke hp')
    rw [BlockCall.source_of_settled hcall] at he
    have hstate := hc.state d f.state f.nextCall.source h.roomSize
    rw [← h.state] at hstate
    exact he.trans (hstate.trans (h.state ▸ hf.symm))
  · have he := Pump.chunkSize_stroke e.pump c e.state
    have hf := Pump.chunkSize_stroke f.pump c f.state
    exact he.trans (h.chunkSize.trans hf.symm)
  · rw [sizes_stroke, sizes_stroke, h.sizes]
  · rw [waiting_stroke hp, waiting_stroke hp', h.waiting, h.stageSize]
  · rw [window_stroke hp, window_stroke hp']
    rw [← BlockCall.failed_of_settled hcall]
    cases hf : e.nextCall.failed with
    | true => rfl
    | false => rw [BlockCall.output_of_settled hcall hf]
  · rw [calls_stroke hp, calls_stroke hp', List.map_singleton, List.map_singleton, hcall]

end Alike

end Engine

/-! ## Encoders -/

namespace Encoder

/-- The engines are alike, and all else is the same. -/
structure Alike (e f : Encoder c) : Prop where
  engine : e.engine.Alike f.engine
  closed : e.closed = f.closed
  consumed : e.consumed = f.consumed
  produced : e.produced = f.produced

namespace Alike

variable {e f : Encoder c}

theorem feed (h : e.Alike f) (data : Bytes) (offset length : Nat) :
    Agree Alike (e.feed data offset length) (f.feed data offset length) :=
  (h.engine.feed data offset length).map fun _ _ hnext => ⟨hnext, h.closed, h.consumed, h.produced⟩

theorem handOut (h : e.Alike f) (length : Nat) :
    Step.Alike Alike (e.handOut length) (f.handOut length) := by
  obtain ⟨hbytes, hengine⟩ := h.engine.draw length
  unfold Encoder.handOut
  dsimp only
  rw [hbytes]
  exact Step.alike_quiet ⟨hengine, h.closed, h.consumed, h.produced⟩ _

theorem stroke (hc : c.Oblivious) (h : e.Alike f) (hp : e.engine.pump.isPoisoned = false) :
    Step.Alike Alike e.stroke f.stroke := by
  obtain ⟨hanswer, hnext, hcalls⟩ := h.engine.stroke hc hp
  unfold Encoder.stroke
  dsimp only
  rw [← hanswer]
  cases e.engine.stroke.answer with
  | error fault => exact ⟨rfl, ⟨hnext, h.closed, h.consumed, h.produced⟩, hcalls⟩
  | ok counts =>
    refine ⟨rfl, ⟨hnext, h.closed, ?_, ?_⟩, hcalls⟩
    · show e.consumed + counts.staged = f.consumed + counts.staged
      rw [h.consumed]
    · show e.produced + counts.produced = f.produced + counts.produced
      rw [h.produced]

theorem draw (hc : c.Oblivious) (h : e.Alike f) (length : Nat) :
    Step.Alike Alike (e.draw length) (f.draw length) := by
  have hwaiting : e.engine.pump.waiting = f.engine.pump.waiting := h.engine.waiting
  unfold Encoder.draw
  -- both go the same way: what they ask of themselves is the same
  rw [← h.engine.isPoisoned, ← h.engine.isOwing, ← hwaiting, ← h.closed]
  split
  · exact Step.alike_quiet h _
  · rename_i hp
    split
    · exact h.handOut length
    · split
      · exact Step.alike_quiet h _
      · obtain ⟨hanswer, hnext, hcalls⟩ := h.stroke hc (Bool.eq_false_iff.mpr hp)
        dsimp only
        rw [← hanswer]
        cases e.stroke.answer with
        | error fault => exact ⟨rfl, hnext, hcalls⟩
        | ok _ => exact (hnext.handOut length).after hcalls

theorem status (h : e.Alike f) : e.status = f.status := by
  have hwindow : e.window = f.window := h.engine.window
  have hchunk : e.chunkSize = f.chunkSize := h.engine.chunkSize
  have hbacklog : e.backlog = f.backlog := congrArg List.length h.engine.waiting
  have hneeds : e.needsInput = f.needsInput := h.engine.isIdle
  have hfinished : e.isFinished = f.isFinished := by
    rw [Encoder.isFinished, Encoder.isFinished, h.closed, h.engine.isIdle]
  unfold Encoder.status
  rw [hwindow, hchunk, hbacklog, hneeds, hfinished, h.consumed, h.produced]

end Alike

end Encoder

/-! ## Decoders -/

namespace Decoder

/-- The engines are alike; there is nothing else. -/
structure Alike (e f : Decoder c) : Prop where
  engine : e.engine.Alike f.engine

namespace Alike

variable {e f : Decoder c}

theorem feed (h : e.Alike f) (data : Bytes) (offset length : Nat) :
    Agree Alike (e.feed data offset length) (f.feed data offset length) :=
  (h.engine.feed data offset length).map fun _ _ hnext => ⟨hnext⟩

theorem handOut (h : e.Alike f) (length : Nat) :
    Step.Alike Alike (e.handOut length) (f.handOut length) := by
  obtain ⟨hbytes, hengine⟩ := h.engine.draw length
  unfold Decoder.handOut
  dsimp only
  rw [hbytes]
  exact Step.alike_quiet ⟨hengine⟩ _

theorem stroke (hc : c.Oblivious) (h : e.Alike f) (hp : e.engine.pump.isPoisoned = false) :
    Step.Alike Alike e.stroke f.stroke := by
  obtain ⟨hanswer, hnext, hcalls⟩ := h.engine.stroke hc hp
  unfold Decoder.stroke
  dsimp only
  rw [← hanswer]
  exact ⟨rfl, ⟨hnext⟩, hcalls⟩

theorem draw (hc : c.Oblivious) (h : e.Alike f) (length : Nat) :
    Step.Alike Alike (e.draw length) (f.draw length) := by
  have hneeds : e.needsInput = f.needsInput := h.engine.isIdle
  unfold Decoder.draw
  rw [← h.engine.isPoisoned, ← h.engine.isOwing, ← hneeds]
  split
  · exact Step.alike_quiet h _
  · rename_i hp
    split
    · exact Step.alike_quiet h _
    · split
      · exact h.handOut length
      · obtain ⟨hanswer, hnext, hcalls⟩ := h.stroke hc (Bool.eq_false_iff.mpr hp)
        dsimp only
        rw [← hanswer]
        cases e.stroke.answer with
        | error fault => exact ⟨rfl, hnext, hcalls⟩
        | ok _ => exact (hnext.handOut length).after hcalls

theorem status (h : e.Alike f) : e.status = f.status := by
  have hwindow : e.window = f.window := h.engine.window
  have hchunk : e.chunkSize = f.chunkSize := h.engine.chunkSize
  have hbacklog : e.backlog = f.backlog := congrArg List.length h.engine.waiting
  have hneeds : e.needsInput = f.needsInput := h.engine.isIdle
  unfold Decoder.status Decoder.isFinished
  rw [hwindow, hchunk, hbacklog, hneeds]

end Alike

end Decoder

end Blockwise
