import Blockwise.Proofs.Breakdown

/-!
# Exchange — a decoder is an encoder of the exchanged transform

A decoder and an encoder are written apart. A decoder asks first whether it needs input, and only
then whether it owes any output; an encoder asks about the output first, then whether it was closed,
and keeps counters. As long as an encoder is not closed none of that shows. Exchange the directions
of the transform (`BlockTransform.swap`), and an encoder over the exchanged transform does what a
decoder over the transform does, call by call and reply by reply. All that differs is what names the
direction, in the records of the calls and in the faults, and `flip` exchanges that.

The buffers have to be of the same sizes for it. A decoder stages as much as the largest encoding of
a chunk, an encoder makes room for it; where the bound of the transform is no more than the chunk,
both are one chunk.

## Results

* `Fault.category_flip` — the faults of both are of the same kind.
* `Pump.stroke_flip` — a stroke in the opposite direction with the exchanged transform is the same
  stroke.
* `Opposes.draw`, `Opposes.respond` — opposite coders do the same on every operation, and are
  opposite afterwards.
* `chronicle_exchanged` — what is seen of the two is the same, from the beginning on.
-/

namespace Blockwise

universe u v w

variable {σ : Type u} {c : BlockTransform σ}

/-! ## What names the direction -/

/-- The fault in the opposite direction. A direction is named by a failed call, and by the refusal
of a dictionary. -/
def Fault.flip : Fault → Fault
  | blockFailed codec direction staged produced capacity =>
    .blockFailed codec direction.flip staged produced capacity
  | unsupported "dictionary decompression" => .unsupported "dictionary compression"
  | unsupported "dictionary compression" => .unsupported "dictionary decompression"
  | fault => fault

theorem Fault.category_flip (fault : Fault) : fault.flip.category = fault.category := by
  unfold flip
  split <;> rfl

/-- The same call in the opposite direction. -/
def BlockCall.flip (call : BlockCall) : BlockCall :=
  { call with direction := call.direction.flip }

def Reply.flip : Reply → Reply
  | told answer => .told (answer.mapError Fault.flip)
  | pulled answer buffer => .pulled (answer.mapError Fault.flip) buffer
  | .status standing => .status standing

/-- The outcomes of two operations that do the same in opposite directions: their answers and calls
differ in what names the direction, and they leave related states. -/
structure Step.Opposite {S : Type u} {T : Type v} {α : Type w} (flip : α → α)
    (P : S → T → Prop) (x : Step S α) (y : Step T α) : Prop where
  answer : y.answer = flip x.answer
  next : P x.next y.next
  calls : y.events.calls = x.events.calls.map BlockCall.flip

theorem Step.Opposite.after {S : Type u} {T : Type v} {α : Type w} {flip : α → α}
    {P : S → T → Prop} {x : Step S α} {y : Step T α} (h : Opposite flip P x y)
    {earlier earlier' : Trace} (hcalls : earlier'.calls = earlier.calls.map BlockCall.flip) :
    Opposite flip P (x.after earlier) (y.after earlier') := by
  refine ⟨h.answer, h.next, ?_⟩
  rw [Step.events_after, Step.events_after, Trace.calls_append, Trace.calls_append, List.map_append,
    hcalls, h.calls]

/-- Both are refused, with opposite faults, or both go on to related states. -/
inductive Opposed {S : Type u} {T : Type v} (P : S → T → Prop) :
    Except Fault S → Except Fault T → Prop where
  | refused (fault : Fault) : Opposed P (.error fault) (.error fault.flip)
  | taken {s : S} {t : T} (h : P s t) : Opposed P (.ok s) (.ok t)

theorem Opposed.map {S S' : Type u} {T T' : Type v} {P : S → T → Prop} {Q : S' → T' → Prop}
    {x : Except Fault S} {y : Except Fault T} {f : S → S'} {g : T → T'} (h : Opposed P x y)
    (hfg : ∀ s t, P s t → Q (f s) (g t)) : Opposed Q (x.map f) (y.map g) := by
  cases h with
  | refused fault => exact .refused fault
  | taken h => exact .taken (hfg _ _ h)

/-! ## Pumps -/

namespace Pump

/-- The pump with the same buffers, for blocks in the opposite direction. -/
def flip (p : Pump) : Pump := { p with direction := p.direction.flip }

/-- The faults of feeding name no direction. -/
theorem feed_flip (p : Pump) (data : Bytes) (offset length : Nat) :
    p.flip.feed data offset length =
      ((p.feed data offset length).map flip).mapError Fault.flip := by
  unfold feed requireRange requireUsable
  rw [show p.flip.isPoisoned = p.isPoisoned from rfl, show p.flip.waiting = p.waiting from rfl]
  split
  · simp only [bind, Except.bind]
    split
    · rename_i hp
      split at hp <;> cases hp
      rfl
    · split <;> rfl
  · rfl

theorem stroke_flip (p : Pump) (c : BlockTransform σ) (state : σ) :
    Step.Opposite (Except.mapError Fault.flip) (fun x y => y = (x.1.flip, x.2))
      (p.stroke c state) (p.flip.stroke c.swap state) := by
  unfold stroke
  rw [show p.flip.isPoisoned = p.isPoisoned from rfl]
  split
  · exact ⟨rfl, rfl, rfl⟩
  · -- turned round twice, the transform does the same to the same chunk and room
    have happly : c.swap.apply p.flip.direction = c.apply p.direction := by
      rw [BlockTransform.apply_swap]
      exact congrArg c.apply p.direction.flip_flip
    rw [happly, show p.flip.result = p.result from rfl,
      show p.flip.nextChunk = p.nextChunk from rfl]
    generalize c.apply p.direction state p.result p.nextChunk = filling
    have hcall : p.flip.callRecord c.swap filling = (p.callRecord c filling).flip := rfl
    dsimp only
    rw [hcall]
    refine ⟨?_, rfl, ?_⟩
    · show (if (p.callRecord c filling).failed then _ else _) = _
      split <;> rfl
    · rw [Engine.calls_remarks_append, Engine.calls_remarks_append]
      rfl

end Pump

/-! ## Engines -/

namespace Engine

/-- The engines run the same transform in opposite directions, and are the same in everything
else. -/
structure Opposes (d : Engine c .decode) (e : Engine c.swap .encode) : Prop where
  state : e.state = d.state
  pump : e.pump = d.pump.flip

namespace Opposes

variable {d : Engine c .decode} {e : Engine c.swap .encode}

/-- Two new engines have the same buffers if the bound is no more than the chunk. -/
theorem new {settings : Settings} {state : σ}
    (h : c.bound state settings.chunkSize ≤ settings.chunkSize) :
    Opposes (.new c .decode state settings) (.new c.swap .encode state settings) := by
  have hmax : max (c.bound state settings.chunkSize) settings.chunkSize = settings.chunkSize :=
    Nat.max_eq_right h
  refine ⟨rfl, ?_⟩
  show Pump.new .encode settings.chunkSize (c.bound state settings.chunkSize) =
    (Pump.new .decode settings.chunkSize (c.bound state settings.chunkSize)).flip
  -- the stage of the one and the room of the other have the size of the bound or of the chunk,
  -- whichever is larger
  simp only [Pump.new, bufferSizes, hmax]
  rfl

theorem window (h : d.Opposes e) : e.window = d.window := by
  show e.pump.window = d.pump.window
  rw [h.pump]
  rfl

theorem waiting (h : d.Opposes e) : e.waiting = d.waiting := by
  show e.pump.waiting = d.pump.waiting
  rw [h.pump]
  rfl

theorem isIdle (h : d.Opposes e) : e.isIdle = d.isIdle := by
  show e.pump.isIdle = d.pump.isIdle
  rw [h.pump]
  rfl

theorem reset (h : d.Opposes e) : d.reset.Opposes e.reset :=
  ⟨h.state, congrArg Pump.reset h.pump⟩

theorem draw (h : d.Opposes e) (length : Nat) :
    (e.draw length).1 = (d.draw length).1 ∧ (d.draw length).2.Opposes (e.draw length).2 := by
  have hdraw := congrArg (Pump.draw · length) h.pump
  exact ⟨congrArg Prod.fst hdraw, h.state, congrArg Prod.snd hdraw⟩

theorem feed (h : d.Opposes e) (data : Bytes) (offset length : Nat) :
    Opposed Opposes (d.feed data offset length) (e.feed data offset length) := by
  have hpump := d.pump.feed_flip data offset length
  rw [← h.pump, ← d.map_pump_feed, ← e.map_pump_feed] at hpump
  -- an engine takes what its pump takes, and the state of the transform has no part in it
  cases hd : d.feed data offset length with
  | error fault =>
    rw [hd] at hpump
    rw [eq_error_of_map hpump]
    exact .refused fault
  | ok d' =>
    rw [hd] at hpump
    obtain ⟨e', he, hpump'⟩ := exists_eq_ok_of_map hpump
    obtain ⟨-, -, -, hstate⟩ := of_feed_eq_ok hd
    obtain ⟨-, -, -, hstate'⟩ := of_feed_eq_ok he
    rw [he]
    exact .taken ⟨hstate'.trans (h.state.trans hstate.symm), hpump'⟩

theorem stroke (h : d.Opposes e) :
    Step.Opposite (Except.mapError Fault.flip) Opposes d.stroke e.stroke := by
  have hpump : e.pump.stroke c.swap e.state = d.pump.flip.stroke c.swap d.state := by
    rw [h.pump, h.state]
  obtain ⟨hanswer, hnext, hcalls⟩ := d.pump.stroke_flip c d.state
  rw [← hpump] at hanswer hnext hcalls
  refine ⟨hanswer, ⟨?_, ?_⟩, hcalls⟩
  · exact (congrArg Prod.snd hnext :)
  · exact (congrArg Prod.fst hnext :)

end Opposes

end Engine

/-! ## Decoders and encoders -/

/-- The engines run the same transform in opposite directions, and the encoder is open. Its counters
are of no account. -/
structure Opposes (d : Decoder c) (e : Encoder c.swap) : Prop where
  engine : d.engine.Opposes e.engine
  isOpen : e.closed = false

namespace Opposes

variable {d : Decoder c} {e : Encoder c.swap}

theorem feed (h : Opposes d e) (data : Bytes) (offset length : Nat) :
    Opposed Opposes (d.feed data offset length) (e.feed data offset length) :=
  (h.engine.feed data offset length).map fun _ _ hengine => ⟨hengine, h.isOpen⟩

theorem reset (h : Opposes d e) : Opposes d.reset.next e.reset.next :=
  ⟨h.engine.reset, rfl⟩

theorem handOut (h : Opposes d e) (length : Nat) :
    Step.Opposite (Except.mapError Fault.flip) Opposes (d.handOut length) (e.handOut length) := by
  obtain ⟨hbytes, hengine⟩ := h.engine.draw length
  unfold Decoder.handOut Encoder.handOut
  dsimp only
  rw [hbytes]
  exact ⟨rfl, ⟨hengine, h.isOpen⟩, rfl⟩

theorem stroke (h : Opposes d e) :
    Step.Opposite (Except.mapError Fault.flip) Opposes d.stroke e.stroke := by
  obtain ⟨hanswer, hnext, hcalls⟩ := h.engine.stroke
  unfold Decoder.stroke Encoder.stroke
  dsimp only
  rw [hanswer]
  -- a stroke that succeeds is counted by the encoder only
  cases d.engine.stroke.answer with
  | error fault => exact ⟨rfl, ⟨hnext, h.isOpen⟩, hcalls⟩
  | ok counts => exact ⟨rfl, ⟨hnext, h.isOpen⟩, hcalls⟩

/-- The two ask themselves different things and come to the same: a stroke that a decoder is spared
by needing input, an open encoder is spared by nothing waiting. -/
theorem draw (h : Opposes d e) (length : Nat) :
    Step.Opposite (Except.mapError Fault.flip) Opposes (d.draw length) (e.draw length) := by
  have hwindow : e.engine.pump.window = d.engine.pump.window := h.engine.window
  have hwaiting : e.engine.pump.waiting = d.engine.pump.waiting := h.engine.waiting
  unfold Decoder.draw Encoder.draw Decoder.needsInput Engine.isIdle Pump.isIdle Pump.isPoisoned
    Pump.isOwing
  rw [hwindow, hwaiting, h.isOpen]
  -- all that either of them asks is decided by the window and by whether anything waits
  cases d.engine.pump.window with
  | poisoned => exact ⟨rfl, h, rfl⟩
  | draining read unread => exact h.handOut length
  | empty =>
    cases d.engine.pump.waiting with
    | nil => exact ⟨rfl, h, rfl⟩
    | cons byte bytes =>
      -- something waits, and nothing is owed: both make a stroke
      obtain ⟨hanswer, hnext, hcalls⟩ := h.stroke
      simp only [List.isEmpty_cons, Bool.and_false, Bool.false_and, Bool.false_eq_true, if_false,
        reduceCtorEq, decide_false]
      rw [hanswer]
      cases d.stroke.answer with
      | error fault => exact ⟨rfl, hnext, hcalls⟩
      | ok _ => exact (hnext.handOut length).after hcalls

/-- A pull leaves the same bytes in the buffer of the caller. -/
theorem pull (h : Opposes d e) (buffer : Bytes) (offset length : Nat) :
    Step.Opposite (Except.mapError Fault.flip) (fun x y => Opposes x.1 y.1 ∧ y.2 = x.2)
      (pull Coder.draw d buffer offset length) (pull Coder.draw e buffer offset length) := by
  by_cases hr : offset + length ≤ buffer.length
  · obtain ⟨hanswer, hnext, hcalls⟩ := h.draw length
    show Step.Opposite _ _ (Blockwise.pull Decoder.draw d buffer offset length)
      (Blockwise.pull Encoder.draw e buffer offset length)
    unfold Blockwise.pull
    rw [requireRange_eq_ok_iff.mpr hr]
    -- the draws answer the same, so the same bytes are laid over the buffer
    dsimp only
    rw [hanswer]
    cases (d.draw length).answer with
    | error fault => exact ⟨rfl, ⟨hnext, rfl⟩, hcalls⟩
    | ok bytes => exact ⟨rfl, ⟨hnext, rfl⟩, hcalls⟩
  · rw [pull_of_outOfRange d hr, pull_of_outOfRange e hr]
    exact ⟨rfl, ⟨h, rfl⟩, rfl⟩

end Opposes

/-! ## What a caller sees -/

/-- What a caller can do with a decoder as well as with an encoder that stays open. -/
inductive Deed where
  /-- The range of the data is fed as the next input. -/
  | feed (data : Bytes) (offset length : Nat)
  /-- All of the data is fed as the next input. -/
  | feedAll (data : Bytes)
  /-- Output is pulled into the range of a buffer that the caller brings along. -/
  | pull (buffer : Bytes) (offset length : Nat)
  /-- The range of the data is offered as a dictionary. -/
  | loadDictionary (data : Bytes) (offset length : Nat)
  /-- A new stream is begun. -/
  | reset

/-- The deed as a command to a coder that is reset in the given way. -/
def Deed.command {R : Type} (way : R) : Deed → Command R
  | feed data offset length => .op (.feed data offset length)
  | feedAll data => .op (.feedAll data)
  | pull buffer offset length => .op (.pull buffer offset length)
  | loadDictionary data offset length => .loadDictionary data offset length
  | reset => .renew way

/-- What is seen of one command, and how the coder stands after it. -/
structure Sight where
  reply : Reply
  calls : List BlockCall
  window : Window
  backlog : Nat
  needsInput : Bool

/-- The same in the opposite direction. -/
def Sight.flip (sight : Sight) : Sight :=
  { sight with reply := sight.reply.flip, calls := sight.calls.map BlockCall.flip }

section Chronicle

variable {S : Type u} {d : Direction} {R : Type} [Coder S c d] [Renewable S R]

/-- What is seen of a coder when it does what the commands say, one after another. -/
def chronicle (s : S) : List (Command R) → List Sight
  | [] => []
  | command :: commands =>
    let step := respond s command
    let standing := Renewable.status step.next
    ⟨step.answer, step.events.calls, standing.window, standing.backlog, standing.needsInput⟩ ::
      chronicle step.next commands

end Chronicle

namespace Opposes

variable {d : Decoder c} {e : Encoder c.swap}

theorem replyTo (h : Opposes d e) {x : Except Fault (Decoder c)} {y : Except Fault (Encoder c.swap)}
    (hxy : Opposed Opposes x y) :
    Step.Opposite Reply.flip Opposes (replyTo d x) (replyTo e y) := by
  cases hxy with
  | refused fault => exact ⟨rfl, h, rfl⟩
  | taken hnext => exact ⟨rfl, hnext, rfl⟩

theorem respond (h : Opposes d e) (deed : Deed) :
    Step.Opposite Reply.flip Opposes (respond d (deed.command .reset))
      (respond e (deed.command .reset)) := by
  cases deed with
  | feed data offset length => exact h.replyTo (h.feed data offset length)
  | feedAll data => exact h.replyTo (h.feed data 0 data.length)
  | pull buffer offset length =>
    obtain ⟨hanswer, ⟨hnext, hbuffer⟩, hcalls⟩ := h.pull buffer offset length
    refine ⟨?_, hnext, hcalls⟩
    simp only [Deed.command, Blockwise.respond, hanswer, hbuffer]
    rfl
  -- both refuse a dictionary, each in its own words
  | loadDictionary data offset length => exact h.replyTo (.refused _)
  | reset => exact ⟨rfl, h.reset, rfl⟩

theorem chronicle_eq (h : Opposes d e) (deeds : List Deed) :
    chronicle e (deeds.map (Deed.command .reset)) =
      (chronicle d (deeds.map (Deed.command .reset))).map Sight.flip := by
  -- on the deeds, for any two that are opposite: the first deed keeps them so
  induction deeds generalizing d e with
  | nil => rfl
  | cons deed deeds ih =>
    obtain ⟨hanswer, hnext, hcalls⟩ := h.respond deed
    have hwindow : (Renewable.status (Blockwise.respond e (deed.command .reset)).next).window =
        (Renewable.status (Blockwise.respond d (deed.command .reset)).next).window :=
      hnext.engine.window
    have hbacklog : (Renewable.status (Blockwise.respond e (deed.command .reset)).next).backlog =
        (Renewable.status (Blockwise.respond d (deed.command .reset)).next).backlog :=
      congrArg List.length hnext.engine.waiting
    have hneeds : (Renewable.status (Blockwise.respond e (deed.command .reset)).next).needsInput =
        (Renewable.status (Blockwise.respond d (deed.command .reset)).next).needsInput :=
      hnext.engine.isIdle
    simp only [List.map_cons, chronicle, Sight.flip, hanswer, hcalls, hwindow, hbacklog, hneeds,
      ih hnext]

end Opposes

/-- **A decoder is an encoder of the exchanged transform.** Take any transform, in a state in which
it asks for no more room than a chunk to encode one. Whatever is done to a new decoder over it, and in
the same order to a new encoder over the exchanged transform, short of closing it: at every moment the
two reply the same and make the same block calls, have the same window, the same amount of input
waiting, and need input alike. What names the direction is exchanged, which leaves a fault in its
category. -/
theorem chronicle_exchanged (c : BlockTransform σ) (state : σ) (settings : Settings)
    (h : c.bound state settings.chunkSize ≤ settings.chunkSize) (deeds : List Deed) :
    chronicle (Encoder.new c.swap state settings) (deeds.map (Deed.command .reset)) =
        (chronicle (Decoder.new c state settings) (deeds.map (Deed.command .reset))).map
          Sight.flip ∧
      ∀ fault : Fault, fault.flip.category = fault.category := by
  have hnew : Opposes (Decoder.new c state settings) (Encoder.new c.swap state settings) :=
    ⟨Engine.Opposes.new h, rfl⟩
  exact ⟨hnew.chronicle_eq deeds, Fault.category_flip⟩

/-- A transform that reports more than its room on the third byte of the input: a block and a half,
a dictionary that is refused, the failure, and a reset. -/
theorem chronicle_exchanged_shunning :
    let c := BlockTransform.shunning 0
    let settings : Settings := ⟨2, by decide, by decide⟩
    let deeds : List Deed := [.feedAll [1, 2, 0], .pull [9, 9, 9] 1 1, .loadDictionary [7] 0 1,
      .pull [9] 0 1, .pull [9] 0 1, .pull [9] 0 2, .pull [9] 0 1, .reset, .pull [9] 0 1]
    c.bound () settings.chunkSize ≤ settings.chunkSize ∧
      chronicle (Encoder.new c.swap () settings) (deeds.map (Deed.command .reset)) = [
        ⟨.told (.ok ()), [], .empty, 3, false⟩,
        ⟨.pulled (.ok 1) [9, 1, 9], [⟨"shunning", .encode, [1, 2], 2, 2, [1, 2]⟩],
          .draining 1 [2], 1, false⟩,
        ⟨.told (.error (.unsupported "dictionary compression")), [], .draining 1 [2], 1, false⟩,
        ⟨.pulled (.ok 1) [2], [], .empty, 1, false⟩,
        ⟨.pulled (.error (.blockFailed "shunning" .encode 1 3 2)) [9],
          [⟨"shunning", .encode, [0], 2, 3, [0, 2]⟩], .poisoned, 0, false⟩,
        ⟨.pulled (.error (.outOfRange "output" 0 2 1)) [9], [], .poisoned, 0, false⟩,
        ⟨.pulled (.error .poisoned) [9], [], .poisoned, 0, false⟩,
        ⟨.told (.ok ()), [], .empty, 0, true⟩,
        ⟨.pulled (.ok 0) [9], [], .empty, 0, true⟩] := by
  intro c settings deeds
  have hbound : c.bound () settings.chunkSize ≤ settings.chunkSize := Nat.le_refl _
  refine ⟨hbound, ((chronicle_exchanged c () settings hbound deeds).1).trans ?_⟩
  simp only [c, settings, deeds]
  cbv

end Blockwise
