import Blockwise.Proofs.Course
import Blockwise.Proofs.Flushing
import Blockwise.Proofs.Renewal

/-!
# Refreshing — a reset writer or reader is like a new one

A writer or a reader that is reset renews its coder and keeps the rest: what it gathers or reads
into, and the sink or the source. For a caller that makes no difference. Nothing is left gathered
when an operation ends, whether it succeeds or not; and what a buffer held is overwritten or cut off
before anything of it is looked at. So no byte of a write that was refused, of a stretch that the
sink did not take or of a source read that failed comes to light in the stream that follows. What
can tell a writer that was reset from a new one is only the room that its encoder has, where that is
no longer what the transform asks for (`Engine.UpToDate`); and so with readers.

What is seen from outside are the answers, and the dealings with the sink or the source among the
block calls, in order (`Trace.seen`). Two writers are alike (`Writer.Alike`) if they have the same
sink, encoders that are alike and buffers of one size; two readers (`Reader.Alike`) if they have the
same source, decoders that are alike, ask for the same amounts, and agree whether the source is at
its end. Every operation does the same to both, and leaves them alike.

## Results

* `account_eq` — a relation that every deed keeps, answering the same, gives the same accounts.
* `Writer.Alike.settle`, `Writer.Alike.serve`, `Writer.Alike.leave` — writers that are alike do the
  same, to the end.
* `Reader.Alike.draw`, `Reader.Alike.serve` — so do readers.
* `record_reset` — after a reset a writer has the record of a new one if the buffers of its encoder
  are up to date, and so has a reader.
* `not_record_reset` — with buffers that are not up to date this fails.
-/

namespace Blockwise

universe u v w

variable {σ : Type u} {c : BlockTransform σ}

/-! ## What is seen from outside -/

/-- What is seen of an event from outside. What a failed call left in its room is not seen, and
neither are remarks. -/
def Event.seen : Event → Option Event
  | block call => some (.block call.settled)
  | remark _ => none
  | event => some event

namespace Trace

/-- What is seen of a trace from outside. -/
def seen (trace : Trace) : Trace := trace.filterMap Event.seen

@[simp] theorem seen_append (a b : Trace) : seen (a ++ b) = seen a ++ seen b :=
  List.filterMap_append

/-- Where neither a sink nor a source has a part, the calls are all that is seen. -/
theorem seen_eq_map_calls {trace : Trace} (h : ∀ event ∈ trace,
    (∃ call, event = .block call) ∨ ∃ diagnostic, event = .remark diagnostic) :
    trace.seen = (trace.calls.map BlockCall.settled).map .block := by
  induction trace with
  | nil => rfl
  | cons event trace ih =>
    rw [List.forall_mem_cons] at h
    have hrest : seen trace = _ := ih h.2
    rcases h.1 with ⟨call, rfl⟩ | ⟨diagnostic, rfl⟩
    · show Event.block call.settled :: seen trace = _
      rw [hrest]
      rfl
    · exact hrest

end Trace

namespace Step

/-- The same outcome, told in another way. -/
def mapAnswer {S : Type u} {α : Type v} {β : Type w} (f : α → β) (step : Step S α) : Step S β :=
  ⟨f step.answer, step.next, step.events⟩

/-- Outcomes with the same answer, of which the same is seen, and which leave related states. -/
structure Same {S : Type u} {α : Type v} (P : S → S → Prop) (x y : Step S α) : Prop where
  answer : x.answer = y.answer
  next : P x.next y.next
  seen : x.events.seen = y.events.seen

variable {S : Type u} {α : Type v} {P : S → S → Prop} {x y : Step S α}

theorem same_quiet {s t : S} (h : P s t) (answer : α) :
    Same P (.quiet answer s) (.quiet answer t) :=
  ⟨rfl, h, rfl⟩

theorem Same.mapAnswer {β : Type w} (h : Same P x y) (f : α → β) :
    Same P (x.mapAnswer f) (y.mapAnswer f) :=
  ⟨congrArg f h.answer, h.next, h.seen⟩

theorem Same.after (h : Same P x y) {earlier earlier' : Trace}
    (hseen : earlier.seen = earlier'.seen) : Same P (x.after earlier) (y.after earlier') := by
  refine ⟨h.answer, h.next, ?_⟩
  rw [events_after, events_after, Trace.seen_append, Trace.seen_append, hseen, h.seen]

/-- Of a draw only the calls are seen. -/
theorem Alike.same (h : Alike P x y)
    (hx : ∀ event ∈ x.events,
      (∃ call, event = .block call) ∨ ∃ diagnostic, event = .remark diagnostic)
    (hy : ∀ event ∈ y.events,
      (∃ call, event = .block call) ∨ ∃ diagnostic, event = .remark diagnostic) : Same P x y := by
  refine ⟨h.answer, h.next, ?_⟩
  rw [Trace.seen_eq_map_calls hx, Trace.seen_eq_map_calls hy, h.calls]

end Step

theorem Encoder.Alike.same_draw (hc : c.Oblivious) {e f : Encoder c} (h : e.Alike f) (length : Nat) :
    Step.Same Encoder.Alike (e.draw length) (f.draw length) :=
  (h.draw hc length).same (fun _ hevent => (e.drawn length).engine.block_or_remark hevent)
    fun _ hevent => (f.drawn length).engine.block_or_remark hevent

theorem Decoder.Alike.same_draw (hc : c.Oblivious) {e f : Decoder c} (h : e.Alike f) (length : Nat) :
    Step.Same Decoder.Alike (e.draw length) (f.draw length) :=
  (h.draw hc length).same (fun _ hevent => (e.drawn length).block_or_remark hevent)
    fun _ hevent => (f.drawn length).block_or_remark hevent

/-! ## Deeds, one after another -/

section Deeds

variable {S : Type u} {D : Type v} {α : Type w} (serve : S → D → Step S α)

/-- What is seen of deeds, one after another: each answer, and what happened. -/
def account (s : S) : List D → List (α × Trace)
  | [] => []
  | deed :: deeds =>
    let step := serve s deed
    (step.answer, step.events.seen) :: account step.next deeds

/-- What the deeds leave behind. -/
def afterDeeds (s : S) (deeds : List D) : S :=
  deeds.foldl (fun s deed => (serve s deed).next) s

variable {serve}

theorem account_eq {P : S → S → Prop}
    (hserve : ∀ {s t}, P s t → ∀ deed, Step.Same P (serve s deed) (serve t deed)) {s t : S}
    (h : P s t) (deeds : List D) :
    account serve s deeds = account serve t deeds ∧
      P (afterDeeds serve s deeds) (afterDeeds serve t deeds) := by
  -- on the deeds, for any two that are related: the first deed keeps them so
  induction deeds generalizing s t with
  | nil => exact ⟨rfl, h⟩
  | cons deed deeds ih =>
    obtain ⟨hanswer, hnext, hseen⟩ := hserve h deed
    obtain ⟨hrest, hlast⟩ := ih hnext
    refine ⟨?_, hlast⟩
    simp only [account, hanswer, hseen, hrest]

/-- What holds at the beginning and is kept by every deed holds after all of them. -/
theorem afterDeeds_induction {P : S → Prop} {s : S} {deeds : List D} (h : P s)
    (hserve : ∀ s deed, P s → P (serve s deed).next) : P (afterDeeds serve s deeds) := by
  induction deeds generalizing s with
  | nil => exact h
  | cons deed deeds ih => exact ih (hserve s deed h)

end Deeds

/-! ## Writers -/

namespace Writer

/-- What a caller can do with a writer and keep it. -/
inductive Deed where
  | write (bytes : Bytes)
  | writeAll (bytes : Bytes)
  | flush
  /-- The stream is finished. -/
  | conclude
  /-- A new stream is begun. -/
  | reset
  /-- Another sink takes the place of the one at hand. -/
  | exchange (sink : Sink)

inductive Reply where
  /-- How many bytes a write consumed. -/
  | wrote (answer : Except ChannelError Nat)
  | told (answer : Except ChannelError Unit)

def serve (w : Writer c) : Deed → Step (Writer c) Reply
  | .write bytes => (w.write bytes).mapAnswer .wrote
  | .writeAll bytes => (w.writeAll bytes).mapAnswer .told
  | .flush => w.flush.mapAnswer .told
  | .conclude => w.conclude.mapAnswer .told
  | .reset => w.reset.mapAnswer fun _ => .told (.ok ())
  | .exchange sink => .quiet (.told (.ok ())) { w with sink }

/-- The caller parts with the writer, and the sink is left. If the writer is abandoned, nobody is
told how that went. -/
def leave (w : Writer c) : Ending → Step Sink (Except ChannelError Unit)
  | .finish => w.finish
  | .abandon => w.abandon.mapAnswer .ok

/-- All that is seen of a writer until it is gone. -/
structure Record where
  account : List (Reply × Trace)
  /-- What is told at the parting. -/
  answer : Except ChannelError Unit
  /-- What is seen of the parting. -/
  parting : Trace
  /-- The sink that is left. -/
  sink : Sink

def record (w : Writer c) (deeds : List Deed) (ending : Ending) : Record :=
  let left := (afterDeeds serve w deeds).leave ending
  ⟨account serve w deeds, left.answer, left.events.seen, left.next⟩

/-- The writers have the same sink and buffers of one size, and their encoders are alike. What the
buffers hold is of no account. -/
structure Alike (w v : Writer c) : Prop where
  sink : w.sink = v.sink
  encoder : w.encoder.Alike v.encoder
  bufferSize : w.bufferSize = v.bufferSize

namespace Alike

variable {w v : Writer c}

theorem needsInput (h : w.Alike v) : w.encoder.needsInput = v.encoder.needsInput :=
  h.encoder.engine.isIdle

theorem withEncoder (h : w.Alike v) {e f : Encoder c} (hencoder : e.Alike f) :
    Alike { w with encoder := e } { v with encoder := f } :=
  ⟨h.sink, hencoder, h.bufferSize⟩

theorem close (h : w.Alike v) :
    Alike { w with encoder := w.encoder.close } { v with encoder := v.encoder.close } :=
  h.withEncoder ⟨h.encoder.engine, rfl, h.encoder.consumed, h.encoder.produced⟩

theorem reset (h : w.Alike v) : w.reset.next.Alike v.reset.next :=
  h.withEncoder ⟨h.encoder.engine.reset, rfl, rfl, rfl⟩

theorem deliver (hc : c.Oblivious) (h : w.Alike v) : Step.Same Alike w.deliver v.deliver := by
  obtain ⟨hanswer, hnext, hseen⟩ := h.encoder.same_draw hc v.bufferSize
  rw [deliver_eq, deliver_eq, h.bufferSize, hanswer, h.sink]
  cases (v.encoder.draw v.bufferSize).answer with
  | error fault => exact ⟨rfl, ⟨rfl, hnext, h.bufferSize⟩, hseen⟩
  | ok bytes =>
    -- both hand the same bytes to the same sink
    refine ⟨rfl, ⟨rfl, hnext, h.bufferSize⟩, ?_⟩
    rw [Trace.seen_append, Trace.seen_append, hseen]

theorem settle (hc : c.Oblivious) (h : w.Alike v) : Step.Same Alike w.settle v.settle := by
  fun_induction Writer.settle w generalizing v
  case case1 w hn =>
    rw [settle_of_idle (h.needsInput ▸ hn)]
    exact Step.same_quiet h _
  case case2 w hn step error hanswer =>
    have hdelivered := h.deliver hc
    rw [settle_of_busy (h.needsInput ▸ hn), ← hdelivered.answer,
      show w.deliver.answer = _ from hanswer]
    exact ⟨rfl, hdelivered.next, hdelivered.seen⟩
  case case3 w hn step hanswer ih =>
    -- after one delivery the writers are alike again, and both go on
    have hdelivered := h.deliver hc
    rw [settle_of_busy (w := v) (h.needsInput ▸ hn), ← hdelivered.answer,
      show w.deliver.answer = _ from hanswer]
    exact (ih hdelivered.next).after hdelivered.seen

theorem write (hc : c.Oblivious) (h : w.Alike v) (bytes : Bytes) :
    Step.Same Alike (w.write bytes) (v.write bytes) := by
  rw [write_eq, write_eq]
  split
  · exact Step.same_quiet h _
  · have hfeed : Agree Encoder.Alike (w.encoder.feedAll bytes) (v.encoder.feedAll bytes) :=
      h.encoder.feed bytes 0 bytes.length
    generalize w.encoder.feedAll bytes = x, v.encoder.feedAll bytes = y at hfeed
    -- a write that is refused leaves everything as it was, and nothing gathered
    cases hfeed with
    | refused fault => exact Step.same_quiet h _
    | taken hencoder => exact ((h.withEncoder hencoder).settle hc).mapAnswer _

theorem writeAll (hc : c.Oblivious) (h : w.Alike v) (bytes : Bytes) :
    Step.Same Alike (w.writeAll bytes) (v.writeAll bytes) :=
  (h.write hc bytes).mapAnswer _

theorem flush (h : w.Alike v) : Step.Same Alike w.flush v.flush := by
  unfold Writer.flush
  rw [h.sink]
  exact ⟨rfl, ⟨rfl, h.encoder, h.bufferSize⟩, rfl⟩

theorem conclude (hc : c.Oblivious) (h : w.Alike v) : Step.Same Alike w.conclude v.conclude :=
  h.close.settle hc

theorem serve (hc : c.Oblivious) (h : w.Alike v) (deed : Deed) :
    Step.Same Alike (w.serve deed) (v.serve deed) := by
  cases deed with
  | write bytes => exact (h.write hc bytes).mapAnswer _
  | writeAll bytes => exact (h.writeAll hc bytes).mapAnswer _
  | flush => exact h.flush.mapAnswer _
  | conclude => exact (h.conclude hc).mapAnswer _
  | reset => exact ⟨rfl, h.reset, rfl⟩
  | exchange sink => exact ⟨rfl, ⟨rfl, h.encoder, h.bufferSize⟩, rfl⟩

theorem abandon (hc : c.Oblivious) (h : w.Alike v) : Step.Same Eq w.abandon v.abandon := by
  obtain ⟨hanswer, hnext, hseen⟩ := h.conclude hc
  unfold Writer.abandon
  dsimp only
  rw [hanswer]
  cases v.conclude.answer with
  | ok _ => exact ⟨rfl, hnext.sink, hseen⟩
  | error error =>
    refine ⟨rfl, hnext.sink, ?_⟩
    rw [Trace.seen_append, Trace.seen_append, hseen]

theorem finish (hc : c.Oblivious) (h : w.Alike v) : Step.Same Eq w.finish v.finish := by
  obtain ⟨hanswer, hnext, hseen⟩ := h.conclude hc
  unfold Writer.finish
  dsimp only
  rw [hanswer]
  cases v.conclude.answer with
  | ok _ =>
    rw [hnext.sink]
    refine ⟨rfl, rfl, ?_⟩
    rw [Trace.seen_append, Trace.seen_append, hseen]
  | error error =>
    -- both are abandoned, in states that are alike
    obtain ⟨-, hsink, hgiven⟩ := hnext.abandon hc
    refine ⟨rfl, hsink, ?_⟩
    rw [Trace.seen_append, Trace.seen_append, hseen, hgiven]

theorem leave (hc : c.Oblivious) (h : w.Alike v) (ending : Ending) :
    Step.Same Eq (w.leave ending) (v.leave ending) := by
  cases ending with
  | finish => exact h.finish hc
  | abandon => exact (h.abandon hc).mapAnswer _

theorem record_eq (hc : c.Oblivious) (h : w.Alike v) (deeds : List Deed) (ending : Ending) :
    w.record deeds ending = v.record deeds ending := by
  obtain ⟨haccount, hlast⟩ := account_eq (fun h => Alike.serve hc h) h deeds
  obtain ⟨hanswer, hsink, hseen⟩ := hlast.leave hc ending
  simp only [record, haccount, hanswer, hsink, hseen]

end Alike

/-! ### What no deed changes -/

theorem chunkSize_deliver (w : Writer c) :
    w.deliver.next.encoder.chunkSize = w.encoder.chunkSize := by
  have hdrawn := (w.encoder.drawn w.bufferSize).engine.chunkSize
  rw [deliver_eq]
  cases (w.encoder.draw w.bufferSize).answer <;> exact hdrawn

theorem chunkSize_settle (w : Writer c) :
    w.settle.next.encoder.chunkSize = w.encoder.chunkSize := by
  fun_induction settle w with
  | case1 w hn => rfl
  | case2 w hn step error hanswer => exact w.chunkSize_deliver
  | case3 w hn step hanswer ih => exact ih.trans w.chunkSize_deliver

theorem chunkSize_write (w : Writer c) (bytes : Bytes) :
    (w.write bytes).next.encoder.chunkSize = w.encoder.chunkSize := by
  rw [write_eq]
  split
  · rfl
  · split
    · rfl
    · rename_i encoder hfeed
      obtain ⟨engine, hengine, rfl⟩ := exists_eq_ok_of_map hfeed
      obtain ⟨-, -, hpump, -⟩ := Engine.of_feed_eq_ok hengine
      refine (chunkSize_settle _).trans ?_
      show engine.pump.chunkSize = w.encoder.engine.pump.chunkSize
      rw [hpump]

theorem sizes_serve (w : Writer c) (deed : Deed) :
    (w.serve deed).next.encoder.chunkSize = w.encoder.chunkSize ∧
      (w.serve deed).next.bufferSize = w.bufferSize := by
  cases deed with
  | write bytes => exact ⟨w.chunkSize_write bytes, (w.settles_write bytes).bufferSize⟩
  | writeAll bytes => exact ⟨w.chunkSize_write bytes, (w.settles_write bytes).bufferSize⟩
  | flush => exact ⟨rfl, rfl⟩
  | conclude => exact ⟨chunkSize_settle _, w.settles_conclude.bufferSize⟩
  | reset => exact ⟨rfl, rfl⟩
  | exchange sink => exact ⟨rfl, rfl⟩

theorem sizes_afterDeeds (w : Writer c) (deeds : List Deed) :
    (afterDeeds serve w deeds).encoder.chunkSize = w.encoder.chunkSize ∧
      (afterDeeds serve w deeds).bufferSize = w.bufferSize :=
  afterDeeds_induction
    (P := fun w' : Writer c =>
      w'.encoder.chunkSize = w.encoder.chunkSize ∧ w'.bufferSize = w.bufferSize)
    ⟨rfl, rfl⟩ fun _ _ h => ⟨(sizes_serve ..).1.trans h.1, (sizes_serve ..).2.trans h.2⟩

/-- Writers that are reset are alike if they have the same sink, buffers of one size, and encoders
of the same make. -/
theorem alike_reset_of_sameMake {w v : Writer c} (hsink : w.sink = v.sink)
    (hsize : w.bufferSize = v.bufferSize) (hmake : w.encoder.engine.SameMake v.encoder.engine) :
    w.reset.next.Alike v.reset.next :=
  ⟨hsink, ⟨hmake.alike_reset, rfl, rfl, rfl⟩, hsize⟩

/-- A reset writer is alike to a new one with the sink, the state of the transform and the sizes
that it has, if the buffers of its encoder are up to date. -/
theorem alike_reset {w : Writer c} (hup : w.encoder.engine.UpToDate) {current : Settings}
    (hcurrent : current.chunkSize = w.encoder.chunkSize) {bufferSize : Nat}
    (hsize : w.bufferSize = transferSize bufferSize) :
    w.reset.next.Alike
      (withBufferSize w.sink (Encoder.new c w.encoder.engine.state current) bufferSize) :=
  ⟨rfl, ⟨Engine.alike_reset hup hcurrent, rfl, rfl, rfl⟩, hsize⟩

end Writer

/-! ## Readers -/

namespace Reader

/-- What a caller can do with a reader. -/
inductive Deed where
  /-- Into the caller's buffer. -/
  | read (out : Bytes)
  /-- A new stream is begun. -/
  | reset
  /-- Another source takes the place of the one at hand. -/
  | exchange (source : Source)

inductive Reply where
  /-- How many bytes a read got, and the caller's buffer after it. -/
  | got (answer : Except ChannelError Nat) (out : Bytes)
  | done

def serve (r : Reader c) : Deed → Step (Reader c) Reply
  | .read out =>
    let step := r.readInto out
    ⟨.got step.answer step.next.2, step.next.1, step.events⟩
  | .reset => r.reset.mapAnswer fun _ => .done
  | .exchange source => .quiet .done { r with source }

/-- All that is seen of a reader until it is given up. -/
structure Record where
  account : List (Reply × Trace)
  /-- The source that is left. -/
  source : Source

def record (r : Reader c) (deeds : List Deed) : Record :=
  ⟨account serve r deeds, (afterDeeds serve r deeds).source⟩

/-- The readers have the same source, ask it for the same amounts, agree whether it has come to its
end, and have decoders that are alike. What the buffers hold is of no account, and not even their
sizes are. -/
structure Alike (r t : Reader c) : Prop where
  source : r.source = t.source
  decoder : r.decoder.Alike t.decoder
  bufferSize : r.bufferSize = t.bufferSize
  atEnd : r.atEnd = t.atEnd

namespace Alike

variable {r t : Reader c}

theorem got (h : r.Alike t) : r.got = t.got := by
  rw [Reader.got, Reader.got, h.source, h.bufferSize]

theorem needsInput (h : r.Alike t) : r.decoder.needsInput = t.decoder.needsInput :=
  h.decoder.engine.isIdle

theorem reset (h : r.Alike t) : r.reset.next.Alike t.reset.next :=
  ⟨h.source, ⟨h.decoder.engine.reset⟩, h.bufferSize, rfl⟩

/-- Which way a draw goes is the same for both, and so is all that comes of it. -/
theorem draw (hc : c.Oblivious) (h : r.Alike t) {length : Nat} (hl : 0 < length) :
    Step.Same Alike (r.draw length) (t.draw length) := by
  cases hidle : r.decoder.needsInput with
  | false =>
    -- there is something to hand out, or a failure, and the source has no part in it
    have hdrawn := h.decoder.same_draw hc length
    rw [draw_of_busy hl hidle, draw_of_busy (r := t) hl (h.needsInput ▸ hidle), hdrawn.answer]
    exact ⟨rfl, ⟨h.source, hdrawn.next, h.bufferSize, h.atEnd⟩, hdrawn.seen⟩
  | true =>
    have hidle' : t.decoder.needsInput = true := h.needsInput ▸ hidle
    cases hopen : r.atEnd with
    | true =>
      rw [draw_of_ended hidle hopen, draw_of_ended (r := t) hidle' (h.atEnd ▸ hopen)]
      exact Step.same_quiet h _
    | false =>
      -- both ask the same source, which gives both the same answer
      have hopen' : t.atEnd = false := h.atEnd ▸ hopen
      have hnext : r.got.next = t.got.next := congrArg Step.next h.got
      have hseen : r.got.events.seen = t.got.events.seen := congrArg (Trace.seen ·.events) h.got
      cases hgot : r.got.answer with
      | error failure =>
        rw [draw_of_refused hidle hopen hgot,
          draw_of_refused (r := t) hidle' hopen' (h.got ▸ hgot)]
        exact ⟨rfl, ⟨hnext, h.decoder, h.bufferSize, h.atEnd⟩, hseen⟩
      | ok bytes =>
        cases bytes with
        | nil =>
          rw [draw_of_exhausted hidle hopen hgot,
            draw_of_exhausted (r := t) hidle' hopen' (h.got ▸ hgot)]
          exact ⟨rfl, ⟨hnext, h.decoder, h.bufferSize, rfl⟩, hseen⟩
        | cons b bytes =>
          obtain ⟨decoder, hfeed⟩ := Decoder.exists_feedAll_eq_ok hidle (b :: bytes)
          obtain ⟨decoder', hfeed'⟩ := Decoder.exists_feedAll_eq_ok hidle' (b :: bytes)
          -- both decoders take what was served, whatever it was written over
          have hfed : decoder.Alike decoder' := by
            have hagree : Agree Decoder.Alike (r.decoder.feedAll (b :: bytes))
                (t.decoder.feedAll (b :: bytes)) := h.decoder.feed _ _ _
            rw [hfeed, hfeed'] at hagree
            cases hagree with
            | taken hdecoder => exact hdecoder
          have hdrawn := hfed.same_draw hc length
          rw [draw_of_served hl hidle hopen hgot hfeed,
            draw_of_served (r := t) hl hidle' hopen' (h.got ▸ hgot) hfeed', hdrawn.answer]
          refine ⟨rfl, ⟨hnext, hdrawn.next, h.bufferSize, h.atEnd⟩, ?_⟩
          rw [Trace.seen_append, Trace.seen_append, hseen, hdrawn.seen]

/-- The same is laid over the caller's buffer. -/
theorem readInto (hc : c.Oblivious) (h : r.Alike t) (out : Bytes) :
    Step.Same (fun x y => x.1.Alike y.1 ∧ x.2 = y.2) (r.readInto out) (t.readInto out) := by
  by_cases hne : out = []
  · rw [hne, readInto_nil, readInto_nil]
    exact Step.same_quiet ⟨h, rfl⟩ _
  · have hlength : out.length ≠ 0 := fun hzero => hne (List.length_eq_zero_iff.mp hzero)
    obtain ⟨hanswer, hnext, hseen⟩ := h.draw hc (Nat.pos_of_ne_zero hlength)
    unfold Reader.readInto Reader.read
    rw [if_neg hlength, if_neg hlength]
    dsimp only
    rw [hanswer]
    cases (t.draw out.length).answer with
    | error error => exact ⟨rfl, ⟨hnext, rfl⟩, hseen⟩
    | ok bytes => exact ⟨rfl, ⟨hnext, rfl⟩, hseen⟩

theorem serve (hc : c.Oblivious) (h : r.Alike t) (deed : Deed) :
    Step.Same Alike (r.serve deed) (t.serve deed) := by
  cases deed with
  | read out =>
    obtain ⟨hanswer, ⟨hnext, hout⟩, hseen⟩ := h.readInto hc out
    refine ⟨?_, hnext, hseen⟩
    simp only [Reader.serve, hanswer, hout]
  | reset => exact ⟨rfl, h.reset, rfl⟩
  | exchange source => exact ⟨rfl, ⟨rfl, h.decoder, h.bufferSize, h.atEnd⟩, rfl⟩

theorem record_eq (hc : c.Oblivious) (h : r.Alike t) (deeds : List Deed) :
    r.record deeds = t.record deeds := by
  obtain ⟨haccount, hlast⟩ := account_eq (fun h => Alike.serve hc h) h deeds
  rw [record, record, haccount, hlast.source]

end Alike

/-! ### What no deed changes -/

theorem Drawn.chunkSize {r r' : Reader c} {length : Nat} {answer : Except ChannelError Bytes}
    {events : Trace} (h : r.Drawn length answer r' events) :
    r'.decoder.chunkSize = r.decoder.chunkSize := by
  cases h with
  | busy hbusy => exact (r.decoder.drawn length).chunkSize
  | ended hidle hend => rfl
  | refused hidle hopen hgot => rfl
  | exhausted hidle hopen hgot => rfl
  | @served hidle hopen b bytes hgot decoder hfeed =>
    obtain ⟨engine, hengine, rfl⟩ := exists_eq_ok_of_map hfeed
    obtain ⟨-, -, hpump, -⟩ := Engine.of_feed_eq_ok hengine
    refine (Decoder.drawn _ length).chunkSize.trans ?_
    show engine.pump.chunkSize = r.decoder.engine.pump.chunkSize
    rw [hpump]

/-- Neither the size of the chunks nor how much is asked for at a time. -/
theorem sizes_serve (r : Reader c) (deed : Deed) :
    (r.serve deed).next.decoder.chunkSize = r.decoder.chunkSize ∧
      (r.serve deed).next.bufferSize = r.bufferSize := by
  cases deed with
  | read out =>
    by_cases hne : out = []
    · rw [hne]
      exact ⟨rfl, rfl⟩
    · obtain ⟨answer, hdrawn, -, -⟩ := r.drawn_readInto hne
      exact ⟨hdrawn.chunkSize, hdrawn.bufferSize⟩
  | reset => exact ⟨rfl, rfl⟩
  | exchange source => exact ⟨rfl, rfl⟩

theorem sizes_afterDeeds (r : Reader c) (deeds : List Deed) :
    (afterDeeds serve r deeds).decoder.chunkSize = r.decoder.chunkSize ∧
      (afterDeeds serve r deeds).bufferSize = r.bufferSize :=
  afterDeeds_induction
    (P := fun r' : Reader c =>
      r'.decoder.chunkSize = r.decoder.chunkSize ∧ r'.bufferSize = r.bufferSize)
    ⟨rfl, rfl⟩ fun _ _ h => ⟨(sizes_serve ..).1.trans h.1, (sizes_serve ..).2.trans h.2⟩

/-- Readers that are reset are alike if they have the same source, ask it for the same amounts, and
have decoders of the same make. -/
theorem alike_reset_of_sameMake {r t : Reader c} (hsource : r.source = t.source)
    (hsize : r.bufferSize = t.bufferSize) (hmake : r.decoder.engine.SameMake t.decoder.engine) :
    r.reset.next.Alike t.reset.next :=
  ⟨hsource, ⟨hmake.alike_reset⟩, hsize, rfl⟩

/-- A reset reader is alike to a new one with the source, the state of the transform and the sizes
that it has, if the buffers of its decoder are up to date. -/
theorem alike_reset {r : Reader c} (hup : r.decoder.engine.UpToDate) {current : Settings}
    (hcurrent : current.chunkSize = r.decoder.chunkSize) {bufferSize : Nat}
    (hsize : r.bufferSize = transferSize bufferSize) :
    r.reset.next.Alike
      (withBufferSize r.source (Decoder.new c r.decoder.engine.state current) bufferSize) :=
  ⟨rfl, ⟨Engine.alike_reset hup hcurrent⟩, hsize, rfl⟩

end Reader

/-! ## After a reset -/

/-- **A reset writer or reader is like a new one.** Take a transform that does not look at what its
room held before. A writer over an encoder, after any deeds: writes of which the sink lost a part,
writes that the encoder refused, block calls that failed, a stream that was finished or could not
be.

1. If it is reset, the record of all that follows, up to the parting and the sink that is left then,
   depends on nothing but the sink, the size of its buffer, the state of the transform and the sizes
   of the chunks and buffers of the encoder.
2. If the buffers of the encoder are up to date, it is the record of a new writer with a buffer of
   the same size over the sink as it is, and over a new encoder with the current state of the
   transform and the same chunk size.

A reader over a decoder, after any deeds: at the end of its source, after one that failed, with
output that was not asked for. If it is given any source and reset, the same holds of the record of
all that follows, with a new reader on this source. Where the transform asks for the same room in
every state, the buffers are always up to date. -/
theorem record_reset (hc : c.Oblivious) (state : σ) (settings : Settings) (bufferSize : Nat) :
    (∀ (earlier : List (Command Encoder.Renewal)) (sink : Sink) (history : List Writer.Deed),
      let w := afterDeeds Writer.serve
        (Writer.withBufferSize sink (after (Encoder.new c state settings) earlier) bufferSize)
        history
      (∀ v : Writer c, w.sink = v.sink → w.bufferSize = v.bufferSize →
          w.encoder.engine.SameMake v.encoder.engine →
          ∀ (deeds : List Writer.Deed) (ending : Writer.Ending),
            w.reset.next.record deeds ending = v.reset.next.record deeds ending) ∧
        ∃ current : Settings, current.chunkSize = w.encoder.chunkSize ∧
          (w.encoder.engine.UpToDate → ∀ (deeds : List Writer.Deed) (ending : Writer.Ending),
            w.reset.next.record deeds ending =
              (Writer.withBufferSize w.sink (Encoder.new c w.encoder.engine.state current)
                bufferSize).record deeds ending)) ∧
      (∀ (earlier : List (Command Decoder.Renewal)) (source : Source) (history : List Reader.Deed),
        let r := afterDeeds Reader.serve
          (Reader.withBufferSize source (after (Decoder.new c state settings) earlier) bufferSize)
          history
        (∀ t : Reader c, r.bufferSize = t.bufferSize → r.decoder.engine.SameMake t.decoder.engine →
            ∀ (source' : Source) (deeds : List Reader.Deed),
              { r with source := source' }.reset.next.record deeds =
                { t with source := source' }.reset.next.record deeds) ∧
          ∃ current : Settings, current.chunkSize = r.decoder.chunkSize ∧
            (r.decoder.engine.UpToDate → ∀ (source' : Source) (deeds : List Reader.Deed),
              { r with source := source' }.reset.next.record deeds =
                (Reader.withBufferSize source' (Decoder.new c r.decoder.engine.state current)
                  bufferSize).record deeds)) ∧
      (c.HasFixedBound → ∀ (d : Direction) (e : Engine c d), e.UpToDate) := by
  refine ⟨fun earlier sink history => ?_, fun earlier source history => ?_,
    fun hfixed d e => e.upToDate_of_hasFixedBound hfixed⟩
  · intro w
    -- the chunk size is one that the encoder was once given: no deed of the writer changes it
    obtain ⟨current, hcurrent⟩ := exists_settings_after (S := Encoder c) state settings earlier
    obtain ⟨hchunk, hsize⟩ := Writer.sizes_afterDeeds
      (Writer.withBufferSize sink (after (Encoder.new c state settings) earlier) bufferSize) history
    have hcurrent' : current.chunkSize = w.encoder.chunkSize := hcurrent.trans hchunk.symm
    refine ⟨fun v hsink hsize' hmake => ?_, current, hcurrent', fun hup => ?_⟩
    · exact (Writer.alike_reset_of_sameMake hsink hsize' hmake).record_eq hc
    · exact (Writer.alike_reset hup hcurrent' hsize).record_eq hc
  · intro r
    obtain ⟨current, hcurrent⟩ := exists_settings_after (S := Decoder c) state settings earlier
    obtain ⟨hchunk, hsize⟩ := Reader.sizes_afterDeeds
      (Reader.withBufferSize source (after (Decoder.new c state settings) earlier) bufferSize)
      history
    have hcurrent' : current.chunkSize = r.decoder.chunkSize := hcurrent.trans hchunk.symm
    refine ⟨fun t hsize' hmake source' => ?_, current, hcurrent', fun hup source' => ?_⟩
    · have hreset := Reader.alike_reset_of_sameMake (r := { r with source := source' })
        (t := { t with source := source' }) rfl hsize' hmake
      exact hreset.record_eq hc
    · have hreset := Reader.alike_reset (r := { r with source := source' }) hup hcurrent' hsize
      exact hreset.record_eq hc

/-- A writer whose sink refuses the first half of a block, which then refuses a write and is
finished all the same, beside one that came to the same number without a failure; and a reader that
meets a block with nothing in it but the number, after a source that fails. -/
theorem record_reset_numbered :
    let closed : Failure := ⟨.brokenPipe, "closed"⟩
    let w := afterDeeds Writer.serve
      (Writer.withBufferSize ⟨[.refuse closed], []⟩
        (after (Encoder.new .numbered 7 ⟨2, by decide, by decide⟩) []) 2)
      [.write [1, 2, 3], .write [9], .conclude]
    let v := afterDeeds Writer.serve
      (Writer.withBufferSize ⟨[], []⟩
        (after (Encoder.new .numbered 8 ⟨2, by decide, by decide⟩) []) 2) [.write [4]]
    let r := afterDeeds Reader.serve
      (Reader.withBufferSize (.ofSupplies [.data [9, 1], .refuse closed, .data [8]])
        (after (Decoder.new .numbered 7 ⟨1, by decide, by decide⟩) []) 2)
      [.read [0, 0], .read [0], .read [0], .read [0]]
    (BlockTransform.numbered.Oblivious ∧ BlockTransform.numbered.HasFixedBound) ∧
      (w.encoder.closed = true ∧ w.encoder.engine.state = 9) ∧
      (w.encoder.engine.SameMake v.encoder.engine ∧
        w.reset.next.record [.write [5]] .finish = v.reset.next.record [.write [5]] .finish) ∧
      w.reset.next.record [.write [5]] .finish =
        ⟨[(.wrote (.ok 1), [.block ⟨"numbered", .encode, [5], 3, 2, [9, 5]⟩,
          .write [9, 5] (.ok 2)])], .ok (), [.flush (.ok ())], ⟨[], []⟩⟩ ∧
      r.decoder.window = .poisoned ∧
      { r with source := .ofSupplies [.data [6, 4, 6, 3]] }.reset.next.record [.read [0, 0]] =
        ⟨[(.got (.ok 1) [4, 0], [.read 2 (.ok [6, 4]),
          .block ⟨"numbered", .decode, [6, 4], 1, 1, [4]⟩])], ⟨[6, 3], []⟩⟩ := by
  intro closed w v r
  have hnumbered := BlockTransform.oblivious_numbered
  have hfixed := BlockTransform.hasFixedBound_numbered
  obtain ⟨hwriter, -, hup⟩ := record_reset hnumbered 7 ⟨2, by decide, by decide⟩ 2
  obtain ⟨-, hreader, -⟩ := record_reset hnumbered 7 ⟨1, by decide, by decide⟩ 2
  obtain ⟨hmade, current, hcurrent, hwritten⟩ := hwriter [] ⟨[.refuse closed], []⟩
    [.write [1, 2, 3], .write [9], .conclude]
  obtain ⟨-, current', hcurrent', hread⟩ := hreader []
    (.ofSupplies [.data [9, 1], .refuse closed, .data [8]])
    [.read [0, 0], .read [0], .read [0], .read [0]]
  have htwo : current = ⟨2, by decide, by decide⟩ :=
    Settings.ext (hcurrent.trans (Writer.sizes_afterDeeds ..).1)
  have hone : current' = ⟨1, by decide, by decide⟩ :=
    Settings.ext (hcurrent'.trans (Reader.sizes_afterDeeds ..).1)
  have hclosed : w.encoder.closed = true := by
    simp only [w, closed]
    cbv
  have hnumber : w.encoder.engine.state = 9 := by
    simp only [w, closed]
    cbv
  have hsink : w.sink = ⟨[], []⟩ := by
    simp only [w, closed]
    cbv
  have hnumber' : v.encoder.engine.state = 9 := by
    simp only [v]
    cbv
  have hsink' : v.sink = ⟨[], []⟩ := by
    simp only [v]
    cbv
  have hmake : w.encoder.engine.SameMake v.encoder.engine := by
    refine ⟨hnumber.trans hnumber'.symm, ?_, ?_⟩
    · simp only [w, v, closed]
      cbv
    · simp only [w, v, closed]
      cbv
  have hwriter : w.encoder.engine.UpToDate := hup hfixed .encode w.encoder.engine
  have hreader : r.decoder.engine.UpToDate := hup hfixed .decode r.decoder.engine
  refine ⟨⟨hnumbered, hfixed⟩, ⟨hclosed, hnumber⟩, ⟨hmake, ?_⟩, ?_, ?_, ?_⟩
  · have hsize : w.bufferSize = 2 := (Writer.sizes_afterDeeds ..).2
    have hsize' : v.bufferSize = 2 := (Writer.sizes_afterDeeds ..).2
    exact hmade v (hsink.trans hsink'.symm) (hsize.trans hsize'.symm) hmake [.write [5]] .finish
  · refine (hwritten hwriter [.write [5]] .finish).trans ?_
    show (Writer.withBufferSize w.sink (Encoder.new .numbered w.encoder.engine.state current)
      2).record _ _ = _
    rw [htwo, hnumber, hsink]
    cbv
  · simp only [r, closed]
    cbv
  · refine (hread hreader (.ofSupplies [.data [6, 4, 6, 3]]) [.read [0, 0]]).trans ?_
    rw [hone]
    cbv

/-- A writer that is reset after one block fails at a second one of a full chunk, for which the
encoder lacks the room; a new writer over the same sink does not. -/
theorem not_record_reset :
    ¬ ∀ (σ : Type) (c : BlockTransform σ) (state : σ) (settings : Settings) (bufferSize : Nat)
        (sink : Sink) (history : List Writer.Deed), c.Oblivious →
      let w := afterDeeds Writer.serve
        (Writer.withBufferSize sink (Encoder.new c state settings) bufferSize) history
      ∃ current : Settings, current.chunkSize = w.encoder.chunkSize ∧
        ∀ (deeds : List Writer.Deed) (ending : Writer.Ending), w.reset.next.record deeds ending =
          (Writer.withBufferSize w.sink (Encoder.new c w.encoder.engine.state current)
            bufferSize).record deeds ending := by
  intro hall
  let four : Settings := ⟨4, by decide, by decide⟩
  let w := afterDeeds Writer.serve
    (Writer.withBufferSize ⟨[], []⟩ (Encoder.new .growing 0 four) 8) [.write [1, 2, 3, 4]]
  have hclaimed : ∃ current : Settings, current.chunkSize = w.encoder.chunkSize ∧
      ∀ deeds ending, w.reset.next.record deeds ending =
        (Writer.withBufferSize w.sink (Encoder.new .growing w.encoder.engine.state current)
          8).record deeds ending :=
    hall Nat .growing 0 four 8 ⟨[], []⟩ [.write [1, 2, 3, 4]] BlockTransform.oblivious_growing
  obtain ⟨current, hcurrent, hreset⟩ := hclaimed
  have hfour : current = four := Settings.ext (hcurrent.trans (Writer.sizes_afterDeeds ..).1)
  have hone : w.encoder.engine.state = 1 := by
    simp only [w, four]
    cbv
  have hsink : w.sink = ⟨[], []⟩ := by
    simp only [w, four]
    cbv
  have hrecords := hreset [.write [5, 6, 7, 8]] .abandon
  rw [hfour, hone, hsink] at hrecords
  -- the room of the one has four bytes, that of the other five
  have hlacking : (w.reset.next.record [.write [5, 6, 7, 8]] .abandon).account.map Prod.fst =
      [.wrote (.error (.stream (.blockFailed "growing" .encode 4 0 4)))] := by
    simp only [w, four]
    cbv
  have hsupplied : ((Writer.withBufferSize ⟨[], []⟩ (Encoder.new .growing 1 four) 8).record
      [.write [5, 6, 7, 8]] .abandon).account.map Prod.fst = [.wrote (.ok 4)] := by
    simp only [four]
    cbv
  rw [hrecords, hsupplied] at hlacking
  cases hlacking

end Blockwise
