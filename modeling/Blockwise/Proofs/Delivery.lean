import Mathlib
import Blockwise.Proofs.Coder
import Blockwise.Writer

/-!
# Delivery — what a sink gets of an encoded stream

What a writer draws from its encoder it hands to the sink, and what the sink does not take in the
end is given up: the encoder no longer owes it, and nobody else holds it. A sink that fails once and
takes bytes again afterwards is therefore left with a hole. This module says what is true all the
same. The bytes that a sink took, with those given up in between, are the output of the block calls
in order, as far as it was drawn; a hole is never larger than the buffer of the writer; and as long
as nothing was given up, the sink has a prefix of the stream.

The bookkeeping is on traces (`Settles`): a part of a trace begins with some bytes owed, its block
calls contribute more, its writes dispose of some, and the rest is owed at its end. Parts that
settle one after the other settle together, so each loop of a writer needs one induction.

## Results

* `Sink.settles_writeAll`, `Writer.settles_deliver`, `Writer.settles_settle` — every step of a
  writer settles, however the sink answers and whatever the transform does.
* `Writer.disposed_prefix_contribution` — the bytes that a sink took and those given up, at every
  moment of the life of a writer.
* `Writer.not_accepted_prefix_contribution` — without those given up this fails.
-/

namespace Blockwise

universe u

variable {σ : Type u} {c : BlockTransform σ}

/-! ## Bytes that are given up -/

/-- The bytes that are given up with the event: those of a write that the sink took nothing of, or
that failed for good. -/
def Event.forsaken : Event → Bytes
  | write offered (.ok 0) => offered
  | write offered (.error failure) => if failure.kind = .interrupted then [] else offered
  | _ => []

/-- The bytes that the event disposes of: the sink takes them, or they are given up. -/
def Event.disposed (event : Event) : Bytes := event.accepted ++ event.forsaken

/-- An event that gives bytes up hands none over. -/
theorem Event.accepted_eq_nil_of_forsaken {event : Event} (h : event.forsaken ≠ []) :
    event.accepted = [] := by
  cases event with
  | write offered answer =>
    cases answer with
    | error failure => rfl
    | ok count =>
      cases count with
      | zero => rfl
      | succ count => exact absurd rfl h
  | block call => rfl
  | flush answer => rfl
  | read requested answer => rfl
  | remark diagnostic => rfl

namespace Trace

/-- The bytes that the events of a trace dispose of. -/
def disposed (trace : Trace) : Bytes := trace.flatMap Event.disposed

@[simp] theorem disposed_append (a b : Trace) : disposed (a ++ b) = disposed a ++ disposed b :=
  List.flatMap_append

@[simp] theorem contribution_append (a b : Trace) :
    contribution (a ++ b) = contribution a ++ contribution b := by
  rw [contribution, calls_append, List.flatMap_append]
  rfl

/-- Where nothing is given up, what is disposed of went to the sink. -/
theorem disposed_eq_accepted {trace : Trace} (h : ∀ event ∈ trace, event.forsaken = []) :
    trace.disposed = trace.accepted := by
  refine List.flatMap_congr fun event hevent => ?_
  rw [Event.disposed, h event hevent, List.append_nil]

/-- If nothing was given up before the last event of a trace, what was taken is in order as what was
disposed of is. -/
theorem accepted_prefix_contribution {trace : Trace}
    (hinOrder : disposed trace <+: contribution trace)
    (hbefore : disposed trace.dropLast <+: contribution trace.dropLast)
    (hkept : ∀ event ∈ trace.dropLast, event.forsaken = []) :
    accepted trace <+: contribution trace := by
  rcases List.eq_nil_or_concat trace with rfl | ⟨earlier, last, rfl⟩
  · exact List.nil_prefix
  rw [List.concat_eq_append, List.dropLast_concat] at hbefore hkept
  rw [List.concat_eq_append] at hinOrder ⊢
  by_cases hlast : last.forsaken = []
  · have hall : ∀ event ∈ earlier ++ [last], event.forsaken = [] := by
      intro event hevent
      rcases List.mem_append.mp hevent with hevent | hevent
      · exact hkept event hevent
      · rw [List.mem_singleton.mp hevent]
        exact hlast
    rw [← disposed_eq_accepted hall]
    exact hinOrder
  · -- the last event took nothing, so what was taken was taken before it
    have htaken : accepted (earlier ++ [last]) = disposed earlier := by
      rw [accepted_append, disposed_eq_accepted hkept, accepted, accepted, List.flatMap_cons,
        Event.accepted_eq_nil_of_forsaken hlast, List.flatMap_nil, List.append_nil,
        List.append_nil]
    rw [htaken, contribution_append]
    exact hbefore.trans (List.prefix_append ..)

/-- The trace settles: with `owed` owed before it and `owed'` after it, bytes are neither made nor
lost, at no moment more is disposed of than there is, in order, and at most `size` bytes are given
up at a time. -/
structure Settles (size : Nat) (owed : Bytes) (trace : Trace) (owed' : Bytes) : Prop where
  conserved : owed ++ trace.contribution = trace.disposed ++ owed'
  inOrder : ∀ n, disposed (trace.take n) <+: owed ++ contribution (trace.take n)
  bounded : ∀ event ∈ trace, event.forsaken.length ≤ size

namespace Settles

variable {size : Nat} {owed owed' owed'' : Bytes} {trace later : Trace}

theorem nil : Settles size owed [] owed where
  conserved := List.append_nil _
  inOrder n := by
    rw [List.take_nil]
    exact List.nil_prefix
  bounded _ h := by cases h

theorem append (h : Settles size owed trace owed') (hlater : Settles size owed' later owed'') :
    Settles size owed (trace ++ later) owed'' where
  conserved := by
    calc owed ++ contribution (trace ++ later)
        = trace.disposed ++ (owed' ++ contribution later) := by
          rw [contribution_append, ← List.append_assoc, h.conserved, List.append_assoc]
      _ = disposed (trace ++ later) ++ owed'' := by
          rw [hlater.conserved, disposed_append, List.append_assoc]
  inOrder n := by
    rw [List.take_append]
    by_cases hn : n ≤ trace.length
    · rw [Nat.sub_eq_zero_of_le hn, List.take_zero, List.append_nil]
      exact h.inOrder n
    · -- all of the first part is over, so what it leaves owed is what the rest begins with
      rw [List.take_of_length_le (by omega), disposed_append, contribution_append,
        ← List.append_assoc, h.conserved, List.append_assoc, List.prefix_append_right_inj]
      exact hlater.inOrder _
  bounded event hevent := by
    rcases List.mem_append.mp hevent with hevent | hevent
    · exact h.bounded event hevent
    · exact hlater.bounded event hevent

/-- Events that dispose of nothing only add to what is owed. -/
theorem of_disposed_eq_nil (h : ∀ event ∈ trace, event.disposed = [])
    (howed : owed ++ trace.contribution = owed') : Settles size owed trace owed' where
  conserved := by
    rw [howed, disposed, List.flatMap_eq_nil_iff.mpr h, List.nil_append]
  inOrder n := by
    have hnil : disposed (trace.take n) = [] :=
      List.flatMap_eq_nil_iff.mpr fun event hevent => h event (List.mem_of_mem_take hevent)
    rw [hnil]
    exact List.nil_prefix
  bounded event hevent := by
    rw [(List.append_eq_nil_iff.mp (h event hevent)).2]
    exact Nat.zero_le _

/-- One event that is no block call disposes of what comes first. -/
theorem singleton {event : Event} (hcall : event.call? = none)
    (hsize : event.forsaken.length ≤ size) :
    Settles size (event.disposed ++ owed) [event] owed where
  conserved := by
    have hnone : contribution [event] = [] := by
      simp [contribution, calls, hcall]
    rw [hnone, List.append_nil, disposed, List.flatMap_cons, List.flatMap_nil, List.append_nil]
  inOrder n := by
    cases n with
    | zero => exact List.nil_prefix
    | succ n =>
      have hone : disposed ([event].take (n + 1)) = event.disposed := by
        rw [List.take_succ_cons, List.take_nil, disposed, List.flatMap_cons, List.flatMap_nil,
          List.append_nil]
      rw [hone, List.append_assoc]
      exact List.prefix_append ..
  bounded later hlater := by
    rw [List.mem_singleton.mp hlater]
    exact hsize

end Settles

end Trace

/-! ## Sinks -/

theorem Event.length_forsaken_write_le (bytes : Bytes) (answer : Except Failure Nat) :
    (Event.write bytes answer).forsaken.length ≤ bytes.length := by
  unfold Event.forsaken
  split
  · rename_i heq
    cases heq
    exact Nat.le_refl _
  · rename_i failure heq
    cases heq
    split
    · exact Nat.zero_le _
    · exact Nat.le_refl _
  · exact Nat.zero_le _

namespace Sink

theorem settles_write {size : Nat} {sink : Sink} {bytes owed rest : Bytes}
    (hsize : bytes.length ≤ size)
    (h : owed = (Event.write bytes (sink.write bytes).answer).disposed ++ rest) :
    Trace.Settles size owed (sink.write bytes).events rest := by
  rw [h]
  exact .singleton rfl (Nat.le_trans (Event.length_forsaken_write_le ..) hsize)

/-- A stretch handed to a sink is taken or given up, all of it and in order. -/
theorem settles_writeAll {size : Nat} (sink : Sink) (bytes rest : Bytes)
    (hsize : bytes.length ≤ size) :
    Trace.Settles size (bytes ++ rest) (sink.writeAll bytes).events rest := by
  fun_induction writeAll sink bytes with
  | case1 sink bytes hempty =>
    rw [List.isEmpty_iff.mp hempty]
    exact .nil
  | case2 sink bytes hne step hanswer =>
    refine settles_write hsize ?_
    rw [hanswer]
    simp [Event.disposed, Event.accepted, Event.forsaken]
  | case3 sink bytes hne step count hanswer ih =>
    -- what the sink took comes first, and the rest is offered next
    have hshort : (bytes.drop (count + 1)).length ≤ size := by
      rw [List.length_drop]
      omega
    refine Trace.Settles.append (settles_write hsize ?_) (ih hshort)
    rw [hanswer]
    simp [Event.disposed, Event.accepted, Event.forsaken, ← List.append_assoc]
  | case4 sink bytes hne step failure hanswer hkind ih =>
    -- an interruption disposes of nothing, and the same stretch is offered again
    refine Trace.Settles.append (settles_write hsize ?_) (ih hsize)
    rw [hanswer]
    simp [Event.disposed, Event.accepted, Event.forsaken, hkind]
  | case5 sink bytes hne step failure hanswer hkind =>
    refine settles_write hsize ?_
    rw [hanswer]
    simp [Event.disposed, Event.accepted, Event.forsaken, hkind]

end Sink

/-! ## Writers -/

/-- A draw disposes of nothing: what it brings is still to be handed to the sink. -/
theorem Engine.Drawn.settles {d : Direction} {e e' : Engine c d} {length size : Nat}
    {answer : Except Fault Bytes} {events : Trace} (h : e.Drawn length answer e' events) :
    Trace.Settles size e.unread events (drawnBytes answer ++ e'.unread) := by
  -- bytes are conserved, and there is no write among the events
  refine .of_disposed_eq_nil ?_ h.conserves
  intro event hevent
  rcases h.block_or_remark hevent with ⟨_, rfl⟩ | ⟨_, rfl⟩ <;> rfl

namespace Writer

/-- The bytes that the encoder of a writer owes. -/
def unread (w : Writer c) : Bytes := w.encoder.engine.unread

/-- The writer becomes another one, with the trace settling what its encoder owes. -/
structure Settles (w : Writer c) (trace : Trace) (w' : Writer c) : Prop where
  bufferSize : w'.bufferSize = w.bufferSize
  trace : trace.Settles w.bufferSize w.unread w'.unread

theorem Settles.refl (w : Writer c) : w.Settles [] w := ⟨rfl, .nil⟩

theorem Settles.trans {w w' w'' : Writer c} {trace later : Trace} (h : w.Settles trace w')
    (hlater : w'.Settles later w'') : w.Settles (trace ++ later) w'' := by
  refine ⟨hlater.bufferSize.trans h.bufferSize, h.trace.append ?_⟩
  rw [← h.bufferSize]
  exact hlater.trace

/-- The sink is handed what was drawn, whatever else the buffer holds. -/
theorem deliver_eq (w : Writer c) :
    w.deliver =
      match (w.encoder.draw w.bufferSize).answer with
      | .error fault =>
        ⟨.error (.stream fault), { w with encoder := (w.encoder.draw w.bufferSize).next },
          (w.encoder.draw w.bufferSize).events⟩
      | .ok bytes =>
        ⟨(w.sink.writeAll bytes).answer.mapError .channel,
          { w with
            encoder := (w.encoder.draw w.bufferSize).next
            sink := (w.sink.writeAll bytes).next
            buffer := w.buffer.write bytes
            buffer_pos := w.buffer_pos },
          (w.encoder.draw w.bufferSize).events ++ (w.sink.writeAll bytes).events⟩ := by
  have hdrawn := (w.encoder.drawn w.bufferSize).engine
  unfold deliver
  dsimp only
  cases hanswer : (w.encoder.draw w.bufferSize).answer with
  | error fault => rfl
  | ok bytes =>
    rw [hanswer] at hdrawn
    have hfront : ((w.buffer.write bytes).resize bytes.length).bytes = bytes :=
      Buffer.bytes_resize_write hdrawn.length_le
    dsimp only
    rw [hfront]

/-- A write feeds its argument and nothing else. -/
theorem write_eq (w : Writer c) (bytes : Bytes) :
    w.write bytes =
      if bytes.isEmpty then .quiet (.ok 0) w
      else
        match w.encoder.feedAll bytes with
        | .error fault => .quiet (.error (.stream fault)) w
        | .ok encoder =>
          ⟨({ w with encoder }.settle).answer.map fun _ => bytes.length,
            ({ w with encoder }.settle).next, ({ w with encoder }.settle).events⟩ := by
  obtain ⟨sink, encoder, gathered, hgathered, buffer, hbuffer⟩ := w
  subst hgathered
  rfl

theorem settles_deliver (w : Writer c) : w.Settles w.deliver.events w.deliver.next := by
  have hdrawn := (w.encoder.drawn w.bufferSize).engine
  have hsettles : Trace.Settles w.bufferSize w.unread (w.encoder.draw w.bufferSize).events _ :=
    hdrawn.settles
  rw [deliver_eq]
  -- what is drawn is owed in front of the rest, and handed to the sink at once
  cases hanswer : (w.encoder.draw w.bufferSize).answer with
  | error fault =>
    rw [hanswer] at hsettles
    exact ⟨rfl, hsettles⟩
  | ok bytes =>
    rw [hanswer] at hsettles hdrawn
    exact ⟨rfl, hsettles.append (Sink.settles_writeAll w.sink bytes _ hdrawn.length_le)⟩

theorem settles_settle (w : Writer c) : w.Settles w.settle.events w.settle.next := by
  fun_induction settle w with
  | case1 w hn => exact .refl w
  | case2 w hn step error hanswer => exact w.settles_deliver
  | case3 w hn step hanswer ih => exact w.settles_deliver.trans ih

/-- An operation of a caller. -/
inductive Op where
  | write (bytes : Bytes)
  | writeAll (bytes : Bytes)
  | flush
  /-- The stream is finished, and the writer is kept. -/
  | conclude

/-- One operation. -/
def perform (w : Writer c) : Op → Step (Writer c) (Except ChannelError Unit)
  | .write bytes =>
    let step := w.write bytes
    ⟨step.answer.map fun _ => (), step.next, step.events⟩
  | .writeAll bytes => w.writeAll bytes
  | .flush => w.flush
  | .conclude => w.conclude

/-- Operations one after another, whatever they answer. -/
def run (w : Writer c) : List Op → Step (Writer c) Unit
  | [] => .quiet () w
  | op :: ops =>
    let step := w.perform op
    (step.next.run ops).after step.events

/-- How a caller parts with a writer. -/
inductive Ending where
  | finish
  | abandon

/-- What happens when the caller parts with the writer. -/
def part (w : Writer c) : Ending → Trace
  | .finish => w.finish.events
  | .abandon => w.abandon.events

/-- All that happens from the first operation on until the writer is gone. -/
def life (w : Writer c) (ops : List Op) (ending : Ending) : Trace :=
  let ran := w.run ops
  ran.events ++ ran.next.part ending

theorem settles_feedAll {w : Writer c} {bytes : Bytes} {encoder : Encoder c}
    (h : w.encoder.feedAll bytes = .ok encoder) : w.Settles [] { w with encoder } := by
  -- only what waits changes, not what is owed
  refine ⟨rfl, .of_disposed_eq_nil (fun _ h => by cases h) ?_⟩
  obtain ⟨engine, hengine, rfl⟩ := exists_eq_ok_of_map h
  obtain ⟨-, -, hpump, -⟩ := Engine.of_feed_eq_ok hengine
  show w.encoder.engine.pump.window.unread ++ [] = engine.pump.window.unread
  rw [hpump, List.append_nil]

theorem settles_write (w : Writer c) (bytes : Bytes) :
    w.Settles (w.write bytes).events (w.write bytes).next := by
  rw [write_eq]
  split
  · exact .refl w
  · split
    · exact .refl w
    · rename_i encoder hfeed
      exact (settles_feedAll hfeed).trans (settles_settle _)

theorem settles_flush (w : Writer c) : w.Settles w.flush.events w.flush.next :=
  ⟨rfl, .of_disposed_eq_nil (fun event h => by rw [List.mem_singleton.mp h]; rfl)
    (List.append_nil _)⟩

theorem settles_conclude (w : Writer c) : w.Settles w.conclude.events w.conclude.next := by
  -- closing an encoder leaves what it owes alone
  obtain ⟨hsize, htrace⟩ := settles_settle { w with encoder := w.encoder.close }
  exact ⟨hsize, htrace⟩

theorem settles_perform (w : Writer c) (op : Op) :
    w.Settles (w.perform op).events (w.perform op).next := by
  cases op with
  | write bytes => exact w.settles_write bytes
  | writeAll bytes => exact w.settles_write bytes
  | flush => exact w.settles_flush
  | conclude => exact w.settles_conclude

theorem settles_run (w : Writer c) (ops : List Op) :
    w.Settles (w.run ops).events (w.run ops).next := by
  induction ops generalizing w with
  | nil => exact .refl w
  | cons op ops ih => exact (w.settles_perform op).trans (ih _)

/-- A writer that is abandoned settles as far as it could conclude. -/
theorem settles_abandon (w : Writer c) :
    w.abandon.events.Settles w.bufferSize w.unread w.conclude.next.unread := by
  have hconclude := w.settles_conclude.trace
  unfold abandon
  dsimp only
  cases hanswer : w.conclude.answer with
  | ok _ => exact hconclude
  | error fault =>
    -- all that is added is a mention in the log
    exact hconclude.append
      (.of_disposed_eq_nil (fun event h => by rw [List.mem_singleton.mp h]; rfl)
        (List.append_nil _))

theorem settles_finish (w : Writer c) :
    ∃ owed, w.finish.events.Settles w.bufferSize w.unread owed := by
  obtain ⟨hsize, hconclude⟩ := w.settles_conclude
  unfold finish
  dsimp only
  cases hanswer : w.conclude.answer with
  | ok _ =>
    exact ⟨_, hconclude.append
      (.of_disposed_eq_nil (fun event h => by rw [List.mem_singleton.mp h]; rfl)
        (List.append_nil _))⟩
  | error fault =>
    -- a writer that cannot finish is abandoned, which concludes it once more
    have habandon := w.conclude.next.settles_abandon
    rw [hsize] at habandon
    exact ⟨_, hconclude.append habandon⟩

theorem settles_life (w : Writer c) (ops : List Op) (ending : Ending) :
    ∃ owed, (w.life ops ending).Settles w.bufferSize w.unread owed := by
  -- the operations leave the buffer as it was, so the end is bounded by the same size
  obtain ⟨hsize, hrun⟩ := w.settles_run ops
  have hpart : ∃ owed, ((w.run ops).next.part ending).Settles w.bufferSize
      (w.run ops).next.unread owed := by
    rw [← hsize]
    cases ending with
    | finish => exact settles_finish _
    | abandon => exact ⟨_, settles_abandon _⟩
  obtain ⟨owed, hpart⟩ := hpart
  exact ⟨owed, hrun.append hpart⟩

/-- **No hole but of bytes given up.** Take any transform, settings, sink and buffer, and any
operations on a writer over a new encoder, which is finished or abandoned in the end. At every
moment,

1. the bytes that the sink took, with those given up at their places, are a prefix of what the
   block calls contributed;
2. no more than one buffer of bytes was given up at a time;
3. if none were given up before the last event, what the sink took is itself such a prefix. -/
theorem disposed_prefix_contribution (c : BlockTransform σ) (state : σ) (settings : Settings)
    (sink : Sink) (bufferSize : Nat) (ops : List Op) (ending : Ending) (n : Nat) :
    let w := withBufferSize sink (Encoder.new c state settings) bufferSize
    let trace : Trace := (w.life ops ending).take n
    trace.disposed <+: trace.contribution ∧
      (∀ event ∈ trace, event.forsaken.length ≤ w.bufferSize) ∧
      ((∀ event ∈ trace.dropLast, event.forsaken = []) →
        trace.accepted <+: trace.contribution) := by
  intro w trace
  -- a new encoder owes nothing, so all that is disposed of was contributed
  obtain ⟨owed, hlife⟩ := w.settles_life ops ending
  have hinOrder : ∀ m, Trace.disposed ((w.life ops ending).take m) <+:
      Trace.contribution ((w.life ops ending).take m) := hlife.inOrder
  -- the moment before is one of the moments
  have hbefore : Trace.disposed trace.dropLast <+: Trace.contribution trace.dropLast := by
    rw [List.dropLast_eq_take, List.take_take]
    exact hinOrder _
  exact ⟨hinOrder n, fun event h => hlife.bounded event (List.mem_of_mem_take h),
    Trace.accepted_prefix_contribution (hinOrder n) hbefore⟩

/-- The life of a writer that stores eight bytes as one block and delivers them four at a time, to
a sink with the given answers. -/
def storing (writes : List Acceptance) (ending : Ending) : Trace :=
  (withBufferSize ⟨writes, []⟩ (Encoder.new .stored () ⟨8, by decide, by decide⟩) 4).life
    [.write [1, 2, 3, 4, 5, 6, 7, 8]] ending

/-- Right after the second half was refused, the sink has the first one. -/
theorem accepted_prefix_storing :
    let trace : Trace := (storing [.all, .refuse ⟨.brokenPipe, "closed"⟩] .finish).take 3
    (∀ event ∈ trace.dropLast, event.forsaken = []) ∧ trace.accepted = [1, 2, 3, 4] ∧
      trace.accepted <+: trace.contribution := by
  intro trace
  have hkept : ∀ event ∈ trace.dropLast, event.forsaken = [] := by
    refine List.flatMap_eq_nil_iff.mp ?_
    show ((storing [.all, .refuse ⟨.brokenPipe, "closed"⟩] .finish).take 3).dropLast.flatMap
      Event.forsaken = []
    cbv
  have haccepted : Trace.accepted
      ((storing [.all, .refuse ⟨.brokenPipe, "closed"⟩] .finish).take 3) = [1, 2, 3, 4] := by
    cbv
  obtain ⟨-, -, htaken⟩ := disposed_prefix_contribution .stored () ⟨8, by decide, by decide⟩
    ⟨[.all, .refuse ⟨.brokenPipe, "closed"⟩], []⟩ 4 [.write [1, 2, 3, 4, 5, 6, 7, 8]] .finish 3
  exact ⟨hkept, haccepted, htaken hkept⟩

/-- If a sink refuses the first half and takes the second one when the writer is abandoned, what it
took is not a prefix of the stream. -/
theorem not_accepted_prefix_contribution :
    ¬ ∀ (σ : Type) (c : BlockTransform σ) (state : σ) (settings : Settings) (sink : Sink)
        (bufferSize : Nat) (ops : List Op) (ending : Ending) (n : Nat),
      let w := withBufferSize sink (Encoder.new c state settings) bufferSize
      let trace : Trace := (w.life ops ending).take n
      trace.accepted <+: trace.contribution := by
  intro hall
  have htaken : Trace.accepted ((storing [.refuse ⟨.brokenPipe, "closed"⟩] .abandon).take 3) <+:
      Trace.contribution ((storing [.refuse ⟨.brokenPipe, "closed"⟩] .abandon).take 3) :=
    hall Unit .stored () ⟨8, by decide, by decide⟩ ⟨[.refuse ⟨.brokenPipe, "closed"⟩], []⟩ 4
      [.write [1, 2, 3, 4, 5, 6, 7, 8]] .abandon 3
  have haccepted : Trace.accepted
      ((storing [.refuse ⟨.brokenPipe, "closed"⟩] .abandon).take 3) = [5, 6, 7, 8] := by
    cbv
  have hcontribution : Trace.contribution
      ((storing [.refuse ⟨.brokenPipe, "closed"⟩] .abandon).take 3) = [1, 2, 3, 4, 5, 6, 7, 8] := by
    cbv
  rw [haccepted, hcontribution] at htaken
  revert htaken
  decide

end Writer

end Blockwise
