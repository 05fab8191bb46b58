import Mathlib
import Blockwise.Proofs.Course
import Blockwise.Proofs.Flushing
import Blockwise.Proofs.Poisoning

/-!
# Breakdown — what a failed call leaves of a writer and of a reader

A block call that fails poisons the coder, and with it the writer or the reader around it. Nothing
that came before is lost to that. A coder makes its next call only when nothing is owed any more, so
by the time a call fails, a reader has brought all that the calls before it put out, and a writer
has handed all of it to its sink. Nothing comes after it either: from then on every operation that
has anything to do is refused, and whatever a caller tries, no call is made, no byte reaches the
sink, and the source is left alone.

The operation in which the call fails is answered with the fault of the call. That is its last call,
so the fault is not in doubt.

## Results

* `Writer.settle_of_failed`, `Reader.Drawn.of_failed` — a failed call ends what it is made for.
* `Writer.Refuses.of_isPoisoned`, `Writer.run_of_isPoisoned` — what is left to do with a poisoned
  writer.
* `Writer.breakdown_run`, `Reader.breakdown_obeyAll` — a failed call keeps everything before it and
  lets nothing come after it.
-/

namespace Blockwise

universe u

variable {σ : Type u} {c : BlockTransform σ}

/-- The calls of the trace end with this one, and those before it succeeded. -/
def Trace.BreaksWith (trace : Trace) (call : BlockCall) : Prop :=
  ∃ earlier, trace.calls = earlier ++ [call] ∧ ∀ call' ∈ earlier, call'.failed = false

/-- A draw in which a call fails makes no other call, and is answered with the fault of this one. -/
theorem Engine.Drawn.of_failed {d : Direction} {e e' : Engine c d} {length : Nat}
    {answer : Except Fault Bytes} {events : Trace} (h : e.Drawn length answer e' events)
    {call : BlockCall} (hcall : call ∈ events.calls) (hf : call.failed = true) :
    e.pump.isPoisoned = false ∧ events.calls = [call] ∧ answer = .error call.fault ∧
      e'.pump.isPoisoned = true := by
  -- calls are made by strokes only, and a stroke makes one
  cases h with
  | refused hp => cases hcall
  | idle hi => cases hcall
  | owing ho => cases hcall
  | failed hp ho hfailed =>
    rw [Engine.mem_calls_stroke hp] at hcall
    rw [Engine.isPoisoned_stroke hp, Engine.calls_stroke hp, hcall]
    exact ⟨hp, rfl, rfl, hfailed⟩
  | struck hp ho hs =>
    rw [Engine.mem_calls_stroke hp] at hcall
    rw [hcall, hs] at hf
    cases hf

/-- A poisoned engine owes nothing: all that the calls before the failed one put out was handed
out. -/
theorem Ledger.Balances.returned_of_breaks {d : Direction} {ledger : Ledger} {origin e : Engine c d}
    (h : ledger.Balances origin e) {earlier : List BlockCall} {call : BlockCall}
    (hcalls : ledger.calls = earlier ++ [call])
    (hearlier : ∀ call' ∈ earlier, call'.failed = false) (hf : call.failed = true) :
    ledger.returned = earlier.flatMap BlockCall.output := by
  have hpoisoned : e.pump.isPoisoned = true := by
    rw [h.poisoned, hcalls]
    simp [hf]
  have hunread : e.unread = [] := by
    rw [Engine.unread, show e.pump.window = .poisoned from Engine.isPoisoned_iff.mp hpoisoned]
    rfl
  have hlast : call.contribution = [] := if_pos hf
  -- so what was handed out is all that was contributed, and the failed call contributed nothing
  have hbytes := h.bytes
  rw [hunread, List.append_nil, Ledger.contribution, hcalls, List.flatMap_append,
    flatMap_contribution_of_succeeded hearlier] at hbytes
  simpa [hlast] using hbytes

/-- Blocks are stored as they are, except for those with a certain byte in them. Such a block comes to
nothing in one direction, and to more than there is room for in the other. -/
def BlockTransform.shunning (byte : UInt8) : BlockTransform Unit where
  name := "shunning"
  encode state room block := if byte ∈ block then ⟨state, [], 0, []⟩ else .whole state room block
  decode state room block :=
    if byte ∈ block then ⟨state, block, room.size + 1, []⟩ else .whole state room block

/-! ## Writers -/

/-- Handing over a stretch makes no block call. -/
theorem Sink.calls_writeAll (sink : Sink) (bytes : Bytes) :
    (sink.writeAll bytes).events.calls = [] := by
  fun_induction writeAll sink bytes with
  | case1 => rfl
  | case2 => rfl
  | case3 sink bytes hne step count hanswer ih => exact ih
  | case4 sink bytes hne step failure hanswer hkind ih => exact ih
  | case5 => rfl

namespace Writer

/-- A call that fails while a writer delivers is the last one, and its fault is the answer. -/
theorem deliver_of_failed {w : Writer c} {call : BlockCall} (hcall : call ∈ w.deliver.events.calls)
    (hf : call.failed = true) :
    w.deliver.events.calls = [call] ∧ w.deliver.answer = .error (.stream call.fault) ∧
      w.deliver.next.encoder.engine.pump.isPoisoned = true := by
  have hdrawn := (w.encoder.drawn w.bufferSize).engine
  rw [deliver_eq] at hcall ⊢
  cases hanswer : (w.encoder.draw w.bufferSize).answer with
  | error fault =>
    rw [hanswer] at hcall hdrawn
    obtain ⟨-, hcalls, hfault, hpoisoned⟩ := hdrawn.of_failed hcall hf
    cases hfault
    exact ⟨hcalls, rfl, hpoisoned⟩
  | ok bytes =>
    -- a sink makes no calls, and those of a draw that succeeds did not fail
    rw [hanswer] at hcall hdrawn
    rw [Trace.calls_append, Sink.calls_writeAll, List.append_nil] at hcall
    obtain ⟨-, -, hfault, -⟩ := hdrawn.of_failed hcall hf
    cases hfault

/-- The same while a writer settles: the deliveries before this one made calls that succeeded. -/
theorem settle_of_failed {w : Writer c} {call : BlockCall} (hcall : call ∈ w.settle.events.calls)
    (hf : call.failed = true) :
    w.settle.events.BreaksWith call ∧ w.settle.answer = .error (.stream call.fault) ∧
      w.settle.next.encoder.engine.pump.isPoisoned = true := by
  -- delivery by delivery: the loop stops at the first that fails
  fun_induction settle w with
  | case1 w hn => cases hcall
  | case2 w hn step error hanswer =>
    obtain ⟨hcalls, hfault, hpoisoned⟩ := deliver_of_failed hcall hf
    exact ⟨⟨[], hcalls, fun _ hmem => (List.not_mem_nil hmem).elim⟩, hanswer ▸ hfault, hpoisoned⟩
  | case3 w hn step hanswer ih =>
    have hsucceeded : ∀ call' ∈ w.deliver.events.calls, call'.failed = false := by
      intro call' hcall'
      by_contra hfailed
      have hfault := (deliver_of_failed hcall' (Bool.not_eq_false _ ▸ hfailed)).2.1
      rw [hanswer] at hfault
      cases hfault
    rw [Step.events_after, Trace.calls_append] at hcall
    -- the call is not one of this delivery, so it is one of the others
    have hlater : call ∈ step.next.settle.events.calls := by
      refine (List.mem_append.mp hcall).resolve_left fun hmem => ?_
      rw [hsucceeded call hmem] at hf
      cases hf
    obtain ⟨⟨earlier, hcalls, hearlier⟩, hfault, hpoisoned⟩ := ih hlater
    refine ⟨⟨step.events.calls ++ earlier, ?_, ?_⟩, hfault, hpoisoned⟩
    · rw [Step.events_after, Trace.calls_append, hcalls, List.append_assoc]
    · exact List.forall_mem_append.mpr ⟨hsucceeded, hearlier⟩

/-- The same of an operation, whichever it is. -/
theorem perform_of_failed {w : Writer c} {op : Op} {call : BlockCall}
    (hcall : call ∈ (w.perform op).events.calls) (hf : call.failed = true) :
    (w.perform op).events.BreaksWith call ∧
      (w.perform op).answer = .error (.stream call.fault) ∧
      (w.perform op).next.encoder.engine.pump.isPoisoned = true := by
  -- both ways of writing settle, and so does concluding
  have hwrite : ∀ bytes, call ∈ (w.write bytes).events.calls →
      (w.write bytes).events.BreaksWith call ∧
        (w.write bytes).answer.map (fun _ => ()) = .error (.stream call.fault) ∧
        (w.write bytes).next.encoder.engine.pump.isPoisoned = true := by
    intro bytes hcall
    rw [write_eq] at hcall ⊢
    split at hcall
    · cases hcall
    · rename_i hne
      rw [if_neg hne]
      cases hfeed : w.encoder.feedAll bytes with
      | error fault =>
        rw [hfeed] at hcall
        cases hcall
      | ok encoder =>
        rw [hfeed] at hcall
        obtain ⟨hbreaks, hfault, hpoisoned⟩ := settle_of_failed hcall hf
        refine ⟨hbreaks, ?_, hpoisoned⟩
        show Except.map _ (Except.map _ (settle _).answer) = _
        rw [hfault]
        rfl
  cases op with
  | write bytes => exact hwrite bytes hcall
  | writeAll bytes => exact hwrite bytes hcall
  | flush => cases hcall
  | conclude => exact settle_of_failed hcall hf

/-! ### Poisoned writers -/

section Poisoned

variable {w : Writer c}

/-- The first delivery of a poisoned writer fails, before anything reaches the sink. -/
theorem settle_of_isPoisoned (h : w.encoder.engine.pump.isPoisoned = true) :
    w.settle = .quiet (.error (.stream .poisoned)) w := by
  have hbusy : w.encoder.needsInput = false := isIdle_of_isPoisoned (s := w.encoder) h
  have hdraw : w.encoder.draw w.bufferSize = .quiet (.error .poisoned) w.encoder := if_pos h
  rw [settle_of_busy (Bool.eq_false_iff.mp hbusy), deliver_eq, hdraw]
  rfl

/-- A writer from which nothing more comes: it makes no call and sends nothing to its sink, be it
written to, concluded, finished or abandoned. -/
structure Refuses (w : Writer c) : Prop where
  write : ∀ bytes, bytes ≠ [] → w.write bytes = .quiet (.error (.stream .poisoned)) w
  conclude :
    w.conclude = .quiet (.error (.stream .poisoned)) { w with encoder := w.encoder.close }
  abandon : w.abandon = ⟨(), w.sink, [.remark unfinished]⟩
  finish : w.finish = ⟨.error (.stream .poisoned), w.sink, [.remark unfinished]⟩

theorem conclude_of_isPoisoned (h : w.encoder.engine.pump.isPoisoned = true) :
    w.conclude = .quiet (.error (.stream .poisoned)) { w with encoder := w.encoder.close } :=
  settle_of_isPoisoned (w := { w with encoder := w.encoder.close }) h

theorem abandon_of_isPoisoned (h : w.encoder.engine.pump.isPoisoned = true) :
    w.abandon = ⟨(), w.sink, [.remark unfinished]⟩ := by
  rw [abandon, conclude_of_isPoisoned h]
  rfl

theorem Refuses.of_isPoisoned (h : w.encoder.engine.pump.isPoisoned = true) : w.Refuses where
  write bytes hne := by
    have hfeed : w.encoder.feedAll bytes = .error (poisonedFault "input" 0 bytes.length _) :=
      Coder.feed_of_isPoisoned (s := w.encoder) h bytes 0 bytes.length
    -- all of the bytes are within range, so it is the poison that is reported
    rw [poisonedFault, if_pos (Nat.le_of_eq (Nat.zero_add _))] at hfeed
    have hempty : ¬ bytes.isEmpty = true := fun hnil => hne (List.isEmpty_iff.mp hnil)
    rw [write_eq, if_neg hempty, hfeed]
  conclude := conclude_of_isPoisoned h
  abandon := abandon_of_isPoisoned h
  finish := by
    -- a writer that cannot finish is abandoned, which tries once more and comes as far
    have hagain : ({ w with encoder := w.encoder.close } : Writer c).abandon =
        ⟨(), w.sink, [.remark unfinished]⟩ :=
      abandon_of_isPoisoned (w := { w with encoder := w.encoder.close }) h
    rw [Writer.finish, conclude_of_isPoisoned h]
    dsimp only [Step.quiet]
    rw [hagain]
    rfl

/-- A poisoned writer stays so, and all that can happen is that its sink is flushed. -/
theorem perform_of_isPoisoned (h : w.encoder.engine.pump.isPoisoned = true) (op : Op) :
    (w.perform op).next.encoder.engine.pump.isPoisoned = true ∧
      ∀ event ∈ (w.perform op).events, ∃ answer, event = .flush answer := by
  have hrefuses := Refuses.of_isPoisoned h
  have hnone : ∀ event ∈ ([] : Trace), ∃ answer, event = .flush answer :=
    fun _ hevent => (List.not_mem_nil hevent).elim
  have hwrite : ∀ bytes, (w.write bytes).next.encoder.engine.pump.isPoisoned = true ∧
      ∀ event ∈ (w.write bytes).events, ∃ answer, event = .flush answer := by
    intro bytes
    by_cases hnil : bytes = []
    · rw [hnil]
      exact ⟨h, hnone⟩
    · rw [hrefuses.write bytes hnil]
      exact ⟨h, hnone⟩
  cases op with
  | write bytes => exact hwrite bytes
  | writeAll bytes => exact hwrite bytes
  | flush => exact ⟨h, fun event hevent => ⟨_, List.mem_singleton.mp hevent⟩⟩
  | conclude =>
    rw [show w.perform .conclude = w.conclude from rfl, hrefuses.conclude]
    exact ⟨h, hnone⟩

theorem run_of_isPoisoned (h : w.encoder.engine.pump.isPoisoned = true) (ops : List Op) :
    (w.run ops).next.encoder.engine.pump.isPoisoned = true ∧
      ∀ event ∈ (w.run ops).events, ∃ answer, event = .flush answer := by
  induction ops generalizing w with
  | nil => exact ⟨h, fun _ hevent => (List.not_mem_nil hevent).elim⟩
  | cons op ops ih =>
    obtain ⟨hstill, hevents⟩ := perform_of_isPoisoned h op
    obtain ⟨hend, hlater⟩ := ih hstill
    exact ⟨hend, List.forall_mem_append.mpr ⟨hevents, hlater⟩⟩

end Poisoned

/-- Over a willing sink, no call of the operations failed if the writer is not poisoned after
them. -/
theorem succeeds_of_usable {w : Writer c} (h : w.sink.Willing)
    (hidle : w.encoder.needsInput = true) {ops : List Op}
    (husable : (w.run ops).next.encoder.engine.pump.isPoisoned = false) :
    ∀ call ∈ (w.run ops).events.calls, call.failed = false := by
  induction ops generalizing w with
  | nil => exact fun _ hcall => (List.not_mem_nil hcall).elim
  | cons op ops ih =>
    obtain ⟨hrelays, hends⟩ := relays_perform h hidle op
    -- the induction needs the writer at rest after the first operation: were it poisoned then, it
    -- would still be so in the end
    have hrest : (w.perform op).next.encoder.needsInput = true := by
      rcases hends with ⟨-, hrest⟩ | hpoisoned
      · exact hrest
      · have hstill := (run_of_isPoisoned hpoisoned ops).1
        rw [show ((w.perform op).next.run ops).next.encoder.engine.pump.isPoisoned = false
          from husable] at hstill
        cases hstill
    rw [run, Step.events_after, Trace.calls_append, List.forall_mem_append]
    exact ⟨(hrelays.balances hidle).succeeded_of_idle hrest, ih hrelays.willing hrest husable⟩

/-- **Breakdown of a writer.** Take any transform in any state, any settings and buffer, and a sink
that takes bytes or is interrupted, however it is flushed. Take any operations on a writer over a
new encoder, and one more in which a block call fails. Then

1. this operation is answered with the fault of that call, as invalid data;
2. it is the last call so far, all before it succeeded, and the sink took exactly what these put
   out, in their order;
3. whatever the caller does from then on, short of a new stream, all that happens is that the sink
   is flushed: to write anything, and to conclude or finish the stream, fails as invalid data
   because the stream is poisoned, and neither that nor to abandon the writer makes a call or sends a
   byte to the sink. -/
theorem breakdown_run (c : BlockTransform σ) (state : σ) (settings : Settings) (sink : Sink)
    (hsink : ∀ acceptance ∈ sink.writes, acceptance.Willing) (bufferSize : Nat) (before : List Op)
    (op : Op) :
    let w := withBufferSize sink (Encoder.new c state settings) bufferSize
    let u := (w.run before).next
    let step := u.perform op
    let trace := (w.run before).events ++ step.events
    ∀ call ∈ step.events.calls, call.failed = true →
      (step.answer = .error (.stream call.fault) ∧
        (ChannelError.stream call.fault).kind = .invalidData) ∧
      (∃ earlier, trace.calls = earlier ++ [call] ∧
        (∀ call' ∈ earlier, call'.failed = false) ∧
        trace.accepted = earlier.flatMap BlockCall.output) ∧
      ∀ later : List Op,
        let v := (step.next.run later).next
        (∀ event ∈ (step.next.run later).events, ∃ answer, event = .flush answer) ∧
          v.Refuses ∧ (ChannelError.stream .poisoned).kind = .invalidData := by
  intro w u step trace call hcall hf
  -- what concerns the coder alone holds over every sink
  obtain ⟨⟨earlier, hcalls, hearlier⟩, hanswer, hpoisoned⟩ := perform_of_failed hcall hf
  refine ⟨⟨hanswer, rfl⟩, ?_, fun later => ?_⟩
  · -- a poisoned writer would have made no call
    have husable : u.encoder.engine.pump.isPoisoned = false := by
      by_contra hbroken
      obtain ⟨event, hevent, hblock⟩ := List.mem_filterMap.mp hcall
      obtain ⟨answer, rfl⟩ :=
        (perform_of_isPoisoned (Bool.not_eq_false _ ▸ hbroken) op).2 event hevent
      cases hblock
    -- over the calm sink, the writer is its encoder in other hands
    have hidle : w.calm.encoder.needsInput = true := rfl
    have hwilling : w.calm.sink.Willing := Sink.willing_calm hsink
    obtain ⟨hnext, hbefore, htaken⟩ := w.run_calm before
    have husableCalm : (w.calm.run before).next.encoder.engine.pump.isPoisoned = false := by
      rw [hnext]
      exact husable
    have hsucceeded := succeeds_of_usable hwilling hidle husableCalm
    obtain ⟨hrun, hrest⟩ := relays_run hwilling hidle hsucceeded
    obtain ⟨hperform, -⟩ := relays_perform hrun.willing hrest op
    have hbalances := (hrun.trans hperform).balances hidle
    obtain ⟨-, hnow, htakenNow⟩ := u.perform_calm op
    rw [hnext] at hbalances
    rw [Trace.calls_append, Trace.accepted_append, hbefore, htaken, hnow, htakenNow,
      ← Trace.calls_append, ← Trace.accepted_append] at hbalances
    have hall : trace.calls = ((w.run before).events.calls ++ earlier) ++ [call] := by
      rw [Trace.calls_append, hcalls, List.append_assoc]
    have hallEarlier : ∀ call' ∈ (w.run before).events.calls ++ earlier, call'.failed = false :=
      List.forall_mem_append.mpr ⟨hbefore ▸ hsucceeded, hearlier⟩
    exact ⟨_, hall, hallEarlier, hbalances.returned_of_breaks hall hallEarlier hf⟩
  · obtain ⟨hend, hevents⟩ := run_of_isPoisoned hpoisoned later
    exact ⟨hevents, .of_isPoisoned hend, rfl⟩

/-- A byte at a time into a sink that is interrupted and fails to flush, and then a write of three
blocks of which the second is shunned. -/
theorem breakdown_run_shunning :
    let interrupted : Failure := ⟨.interrupted, "try again"⟩
    let sink : Sink := ⟨[.upTo 1, .refuse interrupted], [some ⟨.brokenPipe, "closed"⟩]⟩
    let w := withBufferSize sink (Encoder.new (.shunning 0) () ⟨2, by decide, by decide⟩) 1
    let before : List Op := [.write [1, 2, 3], .flush]
    let step := (w.run before).next.perform (.write [4, 5, 0, 7, 8])
    (∀ acceptance ∈ sink.writes, acceptance.Willing) ∧
      step.answer = .error (.stream (.blockFailed "shunning" .encode 2 0 2)) ∧
      ((w.run before).events ++ step.events).accepted = [1, 2, 3, 4, 5] ∧
      (step.next.run [.write [9], .conclude]).next.Refuses := by
  intro interrupted sink w before step
  have hsink : ∀ acceptance ∈ sink.writes, acceptance.Willing := by
    simp [sink, interrupted, Acceptance.Willing]
  have hcalls : step.events.calls =
      [⟨"shunning", .encode, [4, 5], 2, 2, [4, 5]⟩, ⟨"shunning", .encode, [0, 7], 2, 0, []⟩] := by
    simp only [step, w, before, sink, interrupted]
    cbv
  have hearlier : (w.run before).events.calls =
      [⟨"shunning", .encode, [1, 2], 2, 2, [1, 2]⟩, ⟨"shunning", .encode, [3], 2, 1, [3]⟩] := by
    simp only [w, before, sink, interrupted]
    cbv
  obtain ⟨⟨hanswer, -⟩, ⟨earlier, hall, -, haccepted⟩, hafter⟩ :=
    breakdown_run (.shunning 0) () ⟨2, by decide, by decide⟩ sink hsink 1 before
      (.write [4, 5, 0, 7, 8]) ⟨"shunning", .encode, [0, 7], 2, 0, []⟩
      (by rw [show Trace.calls _ = _ from hcalls]; simp) rfl
  refine ⟨hsink, hanswer, ?_, (hafter [.write [9], .conclude]).2.1⟩
  rw [Trace.calls_append, show Trace.calls _ = _ from hearlier, show Trace.calls _ = _ from hcalls]
    at hall
  have houtputs := congrArg (List.flatMap BlockCall.output) (congrArg List.dropLast hall)
  rw [List.dropLast_concat] at houtputs
  rw [haccepted, ← houtputs]
  rfl

end Writer

/-! ## Readers -/

namespace Reader

/-- A call that fails while a reader draws is the only one, and its fault is the answer. -/
theorem Drawn.of_failed {r r' : Reader c} {length : Nat} {answer : Except ChannelError Bytes}
    {events : Trace} (h : r.Drawn length answer r' events) {call : BlockCall}
    (hcall : call ∈ events.calls) (hf : call.failed = true) :
    r.decoder.engine.pump.isPoisoned = false ∧ events.calls = [call] ∧
      answer = .error (.stream call.fault) ∧ r'.decoder.engine.pump.isPoisoned = true := by
  cases h with
  | busy hbusy =>
    obtain ⟨husable, hcalls, hanswer, hpoisoned⟩ := (r.decoder.drawn length).of_failed hcall hf
    exact ⟨husable, hcalls, by rw [hanswer]; rfl, hpoisoned⟩
  | ended hidle hend => cases hcall
  -- a source makes no calls
  | refused hidle hopen hgot =>
    rw [calls_got] at hcall
    cases hcall
  | exhausted hidle hopen hgot =>
    rw [calls_got] at hcall
    cases hcall
  | @served hidle hopen b bytes hgot decoder hfeed =>
    rw [Trace.calls_append, calls_got, List.nil_append] at hcall ⊢
    obtain ⟨-, hcalls, hanswer, hpoisoned⟩ := (decoder.drawn length).of_failed hcall hf
    exact ⟨Engine.isPoisoned_of_isIdle hidle, hcalls, by rw [hanswer]; rfl, hpoisoned⟩

/-- A read that fails leaves the caller's buffer as it was. -/
theorem readInto_of_draw_eq_error {r : Reader c} {out : Bytes} (hne : out ≠ [])
    {error : ChannelError} (h : (r.draw out.length).answer = .error error) :
    r.readInto out = ⟨.error error, ((r.draw out.length).next, out), (r.draw out.length).events⟩ := by
  have hlength : out.length ≠ 0 := fun hzero => hne (List.length_eq_zero_iff.mp hzero)
  rw [readInto, read, if_neg hlength]
  simp only [h]

theorem readInto_of_isPoisoned {r : Reader c} (h : r.decoder.engine.pump.isPoisoned = true)
    {out : Bytes} (hne : out ≠ []) :
    r.readInto out = .quiet (.error (.stream .poisoned)) (r, out) := by
  have hbusy : r.decoder.needsInput = false := isIdle_of_isPoisoned (s := r.decoder) h
  have hdecoder : r.decoder.draw out.length = .quiet (.error .poisoned) r.decoder := if_pos h
  have hdraw : r.draw out.length = .quiet (.error (.stream .poisoned)) r := by
    rw [draw_of_busy (List.length_pos_iff.mpr hne) hbusy, hdecoder]
    rfl
  rw [readInto_of_draw_eq_error hne (by rw [hdraw]; rfl), hdraw]
  rfl

namespace Course

/-- Reads from a poisoned reader leave the course of the stream where it is. -/
theorem obeyAll_of_isPoisoned {s : Course c} (h : s.reader.decoder.engine.pump.isPoisoned = true)
    (outs : List Bytes) : s.obeyAll (outs.map .read) = s := by
  refine obeyAll_induction (P := (· = s)) rfl ?_
  rintro _ request hmem rfl
  obtain ⟨out, -, rfl⟩ := List.mem_map.mp hmem
  by_cases hnil : out = []
  · simp [hnil, obey, readInto_nil, Step.quiet, received]
  · simp [obey, readInto_of_isPoisoned h hnil, Step.quiet, received]

end Course

/-- **Breakdown of a reader.** Take any transform in any state, any settings, source and buffer, and
any history of reads and resets of a reader over a new decoder. If a block call fails in the next
read, then

1. it is the only call of this read, which is answered with its fault, as invalid data, and leaves
   the caller's buffer untouched;
2. all calls of the stream before it succeeded, and what the reads before have brought is exactly
   what these put out, in their order;
3. until the next reset the reader stays as it is, whatever reads are made: each one that is asked
   for something fails as invalid data because the stream is poisoned. It leaves the caller's buffer
   untouched, makes no call and does not ask the source. -/
theorem breakdown_obeyAll (c : BlockTransform σ) (state : σ) (settings : Settings)
    (source : Source) (bufferSize : Nat) (history : List Request) (out : Bytes) :
    let s := (Course.start (withBufferSize source (Decoder.new c state settings)
      bufferSize)).obeyAll history
    let step := s.reader.readInto out
    ∀ call ∈ step.events.calls, call.failed = true →
      (step.events.calls = [call] ∧ step.answer = .error (.stream call.fault) ∧
        (ChannelError.stream call.fault).kind = .invalidData ∧ step.next.2 = out) ∧
      ((∀ call' ∈ s.trace.calls, call'.failed = false) ∧
        s.brought = s.trace.calls.flatMap BlockCall.output) ∧
      ∀ outs : List Bytes,
        let t := (s.obey (.read out)).obeyAll (outs.map .read)
        t = s.obey (.read out) ∧
          (∀ later, later ≠ [] →
            t.reader.readInto later = .quiet (.error (.stream .poisoned)) (t.reader, later)) ∧
          (ChannelError.stream .poisoned).kind = .invalidData := by
  intro s step call hcall hf
  have hsound : s.Sound _ := Course.sound_new c state settings source bufferSize history
  -- a read into an empty buffer makes no call
  have hne : out ≠ [] := by
    rintro rfl
    cases hcall
  obtain ⟨-, hevents, -, -⟩ := s.reader.readInto_of_ne_nil hne
  have hdrawn := s.reader.drawn (List.length_pos_iff.mpr hne)
  obtain ⟨husable, hcalls, hanswer, hpoisoned⟩ := hdrawn.of_failed (hevents ▸ hcall) hf
  have hstep : step = ⟨.error (.stream call.fault), ((s.reader.draw out.length).next, out),
      (s.reader.draw out.length).events⟩ := readInto_of_draw_eq_error hne hanswer
  -- the calls up to this one, and what was brought until then
  obtain ⟨origin, hidle, hrelays⟩ := hsound.relays
  have hsucceeded : ∀ call' ∈ s.trace.calls, call'.failed = false :=
    (hrelays.passes.balances hidle).succeeded husable
  have hbalances := ((hrelays.trans (s.reader.relays_readInto out)).passes.balances hidle)
  have hall : (s.trace ++ step.events).calls = s.trace.calls ++ [call] := by
    rw [Trace.calls_append, hstep, hcalls]
  have hbrought : s.brought ++ received step = s.trace.calls.flatMap BlockCall.output :=
    hbalances.returned_of_breaks hall hsucceeded hf
  have hnothing : received step = [] := by
    rw [hstep]
    rfl
  rw [hnothing, List.append_nil] at hbrought
  have hlast : (s.obey (.read out)).reader.decoder.engine.pump.isPoisoned = true := by
    show step.next.1.decoder.engine.pump.isPoisoned = true
    rw [hstep]
    exact hpoisoned
  refine ⟨⟨by rw [hstep]; exact hcalls, by rw [hstep], rfl, by rw [hstep]⟩,
    ⟨hsucceeded, hbrought⟩, fun outs => ?_⟩
  intro t
  have hfrozen : t = s.obey (.read out) := Course.obeyAll_of_isPoisoned hlast outs
  refine ⟨hfrozen, fun later hlater => ?_, rfl⟩
  rw [hfrozen]
  exact readInto_of_isPoisoned hlast hlater

/-- Three blocks, read with interruptions a byte or two at a time, and then one that is shunned, with
more behind it. -/
theorem breakdown_obeyAll_shunning :
    let source : Source := .ofSupplies
      [.data [1, 2, 3], .refuse ⟨.interrupted, "try again"⟩, .data [4, 5, 0, 7], .data [8]]
    let start := Course.start
      (withBufferSize source (Decoder.new (.shunning 0) () ⟨2, by decide, by decide⟩) 4)
    let s := start.obeyAll [.read [0], .read [0, 0], .read [0, 0], .read [], .read [0, 0]]
    let step := s.reader.readInto [9, 9]
    s.brought = [1, 2, 3, 4, 5] ∧
      step.answer = .error (.stream (.blockFailed "shunning" .decode 2 3 2)) ∧
      step.next.2 = [9, 9] ∧
      (s.obey (.read [9, 9])).obeyAll [.read [0], .read [0, 0]] = s.obey (.read [9, 9]) := by
  intro source start s step
  have hcalls : step.events.calls = [⟨"shunning", .decode, [0, 7], 2, 3, [0, 7]⟩] := by
    simp only [step, s, start, source]
    cbv
  have houtputs : s.trace.calls.flatMap BlockCall.output = [1, 2, 3, 4, 5] := by
    simp only [s, start, source]
    cbv
  obtain ⟨⟨-, hanswer, -, hbuffer⟩, ⟨-, hbrought⟩, hafter⟩ :=
    breakdown_obeyAll (.shunning 0) () ⟨2, by decide, by decide⟩ source 4
      [.read [0], .read [0, 0], .read [0, 0], .read [], .read [0, 0]] [9, 9]
      ⟨"shunning", .decode, [0, 7], 2, 3, [0, 7]⟩
      (by rw [show Trace.calls _ = _ from hcalls]; simp) rfl
  exact ⟨hbrought.trans houtputs, hanswer, hbuffer, (hafter [[0], [0, 0]]).1⟩

end Reader

end Blockwise
