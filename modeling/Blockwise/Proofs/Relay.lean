import Mathlib
import Blockwise.Proofs.Delivery
import Blockwise.Proofs.Passage
import Blockwise.Proofs.RoundTrip

/-!
# Relay — a writer over a sink that takes everything in the end

A sink is willing if every write brings it forward: it takes at least one byte, or is interrupted
and asked again; and if it never fails a flush. Over such a sink nothing that a writer drew is ever
given up, so the writer is its encoder in other hands: what was written to it are the inputs of a
session, and what the sink took are the bytes that the session handed out (`Writer.Relays`).

A delivery fails only if a block call does. As long as none does, each write finds the encoder idle
and leaves it idle, and nothing is left to do at the end of the stream. This holds of a closed
encoder as well: a writer draws only while something waits or is owed, so the call on an empty block
that a closed encoder would make is never made.

## Results

* `Sink.Willing.writeAll` — a willing sink takes all that it is handed.
* `Writer.relays_settle`, `Writer.settle_ends` — delivering is a run of a session, and ends with an
  idle encoder or a poisoned one.
* `Writer.run_delivers_encoding` — what a willing sink gets from a writer whose block calls succeed.
-/

namespace Blockwise

universe u

variable {σ : Type u} {c : BlockTransform σ}

/-! ## Willing sinks -/

/-- The answer brings a write forward: some bytes are taken, or the write is to be tried again. -/
def Acceptance.Willing : Acceptance → Prop
  | all => True
  | upTo count => 0 < count
  | refuse failure => failure.kind = .interrupted

theorem Acceptance.Willing.pos_of_answer_eq_ok {acceptance : Acceptance}
    (h : acceptance.Willing) {offered count : Nat} (hoffered : 0 < offered)
    (hok : acceptance.answer offered = .ok count) : 0 < count := by
  cases acceptance with
  | all =>
    cases hok
    exact hoffered
  | upTo least =>
    cases hok
    have hleast : 0 < least := h
    omega
  | refuse failure => cases hok

theorem Acceptance.Willing.kind_of_answer_eq_error {acceptance : Acceptance}
    (h : acceptance.Willing) {offered : Nat} {failure : Failure}
    (herror : acceptance.answer offered = .error failure) : failure.kind = .interrupted := by
  cases acceptance with
  | all => cases herror
  | upTo least => cases herror
  | refuse refused =>
    cases herror
    exact h

/-- Every write brings the sink forward, and every flush succeeds. -/
structure Sink.Willing (sink : Sink) : Prop where
  writes : ∀ acceptance ∈ sink.writes, acceptance.Willing
  flushes : ∀ failure? ∈ sink.flushes, failure? = none

namespace Sink.Willing

variable {sink : Sink}

theorem head (h : sink.Willing) : (sink.writes.headD .all).Willing := by
  cases hwrites : sink.writes with
  | nil => trivial
  | cons acceptance later =>
    refine h.writes acceptance ?_
    rw [hwrites]
    exact List.mem_cons_self ..

theorem write (h : sink.Willing) (bytes : Bytes) : (sink.write bytes).next.Willing where
  writes acceptance hmem := h.writes acceptance (List.mem_of_mem_tail hmem)
  flushes := h.flushes

theorem pos_of_write_eq_ok (h : sink.Willing) {bytes : Bytes} (hne : bytes ≠ []) {count : Nat}
    (hok : (sink.write bytes).answer = .ok count) : 0 < count :=
  h.head.pos_of_answer_eq_ok (List.length_pos_iff.mpr hne) hok

theorem kind_of_write_eq_error (h : sink.Willing) {bytes : Bytes} {failure : Failure}
    (herror : (sink.write bytes).answer = .error failure) : failure.kind = .interrupted :=
  h.head.kind_of_answer_eq_error herror

/-- A willing sink takes all that it is handed, and stays willing. -/
theorem writeAll (h : sink.Willing) (bytes : Bytes) :
    (sink.writeAll bytes).answer = .ok () ∧ (sink.writeAll bytes).next.Willing ∧
      (sink.writeAll bytes).events.accepted = bytes ∧
      (sink.writeAll bytes).events.calls = [] := by
  -- what one write adds to the trace is known from its answer
  have hevents : ∀ (sink : Sink) (bytes : Bytes),
      (sink.write bytes).events = [.write bytes (sink.write bytes).answer] := fun _ _ => rfl
  fun_induction Sink.writeAll sink bytes with
  | case1 sink bytes hempty =>
    rw [List.isEmpty_iff.mp hempty]
    exact ⟨rfl, h, rfl, rfl⟩
  | case2 sink bytes hne step hanswer =>
    exact absurd (h.pos_of_write_eq_ok (by simpa using hne) hanswer) (Nat.lt_irrefl 0)
  | case3 sink bytes hne step count hanswer ih =>
    -- the sink took some bytes, and is handed the rest
    obtain ⟨hok, hwilling, haccepted, hcalls⟩ := ih (h.write bytes)
    refine ⟨hok, hwilling, ?_, ?_⟩
    · rw [Step.events_after, Trace.accepted_append, haccepted, hevents, hanswer]
      simp [Trace.accepted, Event.accepted]
    · rw [Step.events_after, Trace.calls_append, hcalls, hevents]
      rfl
  | case4 sink bytes hne step failure hanswer hkind ih =>
    -- it was interrupted and took nothing, and is handed the same bytes again
    obtain ⟨hok, hwilling, haccepted, hcalls⟩ := ih (h.write bytes)
    refine ⟨hok, hwilling, ?_, ?_⟩
    · rw [Step.events_after, Trace.accepted_append, haccepted, hevents, hanswer]
      rfl
    · rw [Step.events_after, Trace.calls_append, hcalls, hevents]
      rfl
  | case5 sink bytes hne step failure hanswer hkind =>
    exact absurd (h.kind_of_write_eq_error hanswer) hkind

theorem flush (h : sink.Willing) :
    sink.flush.answer = .ok () ∧ sink.flush.next.Willing ∧
      sink.flush.events = [.flush (.ok ())] := by
  have hanswer : sink.flush.answer = .ok () := by
    unfold Sink.flush
    split
    · rename_i failure later hflushes
      have hnone := h.flushes (some failure) (by rw [hflushes]; exact List.mem_cons_self ..)
      cases hnone
    · rfl
  have hevents : sink.flush.events = [.flush sink.flush.answer] := rfl
  refine ⟨hanswer, ⟨h.writes, ?_⟩, ?_⟩
  · intro failure? hmem
    exact h.flushes failure? (List.mem_of_mem_tail hmem)
  · rw [hevents, hanswer]

end Sink.Willing

/-! ## Deliveries to a willing sink -/

/-- A draw hands nothing to a sink. -/
theorem Engine.Drawn.accepted_eq_nil {d : Direction} {e e' : Engine c d} {length : Nat}
    {answer : Except Fault Bytes} {events : Trace} (h : e.Drawn length answer e' events) :
    events.accepted = [] := by
  refine List.flatMap_eq_nil_iff.mpr fun event hevent => ?_
  rcases h.block_or_remark hevent with ⟨_, rfl⟩ | ⟨_, rfl⟩ <;> rfl

namespace Writer

/-- The writer becomes another one over a willing sink. With the inputs fed to the encoder, and with
the bytes that the sink took as those handed out, that is a passage of the encoder; and no block is
empty. -/
structure Relays (w : Writer c) (inputs : List Bytes) (trace : Trace) (w' : Writer c) : Prop where
  willing : w'.sink.Willing
  passes : Session.Passes w.encoder ⟨inputs, trace.calls, trace.accepted⟩ w'.encoder
  source_ne_nil : ∀ call ∈ trace.calls, call.source ≠ []

namespace Relays

variable {w w' w'' : Writer c} {inputs inputs' : List Bytes} {trace later : Trace}

theorem refl (h : w.sink.Willing) : w.Relays [] [] w :=
  ⟨h, .refl w.encoder, fun _ hcall => by cases hcall⟩

theorem trans (h : w.Relays inputs trace w') (hlater : w'.Relays inputs' later w'') :
    w.Relays (inputs ++ inputs') (trace ++ later) w'' := by
  refine ⟨hlater.willing, ?_, ?_⟩
  · rw [Trace.calls_append, Trace.accepted_append]
    exact h.passes.trans hlater.passes
  · rw [Trace.calls_append, List.forall_mem_append]
    exact ⟨h.source_ne_nil, hlater.source_ne_nil⟩

theorem balances (h : w.Relays inputs trace w') (hidle : w.encoder.needsInput = true) :
    Ledger.Balances ⟨inputs, trace.calls, trace.accepted⟩ w.encoder.engine w'.encoder.engine :=
  h.passes.balances hidle

/-- A poisoned encoder has made a call that failed. -/
theorem usable (h : w.Relays inputs trace w') (hidle : w.encoder.needsInput = true)
    (hcalls : ∀ call ∈ trace.calls, call.failed = false) :
    ¬ w'.encoder.engine.pump.isPoisoned = true :=
  Bool.eq_false_iff.mp ((h.balances hidle).usable hcalls)

end Relays

theorem relays_deliver {w : Writer c} (h : w.sink.Willing)
    (hbusy : w.encoder.needsInput = false) : w.Relays [] w.deliver.events w.deliver.next := by
  have hdrawn := (w.encoder.drawn w.bufferSize).engine
  have hpasses : Session.Passes w.encoder _ (w.encoder.draw w.bufferSize).next :=
    Session.Passes.draw w.encoder w.bufferSize
  have hsources := hdrawn.source_ne_nil_of_busy hbusy
  rw [deliver_eq]
  cases hanswer : (w.encoder.draw w.bufferSize).answer with
  | error fault =>
    -- nothing came, and the sink is left alone
    refine ⟨h, ?_, hsources⟩
    rw [hdrawn.accepted_eq_nil]
    simpa [Coder.draw, hanswer, Engine.drawnBytes] using hpasses
  | ok bytes =>
    -- all that came goes to the sink
    obtain ⟨-, hwilling, haccepted, hcalls⟩ := h.writeAll bytes
    refine ⟨hwilling, ?_, ?_⟩
    · rw [Trace.accepted_append, hdrawn.accepted_eq_nil, haccepted, Trace.calls_append, hcalls]
      simpa [Coder.draw, hanswer, Engine.drawnBytes] using hpasses
    · rw [Trace.calls_append, hcalls, List.append_nil]
      exact hsources

/-- A delivery to a willing sink fails only with a fault of the encoder, which is poisoned then. -/
theorem isPoisoned_of_deliver_eq_error {w : Writer c} (h : w.sink.Willing) {error : ChannelError}
    (herror : w.deliver.answer = .error error) :
    w.deliver.next.encoder.engine.pump.isPoisoned = true := by
  have hdrawn := (w.encoder.drawn w.bufferSize).engine
  rw [deliver_eq] at herror ⊢
  cases hanswer : (w.encoder.draw w.bufferSize).answer with
  | error fault =>
    rw [hanswer] at hdrawn
    exact hdrawn.isPoisoned_of_error
  | ok bytes =>
    simp [hanswer, (h.writeAll bytes).1, Except.mapError] at herror

theorem relays_settle {w : Writer c} (h : w.sink.Willing) :
    w.Relays [] w.settle.events w.settle.next := by
  fun_induction settle w with
  | case1 w hn => exact .refl h
  | case2 w hn step error hanswer => exact relays_deliver h (Bool.eq_false_iff.mpr hn)
  | case3 w hn step hanswer ih =>
    have hfirst : w.Relays [] w.deliver.events w.deliver.next :=
      relays_deliver h (Bool.eq_false_iff.mpr hn)
    exact hfirst.trans (ih hfirst.willing)

/-- Delivering to a willing sink succeeds and leaves the encoder idle, or leaves it poisoned. -/
theorem settle_ends {w : Writer c} (h : w.sink.Willing) :
    (w.settle.answer = .ok () ∧ w.settle.next.encoder.needsInput = true) ∨
      w.settle.next.encoder.engine.pump.isPoisoned = true := by
  fun_induction settle w with
  | case1 w hn => exact .inl ⟨rfl, hn⟩
  | case2 w hn step error hanswer => exact .inr (isPoisoned_of_deliver_eq_error h hanswer)
  | case3 w hn step hanswer ih => exact ih (relays_deliver h (Bool.eq_false_iff.mpr hn)).willing

/-! ## Operations over a willing sink -/

/-- What an operation feeds to the encoder: the argument of a write, unless that is empty. -/
def Op.fed : Op → List Bytes
  | .write bytes | .writeAll bytes => if bytes.isEmpty then [] else [bytes]
  | .flush | .conclude => []

/-- A write to a writer at rest is one input, fed once and delivered. -/
theorem relays_write {w : Writer c} (h : w.sink.Willing) (hidle : w.encoder.needsInput = true)
    (bytes : Bytes) :
    w.Relays (Op.write bytes).fed (w.write bytes).events (w.write bytes).next ∧
      (((w.write bytes).answer = .ok bytes.length ∧
          (w.write bytes).next.encoder.needsInput = true) ∨
        (w.write bytes).next.encoder.engine.pump.isPoisoned = true) := by
  rw [write_eq]
  by_cases hempty : bytes.isEmpty = true
  · rw [if_pos hempty, Op.fed, if_pos hempty, List.isEmpty_iff.mp hempty]
    exact ⟨.refl h, .inl ⟨rfl, hidle⟩⟩
  · obtain ⟨encoder, hfeed⟩ : ∃ encoder, w.encoder.feedAll bytes = .ok encoder :=
      Coder.exists_feed_eq_ok (s := w.encoder) (by omega) (Engine.isPoisoned_of_isIdle hidle)
        (Engine.isIdle_iff.mp hidle).2
    have hfed : w.Relays [bytes] [] { w with encoder } :=
      ⟨h, .feed hfeed, fun _ hcall => by cases hcall⟩
    have hsettle : Relays { w with encoder } [] _ _ := relays_settle h
    rw [if_neg hempty, Op.fed, if_neg hempty, hfeed]
    refine ⟨hfed.trans hsettle, ?_⟩
    rcases settle_ends (w := { w with encoder }) h with ⟨hok, hrest⟩ | hpoisoned
    · refine .inl ⟨?_, hrest⟩
      show Except.map _ _ = _
      rw [hok]
      rfl
    · exact .inr hpoisoned

theorem conclude_of_idle {w : Writer c} (hidle : w.encoder.needsInput = true) :
    w.conclude = .quiet (.ok ()) { w with encoder := w.encoder.close } := by
  have hclosed : w.encoder.close.needsInput = true := hidle
  unfold conclude settle
  rw [dif_pos hclosed]

/-- An operation on a writer at rest relays its argument. It succeeds and leaves the writer at rest,
or it leaves the encoder poisoned. -/
theorem relays_perform {w : Writer c} (h : w.sink.Willing) (hidle : w.encoder.needsInput = true)
    (op : Op) :
    w.Relays op.fed (w.perform op).events (w.perform op).next ∧
      (((w.perform op).answer = .ok () ∧ (w.perform op).next.encoder.needsInput = true) ∨
        (w.perform op).next.encoder.engine.pump.isPoisoned = true) := by
  -- both ways of writing are a write, with the count left out of the answer
  have hwrite : ∀ bytes,
      w.Relays (Op.write bytes).fed (w.write bytes).events (w.write bytes).next ∧
        (((w.write bytes).answer.map (fun _ => ()) = .ok () ∧
            (w.write bytes).next.encoder.needsInput = true) ∨
          (w.write bytes).next.encoder.engine.pump.isPoisoned = true) := by
    intro bytes
    obtain ⟨hrelays, hends⟩ := relays_write h hidle bytes
    refine ⟨hrelays, hends.imp_left fun ⟨hok, hrest⟩ => ⟨?_, hrest⟩⟩
    rw [hok]
    rfl
  cases op with
  | write bytes => exact hwrite bytes
  | writeAll bytes => exact hwrite bytes
  | flush =>
    obtain ⟨hok, hwilling, hevents⟩ := h.flush
    refine ⟨⟨hwilling, ?_, ?_⟩, .inl ⟨?_, hidle⟩⟩
    · show Session.Passes w.encoder
        ⟨[], w.sink.flush.events.calls, w.sink.flush.events.accepted⟩ w.encoder
      rw [hevents]
      exact .refl w.encoder
    · show ∀ call ∈ w.sink.flush.events.calls, call.source ≠ []
      rw [hevents]
      exact fun _ hcall => by cases hcall
    · show w.sink.flush.answer.mapError _ = _
      rw [hok]
      rfl
  | conclude =>
    show w.Relays [] w.conclude.events w.conclude.next ∧ _
    rw [show w.perform .conclude = w.conclude from rfl, conclude_of_idle hidle]
    exact ⟨⟨h, .close w.encoder, fun _ hcall => by cases hcall⟩, .inl ⟨rfl, hidle⟩⟩

/-- As long as no call fails, an operation on a writer at rest succeeds and leaves it at rest. -/
theorem perform_succeeds {w : Writer c} (h : w.sink.Willing) (hidle : w.encoder.needsInput = true)
    {op : Op} (hcalls : ∀ call ∈ (w.perform op).events.calls, call.failed = false) :
    (w.perform op).answer = .ok () ∧ (w.perform op).next.encoder.needsInput = true := by
  obtain ⟨hrelays, hends⟩ := relays_perform h hidle op
  exact hends.resolve_right (hrelays.usable hidle hcalls)

theorem run_append (w : Writer c) (ops later : List Op) :
    w.run (ops ++ later) = ((w.run ops).next.run later).after (w.run ops).events := by
  induction ops generalizing w with
  | nil => rfl
  | cons op ops ih =>
    rw [List.cons_append, run, ih, run]
    simp [Step.after, List.append_assoc]

theorem relays_run {w : Writer c} (h : w.sink.Willing) (hidle : w.encoder.needsInput = true)
    {ops : List Op} (hcalls : ∀ call ∈ (w.run ops).events.calls, call.failed = false) :
    w.Relays (ops.flatMap Op.fed) (w.run ops).events (w.run ops).next ∧
      (w.run ops).next.encoder.needsInput = true := by
  induction ops generalizing w with
  | nil => exact ⟨.refl h, hidle⟩
  | cons op ops ih =>
    rw [run, Step.events_after, Trace.calls_append, List.forall_mem_append] at hcalls
    obtain ⟨hnow, hthen⟩ := hcalls
    obtain ⟨hfirst, -⟩ := relays_perform h hidle op
    obtain ⟨-, hrest⟩ := perform_succeeds h hidle hnow
    obtain ⟨hlater, hend⟩ := ih hfirst.willing hrest hthen
    exact ⟨hfirst.trans hlater, hend⟩

/-- The end of a writer at rest over a willing sink: nothing is delivered any more, and a writer that
is finished flushes the sink once. -/
theorem part_of_idle {w : Writer c} (h : w.sink.Willing) (hidle : w.encoder.needsInput = true) :
    (w.conclude.answer = .ok () ∧ w.part .abandon = []) ∧
      w.finish.answer = .ok () ∧ w.part .finish = [.flush (.ok ())] := by
  obtain ⟨hok, -, hevents⟩ := h.flush
  have hconclude := conclude_of_idle hidle
  refine ⟨⟨?_, ?_⟩, ?_, ?_⟩
  · rw [hconclude]
    rfl
  · simp [part, abandon, hconclude, Step.quiet]
  · simp [finish, hconclude, Step.quiet, hok, Except.mapError]
  · simp [part, finish, hconclude, Step.quiet, hevents]

/-- **A willing sink gets the encoding.** Take any transform, settings and buffer, a willing sink,
and any operations on a writer over a new encoder. As long as no block call fails,

1. the arguments that are not empty are the inputs of the encoder, each fed once and in order: what
   becomes of the encoder is what a session makes of it that accepts just these, makes the same
   calls and hands out what the sink took;
2. every operation succeeds and leaves the encoder in need of input, and a write answers that it
   consumed all of its argument;
3. there is one call on each chunk of each argument, and none on an empty block;
4. the sink took what these calls put out, in their order, and no more;
5. from then on, to conclude the stream or to abandon the writer does nothing at all, and to finish
   it flushes the sink once. -/
theorem run_delivers_encoding (c : BlockTransform σ) (state : σ) (settings : Settings)
    (sink : Sink) (hsink : sink.Willing) (bufferSize : Nat) (ops : List Op) :
    let chunk := settings.chunkSize
    let room := max (c.bound state chunk) chunk
    let w := withBufferSize sink (Encoder.new c state settings) bufferSize
    let ran := w.run ops
    let arguments := ops.flatMap Op.fed
    (∀ call ∈ ran.events.calls, call.failed = false) →
      (∃ taken, (Session.start (Encoder.new c state settings)).run taken =
        { inputs := arguments, calls := ran.events.calls, returned := ran.events.accepted,
          coder := ran.next.encoder }) ∧
      (∀ before op after, ops = before ++ op :: after →
        let v := (w.run before).next
        (v.perform op).answer = .ok () ∧ (v.perform op).next.encoder.needsInput = true ∧
          ∀ bytes, op = .write bytes → (v.write bytes).answer = .ok bytes.length) ∧
      (ran.events.calls =
          c.callsOn .encode (state, .zeroed room) (arguments.flatMap (pieces chunk)) ∧
        ∀ call ∈ ran.events.calls, call.source ≠ []) ∧
      ran.events.accepted = ran.events.calls.flatMap BlockCall.output ∧
      (ran.next.conclude.answer = .ok () ∧ ran.next.conclude.events = []) ∧
      ran.next.part .abandon = [] ∧
      ran.next.finish.answer = .ok () ∧ ran.next.part .finish = [.flush (.ok ())] := by
  intro chunk room w ran arguments hcalls
  have hidle : w.encoder.needsInput = true := rfl
  obtain ⟨hrelays, hrest⟩ := relays_run (w := w) hsink hidle hcalls
  have hbalances := hrelays.balances hidle
  obtain ⟨⟨hconclude, habandon⟩, hfinish, hflush⟩ := part_of_idle hrelays.willing hrest
  refine ⟨hrelays.passes.exists_run, ?_, ⟨?_, hrelays.source_ne_nil⟩,
    hbalances.returned_of_idle hrest, ⟨hconclude, ?_⟩, habandon, hfinish, hflush⟩
  · intro before op after hops v
    -- the calls before the operation and those of the operation are among all the calls
    have hsplit : ran.events.calls = (w.run before).events.calls ++
        ((v.perform op).events.calls ++ ((v.perform op).next.run after).events.calls) := by
      show (w.run ops).events.calls = _
      rw [hops, run_append, run]
      simp [v]
    have hsucceeded := hcalls
    rw [hsplit, List.forall_mem_append, List.forall_mem_append] at hsucceeded
    obtain ⟨hbefore, hop, -⟩ := hsucceeded
    obtain ⟨hearlier, hrested⟩ := relays_run (w := w) hsink hidle hbefore
    obtain ⟨hok, hrested'⟩ := perform_succeeds hearlier.willing hrested hop
    refine ⟨hok, hrested', ?_⟩
    rintro bytes rfl
    -- an operation that writes answers as the write does, with the count left out
    obtain ⟨hwrite, hends⟩ := relays_write hearlier.willing hrested bytes
    exact (hends.resolve_right (hwrite.usable hrested hop)).1
  · have hsources := hbalances.sources_of_idle hrest hrelays.source_ne_nil
    have hall := hbalances.calls
    rw [hsources] at hall
    exact hall
  · rw [conclude_of_idle hrest]
    rfl

/-- Two marked chunks, nothing, and one more after the stream was concluded, a byte at a time into a
sink that is interrupted. -/
theorem run_delivers_marked :
    let sink : Sink := ⟨[.upTo 1, .refuse ⟨.interrupted, "try again"⟩], [none]⟩
    let w := withBufferSize sink (Encoder.new (.marked 42) () ⟨4, by decide, by decide⟩) 0
    let ran := w.run [.write [1, 2, 3, 4, 5], .conclude, .writeAll [], .flush, .write [6]]
    sink.Willing ∧ (∀ call ∈ ran.events.calls, call.failed = false) ∧
      ran.events.accepted = [42, 1, 2, 3, 4, 42, 5, 42, 6] ∧
      ran.next.part .finish = [.flush (.ok ())] := by
  intro sink w ran
  have hsink : sink.Willing := by
    constructor
    · simp [sink, Acceptance.Willing]
    · simp [sink]
  have hcalls : ∀ call ∈ ran.events.calls, call.failed = false := by
    have hfailed : ran.events.calls.map BlockCall.failed = [false, false, false] := by
      simp only [ran, w, sink]
      cbv
    intro call hcall
    have hmem := List.mem_map_of_mem (f := BlockCall.failed) hcall
    rw [hfailed] at hmem
    simpa using hmem
  obtain ⟨-, -, ⟨hcall, -⟩, haccepted, -, -, -, hflush⟩ :=
    run_delivers_encoding (.marked 42) () ⟨4, by decide, by decide⟩ sink hsink 0
      [.write [1, 2, 3, 4, 5], .conclude, .writeAll [], .flush, .write [6]] hcalls
  refine ⟨hsink, hcalls, ?_, hflush⟩
  rw [show ran.events.accepted = _ from haccepted, hcall]
  cbv

end Writer

end Blockwise
