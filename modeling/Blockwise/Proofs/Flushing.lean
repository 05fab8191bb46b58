import Blockwise.Proofs.Relay

/-!
# Flushing — a writer makes nothing of how its sink is flushed

A writer hands flushes on to its sink and hands the answers back. Whether a flush succeeds decides
neither which calls are made nor what the sink takes. So a writer does the same over a sink that
fails flushes as over one that is calm, which never does: what is known of a writer over a willing
sink holds over every sink that takes bytes as a willing one does.

## Results

* `Writer.write_calm`, `Writer.conclude_calm` — what does not flush is the same over a calm sink.
* `Writer.run_calm` — operations make the same calls over a calm sink, which takes the same bytes.
-/

namespace Blockwise

universe u

variable {σ : Type u} {c : BlockTransform σ}

namespace Sink

/-- The sink with flushes that succeed. -/
def calm (sink : Sink) : Sink := { sink with flushes := [] }

theorem willing_calm {sink : Sink} (h : ∀ acceptance ∈ sink.writes, acceptance.Willing) :
    sink.calm.Willing :=
  ⟨h, fun _ hmem => (List.not_mem_nil hmem).elim⟩

/-- One turn of handing over a stretch. -/
theorem writeAll_of_ne_nil (sink : Sink) {bytes : Bytes} (hne : ¬ bytes.isEmpty = true) :
    sink.writeAll bytes =
      match (sink.write bytes).answer with
      | .ok 0 => ⟨.error takesNothing, (sink.write bytes).next, (sink.write bytes).events⟩
      | .ok (count + 1) =>
        ((sink.write bytes).next.writeAll (bytes.drop (count + 1))).after (sink.write bytes).events
      | .error failure =>
        if failure.kind = .interrupted then
          ((sink.write bytes).next.writeAll bytes).after (sink.write bytes).events
        else ⟨.error failure, (sink.write bytes).next, (sink.write bytes).events⟩ := by
  rw [writeAll, if_neg hne]
  dsimp only
  split <;> rename_i hanswer <;> rw [hanswer]

theorem writeAll_calm (sink : Sink) (bytes : Bytes) :
    sink.calm.writeAll bytes = (sink.writeAll bytes).mapNext calm := by
  have hwrite : ∀ (sink : Sink) (bytes : Bytes), sink.calm.write bytes =
      (sink.write bytes).mapNext calm := fun _ _ => rfl
  -- turn by turn: each write is answered alike, and leaves sinks that differ in their flushes only
  fun_induction writeAll sink bytes with
  | case1 sink bytes hempty =>
    rw [writeAll, if_pos hempty]
    rfl
  | case2 sink bytes hne step hanswer =>
    rw [writeAll_of_ne_nil _ hne, hwrite, Step.answer_mapNext, hanswer]
    rfl
  | case3 sink bytes hne step count hanswer ih =>
    rw [writeAll_of_ne_nil _ hne, hwrite, Step.answer_mapNext, hanswer]
    exact congrArg (Step.after · step.events) ih
  | case4 sink bytes hne step failure hanswer hkind ih =>
    rw [writeAll_of_ne_nil _ hne, hwrite, Step.answer_mapNext, hanswer]
    exact (if_pos hkind).trans (congrArg (Step.after · step.events) ih)
  | case5 sink bytes hne step failure hanswer hkind =>
    rw [writeAll_of_ne_nil _ hne, hwrite, Step.answer_mapNext, hanswer]
    exact if_neg hkind

end Sink

namespace Writer

/-- The writer over the calm sink. -/
def calm (w : Writer c) : Writer c := { w with sink := w.sink.calm }

theorem deliver_calm (w : Writer c) : w.calm.deliver = w.deliver.mapNext calm := by
  have hdraw : w.calm.encoder.draw w.calm.bufferSize = w.encoder.draw w.bufferSize := rfl
  rw [deliver_eq, deliver_eq, hdraw]
  cases (w.encoder.draw w.bufferSize).answer with
  | error fault => rfl
  | ok bytes =>
    have hhanded : w.calm.sink.writeAll bytes = (w.sink.writeAll bytes).mapNext Sink.calm :=
      w.sink.writeAll_calm bytes
    dsimp only
    rw [hhanded]
    rfl

theorem settle_of_idle {w : Writer c} (hn : w.encoder.needsInput = true) :
    w.settle = .quiet (.ok ()) w := by
  rw [settle, dif_pos hn]

/-- One turn of delivering. -/
theorem settle_of_busy {w : Writer c} (hn : ¬ w.encoder.needsInput = true) :
    w.settle =
      match w.deliver.answer with
      | .error error => ⟨.error error, w.deliver.next, w.deliver.events⟩
      | .ok () => w.deliver.next.settle.after w.deliver.events := by
  rw [settle, dif_neg hn]
  dsimp only
  split <;> rename_i hanswer <;> rw [hanswer]

theorem settle_calm (w : Writer c) : w.calm.settle = w.settle.mapNext calm := by
  fun_induction settle w with
  | case1 w hn => exact settle_of_idle (w := w.calm) hn
  | case2 w hn step error hanswer =>
    rw [settle_of_busy (w := w.calm) hn, deliver_calm, Step.answer_mapNext, hanswer]
    rfl
  | case3 w hn step hanswer ih =>
    rw [settle_of_busy (w := w.calm) hn, deliver_calm, Step.answer_mapNext, hanswer]
    exact congrArg (Step.after · step.events) ih

theorem write_calm (w : Writer c) (bytes : Bytes) :
    w.calm.write bytes = (w.write bytes).mapNext calm := by
  rw [write_eq, write_eq]
  by_cases hempty : bytes.isEmpty = true
  · rw [if_pos hempty, if_pos hempty]
    rfl
  · rw [if_neg hempty, if_neg hempty]
    -- both have the same encoder
    rw [show w.calm.encoder = w.encoder from rfl]
    cases w.encoder.feedAll bytes with
    | error fault => rfl
    | ok encoder =>
      have hsettle : { w.calm with encoder }.settle = ({ w with encoder }.settle).mapNext calm :=
        settle_calm { w with encoder }
      dsimp only
      rw [hsettle]
      rfl

theorem conclude_calm (w : Writer c) : w.calm.conclude = w.conclude.mapNext calm :=
  settle_calm { w with encoder := w.encoder.close }

/-- An operation makes the same calls over the calm sink, which takes the same bytes. -/
theorem perform_calm (w : Writer c) (op : Op) :
    (w.calm.perform op).next = (w.perform op).next.calm ∧
      (w.calm.perform op).events.calls = (w.perform op).events.calls ∧
      (w.calm.perform op).events.accepted = (w.perform op).events.accepted := by
  -- an outcome that differs in the sink only makes the same calls
  have hsame : ∀ {α : Type} {step step' : Step (Writer c) α}, step' = step.mapNext calm →
      step'.next = step.next.calm ∧ step'.events.calls = step.events.calls ∧
        step'.events.accepted = step.events.accepted := by
    rintro α step _ rfl
    exact ⟨rfl, rfl, rfl⟩
  cases op with
  -- both ways of writing are a write, with the count left out of the answer
  | write bytes =>
    have hwrite := hsame (w.write_calm bytes)
    exact hwrite
  | writeAll bytes =>
    have hwrite := hsame (w.write_calm bytes)
    exact hwrite
  -- flushes may be answered differently, and nothing else is different
  | flush => exact ⟨rfl, rfl, rfl⟩
  | conclude => exact hsame w.conclude_calm

theorem run_calm (w : Writer c) (ops : List Op) :
    (w.calm.run ops).next = (w.run ops).next.calm ∧
      (w.calm.run ops).events.calls = (w.run ops).events.calls ∧
      (w.calm.run ops).events.accepted = (w.run ops).events.accepted := by
  induction ops generalizing w with
  | nil => exact ⟨rfl, rfl, rfl⟩
  | cons op ops ih =>
    obtain ⟨hnext, hcalls, haccepted⟩ := w.perform_calm op
    obtain ⟨hnext', hcalls', haccepted'⟩ := ih (w.perform op).next
    rw [run, run, hnext]
    refine ⟨hnext', ?_, ?_⟩
    · rw [Step.events_after, Step.events_after, Trace.calls_append, Trace.calls_append, hcalls,
        hcalls']
    · rw [Step.events_after, Step.events_after, Trace.accepted_append, Trace.accepted_append,
        haccepted, haccepted']

end Writer

end Blockwise
