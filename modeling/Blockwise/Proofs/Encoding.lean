import Mathlib
import Blockwise.Proofs.Session

/-!
# Encoding — what a stream encoder makes of its input

Whatever the transform does, and in whatever order an encoder is fed, drawn from and closed, its
stream is that of the reference: the accepted inputs, each cut into chunks of its own, encoded by
one call after another. How the output is pulled decides nothing but when a call is made.

A call on an empty block is made for a closed encoder only, which is drawn from although nothing
waits. The two counters of an encoder follow its calls: one that succeeds adds its block to what was
consumed and its output to what was produced, and one that fails adds nothing.

## Results

* `Encoder.run_follows_reference` — the calls and the output of every run of an encoder.
* `Encoder.counts_run` — the counters of an encoder after every run.
-/

namespace Blockwise

universe u

variable {σ : Type u} {c : BlockTransform σ}

namespace Encoder

theorem Drawn.closed {e e' : Encoder c} {length : Nat} {answer : Except Fault Bytes}
    {events : Trace} (h : e.Drawn length answer e' events) : e'.closed = e.closed := by
  cases h <;> rfl

theorem closed_feed {e e' : Encoder c} {data : Bytes} {offset length : Nat}
    (h : e.feed data offset length = .ok e') : e'.closed = e.closed := by
  obtain ⟨engine, -, rfl⟩ := exists_eq_ok_of_map h
  rfl

/-- An open encoder makes no call on an empty block. -/
theorem Drawn.source_ne_nil {e e' : Encoder c} {length : Nat} {answer : Except Fault Bytes}
    {events : Trace} (h : e.Drawn length answer e' events) (hopen : e.closed = false) :
    ∀ call ∈ events.calls, call.source ≠ [] := by
  -- an open encoder makes a stroke only if something waits
  have hsource : e.engine.waiting ≠ [] ∨ e.closed = true → e.engine.nextCall.source ≠ [] := by
    intro hw
    rw [hopen, or_iff_left Bool.false_ne_true] at hw
    exact Engine.source_nextCall_ne_nil hw
  cases h with
  | refused hp => exact fun call hcall => by cases hcall
  | idle hi hopen => exact fun call hcall => by cases hcall
  | owing ho => exact fun call hcall => by cases hcall
  | failed hp ho hw hf =>
    intro call hcall
    rw [(Engine.mem_calls_stroke hp).mp hcall]
    exact hsource hw
  | struck hp ho hw hs =>
    intro call hcall
    rw [(Engine.mem_calls_stroke hp).mp hcall]
    exact hsource hw

/-- No block of a session is empty unless the encoder was closed. -/
def NoEmptyBlock (s : Session (Encoder c)) : Prop :=
  s.coder.closed = false → ∀ call ∈ s.calls, call.source ≠ []

theorem noEmptyBlock_step {s : Session (Encoder c)} (h : NoEmptyBlock s) (op : Op) :
    NoEmptyBlock (s.step op) := by
  rcases s.step_cases op with heq | ⟨data, offset, length, coder, hfeed, heq⟩ |
    ⟨length, heq⟩ | ⟨-, heq⟩
  all_goals rw [heq]
  · exact h
  · intro hopen
    exact h ((closed_feed hfeed).symm.trans hopen)
  · intro hopen call hcall
    have hdrawn := s.coder.drawn length
    have hbefore : s.coder.closed = false := hdrawn.closed.symm.trans hopen
    rcases List.mem_append.mp hcall with hcall | hcall
    · exact h hbefore call hcall
    · exact hdrawn.source_ne_nil hbefore call hcall
  · intro hopen
    cases hopen

/-- Only closing closes an encoder. -/
theorem closed_step {s : Session (Encoder c)} {op : Op} (hop : op ≠ .close) :
    (s.step op).coder.closed = s.coder.closed := by
  rcases s.step_cases op with heq | ⟨data, offset, length, coder, hfeed, heq⟩ |
    ⟨length, heq⟩ | ⟨hclose, -⟩
  · rw [heq]
  · rw [heq]
    exact closed_feed hfeed
  · rw [heq]
    exact (s.coder.drawn length).closed
  · exact absurd hclose hop

/-- **Reference semantics of an encoder.** Take any transform in any state, any settings, and any
run of feeds, pulls and closes on a new encoder. Then

1. the calls are those of the reference on their blocks, and each had a room of the same size;
2. the blocks that are not empty are the chunks of the accepted inputs, each input cut on its own,
   as far as they were staged: what waits is the rest;
3. only an encoder that was closed encodes an empty block;
4. what was handed out and what is owed is what the calls contributed, in their order.

None of this needs the calls to succeed: one that fails contributes nothing, and none comes after
it. -/
theorem run_follows_reference (c : BlockTransform σ) (state : σ) (settings : Settings)
    (ops : List Op) :
    let chunk := settings.chunkSize
    let room := max (c.bound state chunk) chunk
    let s := (Session.start (new c state settings)).run ops
    (s.calls = c.callsOn .encode (state, .zeroed room) s.sources ∧
        ∀ call ∈ s.calls, call.capacity = room) ∧
      s.sources.filter (· ≠ []) ++ pieces chunk s.coder.engine.waiting =
        s.inputs.flatMap (pieces chunk) ∧
      (.close ∉ ops → ∀ call ∈ s.calls, call.source ≠ []) ∧
      s.returned ++ s.coder.engine.unread = s.calls.flatMap BlockCall.contribution := by
  intro chunk room s
  -- the ledger balances at the start, and every operation keeps it so
  have hstart : (Session.start (new c state settings)).Balances (new c state settings).engine :=
    Session.balances_start rfl
  have hs : s.Balances (new c state settings).engine := hstart.run ops
  refine ⟨⟨hs.calls, ?_⟩, hs.sources, ?_, hs.bytes⟩
  · -- the room never changes its size
    intro call hcall
    rw [hs.calls] at hcall
    obtain ⟨state', room', hsize, heq⟩ := BlockTransform.exists_of_mem_callsOn hcall
    rw [heq, BlockTransform.capacity_callOn, hsize]
    rfl
  · -- without a closing operation the encoder stays open
    intro hopen
    have hempty : NoEmptyBlock s :=
      Session.run_induction (P := NoEmptyBlock) (fun _ _ h => by cases h)
        fun _ op _ h => noEmptyBlock_step h op
    have hclosed : s.coder.closed = false :=
      Session.run_induction (P := fun s : Session (Encoder c) => s.coder.closed = false) rfl
        fun _ op hop h => (closed_step fun heq => hopen (heq ▸ hop)).trans h
    exact hempty hclosed

/-! ## Counters -/

end Encoder

/-- How many bytes a call took in: those of its block, and none if it failed. -/
def BlockCall.intake (call : BlockCall) : Nat :=
  if call.failed then 0 else call.source.length

namespace Encoder

/-- A draw counts what its call takes in and what it contributes. -/
theorem Drawn.counts {e e' : Encoder c} {length : Nat} {answer : Except Fault Bytes}
    {events : Trace} (h : e.Drawn length answer e' events) :
    e'.consumed = e.consumed + (events.calls.map BlockCall.intake).sum ∧
      e'.produced = e.produced + events.contribution.length := by
  cases h with
  | refused hp => exact ⟨rfl, rfl⟩
  | idle hi hopen => exact ⟨rfl, rfl⟩
  | owing ho => exact ⟨rfl, rfl⟩
  | failed hp ho hw hf =>
    rw [Trace.contribution, Engine.calls_stroke hp]
    simp [BlockCall.intake, BlockCall.contribution, hf]
  | struck hp ho hw hs =>
    -- what is counted is what was reported, and that is the size of the output
    have hlength : e.engine.nextCall.output.length = e.engine.nextCall.reported :=
      length_output_callOn hs
    rw [Trace.contribution, Engine.calls_stroke hp]
    simp [BlockCall.intake, BlockCall.contribution, hs, hlength]

theorem counts_feed {e e' : Encoder c} {data : Bytes} {offset length : Nat}
    (h : e.feed data offset length = .ok e') :
    e'.consumed = e.consumed ∧ e'.produced = e.produced := by
  obtain ⟨engine, -, rfl⟩ := exists_eq_ok_of_map h
  exact ⟨rfl, rfl⟩

/-- The counters agree with the ledger. -/
structure Counts (s : Session (Encoder c)) : Prop where
  consumed : s.coder.consumed = (s.calls.map BlockCall.intake).sum
  produced : s.coder.produced = s.contribution.length

theorem counts_step {s : Session (Encoder c)} (h : Counts s) (op : Op) : Counts (s.step op) := by
  rcases s.step_cases op with heq | ⟨data, offset, length, coder, hfeed, heq⟩ |
    ⟨length, heq⟩ | ⟨-, heq⟩
  all_goals rw [heq]
  · exact h
  · obtain ⟨hconsumed, hproduced⟩ := counts_feed hfeed
    exact ⟨hconsumed.trans h.consumed, hproduced.trans h.produced⟩
  · obtain ⟨hconsumed, hproduced⟩ := (s.coder.drawn length).counts
    constructor
    · show (s.coder.draw length).next.consumed =
        ((s.calls ++ (s.coder.draw length).events.calls).map BlockCall.intake).sum
      rw [hconsumed, h.consumed, List.map_append, List.sum_append]
    · show (s.coder.draw length).next.produced =
        ((s.calls ++ (s.coder.draw length).events.calls).flatMap BlockCall.contribution).length
      rw [hproduced, h.produced, List.flatMap_append, List.length_append]
      rfl
  · exact ⟨h.consumed, h.produced⟩

/-- After every run of a new encoder, its counters agree with the ledger. -/
theorem counts_run (state : σ) (settings : Settings) (ops : List Op) :
    Counts ((Session.start (new c state settings)).run ops) :=
  Session.run_induction (P := Counts) ⟨rfl, rfl⟩ fun _ op _ h => counts_step h op

end Encoder

end Blockwise
