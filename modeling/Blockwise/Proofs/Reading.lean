import Blockwise.Proofs.Passage
import Blockwise.Reader

/-!
# Reading — what a reader makes of its source

A reader is its decoder in other hands: each read of the source that gets anything is an input of
the decoder, and what the reads return is what the decoder hands out (`Reader.Relays`). A source is
asked only while the decoder is idle, so no input is ever refused and none is lost. However the
source serves its data and whatever the caller asks for, the stream of a reader is therefore that of
the reference: each serving cut into pieces of its own, decoded by one call after another.

A decoder that is not idle brings at least one byte or fails. So a read that brings nothing, though
it was asked for something, has found the decoder idle and the source at its end.

## Results

* `Reader.relays_draw` — a read is a passage of the decoder, whatever the source and the transform
  do.
* `Reader.isIdle_of_draw_eq_nil` — a read that brings nothing leaves the decoder idle.
* `Reader.run_decodes_servings` — the calls and the output of every sequence of reads.
-/

namespace Blockwise

universe u

variable {σ : Type u} {c : BlockTransform σ}

/-! ## Servings -/

/-- What a source served with the event, if that was anything. -/
def Event.serving? : Event → Option Bytes
  | read _ (.ok (b :: bytes)) => some (b :: bytes)
  | _ => none

namespace Trace

/-- What a source served during a trace, read by read. -/
def servings (trace : Trace) : List Bytes := trace.filterMap Event.serving?

@[simp] theorem servings_append (a b : Trace) : servings (a ++ b) = servings a ++ servings b :=
  List.filterMap_append

end Trace

/-- A draw asks no source. -/
theorem Engine.Drawn.servings_eq_nil {d : Direction} {e e' : Engine c d} {length : Nat}
    {answer : Except Fault Bytes} {events : Trace} (h : e.Drawn length answer e' events) :
    events.servings = [] :=
  h.filterMap_eq_nil (fun _ => rfl) fun _ => rfl

/-- What the answer of a source adds to the servings. -/
def Source.served : Except Failure Bytes → List Bytes
  | .ok (b :: bytes) => [b :: bytes]
  | _ => []

/-- Reads that were interrupted serve nothing, so all that is served is what the last one got. -/
theorem Source.events_readSteadily (source : Source) (requested : Nat) :
    (source.readSteadily requested).events.servings =
        served (source.readSteadily requested).answer ∧
      (source.readSteadily requested).events.calls = [] := by
  have hread : ∀ source : Source, (source.read requested).events.servings =
      served (source.read requested).answer := by
    intro source
    show Trace.servings [.read requested (source.read requested).answer] = _
    cases (source.read requested).answer with
    | error failure => rfl
    | ok bytes => cases bytes <;> rfl
  fun_induction readSteadily source requested with
  | case1 source step bytes hanswer =>
    refine ⟨?_, rfl⟩
    rw [hread source, hanswer]
  | case2 source step failure hanswer hkind ih =>
    obtain ⟨hservings, hcalls⟩ := ih
    rw [Step.events_after, Trace.servings_append, Trace.calls_append, hread source, hanswer,
      hservings, hcalls]
    exact ⟨rfl, rfl⟩
  | case3 source step failure hanswer hkind =>
    refine ⟨?_, rfl⟩
    rw [hread source, hanswer]

/-! ## Reads as passages of the decoder -/

/-- An idle decoder takes any input. -/
theorem Decoder.exists_feedAll_eq_ok {e : Decoder c} (hidle : e.needsInput = true) (bytes : Bytes) :
    ∃ e', e.feedAll bytes = .ok e' :=
  Coder.exists_feed_eq_ok (s := e) (by omega) (Engine.isPoisoned_of_isIdle hidle)
    (Engine.isIdle_iff.mp hidle).2

namespace Reader

/-- The reader becomes another one and returns the bytes. With the servings of the source as inputs
that is a passage of the decoder; and no block is empty. -/
structure Relays (r : Reader c) (bytes : Bytes) (trace : Trace) (r' : Reader c) : Prop where
  passes : Session.Passes r.decoder ⟨trace.servings, trace.calls, bytes⟩ r'.decoder
  source_ne_nil : ∀ call ∈ trace.calls, call.source ≠ []

namespace Relays

variable {r r' r'' : Reader c} {bytes bytes' : Bytes} {trace later : Trace}

theorem refl (r : Reader c) : r.Relays [] [] r :=
  ⟨.refl r.decoder, fun _ hcall => by cases hcall⟩

theorem trans (h : r.Relays bytes trace r') (hlater : r'.Relays bytes' later r'') :
    r.Relays (bytes ++ bytes') (trace ++ later) r'' := by
  refine ⟨?_, ?_⟩
  · rw [Trace.servings_append, Trace.calls_append]
    exact h.passes.trans hlater.passes
  · rw [Trace.calls_append, List.forall_mem_append]
    exact ⟨h.source_ne_nil, hlater.source_ne_nil⟩

end Relays

/-- The bytes that an answer brings: none if it is an error. -/
def readBytes : Except ChannelError Bytes → Bytes
  | .ok bytes => bytes
  | .error _ => []

theorem relays_decoder (r : Reader c) {length : Nat} {answer : Except Fault Bytes}
    (hanswer : (r.decoder.draw length).answer = answer) :
    r.Relays (Engine.drawnBytes answer) (r.decoder.draw length).events
      { r with decoder := (r.decoder.draw length).next } := by
  refine ⟨?_, r.decoder.source_ne_nil_of_draw length⟩
  rw [← hanswer, (r.decoder.drawn length).servings_eq_nil]
  exact Session.Passes.draw r.decoder length

/-- What a source serves to an idle decoder is an input of it. -/
theorem relays_fetch {r : Reader c} (hidle : r.decoder.needsInput = true) :
    r.Relays [] r.fetch.events r.fetch.next := by
  obtain ⟨hservings, hcalls⟩ := r.source.events_readSteadily r.bufferSize
  have hsources : ∀ call ∈ (r.source.readSteadily r.bufferSize).events.calls, call.source ≠ [] := by
    rw [hcalls]
    exact fun _ hcall => by cases hcall
  cases hanswer : (r.source.readSteadily r.bufferSize).answer with
  | error failure =>
    rw [fetch_of_refused hanswer]
    refine ⟨?_, hsources⟩
    rw [hservings, hcalls, hanswer]
    exact .refl r.decoder
  | ok bytes =>
    cases bytes with
    | nil =>
      rw [fetch_of_exhausted hanswer]
      refine ⟨?_, hsources⟩
      rw [hservings, hcalls, hanswer]
      exact .refl r.decoder
    | cons b bytes =>
      obtain ⟨decoder, hfeed⟩ := Decoder.exists_feedAll_eq_ok hidle (b :: bytes)
      rw [fetch_of_served hanswer, hfeed]
      refine ⟨?_, hsources⟩
      rw [hservings, hcalls, hanswer]
      exact .feed hfeed

/-- The source is asked only while the decoder is idle. -/
theorem isIdle_of_asks {r : Reader c} (h : ¬ (r.atEnd || !r.decoder.needsInput) = true) :
    r.decoder.needsInput = true := by
  have hboth : r.atEnd = false ∧ r.decoder.needsInput = true := by simpa using h
  exact hboth.2

theorem relays_draw (r : Reader c) (length : Nat) :
    r.Relays (readBytes (r.draw length).answer) (r.draw length).events (r.draw length).next := by
  fun_induction draw r length with
  | case1 r drawn r₁ fault hanswer => exact r.relays_decoder hanswer
  | case2 r drawn r₁ b bytes hanswer => exact r.relays_decoder hanswer
  | case3 r drawn r₁ hanswer hstop => exact r.relays_decoder hanswer
  -- in the other cases the decoder brought nothing, and the source is asked
  | case4 r drawn r₁ hanswer hgo fetched error hfetched =>
    exact (r.relays_decoder hanswer).trans (relays_fetch (isIdle_of_asks hgo))
  | case5 r drawn r₁ hanswer hgo fetched hfetched =>
    exact (r.relays_decoder hanswer).trans (relays_fetch (isIdle_of_asks hgo))
  | case6 r drawn r₁ hanswer hgo fetched hfetched ih =>
    exact ((r.relays_decoder hanswer).trans (relays_fetch (isIdle_of_asks hgo))).trans ih

/-- A read brings no more than was asked for. -/
theorem length_le_of_draw {r : Reader c} {length : Nat} {bytes : Bytes}
    (h : (r.draw length).answer = .ok bytes) : bytes.length ≤ length := by
  fun_induction draw r length with
  | case1 => cases h
  | case2 r drawn r₁ b rest hanswer =>
    cases h
    have hdrawn := r.decoder.drawn length
    rw [show (r.decoder.draw length).answer = _ from hanswer] at hdrawn
    exact hdrawn.length_le
  | case3 =>
    cases h
    exact Nat.zero_le _
  | case4 => cases h
  | case5 =>
    cases h
    exact Nat.zero_le _
  | case6 r drawn r₁ hanswer hgo fetched hfetched ih => exact ih h

/-- A source at its end leaves the decoder as it is. -/
theorem decoder_fetch_of_end {r : Reader c} (h : r.fetch.answer = .ok false) :
    r.fetch.next.decoder = r.decoder := by
  cases hanswer : (r.source.readSteadily r.bufferSize).answer with
  | error failure => simp [fetch_of_refused hanswer] at h
  | ok bytes =>
    cases bytes with
    | nil => rw [fetch_of_exhausted hanswer]
    | cons b bytes =>
      rw [fetch_of_served hanswer] at h
      split at h <;> cases h

/-- A read that was asked for something and brings nothing leaves the decoder idle. -/
theorem isIdle_of_draw_eq_nil {r : Reader c} {length : Nat} (hl : 0 < length)
    (h : (r.draw length).answer = .ok []) : (r.draw length).next.decoder.needsInput = true := by
  fun_induction draw r length with
  | case1 => cases h
  | case2 => cases h
  | case3 r drawn r₁ hanswer hstop =>
    -- a decoder that is not idle would have brought something
    have hidle : r.decoder.needsInput = true := by
      cases hbusy : r.decoder.needsInput with
      | true => rfl
      | false =>
        have hdrawn := r.decoder.drawn length
        rw [show (r.decoder.draw length).answer = _ from hanswer] at hdrawn
        exact absurd rfl (hdrawn.ne_nil_of_busy hbusy hl)
    show (r.decoder.draw length).next.needsInput = true
    rw [Decoder.draw_of_idle hidle]
    exact hidle
  | case4 => cases h
  | case5 r drawn r₁ hanswer hgo fetched hfetched =>
    show r₁.fetch.next.decoder.needsInput = true
    rw [decoder_fetch_of_end hfetched]
    exact isIdle_of_asks hgo
  | case6 r drawn r₁ hanswer hgo fetched hfetched ih => exact ih h

/-! ## Sequences of reads -/

/-- The bytes of a read, as the caller finds them in the buffer. -/
def received (step : Step (Reader c × Bytes) (Except ChannelError Nat)) : Bytes :=
  match step.answer with
  | .ok count => step.next.2.take count
  | .error _ => []

/-- Reads one after another, into the buffers that the caller brings along. The answer is what they
brought, put together. -/
def run (r : Reader c) : List Bytes → Step (Reader c) Bytes
  | [] => .quiet [] r
  | out :: outs =>
    let step := r.readInto out
    let ran := step.next.1.run outs
    ⟨received step ++ ran.answer, ran.next, step.events ++ ran.events⟩

/-- A read into a buffer that is not empty draws, and its bytes are found in the buffer. -/
theorem readInto_of_ne_nil (r : Reader c) {out : Bytes} (hne : out ≠ []) :
    (r.readInto out).next.1 = (r.draw out.length).next ∧
      (r.readInto out).events = (r.draw out.length).events ∧
      (r.readInto out).answer = (r.draw out.length).answer.map List.length ∧
      received (r.readInto out) = readBytes (r.draw out.length).answer := by
  have hlength : out.length ≠ 0 := fun hzero => hne (List.length_eq_zero_iff.mp hzero)
  unfold readInto received read
  rw [if_neg hlength]
  cases hanswer : (r.draw out.length).answer with
  | error error => simp [hanswer, Except.map, readBytes]
  | ok bytes =>
    have hle : 0 + bytes.length ≤ out.length := by
      have := length_le_of_draw hanswer
      omega
    have hfound := take_drop_overlay hle
    rw [List.drop_zero] at hfound
    simp [hanswer, Except.map, readBytes, hfound]

/-- A read into an empty buffer touches nothing. -/
theorem readInto_nil (r : Reader c) : r.readInto [] = .quiet (.ok 0) (r, []) := rfl

theorem relays_readInto (r : Reader c) (out : Bytes) :
    r.Relays (received (r.readInto out)) (r.readInto out).events (r.readInto out).next.1 := by
  by_cases hne : out = []
  · rw [hne, readInto_nil]
    exact .refl r
  · obtain ⟨hnext, hevents, -, hreceived⟩ := r.readInto_of_ne_nil hne
    rw [hnext, hevents, hreceived]
    exact r.relays_draw out.length

theorem relays_run (r : Reader c) (outs : List Bytes) :
    r.Relays (r.run outs).answer (r.run outs).events (r.run outs).next := by
  induction outs generalizing r with
  | nil => exact .refl r
  | cons out outs ih => exact (r.relays_readInto out).trans (ih _)

/-- **Reference semantics of a reader.** Take any transform in any state, any settings, source and
buffer, and any reads from a reader over a new decoder. Then

1. the calls are those of the reference on their blocks, and none is on an empty block;
2. the blocks are the pieces of what the source served, each serving cut on its own, as far as they
   were staged: what waits is the rest;
3. what the reads brought and what the decoder owes is what the calls contributed, in their order;
4. if one more read, into a buffer that is not empty, brings nothing, then no call failed, all that
   the source served was decoded, and all that the calls put out was brought by the reads.

None of this needs the calls to succeed: one that fails contributes nothing, and none comes after
it. -/
theorem run_decodes_servings (c : BlockTransform σ) (state : σ) (settings : Settings)
    (source : Source) (bufferSize : Nat) (outs : List Bytes) :
    let chunk := settings.chunkSize
    let stage := max (c.bound state chunk) chunk
    let r := withBufferSize source (Decoder.new c state settings) bufferSize
    let ran := r.run outs
    let sources := ran.events.calls.map BlockCall.source
    (ran.events.calls = c.callsOn .decode (state, .zeroed chunk) sources ∧
        ∀ call ∈ ran.events.calls, call.source ≠ []) ∧
      sources ++ pieces stage ran.next.decoder.engine.waiting =
        ran.events.servings.flatMap (pieces stage) ∧
      ran.answer ++ ran.next.decoder.engine.unread = ran.events.contribution ∧
      ∀ out, out ≠ [] → (ran.next.readInto out).answer = .ok 0 →
        let trace := ran.events ++ (ran.next.readInto out).events
        (∀ call ∈ trace.calls, call.failed = false) ∧
          trace.calls.map BlockCall.source = trace.servings.flatMap (pieces stage) ∧
          ran.answer = trace.calls.flatMap BlockCall.output := by
  intro chunk stage r ran sources
  have hstart : (Coder.engine r.decoder).isIdle = true := rfl
  have hran : r.Relays ran.answer ran.events ran.next := r.relays_run outs
  have hbalances := hran.passes.balances hstart
  refine ⟨⟨hbalances.calls, hran.source_ne_nil⟩, ?_, hbalances.bytes, ?_⟩
  · -- no block is empty, so all of them are pieces
    have hsources := hbalances.sources
    rwa [Ledger.Balances.filter_sources hran.source_ne_nil] at hsources
  · intro out hne hanswer trace
    obtain ⟨hnext, -, hlength, hreceived⟩ := ran.next.readInto_of_ne_nil hne
    rw [hlength] at hanswer
    -- the last read drew nothing
    have hnothing : (ran.next.draw out.length).answer = .ok [] := by
      cases hdraw : (ran.next.draw out.length).answer with
      | error error => simp [hdraw, Except.map] at hanswer
      | ok bytes =>
        simp only [hdraw, Except.map, Except.ok.injEq, List.length_eq_zero_iff] at hanswer
        rw [hanswer]
    have hidle : (ran.next.readInto out).next.1.decoder.needsInput = true := by
      rw [hnext]
      exact isIdle_of_draw_eq_nil (List.length_pos_iff.mpr hne) hnothing
    -- so the reads up to it leave the decoder idle, and their ledger is complete
    have hall : r.Relays ran.answer trace (ran.next.readInto out).next.1 := by
      have hboth := hran.trans (ran.next.relays_readInto out)
      rwa [hreceived, hnothing, readBytes, List.append_nil] at hboth
    have hcomplete := hall.passes.balances hstart
    exact ⟨hcomplete.succeeded_of_idle hidle, hcomplete.sources_of_idle hidle hall.source_ne_nil,
      hcomplete.returned_of_idle hidle⟩

end Reader

end Blockwise
