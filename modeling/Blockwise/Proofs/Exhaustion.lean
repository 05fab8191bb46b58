import Blockwise.Proofs.Drive
import Blockwise.Proofs.Reading

/-!
# Exhaustion — a source read to its end

To read a source to its end is to read into one buffer after another until a read brings nothing. On
every source and every transform that comes to an end: a read that brings something takes from the
source, or from what waits in the decoder, or from what that owes.

A source is steady if it never fails, except that it may interrupt a read, and if it has nothing
more to give when it says so. What a steady source has in stock for a reader is known beforehand, as
a list of servings: it depends on how the source hands out its data and on how much the reader asks
for at a time, but not on what is asked of the reader. If the decoder accepts every piece of the
stock, then reading to the end uses all of it up, whatever the sizes of the reads.

## Results

* `Reader.draw_progress` — a read that brings something brings the stream nearer to its end.
* `Reader.depletes_readOut` — what was served and what is left is the stock.
* `Reader.readOut_of_accepts` — the calls and the output of reading to the end.
-/

namespace Blockwise

universe u

variable {σ : Type u} {c : BlockTransform σ} {d : Direction}

/-! ## Steady sources -/

/-- The supply fails no read that it does not merely interrupt, and does not claim to be the end. -/
def Supply.Steady : Supply → Prop
  | data _ => True
  | nothing => False
  | refuse failure => failure.kind = .interrupted

/-- What the supply serves to reads of at most `size` bytes. -/
def Supply.stock (size : Nat) : Supply → List Bytes
  | data bytes => pieces size bytes
  | nothing | refuse _ => []

namespace Source

def Steady (source : Source) : Prop := ∀ supply ∈ source.queue, supply.Steady

/-- What the source serves to reads of at most `size` bytes, read by read. -/
def stock (size : Nat) (source : Source) : List Bytes :=
  pieces size source.opened ++ source.queue.flatMap (Supply.stock size)

/-- What a read of at most `size` bytes can answer, from a steady source. -/
structure Serves (size : Nat) (source : Source) (answer : Except Failure Bytes)
    (source' : Source) : Prop where
  steady : source'.Steady
  stock : served answer ++ source'.stock size = source.stock size
  ended : answer = .ok [] → source'.stock size = []
  interrupted : ∀ failure, answer = .error failure → failure.kind = .interrupted

variable {size : Nat}

theorem serves_serve (hs : 0 < size) {opened : Bytes} {queue : List Supply}
    (h : Steady ⟨opened, queue⟩) :
    Serves size ⟨opened, queue⟩ (serve size opened queue).1 (serve size opened queue).2 := by
  fun_induction serve size opened queue with
  | case1 b bytes queue =>
    have htake : ∃ b' bytes', (b :: bytes).take size = b' :: bytes' := by
      cases size with
      | zero => omega
      | succ size => exact ⟨b, bytes.take size, rfl⟩
    obtain ⟨b', bytes', htake⟩ := htake
    refine ⟨h, ?_, fun hnil => by simp [htake] at hnil, fun failure herror => by cases herror⟩
    -- one piece of the opened data is served
    show served (.ok ((b :: bytes).take size)) ++ _ = pieces size (b :: bytes) ++ _
    rw [pieces_of_ne_nil hs (List.cons_ne_nil b bytes), htake]
    rfl
  | case2 =>
    have hstock : stock size ⟨[], []⟩ = [] := by
      rw [stock, pieces_nil]
      rfl
    exact ⟨h, by rw [hstock]; rfl, fun _ => hstock, fun failure herror => by cases herror⟩
  | case3 bytes queue ih =>
    -- data is opened, and has the same pieces as before
    have hopened : stock size ⟨[], .data bytes :: queue⟩ = stock size ⟨bytes, queue⟩ := by
      rw [stock, stock, pieces_nil]
      rfl
    have hserves := ih fun supply hsupply => h supply (List.mem_cons_of_mem _ hsupply)
    exact ⟨hserves.steady, hserves.stock.trans hopened.symm, hserves.ended, hserves.interrupted⟩
  | case4 queue => exact absurd (h .nothing (List.mem_cons_self ..)) id
  | case5 failure queue =>
    have hkind : failure.kind = .interrupted := h (.refuse failure) (List.mem_cons_self ..)
    refine ⟨fun supply hsupply => h supply (List.mem_cons_of_mem _ hsupply), rfl,
      (fun hok => by cases hok), ?_⟩
    intro failure' herror
    cases herror
    exact hkind

/-- A serving is not empty, and no larger than what was asked for. -/
theorem of_mem_stock {source : Source} {serving : Bytes} (h : serving ∈ source.stock size) :
    serving ≠ [] ∧ serving.length ≤ size := by
  rcases List.mem_append.mp h with h | h
  · exact ⟨ne_nil_of_mem_pieces h, length_le_of_mem_pieces h⟩
  · obtain ⟨supply, -, h⟩ := List.mem_flatMap.mp h
    cases supply with
    | data bytes => exact ⟨ne_nil_of_mem_pieces h, length_le_of_mem_pieces h⟩
    | nothing => cases h
    | refuse failure => cases h

theorem serves_read (hs : 0 < size) {source : Source} (h : source.Steady) :
    Serves size source (source.read size).answer (source.read size).next :=
  serves_serve hs h

/-- Reading through interruptions gets the first serving of the stock, or nothing if there is
none. -/
theorem serves_readSteadily (hs : 0 < size) {source : Source} (h : source.Steady) :
    Serves size source (source.readSteadily size).answer (source.readSteadily size).next ∧
      ∃ bytes, (source.readSteadily size).answer = .ok bytes := by
  fun_induction readSteadily source size with
  | case1 source step bytes hanswer =>
    have hread := serves_read hs h
    rw [show (source.read size).answer = _ from hanswer] at hread
    exact ⟨hread, bytes, rfl⟩
  | case2 source step failure hanswer hkind ih =>
    -- an interrupted read leaves the stock as it is
    have hread := serves_read hs h
    rw [show (source.read size).answer = _ from hanswer] at hread
    obtain ⟨hlater, hok⟩ := ih hread.steady
    exact ⟨⟨hlater.steady, hlater.stock.trans hread.stock, hlater.ended, hlater.interrupted⟩, hok⟩
  | case3 source step failure hanswer hkind =>
    exact absurd ((serves_read hs h).interrupted failure hanswer) hkind

end Source

namespace Reader

/-! ## Reading to the end -/

/-- A read that brings something takes from the source, or from what waits, or from what is owed. -/
theorem draw_progress {r : Reader c} {length : Nat} {b : UInt8} {bytes : Bytes}
    (hl : 0 < length) (h : (r.draw length).answer = .ok (b :: bytes)) :
    let r' := (r.draw length).next
    r'.source.weight < r.source.weight ∨ r'.source.weight = r.source.weight ∧
      Prod.Lex (· < ·) (· < ·) (r'.decoder.backlog, r'.decoder.owed)
        (r.decoder.backlog, r.decoder.owed) := by
  fun_induction draw r length with
  | case1 => cases h
  | case2 r drawn r₁ b' bytes' hanswer =>
    right
    refine ⟨rfl, ?_⟩
    have hbusy : r.decoder.needsInput = false := by
      cases hidle : r.decoder.needsInput with
      | false => rfl
      | true =>
        -- an idle decoder brings nothing
        have hnothing : (r.decoder.draw length).answer = .ok [] := by
          rw [Decoder.draw_of_idle hidle]
          rfl
        rw [show (r.decoder.draw length).answer = _ from hanswer] at hnothing
        cases hnothing
    exact Decoder.draw_progress hl hbusy hanswer
  | case3 => cases h
  | case4 => cases h
  | case5 => cases h
  | case6 r drawn r₁ hanswer hgo fetched hfetched ih =>
    -- the source was asked, and got lighter
    left
    have hfetch : r₁.fetch.next.source.weight < r.source.weight := weight_fetch_lt hfetched
    rcases ih h with hless | ⟨heq, -⟩
    · exact Nat.lt_trans hless hfetch
    · exact heq ▸ hfetch

/-- Buffers that a caller brings along, none of them empty. -/
abbrev Buffers := Nat → { out : Bytes // out ≠ [] }

/-- Reads into one buffer after another until a read brings nothing or fails. The answer is what the
reads brought, put together, and how it ended. -/
def readOut (r : Reader c) (outs : Buffers) :
    Step (Reader c) (Bytes × Except ChannelError Unit) :=
  let step := r.readInto (outs 0)
  match _h : step.answer with
  | .error error => ⟨([], .error error), step.next.1, step.events⟩
  | .ok 0 => ⟨([], .ok ()), step.next.1, step.events⟩
  | .ok (_ + 1) =>
    let ran := step.next.1.readOut fun i => outs (i + 1)
    ⟨(received step ++ ran.answer.1, ran.answer.2), ran.next, step.events ++ ran.events⟩
termination_by (r.source.weight, r.decoder.backlog, r.decoder.owed)
decreasing_by
  obtain ⟨hnext, -, hanswer, -⟩ := r.readInto_of_ne_nil (outs 0).2
  rw [hanswer] at _h
  rw [hnext, Prod.lex_def]
  cases hdraw : (r.draw (outs 0).1.length).answer with
  | error error => simp [hdraw, Except.map] at _h
  | ok bytes =>
    cases bytes with
    | nil => simp [hdraw, Except.map] at _h
    | cons b bytes => exact draw_progress (List.length_pos_iff.mpr (outs 0).2) hdraw

theorem relays_readOut (r : Reader c) (outs : Buffers) :
    r.Relays (r.readOut outs).answer.1 (r.readOut outs).events (r.readOut outs).next := by
  fun_induction readOut r outs with
  | case1 r outs step error hanswer =>
    have hstep := r.relays_readInto (outs 0)
    rwa [received, show (r.readInto (outs 0)).answer = _ from hanswer] at hstep
  | case2 r outs step hanswer =>
    have hstep := r.relays_readInto (outs 0)
    rwa [received, show (r.readInto (outs 0)).answer = _ from hanswer] at hstep
  | case3 r outs step count hanswer ran ih => exact (r.relays_readInto (outs 0)).trans ih

/-! ## Readers of steady sources -/

/-- What the source serves to this reader, read by read. -/
def stock (r : Reader c) : List Bytes := r.source.stock r.bufferSize

/-- The source of the reader is steady, and at its end if the reader takes it to be. -/
structure Steady (r : Reader c) : Prop where
  source : r.source.Steady
  ended : r.atEnd = true → r.stock = []

/-- The reader becomes another one, and what it was served is taken from its stock. -/
structure Depletes (r : Reader c) (trace : Trace) (r' : Reader c) : Prop where
  steady : r'.Steady
  stock : trace.servings ++ r'.stock = r.stock

theorem Depletes.trans {r r' r'' : Reader c} {trace later : Trace} (h : r.Depletes trace r')
    (hlater : r'.Depletes later r'') : r.Depletes (trace ++ later) r'' := by
  refine ⟨hlater.steady, ?_⟩
  rw [Trace.servings_append, List.append_assoc, hlater.stock, h.stock]

variable {r : Reader c}

theorem depletes_decoder (h : r.Steady) (length : Nat) :
    r.Depletes (r.decoder.draw length).events { r with decoder := (r.decoder.draw length).next } := by
  refine ⟨⟨h.source, h.ended⟩, ?_⟩
  rw [(r.decoder.drawn length).servings_eq_nil]
  rfl

/-- A steady source is never at fault: a reader whose decoder is idle gets input, or comes to the
end. -/
theorem depletes_fetch (h : r.Steady) (hidle : r.decoder.needsInput = true) :
    r.Depletes r.fetch.events r.fetch.next ∧ ∃ more, r.fetch.answer = .ok more ∧
      (more = false → r.fetch.next.stock = []) := by
  obtain ⟨hserves, bytes, hok⟩ := Source.serves_readSteadily r.bufferSize_pos h.source
  obtain ⟨hservings, -⟩ := r.source.events_readSteadily r.bufferSize
  have hstock : (r.source.readSteadily r.bufferSize).events.servings ++
      (r.source.readSteadily r.bufferSize).next.stock r.bufferSize = r.stock := by
    rw [hservings]
    exact hserves.stock
  cases bytes with
  | nil =>
    have hended := hserves.ended hok
    rw [fetch_of_exhausted hok]
    exact ⟨⟨⟨hserves.steady, fun _ => hended⟩, hstock⟩, false, rfl, fun _ => hended⟩
  | cons b bytes =>
    obtain ⟨decoder, hfeed⟩ := Decoder.exists_feedAll_eq_ok hidle (b :: bytes)
    rw [fetch_of_served hok, hfeed]
    refine ⟨⟨⟨hserves.steady, fun hend => ?_⟩, hstock⟩, true, rfl, fun hfalse => by cases hfalse⟩
    -- a reader at its end would have had nothing in stock
    have hnone := hserves.stock
    rw [show r.source.stock r.bufferSize = [] from h.ended hend, hok] at hnone
    cases hnone

/-- A draw from the decoder that brought nothing, and then a fetch. -/
theorem depletes_ask (h : r.Steady) (length : Nat) :
    let r₁ : Reader c := { r with decoder := (r.decoder.draw length).next }
    ¬ (r₁.atEnd || !r₁.decoder.needsInput) = true →
      r.Depletes ((r.decoder.draw length).events ++ r₁.fetch.events) r₁.fetch.next ∧
        ∃ more, r₁.fetch.answer = .ok more ∧ (more = false → r₁.fetch.next.stock = []) := by
  intro r₁ hgo
  have hdecoder := depletes_decoder h length
  obtain ⟨hfetch, hanswer⟩ := depletes_fetch hdecoder.steady (isIdle_of_asks hgo)
  exact ⟨hdecoder.trans hfetch, hanswer⟩

theorem depletes_draw (h : r.Steady) (length : Nat) :
    r.Depletes (r.draw length).events (r.draw length).next := by
  fun_induction draw r length with
  | case1 r drawn r₁ fault hanswer => exact depletes_decoder h _
  | case2 r drawn r₁ b bytes hanswer => exact depletes_decoder h _
  | case3 r drawn r₁ hanswer hstop => exact depletes_decoder h _
  | case4 r drawn r₁ hanswer hgo fetched error hfetched => exact (depletes_ask h length hgo).1
  | case5 r drawn r₁ hanswer hgo fetched hfetched => exact (depletes_ask h length hgo).1
  | case6 r drawn r₁ hanswer hgo fetched hfetched ih =>
    have hask := (depletes_ask h length hgo).1
    exact hask.trans (ih hask.steady)

/-- A read from a steady source fails only with a fault of the decoder, which is poisoned then. -/
theorem isPoisoned_of_draw_eq_error (h : r.Steady) {length : Nat} {error : ChannelError}
    (herror : (r.draw length).answer = .error error) :
    (r.draw length).next.decoder.engine.pump.isPoisoned = true := by
  fun_induction draw r length with
  | case1 r drawn r₁ fault hanswer =>
    have hdrawn := r.decoder.drawn length
    rw [show (r.decoder.draw length).answer = _ from hanswer] at hdrawn
    exact hdrawn.isPoisoned_of_error
  | case2 => cases herror
  | case3 => cases herror
  | case4 r drawn r₁ hanswer hgo fetched error' hfetched =>
    -- the source is not at fault
    obtain ⟨-, more, hok, -⟩ := depletes_ask h length hgo
    rw [show r₁.fetch.answer = _ from hfetched] at hok
    cases hok
  | case5 => cases herror
  | case6 r drawn r₁ hanswer hgo fetched hfetched ih =>
    exact ih (depletes_ask h length hgo).1.steady herror

/-- A read that was asked for something and brings nothing has used up the stock. -/
theorem stock_eq_nil_of_draw_eq_nil (h : r.Steady) {length : Nat} (hl : 0 < length)
    (hnil : (r.draw length).answer = .ok []) : (r.draw length).next.stock = [] := by
  have hidle := isIdle_of_draw_eq_nil hl hnil
  fun_induction draw r length with
  | case1 => cases hnil
  | case2 => cases hnil
  | case3 r drawn r₁ hanswer hstop =>
    -- the decoder is idle, so it is for its end that the source was not asked
    have hend : r₁.atEnd = true := by
      rw [show r₁.decoder.needsInput = true from hidle] at hstop
      simpa using hstop
    exact h.ended hend
  | case4 => cases hnil
  | case5 r drawn r₁ hanswer hgo fetched hfetched =>
    obtain ⟨-, more, hok, hended⟩ := depletes_ask h length hgo
    rw [show r₁.fetch.answer = _ from hfetched] at hok
    cases hok
    exact hended rfl
  | case6 r drawn r₁ hanswer hgo fetched hfetched ih =>
    exact ih (depletes_ask h length hgo).1.steady hnil hidle

/-- What a read into a buffer does to a reader of a steady source. -/
theorem readInto_of_steady (h : r.Steady) {out : Bytes} (hne : out ≠ []) :
    r.Depletes (r.readInto out).events (r.readInto out).next.1 ∧
      (∀ error, (r.readInto out).answer = .error error →
        (r.readInto out).next.1.decoder.engine.pump.isPoisoned = true) ∧
      ((r.readInto out).answer = .ok 0 →
        (r.readInto out).next.1.decoder.needsInput = true ∧ (r.readInto out).next.1.stock = []) := by
  obtain ⟨hnext, hevents, hanswer, -⟩ := r.readInto_of_ne_nil hne
  have hl : 0 < out.length := List.length_pos_iff.mpr hne
  rw [hnext, hevents, hanswer]
  refine ⟨depletes_draw h out.length, ?_, ?_⟩
  · intro error herror
    cases hdraw : (r.draw out.length).answer with
    | error error' => exact isPoisoned_of_draw_eq_error h hdraw
    | ok bytes => simp [hdraw, Except.map] at herror
  · intro hzero
    have hnil : (r.draw out.length).answer = .ok [] := by
      cases hdraw : (r.draw out.length).answer with
      | error error => simp [hdraw, Except.map] at hzero
      | ok bytes =>
        simp only [hdraw, Except.map, Except.ok.injEq, List.length_eq_zero_iff] at hzero
        rw [hzero]
    exact ⟨isIdle_of_draw_eq_nil hl hnil, stock_eq_nil_of_draw_eq_nil h hl hnil⟩

theorem depletes_readOut (h : r.Steady) (outs : Buffers) :
    r.Depletes (r.readOut outs).events (r.readOut outs).next := by
  fun_induction readOut r outs with
  | case1 r outs step error hanswer => exact (readInto_of_steady h (outs 0).2).1
  | case2 r outs step hanswer => exact (readInto_of_steady h (outs 0).2).1
  | case3 r outs step count hanswer ran ih =>
    have hstep := (readInto_of_steady h (outs 0).2).1
    exact hstep.trans (ih hstep.steady)

/-- Reading a steady source to its end leaves the decoder idle and the stock used up, or it leaves
the decoder poisoned. -/
theorem readOut_ends (h : r.Steady) (outs : Buffers) :
    ((r.readOut outs).answer.2 = .ok () ∧ (r.readOut outs).next.decoder.needsInput = true ∧
        (r.readOut outs).next.stock = []) ∨
      (r.readOut outs).next.decoder.engine.pump.isPoisoned = true := by
  fun_induction readOut r outs with
  | case1 r outs step error hanswer =>
    obtain ⟨-, hpoisoned, -⟩ := readInto_of_steady h (outs 0).2
    exact .inr (hpoisoned error hanswer)
  | case2 r outs step hanswer =>
    obtain ⟨-, -, hended⟩ := readInto_of_steady h (outs 0).2
    exact .inl ⟨rfl, hended hanswer⟩
  | case3 r outs step count hanswer ran ih =>
    exact ih (readInto_of_steady h (outs 0).2).1.steady

end Reader

/-! ## Streams that are accepted -/

/-- If every piece of the inputs is accepted, no call fails. -/
theorem Ledger.Balances.succeeded_of_accepts {ledger : Ledger} {origin e : Engine c d}
    (h : ledger.Balances origin e) (hne : ∀ call ∈ ledger.calls, call.source ≠ [])
    (haccepts : ∀ input ∈ ledger.inputs, ∀ piece ∈ pieces origin.stageSize input,
      c.Accepts d origin.start.2.size piece) :
    ∀ call ∈ ledger.calls, call.failed = false := by
  intro call hcall
  -- the block of the call is a piece of some input
  have hpiece : call.source ∈ ledger.inputs.flatMap (pieces origin.stageSize) := by
    rw [← h.sources, filter_sources hne]
    exact List.mem_append_left _ (List.mem_map_of_mem hcall)
  obtain ⟨input, hinput, hpiece⟩ := List.mem_flatMap.mp hpiece
  rw [h.calls] at hcall
  obtain ⟨state, room, hsize, heq⟩ := BlockTransform.exists_of_mem_callsOn hcall
  rw [heq]
  exact haccepts input hinput call.source hpiece state room hsize

/-- Whatever the calls answer, they are on the pieces of the stock, as far as they go. -/
theorem Reader.sources_readOut_prefix {r : Reader c} (h : r.Steady)
    (hidle : r.decoder.needsInput = true) (outs : Buffers) :
    (r.readOut outs).events.calls.map BlockCall.source <+:
      r.stock.flatMap (pieces r.decoder.engine.stageSize) := by
  have hrelays := r.relays_readOut outs
  have hsources := (hrelays.passes.balances hidle).sources
  rw [Ledger.Balances.filter_sources hrelays.source_ne_nil] at hsources
  rw [← (depletes_readOut h outs).stock, List.flatMap_append]
  -- what waits and what was not served is the rest
  exact List.prefix_append_of_prefix ⟨_, hsources⟩

/-- **Reading to the end.** If the decoder accepts every piece of the stock of a steady source, then
reading to the end succeeds, whatever the buffers. All of the stock is served, there is one call on
each of its pieces, and the reads bring all that these calls put out. -/
theorem Reader.readOut_of_accepts {r : Reader c} (h : r.Steady)
    (hidle : r.decoder.needsInput = true)
    (haccepts : ∀ serving ∈ r.stock, ∀ piece ∈ pieces r.decoder.engine.stageSize serving,
      c.Accepts .decode r.decoder.engine.start.2.size piece) (outs : Buffers) :
    let ran := r.readOut outs
    ran.events.servings = r.stock ∧
      ran.events.calls = c.callsOn .decode r.decoder.engine.start
        (r.stock.flatMap (pieces r.decoder.engine.stageSize)) ∧
      ran.answer = (ran.events.calls.flatMap BlockCall.output, .ok ()) := by
  intro ran
  have hrelays : r.Relays ran.answer.1 ran.events ran.next := r.relays_readOut outs
  have hdepletes : r.Depletes ran.events ran.next := depletes_readOut h outs
  have hbalances : Ledger.Balances ⟨ran.events.servings, ran.events.calls, ran.answer.1⟩
      r.decoder.engine ran.next.decoder.engine := hrelays.passes.balances hidle
  -- what was served is in stock, so no call failed
  have hsucceeded : ∀ call ∈ ran.events.calls, call.failed = false := by
    refine hbalances.succeeded_of_accepts hrelays.source_ne_nil fun serving hserving => ?_
    refine haccepts serving ?_
    rw [← hdepletes.stock]
    exact List.mem_append_left _ hserving
  have husable := Bool.eq_false_iff.mp (hbalances.usable hsucceeded)
  obtain ⟨hok, hidle', hstock⟩ := (readOut_ends h outs).resolve_right husable
  -- and the ledger is complete
  have hservings : ran.events.servings = r.stock := by
    rw [← hdepletes.stock, show ran.next.stock = [] from hstock, List.append_nil]
  have hsources := hbalances.sources_of_idle hidle' hrelays.source_ne_nil
  have hcalls := hbalances.calls
  rw [hsources, hservings] at hcalls
  refine ⟨hservings, hcalls, Prod.ext ?_ hok⟩
  exact hbalances.returned_of_idle hidle'

end Blockwise
