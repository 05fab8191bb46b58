import Blockwise.Proofs.Reference

/-!
# Ledger — what went into a stream and what came out of it

A ledger lists the inputs that an engine accepted, the block calls it made and the bytes it handed
out. It *balances* against the engine if nothing is missing on either side: the calls are those of
the reference on their blocks, the blocks together with what still waits are the pieces of the
inputs, and the bytes handed out together with those still owed are what the calls contributed.

Each operation of an engine keeps the ledger balanced. The operations of an encoder or a decoder
are made of these, and `Engine.Drawn` says how for the one that is not obvious: a draw makes at
most one stroke, and only when nothing is owed.

## Results

* `Engine.Drawn.conserves` — what was owed and what the calls of a draw contribute is what the
  draw hands out and what is owed after it.
* `Ledger.Balances.feed`, `Ledger.Balances.stroke`, `Ledger.Balances.handOut`,
  `Ledger.Balances.drawn` — every step keeps a balanced ledger balanced, whatever the transform
  does.
* `Ledger.Balances.sources_of_idle`, `Ledger.Balances.returned_of_idle` — of an idle engine, the
  ledger is complete: all pieces of the inputs, and all that the calls put out.
-/

namespace Blockwise

universe u v

variable {σ : Type u} {c : BlockTransform σ} {d : Direction}

/-! ## Taking input -/

theorem eq_error_of_map {α : Type u} {β : Type v} {f : α → β} {answer : Except Fault α}
    {fault : Fault} (h : answer.map f = .error fault) : answer = .error fault := by
  cases answer with
  | error fault' =>
    cases h
    rfl
  | ok a => cases h

theorem exists_eq_ok_of_map {α : Type u} {β : Type v} {f : α → β} {answer : Except Fault α} {b : β}
    (h : answer.map f = .ok b) : ∃ a, answer = .ok a ∧ f a = b := by
  cases answer with
  | error fault => cases h
  | ok a =>
    cases h
    exact ⟨a, rfl, rfl⟩

theorem Pump.feed_eq_ok_iff {p q : Pump} {data : Bytes} {offset length : Nat} :
    p.feed data offset length = .ok q ↔
      offset + length ≤ data.length ∧ p.isPoisoned = false ∧ p.waiting = [] ∧
        q = { p with waiting := (data.drop offset).take length } := by
  unfold Pump.feed Pump.requireUsable
  by_cases hr : offset + length ≤ data.length
  · -- a range within the data: then the state of the pump decides
    rw [requireRange_eq_ok_iff.mpr hr]
    simp only [bind, Except.bind, hr, true_and]
    cases hp : p.isPoisoned with
    | true => simp
    | false =>
      simp only [Bool.false_eq_true, if_false, true_and, List.isEmpty_iff]
      split
      · rename_i hw
        simp only [Except.ok.injEq, hw, true_and]
        exact eq_comm
      · rename_i hw
        simp [hw]
  · simp [requireRange, hr, bind, Except.bind]

namespace Engine

/-- An engine takes what its pump takes. -/
theorem map_pump_feed (e : Engine c d) (data : Bytes) (offset length : Nat) :
    (e.feed data offset length).map pump = e.pump.feed data offset length := by
  unfold feed
  split <;> simp [Except.map, *]

/-- An engine that takes an input had nothing waiting and was not poisoned. Only what waits
changes. -/
theorem of_feed_eq_ok {e e' : Engine c d} {data : Bytes} {offset length : Nat}
    (h : e.feed data offset length = .ok e') :
    e.waiting = [] ∧ e.pump.isPoisoned = false ∧
      e'.pump = { e.pump with waiting := (data.drop offset).take length } ∧
      e'.state = e.state := by
  unfold feed at h
  split at h
  · cases h
  · rename_i pump hfeed
    cases h
    obtain ⟨-, husable, hwaiting, hnext⟩ := Pump.feed_eq_ok_iff.mp hfeed
    exact ⟨hwaiting, husable, hnext, rfl⟩

theorem exists_feed_eq_ok {e : Engine c d} {data : Bytes} {offset length : Nat}
    (hr : offset + length ≤ data.length) (hp : e.pump.isPoisoned = false) (hw : e.waiting = []) :
    ∃ e', e.feed data offset length = .ok e' := by
  have hok := Pump.feed_eq_ok_iff.mpr ⟨hr, hp, hw, rfl⟩
  -- the engine matches on the answer of its pump, which is no fault
  unfold feed
  split
  · rename_i hfault
    rw [hok] at hfault
    cases hfault
  · exact ⟨_, rfl⟩

/-! ## Drawing -/

/-- How a draw of at most `length` bytes can end: its answer, the engine it leaves and what
happened. It is refused by a poisoned engine, gets nothing from an idle one, and otherwise hands
out what is owed, after a stroke if that is nothing. -/
inductive Drawn (e : Engine c d) (length : Nat) :
    Except Fault Bytes → Engine c d → Trace → Prop where
  | refused (hp : e.pump.isPoisoned = true) : Drawn e length (.error .poisoned) e []
  | idle (hi : e.isIdle = true) : Drawn e length (.ok []) e []
  | owing (ho : e.pump.isOwing = true) :
    Drawn e length (.ok (e.draw length).1) (e.draw length).2 []
  | failed (hp : e.pump.isPoisoned = false) (ho : e.pump.isOwing = false)
    (hf : e.nextCall.failed = true) :
    Drawn e length (.error e.nextCall.fault) e.stroke.next e.stroke.events
  | struck (hp : e.pump.isPoisoned = false) (ho : e.pump.isOwing = false)
    (hs : e.nextCall.failed = false) :
    Drawn e length (.ok (e.stroke.next.draw length).1) (e.stroke.next.draw length).2
      e.stroke.events

/-- The bytes that an answer brings: none if it is a fault. -/
def drawnBytes : Except Fault Bytes → Bytes
  | .ok bytes => bytes
  | .error _ => []

theorem unread_eq_nil_of_not_owing {e : Engine c d} (h : e.pump.isOwing = false) :
    e.unread = [] := by
  unfold unread
  unfold Pump.isOwing at h
  split at h
  · cases h
  · rename_i hw
    rw [hw]
    rfl
  · rename_i hw
    rw [hw]
    rfl

/-- The next chunk and what waits behind it, cut into pieces, are the pieces of what waits. -/
theorem pieces_stroke {e : Engine c d} (hp : e.pump.isPoisoned = false) :
    [e.nextCall.source].filter (· ≠ []) ++ pieces e.stageSize e.stroke.next.waiting =
      pieces e.stageSize e.waiting := by
  by_cases hw : e.waiting = []
  · -- a stroke on nothing stages an empty chunk, which is no piece
    rw [waiting_stroke hp, nextCall, BlockTransform.source_callOn, hw]
    simp [pieces_nil]
  · have hchunk : [e.nextCall.source].filter (· ≠ []) = [e.nextCall.source] := by
      simp [source_nextCall_ne_nil hw]
    rw [hchunk, waiting_stroke hp, pieces_of_ne_nil e.stageSize_pos hw]
    rfl

theorem unread_stroke {e : Engine c d} (hp : e.pump.isPoisoned = false) :
    e.stroke.next.unread = e.nextCall.contribution := by
  have hw := window_stroke hp
  unfold unread
  rw [show e.stroke.next.pump.window = e.stroke.next.window from rfl, hw, BlockCall.contribution]
  split
  · rfl
  · exact Window.unread_ofProduced ..

@[simp] theorem start_draw (e : Engine c d) (length : Nat) :
    (e.draw length).2.start = e.start := rfl

@[simp] theorem waiting_draw (e : Engine c d) (length : Nat) :
    (e.draw length).2.waiting = e.waiting := rfl

theorem unread_draw (e : Engine c d) (length : Nat) :
    (e.draw length).1 ++ (e.draw length).2.unread = e.unread := by
  show e.unread.take length ++ (e.pump.window.advance length).unread = e.unread
  rw [Window.unread_advance]
  exact List.take_append_drop ..

theorem isPoisoned_draw (e : Engine c d) (length : Nat) :
    (e.draw length).2.pump.isPoisoned = e.pump.isPoisoned := by
  show decide ((e.pump.window.advance length) = .poisoned) = decide (e.pump.window = .poisoned)
  cases e.pump.window with
  | empty => rfl
  | poisoned => rfl
  | draining read unread =>
    cases hrest : unread.drop length <;> simp [Window.advance, hrest]

theorem isPoisoned_stroke {e : Engine c d} (hp : e.pump.isPoisoned = false) :
    e.stroke.next.pump.isPoisoned = e.nextCall.failed := by
  unfold Pump.isPoisoned
  rw [show e.stroke.next.pump.window = e.stroke.next.window from rfl, window_stroke hp,
    Window.ofProduced]
  cases e.nextCall.failed with
  | true => rfl
  | false => cases e.nextCall.output <;> simp

/-- Bytes are neither made nor lost by a draw. -/
theorem Drawn.conserves {e e' : Engine c d} {length : Nat} {answer : Except Fault Bytes}
    {events : Trace} (h : e.Drawn length answer e' events) :
    e.unread ++ events.contribution = drawnBytes answer ++ e'.unread := by
  cases h with
  | refused hp => simp [Trace.contribution, Trace.calls, drawnBytes]
  | idle hi => simp [Trace.contribution, Trace.calls, drawnBytes]
  | owing ho =>
    rw [drawnBytes, unread_draw]
    simp [Trace.contribution, Trace.calls]
  | failed hp ho hf =>
    rw [unread_eq_nil_of_not_owing ho, Trace.contribution, calls_stroke hp, unread_stroke hp]
    simp [drawnBytes]
  | struck hp ho hs =>
    -- nothing was owed, so all that is handed out or left comes from the call
    rw [unread_eq_nil_of_not_owing ho, Trace.contribution, calls_stroke hp, drawnBytes,
      unread_draw, unread_stroke hp]
    simp

/-- A draw has nothing to do with a sink or a source. -/
theorem Drawn.block_or_remark {e e' : Engine c d} {length : Nat} {answer : Except Fault Bytes}
    {events : Trace} (h : e.Drawn length answer e' events) {event : Event}
    (hevent : event ∈ events) :
    (∃ call, event = .block call) ∨ ∃ diagnostic, event = .remark diagnostic := by
  cases h with
  | refused hp => cases hevent
  | idle hi => cases hevent
  | owing ho => cases hevent
  | failed hp ho hf => exact block_or_remark_of_mem_stroke hevent
  | struck hp ho hs => exact block_or_remark_of_mem_stroke hevent

/-- What sees neither blocks nor remarks sees nothing of a draw. -/
theorem Drawn.filterMap_eq_nil {α : Type} {f : Event → Option α} {e e' : Engine c d} {length : Nat}
    {answer : Except Fault Bytes} {events : Trace} (h : e.Drawn length answer e' events)
    (hblock : ∀ call, f (.block call) = none) (hremark : ∀ remark, f (.remark remark) = none) :
    events.filterMap f = [] := by
  refine List.filterMap_eq_nil_iff.mpr fun event hevent => ?_
  rcases h.block_or_remark hevent with ⟨call, rfl⟩ | ⟨remark, rfl⟩
  · exact hblock call
  · exact hremark remark

/-- A draw that fails leaves a poisoned engine. -/
theorem Drawn.isPoisoned_of_error {e e' : Engine c d} {length : Nat} {fault : Fault}
    {events : Trace} (h : e.Drawn length (.error fault) e' events) :
    e'.pump.isPoisoned = true := by
  cases h with
  | refused hp => exact hp
  | failed hp ho hf =>
    rw [isPoisoned_stroke hp]
    exact hf

/-- A draw from an engine that is not idle makes no call on an empty block. -/
theorem Drawn.source_ne_nil_of_busy {e e' : Engine c d} {length : Nat}
    {answer : Except Fault Bytes} {events : Trace} (h : e.Drawn length answer e' events)
    (hbusy : e.isIdle = false) : ∀ call ∈ events.calls, call.source ≠ [] := by
  -- a stroke comes only where nothing is owed, and then something waits
  have hstroke : e.pump.isPoisoned = false → e.pump.isOwing = false →
      ∀ call ∈ e.stroke.events.calls, call.source ≠ [] := by
    intro hp ho call hcall
    rw [(mem_calls_stroke hp).mp hcall]
    exact source_nextCall_ne_nil (waiting_ne_nil_of_busy hbusy hp ho)
  cases h with
  | refused hp => exact fun call hcall => by cases hcall
  | idle hi => exact fun call hcall => by cases hcall
  | owing ho => exact fun call hcall => by cases hcall
  | failed hp ho hf => exact hstroke hp ho
  | struck hp ho hs => exact hstroke hp ho

/-- A draw of at least one byte that succeeds, from an engine that is not idle, brings at least one
byte. -/
theorem Drawn.ne_nil_of_busy {e e' : Engine c d} {length : Nat} {bytes : Bytes} {events : Trace}
    (h : e.Drawn length (.ok bytes) e' events) (hbusy : e.isIdle = false) (hl : 0 < length) :
    bytes ≠ [] := by
  have htake : ∀ e : Engine c d, 0 < e.owed → e.unread.take length ≠ [] := by
    intro e howed hnil
    have hlength : (e.unread.take length).length = min length e.owed := List.length_take ..
    rw [hnil, List.length_nil] at hlength
    omega
  cases h with
  | idle hi => simp [hbusy] at hi
  | owing ho => exact htake e (owed_pos_of_isOwing ho)
  | struck hp ho hs =>
    have hanswer := answer_stroke hp
    rw [hs, if_neg Bool.false_ne_true] at hanswer
    exact htake e.stroke.next (stroke_progress (waiting_ne_nil_of_busy hbusy hp ho) hanswer).2

end Engine

/-! ## Ledgers -/

/-- The record of a stream. -/
structure Ledger where
  /-- The inputs that were accepted. -/
  inputs : List Bytes
  /-- The block calls that were made. -/
  calls : List BlockCall
  /-- The bytes that were handed out. -/
  returned : Bytes

namespace Ledger

/-- The record of a stream that has not begun. -/
def blank : Ledger := ⟨[], [], []⟩

/-- Notes an accepted input. -/
def accept (ledger : Ledger) (input : Bytes) : Ledger :=
  { ledger with inputs := ledger.inputs ++ [input] }

/-- Notes block calls and bytes that were handed out. -/
def enter (ledger : Ledger) (calls : List BlockCall) (returned : Bytes) : Ledger :=
  { ledger with calls := ledger.calls ++ calls, returned := ledger.returned ++ returned }

@[simp] theorem enter_nil (ledger : Ledger) : ledger.enter [] [] = ledger := by
  simp [enter]

/-- The blocks that were given to the transform. -/
def sources (ledger : Ledger) : List Bytes := ledger.calls.map BlockCall.source

/-- What the block calls contributed to the stream. -/
def contribution (ledger : Ledger) : Bytes := ledger.calls.flatMap BlockCall.contribution

/-- The ledger accounts for everything between two states of an engine: the one at the beginning of
the stream, and the one now. -/
structure Balances (ledger : Ledger) (origin e : Engine c d) : Prop where
  stageSize : e.stageSize = origin.stageSize
  /-- The calls are those that the transform makes on their blocks, one after another. -/
  calls : ledger.calls = c.callsOn d origin.start ledger.sources
  start : e.start = c.leaveAll d origin.start ledger.sources
  /-- The blocks are the pieces of the inputs, as far as they were staged. -/
  sources : ledger.sources.filter (· ≠ []) ++ pieces origin.stageSize e.waiting =
    ledger.inputs.flatMap (pieces origin.stageSize)
  /-- What was handed out and what is owed is what the calls contributed. -/
  bytes : ledger.returned ++ e.unread = ledger.contribution
  poisoned : e.pump.isPoisoned = ledger.calls.any BlockCall.failed

/-- Calls that succeed contribute what they put out. -/
theorem flatMap_contribution_of_succeeded {calls : List BlockCall}
    (h : ∀ call ∈ calls, call.failed = false) :
    calls.flatMap BlockCall.contribution = calls.flatMap BlockCall.output := by
  have hmap : calls.map BlockCall.contribution = calls.map BlockCall.output := by
    refine List.map_congr_left fun call hcall => ?_
    rw [BlockCall.contribution, h call hcall]
    rfl
  rw [List.flatMap_def, List.flatMap_def, hmap]

namespace Balances

variable {ledger : Ledger} {origin e : Engine c d}

theorem blank {e : Engine c d} (h : e.isIdle = true) : Ledger.blank.Balances e e := by
  -- nothing waits and nothing is owed
  refine ⟨rfl, rfl, rfl, ?_, ?_, Engine.isPoisoned_of_isIdle h⟩
  · rw [(Engine.isIdle_iff.mp h).2, pieces_nil]
    rfl
  · rw [Engine.unread_of_isIdle h]
    rfl

theorem feed {e' : Engine c d} (h : ledger.Balances origin e) {data : Bytes}
    {offset length : Nat} (hfeed : e.feed data offset length = .ok e') :
    (ledger.accept ((data.drop offset).take length)).Balances origin e' := by
  obtain ⟨hwaiting, -, hnext, hstate⟩ := Engine.of_feed_eq_ok hfeed
  have hsources := h.sources
  rw [hwaiting, pieces_nil, List.append_nil] at hsources
  refine ⟨?_, h.calls, ?_, ?_, ?_, ?_⟩
  · rw [Engine.stageSize, hnext]
    exact h.stageSize
  · rw [Engine.start, hnext, hstate]
    exact h.start
  · -- nothing was waiting, so the pieces of the new input come right after the blocks so far
    rw [Engine.waiting, hnext, accept, List.flatMap_append, ← hsources]
    simp [Ledger.sources]
  · rw [Engine.unread, hnext]
    exact h.bytes
  · rw [hnext]
    exact h.poisoned

theorem stroke (h : ledger.Balances origin e) (hp : e.pump.isPoisoned = false)
    (ho : e.pump.isOwing = false) :
    (ledger.enter [e.nextCall] []).Balances origin e.stroke.next := by
  have hsource : (ledger.enter [e.nextCall] []).sources =
      ledger.sources ++ [e.nextCall.source] := by
    simp [Ledger.sources, enter]
  have hcall : e.nextCall =
      c.callOn d (c.leaveAll d origin.start ledger.sources) e.nextCall.source := by
    rw [← h.start]
    rfl
  refine ⟨?_, ?_, ?_, ?_, ?_, ?_⟩
  · rw [Engine.stageSize_stroke, h.stageSize]
  · -- the call begins where the reference stands after the blocks so far
    rw [hsource, BlockTransform.callsOn_concat, ← hcall, ← h.calls]
    rfl
  · rw [hsource, BlockTransform.leaveAll_concat, Engine.start_stroke hp, h.start]
  · -- the chunk moves from what waits to the blocks
    have hpieces := Engine.pieces_stroke hp
    rw [h.stageSize] at hpieces
    rw [hsource, List.filter_append, List.append_assoc, hpieces]
    exact h.sources
  · -- nothing was owed, so the contribution of the call is all that is
    have hbytes := h.bytes
    rw [Engine.unread_eq_nil_of_not_owing ho, List.append_nil] at hbytes
    rw [Engine.unread_stroke hp, Ledger.contribution]
    simp only [enter, List.append_nil, List.flatMap_append, hbytes, Ledger.contribution,
      List.flatMap_cons, List.flatMap_nil]
  · -- the engine was not poisoned, so no call before this one failed
    rw [Engine.isPoisoned_stroke hp]
    have hpoisoned := h.poisoned
    rw [hp] at hpoisoned
    simp [enter, ← hpoisoned]

theorem handOut (h : ledger.Balances origin e) (length : Nat) :
    (ledger.enter [] (e.draw length).1).Balances origin (e.draw length).2 := by
  refine ⟨h.stageSize, ?_, ?_, ?_, ?_, ?_⟩
  · simpa [enter, Ledger.sources] using h.calls
  · simpa [enter, Ledger.sources] using h.start
  · simpa [enter, Ledger.sources] using h.sources
  · -- bytes pass from those owed to those handed out
    have hbytes := h.bytes
    rw [← Engine.unread_draw e length, ← List.append_assoc] at hbytes
    simpa [enter, Ledger.contribution] using hbytes
  · rw [Engine.isPoisoned_draw, h.poisoned]
    simp [enter]

theorem drawn (h : ledger.Balances origin e) {e' : Engine c d} {length : Nat}
    {answer : Except Fault Bytes} {events : Trace} (hd : e.Drawn length answer e' events) :
    (ledger.enter events.calls (Engine.drawnBytes answer)).Balances origin e' := by
  cases hd with
  | refused hp => simpa [Engine.drawnBytes, Trace.calls] using h
  | idle hi => simpa [Engine.drawnBytes, Trace.calls] using h
  | owing ho => exact h.handOut length
  | failed hp ho hf =>
    rw [Engine.calls_stroke hp]
    exact h.stroke hp ho
  | struck hp ho hs =>
    -- a stroke, and then a hand-out of what it left owed
    rw [Engine.calls_stroke hp]
    have hboth := (h.stroke hp ho).handOut length
    simpa [enter, Engine.drawnBytes] using hboth

/-! ### What a ledger tells of its engine -/

/-- No call failed before an engine that is not poisoned. -/
theorem succeeded (h : ledger.Balances origin e) (hp : e.pump.isPoisoned = false) :
    ∀ call ∈ ledger.calls, call.failed = false := by
  have hpoisoned := h.poisoned
  rw [hp] at hpoisoned
  simpa using hpoisoned.symm

/-- An engine none of whose calls failed is not poisoned. -/
theorem usable (h : ledger.Balances origin e) (hcalls : ∀ call ∈ ledger.calls, call.failed = false) :
    e.pump.isPoisoned = false := by
  rw [h.poisoned, List.any_eq_false]
  intro call hcall
  rw [hcalls call hcall]
  exact Bool.false_ne_true

theorem succeeded_of_idle (h : ledger.Balances origin e) (hidle : e.isIdle = true) :
    ∀ call ∈ ledger.calls, call.failed = false :=
  h.succeeded (Engine.isPoisoned_of_isIdle hidle)

/-- If no block was empty, all of them are pieces. -/
theorem filter_sources {ledger : Ledger} (hne : ∀ call ∈ ledger.calls, call.source ≠ []) :
    ledger.sources.filter (· ≠ []) = ledger.sources := by
  rw [List.filter_eq_self]
  intro source hsource
  obtain ⟨call, hcall, rfl⟩ := List.mem_map.mp hsource
  simpa using hne call hcall

/-- If nothing waits and no block was empty, the blocks are all the pieces of the inputs. -/
theorem sources_of_idle (h : ledger.Balances origin e) (hidle : e.isIdle = true)
    (hne : ∀ call ∈ ledger.calls, call.source ≠ []) :
    ledger.sources = ledger.inputs.flatMap (pieces origin.stageSize) := by
  have hsources := h.sources
  rwa [(Engine.isIdle_iff.mp hidle).2, pieces_nil, List.append_nil, filter_sources hne] at hsources

/-- If nothing is owed, all that the calls put out was handed out. -/
theorem returned_of_unread_eq_nil (h : ledger.Balances origin e) (hp : e.pump.isPoisoned = false)
    (hunread : e.unread = []) : ledger.returned = ledger.calls.flatMap BlockCall.output := by
  have hbytes := h.bytes
  rw [hunread, List.append_nil, contribution,
    flatMap_contribution_of_succeeded (h.succeeded hp)] at hbytes
  exact hbytes

theorem returned_of_idle (h : ledger.Balances origin e) (hidle : e.isIdle = true) :
    ledger.returned = ledger.calls.flatMap BlockCall.output :=
  h.returned_of_unread_eq_nil (Engine.isPoisoned_of_isIdle hidle) (Engine.unread_of_isIdle hidle)

/-- A draw that poisons the engine makes one call and brings nothing. Nothing was owed at that
time: all that the calls before had put out was handed out. -/
theorem drawn_of_poisons (h : ledger.Balances origin e) {e' : Engine c d} {length : Nat}
    {answer : Except Fault Bytes} {events : Trace} (hd : e.Drawn length answer e' events)
    (hp : e.pump.isPoisoned = false) (hp' : e'.pump.isPoisoned = true) :
    ∃ call, events.calls = [call] ∧ Engine.drawnBytes answer = [] ∧
      ledger.returned = ledger.calls.flatMap BlockCall.output := by
  cases hd with
  | refused hpoisoned => simp [hp] at hpoisoned
  | idle hi => simp [hp] at hp'
  | owing ho => simp [Engine.isPoisoned_draw, hp] at hp'
  | failed _ ho hf =>
    exact ⟨e.nextCall, Engine.calls_stroke hp, rfl,
      h.returned_of_unread_eq_nil hp (Engine.unread_eq_nil_of_not_owing ho)⟩
  | struck _ ho hs => simp [Engine.isPoisoned_draw, Engine.isPoisoned_stroke hp, hs] at hp'

end Balances

end Ledger

end Blockwise
