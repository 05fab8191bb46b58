import Blockwise.Engine

/-!
# Reference — block calls one after another

What a block call answers depends on the transform, on the state and the room that the call before
it left, and on the block. So a list of blocks determines a list of calls: `callsOn` makes them one
after another, with nothing staged and nothing handed out in between. This is what the calls of an
engine are compared with, however its input came and its output went.

## Results

* `BlockTransform.callsOn_concat` — one more block is one more call, in the state that the others
  leave.
* `Engine.calls_stroke`, `Engine.start_stroke`, `Engine.window_stroke` — a stroke of an engine that
  is not poisoned makes exactly the call on the next chunk, and leaves what that call leaves.
-/

namespace Blockwise

universe u

variable {σ : Type u}

namespace BlockTransform

/-- The call of a transform on a block, in the given state and with the given room. -/
def callOn (c : BlockTransform σ) (d : Direction) (start : σ × Room) (source : Bytes) :
    BlockCall :=
  let filling := c.apply d start.1 start.2 source
  { codec := c.name
    direction := d
    source := source
    capacity := start.2.size
    reported := filling.reported
    output := (filling.fill start.2).bytes.take filling.reported }

/-- The state and the room after the call on a block. -/
def leave (c : BlockTransform σ) (d : Direction) (start : σ × Room) (source : Bytes) : σ × Room :=
  let filling := c.apply d start.1 start.2 source
  (filling.state, filling.fill start.2)

/-- The state and the room after the calls on consecutive blocks. -/
def leaveAll (c : BlockTransform σ) (d : Direction) (start : σ × Room) (sources : List Bytes) :
    σ × Room :=
  sources.foldl (c.leave d) start

/-- The calls on consecutive blocks, each in the state and with the room that the one before it
left. -/
def callsOn (c : BlockTransform σ) (d : Direction) (start : σ × Room) : List Bytes → List BlockCall
  | [] => []
  | source :: sources => c.callOn d start source :: c.callsOn d (c.leave d start source) sources

variable {c : BlockTransform σ} {d : Direction}

@[simp] theorem source_callOn (start : σ × Room) (source : Bytes) :
    (c.callOn d start source).source = source := rfl

@[simp] theorem capacity_callOn (start : σ × Room) (source : Bytes) :
    (c.callOn d start source).capacity = start.2.size := rfl

@[simp] theorem size_leave (start : σ × Room) (source : Bytes) :
    (c.leave d start source).2.size = start.2.size := rfl

@[simp] theorem size_leaveAll (start : σ × Room) (sources : List Bytes) :
    (c.leaveAll d start sources).2.size = start.2.size := by
  induction sources generalizing start with
  | nil => rfl
  | cons source sources ih => exact (ih (c.leave d start source)).trans (size_leave ..)

theorem leaveAll_concat (start : σ × Room) (sources : List Bytes) (source : Bytes) :
    c.leaveAll d start (sources ++ [source]) = c.leave d (c.leaveAll d start sources) source := by
  rw [leaveAll, List.foldl_append]
  rfl

theorem callsOn_concat (start : σ × Room) (sources : List Bytes) (source : Bytes) :
    c.callsOn d start (sources ++ [source]) =
      c.callsOn d start sources ++ [c.callOn d (c.leaveAll d start sources) source] := by
  induction sources generalizing start with
  | nil => rfl
  | cons first sources ih =>
    -- both sides begin with the call on the first block, which leaves the start of the rest
    rw [List.cons_append, callsOn, ih, callsOn, List.cons_append]
    rfl

@[simp] theorem map_source_callsOn (start : σ × Room) (sources : List Bytes) :
    (c.callsOn d start sources).map BlockCall.source = sources := by
  induction sources generalizing start with
  | nil => rfl
  | cons source sources ih => rw [callsOn, List.map_cons, ih, source_callOn]

/-- Every call of a list is the call on its own block, in some state and with a room of the size
that the first one had. -/
theorem exists_of_mem_callsOn {start : σ × Room} {sources : List Bytes} {call : BlockCall}
    (h : call ∈ c.callsOn d start sources) :
    ∃ state room, room.size = start.2.size ∧ call = c.callOn d (state, room) call.source := by
  induction sources generalizing start with
  | nil => cases h
  | cons source sources ih =>
    rcases List.mem_cons.mp h with rfl | h
    · exact ⟨start.1, start.2, rfl, rfl⟩
    · -- the room of a later call is the one that the first call left, of the same size
      obtain ⟨state, room, hsize, hcall⟩ := ih h
      exact ⟨state, room, hsize.trans (size_leave ..), hcall⟩

end BlockTransform

/-- A call that succeeds puts out as many bytes as it reports. -/
theorem length_output_callOn {c : BlockTransform σ} {d : Direction} {start : σ × Room}
    {source : Bytes} (h : (c.callOn d start source).failed = false) :
    (c.callOn d start source).output.length = (c.callOn d start source).reported := by
  obtain ⟨-, hle⟩ := BlockCall.failed_eq_false_iff.mp h
  simp only [BlockTransform.callOn] at hle ⊢
  -- the room holds as many bytes as it has, so as many as were reported
  rw [List.length_take, Room.length_bytes, Filling.size_fill]
  omega

/-! ## Results given as a whole -/

/-- A transform that gives its result as a whole reports and puts out just that, if it fits. -/
theorem callOn_of_apply_eq_whole {c : BlockTransform σ} {d : Direction} {state state' : σ}
    {room : Room} {source output : Bytes}
    (happly : c.apply d state room source = .whole state' room output)
    (hfits : output.length ≤ room.size) :
    (c.callOn d (state, room) source).reported = output.length ∧
      (c.callOn d (state, room) source).output = output := by
  have hroom : 0 + output.length ≤ room.bytes.length := by
    rw [room.length_bytes]
    omega
  simp only [BlockTransform.callOn, happly, Filling.whole, hfits, if_true, true_and]
  exact take_drop_overlay hroom

/-! ## The call of a stroke -/

namespace Engine

variable {c : BlockTransform σ} {d : Direction}

/-- The most bytes that a stroke stages. -/
def stageSize (e : Engine c d) : Nat := e.pump.stageSize

theorem stageSize_pos (e : Engine c d) : 0 < e.stageSize := e.pump_stageSize_pos

/-- The input that waits to be staged. -/
def waiting (e : Engine c d) : Bytes := e.pump.waiting

/-- The bytes that are owed to the caller. -/
def unread (e : Engine c d) : Bytes := e.pump.window.unread

theorem isIdle_iff {e : Engine c d} :
    e.isIdle = true ↔ e.pump.window = .empty ∧ e.waiting = [] := by
  simp [isIdle, Pump.isIdle, waiting]

theorem isPoisoned_iff {e : Engine c d} : e.pump.isPoisoned = true ↔ e.window = .poisoned := by
  simp [Pump.isPoisoned, window]

theorem isPoisoned_eq_false_iff {e : Engine c d} :
    e.pump.isPoisoned = false ↔ e.window ≠ .poisoned := by
  simp [Pump.isPoisoned, window]

theorem isPoisoned_of_isIdle {e : Engine c d} (h : e.isIdle = true) :
    e.pump.isPoisoned = false := by
  simp [Pump.isPoisoned, (isIdle_iff.mp h).1]

theorem unread_of_isIdle {e : Engine c d} (h : e.isIdle = true) : e.unread = [] := by
  rw [unread, (isIdle_iff.mp h).1]
  rfl

/-- The state and the room that the next block call will find. -/
def start (e : Engine c d) : σ × Room := (e.state, e.pump.result)

/-- The call that the next stroke makes. -/
def nextCall (e : Engine c d) : BlockCall := c.callOn d e.start (e.waiting.take e.stageSize)

theorem source_nextCall_ne_nil {e : Engine c d} (hw : e.waiting ≠ []) : e.nextCall.source ≠ [] := by
  rw [nextCall, BlockTransform.source_callOn, ne_eq, List.take_eq_nil_iff]
  rintro (hzero | hnil)
  · exact Nat.ne_of_gt e.stageSize_pos hzero
  · exact hw hnil

theorem callRecord_eq_nextCall (e : Engine c d) :
    e.pump.callRecord c (c.apply e.pump.direction e.state e.pump.result e.pump.nextChunk) =
      e.nextCall := by
  obtain ⟨state, pump, rfl, _, _⟩ := e
  rfl

theorem calls_remarks_append (remarks : List Diagnostic) (call : BlockCall) :
    Trace.calls (remarks.map .remark ++ [.block call]) = [call] := by
  rw [Trace.calls_append]
  have hnone : Trace.calls (remarks.map Event.remark) = [] := by
    simp [Trace.calls, Event.call?]
  rw [hnone]
  rfl

/-- A stroke calls the transform and leaves remarks, and does nothing else. -/
theorem block_or_remark_of_mem_stroke {e : Engine c d} {event : Event}
    (h : event ∈ e.stroke.events) :
    (∃ call, event = .block call) ∨ ∃ diagnostic, event = .remark diagnostic := by
  simp only [stroke, Pump.stroke] at h
  split at h
  · cases h
  · rcases List.mem_append.mp h with h | h
    · obtain ⟨diagnostic, -, rfl⟩ := List.mem_map.mp h
      exact .inr ⟨diagnostic, rfl⟩
    · exact .inl ⟨_, List.mem_singleton.mp h⟩

theorem calls_stroke {e : Engine c d} (h : e.pump.isPoisoned = false) :
    e.stroke.events.calls = [e.nextCall] := by
  simp only [stroke, Pump.stroke, h, Bool.false_eq_true, if_false]
  rw [calls_remarks_append, callRecord_eq_nextCall]

theorem mem_calls_stroke {e : Engine c d} (h : e.pump.isPoisoned = false) {call : BlockCall} :
    call ∈ e.stroke.events.calls ↔ call = e.nextCall := by
  rw [calls_stroke h, List.mem_singleton]

theorem answer_stroke {e : Engine c d} (h : e.pump.isPoisoned = false) :
    e.stroke.answer =
      if e.nextCall.failed then .error e.nextCall.fault
      else .ok ⟨e.nextCall.source.length, e.nextCall.reported⟩ := by
  simp only [stroke, Pump.stroke, h, Bool.false_eq_true, if_false, callRecord_eq_nextCall]

theorem start_stroke {e : Engine c d} (h : e.pump.isPoisoned = false) :
    e.stroke.next.start = c.leave d e.start e.nextCall.source := by
  obtain ⟨state, pump, rfl, _, _⟩ := e
  simp only [start, stroke, Pump.stroke, h, Bool.false_eq_true, if_false]
  rfl

/-- A stroke takes the chunk off the waiting input, whether its call succeeds or not. -/
theorem waiting_stroke {e : Engine c d} (h : e.pump.isPoisoned = false) :
    e.stroke.next.waiting = e.waiting.drop e.stageSize := by
  simp only [waiting, stroke, Pump.stroke, h, Bool.false_eq_true, if_false]
  rfl

/-- A stroke opens the window over what its call contributes, or poisons the engine. -/
theorem window_stroke {e : Engine c d} (h : e.pump.isPoisoned = false) :
    e.stroke.next.window =
      if e.nextCall.failed then .poisoned else .ofProduced e.nextCall.output := by
  simp only [window, stroke, Pump.stroke, h, Bool.false_eq_true, if_false, Pump.afterCall,
    callRecord_eq_nextCall]

theorem stageSize_stroke (e : Engine c d) : e.stroke.next.stageSize = e.stageSize := by
  simp only [stageSize, stroke, Pump.stroke]
  split <;> rfl

end Engine

end Blockwise
