import Mathlib.Data.List.Basic
import Blockwise.Proofs.Session

/-!
# Drive — a stream driven to its end

This is how a stream is used where nothing else is going on: an input is fed, output is pulled until
the coder needs the next one, and at the end the coder is closed and pulled from until nothing is
left. How much each pull asks for is up to the caller, as long as it asks for something; and so is
whether the next input is fed as soon as the coder takes it, with output still owed, or at some
later turn, or only when nothing is owed any more.

A drive comes to an end on every transform. It fails only if a block call fails, so it succeeds if
the transform accepts every piece of the inputs, in whatever state and with whatever the room holds.

## Results

* `Engine.Drawn.progress` — every pull of a drive that succeeds brings it nearer to its end.
* `exists_drive_eq_ok` — if every piece of the inputs is accepted, the drive succeeds, with one
  call on each piece and with all their output handed out (`Driven`).
-/

namespace Blockwise

universe u

variable {σ : Type u} {c : BlockTransform σ} {d : Direction}

/-! ## Progress -/

/-- A draw of at least one byte that succeeds, from an engine that is not idle, shortens what waits,
or leaves that and shortens what is owed. -/
theorem Engine.Drawn.progress {e e' : Engine c d} {length : Nat} {bytes : Bytes} {events : Trace}
    (h : e.Drawn length (.ok bytes) e' events) (hidle : e.isIdle = false) (hl : 0 < length) :
    Prod.Lex (· < ·) (· < ·) (e'.backlog, e'.owed) (e.backlog, e.owed) := by
  rw [Prod.lex_def]
  cases h with
  | idle hi => simp [hidle] at hi
  | owing ho =>
    -- an open window owes at least one byte
    right
    have hpos := Engine.owed_pos_of_isOwing ho
    refine ⟨Engine.backlog_draw .., ?_⟩
    show (e.draw length).2.owed < e.owed
    rw [Engine.owed_draw]
    omega
  | struck hp ho hs =>
    -- something waits, as the engine is not idle, and a stroke takes a chunk of it
    left
    have hanswer := Engine.answer_stroke hp
    rw [hs, if_neg Bool.false_ne_true] at hanswer
    show (e.stroke.next.draw length).2.backlog < e.backlog
    rw [Engine.backlog_draw]
    exact (Engine.stroke_progress (Engine.waiting_ne_nil_of_busy hidle hp ho) hanswer).1

/-! ## Driving a session -/

/-- A turn of the caller: a pull of at least one byte, into a range within the caller's buffer. -/
structure Turn where
  buffer : Bytes
  offset : Nat
  length : Nat
  length_pos : 0 < length
  inRange : offset + length ≤ buffer.length
  /-- Whether the caller feeds instead if there is more input and the coder takes it, though output
  is still owed. -/
  hasty : Bool

/-- The pull of a turn, as an operation. -/
def Turn.op (turn : Turn) : Op := .pull turn.buffer turn.offset turn.length

/-- Turns in the order in which they come. -/
abbrev Turns := Nat → Turn

/-- The turns after the first one. -/
def Turns.tail (turns : Turns) : Turns := fun i => turns (i + 1)

namespace Session

variable {S : Type u} [Coder S c d]

/-- Pulls as the turn has it, or fails as the pull fails. -/
def meet (s : Session S) (turn : Turn) : Except Fault (Session S) :=
  let pulled := Blockwise.pull Coder.draw s.coder turn.buffer turn.offset turn.length
  pulled.answer.map fun _ => s.pull turn.buffer turn.offset turn.length

theorem meet_eq (s : Session S) (turn : Turn) :
    s.meet turn = (Coder.draw s.coder turn.length).answer.map fun _ => s.draw turn.length := by
  obtain ⟨-, -, -, hanswer⟩ := pull_of_inRange s.coder turn.inRange
  unfold meet
  rw [pull_eq, if_pos turn.inRange]
  simp only [hanswer]
  cases (Coder.draw s.coder turn.length).answer <;> rfl

theorem meet_progress {s next : Session S} {turn : Turn}
    (hidle : ¬ (Coder.engine s.coder).isIdle) (h : s.meet turn = .ok next) :
    Prod.Lex (· < ·) (· < ·)
      ((Coder.engine next.coder).backlog, (Coder.engine next.coder).owed)
      ((Coder.engine s.coder).backlog, (Coder.engine s.coder).owed) := by
  have hdrawn := Coder.drawn s.coder turn.length
  rw [meet_eq] at h
  obtain ⟨bytes, hanswer, rfl⟩ := exists_eq_ok_of_map h
  rw [hanswer] at hdrawn
  exact hdrawn.progress (Bool.eq_false_iff.mpr hidle) turn.length_pos

/-- Pulls until nothing waits and nothing is owed. -/
def drain (s : Session S) (turns : Turns) : Except Fault (Session S) :=
  if _hidle : (Coder.engine s.coder).isIdle then .ok s
  else
    match _h : s.meet (turns 0) with
    | .error fault => .error fault
    | .ok next => next.drain turns.tail
termination_by ((Coder.engine s.coder).backlog, (Coder.engine s.coder).owed)
decreasing_by exact meet_progress _hidle _h

/-- Whether the next input is fed on this turn. -/
def feedsNow (s : Session S) (turn : Turn) : Bool :=
  (Coder.engine s.coder).isIdle || (turn.hasty && (Coder.engine s.coder).waiting.isEmpty)

theorem not_isIdle_of_not_feedsNow {s : Session S} {turn : Turn} (h : ¬ s.feedsNow turn) :
    ¬ (Coder.engine s.coder).isIdle := by
  intro hidle
  exact h (by simp [feedsNow, hidle])

/-- Feeds the inputs one after another and pulls in between; then closes the coder and drains
it. -/
def supply (s : Session S) (turns : Turns) : List Bytes → Except Fault (Session S)
  | [] => s.close.drain turns
  | input :: inputs =>
    if _hfeeds : s.feedsNow (turns 0) then
      match s.feed input 0 input.length with
      | .error fault => .error fault
      | .ok fed => fed.supply turns.tail inputs
    else
      match _h : s.meet (turns 0) with
      | .error fault => .error fault
      | .ok next => next.supply turns.tail (input :: inputs)
termination_by inputs => (inputs.length, (Coder.engine s.coder).backlog, (Coder.engine s.coder).owed)
decreasing_by
  · exact Prod.Lex.left _ _ (Nat.lt_succ_self _)
  · exact Prod.Lex.right _ (meet_progress (not_isIdle_of_not_feedsNow _hfeeds) _h)

end Session

/-- Drives a stream from its beginning to its end. -/
def drive {S : Type u} [Coder S c d] (coder : S) (inputs : List Bytes) (turns : Turns) :
    Except Fault (Session S) :=
  (Session.start coder).supply turns inputs

/-! ## Drives that succeed -/

/-- The transform does not fail on the block, in any state and with any room of the size. -/
def BlockTransform.Accepts (c : BlockTransform σ) (d : Direction) (size : Nat) (source : Bytes) :
    Prop :=
  ∀ state room, room.size = size → (c.callOn d (state, room) source).failed = false

namespace Engine

variable {e e' : Engine c d}

/-- The engine is not poisoned, and the transform accepts every piece of what waits. -/
structure Ready (e : Engine c d) : Prop where
  usable : e.pump.isPoisoned = false
  accepted : ∀ piece ∈ pieces e.stageSize e.waiting, c.Accepts d e.start.2.size piece

/-- The block of the next call is the first piece of what waits. -/
theorem pieces_waiting (hw : e.waiting ≠ []) :
    pieces e.stageSize e.waiting =
      e.nextCall.source :: pieces e.stageSize (e.waiting.drop e.stageSize) :=
  pieces_of_ne_nil e.stageSize_pos hw

theorem Ready.nextCall_succeeds (h : e.Ready) (hw : e.waiting ≠ []) :
    e.nextCall.failed = false := by
  refine h.accepted e.nextCall.source ?_ e.state e.pump.result rfl
  rw [pieces_waiting hw]
  exact List.mem_cons_self ..

theorem Ready.stroke (h : e.Ready) (hw : e.waiting ≠ []) : e.stroke.next.Ready where
  usable := by
    rw [isPoisoned_stroke h.usable]
    exact h.nextCall_succeeds hw
  accepted piece hpiece := by
    -- what is left after the chunk has no other pieces, and the room keeps its size
    rw [start_stroke h.usable, BlockTransform.size_leave]
    refine h.accepted piece ?_
    rw [waiting_stroke h.usable, stageSize_stroke] at hpiece
    rw [pieces_waiting hw]
    exact List.mem_cons_of_mem _ hpiece

theorem Ready.handOut (h : e.Ready) (length : Nat) : (e.draw length).2.Ready where
  usable := (isPoisoned_draw e length).trans h.usable
  accepted := h.accepted

theorem Ready.feed {data : Bytes} {offset length : Nat}
    (hfeed : e.feed data offset length = .ok e')
    (hinput : ∀ piece ∈ pieces e.stageSize ((data.drop offset).take length),
      c.Accepts d e.start.2.size piece) : e'.Ready := by
  obtain ⟨-, husable, hnext, hstate⟩ := of_feed_eq_ok hfeed
  constructor
  · rw [hnext]
    exact husable
  · rw [stageSize, waiting, start, hnext]
    exact hinput

/-- A draw from an engine that is ready but not idle succeeds, and makes no call on an empty
block. -/
theorem Ready.drawn (h : e.Ready) (hidle : e.isIdle = false) {length : Nat}
    {answer : Except Fault Bytes} {events : Trace} (hd : e.Drawn length answer e' events) :
    (∃ bytes, answer = .ok bytes) ∧ e'.Ready ∧ ∀ call ∈ events.calls, call.source ≠ [] := by
  have hsources := hd.source_ne_nil_of_busy hidle
  cases hd with
  | refused hp => simp [h.usable] at hp
  | idle hi => simp [hidle] at hi
  | owing ho => exact ⟨⟨_, rfl⟩, h.handOut length, hsources⟩
  | failed hp ho hf =>
    rw [h.nextCall_succeeds (waiting_ne_nil_of_busy hidle hp ho)] at hf
    cases hf
  | struck hp ho hs =>
    have hw : e.waiting ≠ [] := waiting_ne_nil_of_busy hidle hp ho
    exact ⟨⟨_, rfl⟩, (h.stroke hw).handOut length, hsources⟩

end Engine

namespace Session

variable {S : Type u} [Coder S c d] {origin : Engine c d} {s : Session S}

/-- What a drive keeps as long as the transform accepts the inputs. -/
structure Steady (s : Session S) (origin : Engine c d) : Prop where
  balances : s.Balances origin
  ready : (Coder.engine s.coder).Ready
  source_ne_nil : ∀ call ∈ s.calls, call.source ≠ []

theorem Steady.size_start (h : s.Steady origin) :
    (Coder.engine s.coder).start.2.size = origin.start.2.size := by
  rw [h.balances.start]
  exact BlockTransform.size_leaveAll ..

theorem Steady.draw (h : s.Steady origin) (hidle : (Coder.engine s.coder).isIdle = false)
    (length : Nat) :
    (∃ bytes, (Coder.draw s.coder length).answer = .ok bytes) ∧ (s.draw length).Steady origin := by
  obtain ⟨hanswer, hready, hcalls⟩ := h.ready.drawn hidle (Coder.drawn s.coder length)
  refine ⟨hanswer, h.balances.draw length, hready, ?_⟩
  -- the calls so far, and that of the draw if there is one
  intro call hcall
  rcases List.mem_append.mp hcall with hcall | hcall
  · exact h.source_ne_nil call hcall
  · exact hcalls call hcall

/-- A steady session that is not idle is pulled from, and stays steady. -/
theorem Steady.meet (h : s.Steady origin) (hidle : ¬ (Coder.engine s.coder).isIdle)
    (turn : Turn) :
    ∃ next, s.meet turn = .ok next ∧ next.Steady origin ∧ next.inputs = s.inputs ∧
      s.step turn.op = next := by
  have hbusy : (Coder.engine s.coder).isIdle = false := Bool.eq_false_iff.mpr hidle
  obtain ⟨⟨bytes, hanswer⟩, hnext⟩ := h.draw hbusy turn.length
  refine ⟨s.draw turn.length, ?_, hnext, rfl, ?_⟩
  · rw [meet_eq, hanswer]
    rfl
  · show s.pull _ _ _ = _
    rw [pull_eq, if_pos turn.inRange]

/-- A steady session that feeds takes the input, if every piece of it is accepted. -/
theorem Steady.feed (h : s.Steady origin) {turn : Turn} (hfeeds : s.feedsNow turn)
    {input : Bytes}
    (hinput : ∀ piece ∈ pieces origin.stageSize input, c.Accepts d origin.start.2.size piece) :
    ∃ fed, s.feed input 0 input.length = .ok fed ∧ fed.Steady origin ∧
      fed.inputs = s.inputs ++ [input] ∧ s.step (.feedAll input) = fed := by
  -- nothing waits, so the engine takes the input and with it the coder does
  have hwaiting : (Coder.engine s.coder).waiting = [] := by
    rw [feedsNow, Bool.or_eq_true, Bool.and_eq_true, List.isEmpty_iff] at hfeeds
    rcases hfeeds with hidle | ⟨-, hwaiting⟩
    · exact (Engine.isIdle_iff.mp hidle).2
    · exact hwaiting
  obtain ⟨coder, hfeed⟩ : ∃ coder, Coder.feed s.coder input 0 input.length = .ok coder :=
    Coder.exists_feed_eq_ok (by omega) h.ready.usable hwaiting
  -- what waits now is the input
  have hengine := Coder.engine_feed s.coder input 0 input.length
  simp only [hfeed, Except.map] at hengine
  have hready : (Coder.engine coder).Ready := by
    refine Engine.Ready.feed hengine.symm ?_
    rw [List.drop_zero, List.take_length, h.balances.stageSize, h.size_start]
    exact hinput
  have hfed : s.feed input 0 input.length =
      .ok { toLedger := s.toLedger.accept ((input.drop 0).take input.length), coder } := by
    rw [Session.feed, hfeed]
    rfl
  refine ⟨_, hfed, ⟨h.balances.feed hfeed, hready, h.source_ne_nil⟩, ?_, ?_⟩
  · simp [Ledger.accept]
  · show s.offer input 0 input.length = _
    rw [offer, hfed]

theorem Steady.drain (h : s.Steady origin) (turns : Turns) :
    ∃ t ops, s.drain turns = .ok t ∧ t.Steady origin ∧
      (Coder.engine t.coder).isIdle = true ∧ t.inputs = s.inputs ∧ s.run ops = t := by
  fun_induction Session.drain s turns with
  | case1 s turns hidle =>
    -- nothing to do
    exact ⟨s, [], rfl, h, hidle, rfl, rfl⟩
  | case2 s turns hidle fault hmeet =>
    -- a steady session is not refused
    obtain ⟨next, hok, -⟩ := h.meet hidle (turns 0)
    rw [hok] at hmeet
    cases hmeet
  | case3 s turns hidle next hmeet ih =>
    obtain ⟨next', hok, hnext, hinputs, hstep⟩ := h.meet hidle (turns 0)
    rw [hok] at hmeet
    cases hmeet
    obtain ⟨t, ops, hdrain, ht, hidle', hinputs', hrun⟩ := ih hnext
    refine ⟨t, (turns 0).op :: ops, hdrain, ht, hidle', hinputs'.trans hinputs, ?_⟩
    rw [← hrun, ← hstep]
    rfl

theorem Steady.close (h : s.Steady origin) : s.close.Steady origin := by
  refine ⟨h.balances.close, ?_, h.source_ne_nil⟩
  unfold Session.close
  rw [Coder.engine_close]
  exact h.ready

theorem Steady.supply (h : s.Steady origin) (turns : Turns) (inputs : List Bytes)
    (hinputs : ∀ input ∈ inputs, ∀ piece ∈ pieces origin.stageSize input,
      c.Accepts d origin.start.2.size piece) :
    ∃ t ops, s.supply turns inputs = .ok t ∧ t.Steady origin ∧
      (Coder.engine t.coder).isIdle = true ∧ t.inputs = s.inputs ++ inputs ∧ s.run ops = t := by
  fun_induction Session.supply s turns inputs with
  | case1 s turns =>
    -- no more inputs: the coder is closed and drained
    obtain ⟨t, ops, hdrain, ht, hidle, htaken, hrun⟩ := h.close.drain turns
    refine ⟨t, .close :: ops, hdrain, ht, hidle, ?_, hrun⟩
    rw [htaken, List.append_nil]
    rfl
  | case2 s turns input inputs hfeeds fault hfeed =>
    obtain ⟨fed, hok, -⟩ := h.feed hfeeds (hinputs input (List.mem_cons_self ..))
    rw [hok] at hfeed
    cases hfeed
  | case3 s turns input inputs hfeeds fed hfeed ih =>
    -- a turn that feeds
    obtain ⟨fed', hok, hsteady, htaken, hstep⟩ :=
      h.feed hfeeds (hinputs input (List.mem_cons_self ..))
    rw [hok] at hfeed
    cases hfeed
    obtain ⟨t, ops, hsupply, ht, hidle, htaken', hrun⟩ :=
      ih hsteady fun later hlater => hinputs later (List.mem_cons_of_mem _ hlater)
    refine ⟨t, .feedAll input :: ops, hsupply, ht, hidle, ?_, ?_⟩
    · rw [htaken', htaken, List.append_assoc]
      rfl
    · rw [← hrun, ← hstep]
      rfl
  | case4 s turns input inputs hfeeds fault hmeet =>
    obtain ⟨next, hok, -⟩ := h.meet (not_isIdle_of_not_feedsNow hfeeds) (turns 0)
    rw [hok] at hmeet
    cases hmeet
  | case5 s turns input inputs hfeeds next hmeet ih =>
    -- a turn that pulls
    obtain ⟨next', hok, hsteady, htaken, hstep⟩ :=
      h.meet (not_isIdle_of_not_feedsNow hfeeds) (turns 0)
    rw [hok] at hmeet
    cases hmeet
    obtain ⟨t, ops, hsupply, ht, hidle, htaken', hrun⟩ := ih hsteady hinputs
    refine ⟨t, (turns 0).op :: ops, hsupply, ht, hidle, ?_, ?_⟩
    · rw [htaken', htaken]
    · rw [← hrun, ← hstep]
      rfl

end Session

/-- What comes of driving a stream to its end. -/
structure Driven {S : Type u} [Coder S c d] (coder : S) (inputs : List Bytes) (t : Session S) :
    Prop where
  idle : (Coder.engine t.coder).isIdle = true
  /-- There was one call on each piece of the inputs. -/
  sources : t.sources = inputs.flatMap (pieces (Coder.engine coder).stageSize)
  calls : t.calls = c.callsOn d (Coder.engine coder).start t.sources
  succeeded : ∀ call ∈ t.calls, call.failed = false
  /-- All of the output was handed out. -/
  returned : t.returned = t.calls.flatMap BlockCall.output
  run : ∃ ops, (Session.start coder).run ops = t

/-- **Drives succeed.** If the transform accepts every piece of the inputs, the stream can be
driven to its end, however the caller takes its turns. -/
theorem exists_drive_eq_ok {S : Type u} [Coder S c d] {coder : S}
    (hidle : (Coder.engine coder).isIdle = true) (turns : Turns) {inputs : List Bytes}
    (hinputs : ∀ input ∈ inputs, ∀ piece ∈ pieces (Coder.engine coder).stageSize input,
      c.Accepts d (Coder.engine coder).start.2.size piece) :
    ∃ t, drive coder inputs turns = .ok t ∧ Driven coder inputs t := by
  have hready : (Coder.engine coder).Ready := by
    refine ⟨Engine.isPoisoned_of_isIdle hidle, ?_⟩
    rw [(Engine.isIdle_iff.mp hidle).2, pieces_nil]
    exact fun _ h => by cases h
  have hstart : (Session.start coder).Steady (Coder.engine coder) :=
    ⟨Session.balances_start hidle, hready, fun _ h => by cases h⟩
  obtain ⟨t, ops, hdrive, ht, hidle', htaken, hrun⟩ := hstart.supply turns inputs hinputs
  -- the engine is at rest, so its ledger is complete
  have hsources : t.sources = t.inputs.flatMap (pieces (Coder.engine coder).stageSize) :=
    ht.balances.sources_of_idle hidle' ht.source_ne_nil
  rw [htaken] at hsources
  exact ⟨t, hdrive, hidle', hsources, ht.balances.calls, ht.balances.succeeded_of_idle hidle',
    ht.balances.returned_of_idle hidle', ops, hrun⟩

end Blockwise
