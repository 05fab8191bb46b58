import Mathlib
import Blockwise.Proofs.Drive
import Blockwise.Proofs.Encoding

/-!
# Draining — loops that pull until nothing is left

A coder is emptied by a loop of its caller: while it does not need input, or while it is not
finished, pull. Nothing in the coder bounds such a loop. It comes to an end because a pull from a
coder that is not idle fails, and poisons the coder, or brings at least one byte and shortens what
waits or, if it leaves that, what is owed.

How many pulls it takes is known beforehand. What is owed and the blocks that are still to come are
handed out one after another, each in portions of the length that is asked for, and no portion
spans two of them (`Engine.portions`).

## Results

* `Drains.of_usable` — every loop over a coder that is not poisoned ends, whatever the transform
  does and whatever each pull asks for.
* `Engine.Drawn.portions` — a draw takes the first of the portions that are still to come.
* `Engine.length_portions` — how many portions there are.
* `loops_drain` — the loops over encoders and decoders, with the exact number of pulls.
-/

namespace Blockwise

universe u

variable {σ : Type u} {c : BlockTransform σ} {d : Direction}

/-! ## Loops -/

section Loops

variable {S : Type u} [Coder S c d]

/-- The pull of a turn, into the buffer that the caller brings along. -/
def Turn.pull (turn : Turn) (s : S) : Step (S × Bytes) (Except Fault Nat) :=
  Blockwise.pull Coder.draw s turn.buffer turn.offset turn.length

/-- Why a loop stopped. -/
inductive Halt where
  /-- There was no reason to go on. -/
  | done
  | failed (fault : Fault)
  /-- It was not allowed any more pulls. -/
  | cutOff
deriving DecidableEq

/-- What came of a loop: the bytes of each pull that succeeded, and why it stopped. -/
structure Haul where
  pulls : List Bytes
  halt : Halt
deriving DecidableEq

/-- Pulls as long as `more` holds and no pull has failed, but at most `limit` times. -/
def pullWhile (more : S → Bool) (s : S) (turns : Turns) : (limit : Nat) → Step S Haul
  | 0 => .quiet ⟨[], if more s then .cutOff else .done⟩ s
  | limit + 1 =>
    if more s then
      let pulled := (turns 0).pull s
      match pulled.answer with
      | .error fault => ⟨⟨[], .failed fault⟩, pulled.next.1, pulled.events⟩
      | .ok _ =>
        let rest := pullWhile more pulled.next.1 turns.tail limit
        ⟨⟨pulledBytes (turns 0).offset pulled :: rest.answer.pulls, rest.answer.halt⟩, rest.next,
          pulled.events ++ rest.events⟩
    else .quiet ⟨[], .done⟩ s

/-- The loop stops of its own accord: from some limit on, the limit makes no difference. -/
def Loops (more : S → Bool) (s : S) (turns : Turns) (ran : Step S Haul) : Prop :=
  ran.answer.halt ≠ .cutOff ∧
    ∃ enough, ∀ limit, enough ≤ limit → pullWhile more s turns limit = ran

/-- Whether something waits or is owed, or the coder is poisoned. -/
def busy (s : S) : Bool := !(Coder.engine s).isIdle

end Loops

/-! ## One pull -/

/-- How a draw of at least one byte ends, from an engine that is neither idle nor poisoned: its only
call fails, or it brings something. -/
theorem Engine.Drawn.cases_of_busy {e e' : Engine c d} {length : Nat}
    {answer : Except Fault Bytes} {events : Trace} (h : e.Drawn length answer e' events)
    (hbusy : e.isIdle = false) (hp : e.pump.isPoisoned = false) (hl : 0 < length) :
    (∃ call, events.calls = [call] ∧ call.failed = true ∧ answer = .error call.fault ∧
        e'.pump.isPoisoned = true) ∨
      ∃ bytes, answer = .ok bytes ∧ bytes ≠ [] ∧ e'.pump.isPoisoned = false ∧
        Prod.Lex (· < ·) (· < ·) (e'.backlog, e'.owed) (e.backlog, e.owed) := by
  cases h with
  | refused hpoisoned => simp [hp] at hpoisoned
  | idle hi => simp [hbusy] at hi
  | owing ho =>
    have hdrawn : e.Drawn length (.ok (e.draw length).1) (e.draw length).2 [] := .owing ho
    refine .inr ⟨_, rfl, hdrawn.ne_nil_of_busy hbusy hl, ?_, hdrawn.progress hbusy hl⟩
    exact (isPoisoned_draw e length).trans hp
  | failed _ ho hf =>
    refine .inl ⟨e.nextCall, calls_stroke hp, hf, rfl, ?_⟩
    rw [isPoisoned_stroke hp]
    exact hf
  | struck _ ho hs =>
    have hdrawn : e.Drawn length (.ok (e.stroke.next.draw length).1)
        (e.stroke.next.draw length).2 e.stroke.events := .struck hp ho hs
    refine .inr ⟨_, rfl, hdrawn.ne_nil_of_busy hbusy hl, ?_, hdrawn.progress hbusy hl⟩
    rw [isPoisoned_draw, isPoisoned_stroke hp]
    exact hs

section Loops

variable {S : Type u} [Coder S c d]

theorem Turn.pull_eq (turn : Turn) (s : S) :
    (turn.pull s).next.1 = (Coder.draw s turn.length).next ∧
      (turn.pull s).events = (Coder.draw s turn.length).events ∧
      pulledBytes turn.offset (turn.pull s) =
        Engine.drawnBytes (Coder.draw s turn.length).answer ∧
      (turn.pull s).answer = (Coder.draw s turn.length).answer.map List.length :=
  pull_of_inRange s turn.inRange

/-- What a loop can count on: a pull fails with the fault of its block call and poisons the coder,
or it brings at least one byte and brings the coder nearer to needing input. It makes no call on an
empty block. -/
structure Turn.Advances (turn : Turn) (s : S) : Prop where
  fails_or_brings :
    (∃ call, (turn.pull s).events.calls = [call] ∧ call.failed = true ∧
        (turn.pull s).answer = .error call.fault ∧
        (Coder.engine (turn.pull s).next.1).pump.isPoisoned = true) ∨
      ∃ count, (turn.pull s).answer = .ok count ∧ 0 < count ∧
        (Coder.engine (turn.pull s).next.1).pump.isPoisoned = false ∧
        Prod.Lex (· < ·) (· < ·)
          ((Coder.engine (turn.pull s).next.1).backlog, (Coder.engine (turn.pull s).next.1).owed)
          ((Coder.engine s).backlog, (Coder.engine s).owed)
  source_ne_nil : ∀ call ∈ (turn.pull s).events.calls, call.source ≠ []

theorem Turn.advances (turn : Turn) {s : S} (hbusy : busy s = true)
    (hp : (Coder.engine s).pump.isPoisoned = false) : turn.Advances s := by
  have hidle : (Coder.engine s).isIdle = false := by simpa [busy] using hbusy
  have hdrawn := Coder.drawn s turn.length
  obtain ⟨hnext, hevents, -, hanswer⟩ := turn.pull_eq s
  constructor
  · rw [hnext, hevents, hanswer]
    rcases hdrawn.cases_of_busy hidle hp turn.length_pos with
      ⟨call, hcalls, hfailed, hfault, hpoisoned⟩ | ⟨bytes, hok, hne, husable, hlex⟩
    · refine .inl ⟨call, hcalls, hfailed, ?_, hpoisoned⟩
      rw [hfault]
      rfl
    · refine .inr ⟨bytes.length, ?_, List.length_pos_iff.mpr hne, husable, hlex⟩
      rw [hok]
      rfl
  · rw [hevents]
    exact hdrawn.source_ne_nil_of_busy hidle

/-- The caller finds as many bytes in the buffer as were reported. -/
theorem Turn.length_pulledBytes {turn : Turn} {s : S} {count : Nat}
    (h : (turn.pull s).answer = .ok count) :
    (pulledBytes turn.offset (turn.pull s)).length = count := by
  obtain ⟨-, -, hbytes, hanswer⟩ := turn.pull_eq s
  rw [hanswer] at h
  obtain ⟨bytes, hdrawn, hlength⟩ := exists_eq_ok_of_map h
  rw [hbytes, hdrawn]
  exact hlength

/-- Only a coder that needs input brings nothing. -/
theorem Turn.isIdle_of_pull_eq_zero {turn : Turn} {s : S} (h : (turn.pull s).answer = .ok 0) :
    (Coder.engine s).isIdle = true := by
  cases hidle : (Coder.engine s).isIdle with
  | true => rfl
  | false =>
    exfalso
    have hdrawn := Coder.drawn s turn.length
    obtain ⟨-, -, -, hanswer⟩ := turn.pull_eq s
    rw [hanswer] at h
    obtain ⟨bytes, hok, hzero⟩ := exists_eq_ok_of_map h
    rw [hok] at hdrawn
    exact hdrawn.ne_nil_of_busy hidle turn.length_pos (List.length_eq_zero_iff.mp hzero)

end Loops

/-! ## What is still to come -/

/-- As many portions as it takes to hand out a stretch. -/
theorem length_pieces {size : Nat} (hs : 0 < size) (bytes : Bytes) :
    (pieces size bytes).length = bytes.length ⌈/⌉ size := by
  fun_induction pieces size bytes with
  | case1 bytes h =>
    have hnil : bytes = [] := h.resolve_left (by omega)
    simp [hnil]
  | case2 bytes hne ih =>
    have hpos : 0 < bytes.length := List.length_pos_iff.mpr fun e => hne (.inr e)
    rw [List.length_cons, ih, List.length_drop, Nat.ceilDiv_eq_add_pred_div,
      Nat.ceilDiv_eq_add_pred_div]
    -- the first portion takes one, whether it is a full one or not
    have hall : (bytes.length + size - 1) / size = (bytes.length - 1) / size + 1 := by
      rw [← Nat.add_div_right _ hs]
      congr 1
      omega
    rw [hall]
    congr 1
    rcases Nat.lt_or_ge bytes.length size with hlt | hge
    · have hzero : bytes.length - size = 0 := by omega
      rw [hzero, Nat.div_eq_of_lt (by omega), Nat.div_eq_of_lt (by omega)]
    · congr 1
      omega

namespace Engine

/-- The calls on what waits, if none of them fails. -/
def coming (e : Engine c d) : List BlockCall :=
  c.callsOn d e.start (pieces e.stageSize e.waiting)

/-- What is owed and what the coming calls put out, each cut into portions of its own. -/
def portions (e : Engine c d) (length : Nat) : List Bytes :=
  pieces length e.unread ++ e.coming.flatMap fun call => pieces length call.output

variable {e e' : Engine c d}

theorem coming_of_isIdle (h : e.isIdle = true) : e.coming = [] := by
  rw [coming, (isIdle_iff.mp h).2, pieces_nil]
  rfl

theorem portions_of_isIdle (h : e.isIdle = true) (length : Nat) : e.portions length = [] := by
  rw [portions, coming_of_isIdle h, unread_of_isIdle h, pieces_nil]
  rfl

theorem length_portions {length : Nat} (hl : 0 < length) :
    (e.portions length).length =
      e.owed ⌈/⌉ length + (e.coming.map fun call => call.output.length ⌈/⌉ length).sum := by
  rw [portions, List.length_append, List.length_flatMap, length_pieces hl]
  congr 2
  exact List.map_congr_left fun call _ => length_pieces hl call.output

/-- A stroke makes the first of the coming calls. -/
theorem coming_stroke (hp : e.pump.isPoisoned = false) (hw : e.waiting ≠ []) :
    e.coming = e.nextCall :: e.stroke.next.coming := by
  have hpieces : pieces e.stageSize e.waiting =
      e.nextCall.source :: pieces e.stageSize (e.waiting.drop e.stageSize) :=
    pieces_of_ne_nil e.stageSize_pos hw
  rw [coming, coming, hpieces, BlockTransform.callsOn, start_stroke hp, waiting_stroke hp,
    stageSize_stroke]
  rfl

/-- A hand-out takes the first portion of what is owed. -/
theorem pieces_unread_draw {length : Nat} (hl : 0 < length) (ho : e.unread ≠ []) :
    pieces length e.unread = (e.draw length).1 :: pieces length (e.draw length).2.unread := by
  have hrest : (e.draw length).2.unread = e.unread.drop length := Window.unread_advance ..
  rw [hrest, pieces_of_ne_nil hl ho]
  rfl

/-- A draw that succeeds, from an engine that is not idle, takes the first of the portions that are
to come, and makes the first of the coming calls if nothing was owed. -/
theorem Drawn.portions {length : Nat} {bytes : Bytes} {events : Trace}
    (h : e.Drawn length (.ok bytes) e' events) (hbusy : e.isIdle = false) (hl : 0 < length) :
    e.coming = events.calls ++ e'.coming ∧ e.portions length = bytes :: e'.portions length := by
  have hne : bytes ≠ [] := h.ne_nil_of_busy hbusy hl
  cases h with
  | idle hi => simp [hbusy] at hi
  | owing ho =>
    have howed : e.unread ≠ [] := List.length_pos_iff.mp (owed_pos_of_isOwing ho)
    refine ⟨rfl, ?_⟩
    rw [Engine.portions, pieces_unread_draw hl howed]
    rfl
  | struck hp ho hs =>
    -- something waits, and the call on the first piece of it is made
    have hw : e.waiting ≠ [] := waiting_ne_nil_of_busy hbusy hp ho
    have houtput : e.stroke.next.unread = e.nextCall.output := by
      rw [unread_stroke hp, BlockCall.contribution, hs]
      rfl
    have howed : e.stroke.next.unread ≠ [] := by
      intro hnil
      refine hne ?_
      show e.stroke.next.unread.take length = []
      rw [hnil, List.take_nil]
    refine ⟨?_, ?_⟩
    · rw [coming_stroke hp hw, calls_stroke hp]
      rfl
    · rw [Engine.portions, unread_eq_nil_of_not_owing ho, pieces_nil, coming_stroke hp hw,
        List.nil_append, List.flatMap_cons, ← houtput, pieces_unread_draw hl howed]
      rfl

/-- A draw that fails, from an engine that is not idle or poisoned, has made a coming call that
fails. -/
theorem Drawn.exists_failed {length : Nat} {fault : Fault} {events : Trace}
    (h : e.Drawn length (.error fault) e' events) (hbusy : e.isIdle = false)
    (hp : e.pump.isPoisoned = false) : ∃ call ∈ e.coming, call.failed = true := by
  cases h with
  | refused hpoisoned => simp [hp] at hpoisoned
  | failed _ ho hf =>
    refine ⟨e.nextCall, ?_, hf⟩
    rw [coming_stroke hp (waiting_ne_nil_of_busy hbusy hp ho)]
    exact List.mem_cons_self ..

end Engine

section Loops

variable {S : Type u} [Coder S c d] {more : S → Bool} {s : S} {turns : Turns}

/-! ## The course of a loop -/

theorem pullWhile_of_done (h : more s = false) (turns : Turns) (limit : Nat) :
    pullWhile more s turns limit = .quiet ⟨[], .done⟩ s := by
  cases limit with
  | zero => simp [pullWhile, h]
  | succ limit => simp [pullWhile, h]

theorem pullWhile_of_error (h : more s = true) {fault : Fault}
    (hanswer : ((turns 0).pull s).answer = .error fault) (limit : Nat) :
    pullWhile more s turns (limit + 1) =
      ⟨⟨[], .failed fault⟩, ((turns 0).pull s).next.1, ((turns 0).pull s).events⟩ := by
  simp only [pullWhile, h, if_true, hanswer]

theorem pullWhile_of_ok (h : more s = true) {count : Nat}
    (hanswer : ((turns 0).pull s).answer = .ok count) {limit : Nat} {rest : Step S Haul}
    (hrest : pullWhile more ((turns 0).pull s).next.1 turns.tail limit = rest) :
    pullWhile more s turns (limit + 1) =
      ⟨⟨pulledBytes (turns 0).offset ((turns 0).pull s) :: rest.answer.pulls, rest.answer.halt⟩,
        rest.next, ((turns 0).pull s).events ++ rest.events⟩ := by
  simp only [pullWhile, h, if_true, hanswer, hrest]

namespace Loops

theorem done (h : more s = false) (turns : Turns) :
    Loops more s turns (.quiet ⟨[], .done⟩ s) :=
  ⟨by simp [Step.quiet], 0, fun limit _ => pullWhile_of_done h turns limit⟩

theorem failed (h : more s = true) {fault : Fault}
    (hanswer : ((turns 0).pull s).answer = .error fault) :
    Loops more s turns
      ⟨⟨[], .failed fault⟩, ((turns 0).pull s).next.1, ((turns 0).pull s).events⟩ := by
  refine ⟨by simp, 1, fun limit hlimit => ?_⟩
  obtain ⟨limit, rfl⟩ := Nat.exists_eq_add_of_le' hlimit
  exact pullWhile_of_error h hanswer limit

theorem pulled (h : more s = true) {count : Nat}
    (hanswer : ((turns 0).pull s).answer = .ok count) {rest : Step S Haul}
    (hrest : Loops more ((turns 0).pull s).next.1 turns.tail rest) :
    Loops more s turns
      ⟨⟨pulledBytes (turns 0).offset ((turns 0).pull s) :: rest.answer.pulls, rest.answer.halt⟩,
        rest.next, ((turns 0).pull s).events ++ rest.events⟩ := by
  obtain ⟨hhalt, enough, henough⟩ := hrest
  refine ⟨hhalt, enough + 1, fun limit hlimit => ?_⟩
  -- one pull more is allowed than the rest needs
  obtain ⟨limit, rfl⟩ : ∃ smaller, limit = smaller + 1 := ⟨limit - 1, by omega⟩
  exact pullWhile_of_ok h hanswer (henough limit (by omega))

theorem unique {ran ran' : Step S Haul} (h : Loops more s turns ran)
    (h' : Loops more s turns ran') : ran = ran' := by
  obtain ⟨-, enough, henough⟩ := h
  obtain ⟨-, enough', henough'⟩ := h'
  rw [← henough (max enough enough') (Nat.le_max_left ..),
    ← henough' (max enough enough') (Nat.le_max_right ..)]

end Loops

/-- How a loop over a coder that was not poisoned comes to its end. -/
structure Ends (ran : Step S Haul) : Prop where
  idle_or_failed : (ran.answer.halt = .done ∧ (Coder.engine ran.next).isIdle = true) ∨
    ∃ call ∈ ran.events.calls, call.failed = true ∧ ran.answer.halt = .failed call.fault ∧
      (Coder.engine ran.next).pump.isPoisoned = true
  pulled_ne_nil : ∀ bytes ∈ ran.answer.pulls, bytes ≠ []
  source_ne_nil : ∀ call ∈ ran.events.calls, call.source ≠ []

theorem exists_loops_busy (s : S) (hp : (Coder.engine s).pump.isPoisoned = false)
    (turns : Turns) : ∃ ran, Loops busy s turns ran ∧ Ends ran := by
  by_cases hbusy : busy s = true
  · obtain ⟨hpull, hsources⟩ := (turns 0).advances hbusy hp
    rcases hpull with ⟨call, hcalls, hfailed, hanswer, hpoisoned⟩ |
      ⟨count, hanswer, hpos, husable, hlex⟩
    · refine ⟨_, .failed hbusy hanswer, .inr ⟨call, ?_, hfailed, rfl, hpoisoned⟩, ?_, hsources⟩
      · rw [hcalls]
        exact List.mem_cons_self ..
      · exact fun _ hbytes => by cases hbytes
    · -- the measure is lower after the pull, so the loop ends from there
      obtain ⟨rest, hrest, hend⟩ := exists_loops_busy ((turns 0).pull s).next.1 husable turns.tail
      refine ⟨_, .pulled hbusy hanswer hrest, ?_, ?_, ?_⟩
      · refine hend.idle_or_failed.imp_right ?_
        rintro ⟨call, hcall, hfailed⟩
        refine ⟨call, ?_, hfailed⟩
        rw [Trace.calls_append]
        exact List.mem_append_right _ hcall
      · intro bytes hmem
        rcases List.mem_cons.mp hmem with rfl | hmem
        · rw [← List.length_pos_iff, Turn.length_pulledBytes hanswer]
          exact hpos
        · exact hend.pulled_ne_nil bytes hmem
      · rw [Trace.calls_append, List.forall_mem_append]
        exact ⟨hsources, hend.source_ne_nil⟩
  · have hidle : (Coder.engine s).isIdle = true := by simpa [busy] using hbusy
    refine ⟨_, .done (Bool.eq_false_iff.mpr hbusy) turns, .inl ⟨rfl, hidle⟩, ?_, ?_⟩
    · exact fun _ hbytes => by cases hbytes
    · exact fun _ hcall => by cases hcall
termination_by ((Coder.engine s).backlog, (Coder.engine s).owed)
decreasing_by exact hlex

/-- If no coming call fails, a loop whose pulls all ask for the same length makes just these calls,
and pulls portion by portion. -/
theorem exists_loops_busy_of_succeed (s : S)
    (hp : (Coder.engine s).pump.isPoisoned = false)
    (hcoming : ∀ call ∈ (Coder.engine s).coming, call.failed = false) {length : Nat}
    (turns : Turns) (hlength : ∀ i, (turns i).length = length) :
    ∃ ran, Loops busy s turns ran ∧ ran.answer.halt = .done ∧
      ran.events.calls = (Coder.engine s).coming ∧
      ran.answer.pulls = (Coder.engine s).portions length := by
  by_cases hbusy : busy s = true
  · have hidle : (Coder.engine s).isIdle = false := by simpa [busy] using hbusy
    have hl : 0 < length := hlength 0 ▸ (turns 0).length_pos
    obtain ⟨hnext, hevents, hbytes, hanswer⟩ := (turns 0).pull_eq s
    rw [hlength 0] at hnext hevents hbytes hanswer
    have hdrawn := Coder.drawn s length
    cases hdraw : (Coder.draw s length).answer with
    | error fault =>
      -- a pull fails only with one of the coming calls
      rw [hdraw] at hdrawn
      obtain ⟨call, hcall, hfailed⟩ := hdrawn.exists_failed hidle hp
      rw [hcoming call hcall] at hfailed
      cases hfailed
    | ok bytes =>
      rw [hdraw] at hdrawn hanswer hbytes
      obtain ⟨hcalls, hportions⟩ := hdrawn.portions hidle hl
      rw [hcalls, List.forall_mem_append] at hcoming
      have husable : (Coder.engine (Coder.draw s length).next).pump.isPoisoned = false := by
        rcases hdrawn.cases_of_busy hidle hp hl with ⟨_, _, _, hfault, _⟩ | ⟨_, _, _, husable, _⟩
        · cases hfault
        · exact husable
      rw [← hnext] at husable hcoming
      have hlower : Prod.Lex (· < ·) (· < ·)
          ((Coder.engine ((turns 0).pull s).next.1).backlog,
            (Coder.engine ((turns 0).pull s).next.1).owed)
          ((Coder.engine s).backlog, (Coder.engine s).owed) := by
        rw [hnext]
        exact hdrawn.progress hidle hl
      obtain ⟨rest, hrest, hdone, hlater, hpulls⟩ := exists_loops_busy_of_succeed
        ((turns 0).pull s).next.1 husable hcoming.2 turns.tail fun i => hlength (i + 1)
      refine ⟨_, .pulled hbusy hanswer hrest, hdone, ?_, ?_⟩
      · rw [Trace.calls_append, hlater, hevents, hnext, hcalls]
      · rw [hbytes, hpulls, hnext, hportions]
        rfl
  · have hidle : (Coder.engine s).isIdle = true := by simpa [busy] using hbusy
    refine ⟨_, .done (Bool.eq_false_iff.mpr hbusy) turns, rfl, ?_, ?_⟩
    · rw [Engine.coming_of_isIdle hidle]
      rfl
    · rw [Engine.portions_of_isIdle hidle]
      rfl
termination_by ((Coder.engine s).backlog, (Coder.engine s).owed)
decreasing_by exact hlower

/-! ## Loops over coders -/

/-- The condition says whether the coder is busy, on all coders that pulls lead to: those with the
property. -/
structure Asks (P : S → Prop) (more : S → Bool) : Prop where
  eq_busy : ∀ s, P s → more s = busy s
  draw : ∀ s length, P s → P (Coder.draw s length).next

theorem Asks.pullWhile_eq {P : S → Prop} (hmore : Asks P more) (h : P s) (turns : Turns)
    (limit : Nat) : pullWhile more s turns limit = pullWhile busy s turns limit := by
  induction limit generalizing s turns with
  | zero => rw [pullWhile, pullWhile, hmore.eq_busy s h]
  | succ limit ih =>
    have hnext : P ((turns 0).pull s).next.1 := by
      rw [((turns 0).pull_eq s).1]
      exact hmore.draw s (turns 0).length h
    simp only [pullWhile, hmore.eq_busy s h, ih hnext]

theorem Asks.loops_iff {P : S → Prop} (hmore : Asks P more) (h : P s) {ran : Step S Haul} :
    Loops more s turns ran ↔ Loops busy s turns ran := by
  simp only [Loops, hmore.pullWhile_eq h]

/-- What a caller can count on who pulls while the condition holds. -/
structure Drains (more : S → Bool) (s : S) : Prop where
  /-- Every pull of the loop brings something and brings it nearer to its end, or fails. -/
  advances : more s = true → ∀ turn : Turn, turn.Advances s
  /-- The loop ends, whatever its pulls ask for. -/
  ends : ∀ turns, ∃ ran, Loops more s turns ran ∧ Ends ran
  /-- If no block call fails and all pulls ask for the same length, it is known beforehand what each
  of them brings, and how many there are. -/
  counts : (∀ call ∈ (Coder.engine s).coming, call.failed = false) →
    ∀ turns length, (∀ i, (turns i).length = length) → ∀ ran, Loops more s turns ran →
      ran.answer.halt = .done ∧ ran.events.calls = (Coder.engine s).coming ∧
        ran.answer.pulls = (Coder.engine s).portions length ∧
        ran.answer.pulls.length = (Coder.engine s).owed ⌈/⌉ length +
          (ran.events.calls.map fun call => call.output.length ⌈/⌉ length).sum

theorem Drains.of_usable {P : S → Prop} (hmore : Asks P more) (h : P s)
    (hp : (Coder.engine s).pump.isPoisoned = false) : Drains more s where
  advances hs turn := turn.advances (hmore.eq_busy s h ▸ hs) hp
  ends turns := by
    obtain ⟨ran, hran, hend⟩ := exists_loops_busy s hp turns
    exact ⟨ran, (hmore.loops_iff h).mpr hran, hend⟩
  counts hcoming turns length hlength ran hran := by
    obtain ⟨ran', hran', hdone, hcalls, hpulls⟩ :=
      exists_loops_busy_of_succeed s hp hcoming turns hlength
    -- there is only one way for the loop to go
    have hsame : ran = ran' := ((hmore.loops_iff h).mp hran).unique hran'
    have hl : 0 < length := hlength 0 ▸ (turns 0).length_pos
    rw [hsame]
    refine ⟨hdone, hcalls, hpulls, ?_⟩
    rw [hpulls, hcalls]
    exact Engine.length_portions hl

end Loops

theorem Encoder.asks_needsInput :
    Asks (fun _ : Encoder c => True) fun e : Encoder c => !e.needsInput where
  eq_busy _ _ := rfl
  draw _ _ _ := trivial

/-- A closed encoder is finished when it is idle, and pulls leave it closed. -/
theorem Encoder.asks_isFinished :
    Asks (fun e : Encoder c => e.closed = true) fun e : Encoder c => !e.isFinished where
  eq_busy e h := by
    show (!(e.closed && e.engine.isIdle)) = !e.engine.isIdle
    rw [h, Bool.true_and]
  draw e length h := (e.drawn length).closed.trans h

theorem Decoder.asks_needsInput :
    Asks (fun _ : Decoder c => True) fun e : Decoder c => !e.needsInput where
  eq_busy _ _ := rfl
  draw _ _ _ := trivial

/-- **Loops end.** Take any transform, and an encoder or a decoder in any state. Then

1. only if it needs input does a pull of at least one byte bring nothing;
2. unless it is poisoned, the loop that pulls while it does not need input drains it, and so does the
   loop that pulls while it is not finished, of an encoder that was closed (`Drains`): every pull
   fails with its block call and poisons the coder, or brings at least one byte and lowers what waits
   and then what is owed; the loop ends, without a call on an empty block; and if no call fails, its
   pulls are the portions of what is owed and of each block to come. -/
theorem loops_drain (c : BlockTransform σ) :
    (∀ e : Encoder c,
      (∀ turn : Turn, (turn.pull e).answer = .ok 0 → e.needsInput = true) ∧
        (e.window ≠ .poisoned →
          Drains (fun e => !e.needsInput) e ∧
            (e.closed = true → Drains (fun e => !e.isFinished) e))) ∧
      ∀ e : Decoder c,
        (∀ turn : Turn, (turn.pull e).answer = .ok 0 → e.needsInput = true) ∧
          (e.window ≠ .poisoned →
            Drains (fun e => !e.needsInput) e ∧ Drains (fun e => !e.isFinished) e) := by
  refine ⟨fun e => ⟨fun turn => turn.isIdle_of_pull_eq_zero, fun hw => ?_⟩,
    fun e => ⟨fun turn => turn.isIdle_of_pull_eq_zero, fun hw => ?_⟩⟩
  · have hp : (Coder.engine e).pump.isPoisoned = false := decide_eq_false hw
    exact ⟨.of_usable Encoder.asks_needsInput trivial hp,
      fun hclosed => .of_usable Encoder.asks_isFinished hclosed hp⟩
  · have hp : (Coder.engine e).pump.isPoisoned = false := decide_eq_false hw
    -- a decoder is finished whenever it needs input
    exact ⟨.of_usable Decoder.asks_needsInput trivial hp,
      .of_usable Decoder.asks_needsInput trivial hp⟩

/-- An encoder that is closed in the middle of its first block, with half a block to come, takes
three pulls of two bytes until it is finished. -/
theorem loops_drain_storing :
    let e := ((Session.start (Encoder.new .stored () ⟨4, by decide, by decide⟩)).run
      [.feedAll [1, 2, 3, 4, 5, 6], .pull [0] 0 1, .close]).coder
    let turns : Turns := fun _ => ⟨[0, 0, 0], 1, 2, by decide, by decide, false⟩
    e.window = .draining 1 [2, 3, 4] ∧ e.backlog = 2 ∧ e.closed = true ∧
      (∀ call ∈ e.engine.coming, call.failed = false) ∧
      ∃ ran, Loops (fun e => !e.isFinished) e turns ran ∧ ran.answer.halt = .done ∧
        ran.answer.pulls = [[2, 3], [4], [5, 6]] ∧ ran.answer.pulls.length = 3 := by
  intro e turns
  have hwindow : e.window = .draining 1 [2, 3, 4] := by
    simp only [e]
    cbv
  have hcoming : e.engine.coming.map BlockCall.failed = [false] := by
    simp only [e]
    cbv
  have hportions : e.engine.portions 2 = [[2, 3], [4], [5, 6]] := by
    simp only [e]
    cbv
  have hsucceed : ∀ call ∈ e.engine.coming, call.failed = false := by
    intro call hcall
    have hmem := List.mem_map_of_mem (f := BlockCall.failed) hcall
    rw [hcoming] at hmem
    simpa using hmem
  have husable : e.window ≠ .poisoned := by
    rw [hwindow]
    decide
  obtain ⟨hencoders, -⟩ := loops_drain BlockTransform.stored
  obtain ⟨-, hdrains⟩ := hencoders e
  obtain ⟨-, hfinish⟩ := hdrains husable
  obtain ⟨-, hends, hcounts⟩ := hfinish (by simp only [e]; cbv)
  obtain ⟨ran, hran, -⟩ := hends turns
  obtain ⟨hdone, -, hpulls, -⟩ := hcounts hsucceed turns 2 (fun _ => rfl) ran hran
  have hpulls : ran.answer.pulls = [[2, 3], [4], [5, 6]] := hpulls.trans hportions
  refine ⟨hwindow, by simp only [e]; cbv, by simp only [e]; cbv, hsucceed, ran, hran, hdone,
    hpulls, ?_⟩
  rw [hpulls]
  rfl

end Blockwise
