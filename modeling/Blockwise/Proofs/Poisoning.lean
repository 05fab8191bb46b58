import Blockwise.Proofs.Lifetime

/-!
# Poisoning — what a failed block call does to a stream

A block call that fails ends its stream: the chunk is gone, and what a transform may have written
is not to be trusted. The coder is poisoned from then on. Whatever it is asked, it takes no input,
makes no call and brings no output, until the caller begins a new stream.

That nothing is lost besides the failed chunk rests on when a stroke is made: only when nothing is
owed, so that all bytes from the calls before have been handed out by the time of the failure.

## Results

* `Session.isPoisoned_iff` — a coder is poisoned exactly if a call of its stream failed.
* `Session.enter_failed` — the command that poisons a coder makes one call more, and all that the
  others put out was handed out before.
* `Session.obeyAll_of_isPoisoned` — no command but the beginning of a new stream changes a poisoned
  session.
* `poisoning_obeyAll` — this and what a poisoned coder replies, for every encoder and every decoder, every
  transform and every history.
-/

namespace Blockwise

universe u

variable {σ : Type u} {c : BlockTransform σ} {d : Direction}

theorem BlockCall.failed_iff {call : BlockCall} :
    call.failed = true ↔ (call.reported = 0 ∧ call.source ≠ []) ∨ call.capacity < call.reported := by
  simp [failed]

/-! ## Refusals -/

/-- The fault of a poisoned coder that is given a range of a buffer: whether the range is within
the buffer is asked first. -/
def poisonedFault (subject : String) (offset length capacity : Nat) : Fault :=
  if offset + length ≤ capacity then .poisoned else .outOfRange subject offset length capacity

theorem Pump.feed_of_isPoisoned {p : Pump} (h : p.isPoisoned = true) (data : Bytes)
    (offset length : Nat) :
    p.feed data offset length = .error (poisonedFault "input" offset length data.length) := by
  unfold feed requireUsable requireRange poisonedFault
  rw [if_pos h]
  split <;> rfl

theorem Engine.feed_of_isPoisoned {e : Engine c d} (h : e.pump.isPoisoned = true) (data : Bytes)
    (offset length : Nat) :
    e.feed data offset length = .error (poisonedFault "input" offset length data.length) := by
  have hpump := Pump.feed_of_isPoisoned h data offset length
  rw [← e.map_pump_feed] at hpump
  exact eq_error_of_map hpump

section Commands

variable {S : Type u} {R : Type} [Coder S c d] [Renewable S R]

theorem Coder.feed_of_isPoisoned {s : S} (h : (engine s).pump.isPoisoned = true) (data : Bytes)
    (offset length : Nat) :
    feed s data offset length = .error (poisonedFault "input" offset length data.length) := by
  have hengine := engine_feed s data offset length
  rw [Engine.feed_of_isPoisoned h] at hengine
  exact eq_error_of_map hengine

theorem window_eq_poisoned_iff {s : S} :
    (Renewable.status s).window = .poisoned ↔ (Coder.engine s).pump.isPoisoned = true := by
  rw [Renewable.window_status]
  exact Engine.isPoisoned_iff.symm

theorem isIdle_of_isPoisoned {s : S} (h : (Coder.engine s).pump.isPoisoned = true) :
    (Coder.engine s).isIdle = false := by
  refine Bool.eq_false_iff.mpr fun hidle => ?_
  rw [Engine.isPoisoned_of_isIdle hidle] at h
  cases h

/-- A poisoned coder leaves the caller's buffer as it is. -/
theorem respond_pull_of_isPoisoned {s : S} (h : (Coder.engine s).pump.isPoisoned = true)
    (buffer : Bytes) (offset length : Nat) :
    respond s (.op (.pull buffer offset length)) =
      .quiet (.pulled (.error (poisonedFault "output" offset length buffer.length)) buffer) s := by
  have hpull : pull Coder.draw s buffer offset length =
      .quiet (.error (poisonedFault "output" offset length buffer.length)) (s, buffer) := by
    unfold poisonedFault
    split
    · rename_i hr
      unfold pull
      rw [requireRange_eq_ok_iff.mpr hr, Renewable.draw_of_isPoisoned s length h]
      rfl
    · rename_i hr
      exact pull_of_outOfRange s hr
  simp only [respond, hpull, Step.quiet]

/-- A coder of which nothing can be had: it takes no input and brings no output, makes no call, and
stays as it is. It is neither in need of input nor finished. -/
structure Refuses (s : S) : Prop where
  feed : ∀ data offset length, respond s (.op (.feed data offset length)) =
    .quiet (.told (.error (poisonedFault "input" offset length data.length))) s
  feedAll : ∀ data, respond s (.op (.feedAll data)) = .quiet (.told (.error .poisoned)) s
  pull : ∀ buffer offset length, respond s (.op (.pull buffer offset length)) =
    .quiet (.pulled (.error (poisonedFault "output" offset length buffer.length)) buffer) s
  needsInput : (Renewable.status s).needsInput = false
  isFinished : (Renewable.status s).isFinished = false

theorem refuses_of_isPoisoned {s : S} (h : (Coder.engine s).pump.isPoisoned = true) :
    Refuses s := by
  have hbusy := isIdle_of_isPoisoned h
  have hoffer : ∀ data offset length, replyTo s (Coder.feed s data offset length) =
      .quiet (.told (.error (poisonedFault "input" offset length data.length))) s := by
    intro data offset length
    rw [Coder.feed_of_isPoisoned h]
    rfl
  refine ⟨hoffer, fun data => ?_, respond_pull_of_isPoisoned h, ?_, ?_⟩
  · -- all of the data is always within range
    have hall := hoffer data 0 data.length
    rw [poisonedFault, if_pos (Nat.le_of_eq (Nat.zero_add _))] at hall
    exact hall
  · rw [Renewable.needsInput_status]
    exact hbusy
  · refine Bool.eq_false_iff.mpr fun hfinished => ?_
    rw [Renewable.isFinished_status s hfinished] at hbusy
    cases hbusy

namespace Session

/-! ## When a coder is poisoned -/

theorem isPoisoned_iff {s : Session S} (h : ∃ origin, s.Balances origin) :
    (Coder.engine s.coder).pump.isPoisoned = true ↔ ∃ call ∈ s.calls, call.failed = true := by
  obtain ⟨origin, hbalances⟩ := h
  rw [hbalances.poisoned, List.any_eq_true]

/-- If a command poisons a coder, then by a draw with one call, which failed. Nothing was owed at
that time: all that the calls before had put out was handed out. -/
theorem enter_failed {s : Session S} (h : ∃ origin, s.Balances origin) (command : Command R)
    (husable : (Coder.engine s.coder).pump.isPoisoned = false)
    (hpoisoned : (Coder.engine (s.obey command).coder).pump.isPoisoned = true) :
    ∃ call, (s.obey command).calls = s.calls ++ [call] ∧
      (s.obey command).returned = s.returned ∧ s.returned = s.calls.flatMap BlockCall.output := by
  have hbalances' := exists_balances_obey h command
  -- the ledger of a poisoned coder has a failed call, which the ledger before does not have
  have hsame : (s.obey command).calls = s.calls → False := by
    intro hcalls
    rw [isPoisoned_iff hbalances', hcalls, ← isPoisoned_iff h, husable] at hpoisoned
    cases hpoisoned
  rcases s.obey_cases command with heq | ⟨data, offset, length, coder, hfeed, heq⟩ |
    ⟨length, heq⟩ | heq | ⟨way, -, heq⟩
  · exact absurd (by rw [heq]) hsame
  · exact absurd (by rw [heq]; rfl) hsame
  · -- only a draw makes calls
    obtain ⟨origin, hbalances⟩ := h
    rw [heq] at hpoisoned ⊢
    obtain ⟨call, hcalls, hnone, hreturned⟩ :=
      hbalances.drawn_of_poisons (Coder.drawn s.coder length) husable hpoisoned
    refine ⟨call, ?_, ?_, hreturned⟩
    · simp only [draw, Ledger.enter, hcalls]
    · simp only [draw, Ledger.enter, hnone, List.append_nil]
  · exact absurd (by rw [heq]; rfl) hsame
  · -- a new stream has made no call yet
    rw [isPoisoned_iff hbalances', heq] at hpoisoned
    obtain ⟨call, hcall, -⟩ := hpoisoned
    cases hcall

/-! ## A poisoned session stays as it is -/

theorem obey_of_isPoisoned {s : Session S} (h : (Coder.engine s.coder).pump.isPoisoned = true)
    {command : Command R} (hrenews : command.renews = false) :
    (s.obey command).toLedger = s.toLedger ∧
      Renewable.status (s.obey command).coder = Renewable.status s.coder := by
  rcases s.obey_cases command with heq | ⟨data, offset, length, coder, hfeed, heq⟩ |
    ⟨length, heq⟩ | heq | ⟨way, hway, heq⟩
  · rw [heq]
    exact ⟨rfl, rfl⟩
  · rw [Coder.feed_of_isPoisoned h] at hfeed
    cases hfeed
  · rw [heq]
    simp only [draw, Renewable.draw_of_isPoisoned s.coder length h]
    exact ⟨s.toLedger.enter_nil, rfl⟩
  · rw [heq]
    exact ⟨rfl, Renewable.status_close s.coder (isIdle_of_isPoisoned h)⟩
  · rw [hway] at hrenews
    cases hrenews

theorem obeyAll_of_isPoisoned {s : Session S} (h : (Coder.engine s.coder).pump.isPoisoned = true)
    {commands : List (Command R)} (hrenews : ∀ command ∈ commands, command.renews = false) :
    (s.obeyAll commands).toLedger = s.toLedger ∧
      Renewable.status (s.obeyAll commands).coder = Renewable.status s.coder := by
  refine obeyAll_induction (P := fun s' : Session S => s'.toLedger = s.toLedger ∧
    Renewable.status s'.coder = Renewable.status s.coder) ⟨rfl, rfl⟩ ?_
  rintro s' command hmem ⟨hledger, hstatus⟩
  -- the status shows that the coder is still poisoned
  have hpoisoned : (Coder.engine s'.coder).pump.isPoisoned = true := by
    rw [← window_eq_poisoned_iff, hstatus, window_eq_poisoned_iff]
    exact h
  obtain ⟨hledger', hstatus'⟩ := obey_of_isPoisoned hpoisoned (hrenews command hmem)
  exact ⟨hledger'.trans hledger, hstatus'.trans hstatus⟩

/-! ## The protocol -/

/-- What a failed call means to a session, as far as its caller can see. -/
structure Poisoning (s : Session S) : Prop where
  /-- A coder is poisoned exactly if some call of the stream reported nothing for a real block, or
  more than there was room for. -/
  poisoned_iff : (Renewable.status s.coder).window = .poisoned ↔
    ∃ call ∈ s.calls, (call.reported = 0 ∧ call.source ≠ []) ∨ call.capacity < call.reported
  /-- When a command poisons a coder, all that the calls before had put out was handed out. -/
  failure : ∀ command : Command R, (Renewable.status s.coder).window ≠ .poisoned →
    (Renewable.status (s.obey command).coder).window = .poisoned →
    ∃ call, (s.obey command).calls = s.calls ++ [call] ∧
      (s.obey command).returned = s.returned ∧ s.returned = s.calls.flatMap BlockCall.output
  /-- Until a new stream is begun, a poisoned coder accepts nothing, calls nothing and returns
  nothing, and everything that can be asked of it stays as it is. -/
  frozen : (Renewable.status s.coder).window = .poisoned → ∀ commands : List (Command R),
    (∀ command ∈ commands, command.renews = false) →
    (s.obeyAll commands).toLedger = s.toLedger ∧
      Renewable.status (s.obeyAll commands).coder = Renewable.status s.coder ∧
      Refuses (s.obeyAll commands).coder

theorem poisoning_of_balances {s : Session S} (h : ∃ origin, s.Balances origin) : Poisoning s where
  poisoned_iff := by
    rw [window_eq_poisoned_iff, isPoisoned_iff h]
    simp only [BlockCall.failed_iff]
  failure command husable hpoisoned := by
    rw [ne_eq, window_eq_poisoned_iff, Bool.not_eq_true] at husable
    exact enter_failed h command husable (window_eq_poisoned_iff.mp hpoisoned)
  frozen hpoisoned commands hrenews := by
    obtain ⟨hledger, hstatus⟩ :=
      obeyAll_of_isPoisoned (window_eq_poisoned_iff.mp hpoisoned) hrenews
    refine ⟨hledger, hstatus, refuses_of_isPoisoned ?_⟩
    rw [← window_eq_poisoned_iff, hstatus]
    exact hpoisoned

end Session

end Commands

/-- The protocol of poisoning, for encoders and for decoders: over every transform, and in every
state that a history of commands can lead to. -/
theorem poisoning_obeyAll (c : BlockTransform σ) (state : σ) (settings : Settings) :
    (∀ history, ((Session.start (Encoder.new c state settings)).obeyAll history).Poisoning) ∧
      ∀ history, ((Session.start (Decoder.new c state settings)).obeyAll history).Poisoning :=
  ⟨fun history => Session.poisoning_of_balances (Session.exists_balances state settings history),
    fun history => Session.poisoning_of_balances (Session.exists_balances state settings history)⟩

end Blockwise
