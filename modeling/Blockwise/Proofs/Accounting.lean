import Mathlib
import Blockwise.Proofs.Encoding
import Blockwise.Proofs.Lifetime

/-!
# Accounting — what the counters of an encoder amount to

An encoder counts the bytes that went into block calls and those that came out of them. Its caller
can count as well: the bytes of the inputs that were accepted, and those that pulls have brought.
The two counts differ by what is under way. What was accepted and not consumed still waits, except
for the block of a call that failed, which is gone; what was produced and not returned is owed.

So the caller knows from the counters alone when a stream is complete: an encoder needs input if and
only if it is not poisoned and the counts agree on both sides.

## Results

* `Ledger.Balances.length_inputs` — every byte of the inputs was staged or waits.
* `Session.failedLast_obeyAll` — no call is made after one that failed.
* `Encoder.accounts_obeyAll` — the accounts of an encoder after any history of commands.
-/

namespace Blockwise

universe u

variable {σ : Type u} {c : BlockTransform σ} {d : Direction}

/-! ## Bytes that were staged -/

namespace Ledger

/-- No call comes after one that failed. -/
def FailedLast (ledger : Ledger) : Prop := ∀ call ∈ ledger.calls.dropLast, call.failed = false

namespace Balances

variable {ledger : Ledger} {origin e : Engine c d}

/-- The blocks of the calls and what waits make up the inputs. -/
theorem length_inputs (h : ledger.Balances origin e) :
    ledger.inputs.flatten.length = ledger.sources.flatten.length + e.waiting.length := by
  have hjoin := congrArg List.flatten h.sources
  -- an empty block has no bytes
  have hfilter : (ledger.sources.filter (· ≠ [])).flatten = ledger.sources.flatten := by
    induction ledger.sources with
    | nil => rfl
    | cons source sources ih =>
      rw [List.filter_cons, List.flatten_cons, ← ih]
      cases source <;> rfl
  rw [List.flatten_append, hfilter, flatten_pieces origin.stageSize_pos,
    flatten_flatMap_pieces origin.stageSize_pos] at hjoin
  rw [← hjoin, List.length_append]

/-- Only the last call of a ledger that balances can have failed, and it stays so with a draw: a
poisoned engine makes no call. -/
theorem failedLast_drawn (h : ledger.Balances origin e) (hlast : ledger.FailedLast)
    {e' : Engine c d} {length : Nat} {answer : Except Fault Bytes} {events : Trace}
    (hd : e.Drawn length answer e' events) :
    (ledger.enter events.calls (Engine.drawnBytes answer)).FailedLast := by
  have hnone : (ledger.enter [] (Engine.drawnBytes answer)).FailedLast := by
    simpa [FailedLast, enter] using hlast
  have hone : e.pump.isPoisoned = false →
      (ledger.enter [e.nextCall] (Engine.drawnBytes answer)).FailedLast := by
    intro hp call hcall
    simp only [enter, List.dropLast_concat] at hcall
    exact h.succeeded hp call hcall
  cases hd with
  | refused hp => exact hnone
  | idle hi => exact hnone
  | owing ho => exact hnone
  | failed hp ho hf =>
    rw [Engine.calls_stroke hp]
    exact hone hp
  | struck hp ho hs =>
    rw [Engine.calls_stroke hp]
    exact hone hp

end Balances

/-- What the calls took in falls short of their blocks by the block of the one that failed. -/
theorem FailedLast.length_sources {ledger : Ledger} (h : ledger.FailedLast) :
    (∀ call ∈ ledger.calls, call.failed = false) ∧
        ledger.sources.flatten.length = (ledger.calls.map BlockCall.intake).sum ∨
      ∃ earlier call, ledger.calls = earlier ++ [call] ∧
        (∀ call' ∈ earlier, call'.failed = false) ∧ call.failed = true ∧
        ledger.sources.flatten.length =
          (ledger.calls.map BlockCall.intake).sum + call.source.length := by
  have hintake : ∀ calls : List BlockCall, (∀ call ∈ calls, call.failed = false) →
      (calls.map BlockCall.source).flatten.length = (calls.map BlockCall.intake).sum := by
    intro calls hcalls
    rw [List.length_flatten, List.map_map]
    refine congrArg List.sum (List.map_congr_left fun call hcall => ?_)
    simp [BlockCall.intake, hcalls call hcall]
  unfold sources
  rcases List.eq_nil_or_concat' ledger.calls with hnil | ⟨earlier, call, hcalls⟩
  · left
    rw [hnil]
    exact ⟨fun call hcall => (List.not_mem_nil hcall).elim, rfl⟩
  · have hearlier : ∀ call' ∈ earlier, call'.failed = false := by
      intro call' hmem
      refine h call' ?_
      rw [hcalls, List.dropLast_concat]
      exact hmem
    cases hf : call.failed with
    | false =>
      left
      have hall : ∀ call' ∈ ledger.calls, call'.failed = false := by
        rw [hcalls, List.forall_mem_append]
        exact ⟨hearlier, fun call' hmem => List.mem_singleton.mp hmem ▸ hf⟩
      exact ⟨hall, hintake ledger.calls hall⟩
    | true =>
      right
      refine ⟨earlier, call, hcalls, hearlier, hf, ?_⟩
      have hbefore := hintake earlier hearlier
      rw [hcalls, List.map_append, List.flatten_append, List.length_append, hbefore]
      simp [BlockCall.intake, hf]

end Ledger

/-! ## Commands -/

namespace Session

variable {S : Type u} {R : Type} [Coder S c d] [Renewable S R]

theorem failedLast_obey {s : Session S} (hbalances : ∃ origin, s.Balances origin)
    (h : s.FailedLast) (command : Command R) : (s.obey command).FailedLast := by
  rcases s.obey_cases command with heq | ⟨data, offset, length, coder, hfeed, heq⟩ |
    ⟨length, heq⟩ | heq | ⟨way, -, heq⟩
  all_goals rw [heq]
  · exact h
  · exact h
  · -- only a draw makes calls
    obtain ⟨origin, hs⟩ := hbalances
    exact Ledger.Balances.failedLast_drawn hs h (Coder.drawn s.coder length)
  · exact h
  · exact fun call hcall => (List.not_mem_nil hcall).elim

theorem failedLast_obeyAll (state : σ) (settings : Settings) (commands : List (Command R)) :
    ((start (Renewable.new state settings : S)).obeyAll commands).FailedLast := by
  let P : Session S → Prop := fun s => (∃ origin, s.Balances origin) ∧ s.FailedLast
  have hstart : P (start (Renewable.new state settings)) :=
    ⟨⟨_, balances_start (Renewable.isIdle_new state settings)⟩,
      fun call hcall => (List.not_mem_nil hcall).elim⟩
  have hall : P ((start (Renewable.new state settings)).obeyAll commands) :=
    obeyAll_induction hstart fun _ command _ h =>
      ⟨exists_balances_obey h.1 command, failedLast_obey h.1 h.2 command⟩
  exact hall.2

end Session

/-- The stream at hand after the commands was closed: none that came after began a new one. -/
def ClosedBy {R : Type} (commands : List (Command R)) : Prop :=
  ∃ earlier later, commands = earlier ++ .op .close :: later ∧
    ∀ command ∈ later, command.renews = false

/-- What the last command means to that. -/
theorem closedBy_concat {R : Type} {commands : List (Command R)} {command : Command R} :
    ClosedBy (commands ++ [command]) ↔
      command = .op .close ∨ command.renews = false ∧ ClosedBy commands := by
  constructor
  · rintro ⟨earlier, later, hsplit, hlater⟩
    rcases List.eq_nil_or_concat' later with rfl | ⟨later', last, rfl⟩
    · left
      exact List.singleton_inj.mp (List.append_inj' hsplit rfl).2
    · right
      rw [← List.cons_append, ← List.append_assoc] at hsplit
      obtain ⟨hbefore, hlast⟩ := List.append_inj' hsplit rfl
      rw [List.singleton_inj.mp hlast]
      obtain ⟨hlater, hrenews⟩ := List.forall_mem_append.mp hlater
      exact ⟨hrenews last (List.mem_singleton_self last), earlier, later', hbefore, hlater⟩
  · rintro (rfl | ⟨hrenews, earlier, later, rfl, hlater⟩)
    · exact ⟨commands, [], rfl, fun command hcommand => (List.not_mem_nil hcommand).elim⟩
    · refine ⟨earlier, later ++ [command], by simp, ?_⟩
      rw [List.forall_mem_append]
      exact ⟨hlater, fun command' hmem => List.mem_singleton.mp hmem ▸ hrenews⟩

/-! ## The accounts of an encoder -/

theorem Engine.isIdle_iff_settled {e : Engine c d} :
    e.isIdle = true ↔ e.window ≠ .poisoned ∧ e.backlog = 0 ∧ e.owed = 0 := by
  have hempty : e.owed = 0 → e.window ≠ .poisoned → e.pump.window = .empty := by
    intro howed hp
    have hshows : e.pump.window.Shows e.pump.result.bytes := e.shows
    cases hw : e.pump.window with
    | empty => rfl
    | poisoned => exact absurd hw hp
    | draining read unread =>
      -- an open window owes something
      rw [hw] at hshows
      simp only [owed, Pump.owed, hw, Window.owed, Window.unread, List.length_eq_zero_iff] at howed
      exact absurd howed hshows.1
  rw [isIdle_iff]
  constructor
  · rintro ⟨hw, hwaiting⟩
    refine ⟨?_, congrArg List.length hwaiting, ?_⟩
    · rw [window, hw]
      exact Window.noConfusion
    · simp [owed, Pump.owed, hw, Window.owed, Window.unread]
  · rintro ⟨hp, hbacklog, howed⟩
    exact ⟨hempty howed hp, List.length_eq_zero_iff.mp hbacklog⟩

namespace Encoder

theorem counts_obey {s : Session (Encoder c)} (h : Counts s) (command : Command Renewal) :
    Counts (s.obey command) := by
  cases command with
  | op op => exact counts_step h op
  | loadDictionary data offset length => exact h
  -- the counters of a new stream begin anew, and so does its ledger
  | renew way => cases way <;> exact ⟨rfl, rfl⟩
  | ask => exact h

theorem counts_obeyAll (state : σ) (settings : Settings) (commands : List (Command Renewal)) :
    Counts ((Session.start (new c state settings)).obeyAll commands) :=
  Session.obeyAll_induction (P := Counts) ⟨rfl, rfl⟩ fun _ command _ h => counts_obey h command

/-- The counters of a stream never decrease. -/
theorem counters_le_obeyAll {s : Session (Encoder c)} {commands : List (Command Renewal)}
    (hrenews : ∀ command ∈ commands, command.renews = false) :
    s.coder.consumed ≤ (s.obeyAll commands).coder.consumed ∧
      s.coder.produced ≤ (s.obeyAll commands).coder.produced := by
  refine Session.obeyAll_induction (P := fun s' : Session (Encoder c) =>
    s.coder.consumed ≤ s'.coder.consumed ∧ s.coder.produced ≤ s'.coder.produced)
    ⟨Nat.le_refl _, Nat.le_refl _⟩ ?_
  rintro s' command hmem ⟨hconsumed, hproduced⟩
  rcases s'.obey_cases command with heq | ⟨data, offset, length, coder, hfeed, heq⟩ |
    ⟨length, heq⟩ | heq | ⟨way, hway, heq⟩
  · rw [heq]
    exact ⟨hconsumed, hproduced⟩
  · obtain ⟨hsame, hsame'⟩ := counts_feed hfeed
    rw [heq]
    exact ⟨hconsumed.trans hsame.ge, hproduced.trans hsame'.ge⟩
  · -- a draw adds to them
    obtain ⟨hadded, hadded'⟩ := (s'.coder.drawn length).counts
    rw [heq]
    refine ⟨hconsumed.trans ?_, hproduced.trans ?_⟩
    · exact hadded ▸ Nat.le_add_right ..
    · exact hadded' ▸ Nat.le_add_right ..
  · rw [heq]
    exact ⟨hconsumed, hproduced⟩
  · have hkept := hrenews command hmem
    rw [hway] at hkept
    cases hkept

/-- What one command means to whether an encoder is closed. -/
theorem closed_obey (s : Session (Encoder c)) (command : Command Renewal) :
    (s.obey command).coder.closed = true ↔
      command = .op .close ∨ command.renews = false ∧ s.coder.closed = true := by
  by_cases hclose : command = .op .close
  · rw [hclose]
    exact ⟨fun _ => .inl rfl, fun _ => rfl⟩
  · cases command with
    | op op =>
      have hop : op ≠ .close := fun heq => hclose (heq ▸ rfl)
      have hsame : (s.step op).coder.closed = s.coder.closed := closed_step hop
      show (s.step op).coder.closed = true ↔ _
      rw [hsame]
      simp [hop, Command.renews]
    | loadDictionary data offset length => simp [Session.obey, Command.renews]
    | renew way => cases way <;> simp [Session.obey, Session.start, Renewable.renew, renew, reset,
        restart, Command.renews]
    | ask => simp [Session.obey, Command.renews]

theorem closed_obeyAll (state : σ) (settings : Settings) (commands : List (Command Renewal)) :
    ((Session.start (new c state settings)).obeyAll commands).coder.closed = true ↔
      ClosedBy commands := by
  -- on the commands from the last one back
  induction commands using List.reverseRecOn with
  | nil =>
    constructor
    · intro h
      cases h
    · rintro ⟨earlier, later, hsplit, -⟩
      simp at hsplit
  | append_singleton commands command ih =>
    rw [closedBy_concat, ← ih]
    have hconcat : (Session.start (new c state settings)).obeyAll (commands ++ [command]) =
        ((Session.start (new c state settings)).obeyAll commands).obey command :=
      List.foldl_concat ..
    rw [hconcat]
    exact closed_obey _ command

/-- **The accounts of an encoder.** Take any transform in any state, any settings, and an encoder
after any commands. For the stream at hand, that is since the encoder was made, reset or restarted,

1. the bytes of the accepted inputs are those that were consumed and those that wait; of a poisoned
   encoder, whose last call is the one that failed, also those of the block of that call;
2. the bytes that were produced are those that pulls have brought and those that are owed;
3. the counters of consumed and produced bytes never decrease;
4. the encoder needs input if and only if it is not poisoned, all accepted bytes were consumed, and
   all produced bytes were brought;
5. it is finished if and only if it needs input and was closed;
6. so it needs input if and only if it is not poisoned, nothing waits, and nothing is owed: it does
   not say so while a byte is under way, and does not withhold it when none is. -/
theorem accounts_obeyAll (c : BlockTransform σ) (state : σ) (settings : Settings)
    (history : List (Command Renewal)) :
    let s := (Session.start (new c state settings)).obeyAll history
    let e := s.coder
    let accepted := s.inputs.flatten.length
    let returned := s.returned.length
    (e.window ≠ .poisoned ∧ accepted = e.consumed + e.backlog ∨
        e.window = .poisoned ∧ ∃ earlier call, s.calls = earlier ++ [call] ∧
          (∀ call' ∈ earlier, call'.failed = false) ∧ call.failed = true ∧
          accepted = e.consumed + e.backlog + call.source.length) ∧
      e.produced = returned + e.owed ∧
      (∀ commands, (∀ command ∈ commands, command.renews = false) →
        e.consumed ≤ (s.obeyAll commands).coder.consumed ∧
          e.produced ≤ (s.obeyAll commands).coder.produced) ∧
      (e.needsInput = true ↔
        e.window ≠ .poisoned ∧ e.consumed = accepted ∧ e.produced = returned) ∧
      (e.isFinished = true ↔ e.needsInput = true ∧ ClosedBy history) ∧
      (e.needsInput = true ↔ e.window ≠ .poisoned ∧ e.backlog = 0 ∧ e.owed = 0) := by
  intro s e accepted returned
  obtain ⟨origin, hbalances⟩ : ∃ origin, s.Balances origin :=
    Session.exists_balances state settings history
  have hbalances : s.toLedger.Balances origin e.engine := hbalances
  have hcounts : Counts s := counts_obeyAll state settings history
  have hlast : s.FailedLast := Session.failedLast_obeyAll (S := Encoder c) state settings history
  have hinputs : accepted = s.sources.flatten.length + e.backlog := hbalances.length_inputs
  have hpoisoned : e.window = .poisoned ↔ ∃ call ∈ s.calls, call.failed = true := by
    rw [← List.any_eq_true, ← hbalances.poisoned]
    exact Engine.isPoisoned_iff.symm
  have hsettled : e.needsInput = true ↔ e.window ≠ .poisoned ∧ e.backlog = 0 ∧ e.owed = 0 :=
    Engine.isIdle_iff_settled
  have hin : e.window ≠ .poisoned ∧ accepted = e.consumed + e.backlog ∨
      e.window = .poisoned ∧ ∃ earlier call, s.calls = earlier ++ [call] ∧
        (∀ call' ∈ earlier, call'.failed = false) ∧ call.failed = true ∧
        accepted = e.consumed + e.backlog + call.source.length := by
    have hconsumed : e.consumed = (s.calls.map BlockCall.intake).sum := hcounts.consumed
    rcases hlast.length_sources with ⟨hall, hlength⟩ | ⟨earlier, call, hcalls, hearlier, hf, hlength⟩
    · left
      refine ⟨fun hp => ?_, by omega⟩
      obtain ⟨call, hcall, hf⟩ := hpoisoned.mp hp
      rw [hall call hcall] at hf
      cases hf
    · right
      refine ⟨hpoisoned.mpr ⟨call, by simp [hcalls], hf⟩, earlier, call, hcalls, hearlier, hf, ?_⟩
      omega
  have hout : e.produced = returned + e.owed := by
    have hlength := congrArg List.length hbalances.bytes
    rw [List.length_append] at hlength
    rw [show e.produced = _ from hcounts.produced, ← hlength]
    rfl
  refine ⟨hin, hout, fun commands hrenews => counters_le_obeyAll hrenews, ?_, ?_, hsettled⟩
  · -- the counts agree if and only if nothing is under way
    rw [hsettled]
    constructor
    · rintro ⟨hp, hbacklog, howed⟩
      obtain ⟨-, haccepted⟩ := hin.resolve_right fun h => hp h.1
      exact ⟨hp, by omega, by omega⟩
    · rintro ⟨hp, hconsumed, hproduced⟩
      obtain ⟨-, haccepted⟩ := hin.resolve_right fun h => hp h.1
      exact ⟨hp, by omega, by omega⟩
  · have hclosed : e.closed = true ↔ ClosedBy history := closed_obeyAll state settings history
    rw [← hclosed, isFinished, Bool.and_eq_true]
    exact and_comm

end Encoder

end Blockwise
