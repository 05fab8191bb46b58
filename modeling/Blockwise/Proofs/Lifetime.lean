import Blockwise.Proofs.Session

/-!
# Lifetime — a coder through one stream after another

A coder outlives its streams: a caller may begin a new one at any time, and may ask at any time how
things stand. A `Command` is all that a caller can do with a coder, and the `Reply` to it is all
that the caller gets back. An encoder can be reset or restarted with other settings, a decoder can
only be reset; what they have in common is a `Renewable` coder.

The ledger of a session is that of the stream at hand: with every new stream it begins anew.

## Results

* `Session.obey_cases` — a command does nothing, feeds, draws, closes or begins a new stream.
* `Session.coder_obey` — a session does with its coder what the commands say.
* `Session.exists_balances` — the ledger of the stream at hand balances, since the engine that the
  stream began with.
-/

namespace Blockwise

universe u

variable {σ : Type u}

/-! ## Commands and replies -/

/-- How things stand with a coder, as far as its caller can ask. -/
structure Status where
  window : Window
  chunkSize : Nat
  backlog : Nat
  needsInput : Bool
  isFinished : Bool
  /-- How many bytes went into block calls and came out of them, where that is counted. -/
  counters : Option (Nat × Nat)
deriving DecidableEq

/-- What a caller can do with a coder that begins new streams in the ways `R`. -/
inductive Command (R : Type) where
  /-- An operation on the stream at hand. -/
  | op (op : Op)
  /-- The range of the data is offered as a dictionary. -/
  | loadDictionary (data : Bytes) (offset length : Nat)
  /-- A new stream is begun. -/
  | renew (way : R)
  /-- The caller asks how things stand. -/
  | ask

def Command.renews {R : Type} : Command R → Bool
  | renew _ => true
  | op _ | loadDictionary .. | ask => false

inductive Reply where
  | told (answer : Except Fault Unit)
  /-- The number of bytes that were pulled, and the caller's buffer after it. -/
  | pulled (answer : Except Fault Nat) (buffer : Bytes)
  | status (status : Status)

/-- A coder that can begin new streams, in the ways `R`. -/
class Renewable (S : Type u) {σ : outParam (Type u)} {c : outParam (BlockTransform σ)}
    {d : outParam Direction} [Coder S c d] (R : outParam Type) where
  /-- A coder at the start of its first stream. -/
  new : σ → Settings → S
  renew : S → R → Step S Unit
  loadDictionary : S → Bytes → Nat → Nat → Except Fault S
  status : S → Status
  isIdle_new : ∀ (state : σ) (settings : Settings), (Coder.engine (new state settings)).isIdle = true
  isIdle_renew : ∀ (s : S) (way : R), (Coder.engine (renew s way).next).isIdle = true
  chunkSize_new : ∀ (state : σ) (settings : Settings),
    (Coder.engine (new state settings)).chunkSize = settings.chunkSize
  /-- A new stream has chunks of the same size, or of the size in some settings. -/
  chunkSize_renew : ∀ (s : S) (way : R),
    (Coder.engine (renew s way).next).chunkSize = (Coder.engine s).chunkSize ∨
      ∃ settings : Settings, (Coder.engine (renew s way).next).chunkSize = settings.chunkSize
  calls_renew : ∀ (s : S) (way : R), (renew s way).events.calls = []
  /-- No coder takes a dictionary. -/
  loadDictionary_eq_error : ∃ operation, ∀ (s : S) (data : Bytes) (offset length : Nat),
    loadDictionary s data offset length = .error (.unsupported operation)
  /-- A coder that is poisoned refuses a draw and stays as it is. -/
  draw_of_isPoisoned : ∀ (s : S) (length : Nat), (Coder.engine s).pump.isPoisoned = true →
    Coder.draw s length = .quiet (.error .poisoned) s
  window_status : ∀ s : S, (status s).window = (Coder.engine s).window
  needsInput_status : ∀ s : S, (status s).needsInput = (Coder.engine s).isIdle
  isFinished_status : ∀ s : S, (status s).isFinished = true → (Coder.engine s).isIdle = true
  /-- Only a coder that is idle may be finished by being closed. -/
  status_close : ∀ s : S, (Coder.engine s).isIdle = false → status (Coder.close s) = status s

/-! ## Encoders and decoders -/

def Encoder.status {c : BlockTransform σ} (e : Encoder c) : Status where
  window := e.window
  chunkSize := e.chunkSize
  backlog := e.backlog
  needsInput := e.needsInput
  isFinished := e.isFinished
  counters := some (e.consumed, e.produced)

/-- How things stand with a decoder. It does not count. -/
def Decoder.status {c : BlockTransform σ} (e : Decoder c) : Status where
  window := e.window
  chunkSize := e.chunkSize
  backlog := e.backlog
  needsInput := e.needsInput
  isFinished := e.isFinished
  counters := none

/-- The ways to begin a new stream with an encoder. -/
inductive Encoder.Renewal where
  | reset
  | restart (settings : Settings)

inductive Decoder.Renewal where
  | reset

def Encoder.renew {c : BlockTransform σ} (e : Encoder c) : Renewal → Step (Encoder c) Unit
  | .reset => e.reset
  | .restart settings => e.restart settings

instance {c : BlockTransform σ} : Renewable (Encoder c) Encoder.Renewal where
  new := .new c
  renew := Encoder.renew
  loadDictionary := Encoder.loadDictionary
  status := Encoder.status
  isIdle_new _ _ := rfl
  isIdle_renew _ way := by cases way <;> rfl
  chunkSize_new _ _ := rfl
  chunkSize_renew _ way := by
    cases way with
    | reset => exact .inl rfl
    | restart settings => exact .inr ⟨settings, rfl⟩
  calls_renew _ way := by cases way <;> rfl
  loadDictionary_eq_error := ⟨_, fun _ _ _ _ => rfl⟩
  draw_of_isPoisoned _ _ h := if_pos h
  window_status _ := rfl
  needsInput_status _ := rfl
  isFinished_status e h := by
    have hboth : e.closed = true ∧ e.engine.isIdle = true := by
      simpa [Encoder.status, Encoder.isFinished] using h
    exact hboth.2
  status_close e h := by
    have hfinished : ∀ closed, ({ e with closed } : Encoder c).isFinished = false := by
      intro closed
      show (closed && e.engine.isIdle) = false
      rw [show e.engine.isIdle = false from h, Bool.and_false]
    -- so all that closing changes is hidden from the caller
    show ({ e with closed := true } : Encoder c).status = e.status
    unfold Encoder.status
    rw [hfinished, show e.isFinished = false from hfinished e.closed]
    rfl

instance {c : BlockTransform σ} : Renewable (Decoder c) Decoder.Renewal where
  new := .new c
  renew e _ := e.reset
  loadDictionary := Decoder.loadDictionary
  status := Decoder.status
  isIdle_new _ _ := rfl
  isIdle_renew _ _ := rfl
  chunkSize_new _ _ := rfl
  chunkSize_renew _ _ := .inl rfl
  calls_renew _ _ := rfl
  loadDictionary_eq_error := ⟨_, fun _ _ _ _ => rfl⟩
  draw_of_isPoisoned _ _ h := if_pos h
  window_status _ := rfl
  needsInput_status _ := rfl
  isFinished_status _ h := h
  status_close _ _ := rfl

/-! ## Obeying commands -/

section Commands

variable {S : Type u} {c : BlockTransform σ} {d : Direction} {R : Type} [Coder S c d]
  [Renewable S R]

/-- The reply to an offer, which leaves the coder as it was if it is refused. -/
def replyTo (s : S) : Except Fault S → Step S Reply
  | .ok taken => .quiet (.told (.ok ())) taken
  | .error fault => .quiet (.told (.error fault)) s

/-- What a coder does on a command. -/
def respond (s : S) : Command R → Step S Reply
  | .op (.feed data offset length) => replyTo s (Coder.feed s data offset length)
  | .op (.feedAll data) => replyTo s (Coder.feed s data 0 data.length)
  | .op (.pull buffer offset length) =>
    let pulled := pull Coder.draw s buffer offset length
    ⟨.pulled pulled.answer pulled.next.2, pulled.next.1, pulled.events⟩
  | .op .close => .quiet (.told (.ok ())) (Coder.close s)
  | .loadDictionary data offset length => replyTo s (Renewable.loadDictionary s data offset length)
  | .renew way =>
    let renewed := Renewable.renew s way
    ⟨.told (.ok ()), renewed.next, renewed.events⟩
  | .ask => .quiet (.status (Renewable.status s)) s

def after (s : S) (commands : List (Command R)) : S :=
  commands.foldl (fun s command => (respond s command).next) s

namespace Session

/-- One command. The ledger of a new stream is blank. -/
def obey (s : Session S) : Command R → Session S
  | .op op => s.step op
  | .loadDictionary .. | .ask => s
  | .renew way => start (Renewable.renew s.coder way).next

def obeyAll (s : Session S) (commands : List (Command R)) : Session S := commands.foldl obey s

theorem coder_offer (s : Session S) (data : Bytes) (offset length : Nat) :
    (s.offer data offset length).coder =
      (replyTo s.coder (Coder.feed s.coder data offset length)).next := by
  unfold offer feed
  cases Coder.feed s.coder data offset length <;> rfl

/-- A session does with its coder what the command says. -/
theorem coder_obey (s : Session S) (command : Command R) :
    (s.obey command).coder = (respond s.coder command).next := by
  cases command with
  | op op =>
    cases op with
    | feed data offset length => exact s.coder_offer data offset length
    | feedAll data => exact s.coder_offer data 0 data.length
    | pull buffer offset length => rfl
    | close => rfl
  | loadDictionary data offset length =>
    -- which is refused, so the coder stays
    obtain ⟨operation, hrefused⟩ := Renewable.loadDictionary_eq_error (S := S)
    simp only [obey, respond, hrefused, replyTo, Step.quiet]
  | renew way => rfl
  | ask => rfl

theorem coder_obeyAll (s : Session S) (commands : List (Command R)) :
    (s.obeyAll commands).coder = after s.coder commands := by
  induction commands generalizing s with
  | nil => rfl
  | cons command commands ih =>
    have hrest : ((s.obey command).obeyAll commands).coder = _ := ih (s.obey command)
    rw [coder_obey] at hrest
    exact hrest

theorem obey_cases (s : Session S) (command : Command R) :
    s.obey command = s ∨
      (∃ data offset length coder, Coder.feed s.coder data offset length = .ok coder ∧
        s.obey command =
          { toLedger := s.toLedger.accept ((data.drop offset).take length), coder }) ∨
      (∃ length, s.obey command = s.draw length) ∨
      s.obey command = s.close ∨
      ∃ way, command = .renew way ∧ s.obey command = start (Renewable.renew s.coder way).next := by
  cases command with
  -- an operation on the stream is a step of the session
  | op op =>
    rcases s.step_cases op with h | h | h | ⟨-, h⟩
    · exact .inl h
    · exact .inr (.inl h)
    · exact .inr (.inr (.inl h))
    · exact .inr (.inr (.inr (.inl h)))
  | loadDictionary data offset length => exact .inl rfl
  | renew way => exact .inr (.inr (.inr (.inr ⟨way, rfl, rfl⟩)))
  | ask => exact .inl rfl

/-- What holds at the beginning and is kept by every command holds after all of them. -/
theorem obeyAll_induction {P : Session S → Prop} {s : Session S} {commands : List (Command R)}
    (h : P s) (hstep : ∀ s, ∀ command ∈ commands, P s → P (s.obey command)) :
    P (s.obeyAll commands) := by
  induction commands generalizing s with
  | nil => exact h
  | cons command commands ih =>
    refine ih (hstep s command (List.mem_cons_self ..) h) ?_
    exact fun s' command' hmem => hstep s' command' (List.mem_cons_of_mem _ hmem)

/-- The ledger balances since the engine that the stream at hand began with. -/
theorem exists_balances_obey {s : Session S} (h : ∃ origin, s.Balances origin)
    (command : Command R) : ∃ origin, (s.obey command).Balances origin := by
  obtain ⟨origin, hbalances⟩ := h
  rcases s.obey_cases command with heq | ⟨data, offset, length, coder, hfeed, heq⟩ |
    ⟨length, heq⟩ | heq | ⟨way, -, heq⟩
  all_goals rw [heq]
  · exact ⟨origin, hbalances⟩
  · exact ⟨origin, hbalances.feed hfeed⟩
  · exact ⟨origin, hbalances.draw length⟩
  · exact ⟨origin, hbalances.close⟩
  · -- a new stream balances from its own beginning
    exact ⟨_, balances_start (Renewable.isIdle_renew s.coder way)⟩

theorem exists_balances (state : σ) (settings : Settings) (commands : List (Command R)) :
    ∃ origin, ((start (Renewable.new state settings : S)).obeyAll commands).Balances origin :=
  obeyAll_induction (P := fun s => ∃ origin, s.Balances origin)
    ⟨_, balances_start (Renewable.isIdle_new state settings)⟩
    fun _ command _ h => exists_balances_obey h command

end Session

end Commands

end Blockwise
