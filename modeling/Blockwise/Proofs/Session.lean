import Blockwise.Proofs.Coder

/-!
# Session — a stream coder in the hands of a caller

A session is a coder together with the ledger of its stream. The ledger is kept from what the
caller sees: the ranges that were accepted, and the bytes found in the caller's buffer after a pull.
The caller may do anything in any order; an operation that is refused leaves no mark.

## Results

* `Session.step_cases` — an operation does nothing, feeds, draws or closes.
* `Session.Balances.run` — the ledger of a session balances after every run, whatever the
  transform does.
-/

namespace Blockwise

universe u

variable {σ : Type u}

/-! ## Sessions -/

/-- An operation of a caller. -/
inductive Op where
  /-- The range of the data is fed as the next input. -/
  | feed (data : Bytes) (offset length : Nat)
  /-- All of the data is fed as the next input. -/
  | feedAll (data : Bytes)
  /-- Output is pulled into the range of a buffer that the caller brings along. -/
  | pull (buffer : Bytes) (offset length : Nat)
  /-- The coder is told that no more input comes. -/
  | close

/-- A coder and the ledger of its stream. -/
structure Session (S : Type u) extends Ledger where
  coder : S

namespace Session

variable {S : Type u} {c : BlockTransform σ} {d : Direction} [Coder S c d]

/-- A session at the beginning of its stream. -/
def start (coder : S) : Session S := { toLedger := .blank, coder }

/-- Feeds the range of the data, and notes it if it is accepted. -/
def feed (s : Session S) (data : Bytes) (offset length : Nat) : Except Fault (Session S) :=
  (Coder.feed s.coder data offset length).map fun coder =>
    { toLedger := s.toLedger.accept ((data.drop offset).take length), coder }

/-- Offers the range of the data. If it is refused, that leaves no mark. -/
def offer (s : Session S) (data : Bytes) (offset length : Nat) : Session S :=
  match s.feed data offset length with
  | .ok fed => fed
  | .error _ => s

/-- Pulls into the range of the buffer, and notes what came of it. -/
def pull (s : Session S) (buffer : Bytes) (offset length : Nat) : Session S :=
  let pulled := Blockwise.pull Coder.draw s.coder buffer offset length
  { toLedger := s.toLedger.enter pulled.events.calls (pulledBytes offset pulled)
    coder := pulled.next.1 }

/-- Draws at most so many bytes, and notes what came of it. -/
def draw (s : Session S) (length : Nat) : Session S :=
  let drawn := Coder.draw s.coder length
  { toLedger := s.toLedger.enter drawn.events.calls (Engine.drawnBytes drawn.answer)
    coder := drawn.next }

/-- Tells the coder that no more input comes. -/
def close (s : Session S) : Session S := { s with coder := Coder.close s.coder }

/-- One operation. -/
def step (s : Session S) : Op → Session S
  | .feed data offset length => s.offer data offset length
  | .feedAll data => s.offer data 0 data.length
  | .pull buffer offset length => s.pull buffer offset length
  | .close => s.close

/-- A run of operations. -/
def run (s : Session S) (ops : List Op) : Session S := ops.foldl step s

/-! ## What an operation can do -/

theorem of_feed_eq_ok {s fed : Session S} {data : Bytes} {offset length : Nat}
    (h : s.feed data offset length = .ok fed) :
    ∃ coder, Coder.feed s.coder data offset length = .ok coder ∧
      fed = { toLedger := s.toLedger.accept ((data.drop offset).take length), coder } := by
  obtain ⟨coder, hcoder, hfed⟩ := exists_eq_ok_of_map h
  exact ⟨coder, hcoder, hfed.symm⟩

theorem offer_cases (s : Session S) (data : Bytes) (offset length : Nat) :
    s.offer data offset length = s ∨
      ∃ data' offset' length' coder, Coder.feed s.coder data' offset' length' = .ok coder ∧
        s.offer data offset length =
          { toLedger := s.toLedger.accept ((data'.drop offset').take length'), coder } := by
  unfold offer
  cases hok : s.feed data offset length with
  | error fault => exact .inl rfl
  | ok fed =>
    obtain ⟨coder, hcoder, hfed⟩ := of_feed_eq_ok hok
    exact .inr ⟨data, offset, length, coder, hcoder, hfed⟩

theorem pull_eq (s : Session S) (buffer : Bytes) (offset length : Nat) :
    s.pull buffer offset length =
      if offset + length ≤ buffer.length then s.draw length else s := by
  unfold pull draw
  split
  · rename_i hr
    obtain ⟨hnext, hevents, hbytes, -⟩ := pull_of_inRange s.coder hr
    simp only [hnext, hevents, hbytes]
  · -- out of range there is nothing to note
    rename_i hr
    rw [pull_of_outOfRange s.coder hr]
    show { toLedger := s.toLedger.enter [] [], coder := s.coder : Session S } = s
    rw [Ledger.enter_nil]

theorem step_cases (s : Session S) (op : Op) :
    s.step op = s ∨
      (∃ data offset length coder, Coder.feed s.coder data offset length = .ok coder ∧
        s.step op =
          { toLedger := s.toLedger.accept ((data.drop offset).take length), coder }) ∨
      (∃ length, s.step op = s.draw length) ∨
      (op = .close ∧ s.step op = s.close) := by
  cases op with
  -- both ways of feeding offer a range
  | feed data offset length => exact (offer_cases s data offset length).imp_right .inl
  | feedAll data => exact (offer_cases s data 0 data.length).imp_right .inl
  -- a pull draws if it is within range
  | pull buffer offset length =>
    rw [show s.step (.pull buffer offset length) = s.pull buffer offset length from rfl, pull_eq]
    split
    · exact .inr (.inr (.inl ⟨length, rfl⟩))
    · exact .inl rfl
  | close => exact .inr (.inr (.inr ⟨rfl, rfl⟩))

/-- What holds at the beginning and is kept by every operation of a run holds at its end. -/
theorem run_induction {P : Session S → Prop} {s : Session S} {ops : List Op} (h : P s)
    (hstep : ∀ s, ∀ op ∈ ops, P s → P (s.step op)) : P (s.run ops) := by
  induction ops generalizing s with
  | nil => exact h
  | cons op ops ih =>
    exact ih (hstep s op (List.mem_cons_self ..) h)
      fun s' op' hop => hstep s' op' (List.mem_cons_of_mem _ hop)

/-! ## The ledger balances -/

/-- The ledger of the session balances since its coder had the given engine. -/
def Balances (s : Session S) (origin : Engine c d) : Prop :=
  s.toLedger.Balances origin (Coder.engine s.coder)

variable {origin : Engine c d}

theorem balances_start {coder : S} (h : (Coder.engine coder).isIdle = true) :
    (start coder).Balances (Coder.engine coder) :=
  Ledger.Balances.blank h

theorem Balances.feed {s : Session S} (h : s.Balances origin) {coder : S} {data : Bytes}
    {offset length : Nat} (hfeed : Coder.feed s.coder data offset length = .ok coder) :
    Balances { toLedger := s.toLedger.accept ((data.drop offset).take length), coder }
      origin := by
  -- the engine inside takes the same range
  have hengine := Coder.engine_feed s.coder data offset length
  simp only [hfeed, Except.map] at hengine
  exact Ledger.Balances.feed h hengine.symm

theorem Balances.draw {s : Session S} (h : s.Balances origin) (length : Nat) :
    (s.draw length).Balances origin :=
  Ledger.Balances.drawn h (Coder.drawn s.coder length)

theorem Balances.close {s : Session S} (h : s.Balances origin) : s.close.Balances origin := by
  unfold Session.Balances Session.close
  rw [Coder.engine_close]
  exact h

theorem Balances.step {s : Session S} (h : s.Balances origin) (op : Op) :
    (s.step op).Balances origin := by
  rcases step_cases s op with heq | ⟨data, offset, length, coder, hfeed, heq⟩ |
    ⟨length, heq⟩ | ⟨-, heq⟩
  · rw [heq]
    exact h
  · rw [heq]
    exact h.feed hfeed
  · rw [heq]
    exact h.draw length
  · rw [heq]
    exact h.close

theorem Balances.run {s : Session S} (h : s.Balances origin) (ops : List Op) :
    (s.run ops).Balances origin :=
  run_induction (P := fun s => s.Balances origin) h fun _ op _ hs => hs.step op

end Session

end Blockwise
