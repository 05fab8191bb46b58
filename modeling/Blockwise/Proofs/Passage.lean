import Blockwise.Proofs.Session

/-!
# Passage — stretches of a stream, put together

A coder inside a writer or a reader is used like any other: it is fed, drawn from and closed, only
not by the one who calls. Whatever such a caller does amounts to a run of a session, and the run
takes the coder from one state to another and adds certain entries to the ledger (`Passes`). What
happens in between is of no account, so stretches that follow one another are put together by
putting their entries together.

What is known of every run then holds of every coder inside something else, without a look at the
loops around it.

## Results

* `Session.Passes.trans` — stretches are put together.
* `Session.Passes.feed`, `Session.Passes.draw`, `Session.Passes.close` — each operation is one.
* `Session.Passes.balances` — from an idle coder on, the entries of a stretch balance.
-/

namespace Blockwise

universe u

variable {σ : Type u}

namespace Ledger

/-- The ledger with the entries of a later one behind its own. -/
def append (ledger later : Ledger) : Ledger :=
  ⟨ledger.inputs ++ later.inputs, ledger.calls ++ later.calls, ledger.returned ++ later.returned⟩

@[simp] theorem append_blank (ledger : Ledger) : ledger.append blank = ledger := by
  simp [append, blank]

theorem append_assoc (ledger later last : Ledger) :
    (ledger.append later).append last = ledger.append (later.append last) := by
  simp [append]

end Ledger

namespace Session

variable {S : Type u} {c : BlockTransform σ} {d : Direction} [Coder S c d]

theorem run_append (s : Session S) (ops later : List Op) :
    s.run (ops ++ later) = (s.run ops).run later :=
  List.foldl_append ..

/-- Some run of a session takes the coder from one state to another and adds the entries to its
ledger, whatever that held before. -/
def Passes (coder : S) (entries : Ledger) (coder' : S) : Prop :=
  ∃ ops, ∀ ledger : Ledger, run { toLedger := ledger, coder } ops =
    { toLedger := ledger.append entries, coder := coder' }

namespace Passes

variable {coder coder' coder'' : S} {entries later : Ledger}

theorem refl (coder : S) : Passes coder .blank coder := by
  refine ⟨[], fun ledger => ?_⟩
  rw [Ledger.append_blank]
  rfl

theorem trans (h : Passes coder entries coder') (hlater : Passes coder' later coder'') :
    Passes coder (entries.append later) coder'' := by
  obtain ⟨ops, hops⟩ := h
  obtain ⟨ops', hops'⟩ := hlater
  refine ⟨ops ++ ops', fun ledger => ?_⟩
  rw [run_append, hops, hops', Ledger.append_assoc]

/-- An input that is accepted is entered as such. -/
theorem feed {data : Bytes} (h : Coder.feed coder data 0 data.length = .ok coder') :
    Passes coder ⟨[data], [], []⟩ coder' := by
  refine ⟨[.feedAll data], fun ledger => ?_⟩
  show offer { toLedger := ledger, coder } data 0 data.length = _
  simp [offer, Session.feed, h, Except.map, Ledger.accept, Ledger.append]

/-- A draw is entered with its calls and with the bytes it brings. It is a pull into a buffer that
is just large enough. -/
theorem draw (coder : S) (length : Nat) :
    Passes coder
      ⟨[], (Coder.draw coder length).events.calls,
        Engine.drawnBytes (Coder.draw coder length).answer⟩
      (Coder.draw coder length).next := by
  refine ⟨[.pull (List.replicate length 0) 0 length], fun ledger => ?_⟩
  show pull { toLedger := ledger, coder } (List.replicate length 0) 0 length = _
  have hroom : 0 + length ≤ (List.replicate length (0 : UInt8)).length := by
    rw [List.length_replicate]
    omega
  rw [pull_eq, if_pos hroom]
  simp [Session.draw, Ledger.enter, Ledger.append]

theorem close (coder : S) : Passes coder .blank (Coder.close coder) := by
  refine ⟨[.close], fun ledger => ?_⟩
  rw [Ledger.append_blank]
  rfl

/-- What a session makes of a coder at the beginning of its stream. -/
theorem exists_run (h : Passes coder entries coder') :
    ∃ ops, (start coder).run ops = { toLedger := entries, coder := coder' } := by
  obtain ⟨ops, hops⟩ := h
  exact ⟨ops, hops .blank⟩

/-- From an idle coder on, the entries of a stretch account for all that it did. -/
theorem balances (h : Passes coder entries coder') (hidle : (Coder.engine coder).isIdle = true) :
    entries.Balances (Coder.engine coder) (Coder.engine coder') := by
  obtain ⟨ops, hrun⟩ := h.exists_run
  have hbalances := (balances_start hidle).run ops
  rw [hrun] at hbalances
  exact hbalances

end Passes

end Session

end Blockwise
