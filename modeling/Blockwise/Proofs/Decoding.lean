import Mathlib
import Blockwise.Proofs.Session

/-!
# Decoding — what a stream decoder makes of its input

The stream of a decoder is that of the reference as well: the accepted inputs, each cut into pieces
of the largest size that an encoded chunk can have, decoded by one call after another. A decoder
asks whether it needs input before it asks whether it owes any output. So there is no call on an
empty block, and an input that is fed while output is still owed waits until that was handed out.

As the inputs determine the blocks, and the blocks the calls, nothing that the caller decides beside
the inputs has a part in what comes out in the end.

## Results

* `Decoder.run_decodes_inputs` — the calls and the output of every run of a decoder, and that they
  are the same for all runs that drain the same inputs.
-/

namespace Blockwise

universe u

variable {σ : Type u} {c : BlockTransform σ}

namespace Decoder

/-- No block of a session is empty. -/
def NoEmptyBlock (s : Session (Decoder c)) : Prop := ∀ call ∈ s.calls, call.source ≠ []

theorem noEmptyBlock_step {s : Session (Decoder c)} (h : NoEmptyBlock s) (op : Op) :
    NoEmptyBlock (s.step op) := by
  rcases s.step_cases op with heq | ⟨data, offset, length, coder, hfeed, heq⟩ |
    ⟨length, heq⟩ | ⟨-, heq⟩
  all_goals rw [heq]
  · exact h
  · exact h
  · -- only a draw makes calls
    intro call hcall
    rcases List.mem_append.mp hcall with hcall | hcall
    · exact h call hcall
    · exact s.coder.source_ne_nil_of_draw length call hcall
  · exact h

theorem noEmptyBlock_run (state : σ) (settings : Settings) (ops : List Op) :
    NoEmptyBlock ((Session.start (new c state settings)).run ops) :=
  Session.run_induction (P := NoEmptyBlock) (fun _ h => by cases h)
    fun _ op _ h => noEmptyBlock_step h op

/-- The ledgers of two sessions that began with the same decoder, took the same inputs and drained
them are the same. -/
theorem ledger_eq_of_inputs_eq {origin : Engine c .decode} {s t : Session (Decoder c)}
    (hs : s.Balances origin) (ht : t.Balances origin) (hs' : NoEmptyBlock s) (ht' : NoEmptyBlock t)
    (hinputs : t.inputs = s.inputs) (hidle : s.coder.needsInput = true)
    (hidle' : t.coder.needsInput = true) : t.calls = s.calls ∧ t.returned = s.returned := by
  -- the inputs determine the blocks, and these the calls
  have hsources : t.sources = s.sources := by
    rw [ht.sources_of_idle hidle' ht', hs.sources_of_idle hidle hs', hinputs]
  have hcalls : t.calls = s.calls := by
    rw [ht.calls, hs.calls, hsources]
  refine ⟨hcalls, ?_⟩
  rw [ht.returned_of_idle hidle', hs.returned_of_idle hidle, hcalls]

/-- **Reference semantics of a decoder.** Take any transform in any state, any settings, and any
run of feeds and pulls on a new decoder. Then

1. the calls are those of the reference on their blocks; none is on an empty block, and each had a
   room of one chunk;
2. the blocks are the pieces of the accepted inputs, each input cut on its own, as far as they were
   staged: what waits is the rest;
3. what was handed out and what is owed is what the calls contributed, in their order;
4. any other run that takes the same inputs makes the same calls and hands out the same bytes, if
   both of them go on until the decoder needs input.

None of this needs the calls to succeed: one that fails contributes nothing, and none comes after
it. -/
theorem run_decodes_inputs (c : BlockTransform σ) (state : σ) (settings : Settings)
    (ops : List Op) :
    let chunk := settings.chunkSize
    let stage := max (c.bound state chunk) chunk
    let s := (Session.start (new c state settings)).run ops
    (s.calls = c.callsOn .decode (state, .zeroed chunk) s.sources ∧
        ∀ call ∈ s.calls, call.source ≠ [] ∧ call.capacity = chunk) ∧
      s.sources ++ pieces stage s.coder.engine.waiting = s.inputs.flatMap (pieces stage) ∧
      s.returned ++ s.coder.engine.unread = s.calls.flatMap BlockCall.contribution ∧
      ∀ ops',
        let t := (Session.start (new c state settings)).run ops'
        t.inputs = s.inputs → s.coder.needsInput = true → t.coder.needsInput = true →
          t.calls = s.calls ∧ t.returned = s.returned := by
  intro chunk stage s
  -- the ledger balances at the start, and every operation keeps it so
  have hstart : (Session.start (new c state settings)).Balances (new c state settings).engine :=
    Session.balances_start rfl
  have hs : s.Balances (new c state settings).engine := hstart.run ops
  have hne : NoEmptyBlock s := noEmptyBlock_run state settings ops
  refine ⟨⟨hs.calls, fun call hcall => ⟨hne call hcall, ?_⟩⟩, ?_, hs.bytes, ?_⟩
  · -- the room never changes its size
    rw [hs.calls] at hcall
    obtain ⟨state', room, hsize, heq⟩ := BlockTransform.exists_of_mem_callsOn hcall
    rw [heq, BlockTransform.capacity_callOn, hsize]
    rfl
  · -- no block is empty, so all of them are pieces
    have hsources := hs.sources
    rwa [Ledger.Balances.filter_sources hne] at hsources
  · intro ops' t hinputs hidle hidle'
    exact ledger_eq_of_inputs_eq hs (hstart.run ops') hne
      (noEmptyBlock_run state settings ops') hinputs hidle hidle'

/-- Two inputs, the second of them fed when the first was handed out, and fed while the last byte
of the first is still owed, after pulls of other sizes and a pull of nothing. -/
theorem run_decodes_storing :
    let start : Session (Decoder .stored) := Session.start (new .stored () ⟨3, by decide, by decide⟩)
    let s := start.run [.feedAll [1, 2, 3, 4], .pull [0, 0, 0] 0 3, .pull [0, 0, 0] 0 3,
      .feed [9, 5, 6] 1 2, .pull [0, 0, 0] 0 3]
    let t := start.run [.feedAll [1, 2, 3, 4], .pull [0] 0 1, .feedAll [9], .pull [0, 0] 0 2,
      .pull [] 0 0, .feedAll [5, 6], .pull [0] 1 1, .pull [0] 0 1, .pull [0, 0] 0 2]
    (t.inputs = s.inputs ∧ s.coder.needsInput = true ∧ t.coder.needsInput = true) ∧
      s.sources = [[1, 2, 3], [4], [5, 6]] ∧ s.returned = [1, 2, 3, 4, 5, 6] ∧
      t.calls = s.calls ∧ t.returned = s.returned := by
  intro start s t
  have hinputs : t.inputs = s.inputs := by
    simp only [t, s, start]
    cbv
  have hidle : s.coder.needsInput = true := by
    simp only [s, start]
    cbv
  have hidle' : t.coder.needsInput = true := by
    simp only [t, start]
    cbv
  have hsources : s.sources = [[1, 2, 3], [4], [5, 6]] := by
    simp only [s, start]
    cbv
  have hreturned : s.returned = [1, 2, 3, 4, 5, 6] := by
    simp only [s, start]
    cbv
  obtain ⟨-, -, -, hsame⟩ := run_decodes_inputs .stored () ⟨3, by decide, by decide⟩
    [.feedAll [1, 2, 3, 4], .pull [0, 0, 0] 0 3, .pull [0, 0, 0] 0 3, .feed [9, 5, 6] 1 2,
      .pull [0, 0, 0] 0 3]
  exact ⟨⟨hinputs, hidle, hidle'⟩, hsources, hreturned, hsame _ hinputs hidle hidle'⟩

end Decoder

end Blockwise
