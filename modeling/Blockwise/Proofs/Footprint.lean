import Blockwise.Proofs.Reading

/-!
# Footprint — what is written into the caller's buffer

A caller who pulls or reads brings a buffer along, and may keep things in it outside of the range
that is meant for output. An operation that is answered with a number of bytes has written just that
many, from the start of the range on, and nothing else in the buffer (`Fills`). One that fails has
written nothing. This does not depend on the transform. What a transform scribbles over is its room,
and of that only the window is handed out.

A read can pull several times, and ask the source in between. Each of these pulls goes to the
caller's buffer, so `Reader.readInPlace` says it that way: one pull after another into the same
buffer, however it looks after the one before. Only the last one can bring anything, so the read is
the draw with its bytes laid over the buffer in the end.

## Results

* `fills_overlay` — bytes laid over a range leave what is outside of it.
* `Reader.readInto_eq_readInPlace` — a read is what its pulls do to the buffer.
* `footprint_writes` — pulls and reads write what they report, and only that.
-/

namespace Blockwise

universe u

variable {σ : Type u} {c : BlockTransform σ}

/-! ## Buffers that are filled in part -/

/-- The buffer was filled with the bytes from the offset on, and left alone otherwise. -/
structure Fills (offset : Nat) (bytes before after : Bytes) : Prop where
  length : after.length = before.length
  inside : (after.drop offset).take bytes.length = bytes
  outside : ∀ i, i < offset ∨ offset + bytes.length ≤ i → after[i]? = before[i]?

theorem fills_overlay {offset : Nat} {buffer bytes : Bytes}
    (h : offset + bytes.length ≤ buffer.length) :
    Fills offset bytes buffer (overlay buffer offset bytes) := by
  refine ⟨length_overlay .., take_drop_overlay h, ?_⟩
  intro i hi
  have hfront : (buffer.take offset).length = offset := by
    rw [List.length_take]
    omega
  have hroom : bytes.length ≤ (buffer.drop offset).length := by
    rw [List.length_drop]
    omega
  rw [overlay, zipWith_right, List.take_of_length_le hroom]
  rcases hi with hi | hi
  · -- in front of the range
    have hi' : i < (buffer.take offset).length := by omega
    rw [List.append_assoc, List.getElem?_append_left hi', List.getElem?_take_of_lt hi]
  · -- behind it
    have hlength : (buffer.take offset ++ bytes).length = offset + bytes.length := by
      rw [List.length_append, hfront]
    rw [List.getElem?_append_right (by omega), hlength, List.getElem?_drop]
    congr 1
    omega

/-- What an operation with a range of the buffer for its output may do to the buffer: if it is
answered with a number, it has filled the range with that many bytes, which are those that were
handed out; and if it fails, it has left the buffer alone. -/
def Writes {ε : Type} (offset length : Nat) (handed before after : Bytes) : Except ε Nat → Prop
  | .ok count => count = handed.length ∧ count ≤ length ∧ offset + length ≤ before.length ∧
      Fills offset handed before after
  | .error _ => after = before

/-! ## Pulls -/

section Pull

variable {S : Type u} {d : Direction} [Coder S c d]

theorem pull_eq_of_inRange (s : S) {buffer : Bytes} {offset length : Nat}
    (h : offset + length ≤ buffer.length) :
    pull Coder.draw s buffer offset length =
      match (Coder.draw s length).answer with
      | .error fault =>
        ⟨.error fault, ((Coder.draw s length).next, buffer), (Coder.draw s length).events⟩
      | .ok bytes =>
        ⟨.ok bytes.length, ((Coder.draw s length).next, overlay buffer offset bytes),
          (Coder.draw s length).events⟩ := by
  cases hanswer : (Coder.draw s length).answer with
  | error fault => simp only [pull, requireRange_eq_ok_iff.mpr h, hanswer]
  | ok bytes => simp only [pull, requireRange_eq_ok_iff.mpr h, hanswer]

theorem writes_pull (s : S) (buffer : Bytes) (offset length : Nat) :
    Writes offset length (Engine.drawnBytes (Coder.draw s length).answer) buffer
      (pull Coder.draw s buffer offset length).next.2
      (pull Coder.draw s buffer offset length).answer := by
  by_cases hr : offset + length ≤ buffer.length
  · have hdrawn := Coder.drawn s length
    rw [pull_eq_of_inRange s hr]
    cases hanswer : (Coder.draw s length).answer with
    | error fault => rfl
    | ok bytes =>
      -- a draw brings no more than was asked for
      rw [hanswer] at hdrawn
      have hle : bytes.length ≤ length := hdrawn.length_le
      have hwithin : offset + bytes.length ≤ buffer.length := by omega
      exact ⟨rfl, hle, hr, fills_overlay hwithin⟩
  · rw [pull_of_outOfRange s hr]
    rfl

end Pull

/-! ## Reads -/

namespace Reader

/-- A read as it goes on in the caller's buffer: pull by pull, each into all of the buffer as the one
before left it, with the source being asked in between. -/
def readInPlace (r : Reader c) (out : Bytes) : Step (Reader c × Bytes) (Except ChannelError Nat) :=
  let pulled := r.decoder.pull out 0 out.length
  let r₁ := { r with decoder := pulled.next.1 }
  match pulled.answer with
  | .error fault => ⟨.error (.stream fault), (r₁, pulled.next.2), pulled.events⟩
  | .ok (count + 1) => ⟨.ok (count + 1), (r₁, pulled.next.2), pulled.events⟩
  | .ok 0 =>
    if r₁.atEnd || !r₁.decoder.needsInput then ⟨.ok 0, (r₁, pulled.next.2), pulled.events⟩
    else
      let fetched := r₁.fetch
      match _h : fetched.answer with
      | .error e => ⟨.error e, (fetched.next, pulled.next.2), pulled.events ++ fetched.events⟩
      | .ok false => ⟨.ok 0, (fetched.next, pulled.next.2), pulled.events ++ fetched.events⟩
      | .ok true =>
        (fetched.next.readInPlace pulled.next.2).after (pulled.events ++ fetched.events)
termination_by r.source.weight
decreasing_by exact weight_fetch_lt _h

/-- What was drawn, laid over the buffer from its start on. -/
def lay (out : Bytes) (drawn : Step (Reader c) (Except ChannelError Bytes)) :
    Step (Reader c × Bytes) (Except ChannelError Nat) :=
  match drawn.answer with
  | .error e => ⟨.error e, (drawn.next, out), drawn.events⟩
  | .ok bytes => ⟨.ok bytes.length, (drawn.next, overlay out 0 bytes), drawn.events⟩

theorem lay_after (out : Bytes) (drawn : Step (Reader c) (Except ChannelError Bytes))
    (earlier : Trace) : lay out (drawn.after earlier) = (lay out drawn).after earlier := by
  unfold lay
  rw [Step.answer_after]
  cases drawn.answer <;> rfl

theorem lay_nil (out : Bytes) (r : Reader c) (events : Trace) :
    lay out ⟨.ok [], r, events⟩ = ⟨.ok 0, (r, out), events⟩ := by
  simp only [lay, overlay_nil, List.length_nil]

/-- The first pull of a read decides whether there is another one. -/
theorem readInPlace_of_draw (r : Reader c) (out : Bytes) :
    let drawn := r.decoder.draw out.length
    let r₁ := { r with decoder := drawn.next }
    r.readInPlace out =
      match drawn.answer with
      | .error fault => ⟨.error (.stream fault), (r₁, out), drawn.events⟩
      | .ok (b :: bytes) =>
        ⟨.ok (b :: bytes).length, (r₁, overlay out 0 (b :: bytes)), drawn.events⟩
      | .ok [] =>
        if r₁.atEnd || !r₁.decoder.needsInput then ⟨.ok 0, (r₁, out), drawn.events⟩
        else
          match r₁.fetch.answer with
          | .error e => ⟨.error e, (r₁.fetch.next, out), drawn.events ++ r₁.fetch.events⟩
          | .ok false => ⟨.ok 0, (r₁.fetch.next, out), drawn.events ++ r₁.fetch.events⟩
          | .ok true => (r₁.fetch.next.readInPlace out).after (drawn.events ++ r₁.fetch.events) := by
  intro drawn r₁
  have hwhole : 0 + out.length ≤ out.length := Nat.le_of_eq (Nat.zero_add _)
  have hpull : r.decoder.pull out 0 out.length = _ := pull_eq_of_inRange r.decoder hwhole
  have hdraw : Coder.draw r.decoder out.length = drawn := rfl
  rw [hdraw] at hpull
  rw [readInPlace, hpull]
  cases hanswer : drawn.answer with
  | error fault => rfl
  | ok bytes =>
    cases bytes with
    | cons b bytes => rfl
    | nil =>
      -- nothing is laid over the buffer, which goes to the next pull as it is
      simp only [overlay_nil, List.length_nil]
      split
      · rfl
      · split <;> rename_i hfetched <;> rw [hfetched]

/-- The pulls of a read that go before the last one leave the buffer as it was. -/
theorem readInPlace_eq (r : Reader c) (out : Bytes) :
    r.readInPlace out = lay out (r.draw out.length) := by
  -- turn by turn, as a draw goes on
  fun_induction draw r out.length with
  | case1 r drawn r₁ fault hanswer =>
    rw [readInPlace_of_draw, hanswer]
    rfl
  | case2 r drawn r₁ b bytes hanswer =>
    rw [readInPlace_of_draw, hanswer]
    rfl
  | case3 r drawn r₁ hanswer hstop =>
    rw [readInPlace_of_draw, hanswer]
    rw [lay_nil]
    exact if_pos hstop
  -- in the other cases the source is asked
  | case4 r drawn r₁ hanswer hgo fetched error hfetched =>
    rw [readInPlace_of_draw, hanswer]
    refine (if_neg hgo).trans ?_
    rw [hfetched]
    rfl
  | case5 r drawn r₁ hanswer hgo fetched hfetched =>
    rw [readInPlace_of_draw, hanswer]
    refine (if_neg hgo).trans ?_
    rw [hfetched, lay_nil]
  | case6 r drawn r₁ hanswer hgo fetched hfetched ih =>
    rw [readInPlace_of_draw, hanswer]
    refine (if_neg hgo).trans ?_
    rw [hfetched, lay_after, ← ih]

/-- A read into a buffer that is not empty goes on as its pulls do. -/
theorem readInto_eq_readInPlace (r : Reader c) {out : Bytes} (hne : out ≠ []) :
    r.readInto out = r.readInPlace out := by
  have hlength : out.length ≠ 0 := fun hzero => hne (List.length_eq_zero_iff.mp hzero)
  have hread : r.read out.length = r.draw out.length := if_neg hlength
  rw [readInPlace_eq, readInto, hread]
  rfl

theorem writes_readInto (r : Reader c) (out : Bytes) :
    Writes 0 out.length (readBytes (r.read out.length).answer) out (r.readInto out).next.2
      (r.readInto out).answer := by
  have hlay : r.readInto out = lay out (r.read out.length) := rfl
  rw [hlay, lay]
  cases hanswer : (r.read out.length).answer with
  | error error => rfl
  | ok bytes =>
    have hle : bytes.length ≤ out.length := by
      unfold read at hanswer
      split at hanswer
      · cases hanswer
        exact Nat.zero_le _
      · exact length_le_of_draw hanswer
    have hwithin : 0 + bytes.length ≤ out.length := by omega
    exact ⟨rfl, hle, by omega, fills_overlay hwithin⟩

end Reader

/-- **Pulls and reads write only what they report.** Take any transform, and any state of an encoder
or of a decoder around it. A pull that is answered with a number has written just that many bytes
into its range, which are those that were handed out; all that stands in the buffer in front of the
range or behind these bytes is as it was. A pull that fails has written nothing.

The same holds of a read, with all of the buffer for its range, however many pulls it makes: it does
what these do one after another in the buffer of the caller. -/
theorem footprint_writes (c : BlockTransform σ) :
    (∀ (e : Encoder c) buffer offset length,
        Writes offset length (Engine.drawnBytes (e.draw length).answer) buffer
          (e.pull buffer offset length).next.2 (e.pull buffer offset length).answer) ∧
      (∀ (e : Decoder c) buffer offset length,
        Writes offset length (Engine.drawnBytes (e.draw length).answer) buffer
          (e.pull buffer offset length).next.2 (e.pull buffer offset length).answer) ∧
      ∀ (r : Reader c) out,
        Writes 0 out.length (Reader.readBytes (r.read out.length).answer) out
            (r.readInto out).next.2 (r.readInto out).answer ∧
          r.readInto out = if out = [] then .quiet (.ok 0) (r, []) else r.readInPlace out := by
  refine ⟨fun e buffer offset length => writes_pull e buffer offset length,
    fun e buffer offset length => writes_pull e buffer offset length, fun r out => ?_⟩
  refine ⟨r.writes_readInto out, ?_⟩
  split
  · rename_i hnil
    rw [hnil, Reader.readInto_nil]
  · rename_i hne
    exact r.readInto_eq_readInPlace hne

end Blockwise
