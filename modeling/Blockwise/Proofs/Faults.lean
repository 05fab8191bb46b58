import Blockwise.Proofs.Poisoning

/-!
# Faults — when an operation fails, and what that leaves behind

An operation can fail for a reason that lies with the caller: the range does not fit, the moment is
wrong, the stream is spoiled already, there are no dictionaries. Such a fault costs nothing. It is
found before anything is done, so the coder, its transform and the caller's buffer are what they
were. The one fault that does cost something is that of a block call: the staged block is gone, and
the coder is poisoned. Even then nothing else is touched.

Which fault it is does not depend on the transform, as long as no call is made. The range is looked
at first, whatever state the coder is in, then whether it is poisoned, then whether the moment is
right. Output that is owed and an encoder that was closed are no reason to refuse input.

## Results

* `Coder.fed`, `Coder.pulled` — all the ways in which feeding and pulling can end, and when.
* `spares_of_fault?` — what is left after a command that fails.
* `faults_respond` — both, for encoders and decoders over every transform.
-/

namespace Blockwise

universe u

variable {σ : Type u} {c : BlockTransform σ} {d : Direction}

/-! ## Faults of replies -/

/-- The fault is that of a block call. -/
def Fault.isOfCall : Fault → Bool
  | blockFailed .. => true
  | _ => false

/-- The fault that the reply reports, if it does. -/
def Reply.fault? : Reply → Option Fault
  | told (.error fault) | pulled (.error fault) _ => some fault
  | _ => none

/-- The buffer that the caller brings along. -/
def Command.buffer? {R : Type} : Command R → Option Bytes
  | op (.pull buffer _ _) => some buffer
  | _ => none

namespace Engine

variable {e : Engine c d}

/-- A stroke whose call fails takes the block of the call off the input and poisons the engine. -/
theorem stroke_of_failed (hp : e.pump.isPoisoned = false) (hf : e.nextCall.failed = true) :
    e.waiting = e.nextCall.source ++ e.stroke.next.waiting ∧ e.stroke.next.window = .poisoned := by
  rw [waiting_stroke hp, window_stroke hp, if_pos hf]
  exact ⟨(List.take_append_drop ..).symm, rfl⟩

end Engine

section Coders

variable {S : Type u} [Coder S c d]

/-! ## Feeding -/

/-- How the feeding of a range can end. The cases exclude one another. -/
inductive Coder.Fed (s : S) (data : Bytes) (offset length : Nat) : Except Fault S → Prop where
  | outOfRange (hr : data.length < offset + length) :
    Fed s data offset length (.error (.outOfRange "input" offset length data.length))
  | poisoned (hr : offset + length ≤ data.length) (hp : (engine s).window = .poisoned) :
    Fed s data offset length (.error .poisoned)
  | untimely (hr : offset + length ≤ data.length) (hp : (engine s).window ≠ .poisoned)
    (hw : (engine s).waiting ≠ []) : Fed s data offset length (.error Pump.stillWaiting)
  | taken (hr : offset + length ≤ data.length) (hp : (engine s).window ≠ .poisoned)
    (hw : (engine s).waiting = []) (s' : S) : Fed s data offset length (.ok s')

theorem Pump.feed_of_outOfRange (p : Pump) {data : Bytes} {offset length : Nat}
    (hr : data.length < offset + length) :
    p.feed data offset length = .error (.outOfRange "input" offset length data.length) := by
  unfold feed requireRange
  rw [if_neg (Nat.not_le.mpr hr)]
  rfl

theorem Pump.feed_of_waiting {p : Pump} {data : Bytes} {offset length : Nat}
    (hr : offset + length ≤ data.length) (hp : p.isPoisoned = false) (hw : p.waiting ≠ []) :
    p.feed data offset length = .error stillWaiting := by
  unfold feed requireUsable
  rw [requireRange_eq_ok_iff.mpr hr, hp]
  simp [bind, Except.bind, hw]

/-- A coder fails to take what its pump does not take. -/
theorem Coder.feed_eq_error_of_pump {s : S} {data : Bytes} {offset length : Nat} {fault : Fault}
    (h : (engine s).pump.feed data offset length = .error fault) :
    feed s data offset length = .error fault := by
  rw [← (engine s).map_pump_feed] at h
  have hengine := engine_feed s data offset length
  rw [eq_error_of_map h] at hengine
  exact eq_error_of_map hengine

theorem Coder.fed (s : S) (data : Bytes) (offset length : Nat) :
    Fed s data offset length (feed s data offset length) := by
  by_cases hr : offset + length ≤ data.length
  · cases hp : (engine s).pump.isPoisoned with
    | true =>
      rw [feed_of_isPoisoned hp, poisonedFault, if_pos hr]
      exact .poisoned hr (Engine.isPoisoned_iff.mp hp)
    | false =>
      have husable := Engine.isPoisoned_eq_false_iff.mp hp
      by_cases hw : (engine s).waiting = []
      · obtain ⟨s', hs'⟩ := exists_feed_eq_ok hr hp hw
        rw [hs']
        exact .taken hr husable hw s'
      · rw [feed_eq_error_of_pump (Pump.feed_of_waiting hr hp hw)]
        exact .untimely hr husable hw
  · rw [Nat.not_le] at hr
    rw [feed_eq_error_of_pump (Pump.feed_of_outOfRange _ hr)]
    exact .outOfRange hr

/-! ## Pulling -/

/-- How a pull into a range can end: with its answer, the coder and the buffer after it, and what
happened. -/
inductive Coder.Pulled (s : S) (buffer : Bytes) (offset length : Nat) :
    Step (S × Bytes) (Except Fault Nat) → Prop where
  | outOfRange (hr : buffer.length < offset + length) :
    Pulled s buffer offset length
      ⟨.error (.outOfRange "output" offset length buffer.length), (s, buffer), []⟩
  | poisoned (hr : offset + length ≤ buffer.length) (hp : (engine s).window = .poisoned) :
    Pulled s buffer offset length ⟨.error .poisoned, (s, buffer), []⟩
  | failed (hr : offset + length ≤ buffer.length) (hp : (engine s).window ≠ .poisoned)
    (hf : (engine s).nextCall.failed = true)
    (hanswer : (draw s length).answer = .error (engine s).nextCall.fault)
    (hengine : engine (draw s length).next = (engine s).stroke.next) :
    Pulled s buffer offset length
      ⟨.error (engine s).nextCall.fault, ((draw s length).next, buffer), (engine s).stroke.events⟩
  | brought (hr : offset + length ≤ buffer.length) (hp : (engine s).window ≠ .poisoned)
    (count : Nat) (s' : S) (buffer' : Bytes) (events : Trace)
    (hsucceeded : ∀ call ∈ events.calls, call.failed = false) :
    Pulled s buffer offset length ⟨.ok count, (s', buffer'), events⟩

theorem Coder.pulled {R : Type} [Renewable S R] (s : S) (buffer : Bytes) (offset length : Nat) :
    Pulled s buffer offset length (pull draw s buffer offset length) := by
  by_cases hr : offset + length ≤ buffer.length
  · have hdrawn := drawn s length
    cases hp : (engine s).pump.isPoisoned with
    | true =>
      have hpull : pull draw s buffer offset length = ⟨.error .poisoned, (s, buffer), []⟩ := by
        unfold pull
        rw [requireRange_eq_ok_iff.mpr hr, Renewable.draw_of_isPoisoned s length hp]
        rfl
      rw [hpull]
      exact .poisoned hr (Engine.isPoisoned_iff.mp hp)
    | false =>
      have husable := Engine.isPoisoned_eq_false_iff.mp hp
      unfold pull
      rw [requireRange_eq_ok_iff.mpr hr]
      dsimp only
      generalize hanswer : (draw s length).answer = answer at hdrawn
      generalize hevents : (draw s length).events = events at hdrawn
      generalize hengine : engine (draw s length).next = e' at hdrawn
      -- only a draw with a failed call fails
      cases hdrawn with
      | refused hpoisoned => simp [hp] at hpoisoned
      | idle hi => exact .brought hr husable _ _ _ _ fun call hcall => by cases hcall
      | owing ho => exact .brought hr husable _ _ _ _ fun call hcall => by cases hcall
      | failed _ ho hf => exact .failed hr husable hf hanswer hengine
      | struck _ ho hs =>
        refine .brought hr husable _ _ _ _ fun call hcall => ?_
        rw [(Engine.mem_calls_stroke hp).mp hcall]
        exact hs
  · rw [pull_of_outOfRange s hr]
    exact .outOfRange (Nat.not_le.mp hr)

/-! ## What a fault leaves behind -/

variable {R : Type} [Renewable S R]

/-- What is left after a command that was answered with a fault. `rest` is what the coder holds
beside its engine. -/
structure Spares {K : Type} (rest : S → K) (s : S) (command : Command R) (fault : Fault) :
    Prop where
  /-- The buffer of the caller is as it was. -/
  buffer : ∀ buffer, command.buffer? = some buffer →
    (respond s command).answer = .pulled (.error fault) buffer
  /-- Unless it is the fault of a call, the coder is as it was, and nothing happened. -/
  intact : fault.isOfCall = false →
    (respond s command).next = s ∧ (respond s command).events = []
  /-- If it is, there was one call, which failed. Its block is gone and the coder is poisoned; what
  the coder holds beside its engine is as it was. -/
  spoiled : fault.isOfCall = true → ∃ call,
    (respond s command).events.calls = [call] ∧ call.failed = true ∧ fault = call.fault ∧
      (Coder.engine s).waiting =
        call.source ++ (Coder.engine (respond s command).next).waiting ∧
      (Coder.engine (respond s command).next).window = .poisoned ∧
      rest (respond s command).next = rest s
  /-- After a fatal fault the coder is poisoned. -/
  fatal : fault.isFatal = true → (Coder.engine (respond s command).next).window = .poisoned

/-- A fault that is found before anything is done. -/
theorem Spares.of_quiet {K : Type} {rest : S → K} {s : S} {command : Command R} {fault : Fault}
    {reply : Reply} (hquiet : respond s command = .quiet reply s)
    (hbuffer : ∀ buffer, command.buffer? = some buffer → reply = .pulled (.error fault) buffer)
    (hcall : fault.isOfCall = false)
    (hfatal : fault.isFatal = true → (Coder.engine s).window = .poisoned) :
    Spares rest s command fault := by
  refine ⟨fun buffer h => ?_, fun _ => ?_, fun h => ?_, fun h => ?_⟩
  · rw [hquiet]
    exact hbuffer buffer h
  · rw [hquiet]
    exact ⟨rfl, rfl⟩
  · rw [hcall] at h
    cases h
  · rw [hquiet]
    exact hfatal h

theorem spares_of_feed {K : Type} (rest : S → K) {s : S} {command : Command R} {data : Bytes}
    {offset length : Nat} {fault : Fault}
    (hcommand : respond s command = replyTo s (Coder.feed s data offset length))
    (hbuffer : command.buffer? = none) (h : (respond s command).answer.fault? = some fault) :
    Spares rest s command fault := by
  have hnone : ∀ reply : Reply, ∀ buffer, command.buffer? = some buffer →
      reply = .pulled (.error fault) buffer := by
    intro reply buffer hsome
    rw [hbuffer] at hsome
    cases hsome
  have hfed := Coder.fed s data offset length
  rw [hcommand] at h
  generalize Coder.feed s data offset length = answer at hcommand h hfed
  cases hfed with
  | outOfRange hr =>
    cases h
    exact .of_quiet hcommand (hnone _) rfl fun hfatal => by cases hfatal
  | poisoned hr hp =>
    cases h
    exact .of_quiet hcommand (hnone _) rfl fun _ => hp
  | untimely hr hp hw =>
    cases h
    exact .of_quiet hcommand (hnone _) rfl fun hfatal => by cases hfatal
  | taken hr hp hw s' => cases h

theorem spares_of_pull {K : Type} {rest : S → K} {s : S}
    (hrest : ∀ {length fault}, (Coder.draw s length).answer = .error fault →
      rest (Coder.draw s length).next = rest s)
    {buffer : Bytes} {offset length : Nat} {fault : Fault}
    (h : (respond s (.op (.pull buffer offset length) : Command R)).answer.fault? = some fault) :
    Spares rest s (.op (.pull buffer offset length) : Command R) fault := by
  have hpulled := Coder.pulled s buffer offset length
  have hrespond : respond s (.op (.pull buffer offset length) : Command R) =
      (let pulled := pull Coder.draw s buffer offset length
       ⟨.pulled pulled.answer pulled.next.2, pulled.next.1, pulled.events⟩) := rfl
  have hsame : ∀ fault' buffer', (.op (.pull buffer offset length) : Command R).buffer? =
      some buffer' → Reply.pulled (.error fault') buffer = .pulled (.error fault') buffer' := by
    intro fault' buffer' hbuffer
    cases hbuffer
    rfl
  rw [hrespond] at h
  generalize pull Coder.draw s buffer offset length = pulled at hpulled hrespond h
  cases hpulled with
  | outOfRange hr =>
    cases h
    exact .of_quiet hrespond (hsame _) rfl fun hfatal => by cases hfatal
  | poisoned hr hp =>
    cases h
    exact .of_quiet hrespond (hsame _) rfl fun _ => hp
  | failed hr hp hf hanswer hengine =>
    cases h
    have husable := Engine.isPoisoned_eq_false_iff.mpr hp
    obtain ⟨hwaiting, hwindow⟩ := Engine.stroke_of_failed husable hf
    refine ⟨fun buffer' hbuffer => ?_, (fun hcall => by cases hcall), fun _ => ?_, fun _ => ?_⟩
    · rw [hrespond]
      exact hsame _ buffer' hbuffer
    · rw [hrespond]
      refine ⟨_, Engine.calls_stroke husable, hf, rfl, ?_, ?_, hrest hanswer⟩
      · dsimp only
        rw [hengine]
        exact hwaiting
      · dsimp only
        rw [hengine]
        exact hwindow
    · rw [hrespond]
      dsimp only
      rw [hengine]
      exact hwindow
  | brought hr hp count s' buffer' events hsucceeded => cases h

/-- Every command that fails leaves behind what it should. -/
theorem spares_of_fault? {K : Type} {rest : S → K} {s : S}
    (hrest : ∀ {length fault}, (Coder.draw s length).answer = .error fault →
      rest (Coder.draw s length).next = rest s)
    {command : Command R} {fault : Fault}
    (h : (respond s command).answer.fault? = some fault) : Spares rest s command fault := by
  cases command with
  | op op =>
    cases op with
    | feed data offset length => exact spares_of_feed rest rfl rfl h
    | feedAll data => exact spares_of_feed rest rfl rfl h
    | pull buffer offset length => exact spares_of_pull hrest h
    | close => cases h
  | loadDictionary data offset length =>
    -- the only answer is a fault
    obtain ⟨operation, hrefused⟩ := Renewable.loadDictionary_eq_error (S := S)
    have hquiet : respond s (.loadDictionary data offset length : Command R) =
        .quiet (.told (.error (.unsupported operation))) s := by
      simp only [respond, hrefused, replyTo]
    rw [hquiet] at h
    cases h
    exact .of_quiet hquiet (fun _ hbuffer => by cases hbuffer) rfl fun hfatal => by cases hfatal
  | renew way => cases h
  | ask => cases h

/-! ## Which fault it is -/

/-- What decides whether a coder can be fed and pulled from, and which fault is reported. -/
structure Decides (s : S) : Prop where
  feed_outOfRange : ∀ data offset length,
    Coder.feed s data offset length = .error (.outOfRange "input" offset length data.length) ↔
      data.length < offset + length
  feed_poisoned : ∀ data offset length, Coder.feed s data offset length = .error .poisoned ↔
    offset + length ≤ data.length ∧ (Coder.engine s).window = .poisoned
  feed_untimely : ∀ data offset length, Coder.feed s data offset length = .error Pump.stillWaiting ↔
    offset + length ≤ data.length ∧ (Coder.engine s).window ≠ .poisoned ∧
      (Coder.engine s).waiting ≠ []
  feed_taken : ∀ data offset length, (∃ s', Coder.feed s data offset length = .ok s') ↔
    offset + length ≤ data.length ∧ (Coder.engine s).window ≠ .poisoned ∧
      (Coder.engine s).waiting = []
  pull_outOfRange : ∀ buffer offset length, (pull Coder.draw s buffer offset length).answer =
      .error (.outOfRange "output" offset length buffer.length) ↔
    buffer.length < offset + length
  pull_poisoned : ∀ buffer offset length,
    (pull Coder.draw s buffer offset length).answer = .error .poisoned ↔
      offset + length ≤ buffer.length ∧ (Coder.engine s).window = .poisoned
  /-- Otherwise a pull fails if and only if the block call that it makes fails. -/
  pull_failed : ∀ buffer offset length, offset + length ≤ buffer.length →
    (Coder.engine s).window ≠ .poisoned → ∀ fault,
      (pull Coder.draw s buffer offset length).answer = .error fault ↔
        ∃ call ∈ (pull Coder.draw s buffer offset length).events.calls,
          call.failed = true ∧ fault = call.fault

theorem decides {R : Type} [Renewable S R] (s : S) : Decides s where
  feed_outOfRange data offset length := by
    have hfed := Coder.fed s data offset length
    generalize Coder.feed s data offset length = answer at hfed
    cases hfed with
    | outOfRange hr => simp [hr]
    | poisoned hr hp => simp [hr]
    | untimely hr hp hw => simp [Pump.stillWaiting, hr]
    | taken hr hp hw s' => simp [hr]
  feed_poisoned data offset length := by
    have hfed := Coder.fed s data offset length
    generalize Coder.feed s data offset length = answer at hfed
    cases hfed with
    | outOfRange hr => simp [Nat.not_le.mpr hr]
    | poisoned hr hp => simp [hr, hp]
    | untimely hr hp hw => simp [Pump.stillWaiting, hp]
    | taken hr hp hw s' => simp [hp]
  feed_untimely data offset length := by
    have hfed := Coder.fed s data offset length
    generalize Coder.feed s data offset length = answer at hfed
    cases hfed with
    | outOfRange hr => simp [Pump.stillWaiting, Nat.not_le.mpr hr]
    | poisoned hr hp => simp [Pump.stillWaiting, hp]
    | untimely hr hp hw => simp [hr, hp, hw]
    | taken hr hp hw s' => simp [hw]
  feed_taken data offset length := by
    have hfed := Coder.fed s data offset length
    generalize Coder.feed s data offset length = answer at hfed
    cases hfed with
    | outOfRange hr => simp [Nat.not_le.mpr hr]
    | poisoned hr hp => simp [hp]
    | untimely hr hp hw => simp [hw]
    | taken hr hp hw s' => simp [hr, hp, hw]
  pull_outOfRange buffer offset length := by
    have hpulled := Coder.pulled s buffer offset length
    generalize pull Coder.draw s buffer offset length = pulled at hpulled
    cases hpulled with
    | outOfRange hr => simp [hr]
    | poisoned hr hp => simp [hr]
    | failed hr hp hf hanswer hengine => simp [BlockCall.fault, hr]
    | brought hr hp count s' buffer' events hsucceeded => simp [hr]
  pull_poisoned buffer offset length := by
    have hpulled := Coder.pulled s buffer offset length
    generalize pull Coder.draw s buffer offset length = pulled at hpulled
    cases hpulled with
    | outOfRange hr => simp [Nat.not_le.mpr hr]
    | poisoned hr hp => simp [hr, hp]
    | failed hr hp hf hanswer hengine => simp [BlockCall.fault, hp]
    | brought hr hp count s' buffer' events hsucceeded => simp [hp]
  pull_failed buffer offset length hr husable fault := by
    have hpulled := Coder.pulled s buffer offset length
    generalize pull Coder.draw s buffer offset length = pulled at hpulled
    cases hpulled with
    | outOfRange hout => omega
    | poisoned _ hp => exact absurd hp husable
    | failed _ _ hf hanswer hengine =>
      have hp := Engine.isPoisoned_eq_false_iff.mpr husable
      simp only [Engine.calls_stroke hp, List.mem_singleton, exists_eq_left, hf, true_and,
        Except.error.injEq]
      exact eq_comm
    | brought _ _ count s' buffer' events hsucceeded =>
      constructor
      · intro herror
        cases herror
      · rintro ⟨call, hcall, hf, -⟩
        rw [hsucceeded call hcall] at hf
        cases hf

end Coders

/-- A draw from an encoder that fails leaves its counters alone, and closes nothing. -/
theorem Encoder.rest_of_draw_eq_error {e : Encoder c} {length : Nat} {fault : Fault}
    (h : (e.draw length).answer = .error fault) :
    let e' := (e.draw length).next
    e'.closed = e.closed ∧ e'.consumed = e.consumed ∧ e'.produced = e.produced := by
  have hdrawn := e.drawn length
  rw [h] at hdrawn
  generalize (e.draw length).next = e' at hdrawn
  generalize (e.draw length).events = events at hdrawn
  cases hdrawn with
  | refused hp => exact ⟨rfl, rfl, rfl⟩
  | failed hp ho hw hf => exact ⟨rfl, rfl, rfl⟩

/-- **Faults leave everything else intact.** Take an encoder or a decoder over any transform, in any
state. If a command is answered with a fault that is not that of a block call, the coder and the
buffer of the caller are as they were, and nothing happened. If it is that of a block call, there was
one call, its block is gone from what waits, and the coder is poisoned; the buffer, the counters of
an encoder and whether it was closed are as they were. After a fatal fault the coder is poisoned.

Which fault it is does not depend on anything but what is listed: for a feed or a pull, first whether
the range ends inside the data or the buffer; then whether the coder is poisoned; then, for a feed,
whether earlier input waits, and for a pull, whether the call fails that it makes. A dictionary is
never taken. -/
theorem faults_respond (c : BlockTransform σ) :
    (∀ e : Encoder c,
        (∀ command fault, (respond e command).answer.fault? = some fault →
          Spares (fun e : Encoder c => (e.closed, e.consumed, e.produced)) e command fault) ∧
        Decides e ∧
        ∀ data offset length, e.loadDictionary data offset length =
          .error (.unsupported "dictionary compression")) ∧
      ∀ e : Decoder c,
        (∀ command fault, (respond e command).answer.fault? = some fault →
          Spares (fun _ : Decoder c => ()) e command fault) ∧
        Decides e ∧
        ∀ data offset length, e.loadDictionary data offset length =
          .error (.unsupported "dictionary decompression") := by
  refine ⟨fun e => ⟨fun command fault h => ?_, decides e, fun data offset length => rfl⟩,
    fun e => ⟨fun command fault h => ?_, decides e, fun data offset length => rfl⟩⟩
  · refine spares_of_fault? (fun herror => ?_) h
    obtain ⟨hclosed, hconsumed, hproduced⟩ := Encoder.rest_of_draw_eq_error herror
    exact Prod.ext hclosed (Prod.ext hconsumed hproduced)
  · exact spares_of_fault? (fun _ => rfl) h

end Blockwise
