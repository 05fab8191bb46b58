import Blockwise.Proofs.Likeness

/-!
# Renewal — a new stream is like a new coder

A coder that begins a new stream keeps its result buffer and the state of its transform. The state
goes on, but nothing is to be left of the earlier stream: not of the input that waited, not of the
output that was owed, not of the failure there may have been. What is seen of a coder is its
`transcript`, the replies to commands and the block calls they bring about. Nothing of it shows what
was before, provided that the transform does not look at what its room held: the transcript after a
reset is the same for all coders of the same make (`Engine.SameMake`).

One that was just made with the current state and chunk size is of the same make if the buffers are
still what the transform asks for (`Engine.UpToDate`). A reset does not ask, so where the bound
changes with the state of the transform, a coder that was reset may lack room that a new one has. A
restart does ask.

That is a simulation with two runs. The coders of the two differ in what their buffers hold only,
which is a `Likeness`: every operation keeps the relation and answers the same on both sides.

## Results

* `Likeness.transcript_eq` — coders that are alike have the same transcripts.
* `Encoder.likeness`, `Decoder.likeness` — to be alike is such a relation.
* `transcript_renewed` — after a reset with buffers that are up to date, or after a restart with
  other settings, an encoder in any state has the transcript of a new one; so has a decoder after a
  reset.
* `not_transcript_renewed` — with buffers that are not up to date this fails.
-/

namespace Blockwise

universe u

variable {σ : Type u} {c : BlockTransform σ} {d : Direction}

section Commands

variable {S : Type u} {R : Type} [Coder S c d] [Renewable S R]

/-! ## What is seen of a coder -/

/-- What is seen of one command: the reply to it and the block calls it makes. -/
structure Entry where
  reply : Reply
  /-- The calls, without what a failed call left in the room. -/
  calls : List BlockCall

/-- What is seen of commands, one after another. -/
def transcript (s : S) : List (Command R) → List Entry
  | [] => []
  | command :: commands =>
    let step := respond s command
    ⟨step.answer, step.events.calls.map BlockCall.settled⟩ :: transcript step.next commands

/-- A relation that no operation breaks, between coders that answer alike. -/
structure Likeness (P : S → S → Prop) : Prop where
  feed : ∀ {s t}, P s t → ∀ data offset length,
    Agree P (Coder.feed s data offset length) (Coder.feed t data offset length)
  draw : ∀ {s t}, P s t → ∀ length, Step.Alike P (Coder.draw s length) (Coder.draw t length)
  close : ∀ {s t}, P s t → P (Coder.close s) (Coder.close t)
  renew : ∀ {s t}, P s t → ∀ way, P (Renewable.renew s way).next (Renewable.renew t way).next
  status : ∀ {s t}, P s t → Renewable.status s = Renewable.status t

namespace Likeness

variable {P : S → S → Prop} {s t : S}

theorem alike_replyTo (h : P s t) {x y : Except Fault S} (hxy : Agree P x y) :
    Step.Alike P (replyTo s x) (replyTo t y) := by
  cases hxy with
  | refused fault => exact Step.alike_quiet h _
  | taken hnext => exact Step.alike_quiet hnext _

/-- A pull leaves the same bytes in the buffer of the caller. -/
theorem pull (hP : Likeness P) (h : P s t) (buffer : Bytes) (offset length : Nat) :
    Step.Alike (fun x y => P x.1 y.1 ∧ x.2 = y.2) (pull Coder.draw s buffer offset length)
      (pull Coder.draw t buffer offset length) := by
  obtain ⟨hanswer, hnext, hcalls⟩ := hP.draw h length
  unfold Blockwise.pull
  cases requireRange "output" buffer.length offset length with
  | error fault => exact Step.alike_quiet ⟨h, rfl⟩ _
  | ok _ =>
    -- the draws answer the same, so the same bytes are laid over the buffer
    dsimp only
    rw [← hanswer]
    cases (Coder.draw s length).answer with
    | error fault => exact ⟨rfl, ⟨hnext, rfl⟩, hcalls⟩
    | ok bytes => exact ⟨rfl, ⟨hnext, rfl⟩, hcalls⟩

theorem respond (hP : Likeness P) (h : P s t) (command : Command R) :
    Step.Alike P (respond s command) (respond t command) := by
  cases command with
  | op op =>
    cases op with
    | feed data offset length => exact alike_replyTo h (hP.feed h data offset length)
    | feedAll data => exact alike_replyTo h (hP.feed h data 0 data.length)
    | pull buffer offset length =>
      obtain ⟨hanswer, ⟨hnext, hbuffer⟩, hcalls⟩ := hP.pull h buffer offset length
      refine ⟨?_, hnext, hcalls⟩
      simp only [Blockwise.respond, hanswer, hbuffer]
    | close => exact Step.alike_quiet (hP.close h) _
  | loadDictionary data offset length =>
    obtain ⟨operation, hrefused⟩ := Renewable.loadDictionary_eq_error (S := S)
    refine alike_replyTo h ?_
    rw [hrefused, hrefused]
    exact .refused _
  | renew way =>
    refine ⟨rfl, hP.renew h way, ?_⟩
    simp only [Blockwise.respond, Renewable.calls_renew]
  | ask =>
    simp only [Blockwise.respond, hP.status h]
    exact Step.alike_quiet h _

theorem transcript_eq (hP : Likeness P) (h : P s t) (commands : List (Command R)) :
    transcript s commands = transcript t commands := by
  -- on the commands, for any two coders that are related: the first command keeps them so
  induction commands generalizing s t with
  | nil => rfl
  | cons command commands ih =>
    obtain ⟨hanswer, hnext, hcalls⟩ := hP.respond h command
    simp only [transcript, hanswer, hcalls, ih hnext]

end Likeness

/-! ## The current settings -/

theorem Engine.Drawn.chunkSize {e e' : Engine c d} {length : Nat} {answer : Except Fault Bytes}
    {events : Trace} (h : e.Drawn length answer e' events) : e'.chunkSize = e.chunkSize := by
  cases h with
  | refused hp => rfl
  | idle hi => rfl
  | owing ho => rfl
  | failed hp ho hf => exact Pump.chunkSize_stroke ..
  | struck hp ho hs => exact Pump.chunkSize_stroke ..

theorem exists_settings_after (state : σ) (settings : Settings) (commands : List (Command R)) :
    ∃ current : Settings, current.chunkSize =
      (Coder.engine (after (Renewable.new state settings : S) commands)).chunkSize := by
  have hcoder := Session.coder_obeyAll (Session.start (Renewable.new state settings : S)) commands
  rw [show after (Renewable.new state settings : S) commands = _ from hcoder.symm]
  refine Session.obeyAll_induction (P := fun s : Session S =>
    ∃ current : Settings, current.chunkSize = (Coder.engine s.coder).chunkSize)
    ⟨settings, (Renewable.chunkSize_new ..).symm⟩ ?_
  rintro s command - ⟨current, hcurrent⟩
  rcases s.obey_cases command with heq | ⟨data, offset, length, coder, hfeed, heq⟩ |
    ⟨length, heq⟩ | heq | ⟨way, -, heq⟩
  all_goals rw [heq]
  -- feeding, drawing and closing leave the chunk size alone; a new stream may set it
  · exact ⟨current, hcurrent⟩
  · have hengine := Coder.engine_feed s.coder data offset length
    rw [hfeed] at hengine
    obtain ⟨-, -, hpump, -⟩ := Engine.of_feed_eq_ok hengine.symm
    refine ⟨current, hcurrent.trans ?_⟩
    show _ = (Coder.engine coder).pump.chunkSize
    rw [hpump]
    rfl
  · exact ⟨current, hcurrent.trans (Coder.drawn s.coder length).chunkSize.symm⟩
  · refine ⟨current, hcurrent.trans ?_⟩
    exact congrArg Engine.chunkSize (Coder.engine_close s.coder).symm
  · rcases Renewable.chunkSize_renew s.coder way with hsame | ⟨renewed, hrenewed⟩
    · exact ⟨current, hcurrent.trans hsame.symm⟩
    · exact ⟨renewed, hrenewed.symm⟩

end Commands

/-! ## Renewed engines, encoders and decoders -/

namespace Engine

/-- The engines have their transforms in the same state, and chunks and buffers of the same sizes.
They may differ in all that a reset forgets, and in what their result buffers hold. -/
structure SameMake (e f : Engine c d) : Prop where
  state : e.state = f.state
  chunkSize : e.chunkSize = f.chunkSize
  sizes : e.sizes = f.sizes

theorem SameMake.alike_reset {e f : Engine c d} (h : e.SameMake f) : e.reset.Alike f.reset :=
  ⟨h.state, h.chunkSize, h.sizes, rfl, rfl⟩

theorem Alike.reset {e f : Engine c d} (h : e.Alike f) : e.reset.Alike f.reset :=
  SameMake.alike_reset ⟨h.state, h.chunkSize, h.sizes⟩

/-- The buffers have the sizes for which the transform asks in its present state. -/
def UpToDate (e : Engine c d) : Prop :=
  e.sizes = bufferSizes d e.chunkSize (c.bound e.state e.chunkSize)

/-- If the transform asks for the same in every state, no buffer gets out of date. -/
theorem upToDate_of_hasFixedBound (h : c.HasFixedBound) (e : Engine c d) : e.UpToDate := by
  obtain ⟨asked, hfits⟩ := e.fits
  have hsizes := hfits.sizes
  rw [e.direction_eq, h asked e.state] at hsizes
  exact hsizes

/-- A reset engine whose buffers are up to date is alike to a new one with its state and chunk
size. -/
theorem alike_reset {e : Engine c d} (hup : e.UpToDate) {current : Settings}
    (h : current.chunkSize = e.chunkSize) : e.reset.Alike (.new c d e.state current) := by
  have hsizes : e.sizes = (new c d e.state current).sizes := by
    rw [UpToDate, ← h] at hup
    exact hup
  exact ⟨rfl, h.symm, hsizes, rfl, rfl⟩

theorem sizes_resize (e : Engine c d) (settings : Settings) :
    (e.resize settings).sizes =
      bufferSizes d settings.chunkSize (c.bound e.state settings.chunkSize) := by
  have hsizes := (Pump.fits_resize e.pump settings.chunkSize
    (c.bound e.state settings.chunkSize)).sizes
  have hdirection : (e.pump.resize settings.chunkSize
    (c.bound e.state settings.chunkSize)).direction = d := e.direction_eq
  rwa [hdirection] at hsizes

theorem Alike.resize {e f : Engine c d} (h : e.Alike f) (settings : Settings) :
    (e.resize settings).Alike (f.resize settings) := by
  refine ⟨h.state, rfl, ?_, rfl, rfl⟩
  rw [sizes_resize, sizes_resize, h.state]

/-- An engine that is resized asks anew for its buffers, so it is alike to a new one. -/
theorem alike_resize (e : Engine c d) (settings : Settings) :
    (e.resize settings).Alike (.new c d e.state settings) :=
  ⟨rfl, rfl, e.sizes_resize settings, rfl, rfl⟩

end Engine

theorem Encoder.likeness (hc : c.Oblivious) : Likeness (Encoder.Alike (c := c)) where
  feed h := h.feed
  draw h := h.draw hc
  close h := ⟨h.engine, rfl, h.consumed, h.produced⟩
  renew h way := by
    cases way with
    | reset => exact ⟨h.engine.reset, rfl, rfl, rfl⟩
    | restart settings => exact ⟨h.engine.resize settings, rfl, rfl, rfl⟩
  status h := h.status

theorem Decoder.likeness (hc : c.Oblivious) : Likeness (Decoder.Alike (c := c)) where
  feed h := h.feed
  draw h := h.draw hc
  close h := h
  renew h _ := ⟨h.engine.reset⟩
  status h := h.status

/-- **A new stream is like a new coder.** Take a transform that does not look at what its room held
before, and an encoder after any commands: in the middle of its output, with input that waits,
closed, poisoned, or restarted before.

1. If it is reset, what is seen of it from then on depends on nothing but the state of the transform
   and the sizes of its chunks and buffers.
2. If its buffers are up to date when it is reset, it is what is seen of a new encoder with the
   current state of the transform and the current chunk size.
3. If it is restarted with other settings, it is what is seen of a new encoder with these.

The same holds of a decoder that is reset. Where the transform asks for the same room in every state,
the buffers are always up to date. As the commands may ask at any moment how things stand, all this
takes in the windows and the counters. -/
theorem transcript_renewed (hc : c.Oblivious) (state : σ) (settings : Settings) :
    (∀ history,
      let e := after (Encoder.new c state settings) history
      (∀ f : Encoder c, e.engine.SameMake f.engine → ∀ commands,
          transcript e.reset.next commands = transcript f.reset.next commands) ∧
        (∃ current : Settings, current.chunkSize = e.chunkSize ∧ (e.engine.UpToDate →
          ∀ commands, transcript e.reset.next commands =
            transcript (Encoder.new c e.engine.state current) commands)) ∧
        ∀ (renewed : Settings) (commands), transcript (e.restart renewed).next commands =
          transcript (Encoder.new c e.engine.state renewed) commands) ∧
      (∀ history,
        let e := after (Decoder.new c state settings) history
        (∀ f : Decoder c, e.engine.SameMake f.engine → ∀ commands,
            transcript e.reset.next commands = transcript f.reset.next commands) ∧
          ∃ current : Settings, current.chunkSize = e.chunkSize ∧ (e.engine.UpToDate →
            ∀ commands, transcript e.reset.next commands =
              transcript (Decoder.new c e.engine.state current) commands)) ∧
      (c.HasFixedBound → ∀ (d : Direction) (e : Engine c d), e.UpToDate) := by
  refine ⟨fun history => ?_, fun history => ?_,
    fun hfixed d e => e.upToDate_of_hasFixedBound hfixed⟩
  · intro e
    obtain ⟨current, hcurrent⟩ : ∃ current : Settings, current.chunkSize = e.chunkSize :=
      exists_settings_after (S := Encoder c) state settings history
    refine ⟨fun f hmake => ?_, ⟨current, hcurrent, fun hup => ?_⟩, fun renewed => ?_⟩
    · have hreset : e.reset.next.Alike f.reset.next := ⟨hmake.alike_reset, rfl, rfl, rfl⟩
      exact (Encoder.likeness hc).transcript_eq hreset
    · have hreset : e.reset.next.Alike (.new c e.engine.state current) :=
        ⟨Engine.alike_reset hup hcurrent, rfl, rfl, rfl⟩
      exact (Encoder.likeness hc).transcript_eq hreset
    · have hrestart : (e.restart renewed).next.Alike (.new c e.engine.state renewed) :=
        ⟨e.engine.alike_resize renewed, rfl, rfl, rfl⟩
      exact (Encoder.likeness hc).transcript_eq hrestart
  · intro e
    obtain ⟨current, hcurrent⟩ : ∃ current : Settings, current.chunkSize = e.chunkSize :=
      exists_settings_after (S := Decoder c) state settings history
    refine ⟨fun f hmake => ?_, current, hcurrent, fun hup => ?_⟩
    · have hreset : e.reset.next.Alike f.reset.next := ⟨hmake.alike_reset⟩
      exact (Decoder.likeness hc).transcript_eq hreset
    · have hreset : e.reset.next.Alike (.new c e.engine.state current) :=
        ⟨Engine.alike_reset hup hcurrent⟩
      exact (Decoder.likeness hc).transcript_eq hreset

/-! ## A transform with a state -/

namespace BlockTransform

/-- A transform that gives its results as a whole does not look at its room, if the result and the
next state come from the block and the state. -/
theorem oblivious_of_whole {c : BlockTransform σ}
    (h : ∀ d state block, ∃ next output, ∀ room, c.apply d state room block =
      .whole next room output) : c.Oblivious where
  state d state room room' block hsize := by
    obtain ⟨next, output, happly⟩ := h d state block
    rw [happly, happly, Filling.whole, Filling.whole, hsize]
  call d state room room' block hsize := by
    obtain ⟨next, output, happly⟩ := h d state block
    have hcall : ∀ room : Room, c.callOn d (state, room) block =
        if output.length ≤ room.size then
          ⟨c.name, d, block, room.size, output.length, output⟩
        else ⟨c.name, d, block, room.size, 0, []⟩ := by
      intro room
      split
      · rename_i hfits
        obtain ⟨hreported, houtput⟩ := callOn_of_apply_eq_whole (happly room) hfits
        simp only [callOn, BlockCall.mk.injEq, true_and] at hreported houtput ⊢
        exact ⟨hreported, houtput⟩
      · rename_i hfits
        simp [callOn, happly, Filling.whole, hfits]
    -- whether the result fits depends on the size alone
    rw [hcall, hcall, hsize]

/-- A transform that puts a running number before every block. -/
def numbered : BlockTransform UInt8 where
  name := "numbered"
  bound _ := (· + 1)
  encode number room block := .whole (number + 1) room (number :: block)
  decode number room block := .whole number room block.tail

theorem hasFixedBound_numbered : numbered.HasFixedBound := fun _ _ _ => rfl

theorem oblivious_numbered : numbered.Oblivious := by
  refine oblivious_of_whole fun d number block => ?_
  cases d with
  | encode => exact ⟨number + 1, number :: block, fun room => rfl⟩
  | decode => exact ⟨number, block.tail, fun room => rfl⟩

end BlockTransform

/-- An encoder that is reset, or restarted with larger chunks, after it was closed in the middle of
its output and with input waiting, beside one that came to the same number in another way; and a
decoder that is reset after a block with nothing in it but the number. -/
theorem transcript_renewed_numbered :
    let begun := after (Encoder.new .numbered 7 ⟨2, by decide, by decide⟩)
      [.op (.feedAll [1, 2, 3]), .op (.pull [0] 0 1), .op .close]
    let other := after (Encoder.new .numbered 6 ⟨2, by decide, by decide⟩)
      [.op (.feedAll [4, 5, 6]), .op (.pull [0, 0, 0] 0 3), .op (.pull [0] 0 1)]
    let failed := after (Decoder.new .numbered 7 ⟨1, by decide, by decide⟩)
      [.op (.feedAll [9]), .op (.pull [0] 0 1)]
    let encoding : List (Command Encoder.Renewal) := [.op (.feedAll [9]), .op (.pull [0, 0, 0] 0 3)]
    let decoding : List (Command Decoder.Renewal) := [.op (.feedAll [7, 4]), .op (.pull [0] 0 1)]
    (BlockTransform.numbered.Oblivious ∧ BlockTransform.numbered.HasFixedBound) ∧
      (begun.window = .draining 1 [1, 2] ∧ begun.backlog = 1 ∧ begun.closed = true) ∧
      (begun.engine.SameMake other.engine ∧
        transcript begun.reset.next encoding = transcript other.reset.next encoding) ∧
      transcript begun.reset.next encoding = [⟨.told (.ok ()), []⟩,
        ⟨.pulled (.ok 2) [8, 9, 0], [⟨"numbered", .encode, [9], 3, 2, [8, 9]⟩]⟩] ∧
      transcript (begun.restart ⟨4, by decide, by decide⟩).next encoding = [⟨.told (.ok ()), []⟩,
        ⟨.pulled (.ok 2) [8, 9, 0], [⟨"numbered", .encode, [9], 5, 2, [8, 9]⟩]⟩] ∧
      failed.window = .poisoned ∧
      transcript failed.reset.next decoding = [⟨.told (.ok ()), []⟩,
        ⟨.pulled (.ok 1) [4], [⟨"numbered", .decode, [7, 4], 1, 1, [4]⟩]⟩] := by
  intro begun other failed encoding decoding
  have hnumbered := BlockTransform.oblivious_numbered
  have hfixed := BlockTransform.hasFixedBound_numbered
  obtain ⟨hencoder, -, hup⟩ := transcript_renewed hnumbered 7 ⟨2, by decide, by decide⟩
  obtain ⟨-, hdecoder, -⟩ := transcript_renewed hnumbered 7 ⟨1, by decide, by decide⟩
  obtain ⟨hmade, ⟨current, hcurrent, hreset⟩, hrestart⟩ :=
    hencoder [.op (.feedAll [1, 2, 3]), .op (.pull [0] 0 1), .op .close]
  obtain ⟨-, current', hcurrent', hreset'⟩ :=
    hdecoder [.op (.feedAll [9]), .op (.pull [0] 0 1)]
  have htwo : current = ⟨2, by decide, by decide⟩ := Settings.ext hcurrent
  have hone : current' = ⟨1, by decide, by decide⟩ := Settings.ext hcurrent'
  have hother : begun.engine.SameMake other.engine := ⟨rfl, rfl, rfl⟩
  have hbegun : begun.engine.UpToDate := hup hfixed .encode begun.engine
  have hfailed : failed.engine.UpToDate := hup hfixed .decode failed.engine
  refine ⟨⟨hnumbered, hfixed⟩, ⟨rfl, rfl, rfl⟩, ⟨hother, hmade other hother encoding⟩, ?_, ?_, rfl,
    ?_⟩
  · refine (hreset hbegun encoding).trans ?_
    rw [htwo]
    rfl
  · exact (hrestart _ encoding).trans rfl
  · refine (hreset' hfailed decoding).trans ?_
    rw [hone]
    rfl

/-! ## A transform whose bound grows -/

namespace BlockTransform

/-- A transform that puts zeros before every block, one more each time. What it asks for grows with
them. -/
def growing : BlockTransform Nat where
  name := "growing"
  bound zeros length := length + zeros
  encode zeros room block := .whole (zeros + 1) room (List.replicate zeros 0 ++ block)
  decode zeros room block := .whole (zeros + 1) room (block.drop zeros)

theorem oblivious_growing : growing.Oblivious := by
  refine oblivious_of_whole fun d zeros block => ?_
  cases d with
  | encode => exact ⟨zeros + 1, List.replicate zeros 0 ++ block, fun room => rfl⟩
  | decode => exact ⟨zeros + 1, block.drop zeros, fun room => rfl⟩

end BlockTransform

/-- After one block a second one of a full chunk needs more room than the first. An encoder that is
reset in between does not have it, and a new one does. -/
theorem not_transcript_renewed :
    ¬ ∀ (σ : Type) (c : BlockTransform σ) (state : σ) (settings : Settings)
        (history : List (Command Encoder.Renewal)), c.Oblivious →
      let e := after (Encoder.new c state settings) history
      ∃ current : Settings, current.chunkSize = e.chunkSize ∧ ∀ commands,
        transcript e.reset.next commands =
          transcript (Encoder.new c e.engine.state current) commands := by
  intro hall
  let four : Settings := ⟨4, by decide, by decide⟩
  let history : List (Command Encoder.Renewal) :=
    [.op (.feedAll [1, 2, 3, 4]), .op (.pull [0, 0, 0, 0] 0 4)]
  let commands : List (Command Encoder.Renewal) :=
    [.op (.feedAll [5, 6, 7, 8]), .op (.pull [0, 0, 0, 0, 0] 0 5)]
  obtain ⟨current, hcurrent, hreset⟩ :=
    hall Nat .growing 0 four history BlockTransform.oblivious_growing
  have hfour : current = four := Settings.ext hcurrent
  have hone : (after (Encoder.new .growing 0 four) history).engine.state = 1 := rfl
  have htranscripts := hreset commands
  rw [hfour, hone] at htranscripts
  -- the room of the one has four bytes, that of the other five
  have hlacking : (transcript (after (Encoder.new .growing 0 four) history).reset.next
      commands).map Entry.reply = [.told (.ok ()),
        .pulled (.error (.blockFailed "growing" .encode 4 0 4)) [0, 0, 0, 0, 0]] := by
    simp only [four, history, commands]
    rfl
  have hsupplied : (transcript (Encoder.new .growing 1 four) commands).map Entry.reply =
      [.told (.ok ()), .pulled (.ok 5) [0, 5, 6, 7, 8]] := by
    simp only [four, commands]
    rfl
  rw [htranscripts, hsupplied] at hlacking
  cases hlacking

end Blockwise
