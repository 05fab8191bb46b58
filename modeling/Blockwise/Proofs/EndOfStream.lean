import Mathlib
import Blockwise.Proofs.Accounting
import Blockwise.Proofs.Course

/-!
# EndOfStream — what it means that a read brings nothing

To its caller, a read that brings nothing means that the stream is over. A reader never says so too
early: it brings nothing exactly if the decoder has nothing to hand out and the source is at its
end, be it that the source said so in this course or that it says so now. Once it did, it is not
asked again before a reset, though it might have more by then.

A read does not wait for more than it needs. It asks its source until it is not interrupted, and
then no more, so on a source without an end it comes to an end itself as soon as that is not
interrupted for good. An endless source is a stream of supplies. A reader of it is a reader of as
many of them as it looks at, and the others are left as they are (`Source.followedBy`).

## Results

* `Source.readSteadily_followedBy`, `Reader.readInto_followedBy` — what stands behind the first
  supply that is not an interruption makes no difference to a read.
* `Reader.exists_enough` — a read of an endless source looks at finitely many supplies.
* `Reader.tellsEnd_obeyAll` — what a read tells of the end of the stream, after every history of
  reads and resets.
-/

namespace Blockwise

universe u

variable {σ : Type u} {c : BlockTransform σ}

/-! ## Endless sources -/

/-- The supply ends a reading through interruptions. Data without bytes does not: it is passed
over. -/
def Supply.Decides : Supply → Prop
  | data bytes => bytes ≠ []
  | nothing => True
  | refuse failure => failure.kind ≠ .interrupted

namespace Source

/-- The source with more supplies behind its own. -/
def followedBy (source : Source) (more : List Supply) : Source :=
  { source with queue := source.queue ++ more }

section ReadSteadily

variable {source : Source} {requested : Nat}

theorem readSteadily_of_ok {bytes : Bytes} (h : (source.read requested).answer = .ok bytes) :
    source.readSteadily requested = source.read requested := by
  rw [readSteadily]
  split
  · rename_i hanswer
    rw [← hanswer]
  · rename_i hanswer
    rw [h] at hanswer
    cases hanswer

theorem readSteadily_of_error {failure : Failure}
    (h : (source.read requested).answer = .error failure) :
    source.readSteadily requested =
      if failure.kind = .interrupted then
        ((source.read requested).next.readSteadily requested).after (source.read requested).events
      else source.read requested := by
  rw [readSteadily]
  split
  · rename_i hanswer
    rw [h] at hanswer
    cases hanswer
  · rename_i failure' hanswer
    obtain rfl : failure = failure' := by
      rw [h] at hanswer
      cases hanswer
      rfl
    rw [← hanswer]

/-- Sources that answer a read alike and are left alike are alike to reading through
interruptions. -/
theorem readSteadily_congr {source' : Source}
    (h : source.read requested = source'.read requested) :
    source.readSteadily requested = source'.readSteadily requested := by
  cases hanswer : (source.read requested).answer with
  | ok bytes =>
    have hanswer' : (source'.read requested).answer = .ok bytes := h ▸ hanswer
    rw [readSteadily_of_ok hanswer, readSteadily_of_ok hanswer', h]
  | error failure =>
    have hanswer' : (source'.read requested).answer = .error failure := h ▸ hanswer
    rw [readSteadily_of_error hanswer, readSteadily_of_error hanswer', h]

end ReadSteadily

/-- If some supply decides the reading, what follows the supplies is left as it is. -/
theorem readSteadily_followedBy {queue : List Supply} (h : ∃ supply ∈ queue, supply.Decides)
    (more : List Supply) (requested : Nat) :
    (⟨[], queue ++ more⟩ : Source).readSteadily requested =
      ((⟨[], queue⟩ : Source).readSteadily requested).mapNext (followedBy · more) := by
  -- supply by supply: one that does not decide is used up alike on both sides, and is not the one
  -- that was promised
  induction queue with
  | nil =>
    obtain ⟨supply, hmem, -⟩ := h
    cases hmem
  | cons supply queue ih =>
    have hqueue : ¬ supply.Decides → ∃ supply ∈ queue, supply.Decides := by
      intro hnot
      obtain ⟨later, hmem, hdecides⟩ := h
      rcases List.mem_cons.mp hmem with rfl | hmem
      · exact absurd hdecides hnot
      · exact ⟨later, hmem, hdecides⟩
    rw [List.cons_append]
    cases supply with
    | data bytes =>
      cases bytes with
      | nil =>
        -- both sources pass over it
        have hpass : ∀ queue : List Supply,
            (⟨[], .data [] :: queue⟩ : Source).readSteadily requested =
              (⟨[], queue⟩ : Source).readSteadily requested := fun _ => readSteadily_congr rfl
        rw [hpass, hpass]
        exact ih (hqueue fun hne => hne rfl)
      | cons b bytes =>
        -- what is left of the data stays opened, in front of both queues
        have hserved : ∀ queue : List Supply,
            ((⟨[], .data (b :: bytes) :: queue⟩ : Source).read requested).answer =
              .ok ((b :: bytes).take requested) := by simp [read, serve]
        rw [readSteadily_of_ok (hserved _), readSteadily_of_ok (hserved _)]
        simp [read, serve, Step.mapNext, followedBy]
    | nothing =>
      have hended : ∀ queue : List Supply,
          ((⟨[], .nothing :: queue⟩ : Source).read requested).answer = .ok [] := fun _ => rfl
      rw [readSteadily_of_ok (hended _), readSteadily_of_ok (hended _)]
      rfl
    | refuse failure =>
      have hrefused : ∀ queue : List Supply,
          ((⟨[], .refuse failure :: queue⟩ : Source).read requested).answer = .error failure :=
        fun _ => rfl
      rw [readSteadily_of_error (hrefused _), readSteadily_of_error (hrefused _)]
      split
      · -- an interruption uses up one supply, and the reading goes on
        rename_i hkind
        have hrest := ih (hqueue fun hne => hne hkind)
        have hnext : ∀ queue : List Supply,
            ((⟨[], .refuse failure :: queue⟩ : Source).read requested).next = ⟨[], queue⟩ :=
          fun _ => rfl
        rw [hnext, hnext, hrest]
        rfl
      · rfl

end Source

namespace Reader

/-- The reader with more supplies behind those of its source. -/
def followedBy (r : Reader c) (more : List Supply) : Reader c :=
  { r with source := r.source.followedBy more }

/-- Supplies that the source does not look at are left as they are by a draw. -/
theorem draw_followedBy {r : Reader c} {length : Nat} (hl : 0 < length) {more : List Supply}
    (h : (r.followedBy more).got = r.got.mapNext (·.followedBy more)) :
    (r.followedBy more).draw length = (r.draw length).mapNext (followedBy · more) := by
  have hanswer : (r.followedBy more).got.answer = r.got.answer := by
    rw [h, Step.answer_mapNext]
  -- both readers ask the same questions, and the source has the same answer for them
  cases hidle : r.decoder.needsInput with
  | false =>
    rw [draw_of_busy hl hidle, draw_of_busy (r := r.followedBy more) hl hidle]
    rfl
  | true =>
    cases hopen : r.atEnd with
    | true =>
      rw [draw_of_ended hidle hopen, draw_of_ended (r := r.followedBy more) hidle hopen]
      rfl
    | false =>
      cases hgot : r.got.answer with
      | error failure =>
        rw [draw_of_refused hidle hopen hgot,
          draw_of_refused (r := r.followedBy more) hidle hopen (hanswer.trans hgot), h]
        rfl
      | ok bytes =>
        cases bytes with
        | nil =>
          rw [draw_of_exhausted hidle hopen hgot,
            draw_of_exhausted (r := r.followedBy more) hidle hopen (hanswer.trans hgot), h]
          rfl
        | cons b bytes =>
          obtain ⟨decoder, hfeed⟩ := Decoder.exists_feedAll_eq_ok hidle (b :: bytes)
          rw [draw_of_served hl hidle hopen hgot hfeed,
            draw_of_served (r := r.followedBy more) hl hidle hopen (hanswer.trans hgot) hfeed, h]
          rfl

theorem readInto_followedBy {r : Reader c} (out : Bytes) {more : List Supply}
    (h : (r.followedBy more).got = r.got.mapNext (·.followedBy more)) :
    (r.followedBy more).readInto out =
      (r.readInto out).mapNext fun next => (next.1.followedBy more, next.2) := by
  by_cases hnil : out = []
  · rw [hnil, readInto_nil, readInto_nil]
    rfl
  · have hlength : out.length ≠ 0 := fun hzero => hnil (List.length_eq_zero_iff.mp hzero)
    unfold readInto read
    rw [if_neg hlength, if_neg hlength, draw_followedBy (List.length_pos_iff.mpr hnil) h]
    cases hanswer : (r.draw out.length).answer <;> simp [hanswer, Step.mapNext]

/-- The reader with a source that supplies the first of an endless stream, up to a limit. -/
def reading (r : Reader c) (supplies : Stream' Supply) (limit : Nat) : Reader c :=
  { r with source := .ofSupplies (supplies.take limit) }

/-- Of an endless source, a read looks at finitely many supplies if one of them is neither an
interruption nor without bytes. The others are left as they are. -/
theorem exists_enough (r : Reader c) (out : Bytes) {supplies : Stream' Supply}
    (h : ∃ i, (supplies.get i).Decides) :
    ∃ enough, ∀ more,
      (r.reading supplies (enough + more)).readInto out =
        ((r.reading supplies enough).readInto out).mapNext fun next =>
          (next.1.followedBy ((supplies.drop enough).take more), next.2) := by
  obtain ⟨i, hdecides⟩ := h
  -- the supply that decides is enough, with all before it
  refine ⟨i + 1, fun more => ?_⟩
  have hmem : ∃ supply ∈ supplies.take (i + 1), supply.Decides := by
    refine ⟨supplies.get i, ?_, hdecides⟩
    rw [Stream'.take_succ']
    exact List.mem_append_right _ (List.mem_singleton_self _)
  have hreading : r.reading supplies (i + 1 + more) =
      (r.reading supplies (i + 1)).followedBy ((supplies.drop (i + 1)).take more) := by
    unfold reading
    rw [Stream'.take_add]
    rfl
  rw [hreading]
  exact readInto_followedBy out (Source.readSteadily_followedBy hmem _ _)

/-! ## The end of a stream -/

namespace Drawn

variable {r r' : Reader c} {length : Nat} {answer : Except ChannelError Bytes} {events : Trace}

/-- A draw brings nothing exactly if there is nothing to hand out, and nothing to be had. -/
theorem eq_nil_iff (h : r.Drawn length answer r' events) (hl : 0 < length) :
    answer = .ok [] ↔
      r.decoder.needsInput = true ∧ (r.atEnd = true ∨ events.SawEnd) := by
  rw [← h.atEnd_iff]
  -- to fail is not to bring nothing, and a decoder that is not idle does one or the other
  have hbrings : ∀ decoder : Decoder c, decoder.needsInput = false →
      (decoder.draw length).answer.mapError ChannelError.stream ≠ .ok [] := by
    intro decoder hbusy hnil
    have hdrawn := decoder.drawn length
    cases hanswer : (decoder.draw length).answer with
    | error fault =>
      rw [hanswer] at hnil
      cases hnil
    | ok bytes =>
      rw [hanswer] at hdrawn hnil
      cases hnil
      exact hdrawn.ne_nil_of_busy hbusy hl rfl
  cases h with
  | busy hbusy => simp [hbusy, hbrings r.decoder hbusy]
  | ended hidle hend => simp [hidle, hend]
  | refused hidle hopen hgot => simp [hopen]
  | exhausted hidle hopen hgot => simp [hidle]
  | served hidle hopen hgot hfeed =>
    simp [hopen, hbrings _ (Decoder.needsInput_of_feedAll hfeed)]

/-- What the source serves goes to the decoder as it is, and the decoder decides the draw. -/
theorem fed (h : r.Drawn length answer r' events) {size : Nat} {b : UInt8} {bytes : Bytes}
    (hmem : (size, .ok (b :: bytes)) ∈ events.inquiries) :
    ∃ decoder, r.decoder.feedAll (b :: bytes) = .ok decoder ∧
      answer = (decoder.draw length).answer.mapError .stream ∧
      r'.decoder = (decoder.draw length).next := by
  rcases h.inquiries with ⟨hidle, -, hasks⟩ | ⟨-, hnone, -⟩
  · -- the source was asked, and its last answer is what was got
    have hgot : r.got.answer = .ok (b :: bytes) := (hasks.mem_iff.mp hmem).2
    cases h with
    | busy hbusy =>
      rw [hidle] at hbusy
      cases hbusy
    | ended hidle hend => cases hmem
    | refused hidle hopen hgot' => simp [hgot] at hgot'
    | exhausted hidle hopen hgot' => simp [hgot] at hgot'
    | @served hidle hopen b' bytes' hgot' decoder hfeed =>
      rw [hgot] at hgot'
      cases hgot'
      exact ⟨decoder, hfeed, rfl, rfl⟩
  · rw [hnone] at hmem
    cases hmem

end Drawn

namespace Course

/-- What the next read of a course tells of the end of the stream, and what it asks of the source
for that, `size` bytes at a time. -/
structure TellsEnd (size : Nat) (s : Course c) : Prop where
  /-- A read brings nothing exactly if the decoder is idle and the source is at its end: it said so
  in this course, or it says so now. -/
  zero_iff : ∀ out, out ≠ [] →
    ((s.reader.readInto out).answer = .ok 0 ↔
      s.reader.decoder.needsInput = true ∧
        (s.trace.SawEnd ∨ (s.reader.readInto out).events.SawEnd))
  /-- The source is asked until it is not interrupted, and not again. -/
  once : ∀ out, ∃ (interruptions : List Failure) (last : Option (Except Failure Bytes)),
    (∀ failure ∈ interruptions, failure.kind = .interrupted) ∧
      (s.reader.readInto out).events.inquiries =
        (interruptions.map Except.error ++ last.toList).map (size, ·)
  /-- It is not asked at all while there is something to hand out or to decode, if the decoder is
  poisoned, or after it said that it is at its end. -/
  quiet : ∀ out,
    s.reader.decoder.backlog ≠ 0 ∨ s.reader.decoder.owed ≠ 0 ∨
        s.reader.decoder.window = .poisoned ∨ s.trace.SawEnd →
      (s.reader.readInto out).events.inquiries = [] ∧
        (s.reader.readInto out).next.1.source = s.reader.source
  /-- The decoder takes what the source served, and its draw from that is the answer. -/
  fed : ∀ out b bytes, (size, .ok (b :: bytes)) ∈ (s.reader.readInto out).events.inquiries →
    ∃ decoder, s.reader.decoder.feedAll (b :: bytes) = .ok decoder ∧
      (s.reader.readInto out).answer =
        ((decoder.draw out.length).answer.mapError .stream).map List.length ∧
      (s.reader.readInto out).next.1.decoder = (decoder.draw out.length).next
  /-- A read into an empty buffer touches nothing. -/
  empty : s.reader.readInto [] = .quiet (.ok 0) (s.reader, [])
  /-- Whatever comes from an endless source, as long as it is not interrupted for good: a read looks
  at finitely many supplies and leaves the others to the next one. -/
  ends : ∀ out supplies, (∃ i, (Stream'.get supplies i).Decides) →
    ∃ enough, ∀ more,
      (s.reader.reading supplies (enough + more)).readInto out =
        ((s.reader.reading supplies enough).readInto out).mapNext fun next =>
          (next.1.followedBy ((supplies.drop enough).take more), next.2)

variable {size : Nat} {s : Course c}

theorem Sound.tellsEnd (h : s.Sound size) : s.TellsEnd size where
  zero_iff out hne := by
    obtain ⟨answer, hdrawn, hlength, -⟩ := s.reader.drawn_readInto hne
    have hnothing : (s.reader.readInto out).answer = .ok 0 ↔ answer = .ok [] := by
      rw [hlength]
      cases answer <;> simp [Except.map]
    rw [hnothing, hdrawn.eq_nil_iff (List.length_pos_iff.mpr hne), h.atEnd_iff]
  once out := by
    by_cases hnil : out = []
    · rw [hnil]
      exact ⟨[], none, fun _ hmem => (List.not_mem_nil hmem).elim, rfl⟩
    · obtain ⟨answer, hdrawn, -, -⟩ := s.reader.drawn_readInto hnil
      rw [← h.bufferSize]
      rcases hdrawn.inquiries with ⟨-, -, interruptions, hkinds, hinquiries⟩ | ⟨-, hnone, -⟩
      · exact ⟨interruptions, some s.reader.got.answer, hkinds, hinquiries⟩
      · exact ⟨[], none, fun _ hmem => (List.not_mem_nil hmem).elim, hnone⟩
  quiet out hstop := by
    by_cases hnil : out = []
    · rw [hnil]
      exact ⟨rfl, rfl⟩
    · obtain ⟨answer, hdrawn, -, -⟩ := s.reader.drawn_readInto hnil
      rcases hdrawn.inquiries with ⟨hidle, hopen, -⟩ | ⟨-, hnone, hsource⟩
      · -- an idle decoder rules out three of the reasons, an open source the fourth
        obtain ⟨husable, hbacklog, howed⟩ := Engine.isIdle_iff_settled.mp hidle
        rcases hstop with hstop | hstop | hstop | hstop
        · exact absurd hbacklog hstop
        · exact absurd howed hstop
        · exact absurd hstop husable
        · rw [← h.atEnd_iff, hopen] at hstop
          cases hstop
      · exact ⟨hnone, hsource⟩
  fed out b bytes hmem := by
    by_cases hnil : out = []
    · rw [hnil] at hmem
      cases hmem
    · obtain ⟨answer, hdrawn, hlength, -⟩ := s.reader.drawn_readInto hnil
      obtain ⟨decoder, hfeed, hanswer, hdecoder⟩ := hdrawn.fed hmem
      exact ⟨decoder, hfeed, by rw [hlength, hanswer], hdecoder⟩
  empty := s.reader.readInto_nil
  ends out _ hdecides := s.reader.exists_enough out hdecides

end Course

/-- **No false and no repeated end of a stream.** Take any transform in any state, any settings,
source and buffer, and any history of reads and resets of a reader over a new decoder. Then the next
read tells of the end of the stream what `Course.TellsEnd` says, and it asks its source for what the
buffer takes. -/
theorem tellsEnd_obeyAll (c : BlockTransform σ) (state : σ) (settings : Settings)
    (source : Source) (bufferSize : Nat) (history : List Request) :
    ((Course.start (withBufferSize source (Decoder.new c state settings) bufferSize)).obeyAll
      history).TellsEnd (transferSize bufferSize) :=
  (Course.sound_new c state settings source bufferSize history).tellsEnd

end Reader

end Blockwise
