import Blockwise.Proofs.Asking

/-!
# Retrying — a source that fails now and then

A source may fail any number of times, for any reason and at any point of its data. A caller who
tries again after each failure does not notice, but for the failures themselves: what the reads
bring, in which buffers, and with which block calls, is what it would be from a source that answers
the same without failing.

Sources are compared by their answers, in order. One is hindered where another is not if its answers
are those of the other with failures put in between (`Inserted`). Most of a source does not matter
to a caller who tries again: not its failures, nor what a failed read left in the buffer. What does
is the prospect of the reader, and a failed read leaves that as it is.

## Results

* `Source.met_readSteadily` — what a read of the source meets: the next answer that is not an
  interruption.
* `Reader.outcomes_insist_congr` — readers of the same prospect bring the same to a caller who tries
  again.
* `Attempt.transparent` — a read that fails for its source leaves everything but the source as it
  was, and has no other failure than this one, apart from interruptions.
* `Reader.outcomes_insist_of_hindered` — a hindered source makes no difference, and all its failures
  surface.
-/

namespace Blockwise

universe u

variable {σ : Type u} {c : BlockTransform σ}

/-! ## Insertions -/

/-- The second list is the first one with elements put in anywhere, all of which have the
property. -/
inductive Inserted {α : Type} (P : α → Prop) : List α → List α → Prop where
  | nil : Inserted P [] []
  | keep (a : α) {as bs : List α} (h : Inserted P as bs) : Inserted P (a :: as) (a :: bs)
  | insert {b : α} (hb : P b) {as bs : List α} (h : Inserted P as bs) : Inserted P as (b :: bs)

namespace Inserted

variable {α β : Type} {P : α → Prop} {Q : β → Prop} {as bs : List α}

theorem refl (as : List α) : Inserted P as as := by
  induction as with
  | nil => exact .nil
  | cons a as ih => exact .keep a ih

/-- In front of both lists there may stand the same. -/
theorem append_left (as : List α) {bs cs : List α} (h : Inserted P bs cs) :
    Inserted P (as ++ bs) (as ++ cs) := by
  induction as with
  | nil => exact h
  | cons a as ih => exact .keep a ih

theorem flatMap {f : α → List β} (hf : ∀ a, P a → ∃ b, f a = [b] ∧ Q b) (h : Inserted P as bs) :
    Inserted Q (as.flatMap f) (bs.flatMap f) := by
  induction h with
  | nil => exact .nil
  | keep a h ih => exact ih.append_left (f a)
  | insert hb h ih =>
    obtain ⟨b, hsingle, hQ⟩ := hf _ hb
    rw [List.flatMap_cons, hsingle]
    exact .insert hQ ih

/-- What leaves out everything that has the property does not see the insertions. -/
theorem filterMap_eq {f : α → Option β} (hf : ∀ a, P a → f a = none) (h : Inserted P as bs) :
    as.filterMap f = bs.filterMap f := by
  induction h with
  | nil => rfl
  | keep a h ih => rw [List.filterMap_cons, List.filterMap_cons, ih]
  | insert hb h ih => rw [List.filterMap_cons, hf _ hb, ih]

end Inserted

/-! ## Answers of a source -/

/-- The failure, if the answer of a source is one. -/
def Source.refusal? : Except Failure Bytes → Option Failure
  | .error failure => some failure
  | .ok _ => none

/-- The answers to reads of at most `size` bytes. -/
def Supply.answers (size : Nat) : Supply → List (Except Failure Bytes)
  | data bytes => (pieces size bytes).map .ok
  | nothing => [.ok []]
  | refuse failure => [.error failure]

/-- Whether the failure ends a read of the reader: interruptions do not. -/
def Failure.surfaces (failure : Failure) : Bool := failure.kind ≠ .interrupted

/-- The failure, if the event is a read of a source that failed. -/
def Event.refusal? : Event → Option Failure
  | read _ answer => Source.refusal? answer
  | _ => none

namespace Trace

/-- The failures of sources during a trace. -/
def refusals (trace : Trace) : List Failure := trace.filterMap Event.refusal?

@[simp] theorem refusals_append (a b : Trace) : refusals (a ++ b) = refusals a ++ refusals b :=
  List.filterMap_append

end Trace

/-- A draw asks no source. -/
theorem Engine.Drawn.refusals_eq_nil {d : Direction} {e e' : Engine c d} {length : Nat}
    {answer : Except Fault Bytes} {events : Trace} (h : e.Drawn length answer e' events) :
    events.refusals = [] :=
  h.filterMap_eq_nil (fun _ => rfl) fun _ => rfl

namespace Source

/-- The answers of the source to reads of at most `size` bytes, one after another. After these it
has nothing more to give. -/
def answers (size : Nat) (source : Source) : List (Except Failure Bytes) :=
  (pieces size source.opened).map .ok ++ source.queue.flatMap (Supply.answers size)

/-- What the source has to offer: its answers without the failures. An empty offer is an end. -/
def offers (size : Nat) (source : Source) : List Bytes :=
  (source.answers size).filterMap Except.toOption

/-- The failures among the answers of the source. -/
def refusals (size : Nat) (source : Source) : List Failure :=
  (source.answers size).filterMap refusal?

variable {size : Nat}

/-- The other source answers as this one does, with failures put in anywhere. -/
def Hindered (size : Nat) (source source' : Source) : Prop :=
  Inserted (fun answer => ∃ failure, answer = .error failure) (source.answers size)
    (source'.answers size)

/-- It does if failures are put in anywhere in the queue. -/
theorem hindered_of_inserted {opened : Bytes} {queue queue' : List Supply}
    (h : Inserted (fun supply => ∃ failure, supply = .refuse failure) queue queue') :
    Hindered size ⟨opened, queue⟩ ⟨opened, queue'⟩ := by
  refine (h.flatMap ?_).append_left _
  rintro _ ⟨failure, rfl⟩
  exact ⟨.error failure, rfl, failure, rfl⟩

/-- What a source has to offer is the same if it is hindered. -/
theorem Hindered.offers_eq {source source' : Source} (h : Hindered size source source') :
    source.offers size = source'.offers size := by
  refine Inserted.filterMap_eq ?_ h
  rintro _ ⟨failure, rfl⟩
  rfl

/-- A read takes the first answer, or there is none left and it gets nothing. -/
theorem answers_serve (hs : 0 < size) (opened : Bytes) (queue : List Supply) :
    answers size ⟨opened, queue⟩ =
        (serve size opened queue).1 :: (serve size opened queue).2.answers size ∨
      answers size ⟨opened, queue⟩ = [] ∧ (serve size opened queue).1 = .ok [] ∧
        (serve size opened queue).2.answers size = [] := by
  fun_induction serve size opened queue with
  | case1 b bytes queue =>
    -- the first piece of the opened data is served
    left
    rw [answers, pieces_of_ne_nil hs (List.cons_ne_nil b bytes)]
    rfl
  | case2 =>
    right
    have hnone : answers size ⟨[], []⟩ = [] := by
      rw [answers, pieces_nil]
      rfl
    exact ⟨hnone, rfl, hnone⟩
  | case3 bytes queue ih =>
    -- data is opened, and has the same pieces as before
    have hopened : answers size ⟨[], .data bytes :: queue⟩ = answers size ⟨bytes, queue⟩ := by
      rw [answers, answers, pieces_nil]
      rfl
    rw [hopened]
    exact ih
  | case4 queue =>
    left
    rw [answers, answers, pieces_nil]
    rfl
  | case5 failure queue =>
    left
    rw [answers, answers, pieces_nil]
    rfl

theorem answers_read (hs : 0 < size) (source : Source) :
    source.answers size = (source.read size).answer :: (source.read size).next.answers size ∨
      source.answers size = [] ∧ (source.read size).answer = .ok [] ∧
        (source.read size).next.answers size = [] :=
  answers_serve hs source.opened source.queue

/-- A read that succeeds gets the next offer, or nothing if there is none. -/
theorem read_of_ok (hs : 0 < size) {source : Source} {bytes : Bytes}
    (h : (source.read size).answer = .ok bytes) :
    (bytes = (source.offers size).headD [] ∧
        (source.read size).next.offers size = (source.offers size).tail) ∧
      (source.read size).next.refusals size = source.refusals size ∧
      (source.read size).events.refusals = [] := by
  have hevents : (source.read size).events.refusals = [] := by
    show Trace.refusals [.read size (source.read size).answer] = _
    rw [h]
    rfl
  rcases answers_read hs source with hfirst | ⟨hnone, hanswer, hnext⟩
  · rw [offers, offers, refusals, refusals, hfirst, h]
    exact ⟨⟨rfl, rfl⟩, rfl, hevents⟩
  · rw [h] at hanswer
    cases hanswer
    rw [offers, offers, refusals, refusals, hnone, hnext]
    exact ⟨⟨rfl, rfl⟩, rfl, hevents⟩

/-- A read that fails leaves the offers as they are. -/
theorem read_of_error (hs : 0 < size) {source : Source} {failure : Failure}
    (h : (source.read size).answer = .error failure) :
    (source.read size).next.offers size = source.offers size ∧
      source.refusals size = failure :: (source.read size).next.refusals size ∧
      (source.read size).events.refusals = [failure] := by
  have hevents : (source.read size).events.refusals = [failure] := by
    show Trace.refusals [.read size (source.read size).answer] = _
    rw [h]
    rfl
  rcases answers_read hs source with hfirst | ⟨-, hanswer, -⟩
  · rw [offers, offers, refusals, refusals, hfirst, h]
    exact ⟨rfl, rfl, hevents⟩
  · rw [h] at hanswer
    cases hanswer

/-- What reading through interruptions meets. -/
structure Met (size : Nat) (source : Source) (step : Step Source (Except Failure Bytes)) :
    Prop where
  /-- What is got is the next offer, or nothing if there is none. -/
  gets : ∀ bytes, step.answer = .ok bytes →
    bytes = (source.offers size).headD [] ∧ step.next.offers size = (source.offers size).tail
  /-- A failure leaves the offers as they are. -/
  keeps : ∀ failure, step.answer = .error failure →
    step.next.offers size = source.offers size
  /-- Failures come in order, and none is passed over. -/
  inOrder : source.refusals size = step.events.refusals ++ step.next.refusals size
  /-- A failure that is no interruption is the answer. -/
  surfacing : step.events.refusals.filter Failure.surfaces = (refusal? step.answer).toList

theorem met_readSteadily (hs : 0 < size) (source : Source) :
    Met size source (source.readSteadily size) := by
  fun_induction readSteadily source size with
  | case1 source step bytes hanswer =>
    obtain ⟨hgets, hsame, hevents⟩ := read_of_ok hs hanswer
    refine ⟨?_, (fun failure h => by cases h), ?_, ?_⟩
    · rintro _ ⟨⟩
      exact hgets
    · show _ = (source.read size).events.refusals ++ _
      rw [hevents]
      exact hsame.symm
    · show (source.read size).events.refusals.filter _ = _
      rw [hevents]
      rfl
  | case2 source step failure hanswer hkind ih =>
    -- an interruption is the answer to nobody: the source is read again
    obtain ⟨hoffers, hinOrder, hevents⟩ := read_of_error hs hanswer
    have hsilent : ¬ failure.surfaces = true := by simp [Failure.surfaces, hkind]
    refine ⟨?_, ?_, ?_, ?_⟩
    · intro bytes h
      rw [← hoffers]
      exact ih.gets bytes h
    · intro failure' h
      rw [← hoffers]
      exact ih.keeps failure' h
    · rw [Step.events_after, Trace.refusals_append, hevents, hinOrder, ih.inOrder]
      rfl
    · rw [Step.events_after, Trace.refusals_append, hevents, List.filter_append, ih.surfacing,
        List.filter_cons_of_neg hsilent]
      rfl
  | case3 source step failure hanswer hkind =>
    obtain ⟨hoffers, hinOrder, hevents⟩ := read_of_error hs hanswer
    have hloud : failure.surfaces = true := by simp [Failure.surfaces, hkind]
    refine ⟨(fun bytes h => by cases h), fun _ _ => hoffers, ?_, ?_⟩
    · show _ = (source.read size).events.refusals ++ _
      rw [hevents]
      exact hinOrder
    · show (source.read size).events.refusals.filter _ = _
      rw [hevents]
      exact List.filter_cons_of_pos hloud

/-- A failure leaves the source lighter. -/
theorem weight_readSteadily_lt {source : Source} {requested : Nat} {failure : Failure}
    (h : (source.readSteadily requested).answer = .error failure) :
    (source.readSteadily requested).next.weight < source.weight := by
  fun_induction readSteadily source requested with
  | case1 => cases h
  | case2 source step failure' hanswer hkind ih =>
    have hw := weight_read_le source requested
    rw [show (source.read requested).answer = _ from hanswer] at hw
    exact Nat.lt_trans (ih h) hw
  | case3 source step failure' hanswer hkind =>
    have hw := weight_read_le source requested
    rw [show (source.read requested).answer = _ from hanswer] at hw
    exact hw

end Source

/-! ## The prospect of a reader -/

/-- What lies ahead of a reader whose caller tries again: the decoder, and what its source has to
offer. -/
structure Prospect (c : BlockTransform σ) where
  decoder : Decoder c
  bufferSize : Nat
  atEnd : Bool
  offers : List Bytes

namespace Reader

def prospect (r : Reader c) : Prospect c :=
  ⟨r.decoder, r.bufferSize, r.atEnd, r.source.offers r.bufferSize⟩

theorem met_got (r : Reader c) : r.source.Met r.bufferSize r.got :=
  Source.met_readSteadily r.bufferSize_pos r.source

/-- Draws that are not failed by their sources are alike if the prospects are. -/
theorem draw_congr {r r' : Reader c} {length : Nat} (hl : 0 < length)
    (h : r.prospect = r'.prospect)
    (hr : ∀ failure, (r.draw length).answer ≠ .error (.channel failure))
    (hr' : ∀ failure, (r'.draw length).answer ≠ .error (.channel failure)) :
    (r.draw length).answer = (r'.draw length).answer ∧
      (r.draw length).next.prospect = (r'.draw length).next.prospect ∧
      (r.draw length).events.calls = (r'.draw length).events.calls := by
  obtain ⟨hdecoder, hsize, hend, hoffers⟩ := Prospect.mk.injEq .. ▸ h
  have hprospect : ∀ {decoder decoder' : Decoder c} {atEnd atEnd' : Bool}
      {offers offers' : List Bytes}, decoder = decoder' → atEnd = atEnd' → offers = offers' →
        Prospect.mk decoder r.bufferSize atEnd offers =
          ⟨decoder', r'.bufferSize, atEnd', offers'⟩ := by
    rintro _ _ _ _ _ _ rfl rfl rfl
    rw [hsize]
  -- the three questions that decide: whether the decoder is idle, whether the source has come to
  -- its end, and what it answers
  cases hidle : r.decoder.needsInput with
  | false =>
    have hidle' : r'.decoder.needsInput = false := hdecoder ▸ hidle
    rw [draw_of_busy hl hidle, draw_of_busy hl hidle', hdecoder]
    exact ⟨rfl, hprospect rfl hend hoffers, rfl⟩
  | true =>
    have hidle' : r'.decoder.needsInput = true := hdecoder ▸ hidle
    cases hopen : r.atEnd with
    | true =>
      rw [draw_of_ended hidle hopen, draw_of_ended hidle' (hend ▸ hopen)]
      exact ⟨rfl, h, rfl⟩
    | false =>
      have hopen' : r'.atEnd = false := hend ▸ hopen
      cases hgot : r.got.answer with
      | error failure =>
        refine absurd ?_ (hr failure)
        rw [draw_of_refused hidle hopen hgot]
      | ok bytes =>
        cases hgot' : r'.got.answer with
        | error failure =>
          refine absurd ?_ (hr' failure)
          rw [draw_of_refused hidle' hopen' hgot']
        | ok bytes' =>
          -- both got the next of the same offers
          obtain ⟨hbytes, hnext⟩ := r.met_got.gets bytes hgot
          obtain ⟨hbytes', hnext'⟩ := r'.met_got.gets bytes' hgot'
          obtain rfl : bytes = bytes' := by
            rw [hbytes, hbytes']
            exact congrArg (List.headD · []) hoffers
          have hrest := hnext.trans ((congrArg List.tail hoffers).trans hnext'.symm)
          cases bytes with
          | nil =>
            rw [draw_of_exhausted hidle hopen hgot, draw_of_exhausted hidle' hopen' hgot']
            exact ⟨rfl, hprospect hdecoder rfl hrest, r.calls_got.trans r'.calls_got.symm⟩
          | cons b bytes =>
            obtain ⟨fed, hfeed⟩ := Decoder.exists_feedAll_eq_ok hidle (b :: bytes)
            have hfeed' : r'.decoder.feedAll (b :: bytes) = .ok fed := hdecoder ▸ hfeed
            rw [draw_of_served hl hidle hopen hgot hfeed,
              draw_of_served hl hidle' hopen' hgot' hfeed']
            refine ⟨rfl, hprospect rfl hend hrest, ?_⟩
            rw [Trace.calls_append, Trace.calls_append, r.calls_got, r'.calls_got]

/-- The failure of the source that a read is answered with, if it is. -/
def channelFailure? {α : Type} : Except ChannelError α → Option Failure
  | .error (.channel failure) => some failure
  | _ => none

theorem channelFailure?_mapError {α : Type} (answer : Except Fault α) :
    channelFailure? (answer.mapError .stream) = none := by
  cases answer <;> rfl

theorem channelFailure?_map {α β : Type} (f : α → β) (answer : Except ChannelError α) :
    channelFailure? (answer.map f) = channelFailure? answer := by
  rcases answer with (_ | _) | _ <;> rfl

/-- The failures that the source of the reader has ahead. -/
def refusals (r : Reader c) : List Failure := r.source.refusals r.bufferSize

/-- A draw passes over no failure of the source, and ends with each that is no interruption. -/
theorem Drawn.refusals {r r' : Reader c} {length : Nat} {answer : Except ChannelError Bytes}
    {events : Trace} (h : r.Drawn length answer r' events) :
    r.refusals = events.refusals ++ r'.refusals ∧
      events.refusals.filter Failure.surfaces = (channelFailure? answer).toList := by
  have hmet := r.met_got
  have hinOrder : r.refusals = r.got.events.refusals ++ r.got.next.refusals r.bufferSize :=
    hmet.inOrder
  have hsurfacing := hmet.surfacing
  cases h with
  | busy hbusy =>
    rw [(r.decoder.drawn length).refusals_eq_nil, channelFailure?_mapError]
    exact ⟨rfl, rfl⟩
  | ended hidle hend => exact ⟨rfl, rfl⟩
  | refused hidle hopen hgot =>
    rw [hgot] at hsurfacing
    exact ⟨hinOrder, hsurfacing⟩
  | exhausted hidle hopen hgot =>
    rw [hgot] at hsurfacing
    exact ⟨hinOrder, hsurfacing⟩
  | @served hidle hopen b bytes hgot decoder hfeed =>
    rw [hgot] at hsurfacing
    rw [Trace.refusals_append, (decoder.drawn length).refusals_eq_nil, List.append_nil,
      channelFailure?_mapError]
    exact ⟨hinOrder, hsurfacing⟩

/-- What a draw leaves that is failed by the source. -/
structure Failed (r r' : Reader c) (events : Trace) : Prop where
  decoder : r'.decoder = r.decoder
  prospect : r'.prospect = r.prospect
  calls : events.calls = []
  lighter : r'.source.weight < r.source.weight

theorem Drawn.failed {r r' : Reader c} {length : Nat} {answer : Except ChannelError Bytes}
    {events : Trace} (h : r.Drawn length answer r' events) {failure : Failure}
    (hfailure : channelFailure? answer = some failure) : r.Failed r' events := by
  cases h with
  | busy hbusy =>
    rw [channelFailure?_mapError] at hfailure
    cases hfailure
  | ended hidle hend => cases hfailure
  | refused hidle hopen hgot =>
    refine ⟨rfl, ?_, r.calls_got, Source.weight_readSteadily_lt hgot⟩
    exact congrArg (Prospect.mk _ _ _) (r.met_got.keeps _ hgot)
  | exhausted hidle hopen hgot => cases hfailure
  | served hidle hopen hgot hfeed =>
    rw [channelFailure?_mapError] at hfailure
    cases hfailure

end Reader

/-! ## Trying again -/

/-- A read that a caller makes of a reader, into a buffer. -/
structure Attempt (c : BlockTransform σ) where
  reader : Reader c
  out : Bytes

namespace Attempt

def step (a : Attempt c) : Step (Reader c × Bytes) (Except ChannelError Nat) :=
  a.reader.readInto a.out

/-- The failure of the source, if the attempt is answered with one. -/
def failure? (a : Attempt c) : Option Failure := Reader.channelFailure? a.step.answer

/-- Whether the attempt is not failed by the source. -/
def isSettled (a : Attempt c) : Bool := a.failure?.isNone

/-- What comes of an attempt: the answer, what the caller then finds in the buffer, and the block
calls that were made. -/
def outcome (a : Attempt c) : Except ChannelError Nat × Bytes × List BlockCall :=
  (a.step.answer, a.step.next.2, a.step.events.calls)

/-- An attempt with a buffer that is not empty is a draw. -/
theorem step_of_ne_nil {a : Attempt c} (hne : a.out ≠ []) :
    a.step =
      (let drawn := a.reader.draw a.out.length
       ⟨drawn.answer.map List.length,
         (drawn.next, overlay a.out 0 (Reader.readBytes drawn.answer)), drawn.events⟩) := by
  have hlength : a.out.length ≠ 0 := fun hzero => hne (List.length_eq_zero_iff.mp hzero)
  unfold step Reader.readInto Reader.read
  rw [if_neg hlength]
  cases hanswer : (a.reader.draw a.out.length).answer with
  | error error => simp only [hanswer, Except.map, Reader.readBytes, overlay_nil]
  | ok bytes => simp only [hanswer, Except.map, Reader.readBytes]

theorem failure?_of_ne_nil {a : Attempt c} (hne : a.out ≠ []) :
    a.failure? = Reader.channelFailure? (a.reader.draw a.out.length).answer := by
  rw [failure?, step_of_ne_nil hne]
  exact Reader.channelFailure?_map ..

theorem step_of_eq_nil {a : Attempt c} (hnil : a.out = []) :
    a.step = .quiet (.ok 0) (a.reader, []) := by
  rw [step, hnil, Reader.readInto_nil]

/-- An attempt that is failed by the source leaves the buffer as it was, too. -/
theorem failed_of_failure? {a : Attempt c} {failure : Failure} (h : a.failure? = some failure) :
    a.reader.Failed a.step.next.1 a.step.events ∧ a.step.next.2 = a.out := by
  by_cases hnil : a.out = []
  · rw [failure?, step_of_eq_nil hnil] at h
    cases h
  · rw [failure?_of_ne_nil hnil] at h
    have hdrawn := a.reader.drawn (List.length_pos_iff.mpr hnil)
    rw [step_of_ne_nil hnil]
    refine ⟨hdrawn.failed h, ?_⟩
    cases hanswer : (a.reader.draw a.out.length).answer with
    | error error =>
      dsimp only
      rw [hanswer]
      exact overlay_nil ..
    | ok bytes =>
      rw [hanswer] at h
      cases h

theorem failed_of_not_isSettled {a : Attempt c} (h : ¬ a.isSettled = true) :
    a.reader.Failed a.step.next.1 a.step.events ∧ a.step.next.2 = a.out := by
  cases hfailure : a.failure? with
  | none => simp [isSettled, hfailure] at h
  | some failure => exact failed_of_failure? hfailure

theorem refusals (a : Attempt c) :
    a.reader.refusals = a.step.events.refusals ++ a.step.next.1.refusals ∧
      a.step.events.refusals.filter Failure.surfaces = a.failure?.toList := by
  by_cases hnil : a.out = []
  · rw [failure?, step_of_eq_nil hnil]
    exact ⟨rfl, rfl⟩
  · rw [failure?_of_ne_nil hnil, step_of_ne_nil hnil]
    exact (a.reader.drawn (List.length_pos_iff.mpr hnil)).refusals

/-- Attempts that are not failed by their sources have the same outcome if the prospects are the
same. -/
theorem outcome_congr (a a' : Attempt c) (hout : a.out = a'.out)
    (hprospect : a.reader.prospect = a'.reader.prospect) (h : a.isSettled = true)
    (h' : a'.isSettled = true) :
    a.outcome = a'.outcome ∧ a.step.next.1.prospect = a'.step.next.1.prospect := by
  obtain ⟨r, out⟩ := a
  obtain ⟨r', out'⟩ := a'
  obtain rfl : out = out' := hout
  by_cases hnil : out = []
  · rw [outcome, outcome, step_of_eq_nil hnil, step_of_eq_nil hnil]
    exact ⟨rfl, hprospect⟩
  · have hpos := List.length_pos_iff.mpr hnil
    rw [isSettled, failure?_of_ne_nil hnil] at h h'
    obtain ⟨hanswer, hnext, hcalls⟩ := Reader.draw_congr hpos hprospect
      (fun failure hfailure => by simp [hfailure, Reader.channelFailure?] at h)
      (fun failure hfailure => by simp [hfailure, Reader.channelFailure?] at h')
    rw [outcome, outcome, step_of_ne_nil hnil, step_of_ne_nil hnil]
    dsimp only
    rw [hanswer, hcalls]
    exact ⟨rfl, hnext⟩

/-- What the failures of a source do to an attempt. -/
structure Transparent (a : Attempt c) : Prop where
  /-- An attempt that is failed by the source leaves the buffer and the decoder as they were, and
  makes no block call. The failure is no interruption. -/
  failed : ∀ failure, a.failure? = some failure →
    failure.kind ≠ .interrupted ∧ a.step.next.2 = a.out ∧
      a.step.next.1.decoder = a.reader.decoder ∧ a.step.next.1.atEnd = a.reader.atEnd ∧
      a.step.events.calls = []
  /-- Of all the failures of the source that an attempt meets, those that are no interruptions are
  the one it is answered with, or none if it is answered otherwise. -/
  surfacing : a.step.events.refusals.filter Failure.surfaces = a.failure?.toList

theorem transparent (a : Attempt c) : a.Transparent := by
  have hsurfacing := a.refusals.2
  refine ⟨fun failure hfailure => ?_, hsurfacing⟩
  obtain ⟨hfailed, hout⟩ := failed_of_failure? hfailure
  refine ⟨?_, hout, hfailed.decoder, congrArg Prospect.atEnd hfailed.prospect, hfailed.calls⟩
  -- it is among those that surface
  have hmem : failure ∈ a.step.events.refusals.filter Failure.surfaces := by
    rw [hsurfacing, hfailure]
    exact List.mem_singleton_self failure
  simpa [Failure.surfaces] using (List.mem_filter.mp hmem).2

end Attempt

namespace Reader

/-- Reads into one buffer after another. A read that is failed by the source is tried again, with
the buffer as it was left, until it is answered in some other way. -/
def insist (r : Reader c) : List Bytes → List (Attempt c)
  | [] => []
  | out :: outs =>
    let attempt : Attempt c := ⟨r, out⟩
    if _h : attempt.isSettled then attempt :: attempt.step.next.1.insist outs
    else attempt :: attempt.step.next.1.insist (attempt.step.next.2 :: outs)
termination_by outs => (outs.length, r.source.weight)
decreasing_by
  · exact Prod.Lex.left _ _ (Nat.lt_succ_self _)
  · exact Prod.Lex.right _ (Attempt.failed_of_not_isSettled _h).1.lighter

/-- The outcomes of the attempts that are not failed by the source. -/
def outcomes (attempts : List (Attempt c)) :
    List (Except ChannelError Nat × Bytes × List BlockCall) :=
  (attempts.filter Attempt.isSettled).map Attempt.outcome

/-- Every read is settled at last, with the prospect that there was in the beginning. -/
theorem exists_settled (r : Reader c) (out : Bytes) :
    ∃ r₀ : Reader c, r₀.prospect = r.prospect ∧ (⟨r₀, out⟩ : Attempt c).isSettled = true ∧
      ∀ outs, outcomes (r.insist (out :: outs)) =
        (⟨r₀, out⟩ : Attempt c).outcome ::
          outcomes ((⟨r₀, out⟩ : Attempt c).step.next.1.insist outs) := by
  by_cases hsettled : (⟨r, out⟩ : Attempt c).isSettled = true
  · refine ⟨r, rfl, hsettled, fun outs => ?_⟩
    rw [insist, outcomes, dif_pos hsettled, List.filter_cons_of_pos hsettled]
    rfl
  · obtain ⟨hfailed, hout⟩ := Attempt.failed_of_not_isSettled hsettled
    obtain ⟨r₀, hprospect, hsettled₀, houtcomes⟩ :=
      exists_settled (⟨r, out⟩ : Attempt c).step.next.1 out
    refine ⟨r₀, hprospect.trans hfailed.prospect, hsettled₀, fun outs => ?_⟩
    rw [insist, outcomes, dif_neg hsettled, List.filter_cons_of_neg hsettled, hout, ← houtcomes]
    rfl
termination_by r.source.weight
decreasing_by exact hfailed.lighter

/-- What readers of the same prospect bring to a caller who tries again is the same. -/
theorem outcomes_insist_congr {r r' : Reader c} (h : r.prospect = r'.prospect) (outs : List Bytes) :
    outcomes (r.insist outs) = outcomes (r'.insist outs) := by
  induction outs generalizing r r' with
  | nil => rw [insist, insist]
  | cons out outs ih =>
    obtain ⟨r₀, hprospect, hsettled, houtcomes⟩ := r.exists_settled out
    obtain ⟨r₀', hprospect', hsettled', houtcomes'⟩ := r'.exists_settled out
    obtain ⟨houtcome, hnext⟩ := Attempt.outcome_congr ⟨r₀, out⟩ ⟨r₀', out⟩ rfl
      (hprospect.trans (h.trans hprospect'.symm)) hsettled hsettled'
    rw [houtcomes, houtcomes', houtcome, ih hnext]

/-- There is one outcome for each buffer. -/
theorem length_outcomes_insist (r : Reader c) (outs : List Bytes) :
    (outcomes (r.insist outs)).length = outs.length := by
  induction outs generalizing r with
  | nil =>
    rw [insist]
    rfl
  | cons out outs ih =>
    obtain ⟨r₀, -, -, houtcomes⟩ := r.exists_settled out
    rw [houtcomes, List.length_cons, ih, List.length_cons]

/-- The failures of the source that the attempts meet come in order, and none is passed over. -/
theorem refusals_insist_prefix (r : Reader c) (outs : List Bytes) :
    (r.insist outs).flatMap (fun attempt => attempt.step.events.refusals) <+: r.refusals := by
  fun_induction insist r outs with
  | case1 r => exact List.nil_prefix
  | case2 r out outs attempt hsettled ih =>
    rw [List.flatMap_cons, attempt.refusals.1]
    exact (List.prefix_append_right_inj _).mpr ih
  | case3 r out outs attempt hfailed ih =>
    rw [List.flatMap_cons, attempt.refusals.1]
    exact (List.prefix_append_right_inj _).mpr ih

/-- The failures that the attempts are answered with are those they meet, but for interruptions. -/
theorem filterMap_failure? (attempts : List (Attempt c)) :
    attempts.filterMap Attempt.failure? =
      (attempts.flatMap fun attempt => attempt.step.events.refusals).filter Failure.surfaces := by
  induction attempts with
  | nil => rfl
  | cons attempt attempts ih =>
    rw [List.flatMap_cons, List.filter_append, attempt.transparent.surfacing, ← ih,
      List.filterMap_cons]
    cases attempt.failure? <;> rfl

/-- **A source that fails now and then.** Take any transform in any state, any settings and buffer,
and readers over new decoders. The sources answer the same, but one of them is hindered by failures,
of any kinds and anywhere in between. Then to a caller who tries again after every failure

1. both readers bring the same, with the same block calls: one outcome for each buffer, whatever the
   outcomes are;
2. a read that is failed by the source leaves the buffer and the decoder as they were and makes no
   block call, and an interruption fails no read;
3. the failures that are met are those that the source has, in their order and as far as they are
   reached, and each that is no interruption is the answer to just one read. -/
theorem outcomes_insist_of_hindered (c : BlockTransform σ) (state : σ) (settings : Settings)
    (bufferSize : Nat) {source source' : Source}
    (h : source.Hindered (transferSize bufferSize) source') (outs : List Bytes) :
    let r := withBufferSize source (Decoder.new c state settings) bufferSize
    let r' := withBufferSize source' (Decoder.new c state settings) bufferSize
    let attempts := r'.insist outs
    let met := attempts.flatMap fun attempt => attempt.step.events.refusals
    (outcomes attempts = outcomes (r.insist outs) ∧ (outcomes attempts).length = outs.length) ∧
      (∀ attempt ∈ attempts, attempt.Transparent) ∧
      met <+: source'.refusals (transferSize bufferSize) ∧
      attempts.filterMap Attempt.failure? = met.filter Failure.surfaces := by
  intro r r' attempts met
  have hprospect : r'.prospect = r.prospect :=
    congrArg (Prospect.mk (Decoder.new c state settings) _ false) h.offers_eq.symm
  exact ⟨⟨outcomes_insist_congr hprospect outs, r'.length_outcomes_insist outs⟩,
    fun attempt _ => attempt.transparent, r'.refusals_insist_prefix outs,
    filterMap_failure? attempts⟩

/-- Three bytes and the end of a source that fails twice and is interrupted once. -/
theorem outcomes_insist_stored :
    let timedOut : Failure := ⟨.timedOut, "late"⟩
    let busy : Failure := ⟨.wouldBlock, "not yet"⟩
    let source := Source.ofSupplies [.data [1, 2, 3], .nothing, .data [4]]
    let source' := Source.ofSupplies [.refuse timedOut, .data [1, 2, 3],
      .refuse ⟨.interrupted, "again"⟩, .refuse busy, .nothing, .data [4]]
    let r' := withBufferSize source' (Decoder.new .stored () ⟨2, by decide, by decide⟩) 4
    let attempts := r'.insist [[0, 0], [0, 0], [0]]
    source.Hindered 4 source' ∧
      (outcomes attempts).map Prod.fst = [.ok 2, .ok 1, .ok 0] ∧
      (outcomes attempts).map (fun outcome => outcome.2.1) = [[1, 2], [3, 0], [0]] ∧
      attempts.filterMap Attempt.failure? = [timedOut, busy] := by
  intro timedOut busy source source' r' attempts
  have hsources : source.Hindered 4 source' := by
    refine Source.hindered_of_inserted ?_
    refine .insert ⟨timedOut, rfl⟩ (.keep _ (.insert ⟨_, rfl⟩ (.insert ⟨busy, rfl⟩ ?_)))
    exact .refl _
  obtain ⟨⟨hsame, -⟩, -, -, hfailures⟩ :=
    outcomes_insist_of_hindered .stored () ⟨2, by decide, by decide⟩ 4 hsources
      [[0, 0], [0, 0], [0]]
  refine ⟨hsources, ?_, ?_, ?_⟩
  · rw [show outcomes attempts = _ from hsame]
    simp only [source]
    cbv
  · rw [show outcomes attempts = _ from hsame]
    simp only [source]
    cbv
  · rw [show attempts.filterMap Attempt.failure? = _ from hfailures]
    simp only [source']
    cbv

end Reader

end Blockwise
