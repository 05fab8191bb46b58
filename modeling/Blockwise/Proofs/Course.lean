import Blockwise.Proofs.Asking

/-!
# Course — a reader through one stream after another

The caller of a reader reads from it and may reset it at any time, whatever the last read came to.
The course of a stream is what happened since the reader was made or last reset, and what the reads
brought since then. A reset begins a new course. The source goes on where it was: it takes nothing
back, and it is asked again even if it had come to its end.

What a reader asks of its source is seen in the trace as inquiries. Each read makes none, or it asks
until it is not interrupted any more, and then once.

## Results

* `Source.inquiries_readSteadily` — the inquiries of reading through interruptions.
* `Reader.Drawn.inquiries` — when a draw asks the source, and what the answer was.
* `Reader.Course.Sound.obeyAll` — a course is a passage of the decoder from its idle beginning, and
  the reader takes its source to be at its end exactly if it was told so in this course.
-/

namespace Blockwise

universe u

variable {σ : Type u} {c : BlockTransform σ}

/-! ## Inquiries -/

/-- How much a source was asked for with the event and what it answered, if it was asked. -/
def Event.inquiry? : Event → Option (Nat × Except Failure Bytes)
  | read requested answer => some (requested, answer)
  | _ => none

namespace Trace

/-- What sources were asked during a trace, with their answers. -/
def inquiries (trace : Trace) : List (Nat × Except Failure Bytes) :=
  trace.filterMap Event.inquiry?

@[simp] theorem inquiries_append (a b : Trace) :
    inquiries (a ++ b) = inquiries a ++ inquiries b :=
  List.filterMap_append

/-- A source was asked and had nothing to give, which is its end. -/
def SawEnd (trace : Trace) : Prop := ∃ requested, (requested, .ok []) ∈ trace.inquiries

theorem sawEnd_append {a b : Trace} : SawEnd (a ++ b) ↔ SawEnd a ∨ SawEnd b := by
  simp only [SawEnd, inquiries_append, List.mem_append, exists_or]

end Trace

/-- A draw asks no source. -/
theorem Engine.Drawn.inquiries_eq_nil {d : Direction} {e e' : Engine c d} {length : Nat}
    {answer : Except Fault Bytes} {events : Trace} (h : e.Drawn length answer e' events) :
    events.inquiries = [] :=
  h.filterMap_eq_nil (fun _ => rfl) fun _ => rfl

/-- Interruptions, and then the answer, to inquiries for the same number of bytes. -/
def Inquires (requested : Nat) (answer : Except Failure Bytes) (trace : Trace) : Prop :=
  ∃ interruptions : List Failure, (∀ failure ∈ interruptions, failure.kind = .interrupted) ∧
    trace.inquiries = (interruptions.map Except.error ++ [answer]).map (requested, ·)

theorem Source.inquiries_readSteadily (source : Source) (requested : Nat) :
    Inquires requested (source.readSteadily requested).answer
      (source.readSteadily requested).events := by
  have hread : ∀ source : Source, (source.read requested).events.inquiries =
      [(requested, (source.read requested).answer)] := fun _ => rfl
  fun_induction readSteadily source requested with
  | case1 source step bytes hanswer =>
    refine ⟨[], fun _ h => (List.not_mem_nil h).elim, ?_⟩
    rw [hread source, hanswer]
    rfl
  | case2 source step failure hanswer hkind ih =>
    -- one interruption more, in front of the others
    obtain ⟨interruptions, hkinds, hinquiries⟩ := ih
    refine ⟨failure :: interruptions, List.forall_mem_cons.mpr ⟨hkind, hkinds⟩, ?_⟩
    rw [Step.events_after, Trace.inquiries_append, hread source, hanswer, hinquiries]
    rfl
  | case3 source step failure hanswer hkind =>
    refine ⟨[], fun _ h => (List.not_mem_nil h).elim, ?_⟩
    rw [hread source, hanswer]
    rfl

namespace Inquires

variable {requested : Nat} {answer : Except Failure Bytes} {trace : Trace}

/-- The answers that are no failures are the last one. -/
theorem mem_iff (h : Inquires requested answer trace) {bytes : Bytes} {size : Nat} :
    (size, .ok bytes) ∈ trace.inquiries ↔ size = requested ∧ answer = .ok bytes := by
  obtain ⟨interruptions, -, hinquiries⟩ := h
  rw [hinquiries]
  simp [eq_comm]

theorem sawEnd_iff (h : Inquires requested answer trace) : trace.SawEnd ↔ answer = .ok [] := by
  simp only [Trace.SawEnd, h.mem_iff, exists_eq_left]

end Inquires

/-! ## Inquiries of a draw -/

namespace Reader

theorem inquires_got (r : Reader c) : Inquires r.bufferSize r.got.answer r.got.events :=
  r.source.inquiries_readSteadily r.bufferSize

/-- A draw asks the source if the decoder is idle and the source is not known to be at its end, and
leaves it alone otherwise. -/
theorem Drawn.inquiries {r r' : Reader c} {length : Nat} {answer : Except ChannelError Bytes}
    {events : Trace} (h : r.Drawn length answer r' events) :
    (r.decoder.needsInput = true ∧ r.atEnd = false ∧
        Inquires r.bufferSize r.got.answer events) ∨
      (r.decoder.needsInput = false ∨ r.atEnd = true) ∧ events.inquiries = [] ∧
        r'.source = r.source := by
  have hgot := r.inquires_got
  cases h with
  | busy hbusy => exact .inr ⟨.inl hbusy, (r.decoder.drawn length).inquiries_eq_nil, rfl⟩
  | ended hidle hend => exact .inr ⟨.inr hend, rfl, rfl⟩
  | refused hidle hopen _ => exact .inl ⟨hidle, hopen, hgot⟩
  | exhausted hidle hopen _ => exact .inl ⟨hidle, hopen, hgot⟩
  | @served hidle hopen b bytes _ decoder hfeed =>
    -- the decoder asks nobody, so the inquiries are those of the reader
    refine .inl ⟨hidle, hopen, ?_⟩
    rw [Inquires, Trace.inquiries_append, (decoder.drawn length).inquiries_eq_nil, List.append_nil]
    exact hgot

/-- A draw learns of the end of the source, or it knows what it knew before. -/
theorem Drawn.atEnd_iff {r r' : Reader c} {length : Nat} {answer : Except ChannelError Bytes}
    {events : Trace} (h : r.Drawn length answer r' events) :
    r'.atEnd = true ↔ r.atEnd = true ∨ events.SawEnd := by
  have hsaw : r.got.events.SawEnd ↔ r.got.answer = .ok [] := r.inquires_got.sawEnd_iff
  have hnone : ∀ trace : Trace, trace.inquiries = [] → ¬ trace.SawEnd := by
    rintro trace hnil ⟨requested, hmem⟩
    rw [hnil] at hmem
    cases hmem
  cases h with
  | busy hbusy =>
    have hquiet := hnone _ (r.decoder.drawn length).inquiries_eq_nil
    rw [or_iff_left hquiet]
  | ended hidle hend => simp [hend]
  | refused hidle hopen hgot => simp [hsaw, hgot]
  | exhausted hidle hopen hgot => simp [hsaw, hgot]
  | @served hidle hopen b bytes hgot decoder hfeed =>
    have hquiet := hnone _ (decoder.drawn length).inquiries_eq_nil
    rw [Trace.sawEnd_append, hsaw, hgot, or_iff_left hquiet]
    simp

theorem Drawn.bufferSize {r r' : Reader c} {length : Nat} {answer : Except ChannelError Bytes}
    {events : Trace} (h : r.Drawn length answer r' events) : r'.bufferSize = r.bufferSize := by
  cases h <;> rfl

/-! ## Courses -/

/-- What a caller can ask of a reader. -/
inductive Request where
  | read (out : Bytes)
  /-- A new stream is begun. -/
  | reset

/-- A reader in the course of a stream. -/
structure Course (c : BlockTransform σ) where
  reader : Reader c
  /-- What happened since the reader was made or last reset. -/
  trace : Trace
  /-- What the reads brought since then, put together. -/
  brought : Bytes

namespace Course

/-- The beginning of a stream. -/
def start (r : Reader c) : Course c := ⟨r, [], []⟩

/-- One request. A new stream has a course of its own. -/
def obey (s : Course c) : Request → Course c
  | .read out =>
    let step := s.reader.readInto out
    ⟨step.next.1, s.trace ++ step.events, s.brought ++ received step⟩
  | .reset => start s.reader.reset.next

def obeyAll (s : Course c) (requests : List Request) : Course c := requests.foldl obey s

/-- What holds at the beginning and is kept by every request holds after all of them. -/
theorem obeyAll_induction {P : Course c → Prop} {s : Course c} {requests : List Request} (h : P s)
    (hobey : ∀ s, ∀ request ∈ requests, P s → P (s.obey request)) : P (s.obeyAll requests) := by
  induction requests generalizing s with
  | nil => exact h
  | cons request requests ih =>
    refine ih (hobey s request (List.mem_cons_self ..) h) ?_
    exact fun s' request' hmem => hobey s' request' (List.mem_cons_of_mem _ hmem)

/-- What is known of a reader in the course of a stream, which asks for `size` bytes at a time. -/
structure Sound (size : Nat) (s : Course c) : Prop where
  bufferSize : s.reader.bufferSize = size
  atEnd_iff : s.reader.atEnd = true ↔ s.trace.SawEnd
  /-- What was served, called and brought makes up a passage of the decoder. -/
  relays : ∃ origin : Reader c, origin.decoder.needsInput = true ∧
    origin.Relays s.brought s.trace s.reader

variable {size : Nat} {s : Course c}

theorem sound_start {r : Reader c} (hidle : r.decoder.needsInput = true) (hopen : r.atEnd = false) :
    (start r).Sound r.bufferSize := by
  refine ⟨rfl, ?_, r, hidle, .refl r⟩
  simp [start, hopen, Trace.SawEnd, Trace.inquiries]

/-- A read neither changes how much is asked for nor forgets the end of the source. -/
theorem sound_readInto (h : s.Sound size) (out : Bytes) : (s.obey (.read out)).Sound size := by
  obtain ⟨origin, hidle, hrelays⟩ := h.relays
  have hlater : origin.Relays _ _ (s.obey (.read out)).reader :=
    hrelays.trans (s.reader.relays_readInto out)
  by_cases hnil : out = []
  · -- which touches nothing
    have hsame : s.obey (.read []) = s := by
      simp [obey, readInto_nil, Step.quiet, received]
    rw [hnil, hsame]
    exact h
  · obtain ⟨answer, hdrawn, -, -⟩ := s.reader.drawn_readInto hnil
    refine ⟨hdrawn.bufferSize.trans h.bufferSize, ?_, origin, hidle, hlater⟩
    show (s.reader.readInto out).next.1.atEnd = true ↔
      Trace.SawEnd (s.trace ++ (s.reader.readInto out).events)
    rw [hdrawn.atEnd_iff, h.atEnd_iff, Trace.sawEnd_append]

theorem Sound.obey (h : s.Sound size) (request : Request) : (s.obey request).Sound size := by
  cases request with
  | read out => exact sound_readInto h out
  | reset =>
    rw [← h.bufferSize]
    exact sound_start (r := s.reader.reset.next) rfl rfl

theorem Sound.obeyAll (h : s.Sound size) (requests : List Request) :
    (s.obeyAll requests).Sound size :=
  obeyAll_induction (P := Sound size) h fun _ request _ hs => hs.obey request

/-- Over a reader with a new decoder, every history leads to a sound course. -/
theorem sound_new (c : BlockTransform σ) (state : σ) (settings : Settings) (source : Source)
    (bufferSize : Nat) (requests : List Request) :
    ((start (withBufferSize source (Decoder.new c state settings) bufferSize)).obeyAll
      requests).Sound (transferSize bufferSize) :=
  (sound_start (r := withBufferSize source (Decoder.new c state settings) bufferSize)
    rfl rfl).obeyAll requests

end Course

end Reader

end Blockwise
