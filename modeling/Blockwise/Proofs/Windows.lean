import Blockwise.Proofs.Lifetime

/-!
# Windows — how the window of a pump moves

A pump can be driven by anyone: by a coder, which makes strokes at the right moments and with one
transform, or by a caller who feeds, strokes, draws, resets and resizes it in any order, with another
transform for every stroke. The buffers have the right sizes all the time, and the window lies
within the result buffer, whatever the transforms report. So no operation reaches beyond the end of
a buffer (`slice?` is a range of a buffer only where there is one).

The window moves in these ways, and in no other:

* a stroke on an empty window leaves it empty if the call produced nothing, opens it over what the
  call produced, or poisons it if the call failed;
* a draw from an open window narrows it, and leaves it empty if nothing is owed any more;
* a reset or a resize leaves it empty, wherever it was. Nothing else gets it out of `poisoned`.

While bytes are owed nothing writes over them. That takes one thing of whoever drives the pump: not
to make a stroke then. Encoders and decoders keep to it.

## Results

* `Pump.Sound.run` — the sizes and the window after every run.
* `Pump.slices_of_fits` — every range that an operation uses is one.
* `Pump.turns` — the moves of the window.
* `window_eq_empty_of_calls_ne_nil` — a coder makes a block call only while its window is empty.
-/

namespace Blockwise

universe u

/-! ## Ranges -/

/-- The bytes from `start` up to `stop`, if that is a range of the buffer. -/
def slice? (buffer : Bytes) (start stop : Nat) : Option Bytes :=
  if start ≤ stop ∧ stop ≤ buffer.length then some ((buffer.drop start).take (stop - start)) else none

theorem slice?_eq_some {buffer : Bytes} {start stop : Nat} (h : start ≤ stop)
    (hstop : stop ≤ buffer.length) :
    slice? buffer start stop = some ((buffer.drop start).take (stop - start)) :=
  if_pos ⟨h, hstop⟩

/-- An open window shows the range of the buffer between its ends. -/
theorem Window.Shows.slice? {buffer unread : Bytes} {read : Nat}
    (h : (Window.draining read unread).Shows buffer) :
    Blockwise.slice? buffer read (read + unread.length) = some unread := by
  have hle := h.limit_le
  simp only [limit] at hle
  obtain ⟨-, rest, hrest⟩ := h
  rw [slice?_eq_some (Nat.le_add_right ..) hle, Nat.add_sub_cancel_left, ← hrest, List.take_left]

namespace Pump

/-! ## Runs -/

/-- An operation of a pump. Every stroke may be made with another transform. -/
inductive Op : Type (u + 1) where
  | feed (data : Bytes) (offset length : Nat)
  | stroke {σ : Type u} (c : BlockTransform σ) (state : σ)
  | draw (length : Nat)
  | reset
  | resize (chunkSize bound : Nat)

/-- The pump after the operation. An input that is refused leaves it as it was. -/
def perform (p : Pump) : Op.{u} → Pump
  | .feed data offset length =>
    match p.feed data offset length with
    | .ok fed => fed
    | .error _ => p
  | .stroke c state => (p.stroke c state).next.1
  | .draw length => (p.draw length).2
  | .reset => p.reset
  | .resize chunkSize bound => p.resize chunkSize bound

def run (p : Pump) (ops : List Op.{u}) : Pump := ops.foldl perform p

/-- The chunk size and the bound that were set last. -/
def Op.latest (sizes : Nat × Nat) : Op.{u} → Nat × Nat
  | resize chunkSize bound => (chunkSize, bound)
  | feed .. | stroke .. | draw _ | reset => sizes

/-- A stroke is allowed while nothing is owed, and all else at any time. -/
def Allows (p : Pump) : Op.{u} → Prop
  | .stroke .. => p.isOwing = false
  | .feed .. | .draw _ | .reset | .resize .. => True

/-! ## Sizes -/

/-- The pump has the sizes that were set, and its window shows what the result buffer holds. -/
structure Sound (p : Pump) (direction : Direction) (sizes : Nat × Nat) : Prop where
  direction : p.direction = direction
  chunkSize : p.chunkSize = sizes.1
  fits : p.Fits sizes.2

theorem sound_new (direction : Direction) (chunkSize bound : Nat) :
    (new direction chunkSize bound).Sound direction (chunkSize, bound) :=
  ⟨rfl, rfl, fits_new ..⟩

theorem Sound.perform {p : Pump} {direction : Direction} {sizes : Nat × Nat}
    (h : p.Sound direction sizes) (op : Op.{u}) :
    (p.perform op).Sound direction (op.latest sizes) := by
  cases op with
  | feed data offset length =>
    simp only [Pump.perform]
    split
    · rename_i fed hfed
      refine ⟨?_, ?_, h.fits.feed hfed⟩
      · rw [of_feed_eq_ok hfed]
        exact h.direction
      · rw [of_feed_eq_ok hfed]
        exact h.chunkSize
    · exact h
  | stroke c state =>
    exact ⟨(direction_stroke ..).trans h.direction, (chunkSize_stroke ..).trans h.chunkSize,
      h.fits.stroke c state⟩
  | draw length => exact ⟨h.direction, h.chunkSize, h.fits.draw length⟩
  | reset => exact ⟨h.direction, h.chunkSize, h.fits.reset⟩
  | resize chunkSize bound => exact ⟨h.direction, rfl, fits_resize ..⟩

theorem Sound.run {p : Pump} {direction : Direction} {sizes : Nat × Nat}
    (h : p.Sound direction sizes) (ops : List Op.{u}) :
    (p.run ops).Sound direction (ops.foldl Op.latest sizes) := by
  induction ops generalizing p sizes with
  | nil => exact h
  | cons op ops ih => exact ih (h.perform op)

/-! ## Ranges that are used -/

/-- The ranges that the operation takes out of a buffer: of the data that is fed, of the waiting
input, which is staged and then passed over, and of the result buffer. None of them is longer than
where it goes to. -/
def Slices (p : Pump) : Op.{u} → Prop
  | .feed data offset length => ∀ fed, p.feed data offset length = .ok fed →
    slice? data offset (offset + length) = some fed.waiting
  | .stroke c state => p.isPoisoned = false →
    let staged := min p.stageSize p.waiting.length
    staged ≤ p.stageSize ∧
      slice? p.waiting 0 staged = some (c.callOn p.direction (state, p.result) p.nextChunk).source ∧
      slice? p.waiting staged p.waiting.length = some (p.stroke c state).next.1.waiting
  | .draw length => ∀ read unread, p.window = .draining read unread →
    let copied := min length unread.length
    copied ≤ length ∧ slice? p.result.bytes read (read + copied) = some (p.draw length).1
  | .reset | .resize .. => True

theorem slices_of_fits {p : Pump} {bound : Nat} (h : p.Fits bound) (op : Op.{u}) :
    p.Slices op := by
  cases op with
  | feed data offset length =>
    intro fed hfed
    have hr := (feed_eq_ok_iff.mp hfed).1
    rw [of_feed_eq_ok hfed, slice?_eq_some (Nat.le_add_right ..) hr, Nat.add_sub_cancel_left]
  | stroke c state =>
    intro husable staged
    have hstaged : staged ≤ p.waiting.length := Nat.min_le_right ..
    refine ⟨Nat.min_le_left .., ?_, ?_⟩
    · rw [slice?_eq_some (Nat.zero_le _) hstaged, List.drop_zero, Nat.sub_zero]
      exact congrArg some (List.take_eq_take_min ..).symm
    · have hwaiting : (p.stroke c state).next.1.waiting = p.waiting.drop p.stageSize := by
        simp only [stroke, husable, Bool.false_eq_true, if_false]
        rfl
      have hrest : (p.waiting.drop staged).length ≤ p.waiting.length - staged :=
        Nat.le_of_eq (List.length_drop ..)
      rw [slice?_eq_some hstaged (Nat.le_refl _), List.take_of_length_le hrest, hwaiting]
      exact congrArg some List.drop_eq_drop_min.symm
  | draw length =>
    intro read unread hw copied
    have hshows := h.window
    have hle := hshows.limit_le
    rw [hw] at hshows hle
    have hcopied : copied ≤ unread.length := Nat.min_le_right ..
    refine ⟨Nat.min_le_left .., ?_⟩
    simp only [Window.limit] at hle
    have hwithin : read + copied ≤ p.result.bytes.length := by omega
    rw [slice?_eq_some (Nat.le_add_right ..) hwithin, Nat.add_sub_cancel_left]
    obtain ⟨-, rest, hrest⟩ := hshows
    show _ = some (p.window.unread.take length)
    rw [hw, ← hrest, List.take_append_of_le_length hcopied]
    exact congrArg some (List.take_eq_take_min ..).symm
  | reset => trivial
  | resize chunkSize bound => trivial

/-! ## Moves of the window -/

/-- Where an operation takes the window of the pump. -/
inductive Turns (p : Pump) : Op.{u} → Window → Prop where
  | fed (data : Bytes) (offset length : Nat) : Turns p (.feed data offset length) p.window
  | failed {σ : Type u} {c : BlockTransform σ} {state : σ} (hw : p.window = .empty)
    (hf : (c.callOn p.direction (state, p.result) p.nextChunk).failed = true) :
    Turns p (.stroke c state) .poisoned
  | blank {σ : Type u} {c : BlockTransform σ} {state : σ} (hw : p.window = .empty)
    (hs : (c.callOn p.direction (state, p.result) p.nextChunk).failed = false)
    (hnone : (c.callOn p.direction (state, p.result) p.nextChunk).reported = 0) :
    Turns p (.stroke c state) .empty
  | opened {σ : Type u} {c : BlockTransform σ} {state : σ} {output : Bytes}
    (hw : p.window = .empty)
    (hs : (c.callOn p.direction (state, p.result) p.nextChunk).failed = false)
    (hsome : 0 < output.length)
    (hreported : output.length = (c.callOn p.direction (state, p.result) p.nextChunk).reported) :
    Turns p (.stroke c state) (.draining 0 output)
  | refused {σ : Type u} {c : BlockTransform σ} {state : σ} (hw : p.window = .poisoned) :
    Turns p (.stroke c state) .poisoned
  | narrowed {read length : Nat} {unread : Bytes} (hw : p.window = .draining read unread)
    (h : length < unread.length) :
    Turns p (.draw length) (.draining (read + length) (unread.drop length))
  | emptied {read length : Nat} {unread : Bytes} (hw : p.window = .draining read unread)
    (h : unread.length ≤ length) : Turns p (.draw length) .empty
  | idle {length : Nat} (ho : p.isOwing = false) : Turns p (.draw length) p.window
  | reset : Turns p .reset .empty
  | resized (chunkSize bound : Nat) : Turns p (.resize chunkSize bound) .empty

theorem isOwing_eq_false_iff {p : Pump} :
    p.isOwing = false ↔ p.window = .empty ∨ p.window = .poisoned := by
  unfold isOwing
  split <;> simp [*]

theorem turns_stroke {σ : Type u} (p : Pump) (c : BlockTransform σ) (state : σ)
    (ho : p.isOwing = false) :
    p.Turns (.stroke c state) (p.stroke c state).next.1.window := by
  rcases isOwing_eq_false_iff.mp ho with hw | hw
  · have husable : p.isPoisoned = false := by simp [isPoisoned, hw]
    let call := c.callOn p.direction (state, p.result) p.nextChunk
    have hwindow : (p.stroke c state).next.1.window =
        if call.failed then .poisoned else .ofProduced call.output := by
      simp only [stroke, husable, Bool.false_eq_true, if_false]
      rfl
    rw [hwindow]
    cases hf : call.failed with
    | true => exact .failed hw hf
    | false =>
      have hlength : call.output.length = call.reported := length_output_callOn hf
      cases houtput : call.output with
      | nil =>
        rw [houtput] at hlength
        exact .blank hw hf hlength.symm
      | cons b bytes => exact .opened hw hf (by simp) (houtput ▸ hlength)
  · have hpoisoned : p.isPoisoned = true := by simp [isPoisoned, hw]
    simp only [stroke, hpoisoned, if_true, Step.quiet, hw]
    exact .refused hw

theorem turns_draw (p : Pump) (length : Nat) :
    p.Turns (.draw length) (p.draw length).2.window := by
  show p.Turns (.draw length) (p.window.advance length)
  cases hw : p.window with
  | draining read unread =>
    simp only [Window.advance]
    split
    · rename_i hnil
      exact .emptied hw (List.drop_eq_nil_iff.mp hnil)
    · rename_i b bytes hrest
      rw [← hrest]
      refine .narrowed hw ?_
      have hpos : 0 < (unread.drop length).length := by simp [hrest]
      rw [List.length_drop] at hpos
      omega
  | empty =>
    have hidle : p.Turns (.draw length) p.window := .idle (isOwing_eq_false_iff.mpr (.inl hw))
    rwa [hw] at hidle
  | poisoned =>
    have hidle : p.Turns (.draw length) p.window := .idle (isOwing_eq_false_iff.mpr (.inr hw))
    rwa [hw] at hidle

/-- An operation that is allowed moves the window in one of the ways that there are. -/
theorem turns {p : Pump} {op : Op.{u}} (h : p.Allows op) : p.Turns op (p.perform op).window := by
  cases op with
  | feed data offset length =>
    have hwindow : (p.perform (.feed data offset length : Op.{u})).window = p.window := by
      simp only [perform]
      split
      · rename_i fed hfed
        rw [of_feed_eq_ok hfed]
      · rfl
    rw [hwindow]
    exact .fed data offset length
  | stroke c state => exact p.turns_stroke c state h
  | draw length => exact p.turns_draw length
  | reset => exact .reset
  | resize chunkSize bound => exact .resized chunkSize bound

/-- What is owed is not written over: either it is forgotten, or the result buffer is what it was
and the window still ends where it did. -/
theorem keeps_owed {p : Pump} {op : Op.{u}} (h : p.Allows op) (ho : p.isOwing = true) :
    (p.perform op).window = .empty ∨
      (p.perform op).result = p.result ∧ (p.perform op).window.limit = p.window.limit := by
  cases op with
  | feed data offset length =>
    right
    simp only [perform]
    split
    · rename_i fed hfed
      rw [of_feed_eq_ok hfed]
      exact ⟨rfl, rfl⟩
    · exact ⟨rfl, rfl⟩
  | stroke c state =>
    rw [show p.isOwing = false from h] at ho
    cases ho
  | draw length =>
    have hturns : p.Turns (.draw length : Op.{u}) _ := p.turns_draw length
    show (p.draw length).2.window = .empty ∨ p.result = p.result ∧
      (p.draw length).2.window.limit = p.window.limit
    generalize (p.draw length).2.window = w at hturns
    cases hturns with
    | narrowed hw hlength =>
      right
      rw [hw]
      simp only [Window.limit, List.length_drop, true_and]
      omega
    | emptied hw hlength => exact .inl rfl
    | idle hidle =>
      rw [hidle] at ho
      cases ho
  | reset => exact .inl rfl
  | resize chunkSize bound => exact .inl rfl

end Pump

/-! ## Coders -/

section Coders

variable {σ : Type u} {c : BlockTransform σ} {d : Direction}

/-- A draw makes a stroke only if the window is empty. -/
theorem Engine.Drawn.window_eq_empty {e e' : Engine c d} {length : Nat}
    {answer : Except Fault Bytes} {events : Trace} (h : e.Drawn length answer e' events)
    (hcalls : events.calls ≠ []) : e.window = .empty := by
  have hempty : e.pump.isPoisoned = false → e.pump.isOwing = false → e.window = .empty := by
    intro hp ho
    refine (Pump.isOwing_eq_false_iff.mp ho).resolve_right fun hw => ?_
    simp [Pump.isPoisoned, hw] at hp
  cases h with
  | refused hp => exact absurd rfl hcalls
  | idle hi => exact absurd rfl hcalls
  | owing ho => exact absurd rfl hcalls
  | failed hp ho hf => exact hempty hp ho
  | struck hp ho hs => exact hempty hp ho

variable {S : Type u} {R : Type} [Coder S c d] [Renewable S R]

/-- A coder makes a block call only while its window is empty. -/
theorem window_eq_empty_of_calls_ne_nil {s : S} {command : Command R}
    (h : (respond s command).events.calls ≠ []) : (Coder.engine s).window = .empty := by
  have hoffer : ∀ answer, (replyTo s answer).events.calls ≠ [] →
      (Coder.engine s).window = .empty := by
    intro answer hcalls
    cases answer <;> exact absurd rfl hcalls
  -- of all commands, only a pull makes calls
  cases command with
  | op op =>
    cases op with
    | feed data offset length => exact hoffer _ h
    | feedAll data => exact hoffer _ h
    | pull buffer offset length =>
      have hcalls : (pull Coder.draw s buffer offset length).events.calls ≠ [] := h
      by_cases hr : offset + length ≤ buffer.length
      · rw [(pull_of_inRange s hr).2.1] at hcalls
        exact (Coder.drawn s length).window_eq_empty hcalls
      · rw [pull_of_outOfRange s hr] at hcalls
        exact absurd rfl hcalls
    | close => exact absurd rfl h
  | loadDictionary data offset length => exact hoffer _ h
  | renew way => exact absurd (Renewable.calls_renew s way) h
  | ask => exact absurd rfl h

end Coders

/-- **The window of a pump.** Take a pump of any direction and sizes after any run of feeds, strokes,
draws, resets and resizes, with any transform for each stroke. Then

1. the buffers have the sizes for the direction, the chunk size and the bound that were set last;
2. an open window is not empty, ends within the result buffer, and shows that range of it;
3. whatever is done next, except for a stroke while bytes are owed: every range that is taken out of
   a buffer lies within the buffer; the window moves in one of the ways of `Pump.Turns`; and what is
   owed is not written over unless it is forgotten.

Encoders and decoders keep to that exception: whatever state they are in, they make a block call only
while the window is empty. -/
theorem windows_run (direction : Direction) (chunkSize bound : Nat) (ops : List Pump.Op.{u}) :
    let p := (Pump.new direction chunkSize bound).run ops
    let sizes := ops.foldl Pump.Op.latest (chunkSize, bound)
    (p.direction = direction ∧ p.chunkSize = sizes.1 ∧
        (p.stageSize, p.result.bytes.length) = bufferSizes direction p.chunkSize sizes.2) ∧
      (∀ read unread, p.window = .draining read unread →
        read < p.window.limit ∧ p.window.limit ≤ p.result.bytes.length ∧
          slice? p.result.bytes read p.window.limit = some unread) ∧
      (∀ op : Pump.Op.{u}, p.Allows op → p.Slices op ∧ p.Turns op (p.perform op).window ∧
        (p.isOwing = true → (p.perform op).window = .empty ∨
          (p.perform op).result = p.result ∧ (p.perform op).window.limit = p.window.limit)) ∧
      ∀ {σ : Type u} (c : BlockTransform σ),
        (∀ (e : Encoder c) command, (respond e command).events.calls ≠ [] → e.window = .empty) ∧
          ∀ (e : Decoder c) command, (respond e command).events.calls ≠ [] →
            e.window = .empty := by
  intro p sizes
  have hsound : p.Sound direction sizes := (Pump.sound_new direction chunkSize bound).run ops
  refine ⟨⟨hsound.direction, hsound.chunkSize, ?_⟩, ?_, ?_, ?_⟩
  · rw [p.result.length_bytes, hsound.fits.sizes, hsound.direction]
  · intro read unread hw
    have hshows := hsound.fits.window
    have hlimit := hshows.limit_le
    rw [hw] at hshows hlimit ⊢
    have hpos := List.length_pos_iff.mpr hshows.1
    refine ⟨?_, hlimit, hshows.slice?⟩
    simp only [Window.limit]
    omega
  · intro op hallows
    exact ⟨Pump.slices_of_fits hsound.fits op, Pump.turns hallows, Pump.keeps_owed hallows⟩
  · intro σ c
    exact ⟨fun e command h => window_eq_empty_of_calls_ne_nil h,
      fun e command h => window_eq_empty_of_calls_ne_nil h⟩

end Blockwise
