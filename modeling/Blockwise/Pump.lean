import Blockwise.Transform

/-!
# Pump — one chunk at a time through a block transform

A pump holds the input that still waits, and a result buffer with a window of bytes that are owed
to the caller. A *stroke* stages the next chunk of the waiting input and makes exactly one block
call; a *draw* hands out bytes of the window, in whatever sizes the caller asks for. When to make
a stroke is for those to decide who drive the pump.

The window is `empty`, `draining` or `poisoned`. A stroke opens an empty window over what the call
produced, if it produced anything, and poisons the pump if the call failed. A draw narrows an open
window from the left and leaves it empty when nothing is owed any more. Only a reset gets out of
`poisoned`.

The sizes of the two buffers follow from the direction. Encoding stages a chunk and makes room for
its largest encoding; decoding stages up to the largest encoding and makes room for a chunk. The
result buffer is never cleared, so a transform that reports bytes it did not write shows what the
buffer held before.

## Results

* `Pump.Fits` — the window of a pump shows what its result buffer holds. Every operation keeps it
  (`fits_new`, `Fits.feed`, `Fits.stroke`, `Fits.draw`, `Fits.reset`, `fits_resize`); a stroke does
  so whatever the transform does.
* `length_waiting_stroke`, `owed_stroke_pos` — a stroke that succeeds on waiting input stages
  at least one byte of it and leaves at least one byte owed.
-/

namespace Blockwise

universe u

/-! ## The window -/

/-- Which part of the result buffer is owed to the caller. -/
inductive Window where
  /-- Nothing is owed; the buffer may be written over. -/
  | empty
  /-- The `unread` bytes are owed. In the buffer, `read` bytes stand before them. -/
  | draining (read : Nat) (unread : Bytes)
  /-- A block call failed; nothing can be had until the pump is reset. -/
  | poisoned
deriving DecidableEq

namespace Window

/-- The window of a fresh result. -/
def ofProduced (produced : Bytes) : Window :=
  if produced.isEmpty then empty else draining 0 produced

/-- The bytes that are owed. -/
def unread : Window → Bytes
  | draining _ unread => unread
  | empty | poisoned => []

/-- How many bytes are owed. -/
def owed (w : Window) : Nat := w.unread.length

/-- Where the window ends in the buffer. -/
def limit : Window → Nat
  | draining read unread => read + unread.length
  | empty | poisoned => 0

/-- The window after at most `length` of the owed bytes were handed out. -/
def advance (length : Nat) : Window → Window
  | draining read unread =>
    match unread.drop length with
    | [] => empty
    | b :: bytes => draining (read + length) (b :: bytes)
  | w => w

/-- The window shows what a buffer holds, and owes something if it is open at all. -/
def Shows (buffer : Bytes) : Window → Prop
  | draining read unread => unread ≠ [] ∧ unread <+: buffer.drop read
  | empty | poisoned => True

/-- The structure of a window. -/
def outline : Window → Outline
  | empty => .atom "Empty"
  | draining read unread =>
    .record "Draining"
      [("read", .number read), ("limit", .number (draining read unread).limit)] true
  | poisoned => .atom "Poisoned"

theorem shows_ofProduced {produced buffer : Bytes} (h : produced <+: buffer) :
    (ofProduced produced).Shows buffer := by
  unfold ofProduced
  split
  · trivial
  · rename_i hne
    exact ⟨by simpa using hne, by simpa using h⟩

theorem unread_ofProduced (produced : Bytes) : (ofProduced produced).unread = produced := by
  unfold ofProduced
  split
  · rename_i h
    exact (List.isEmpty_iff.mp h).symm
  · rfl

theorem Shows.advance {buffer : Bytes} {w : Window} (h : w.Shows buffer) (length : Nat) :
    (w.advance length).Shows buffer := by
  cases w with
  | draining read unread =>
    simp only [Window.advance]
    split
    · trivial
    · rename_i b bytes hd
      obtain ⟨_, rest, hrest⟩ := h
      refine ⟨by simp, rest.drop (length - unread.length), ?_⟩
      rw [← hd, ← List.drop_drop, ← hrest, List.drop_append]
  | empty => trivial
  | poisoned => trivial

theorem unread_advance (length : Nat) (w : Window) :
    (w.advance length).unread = w.unread.drop length := by
  cases w with
  | draining read unread =>
    simp only [advance]
    split
    · rename_i h
      exact h.symm
    · rename_i h
      exact h.symm
  | empty => exact List.drop_nil.symm
  | poisoned => exact List.drop_nil.symm

theorem owed_advance (length : Nat) (w : Window) : (w.advance length).owed = w.owed - length := by
  rw [owed, unread_advance, List.length_drop, owed]

/-- An open window ends inside the buffer. -/
theorem Shows.limit_le {buffer : Bytes} {w : Window} (h : w.Shows buffer) :
    w.limit ≤ buffer.length := by
  cases w with
  | draining read unread =>
    have hlen := h.2.length_le
    have hpos := List.length_pos_iff.mpr h.1
    rw [List.length_drop] at hlen
    simp only [limit]
    omega
  | empty => exact Nat.zero_le _
  | poisoned => exact Nat.zero_le _

end Window

/-! ## The pump -/

/-- The sizes of the staging and the result buffer. A transform that claims to shorten every block
still gets room for a whole chunk. -/
def bufferSizes (direction : Direction) (chunkSize bound : Nat) : Nat × Nat :=
  match direction with
  | .encode => (chunkSize, max bound chunkSize)
  | .decode => (max bound chunkSize, chunkSize)

/-- Waiting input and a result buffer, for blocks in one direction. -/
structure Pump where
  direction : Direction
  /-- The size of a plain chunk. -/
  chunkSize : Nat
  /-- The most bytes that one stroke stages. -/
  stageSize : Nat
  /-- The input that waits to be staged. -/
  waiting : Bytes
  /-- The result buffer. Its size is the most that a block call may produce. -/
  result : Room
  window : Window

/-- The two counts of a successful stroke. -/
structure Stroke where
  /-- How many waiting bytes were staged. -/
  staged : Nat
  /-- How many bytes the block call produced. -/
  produced : Nat
deriving DecidableEq

namespace Pump

/-- A pump for chunks of a size, of which the largest encoding has `bound` bytes. -/
def new (direction : Direction) (chunkSize bound : Nat) : Pump where
  direction := direction
  chunkSize := chunkSize
  stageSize := (bufferSizes direction chunkSize bound).1
  waiting := []
  result := .zeroed (bufferSizes direction chunkSize bound).2
  window := .empty

/-- A pump with the sizes that a transform asks for in a state. -/
def forTransform {σ : Type u} (direction : Direction) (chunkSize : Nat) (c : BlockTransform σ)
    (state : σ) : Pump :=
  new direction chunkSize (c.bound state chunkSize)

/-- The most bytes that a block call may produce. -/
def roomSize (p : Pump) : Nat := p.result.size

/-- How many bytes are owed to the caller. -/
def owed (p : Pump) : Nat := p.window.owed

/-- Whether bytes are owed to the caller. -/
def isOwing (p : Pump) : Bool :=
  match p.window with
  | .draining .. => true
  | .empty | .poisoned => false

/-- Whether a block call failed since the last reset. -/
def isPoisoned (p : Pump) : Bool := p.window = .poisoned

/-- Whether nothing waits and nothing is owed. -/
def isIdle (p : Pump) : Bool := p.window = .empty && p.waiting.isEmpty

/-- Refuses a poisoned pump. -/
def requireUsable (p : Pump) : Except Fault Unit :=
  if p.isPoisoned then .error .poisoned else .ok ()

/-- The fault of an input that comes while earlier input still waits. -/
def stillWaiting : Fault :=
  .untimely "input is not needed: previous input is still pending"

/-- Takes the given range of the data as the next input. Refused if the range is not within the
data, if the pump is poisoned, or if earlier input still waits. -/
def feed (p : Pump) (data : Bytes) (offset length : Nat) : Except Fault Pump := do
  requireRange "input" data.length offset length
  p.requireUsable
  if p.waiting.isEmpty then .ok { p with waiting := (data.drop offset).take length }
  else .error stillWaiting

/-- The chunk that the next stroke stages. -/
def nextChunk (p : Pump) : Bytes := p.waiting.take p.stageSize

/-- The record of a block call on the next chunk with the given outcome. -/
def callRecord {σ : Type u} (p : Pump) (c : BlockTransform σ) (filling : Filling σ) :
    BlockCall where
  codec := c.name
  direction := p.direction
  source := p.nextChunk
  capacity := p.roomSize
  reported := filling.reported
  output := (filling.fill p.result).bytes.take filling.reported

/-- The pump after the recorded block call: the chunk is gone either way. -/
def afterCall {σ : Type u} (p : Pump) (filling : Filling σ) (call : BlockCall) : Pump :=
  { p with
    waiting := p.waiting.drop p.stageSize
    result := filling.fill p.result
    window := if call.failed then .poisoned else .ofProduced call.output }

/-- Stages the next chunk and makes one block call on it, even if nothing waits. To be used while
nothing is owed. A call that fails poisons the pump. -/
def stroke {σ : Type u} (p : Pump) (c : BlockTransform σ) (state : σ) :
    Step (Pump × σ) (Except Fault Stroke) :=
  if p.isPoisoned then .quiet (.error .poisoned) (p, state)
  else
    let filling := c.apply p.direction state p.result p.nextChunk
    let call := p.callRecord c filling
    { answer :=
        if call.failed then .error call.fault
        else .ok ⟨call.source.length, call.reported⟩
      next := (p.afterCall filling call, filling.state)
      events := filling.remarks.map .remark ++ [.block call] }

/-- Hands out at most `length` of the owed bytes. -/
def draw (p : Pump) (length : Nat) : Bytes × Pump :=
  (p.window.unread.take length, { p with window := p.window.advance length })

/-- Forgets the waiting input and the owed bytes, and the failure if there was one. -/
def reset (p : Pump) : Pump :=
  { p with waiting := [], window := .empty }

/-- Resets the pump to chunks of another size. A result buffer that already has the right size is
kept as it is. -/
def resize (p : Pump) (chunkSize bound : Nat) : Pump :=
  let sizes := bufferSizes p.direction chunkSize bound
  { p.reset with
    chunkSize := chunkSize
    stageSize := sizes.1
    result := if p.result.size = sizes.2 then p.result else .zeroed sizes.2 }

/-- The structure of a pump. -/
def outline (p : Pump) : Outline :=
  .record "ChunkPipe"
    [("direction", p.direction.outline), ("chunk_size", .number p.chunkSize),
      ("staging_capacity", .number p.stageSize),
      ("result_capacity", .number p.roomSize), ("pending", .number p.waiting.length),
      ("stage", p.window.outline)] true

/-! ## What an operation leaves alone -/

theorem of_feed_eq_ok {p q : Pump} {data : Bytes} {offset length : Nat}
    (h : p.feed data offset length = .ok q) :
    q = { p with waiting := (data.drop offset).take length } := by
  simp only [feed, bind, Except.bind] at h
  repeat' split at h
  all_goals cases h
  rfl

@[simp] theorem direction_stroke {σ : Type u} (p : Pump) (c : BlockTransform σ) (state : σ) :
    (p.stroke c state).next.1.direction = p.direction := by
  unfold stroke
  split <;> rfl

@[simp] theorem chunkSize_stroke {σ : Type u} (p : Pump) (c : BlockTransform σ) (state : σ) :
    (p.stroke c state).next.1.chunkSize = p.chunkSize := by
  unfold stroke
  split <;> rfl

@[simp] theorem direction_draw (p : Pump) (length : Nat) :
    (p.draw length).2.direction = p.direction := rfl

@[simp] theorem chunkSize_draw (p : Pump) (length : Nat) :
    (p.draw length).2.chunkSize = p.chunkSize := rfl

@[simp] theorem waiting_draw (p : Pump) (length : Nat) :
    (p.draw length).2.waiting = p.waiting := rfl

theorem owed_draw (p : Pump) (length : Nat) :
    (p.draw length).2.owed = p.owed - length :=
  Window.owed_advance ..

/-! ## The window shows the buffer -/

/-- The sizes of the buffers are those for the direction, the chunk size and the bound, and the
window shows what the result buffer holds. -/
structure Fits (p : Pump) (bound : Nat) : Prop where
  sizes : (p.stageSize, p.result.size) = bufferSizes p.direction p.chunkSize bound
  window : p.window.Shows p.result.bytes

theorem fits_new (direction : Direction) (chunkSize bound : Nat) :
    (new direction chunkSize bound).Fits bound where
  sizes := rfl
  window := trivial

theorem Fits.feed {p q : Pump} {bound offset length : Nat} {data : Bytes} (h : p.Fits bound)
    (hq : p.feed data offset length = .ok q) : q.Fits bound := by
  rw [of_feed_eq_ok hq]
  exact ⟨h.sizes, h.window⟩

theorem Fits.stroke {σ : Type u} {p : Pump} {bound : Nat} (h : p.Fits bound)
    (c : BlockTransform σ) (state : σ) : (p.stroke c state).next.1.Fits bound := by
  unfold Pump.stroke
  split
  · exact h
  · refine ⟨h.sizes, ?_⟩
    simp only [afterCall]
    split
    · trivial
    · exact Window.shows_ofProduced (List.take_prefix ..)

theorem Fits.draw {p : Pump} {bound : Nat} (h : p.Fits bound) (length : Nat) :
    (p.draw length).2.Fits bound :=
  ⟨h.sizes, h.window.advance length⟩

theorem Fits.reset {p : Pump} {bound : Nat} (h : p.Fits bound) : p.reset.Fits bound :=
  ⟨h.sizes, trivial⟩

theorem fits_resize (p : Pump) (chunkSize bound : Nat) : (p.resize chunkSize bound).Fits bound := by
  refine ⟨?_, trivial⟩
  simp only [Pump.resize, Pump.reset]
  split <;> simp [*]

/-! ## Strokes make progress -/

theorem stageSize_pos {p : Pump} {bound : Nat} (h : p.Fits bound) (hc : 0 < p.chunkSize) :
    0 < p.stageSize := by
  have hs := congrArg Prod.fst h.sizes
  simp only [bufferSizes] at hs
  split at hs <;> simp only at hs <;> omega

/-- A stroke takes the next chunk off the waiting input, whether it succeeds or not. -/
theorem length_waiting_stroke {σ : Type u} (p : Pump) (c : BlockTransform σ) (state : σ)
    (h : p.isPoisoned = false) :
    (p.stroke c state).next.1.waiting.length = p.waiting.length - p.stageSize := by
  simp [stroke, h, afterCall]

/-- A stroke that succeeds on waiting input leaves at least one byte owed. -/
theorem owed_stroke_pos {σ : Type u} {p : Pump} {c : BlockTransform σ} {state : σ}
    {counts : Stroke} (hp : p.waiting ≠ []) (hs : 0 < p.stageSize)
    (h : (p.stroke c state).answer = .ok counts) : 0 < (p.stroke c state).next.1.owed := by
  have hchunk : p.nextChunk ≠ [] := by
    intro e
    rcases List.take_eq_nil_iff.mp e with e | e
    · omega
    · exact hp e
  simp only [stroke] at h ⊢
  split at h
  · cases h
  · rename_i hu
    split at h
    · cases h
    · rename_i hf
      rw [Bool.not_eq_true] at hf
      obtain ⟨hpos, hle⟩ := BlockCall.failed_eq_false_iff.mp hf
      have hroom := (c.apply p.direction state p.result p.nextChunk).fill p.result |>.length_bytes
      simp only [hu, hf, Bool.false_eq_true, if_false, owed, afterCall, Window.owed,
        Window.unread_ofProduced]
      simp only [callRecord, roomSize, List.length_take] at hpos hle ⊢
      rw [hroom, Filling.size_fill]
      have := hpos hchunk
      omega

end Pump

end Blockwise
