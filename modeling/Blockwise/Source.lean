import Blockwise.Event

/-!
# Source — where bytes come from

A source is known by what it supplies to the coming reads: data, which is served in reads of at
most the requested size until it is used up; nothing, once, which readers take for the end; or a
failure. When the list is used up, every read gets nothing.

`readSteadily` is the way to read: an interrupted read is tried again.

## Results

* `weight_read_le` — a read that gets bytes leaves the source lighter by at least their number, and
  no read makes it heavier.
* `length_le_of_readSteadily` — no more is served than was asked for.
-/

namespace Blockwise

/-- What a source has for the coming reads. -/
inductive Supply where
  /-- Bytes, as many as a read asks for, until they are used up. -/
  | data (bytes : Bytes)
  /-- Nothing, for one read. -/
  | nothing
  /-- A failure, for one read. -/
  | refuse (failure : Failure)
deriving DecidableEq

/-- A source, by what it supplies. -/
structure Source where
  /-- The bytes that are left of the data in service. -/
  opened : Bytes
  /-- The supplies that come after. -/
  queue : List Supply
deriving DecidableEq

namespace Source

/-- A source of the given supplies. -/
def ofSupplies (queue : List Supply) : Source := ⟨[], queue⟩

/-- The answer to a read, and the source after it. Data without bytes is passed over. -/
def serve (requested : Nat) : Bytes → List Supply → Except Failure Bytes × Source
  | b :: bytes, queue =>
    (.ok ((b :: bytes).take requested), ⟨(b :: bytes).drop requested, queue⟩)
  | [], [] => (.ok [], ⟨[], []⟩)
  | [], .data bytes :: queue => serve requested bytes queue
  | [], .nothing :: queue => (.ok [], ⟨[], queue⟩)
  | [], .refuse failure :: queue => (.error failure, ⟨[], queue⟩)

/-- One read of at most `requested` bytes. -/
def read (source : Source) (requested : Nat) : Step Source (Except Failure Bytes) :=
  let served := serve requested source.opened source.queue
  ⟨served.1, served.2, [.read requested served.1]⟩

theorem length_le_of_serve {requested : Nat} {opened bytes : Bytes} {queue : List Supply}
    (h : (serve requested opened queue).1 = .ok bytes) : bytes.length ≤ requested := by
  fun_induction serve requested opened queue with
  | case1 b opened queue =>
    cases h
    exact List.length_take_le ..
  | case2 =>
    cases h
    exact Nat.zero_le _
  | case3 _ queue ih => exact ih h
  | case4 queue =>
    cases h
    exact Nat.zero_le _
  | case5 failure queue => cases h

/-! ## What is left -/

/-- What is left in a queue: each supply counts one, and each of its bytes counts one. -/
def queueWeight : List Supply → Nat
  | [] => 0
  | .data bytes :: queue => bytes.length + 1 + queueWeight queue
  | .nothing :: queue | .refuse _ :: queue => 1 + queueWeight queue

/-- What is left for coming reads. -/
def weight (source : Source) : Nat :=
  source.opened.length + queueWeight source.queue

theorem weight_serve_le {requested : Nat} {opened : Bytes} {queue : List Supply} :
    (serve requested opened queue).2.weight +
      (match (serve requested opened queue).1 with
        | .ok bytes => bytes.length
        | .error _ => 1) ≤ weight ⟨opened, queue⟩ := by
  fun_induction serve requested opened queue with
  | case1 b bytes queue =>
    simp only [weight, List.length_drop, List.length_take]
    omega
  | case2 => exact Nat.le_refl _
  | case3 bytes queue ih =>
    refine Nat.le_trans ih ?_
    simp only [weight, queueWeight, List.length_nil]
    omega
  | case4 queue =>
    simp only [weight, queueWeight, List.length_nil]
    omega
  | case5 failure queue =>
    simp only [weight, queueWeight, List.length_nil]
    omega

/-- A read leaves the source lighter by the bytes it gets, or by one if it fails. -/
theorem weight_read_le (source : Source) (requested : Nat) :
    (source.read requested).next.weight +
      (match (source.read requested).answer with
        | .ok bytes => bytes.length
        | .error _ => 1) ≤ source.weight :=
  weight_serve_le

/-! ## Reading through interruptions -/

/-- Reads until the answer is anything but an interruption. -/
def readSteadily (source : Source) (requested : Nat) : Step Source (Except Failure Bytes) :=
  let step := source.read requested
  match _h : step.answer with
  | .ok bytes => ⟨.ok bytes, step.next, step.events⟩
  | .error failure =>
    if failure.kind = .interrupted then (step.next.readSteadily requested).after step.events
    else ⟨.error failure, step.next, step.events⟩
termination_by source.weight
decreasing_by
  have hw := weight_read_le source requested
  rw [_h] at hw
  exact hw

theorem weight_readSteadily_le {source : Source} {requested : Nat} {bytes : Bytes}
    (h : (source.readSteadily requested).answer = .ok bytes) :
    (source.readSteadily requested).next.weight + bytes.length ≤ source.weight := by
  fun_induction readSteadily source requested with
  | case1 source _ _ hr =>
    have hw := weight_read_le source requested
    rw [show (source.read requested).answer = _ from hr] at hw
    cases h
    exact hw
  | case2 source _ _ hr _ ih =>
    have hw := weight_read_le source requested
    rw [show (source.read requested).answer = _ from hr] at hw
    exact Nat.le_trans (ih h) (Nat.le_of_succ_le hw)
  | case3 => cases h

theorem length_le_of_readSteadily {source : Source} {requested : Nat} {bytes : Bytes}
    (h : (source.readSteadily requested).answer = .ok bytes) : bytes.length ≤ requested := by
  fun_induction readSteadily source requested with
  | case1 source _ served hr =>
    cases h
    exact length_le_of_serve hr
  | case2 source _ _ _ _ ih => exact ih h
  | case3 => cases h

end Source

end Blockwise
