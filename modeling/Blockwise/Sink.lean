import Blockwise.Event

/-!
# Sink — where bytes go

A sink is known by how it answers: each write takes some of the offered bytes or fails, each flush
succeeds or fails. The answers to the coming calls are listed in advance; when the list is used
up, everything is taken and every flush succeeds. So a sink of this kind stands for any sink, over
any finite number of calls.

`writeAll` is the way to hand over a stretch as a whole: it goes on after a short write, tries
again after an interruption, and gives up on a sink that takes nothing.

A write that fails uses up an answer, and one that takes bytes leaves fewer of them, so handing
over a stretch comes to an end whatever the answers are.
-/

namespace Blockwise

/-- How a sink answers a write. -/
inductive Acceptance where
  /-- It takes everything. -/
  | all
  /-- It takes at most so many bytes. -/
  | upTo (count : Nat)
  /-- It takes nothing and fails. -/
  | refuse (failure : Failure)
deriving DecidableEq

/-- The answer to a write of so many bytes. -/
def Acceptance.answer (offered : Nat) : Acceptance → Except Failure Nat
  | all => .ok offered
  | upTo count => .ok (min count offered)
  | refuse failure => .error failure

/-- A sink, by its answers to the coming calls. -/
structure Sink where
  writes : List Acceptance
  /-- The failures of the coming flushes, `none` where a flush succeeds. -/
  flushes : List (Option Failure)
deriving DecidableEq

namespace Sink

/-- One write: the sink answers how many of the bytes it takes. -/
def write (sink : Sink) (bytes : Bytes) : Step Sink (Except Failure Nat) :=
  let answer := (sink.writes.headD .all).answer bytes.length
  ⟨answer, { sink with writes := sink.writes.tail }, [.write bytes answer]⟩

/-- One flush. -/
def flush (sink : Sink) : Step Sink (Except Failure Unit) :=
  let answer : Except Failure Unit :=
    match sink.flushes with
    | some failure :: _ => .error failure
    | _ => .ok ()
  ⟨answer, { sink with flushes := sink.flushes.tail }, [.flush answer]⟩

/-- The failure of a sink that takes nothing. -/
def takesNothing : Failure := ⟨.writeZero, "failed to write whole buffer"⟩

theorem writes_ne_nil_of_error {sink : Sink} {bytes : Bytes} {failure : Failure}
    (h : (sink.write bytes).answer = .error failure) : sink.writes ≠ [] := by
  intro e
  simp [write, e, Acceptance.answer] at h

/-- Writes until the sink has taken all of the bytes. -/
def writeAll (sink : Sink) (bytes : Bytes) : Step Sink (Except Failure Unit) :=
  if bytes.isEmpty then .quiet (.ok ()) sink
  else
    let step := sink.write bytes
    match _h : step.answer with
    | .ok 0 => ⟨.error takesNothing, step.next, step.events⟩
    | .ok (count + 1) => (step.next.writeAll (bytes.drop (count + 1))).after step.events
    | .error failure =>
      if failure.kind = .interrupted then (step.next.writeAll bytes).after step.events
      else ⟨.error failure, step.next, step.events⟩
termination_by sink.writes.length + bytes.length
decreasing_by
  · rename_i hne
    have hlen : 0 < bytes.length := by
      simpa [List.length_pos_iff] using hne
    simp only [write, List.length_tail, List.length_drop]
    omega
  · have hlen := List.length_pos_iff.mpr (writes_ne_nil_of_error _h)
    simp only [write, List.length_tail]
    omega

end Sink

end Blockwise
