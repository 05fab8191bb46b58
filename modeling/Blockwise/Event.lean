import Blockwise.Bytes
import Blockwise.Channel
import Blockwise.Diagnostic

/-!
# Event — what an operation does beside answering

An operation may call a block transform, write to a sink, read from a source or leave a
diagnostic. It returns these events in the order in which they happened, next to its answer and
the state it leaves (`Step`). One ordered record serves all views of it: the block calls alone,
the bytes a sink took, the log.

## Results

* `failed_eq_false_iff` — a call succeeds exactly if it reports something for a block that is not
  empty, and no more than there was room for.
* `calls_append`, `accepted_append` — a view of a trace is the concatenation of the views of its
  parts.
-/

namespace Blockwise

/-- One call of a block transform. -/
structure BlockCall where
  /-- The name of the transform. -/
  codec : String
  direction : Direction
  /-- The block it was given. -/
  source : Bytes
  /-- The room it was given for the result. -/
  capacity : Nat
  /-- The number of bytes it reported. -/
  reported : Nat
  /-- What the room held after the call, up to the reported number of bytes. -/
  output : Bytes
deriving DecidableEq

namespace BlockCall

/-- A call fails if it reports nothing for a real block, or more than there was room for. -/
def failed (call : BlockCall) : Bool :=
  (call.reported == 0 && !call.source.isEmpty) || call.capacity < call.reported

theorem failed_eq_false_iff {call : BlockCall} :
    call.failed = false ↔
      (call.source ≠ [] → 0 < call.reported) ∧ call.reported ≤ call.capacity := by
  simp only [failed, Bool.or_eq_false_iff, Bool.and_eq_false_iff, Bool.not_eq_false',
    List.isEmpty_iff, decide_eq_false_iff_not, Nat.not_lt, beq_eq_false_iff_ne, ne_eq,
    Nat.pos_iff_ne_zero]
  constructor
  · rintro ⟨h | h, hle⟩
    · exact ⟨fun _ => h, hle⟩
    · exact ⟨fun hs => absurd h hs, hle⟩
  · rintro ⟨h, hle⟩
    refine ⟨?_, hle⟩
    by_cases hs : call.source = []
    · exact .inr hs
    · exact .inl (h hs)

/-- What a call contributes to the stream: its output, and nothing if it failed. -/
def contribution (call : BlockCall) : Bytes :=
  if call.failed then [] else call.output

/-- The fault that a failed call is reported as. -/
def fault (call : BlockCall) : Fault :=
  .blockFailed call.codec call.direction call.source.length call.reported call.capacity

/-- Every call is traced. -/
def traceLine (call : BlockCall) : Diagnostic where
  severity := .trace
  message := "block call"
  fields := [("codec", .text call.codec), ("direction", .text call.direction.name),
    ("staged", .number call.source.length), ("produced", .number call.reported)]

/-- A failed call is an error. -/
def errorLine (call : BlockCall) : Diagnostic where
  severity := .error
  message := "block call failed; stream is poisoned until reset"
  fields := [("codec", .text call.codec), ("direction", .text call.direction.name),
    ("staged", .number call.source.length), ("produced", .number call.reported),
    ("capacity", .number call.capacity)]

/-- The log lines of a call. -/
def log (call : BlockCall) : List Diagnostic :=
  if call.failed then [call.traceLine, call.errorLine] else [call.traceLine]

end BlockCall

/-- One thing that happened during an operation. -/
inductive Event where
  /-- A block transform was called. -/
  | block (call : BlockCall)
  /-- A sink was offered bytes and answered how many it took. -/
  | write (offered : Bytes) (answer : Except Failure Nat)
  /-- A sink was told to pass on what it holds. -/
  | flush (answer : Except Failure Unit)
  /-- A source was asked for at most `requested` bytes. -/
  | read (requested : Nat) (answer : Except Failure Bytes)
  /-- A diagnostic was left. -/
  | remark (diagnostic : Diagnostic)

namespace Event

/-- The block call, if the event is one. -/
def call? : Event → Option BlockCall
  | block call => some call
  | _ => none

/-- The bytes that the event handed to a sink. -/
def accepted : Event → Bytes
  | write offered (.ok count) => offered.take count
  | _ => []

/-- The log lines of an event. -/
def log : Event → List Diagnostic
  | block call => call.log
  | remark diagnostic => [diagnostic]
  | _ => []

end Event

/-! ## Traces -/

/-- Events in the order in which they happened. -/
abbrev Trace := List Event

namespace Trace

/-- The block calls of a trace. -/
def calls (trace : Trace) : List BlockCall :=
  trace.filterMap Event.call?

/-- The bytes that sinks took during a trace. -/
def accepted (trace : Trace) : Bytes :=
  trace.flatMap Event.accepted

/-- What the block calls of a trace contributed to the stream. -/
def contribution (trace : Trace) : Bytes :=
  trace.calls.flatMap BlockCall.contribution

/-- The log lines of a trace. -/
def log (trace : Trace) : List Diagnostic :=
  trace.flatMap Event.log

@[simp] theorem calls_append (a b : Trace) : calls (a ++ b) = calls a ++ calls b :=
  List.filterMap_append

@[simp] theorem accepted_append (a b : Trace) : accepted (a ++ b) = accepted a ++ accepted b :=
  List.flatMap_append

end Trace

/-! ## Steps -/

universe u v w

/-- The outcome of an operation: its answer, the state it leaves, and what happened on the way. -/
structure Step (S : Type u) (α : Type v) where
  answer : α
  next : S
  events : Trace

namespace Step

variable {S : Type u} {α : Type v}

/-- An operation that does nothing beside answering. -/
def quiet (answer : α) (next : S) : Step S α := ⟨answer, next, []⟩

/-- The same outcome, with events that happened before. -/
def after (step : Step S α) (earlier : Trace) : Step S α :=
  { step with events := earlier ++ step.events }

/-- The same outcome, which leaves another state in place of the one that it left. -/
def mapNext {T : Type w} (f : S → T) (step : Step S α) : Step T α :=
  ⟨step.answer, f step.next, step.events⟩

@[simp] theorem answer_after (step : Step S α) (earlier : Trace) :
    (step.after earlier).answer = step.answer := rfl

@[simp] theorem next_after (step : Step S α) (earlier : Trace) :
    (step.after earlier).next = step.next := rfl

@[simp] theorem events_after (step : Step S α) (earlier : Trace) :
    (step.after earlier).events = earlier ++ step.events := rfl

@[simp] theorem answer_mapNext {T : Type w} (f : S → T) (step : Step S α) :
    (step.mapNext f).answer = step.answer := rfl

@[simp] theorem next_mapNext {T : Type w} (f : S → T) (step : Step S α) :
    (step.mapNext f).next = f step.next := rfl

@[simp] theorem events_mapNext {T : Type w} (f : S → T) (step : Step S α) :
    (step.mapNext f).events = step.events := rfl

end Step

end Blockwise
