import Mathlib.Data.Finset.Basic
import Mathlib.Data.List.Infix
import Yola.Reasoning.Runs

/-!
# The outbound channel of a connection

Calls of `push`, `reply`, `closeWithProto` and `close` and the loop that writes to the socket, one step
between two points at which another goroutine can come in.  A section under the exclusive lock is one
step, which needs that no reader holds the lock; the wait group is the set of calls that it counts.  The
context of a call may be done at any time.
-/

namespace Yola.Tcp

open Reasoning

/-- `channelEvent`, with the call that sends it; the last frame is the one with a `done` channel. -/
structure Event (ι α : Type) where
  frame : α
  call : ι
  final : Bool
deriving DecidableEq

inductive Op (α : Type) where
  | push (f : α)
  | reply (f : α)
  | closeWithProto (f : α)
  | close
deriving DecidableEq

/-- What a call returns; `writer` is the error of the writer, and `context` that of the context. -/
inductive Outcome (ε : Type) where
  | ok
  | invalid
  | connectionClosed
  | sendQueueFull
  | context
  | writer (err : ε)
deriving DecidableEq

inductive Leave where
  | sent
  | cancelled
  | released
deriving DecidableEq

inductive Call (α ε : Type) where
  | idle
  /-- It holds the lock for reading. -/
  | pushing (f : α)
  | replying (f : α)
  /-- It has still to leave the wait group. -/
  | replied (f : α) (how : Leave)
  | waitingClosed (f : α)
  | closing (f : α)
  | sendingFinal (f : α)
  | waitingFinal (f : α)
  | rechecking (f : α) (contextDone : Bool)
  /-- It has still to close the channel. -/
  | abandoning (f : α)
  | returned (op : Op α) (r : Outcome ε)
deriving DecidableEq

inductive Dispatch (ι α ε : Type) where
  | waiting
  | writing (e : Event ι α)
  | reporting (e : Event ι α) (err : Option ε)
  | finishing (err : Option ε)
  | finished
deriving DecidableEq

/-- The channel `closing` is closed when `closed` is set, and `stop` when `stopped` is. -/
structure Channel (ι α ε : Type) where
  capacity : Nat
  outbound : List (Event ι α)
  closed : Bool
  stopped : Bool
  writerErr : Option ε
  readers : Finset ι
  replyWG : Finset ι
  calls : ι → Call α ε
  /-- What is in the `done` channel of a call. -/
  done : ι → Option (Option ε)
  writer : Dispatch ι α ε
  /-- All events that got into `outbound`, in order. -/
  accepted : List (Event ι α)
  /-- All events whose frames got onto the socket, in order. -/
  written : List (Event ι α)

namespace Channel

variable {ι α ε : Type}

def new (capacity : Nat) : Channel ι α ε where
  capacity := capacity
  outbound := []
  closed := false
  stopped := false
  writerErr := none
  readers := ∅
  replyWG := ∅
  calls _ := .idle
  done _ := none
  writer := .waiting
  accepted := []
  written := []

def stopLocked (s : Channel ι α ε) : Channel ι α ε := { s with closed := true, stopped := true }

def writerError (s : Channel ι α ε) : Outcome ε :=
  match s.writerErr with
  | some err => .writer err
  | none => .connectionClosed

/-- What the `done` channel makes a call return. -/
def ofDone : Option ε → Outcome ε
  | none => .ok
  | some err => .writer err

/-- A send that can proceed: there is room, or the writer waits for the event. -/
inductive Sends (s : Channel ι α ε) (e : Event ι α) : Channel ι α ε → Prop where
  | room (h : s.outbound.length < s.capacity) :
      Sends s e { s with outbound := s.outbound ++ [e], accepted := s.accepted ++ [e] }
  | handed (h : s.outbound = []) (waits : s.writer = .waiting) :
      Sends s e { s with writer := .writing e, accepted := s.accepted ++ [e] }

inductive Waits (valid : α → Bool) (s : Channel ι α ε) (i : ι) : Call α ε → Call α ε → Prop where
  | pushInvalid {f} (h : valid f = false) : Waits valid s i .idle (.returned (.push f) .invalid)
  | replyInvalid {f} (h : valid f = false) : Waits valid s i .idle (.returned (.reply f) .invalid)
  | closeInvalid {f} (h : valid f = false) :
      Waits valid s i .idle (.returned (.closeWithProto f) .invalid)
  | pushClosed {f} (h : valid f = true) (closed : s.closed = true) :
      Waits valid s i .idle (.returned (.push f) .connectionClosed)
  | replyClosed {f} (h : valid f = true) (lock : s.readers = ∅) (closed : s.closed = true) :
      Waits valid s i .idle (.waitingClosed f)
  | closeClosed {f} (h : valid f = true) (lock : s.readers = ∅) (closed : s.closed = true) :
      Waits valid s i .idle (.returned (.closeWithProto f) .connectionClosed)
  | replyCancelled {f} : Waits valid s i (.replying f) (.replied f .cancelled)
  | replyReleased {f} (closing : s.closed = true) :
      Waits valid s i (.replying f) (.replied f .released)
  | waitClosedStopped {f} (stop : s.stopped = true) :
      Waits valid s i (.waitingClosed f) (.returned (.reply f) .connectionClosed)
  | waitClosedCancelled {f} : Waits valid s i (.waitingClosed f) (.returned (.reply f) .context)
  | repliesDone {f} (wait : s.replyWG = ∅) : Waits valid s i (.closing f) (.sendingFinal f)
  | sendCancelled {f} : Waits valid s i (.sendingFinal f) (.abandoning f)
  | sendStopped {f} (stop : s.stopped = true) :
      Waits valid s i (.sendingFinal f) (.returned (.closeWithProto f) s.writerError)
  | finalDone {f err} (result : s.done i = some err) :
      Waits valid s i (.waitingFinal f) (.returned (.closeWithProto f) (ofDone err))
  | finalCancelled {f} : Waits valid s i (.waitingFinal f) (.rechecking f true)
  | finalStopped {f} (stop : s.stopped = true) : Waits valid s i (.waitingFinal f) (.rechecking f false)
  | recheckDone {f contextDone err} (result : s.done i = some err) :
      Waits valid s i (.rechecking f contextDone) (.returned (.closeWithProto f) (ofDone err))
  | recheckCancelled {f} (result : s.done i = none) :
      Waits valid s i (.rechecking f true) (.abandoning f)
  | recheckStopped {f} (result : s.done i = none) :
      Waits valid s i (.rechecking f false) (.returned (.closeWithProto f) s.writerError)

def afterReply (f : α) : Leave → Call α ε
  | .sent => .returned (.reply f) .ok
  | .cancelled => .returned (.reply f) .context
  | .released => .waitingClosed f

variable [DecidableEq ι]

def setCall (s : Channel ι α ε) (i : ι) (c : Call α ε) : Channel ι α ε :=
  { s with calls := Function.update s.calls i c }

inductive Step (valid : α → Bool) : Channel ι α ε → Unit → Channel ι α ε → Prop where
  | waits {s : Channel ι α ε} {i c} (h : Waits valid s i (s.calls i) c) :
      Step valid s () (s.setCall i c)
  | pushBegins {s : Channel ι α ε} {i f} (h : valid f = true) (idle : s.calls i = .idle)
      (isOpen : s.closed = false) :
      Step valid s () { s.setCall i (.pushing f) with readers := insert i s.readers }
  | pushSends {s s' : Channel ι α ε} {i f} (call : s.calls i = .pushing f)
      (sends : Sends s ⟨f, i, false⟩ s') :
      Step valid s () { s'.setCall i (.returned (.push f) .ok) with readers := s.readers.erase i }
  | pushFull {s : Channel ι α ε} {i f} (call : s.calls i = .pushing f)
      (full : s.capacity ≤ s.outbound.length) :
      Step valid s () { s.setCall i (.returned (.push f) .sendQueueFull) with readers := s.readers.erase i }
  | replyBegins {s : Channel ι α ε} {i f} (h : valid f = true) (idle : s.calls i = .idle)
      (lock : s.readers = ∅) (isOpen : s.closed = false) :
      Step valid s () { s.setCall i (.replying f) with replyWG := insert i s.replyWG }
  | replySends {s s' : Channel ι α ε} {i f} (call : s.calls i = .replying f)
      (sends : Sends s ⟨f, i, false⟩ s') : Step valid s () (s'.setCall i (.replied f .sent))
  | replyDone {s : Channel ι α ε} {i f how} (call : s.calls i = .replied f how) :
      Step valid s () { s.setCall i (afterReply f how) with replyWG := s.replyWG.erase i }
  | closeBegins {s : Channel ι α ε} {i f} (h : valid f = true) (idle : s.calls i = .idle)
      (lock : s.readers = ∅) (isOpen : s.closed = false) :
      Step valid s () { s.setCall i (.closing f) with closed := true }
  | closeSends {s s' : Channel ι α ε} {i f} (call : s.calls i = .sendingFinal f)
      (sends : Sends s ⟨f, i, true⟩ s') : Step valid s () (s'.setCall i (.waitingFinal f))
  | abandons {s : Channel ι α ε} {i f} (call : s.calls i = .abandoning f)
      (lock : s.readers = ∅) :
      Step valid s () (s.stopLocked.setCall i (.returned (.closeWithProto f) .context))
  | close {s : Channel ι α ε} {i} (idle : s.calls i = .idle) (lock : s.readers = ∅) :
      Step valid s () (s.stopLocked.setCall i (.returned .close .ok))
  | takes {s : Channel ι α ε} {e rest} (writer : s.writer = .waiting)
      (queue : s.outbound = e :: rest) :
      Step valid s () { s with outbound := rest, writer := .writing e }
  | stops {s : Channel ι α ε} (writer : s.writer = .waiting) (stop : s.stopped = true) :
      Step valid s () { s with writer := .finishing none }
  | writes {s : Channel ι α ε} {e : Event ι α} (writer : s.writer = .writing e) :
      Step valid s () { s with
        written := s.written ++ [e]
        writer := if e.final then .reporting e none else .waiting }
  | fails {s : Channel ι α ε} {e : Event ι α} {err : ε} (writer : s.writer = .writing e) :
      Step valid s () { s with
        writer := if e.final then .reporting e (some err) else .finishing (some err) }
  | reports {s : Channel ι α ε} {e : Event ι α} {err} (writer : s.writer = .reporting e err) :
      Step valid s () { s with
        done := Function.update s.done e.call (some err)
        writer := .finishing err }
  | finishes {s : Channel ι α ε} {err} (writer : s.writer = .finishing err)
      (lock : s.readers = ∅) :
      Step valid s () { s.stopLocked with writerErr := err, writer := .finished }

end Channel

end Yola.Tcp
