import Yola.Reasoning.Ledger
import Yola.Reasoning.Runs

/-!
# The payload counter of a TCP channel

`push`, `reply`, `closeWithProto`, `close` and `next` of the TCP channel, with a step for each access to
`pendingPayloadBytes`.  A section under the exclusive lock is one step, which needs that no push holds the
lock.  A call that returns before it touches the counter is left out, and so is what a reply waits for
after it.
-/

namespace Yola.Sending.Tcp

open Reasoning

variable {Frame : Type}

/-- `channelEvent`: the last frame is the one with a `done` channel. -/
structure Event (Frame : Type) where
  proto : Frame
  final : Bool

/-- Where a call is.  A push holds the lock for reading until it returns. -/
inductive Call (Frame : Type) where
  | pushing (p : Frame)
  | pushReserved (p : Frame)
  /-- The queue is full. -/
  | pushRefused (p : Frame)
  | pushWithdrawn
  /-- In the wait group, as the next three. -/
  | replying (p : Frame)
  | replyReserved (p : Frame)
  /-- The context is done or the channel is closing. -/
  | replyRefused (p : Frame)
  | replyEnding
  /-- Waits for the replies. -/
  | closing (p : Frame)
  | sendingFinal (p : Frame)
  | finalReserved (p : Frame)
  /-- The context is done, or the writer has stopped. -/
  | finalRefused (p : Frame) (contextDone : Bool)
  | waitingFinal
  /-- About to close the channel because the context is done. -/
  | abandoning
  | returned

namespace Call

def reads : Call Frame → Bool
  | .pushing _ | .pushReserved _ | .pushRefused _ | .pushWithdrawn => true
  | _ => false

/-- It is in the wait group. -/
def replies : Call Frame → Bool
  | .replying _ | .replyReserved _ | .replyRefused _ | .replyEnding => true
  | _ => false

/-- What it has added to the counter and neither sent nor withdrawn. -/
def reserved (size : Frame → Nat) : Call Frame → Nat
  | .pushReserved p | .pushRefused p | .replyReserved p | .replyRefused p | .finalReserved p
  | .finalRefused p _ => size p
  | _ => 0

end Call

inductive Writer (Frame : Type) where
  | next
  | writing (event : Event Frame)
  | finishing
  | finished

structure Channel (Frame : Type) where
  /-- `outbound`, `pendingPayloadBytes`, the calls, and the event in `next`. -/
  ledger : Ledger (Event Frame) (Call Frame)
  closed : Bool
  stopped : Bool
  queueDropped : Nat
  writer : Writer Frame

namespace Channel

def newChannel (queueSize : Nat) : Channel Frame where
  ledger := .new queueSize
  closed := false
  stopped := false
  queueDropped := 0
  writer := .next

variable (c : Channel Frame)

def Free : Prop := ∀ call ∈ c.ledger.producers, call.reads = false

def stopLocked : Channel Frame := { c with closed := true, stopped := true }

variable (size : Frame → Nat)

inductive Proceeds : Call Frame → Effect (Event Frame) → Call Frame → Prop where
  | pushReserves {p} : Proceeds (.pushing p) (.adds (size p)) (.pushReserved p)
  | pushSends {p} : Proceeds (.pushReserved p) (.sends ⟨p, false⟩) .returned
  | pushRefused {p} (full : c.ledger.capacity ≤ c.ledger.queue.length) :
      Proceeds (.pushReserved p) .quiet (.pushRefused p)
  | pushWithdraws {p} : Proceeds (.pushRefused p) (.subtracts (size p)) .pushWithdrawn
  | replyReserves {p} : Proceeds (.replying p) (.adds (size p)) (.replyReserved p)
  | replySends {p} : Proceeds (.replyReserved p) (.sends ⟨p, false⟩) .replyEnding
  | replyCancelled {p} : Proceeds (.replyReserved p) .quiet (.replyRefused p)
  | replyReleased {p} (closing : c.closed = true) :
      Proceeds (.replyReserved p) .quiet (.replyRefused p)
  | replyWithdraws {p} : Proceeds (.replyRefused p) (.subtracts (size p)) .replyEnding
  | replyDone : Proceeds .replyEnding .quiet .returned
  | repliesDone {p} (wait : ∀ call ∈ c.ledger.producers, call.replies = false) :
      Proceeds (.closing p) .quiet (.sendingFinal p)
  | finalReserves {p} : Proceeds (.sendingFinal p) (.adds (size p)) (.finalReserved p)
  | finalSends {p} : Proceeds (.finalReserved p) (.sends ⟨p, true⟩) .waitingFinal
  | finalCancelled {p} : Proceeds (.finalReserved p) .quiet (.finalRefused p true)
  | finalStopped {p} (stop : c.stopped = true) :
      Proceeds (.finalReserved p) .quiet (.finalRefused p false)
  | finalAbandons {p} : Proceeds (.finalRefused p true) (.subtracts (size p)) .abandoning
  | finalWithdraws {p} : Proceeds (.finalRefused p false) (.subtracts (size p)) .returned
  /-- `waitFinal` has a result or sees that the writer has stopped, or its context is done. -/
  | finalDone : Proceeds .waitingFinal .quiet .returned
  | finalExpires : Proceeds .waitingFinal .quiet .abandoning

theorem Proceeds.lawful {c : Channel Frame} {size : Frame → Nat} {call call' : Call Frame}
    {effect : Effect (Event Frame)} (h : c.Proceeds size call effect call') :
    Ledger.Lawful (fun e => size e.proto) (Call.reserved size) call call' effect := by
  cases h with
  | pushReserves | replyReserves | finalReserves
  | pushWithdraws | replyWithdraws | finalAbandons | finalWithdraws
  | pushSends | replySends | finalSends => exact (Nat.zero_add _).symm
  | pushRefused | replyCancelled | replyReleased | replyDone | repliesDone | finalCancelled | finalStopped
  | finalDone | finalExpires => rfl

/-- Everything that can happen to a channel; `valid` is `validateFrame`. -/
inductive Step (valid : Frame → Bool) : Unit → Channel Frame → Prop where
  | pushes {p} (h : valid p = true) (isOpen : c.closed = false) :
      Step valid () { c with ledger := c.ledger.arrive (.pushing p) }
  | replies {p} (h : valid p = true) (lock : c.Free) (isOpen : c.closed = false) :
      Step valid () { c with ledger := c.ledger.arrive (.replying p) }
  | closes {p} (h : valid p = true) (lock : c.Free) (isOpen : c.closed = false) :
      Step valid () { c with ledger := c.ledger.arrive (.closing p), closed := true }
  | proceeds {call call' effect ledger} (h : c.Proceeds size call effect call')
      (produces : c.ledger.Produces (c.writer = .next) call call' effect ledger) :
      Step valid () { c with ledger := ledger }
  | drops {ledger}
      (produces : c.ledger.Produces (c.writer = .next) .pushWithdrawn .returned .quiet ledger) :
      Step valid () { c with ledger := ledger, queueDropped := c.queueDropped + 1 }
  | abandons {ledger} (lock : c.Free)
      (produces : c.ledger.Produces (c.writer = .next) .abandoning .returned .quiet ledger) :
      Step valid () { c.stopLocked with ledger := ledger }
  | close (lock : c.Free) : Step valid () c.stopLocked
  | receives {event rest} (writer : c.writer = .next)
      (queue : c.ledger.queue = event :: rest) (free : c.ledger.received = none) :
      Step valid () { c with ledger := { c.ledger with queue := rest, received := some event } }
  | settles {event : Event Frame} (writer : c.writer = .next) (received : c.ledger.received = some event) :
      Step valid () { c with
        ledger := { c.ledger with received := none, counter := c.ledger.counter - size event.proto }
        writer := .writing event }
  | stops (writer : c.writer = .next) (free : c.ledger.received = none) (stop : c.stopped = true) :
      Step valid () { c with writer := .finishing }
  | writes {event : Event Frame} (writer : c.writer = .writing event) (more : event.final = false) :
      Step valid () { c with writer := .next }
  /-- The last frame has been written, or a write has failed. -/
  | ends {event} (writer : c.writer = .writing event) :
      Step valid () { c with writer := .finishing }
  | finishes (writer : c.writer = .finishing) (lock : c.Free) :
      Step valid () { c.stopLocked with writer := .finished }

variable {c} {size} {valid : Frame → Bool} {c' : Channel Frame}

theorem Step.balanced (h : c.Step size valid () c')
    (hc : c.ledger.Balanced (fun e => size e.proto) (Call.reserved size)) :
    c'.ledger.Balanced (fun e => size e.proto) (Call.reserved size) := by
  cases h with
  | pushes | replies | closes => exact hc.arrive rfl
  | proceeds h produces => exact hc.produces produces h.lawful
  | drops produces | abandons _ produces => exact hc.produces produces rfl
  | receives _ queue free => exact hc.consumes (.receives queue free)
  | settles _ received => exact hc.consumes (.settles received)
  | close | stops | writes | ends | finishes => exact hc

theorem balanced {queueSize : Nat} (h : Reachable (· = newChannel queueSize) (fun c => Step c size valid) c) :
    c.ledger.Balanced (fun e => size e.proto) (Call.reserved size) := by
  apply h.invariant (P := fun c => c.ledger.Balanced (fun e => size e.proto) (Call.reserved size))
  · rintro _ rfl
    exact .new queueSize
  · rintro c ⟨⟩ c' hstep hc
    exact hstep.balanced hc

end Channel

end Yola.Sending.Tcp
