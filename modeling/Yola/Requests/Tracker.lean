import Mathlib.Logic.Function.Basic
import Yola.Reasoning.Runs

/-!
# The requests of a client

`Tracker` with all calls of `Request`, the read loop that resolves responses, and `shutdownWith`.  Every
operation on the `sync.Map` is one step, and so is everything that is done under `sendMu`.  A send on the
`done` channel of a request is a step of its own, which needs room in the channel.
-/

namespace Yola.Requests

open Function

/-- The two clients differ in who closes the connection: with TCP only `shutdownWith`, with WebSocket the
heartbeat and the writer too. -/
inductive Transport where
  | tcp
  | websocket
deriving DecidableEq

structure Response (Body : Type) where
  seq : Int
  code : Int
  body : Body

inductive Outcome (Body : Type) where
  | response (r : Response Body)
  /-- The error of `Fail`. -/
  | failed
  /-- The error of the context of the call. -/
  | expired

/-- One round of `nextSequence`: the counter, and the number unless it is zero. -/
def nextSequence (seq : UInt32) : UInt32 × Option Int :=
  let n := (seq + 1) &&& 0x7fffffff
  (seq + 1, if n = 0 then none else some n.toNat)

inductive Pc (Body : Type) where
  | idle
  /-- In `Begin`, about to draw a number, and about to store it. -/
  | drawing
  | storing
  | sending
  /-- The send has failed; about to call `Cancel`. -/
  | cancelling
  | waiting
  /-- The context has ended, but somebody else has the request: waiting for what they send. -/
  | draining
  /-- With what came of the request, or with the error of the send. -/
  | returned (outcome : Option (Outcome Body))

structure Request (Body : Type) where
  pc : Pc Body
  seq : Int
  /-- What is in the channel. -/
  done : Option (Outcome Body)
  /-- What has ever been sent on the channel, and the error of the context if the call returned it. -/
  outcomes : List (Outcome Body)

def Request.new (Body : Type) : Request Body := ⟨.idle, 0, none, []⟩

/-- Somebody has taken the request out of the map and is about to send. -/
structure Delivery (Body : Type) where
  request : Nat
  outcome : Outcome Body

/-- The delivery is one of `Fail`. -/
def Delivery.failing {Body : Type} (d : Delivery Body) : Bool :=
  match d.outcome with
  | .failed => true
  | _ => false

inductive Shutdown where
  | none
  | begun
  /-- The connection is closed for senders. -/
  | marked
  /-- In `Fail`, with the map at the start of `Range`. -/
  | failing (snapshot : Int → Option Nat)
  | finished

structure State (Body : Type) where
  seq : UInt32
  pending : Int → Option Nat
  requests : Nat → Request Body
  deliveries : List (Delivery Body)
  /-- `done` is closed, or the channel is. -/
  closed : Bool
  shutdown : Shutdown

namespace State

variable {Body : Type}

def new : State Body where
  seq := 0
  pending _ := none
  requests _ := .new Body
  deliveries := []
  closed := false
  shutdown := .none

variable (s : State Body)

def set (id : Nat) (r : Request Body) : State Body := { s with requests := update s.requests id r }

def compareAndDelete (seq : Int) (id : Nat) : State Body :=
  if s.pending seq = some id then { s with pending := update s.pending seq none } else s

end State

variable {Body : Type}

inductive CallStep (transport : Transport) (s : State Body) (id : Nat) : State Body → Prop where
  | begins (idle : (s.requests id).pc = .idle) (isOpen : transport = .websocket → s.closed = false) :
      CallStep transport s id (s.set id { s.requests id with pc := .drawing })
  | draws {seq} (at_ : (s.requests id).pc = .drawing) (drawn : (nextSequence s.seq).2 = some seq) :
      CallStep transport s id
        { s.set id { s.requests id with pc := .storing, seq := seq } with seq := (nextSequence s.seq).1 }
  | redraws (at_ : (s.requests id).pc = .drawing) (drawn : (nextSequence s.seq).2 = none) :
      CallStep transport s id { s with seq := (nextSequence s.seq).1 }
  /-- `LoadOrStore` stores. -/
  | stores (at_ : (s.requests id).pc = .storing) (absent : s.pending (s.requests id).seq = none) :
      CallStep transport s id
        { s.set id { s.requests id with pc := .sending } with
          pending := update s.pending (s.requests id).seq (some id) }
  | retries {other} (at_ : (s.requests id).pc = .storing)
      (present : s.pending (s.requests id).seq = some other) :
      CallStep transport s id (s.set id { s.requests id with pc := .drawing })
  | sends (at_ : (s.requests id).pc = .sending) (isOpen : s.closed = false) :
      CallStep transport s id (s.set id { s.requests id with pc := .waiting })
  /-- The connection is closed, the frame is not valid or the queue is full. -/
  | refuses (at_ : (s.requests id).pc = .sending) :
      CallStep transport s id (s.set id { s.requests id with pc := .cancelling })
  | cancels (at_ : (s.requests id).pc = .cancelling) :
      CallStep transport s id
        ((s.compareAndDelete (s.requests id).seq id).set id { s.requests id with pc := .returned none })
  | receives {o} (at_ : (s.requests id).pc = .waiting ∨ (s.requests id).pc = .draining)
      (ready : (s.requests id).done = some o) :
      CallStep transport s id (s.set id { s.requests id with pc := .returned (some o), done := none })
  | expires (at_ : (s.requests id).pc = .waiting) (mine : s.pending (s.requests id).seq = some id) :
      CallStep transport s id
        ((s.compareAndDelete (s.requests id).seq id).set id
          { s.requests id with
            pc := .returned (some .expired)
            outcomes := (s.requests id).outcomes ++ [.expired] })
  | drains (at_ : (s.requests id).pc = .waiting) (taken : s.pending (s.requests id).seq ≠ some id) :
      CallStep transport s id (s.set id { s.requests id with pc := .draining })

/-- The steps of everybody else. -/
inductive OtherStep (transport : Transport) (s : State Body) : State Body → Prop where
  /-- `LoadAndDelete` of `Resolve` finds a request. -/
  | resolves {r : Response Body} {id : Nat} (present : s.pending r.seq = some id) :
      OtherStep transport s { s with
        pending := update s.pending r.seq none
        deliveries := s.deliveries ++ [⟨id, .response r⟩] }
  | delivers {d : Delivery Body} {before after : List (Delivery Body)}
      (mem : s.deliveries = before ++ d :: after) (room : (s.requests d.request).done = none) :
      OtherStep transport s
        { s.set d.request
            { s.requests d.request with
              done := some d.outcome
              outcomes := (s.requests d.request).outcomes ++ [d.outcome] } with
          deliveries := before ++ after }
  | shuts (at_ : s.shutdown = .none) : OtherStep transport s { s with shutdown := .begun }
  | marks (at_ : s.shutdown = .begun) : OtherStep transport s { s with closed := true, shutdown := .marked }
  /-- The heartbeat, the writer or the context closes the channel. -/
  | closes (websocket : transport = .websocket) : OtherStep transport s { s with closed := true }
  | ranges (at_ : s.shutdown = .marked) : OtherStep transport s { s with shutdown := .failing s.pending }
  /-- `Range` visits a request that is in the map.  It has sent to those that it has visited before. -/
  | fails {snapshot : Int → Option Nat} {seq : Int} {id : Nat} (at_ : s.shutdown = .failing snapshot)
      (sent : ∀ d ∈ s.deliveries, d.failing = false) (present : s.pending seq = some id) :
      OtherStep transport s { s with
        pending := update s.pending seq none
        deliveries := s.deliveries ++ [⟨id, .failed⟩] }
  /-- `Range` has visited all that was in the map from its start to its end. -/
  | finishes {snapshot : Int → Option Nat} (at_ : s.shutdown = .failing snapshot)
      (sent : ∀ d ∈ s.deliveries, d.failing = false)
      (visited : ∀ seq id, snapshot seq = some id → s.pending seq ≠ some id) :
      OtherStep transport s { s with shutdown := .finished }

inductive Step (transport : Transport) (s : State Body) : Unit → State Body → Prop where
  | call {id s'} (h : CallStep transport s id s') : Step transport s () s'
  | other {s'} (h : OtherStep transport s s') : Step transport s () s'

end Yola.Requests
