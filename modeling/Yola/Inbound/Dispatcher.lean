import Mathlib.Data.List.Infix
import Yola.Reasoning.Runs

/-!
# The dispatcher of a connection

`Dispatcher` with the read loop that owns it and the goroutine that it starts after authentication.  What a
handler answers, that it fails or panics, that a reply cannot be sent, and when the context of the connection
ends is left open.
-/

namespace Yola.Inbound

structure Protocol (Message Reply : Type) where
  /-- `OpHeartbeat`. -/
  heartbeat : Message → Bool
  /-- `OpAuthReply` with code zero. -/
  authenticated : Reply → Bool

inductive Reader (Message Reply : Type) where
  | reading
  /-- At the check of the context in `Handle`. -/
  | entering (m : Message)
  | handling (m : Message)
  /-- Before authentication: in the handler, and about to send its reply. -/
  | invoking (m : Message)
  | replying (m : Message) (r : Reply)
  /-- The same for a heartbeat after authentication. -/
  | beating (m : Message)
  | echoing (m : Message) (r : Reply)
  /-- About to call `Stop`. -/
  | leaving
  /-- In `Stop`, which has cancelled. -/
  | joining
  | stopped

inductive Worker (Message Reply : Type) where
  | absent
  | selecting
  /-- At the check of the context. -/
  | checking (m : Message)
  | running (m : Message)
  | replying (m : Message) (r : Reply)
  /-- A request has failed or panicked; about to cancel. -/
  | failing
  | closing
  | done

structure Dispatcher (Message Reply : Type) where
  /-- What has still to be read. -/
  inbound : List Message
  reader : Reader Message Reply
  worker : Worker Message Reply
  requests : List Message
  cancelled : Bool
  /-- The messages whose handler has been called, and those whose reply has been handed to the connection. -/
  invoked : List Message
  replied : List Message
  /-- A handler call other than for a heartbeat after authentication, or its reply, has failed. -/
  failed : Bool

namespace Dispatcher

variable {Message Reply : Type}

def new (stream : List Message) : Dispatcher Message Reply where
  inbound := stream
  reader := .reading
  worker := .absent
  requests := []
  cancelled := false
  invoked := []
  replied := []
  failed := false

/-- The goroutine has been started: authentication has succeeded. -/
def authenticated (d : Dispatcher Message Reply) : Bool :=
  match d.worker with
  | .absent => false
  | _ => true

variable (p : Protocol Message Reply) (capacity : Nat) (d : Dispatcher Message Reply)

inductive ReaderStep : Dispatcher Message Reply → Prop where
  | reads {m rest} (at_ : d.reader = .reading) (inbound : d.inbound = m :: rest) :
      ReaderStep { d with inbound := rest, reader := .entering m }
  /-- Reading fails. -/
  | fails (at_ : d.reader = .reading) : ReaderStep { d with reader := .leaving }
  | enters {m} (at_ : d.reader = .entering m) (live : d.cancelled = false) :
      ReaderStep { d with reader := .handling m }
  | refuses {m} (at_ : d.reader = .entering m) (cancelled : d.cancelled = true) :
      ReaderStep { d with reader := .leaving }
  | invokes {m} (at_ : d.reader = .handling m) (barrier : d.authenticated = false) :
      ReaderStep { d with reader := .invoking m, invoked := d.invoked ++ [m] }
  | answers {m r} (at_ : d.reader = .invoking m) :
      ReaderStep { d with reader := .replying m r }
  /-- The handler fails or panics. -/
  | errs {m} (at_ : d.reader = .invoking m) :
      ReaderStep { d with reader := .leaving, failed := true }
  | replies {m r} (at_ : d.reader = .replying m r) (denied : p.authenticated r = false) :
      ReaderStep { d with reader := .reading, replied := d.replied ++ [m] }
  | authenticates {m r} (at_ : d.reader = .replying m r)
      (granted : p.authenticated r = true) :
      ReaderStep { d with reader := .reading, worker := .selecting, replied := d.replied ++ [m] }
  | drops {m r} (at_ : d.reader = .replying m r) :
      ReaderStep { d with reader := .leaving, failed := true }
  | beats {m} (at_ : d.reader = .handling m) (passed : d.authenticated = true)
      (heartbeat : p.heartbeat m = true) :
      ReaderStep { d with reader := .beating m, invoked := d.invoked ++ [m] }
  | beaten {m r} (at_ : d.reader = .beating m) :
      ReaderStep { d with reader := .echoing m r }
  | echoes {m r} (at_ : d.reader = .echoing m r) :
      ReaderStep { d with reader := .reading, replied := d.replied ++ [m] }
  /-- A heartbeat fails or panics, and its reply cannot be sent. -/
  | misses {m} (at_ : d.reader = .beating m) : ReaderStep { d with reader := .leaving }
  | mutes {m r} (at_ : d.reader = .echoing m r) : ReaderStep { d with reader := .leaving }
  | enqueues {m} (at_ : d.reader = .handling m) (passed : d.authenticated = true)
      (request : p.heartbeat m = false) (room : d.requests.length < capacity) :
      ReaderStep { d with reader := .reading, requests := d.requests ++ [m] }
  /-- `ErrQueueFull`. -/
  | overflows {m} (at_ : d.reader = .handling m) (passed : d.authenticated = true)
      (request : p.heartbeat m = false) (full : capacity ≤ d.requests.length) :
      ReaderStep { d with reader := .leaving }
  | cancels (at_ : d.reader = .leaving) : ReaderStep { d with reader := .joining, cancelled := true }
  | stops (at_ : d.reader = .joining) (joined : d.worker = .absent ∨ d.worker = .done) :
      ReaderStep { d with reader := .stopped }

inductive WorkerStep : Dispatcher Message Reply → Prop where
  | takes {m rest} (at_ : d.worker = .selecting) (requests : d.requests = m :: rest) :
      WorkerStep { d with worker := .checking m, requests := rest }
  | quits (at_ : d.worker = .selecting) (cancelled : d.cancelled = true) :
      WorkerStep { d with worker := .done }
  | discards {m} (at_ : d.worker = .checking m) (cancelled : d.cancelled = true) :
      WorkerStep { d with worker := .done }
  | invokes {m} (at_ : d.worker = .checking m) (live : d.cancelled = false) :
      WorkerStep { d with worker := .running m, invoked := d.invoked ++ [m] }
  | answers {m r} (at_ : d.worker = .running m) :
      WorkerStep { d with worker := .replying m r }
  | replies {m r} (at_ : d.worker = .replying m r) :
      WorkerStep { d with worker := .selecting, replied := d.replied ++ [m] }
  /-- The handler fails or panics, and the reply cannot be sent. -/
  | errs {m} (at_ : d.worker = .running m) :
      WorkerStep { d with worker := .failing, failed := true }
  | drops {m r} (at_ : d.worker = .replying m r) :
      WorkerStep { d with worker := .failing, failed := true }
  | cancels (at_ : d.worker = .failing) : WorkerStep { d with worker := .closing, cancelled := true }
  | ends (at_ : d.worker = .closing) : WorkerStep { d with worker := .done }

end Dispatcher

inductive Step {Message Reply : Type} (p : Protocol Message Reply) (capacity : Nat)
    (d : Dispatcher Message Reply) : Unit → Dispatcher Message Reply → Prop where
  | reader {d'} (h : d.ReaderStep p capacity d') : Step p capacity d () d'
  | worker {d'} (h : d.WorkerStep d') : Step p capacity d () d'
  /-- The context of the connection ends. -/
  | cancels : Step p capacity d () { d with cancelled := true }

end Yola.Inbound
