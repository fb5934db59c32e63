import Mathlib.Data.List.Infix
import Mathlib.Logic.Function.Basic
import Yola.Reasoning.Runs

/-!
# The callback queue

`Queue` with its one worker, and everybody who submits callbacks, stops the queue, begins its termination or
releases the terminal callbacks.  What a method does under the lock is one step.  Between the start and the
end of a callback everything can happen, also what the callback itself does to the queue; that it panics is
one way to end.  The queue can also be closed after `next` has taken a callback and before it is called.
-/

namespace Yola.Callbacks

open Reasoning

variable {α : Type}

inductive Error where
  | closed
  | full
  | nilCallback
deriving DecidableEq

/-- The queue.  Terminal callbacks stand with the number of the `BeginTermination` that they come from; the
first of them in the source only waits for the release. -/
structure Queue (α : Type) where
  capacity : Nat
  /-- There is a token in the wake channel. -/
  wake : Bool
  wakeClosed : Bool
  tasks : List α
  terminals : Option (Nat × List α)
  closed : Bool

inductive Next (α : Type) where
  | callback (a : α)
  | empty
  | closed (terminals : Option (Nat × List α))

namespace Queue

variable (q : Queue α)

def new (capacity : Nat) : Queue α where
  capacity := capacity
  wake := false
  wakeClosed := false
  tasks := []
  terminals := none
  closed := false

/-- Nil callbacks are `none`. -/
def hasNilCallback (callbacks : List (Option α)) : Bool := callbacks.any Option.isNone

def submitBatch (callbacks : List (Option α)) : Option Error × Queue α :=
  if hasNilCallback callbacks then (some .nilCallback, q)
  else if q.closed then (some .closed, q)
  else if q.capacity < q.tasks.length + callbacks.length then (some .full, q)
  else (none, { q with
    tasks := q.tasks ++ callbacks.filterMap id
    wake := q.wake || !callbacks.isEmpty })

def closeWithTerminals (terminals : Option (Nat × List α)) : Bool × Queue α :=
  if q.closed then (false, q)
  else (true, { q with closed := true, tasks := [], terminals := terminals, wakeClosed := true })

def next : Next α × Queue α :=
  if q.closed then (.closed q.terminals, { q with terminals := none })
  else
    match q.tasks with
    | [] => (.empty, q)
    | a :: rest => (.callback a, { q with tasks := rest })

/-- The worker can receive from the wake channel. -/
def readable : Bool := q.wake || q.wakeClosed

end Queue

inductive Worker (α : Type) where
  | looping
  /-- `next` has taken the callback, and it has not been called. -/
  | holding (a : α)
  | running (a : α)
  /-- About to receive from the wake channel. -/
  | waiting
  /-- Waiting for the release of a termination. -/
  | gated (call : Nat) (terminals : List α)
  | ending (call : Nat) (rest : List α)
  | terminating (call : Nat) (rest : List α)
  | ended

/-- Where the function is that `BeginTermination` has returned.  If the queue was closed before, it runs the
terminal callbacks itself. -/
inductive Release (α : Type) where
  | held
  | invoking (rest : List α)
  | calling (rest : List α)
  | returned

structure Termination (α : Type) where
  terminals : List α
  /-- It has closed the queue. -/
  closes : Bool
  release : Release α
  /-- The terminal callbacks that have been started. -/
  ran : List α

structure System (α : Type) where
  queue : Queue α
  worker : Worker α
  calls : Nat
  terminations : Nat → Option (Termination α)
  /-- All callbacks that `SubmitBatch` has accepted, that have started, and that have ended. -/
  accepted : List α
  started : List α
  finished : List α
  /-- What the worker has started, the terminal callbacks too. -/
  invoked : List α

namespace System

def new (capacity : Nat) : System α where
  queue := .new capacity
  worker := .looping
  calls := 0
  terminations _ := none
  accepted := []
  started := []
  finished := []
  invoked := []

variable (s : System α)

def setTermination (call : Nat) (t : Termination α) : System α :=
  { s with terminations := Function.update s.terminations call (some t) }

def submitBatch (callbacks : List (Option α)) : System α :=
  { s with
    queue := (s.queue.submitBatch callbacks).2
    accepted := s.accepted ++
      if (s.queue.submitBatch callbacks).1 = none then callbacks.filterMap id else [] }

def stop : System α := { s with queue := (s.queue.closeWithTerminals none).2 }

/-- `BeginTermination` with callbacks, none of them nil. -/
def beginTermination (terminals : List α) : System α :=
  { s.setTermination s.calls
      { terminals := terminals
        closes := (s.queue.closeWithTerminals (some (s.calls, terminals))).1
        release := .held
        ran := [] } with
    queue := (s.queue.closeWithTerminals (some (s.calls, terminals))).2
    calls := s.calls + 1 }

inductive WorkerStep : System α → Prop where
  | takes {a q} (at_ : s.worker = .looping) (next : s.queue.next = (.callback a, q)) :
      WorkerStep { s with queue := q, worker := .holding a }
  | invokes {a} (at_ : s.worker = .holding a) :
      WorkerStep { s with
        worker := .running a
        started := s.started ++ [a]
        invoked := s.invoked ++ [a] }
  | finishes {a} (at_ : s.worker = .running a) :
      WorkerStep { s with worker := .looping, finished := s.finished ++ [a] }
  | rests {q} (at_ : s.worker = .looping) (next : s.queue.next = (.empty, q)) :
      WorkerStep { s with queue := q, worker := .waiting }
  | wakes (at_ : s.worker = .waiting) (readable : s.queue.readable = true) :
      WorkerStep { s with queue := { s.queue with wake := false }, worker := .looping }
  | stops {q} (at_ : s.worker = .looping) (next : s.queue.next = (.closed none, q)) :
      WorkerStep { s with queue := q, worker := .ended }
  | closes {call terminals q} (at_ : s.worker = .looping)
      (next : s.queue.next = (.closed (some (call, terminals)), q)) :
      WorkerStep { s with queue := q, worker := .gated call terminals }
  | opens {call terminals} {t : Termination α} (at_ : s.worker = .gated call terminals)
      (record : s.terminations call = some t) (released : t.release = .returned) :
      WorkerStep { s with worker := .ending call terminals }
  | starts {call a rest} {t : Termination α} (at_ : s.worker = .ending call (a :: rest))
      (record : s.terminations call = some t) :
      WorkerStep { s.setTermination call { t with ran := t.ran ++ [a] } with
        worker := .terminating call rest
        invoked := s.invoked ++ [a] }
  | goesOn {call rest} (at_ : s.worker = .terminating call rest) :
      WorkerStep { s with worker := .ending call rest }
  | ends {call} (at_ : s.worker = .ending call []) : WorkerStep { s with worker := .ended }

inductive CallStep : System α → Prop where
  | submits (callbacks) : CallStep (s.submitBatch callbacks)
  /-- `Stop`, and `BeginTermination` without callbacks or with a nil one. -/
  | stops : CallStep s.stop
  | begins {terminals} (nonempty : terminals ≠ []) : CallStep (s.beginTermination terminals)
  | releases {call} {t : Termination α} (record : s.terminations call = some t) (held : t.release = .held) :
      CallStep (s.setTermination call
        { t with release := if t.closes then .returned else .invoking t.terminals })
  | invokes {call} {t : Termination α} {a rest} (record : s.terminations call = some t)
      (at_ : t.release = .invoking (a :: rest)) :
      CallStep (s.setTermination call { t with release := .calling rest, ran := t.ran ++ [a] })
  | goesOn {call} {t : Termination α} {rest} (record : s.terminations call = some t)
      (at_ : t.release = .calling rest) :
      CallStep (s.setTermination call { t with release := .invoking rest })
  | returns {call} {t : Termination α} (record : s.terminations call = some t)
      (at_ : t.release = .invoking []) :
      CallStep (s.setTermination call { t with release := .returned })

end System

inductive Step (s : System α) : Unit → System α → Prop where
  | worker {s'} (h : s.WorkerStep s') : Step s () s'
  | call {s'} (h : s.CallStep s') : Step s () s'

end Yola.Callbacks
