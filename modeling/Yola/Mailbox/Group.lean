import Mathlib.Logic.Function.Basic
import Yola.Reasoning.Threads

/-!
# Mailboxes that share workers

A group of bounded queues is served by a fixed number of workers.  A mailbox with jobs is handed to a
worker over the channel `ready`; the worker takes it for a batch of jobs and then gives it up or hands
it on.  Every method is cut where another goroutine can act: at each lock, at each change of the
counter of pending jobs, before and after each job.

A context may be done whenever it is looked at.  `Call` and `PostAndWait` post the method `run` of
their call as the job.
-/

namespace Yola.Mailbox

open Reasoning

structure GroupConfig where
  mailboxes : Nat
  workers : Nat
  capacity : Nat
  batch : Nat
  mailboxes_pos : 0 < mailboxes
  workers_pos : 0 < workers
  capacity_pos : 0 < capacity
  batch_pos : 0 < batch

inductive PostError where
  | notStarted
  | stopped
  | full
  | nilJob
  | context
  | outOfRange (index : Int)
deriving DecidableEq

/-- `mailboxQueue`; the channel `space` is made anew whenever it is closed, and counted. -/
structure MailboxQueue (J : Type) where
  locked : Bool
  queue : List J
  scheduled : Bool
  running : Nat
  space : Nat

/-- How far a worker has come with `drain`; `left` turns of its loop are to come. -/
inductive DrainStage (J : Type) where
  | received
  | looping (left : Nat)
  | calling (job : J) (left : Nat)
  | reporting (job : J) (left : Nat)
  | relocking (left : Nat)

inductive Worker (n : Nat) (J : Type) where
  | idle
  | draining (i : Fin n) (stage : DrainStage J)
  | exited

inductive PostStage (J : Type) where
  | counting (job : J)
  | scheduling

inductive Poster (n : Nat) (J : Type) where
  | posting (i : Fin n) (job : Option J)
  | entering (i : Fin n) (job : Option J) (waits : Bool)
  | locking (i : Fin n) (job : J) (waits : Bool)
  | holding (i : Fin n) (stage : PostStage J)
  | leaving
  | full (i : Fin n) (job : J)
  | waiting (i : Fin n) (job : J) (space : Nat)
  | returned (err : Option PostError)

inductive StopCall where
  | entering
  | waiting
  | returned (ok : Bool)
deriving DecidableEq

inductive Finisher where
  | idle
  | checking
  | waiting (woken : Bool)
  | closing
  | joining
  | ended
deriving DecidableEq

structure Group (n : Nat) (J : Type) where
  mailboxes : Fin n → MailboxQueue J
  ready : List (Fin n)
  stopping : Bool
  done : Bool
  finished : Bool
  /-- How many hold `mu` for reading. -/
  readers : Nat
  started : Bool
  stopped : Bool
  pending : Int
  workers : List (Worker n J)
  posters : List (Poster n J)
  stops : List StopCall
  finisher : Finisher

inductive GroupEvent (n : Nat) (J : Type) where
  | silent
  | accepted (i : Fin n) (job : J)
  | started (i : Fin n) (job : J)
  | returned (i : Fin n) (job : J)
  | reported (i : Fin n) (job : J)
  | finished
  | stopReturned (ok : Bool)

def Finisher.wake : Finisher → Finisher
  | .waiting _ => .waiting true
  | f => f

namespace Group

variable {n : Nat} {J : Type} (g : Group n J)

def new : Group n J where
  mailboxes _ := ⟨false, [], false, 0, 0⟩
  ready := []
  stopping := false
  done := false
  finished := false
  readers := 0
  started := false
  stopped := false
  pending := 0
  workers := []
  posters := []
  stops := []
  finisher := .idle

def setMailbox (i : Fin n) (m : MailboxQueue J) : Group n J :=
  { g with mailboxes := Function.update g.mailboxes i m }

def changePending (delta : Int) : Group n J :=
  { g with
    pending := g.pending + delta
    finisher := if g.pending + delta = 0 then g.finisher.wake else g.finisher }

def setWorkers (workers : List (Worker n J)) : Group n J := { g with workers := workers }

def setPosters (posters : List (Poster n J)) : Group n J := { g with posters := posters }

def setStops (stops : List StopCall) : Group n J := { g with stops := stops }

end Group

variable {J : Type} (cfg : GroupConfig)

/-- `run` and `drain` -/
inductive WorkerStep : Group cfg.mailboxes J → GroupEvent cfg.mailboxes J → Group cfg.mailboxes J → Prop
  | receive {g : Group cfg.mailboxes J} {i ready ws} (first : g.ready = i :: ready)
      (move : Moves .idle (.draining i .received) g.workers ws) :
      WorkerStep g .silent ({ g with ready := ready }.setWorkers ws)
  | exit {g : Group cfg.mailboxes J} {ws} (done : g.done = true)
      (move : Moves .idle .exited g.workers ws) : WorkerStep g .silent (g.setWorkers ws)
  | lock {g : Group cfg.mailboxes J} {i ws}
      (free : (g.mailboxes i).locked = false)
      (move : Moves (.draining i .received) (.draining i (.looping cfg.batch)) g.workers ws) :
      WorkerStep g .silent
        ((g.setMailbox i { g.mailboxes i with locked := true, running := 1 }).setWorkers ws)
  | take {g : Group cfg.mailboxes J} {i job rest left ws} (head : (g.mailboxes i).queue = job :: rest)
      (move : Moves (.draining i (.looping (left + 1))) (.draining i (.calling job left)) g.workers ws) :
      WorkerStep g (.started i job)
        ((g.setMailbox i { g.mailboxes i with
          queue := rest, space := (g.mailboxes i).space + 1, locked := false }).setWorkers ws)
  | ret {g : Group cfg.mailboxes J} {i job left ws}
      (move : Moves (.draining i (.calling job left)) (.draining i (.reporting job left)) g.workers ws) :
      WorkerStep g (.returned i job) (g.setWorkers ws)
  | report {g : Group cfg.mailboxes J} {i job left ws}
      (move : Moves (.draining i (.reporting job left)) (.draining i (.relocking left)) g.workers ws) :
      WorkerStep g (.reported i job) ((g.changePending (-1)).setWorkers ws)
  | relock {g : Group cfg.mailboxes J} {i left ws} (free : (g.mailboxes i).locked = false)
      (move : Moves (.draining i (.relocking left)) (.draining i (.looping left)) g.workers ws) :
      WorkerStep g .silent ((g.setMailbox i { g.mailboxes i with locked := true }).setWorkers ws)
  -- the loop has ended
  | release {g : Group cfg.mailboxes J} {i left ws} (empty : (g.mailboxes i).queue = [])
      (move : Moves (.draining i (.looping left)) .idle g.workers ws) :
      WorkerStep g .silent
        ((g.setMailbox i { g.mailboxes i with
          running := 0, scheduled := false, locked := false }).setWorkers ws)
  | resend {g : Group cfg.mailboxes J} {i ws}
      (busy : (g.mailboxes i).queue ≠ []) (room : g.ready.length < cfg.mailboxes)
      (move : Moves (.draining i (.looping 0)) .idle g.workers ws) :
      WorkerStep g .silent
        (({ g with ready := g.ready ++ [i] }.setMailbox i { g.mailboxes i with
          running := 0, locked := false }).setWorkers ws)

/-- `TryPost`, from where it holds `mu` of the group for reading. -/
inductive TryPostStep : Group cfg.mailboxes J → GroupEvent cfg.mailboxes J → Group cfg.mailboxes J → Prop
  | full {g : Group cfg.mailboxes J} {i job} {waits : Bool} {ps} (free : (g.mailboxes i).locked = false)
      (full : cfg.capacity ≤ (g.mailboxes i).queue.length)
      (move : Moves (.locking i job waits)
        (if waits then .full i job else .returned (some .full)) g.posters ps) :
      TryPostStep g .silent ({ g with readers := g.readers - 1 }.setPosters ps)
  | append {g : Group cfg.mailboxes J} {i job waits ps} (free : (g.mailboxes i).locked = false)
      (room : (g.mailboxes i).queue.length < cfg.capacity)
      (move : Moves (.locking i job waits) (.holding i (.counting job)) g.posters ps) :
      TryPostStep g .silent
        ((g.setMailbox i { g.mailboxes i with
          locked := true, queue := (g.mailboxes i).queue ++ [job] }).setPosters ps)
  | count {g : Group cfg.mailboxes J} {i job ps}
      (move : Moves (.holding i (.counting job)) (.holding i .scheduling) g.posters ps) :
      TryPostStep g (.accepted i job) ((g.changePending 1).setPosters ps)
  | schedule {g : Group cfg.mailboxes J} {i ps}
      (free : (g.mailboxes i).scheduled = false) (room : g.ready.length < cfg.mailboxes)
      (move : Moves (.holding i .scheduling) .leaving g.posters ps) :
      TryPostStep g .silent
        (({ g with ready := g.ready ++ [i] }.setMailbox i { g.mailboxes i with
          scheduled := true, locked := false }).setPosters ps)
  | scheduled {g : Group cfg.mailboxes J} {i ps}
      (scheduled : (g.mailboxes i).scheduled = true)
      (move : Moves (.holding i .scheduling) .leaving g.posters ps) :
      TryPostStep g .silent ((g.setMailbox i { g.mailboxes i with locked := false }).setPosters ps)
  | leave {g : Group cfg.mailboxes J} {ps}
      (move : Moves .leaving (.returned none) g.posters ps) :
      TryPostStep g .silent ({ g with readers := g.readers - 1 }.setPosters ps)

/-- `finishStop` -/
inductive FinishStep : Group cfg.mailboxes J → GroupEvent cfg.mailboxes J → Group cfg.mailboxes J → Prop
  | idle {g : Group cfg.mailboxes J} (at_ : g.finisher = .checking) (idle : g.pending = 0) :
      FinishStep g .silent { g with finisher := .closing }
  | wait {g : Group cfg.mailboxes J} (at_ : g.finisher = .checking) (busy : g.pending ≠ 0) :
      FinishStep g .silent { g with finisher := .waiting false }
  | wake {g : Group cfg.mailboxes J} (at_ : g.finisher = .waiting true) :
      FinishStep g .silent { g with finisher := .checking }
  | closeDone {g : Group cfg.mailboxes J} (at_ : g.finisher = .closing) :
      FinishStep g .silent { g with finisher := .joining, done := true }
  | join {g : Group cfg.mailboxes J} (at_ : g.finisher = .joining)
      (exited : ∀ w ∈ g.workers, w = .exited) :
      FinishStep g .finished { g with finisher := .ended, finished := true }

inductive InternalStep : Group cfg.mailboxes J → GroupEvent cfg.mailboxes J → Group cfg.mailboxes J → Prop
  | worker {g g' e}
      (step : WorkerStep cfg g e g') : InternalStep g e g'
  | post {g g' e}
      (step : TryPostStep cfg g e g') : InternalStep g e g'
  | finish {g g' e}
      (step : FinishStep cfg g e g') : InternalStep g e g'

/-- Calls, and what the callers do before and after. -/
inductive CallStep : Group cfg.mailboxes J → GroupEvent cfg.mailboxes J → Group cfg.mailboxes J → Prop
  -- `Start`, which takes `mu` for writing and does nothing a second time or after a stop
  | start {g : Group cfg.mailboxes J} (free : g.readers = 0) (running : g.stopped = false)
      (first : g.started = false) :
      CallStep g .silent { g with started := true, workers := g.workers ++ List.replicate cfg.workers .idle }
  -- `Post`
  | post {g : Group cfg.mailboxes J} (index : Int) (job : Option J) :
      CallStep g .silent (g.setPosters (g.posters ++
        [if h : 0 ≤ index ∧ index < cfg.mailboxes then .posting ⟨index.toNat, by omega⟩ job
          else .returned (some (.outOfRange index))]))
  | postCancelled {g : Group cfg.mailboxes J} {i job ps}
      (move : Moves (.posting i job) (.returned (some .context)) g.posters ps) :
      CallStep g .silent (g.setPosters ps)
  | postTries {g : Group cfg.mailboxes J} {i job ps}
      (move : Moves (.posting i job) (.entering i job true) g.posters ps) :
      CallStep g .silent (g.setPosters ps)
  -- `TryPost` of an executor
  | tryPost {g : Group cfg.mailboxes J} (i : Fin cfg.mailboxes) (job : Option J) :
      CallStep g .silent (g.setPosters (g.posters ++ [.entering i job false]))
  | refuse {g : Group cfg.mailboxes J} {i job waits err ps}
      (refused : err =
        if job.isNone then .nilJob else if g.stopped then .stopped else .notStarted)
      (closed : job.isNone = true ∨ g.stopped = true ∨ g.started = false)
      (move : Moves (.entering i job waits) (.returned (some err)) g.posters ps) :
      CallStep g .silent (g.setPosters ps)
  | enter {g : Group cfg.mailboxes J} {i job waits ps} (running : g.stopped = false) (started : g.started = true)
      (move : Moves (.entering i (some job) waits) (.locking i job waits) g.posters ps) :
      CallStep g .silent ({ g with readers := g.readers + 1 }.setPosters ps)
  -- `waitForSpace`
  | spaceFree {g : Group cfg.mailboxes J} {i job ps} (unlocked : (g.mailboxes i).locked = false)
      (room : (g.mailboxes i).queue.length < cfg.capacity)
      (move : Moves (.full i job) (.posting i (some job)) g.posters ps) :
      CallStep g .silent (g.setPosters ps)
  | spaceWait {g : Group cfg.mailboxes J} {i job ps} (unlocked : (g.mailboxes i).locked = false)
      (full : cfg.capacity ≤ (g.mailboxes i).queue.length)
      (move : Moves (.full i job) (.waiting i job (g.mailboxes i).space) g.posters ps) :
      CallStep g .silent (g.setPosters ps)
  | spaceMade {g : Group cfg.mailboxes J} {i job space ps} (closed : (g.mailboxes i).space ≠ space)
      (move : Moves (.waiting i job space) (.posting i (some job)) g.posters ps) :
      CallStep g .silent (g.setPosters ps)
  | spaceStopped {g : Group cfg.mailboxes J} {i job space ps} (closed : g.stopping = true)
      (move : Moves (.waiting i job space) (.returned (some .stopped)) g.posters ps) :
      CallStep g .silent (g.setPosters ps)
  | spaceCancelled {g : Group cfg.mailboxes J} {i job space ps}
      (move : Moves (.waiting i job space) (.returned (some .context)) g.posters ps) :
      CallStep g .silent (g.setPosters ps)
  -- `Stop`, which takes `mu` for writing
  | stop {g : Group cfg.mailboxes J} : CallStep g .silent (g.setStops (g.stops ++ [.entering]))
  | stopFirst {g : Group cfg.mailboxes J} {ss} (free : g.readers = 0)
      (running : g.stopped = false) (started : g.started = true)
      (move : Moves .entering .waiting g.stops ss) :
      CallStep g .silent ({ g with stopped := true, stopping := true, finisher := .checking }.setStops ss)
  | stopUnstarted {g : Group cfg.mailboxes J} {ss} (free : g.readers = 0)
      (running : g.stopped = false) (unstarted : g.started = false)
      (move : Moves .entering .waiting g.stops ss) :
      CallStep g .finished
        ({ g with stopped := true, stopping := true, done := true, finished := true }.setStops ss)
  | stopAgain {g : Group cfg.mailboxes J} {ss} (free : g.readers = 0)
      (stopped : g.stopped = true) (move : Moves .entering .waiting g.stops ss) :
      CallStep g .silent (g.setStops ss)
  | stopFinished {g : Group cfg.mailboxes J} {ss} (finished : g.finished = true)
      (move : Moves .waiting (.returned true) g.stops ss) :
      CallStep g (.stopReturned true) (g.setStops ss)
  | stopCancelled {g : Group cfg.mailboxes J} {ss}
      (move : Moves .waiting (.returned false) g.stops ss) :
      CallStep g (.stopReturned false) (g.setStops ss)

inductive GroupStep : Group cfg.mailboxes J → GroupEvent cfg.mailboxes J → Group cfg.mailboxes J → Prop
  | internal {g g' e}
      (step : InternalStep cfg g e g') : GroupStep g e g'
  | call {g g' e}
      (step : CallStep cfg g e g') : GroupStep g e g'

end Yola.Mailbox
