import Mathlib.Data.List.Basic
import Mathlib.Data.List.Range
import Yola.Reasoning.Runs
import Yola.Reasoning.Threads

/-!
# The life of a gateway

`Start`, `Stop` and the goroutine that `beginShutdown` launches, with what they wait for: the authentications that
have been admitted, the drain of the sessions, the broadcaster, the workers that run the transports, and the
calls of `Stop` on the client transports.  A context may end at any time.  The sections under the lifecycle
lock in which admission changes take several steps, for admission has a lock of its own; the others are one
step.
-/

namespace Yola.Gateway.Lifecycle

open Reasoning

/-! ## The drain of the sessions -/

inductive Drainer where
  | picking
  | draining (index : Nat)
  | exited
deriving DecidableEq

/-- The workers of `startSessionDrain`, which take the sessions by a shared counter. -/
structure Drain where
  sessions : Nat
  next : Nat
  workers : List Drainer
  /-- The sessions for which `drainSession` has returned. -/
  drained : List Nat

namespace Drain

def shutdownWorkerCount : Nat := 64

def start (sessions : Nat) : Drain where
  sessions := sessions
  next := 0
  workers := List.replicate (min shutdownWorkerCount sessions) .picking
  drained := []

inductive Step (d : Drain) : Drain → Prop where
  | picks {workers} (more : d.next < d.sessions)
      (moves : Moves .picking (.draining d.next) d.workers workers) :
      Step d { d with next := d.next + 1, workers := workers }
  | exits {workers} (all : d.sessions ≤ d.next)
      (moves : Moves .picking .exited d.workers workers) :
      Step d { d with next := d.next + 1, workers := workers }
  | drains {index workers} (moves : Moves (.draining index) .picking d.workers workers) :
      Step d { d with workers := workers, drained := d.drained ++ [index] }

def Done (d : Drain) : Prop := ∀ w ∈ d.workers, w = .exited

end Drain

/-! ## The state -/

inductive Phase where
  | new
  | starting
  | started
  | stopping
  | stopped
deriving DecidableEq

/-- What `prepare` does before it starts the broadcaster. -/
inductive Preparation where
  | application
  | endpoint
  | ping
deriving DecidableEq

inductive Starter where
  | absent
  | preparing (p : Preparation)
  | startingBroadcaster
  /-- At the check of the context before a transport, or after the last one. -/
  | checking (index : Nat)
  | beforeStart (index : Nat)
  | recording (index : Nat) (ok : Bool)
  | serving
  | awaiting
  | switching
  /-- Under the lock, after the switch to `started`. -/
  | holding
  | handing
  | running
  /-- In the deferred function, and there in `beginShutdown`. -/
  | leaving
  | closing
  | inShutdown
  | joining
  | returned
deriving DecidableEq

/-- Who holds the lifecycle lock for more than a step: `Start` around `openAdmission`, or a `beginShutdown`, that of
`Start` or that of a `Stop`, around `closeAdmission`. -/
inductive Section where
  | free
  | opening
  | spawning
  | closing (starter : Bool)
  | launching (starter : Bool)
deriving DecidableEq

inductive Owner where
  | absent
  | waitingStartup
  /-- The startup takes too long: what has been prepared is stopped first. -/
  | readingPrepared
  | earlyBroadcaster
  | earlyAwaiting
  | earlyStops (rest : List Nat)
  | earlyStop (index : Nat) (rest : List Nat)
  | awaitingStartup
  | quiescing
  | awaitingAuthentications
  | stoppingBroadcaster
  | awaitingBroadcaster
  | takingSessions
  | draining
  | stops (rest : List Nat)
  | stop (index : Nat) (rest : List Nat)
  | stoppingGRPC
  | waitingAuthentications
  | cancellingBroadcaster
  | waitingBroadcaster
  | waitingDrain
  | waitingWorkers
  | joining
  | joiningEarly
  | finishing
  | closing
  | done
deriving DecidableEq

inductive Broadcaster where
  | idle
  | running
  | cancelled
  | finished
deriving DecidableEq

/-- `active` is not nil. -/
def Broadcaster.active : Broadcaster → Bool
  | .idle => false
  | .running | .cancelled => true
  | .finished => false

inductive Worker where
  | running
  | finished
deriving DecidableEq

structure Server where
  phase : Phase
  /-- `startupDone`: nil, open or closed. -/
  startup : Option Bool
  /-- The context of the run has ended. -/
  cancelled : Bool
  prepared : Nat
  serving : Bool
  lock : Section
  starter : Starter
  launched : Bool
  owner : Owner
  stoppedTransports : Nat
  /-- The calls of `Stop` whose results the goroutine has given up waiting for, those of the first stop and those
  of the second. -/
  early : List Nat
  late : List Nat
  accepting : Bool
  authentications : Nat
  broadcaster : Broadcaster
  grpcWorker : Option Worker
  clientWorkers : List Worker
  drain : Option Drain
  /-- The transports whose `Stop` has been called, and has returned. -/
  called : List Nat
  returned : List Nat
  /-- How often `beginShutdown` has taken the lock, `openAdmission` has been called, and `shutdownDone` has been
  closed; and whether the state has been `started`. -/
  begun : Nat
  opened : Nat
  closes : Nat
  switched : Bool

namespace Server

def new : Server where
  phase := .new
  startup := none
  cancelled := false
  prepared := 0
  serving := false
  lock := .free
  starter := .absent
  launched := false
  owner := .absent
  stoppedTransports := 0
  early := []
  late := []
  accepting := false
  authentications := 0
  broadcaster := .idle
  grpcWorker := none
  clientWorkers := []
  drain := none
  called := []
  returned := []
  begun := 0
  opened := 0
  closes := 0
  switched := false

/-- The order in which `stopClientTransports` stops the transports from `first` to `last`. -/
def order (first last : Nat) (rollback : Bool) : List Nat :=
  if rollback then (List.range' first (last - first)).reverse else List.range' first (last - first)

variable (s : Server)

/-- All workers of the wait group are finished. -/
def WorkersFinished : Prop := s.grpcWorker ≠ some .running ∧ ∀ w ∈ s.clientWorkers, w = .finished

/-! ## Start -/

inductive StartStep (n : Nat) : Server → Prop where
  | begins (at_ : s.starter = .absent) (lock : s.lock = .free) (new : s.phase = .new) :
      StartStep n { s with phase := .starting, startup := some false, starter := .preparing .application }
  | validated (at_ : s.starter = .preparing .application) :
      StartStep n { s with starter := .preparing .endpoint }
  | resolved (at_ : s.starter = .preparing .endpoint) : StartStep n { s with starter := .preparing .ping }
  | pinged (at_ : s.starter = .preparing .ping) : StartStep n { s with starter := .startingBroadcaster }
  | unprepared {p} (at_ : s.starter = .preparing p) : StartStep n { s with starter := .leaving }
  | broadcasts (at_ : s.starter = .startingBroadcaster) (inactive : s.broadcaster.active = false) :
      StartStep n { s with starter := .checking 0, broadcaster := .running }
  | alreadyBroadcasts (at_ : s.starter = .startingBroadcaster) (active : s.broadcaster.active = true) :
      StartStep n { s with starter := .leaving }
  | aborted {index} (at_ : s.starter = .checking index) (cancelled : s.cancelled = true) :
      StartStep n { s with starter := .leaving }
  | prepares {index} (at_ : s.starter = .checking index) (more : index < n) (live : s.cancelled = false) :
      StartStep n { s with starter := .beforeStart index }
  /-- `BeforeStart` returns, with an error or without. -/
  | prepared {index} (ok) (at_ : s.starter = .beforeStart index) :
      StartStep n { s with starter := .recording index ok }
  | records {index} (at_ : s.starter = .recording index true) (lock : s.lock = .free) :
      StartStep n { s with starter := .checking (index + 1), prepared := index + 1 }
  | recordsFailed {index} (at_ : s.starter = .recording index false) (lock : s.lock = .free) :
      StartStep n { s with starter := .leaving, prepared := index + 1 }
  | allPrepared (at_ : s.starter = .checking n) (live : s.cancelled = false) :
      StartStep n { s with starter := .serving }
  | serves (at_ : s.starter = .serving) :
      StartStep n { s with starter := .awaiting, grpcWorker := some .running }
  | accepts (at_ : s.starter = .awaiting) : StartStep n { s with starter := .switching }
  | grpcFailed (at_ : s.starter = .awaiting) (finished : s.grpcWorker = some .finished) :
      StartStep n { s with starter := .leaving }
  | expired (at_ : s.starter = .awaiting) (cancelled : s.cancelled = true) :
      StartStep n { s with starter := .leaving }
  | switches (at_ : s.starter = .switching) (lock : s.lock = .free) (starting : s.phase = .starting)
      (live : s.cancelled = false) :
      StartStep n { s with
        phase := .started, serving := true, lock := .opening, starter := .holding, switched := true }
  | refused (at_ : s.starter = .switching) (lock : s.lock = .free)
      (not : s.phase ≠ .starting ∨ s.cancelled = true) :
      StartStep n { s with starter := .leaving }
  | opens (lock : s.lock = .opening) :
      StartStep n { s with accepting := true, opened := s.opened + 1, lock := .spawning }
  | spawns (lock : s.lock = .spawning) :
      StartStep n { s with
        clientWorkers := List.replicate n .running, lock := .free, starter := .handing }
  | hands (at_ : s.starter = .handing) : StartStep n { s with startup := some true, starter := .running }
  /-- The gRPC server or a client transport has ended, or the context. -/
  | ends (at_ : s.starter = .running)
      (why : s.grpcWorker = some .finished ∨ .finished ∈ s.clientWorkers ∨ s.cancelled = true) :
      StartStep n { s with starter := .leaving }
  | leaves (at_ : s.starter = .leaving) : StartStep n { s with startup := some true, starter := .closing }
  | shutsDown (at_ : s.starter = .closing) (lock : s.lock = .free) :
      StartStep n { s with
        phase := if s.phase = .stopped then .stopped else .stopping
        cancelled := true, lock := .closing true, starter := .inShutdown, begun := s.begun + 1 }
  | joins (at_ : s.starter = .joining) (done : 0 < s.closes) : StartStep n { s with starter := .returned }

/-! ## Shutdown -/

def firstWait : Option Bool → Owner
  | none => .quiescing
  | some _ => .waitingStartup

inductive BeginStep : Server → Prop where
  | marks (lock : s.lock = .free) :
      BeginStep { s with
        phase := if s.phase = .stopped then .stopped else .stopping
        cancelled := s.cancelled || s.startup.isSome, lock := .closing false, begun := s.begun + 1 }
  | closes {starter} (lock : s.lock = .closing starter) :
      BeginStep { s with accepting := false, lock := .launching starter }
  | launches (lock : s.lock = .launching false) (first : s.launched = false) :
      BeginStep { s with
        lock := .free, launched := true, owner := firstWait s.startup }
  | launchesOwn (lock : s.lock = .launching true) (first : s.launched = false) :
      BeginStep { s with
        lock := .free, launched := true, starter := .joining, owner := firstWait s.startup }
  | again (lock : s.lock = .launching false) (launched : s.launched = true) :
      BeginStep { s with lock := .free }
  | againOwn (lock : s.lock = .launching true) (launched : s.launched = true) :
      BeginStep { s with lock := .free, starter := .joining }

inductive EarlyStep : Server → Prop where
  | started (at_ : s.owner = .waitingStartup) (done : s.startup = some true) :
      EarlyStep { s with owner := .quiescing }
  | timesOut (at_ : s.owner = .waitingStartup) : EarlyStep { s with owner := .readingPrepared }
  | reads (at_ : s.owner = .readingPrepared) (lock : s.lock = .free) :
      EarlyStep { s with owner := .earlyBroadcaster, stoppedTransports := s.prepared }
  | inactive (at_ : s.owner = .earlyBroadcaster) (inactive : s.broadcaster.active = false) :
      EarlyStep { s with owner := .earlyStops (order 0 s.stoppedTransports true) }
  | cancels (at_ : s.owner = .earlyBroadcaster) (active : s.broadcaster.active = true) :
      EarlyStep { s with owner := .earlyAwaiting, broadcaster := .cancelled }
  /-- The broadcaster is done, or the context. -/
  | awaited (at_ : s.owner = .earlyAwaiting) :
      EarlyStep { s with owner := .earlyStops (order 0 s.stoppedTransports true) }
  | calls {index rest} (at_ : s.owner = .earlyStops (index :: rest)) :
      EarlyStep { s with owner := .earlyStop index rest, called := s.called ++ [index] }
  | returns {index rest} (at_ : s.owner = .earlyStop index rest)
      (result : index ∈ s.returned) : EarlyStep { s with owner := .earlyStops rest }
  | leaves {index rest} (at_ : s.owner = .earlyStop index rest) :
      EarlyStep { s with owner := .earlyStops rest, early := s.early ++ [index] }
  | stopped (at_ : s.owner = .earlyStops []) : EarlyStep { s with owner := .awaitingStartup }
  | startedLate (at_ : s.owner = .awaitingStartup) (done : s.startup = some true) :
      EarlyStep { s with owner := .quiescing }

/-- The steps of `shutdown`, with `n` client transports, and of the goroutine after it. -/
inductive ShutdownStep (n : Nat) : Server → Prop where
  | quiesces (at_ : s.owner = .quiescing) :
      ShutdownStep n { s with owner := .awaitingAuthentications, accepting := false }
  /-- The wait group is empty, or the context is done; as below, when a wait has a deadline. -/
  | authenticated (at_ : s.owner = .awaitingAuthentications) :
      ShutdownStep n { s with owner := .stoppingBroadcaster }
  | inactive (at_ : s.owner = .stoppingBroadcaster) (inactive : s.broadcaster.active = false) :
      ShutdownStep n { s with owner := .takingSessions }
  | cancels (at_ : s.owner = .stoppingBroadcaster) (active : s.broadcaster.active = true) :
      ShutdownStep n { s with owner := .awaitingBroadcaster, broadcaster := .cancelled }
  | awaited (at_ : s.owner = .awaitingBroadcaster) : ShutdownStep n { s with owner := .takingSessions }
  | takes (sessions) (at_ : s.owner = .takingSessions) :
      ShutdownStep n { s with owner := .draining, drain := some (.start sessions) }
  | drained (at_ : s.owner = .draining) :
      ShutdownStep n { s with owner := .stops (order s.stoppedTransports n (!s.serving)) }
  | calls {index rest} (at_ : s.owner = .stops (index :: rest)) :
      ShutdownStep n { s with owner := .stop index rest, called := s.called ++ [index] }
  | returns {index rest} (at_ : s.owner = .stop index rest)
      (result : index ∈ s.returned) : ShutdownStep n { s with owner := .stops rest }
  | leaves {index rest} (at_ : s.owner = .stop index rest) :
      ShutdownStep n { s with owner := .stops rest, late := s.late ++ [index] }
  | stopped (at_ : s.owner = .stops []) : ShutdownStep n { s with owner := .stoppingGRPC }
  | grpcStopped (at_ : s.owner = .stoppingGRPC) :
      ShutdownStep n { s with owner := .waitingAuthentications }
  | noAuthentications (at_ : s.owner = .waitingAuthentications) (wait : s.authentications = 0) :
      ShutdownStep n { s with owner := .cancellingBroadcaster }
  | inactiveAgain (at_ : s.owner = .cancellingBroadcaster) (inactive : s.broadcaster.active = false) :
      ShutdownStep n { s with owner := .waitingDrain }
  | cancelsAgain (at_ : s.owner = .cancellingBroadcaster) (active : s.broadcaster.active = true) :
      ShutdownStep n { s with owner := .waitingBroadcaster, broadcaster := .cancelled }
  | broadcasterDone (at_ : s.owner = .waitingBroadcaster) (done : s.broadcaster = .finished) :
      ShutdownStep n { s with owner := .waitingDrain }
  | drainDone {d : Drain} (at_ : s.owner = .waitingDrain) (drain : s.drain = some d) (done : d.Done) :
      ShutdownStep n { s with owner := .waitingWorkers }
  | workersDone (at_ : s.owner = .waitingWorkers) (wait : s.WorkersFinished) :
      ShutdownStep n { s with owner := .joining }
  | joins {index rest} (at_ : s.owner = .joining) (late : s.late = index :: rest)
      (result : index ∈ s.returned) : ShutdownStep n { s with late := rest }
  | joined (at_ : s.owner = .joining) (late : s.late = []) : ShutdownStep n { s with owner := .joiningEarly }
  | joinsEarly {index rest} (at_ : s.owner = .joiningEarly)
      (early : s.early = index :: rest) (result : index ∈ s.returned) : ShutdownStep n { s with early := rest }
  | joinedEarly (at_ : s.owner = .joiningEarly) (early : s.early = []) :
      ShutdownStep n { s with owner := .finishing }
  | finishes (at_ : s.owner = .finishing) (lock : s.lock = .free) :
      ShutdownStep n { s with owner := .closing, phase := .stopped }
  | closes (at_ : s.owner = .closing) : ShutdownStep n { s with owner := .done, closes := s.closes + 1 }

inductive OtherStep : Server → Prop where
  | expires : OtherStep { s with cancelled := true }
  /-- `admitAuthentication` lets an authentication in. -/
  | admits (accepting : s.accepting = true) :
      OtherStep { s with authentications := s.authentications + 1 }
  | authenticates {k} (some : s.authentications = k + 1) : OtherStep { s with authentications := k }
  | broadcasterEnds (cancelled : s.broadcaster = .cancelled) : OtherStep { s with broadcaster := .finished }
  | grpcEnds (running : s.grpcWorker = some .running) : OtherStep { s with grpcWorker := some .finished }
  | clientEnds {workers} (moves : Moves .running .finished s.clientWorkers workers) :
      OtherStep { s with clientWorkers := workers }
  | stopReturns {index} (called : index ∈ s.called) (out : index ∉ s.returned) :
      OtherStep { s with returned := s.returned ++ [index] }
  | drains {d d' : Drain} (drain : s.drain = some d) (step : d.Step d') : OtherStep { s with drain := some d' }

end Server

inductive Step (n : Nat) (s : Server) : Unit → Server → Prop where
  | start {s'} (h : s.StartStep n s') : Step n s () s'
  | beginShutdown {s'} (h : s.BeginStep s') : Step n s () s'
  | early {s'} (h : s.EarlyStep s') : Step n s () s'
  | shutdown {s'} (h : s.ShutdownStep n s') : Step n s () s'
  | other {s'} (h : s.OtherStep s') : Step n s () s'

end Yola.Gateway.Lifecycle
