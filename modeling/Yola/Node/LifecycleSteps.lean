import Yola.Node.Lifecycle
import Yola.Reasoning.Runs
import Yola.Reasoning.Threads

/-!
# Steps of a node

One relation for each goroutine that lives as long as the server, one for those that come and go, and
one for the world around them.  A refused `Start` and a refused `admit` change nothing.
-/

namespace Yola.Node

open Function Go Reasoning

section Steps

variable {K V ρ : Type}

/-- `startCleanup(base, timeout)` -/
inductive TriggerStep (base : Ctx K V) (timeout : Nat) :
    Server K V ρ → TriggerPc → NodeEvent K V ρ → Server K V ρ → TriggerPc → Prop where
  | beginStopping (s : Server K V ρ) (free : s.lifecycleMu = false) :
      TriggerStep base timeout s .beginStopping .silent s.beginStopping .once
  | first (s : Server K V ρ) (free : s.lifecycleMu = false) (idle : s.cleanup = .idle) :
      TriggerStep base timeout s .once (.cleanupStarted base timeout)
        { s with cleanup := .spawned (s.cleanupBase base) timeout } .returned
  | again (s : Server K V ρ) (begun : s.cleanup ≠ .idle) :
      TriggerStep base timeout s .once .silent s .returned

inductive FailStep (cfg : LifecycleConfig) :
    Server K V ρ → FailPc → NodeEvent K V ρ → Server K V ρ → FailPc → Prop where
  | beginStopping (s : Server K V ρ) (free : s.lifecycleMu = false) :
      FailStep cfg s .beginStopping .silent s.beginStopping .closeDeliveries
  | closeDeliveries (s : Server K V ρ) :
      FailStep cfg s .closeDeliveries .silent { s with deliveries := s.deliveries.close } .cancelFatal
  | cancelFatal (s : Server K V ρ) :
      FailStep cfg s .cancelFatal .silent { s with fatal := true } .readState
  | readState (s : Server K V ρ) (free : s.lifecycleMu = false) :
      FailStep cfg s .readState .silent s
        (.trigger (if s.state = .started then cfg.shutdownTimeout else cfg.cleanupTimeout) .beginStopping)
  | trigger {s s' e timeout pc pc'}
      (step : TriggerStep .background timeout s pc e s' pc') :
      FailStep cfg s (.trigger timeout pc) e s' (.trigger timeout pc')

/-- Time, callers that give up, the registrar's lease, and the business code of `Drain`. -/
inductive OutsideStep : Server K V ρ → NodeEvent K V ρ → Server K V ρ → Prop where
  | elapse (s : Server K V ρ) (ns) : OutsideStep s .silent { s with now := s.now + ns }
  | callerCancelled (s : Server K V ρ) (n) :
      OutsideStep s .silent { s with cancelled := update s.cancelled (.caller n) true }
  | registrationLost (s : Server K V ρ) : OutsideStep s .silent { s with registrationLost := true }
  | drainReturned (s : Server K V ρ) (ok) (running : s.drain = .running) :
      OutsideStep s (.drainReturned ok) { s with drain := .returned ok }

inductive StartStep (cfg : LifecycleConfig) :
    Server K V ρ → NodeEvent K V ρ → Server K V ρ → Prop where
  | entered (s : Server K V ρ) (ctx) (free : s.lifecycleMu = false)
      (alive : s.requests.isClosed = false) (fresh : s.state = .fresh) :
      StartStep cfg s (.startEntered (normalizeContext ctx))
        { s with
          startCtx := normalizeContext ctx
          lifecycleCtx := some (normalizeContext ctx).withoutCancel
          startupDone := some false
          state := .starting
          start := .checkApp }
  | appFound (s : Server K V ρ) (at_ : s.start = .checkApp) :
      StartStep cfg s .silent (s.setStart .prepare)
  | appMissing (s : Server K V ρ) (at_ : s.start = .checkApp) :
      StartStep cfg s .silent (s.setStart .failed)
  | prepared (s : Server K V ρ) (at_ : s.start = .prepare) :
      StartStep cfg s .silent (s.setStart .claim)
  | unprepared (s : Server K V ρ) (at_ : s.start = .prepare) :
      StartStep cfg s .silent (s.setStart .failed)
  | stateless (s : Server K V ρ) (at_ : s.start = .claim) (stateless : cfg.stateful = false) :
      StartStep cfg s .silent (s.setStart (.claimed none false))
  -- no answer to the ping, or the store refused the epoch
  | unclaimed (s : Server K V ρ) (at_ : s.start = .claim) (stateful : cfg.stateful = true) :
      StartStep cfg s .silent (s.setStart (.claimed none true))
  -- the store has confirmed, perhaps after the caller gave up or the lease ran out
  | claimed (s : Server K V ρ) (l err) (at_ : s.start = .claim)
      (stateful : cfg.stateful = true) :
      StartStep cfg s .leaseClaimed (s.setStart (.claimed (some l) err))
  | stored (s : Server K V ρ) (l : Option EpochLease) (err)
      (at_ : s.start = .claimed l err) :
      StartStep cfg s .silent { s with lease := l.map fun l => ⟨l, none, false⟩, start := .checkClaim err }
  | claimAccepted (s : Server K V ρ) (at_ : s.start = .checkClaim false)
      (alive : s.startupError = false) : StartStep cfg s .silent (s.setStart .publish)
  | claimRejected (s : Server K V ρ) (err) (at_ : s.start = .checkClaim err)
      (stopped : err = true ∨ s.startupError = true) : StartStep cfg s .silent (s.setStart .failed)
  | published (s : Server K V ρ) (at_ : s.start = .publish) :
      StartStep cfg s .silent { s with identity := true, start := .startLease }
  | noLease (s : Server K V ρ) (at_ : s.start = .startLease) (missing : s.lease = none) :
      StartStep cfg s .silent (s.setStart .checkLease)
  | leaseStarted (s : Server K V ρ) (l : NodeLease) (at_ : s.start = .startLease)
      (lease : s.lease = some l) (valid : (l.epoch.valid s.now).1 = none) :
      StartStep cfg s .silent
        { s with
          lease := some { l with done := some false }
          start := .waitReady
          tasks := .monitoring :: s.tasks }
  | leaseOver (s : Server K V ρ) (at_ : s.start = .startLease) (isOver : s.validLease.1 ≠ none) :
      StartStep cfg s .silent (s.validLease.2.setStart .failed)
  | readyOk (s : Server K V ρ) (at_ : s.start = .waitReady) (ready : s.ready = some true) :
      StartStep cfg s .silent (s.setStart .checkLease)
  | readyFailed (s : Server K V ρ) (at_ : s.start = .waitReady)
      (ready : s.ready = some false ∨ s.ctxDone s.startupCtx = true) :
      StartStep cfg s .silent (s.setStart .failed)
  | leaseValid (s : Server K V ρ) (at_ : s.start = .checkLease) (valid : s.validLease.1 = none) :
      StartStep cfg s .silent (s.setStart .checkReady)
  | leaseInvalid (s : Server K V ρ) (at_ : s.start = .checkLease) (isOver : s.validLease.1 ≠ none) :
      StartStep cfg s .silent (s.validLease.2.setStart .failed)
  | readyAlive (s : Server K V ρ) (at_ : s.start = .checkReady) (alive : s.startupError = false) :
      StartStep cfg s .silent (s.setStart .serve)
  | readyStopped (s : Server K V ρ) (at_ : s.start = .checkReady) (stopped : s.startupError = true) :
      StartStep cfg s .silent (s.setStart .failed)
  | accepting (s : Server K V ρ) (at_ : s.start = .serve) :
      StartStep cfg s .silent (s.setStart .checkServed)
  | unserved (s : Server K V ρ) (at_ : s.start = .serve) :
      StartStep cfg s .silent (s.setStart .failed)
  | servedAlive (s : Server K V ρ) (at_ : s.start = .checkServed) (alive : s.startupError = false) :
      StartStep cfg s .silent (s.setStart .register)
  | servedStopped (s : Server K V ρ) (at_ : s.start = .checkServed)
      (stopped : s.startupError = true) : StartStep cfg s .silent (s.setStart .failed)
  | registered (s : Server K V ρ) (record : ρ) (at_ : s.start = .register) :
      StartStep cfg s (.registered record) (s.setStart (.registered record))
  | unregistered (s : Server K V ρ) (at_ : s.start = .register) :
      StartStep cfg s .silent (s.setStart .failed)
  | recordRefused (s : Server K V ρ) (record : ρ) (at_ : s.start = .registered record)
      (free : s.lifecycleMu = false)
      (refused : s.startupError = true ∨ s.registrationLost = true) :
      StartStep cfg s .silent { s with registration := some record, start := .failed }
  | recordExpired (s : Server K V ρ) (record : ρ) (at_ : s.start = .registered record)
      (free : s.lifecycleMu = false) (isOver : s.validLease.1 ≠ none) :
      StartStep cfg s .silent { s.validLease.2 with registration := some record, start := .failed }
  | recordAccepted (s : Server K V ρ) (record : ρ) (at_ : s.start = .registered record)
      (free : s.lifecycleMu = false) (alive : s.startupError = false)
      (valid : s.validLease.1 = none) (kept : s.registrationLost = false) :
      StartStep cfg s .silent
        { s with
          registration := some record
          state := .started
          deliveries := s.deliveries.open_
          lifecycleMu := true
          start := .openRequests }
  | opened (s : Server K V ρ) (at_ : s.start = .openRequests) :
      StartStep cfg s .silent
        { s with requests := s.requests.open_, lifecycleMu := false, start := .succeeded }
  | startupOver (s : Server K V ρ) (at_ : s.start = .succeeded) :
      StartStep cfg s .silent
        { s with
          cancelled := update s.cancelled .startup true
          startupDone := some true
          start := .serving true }
  | startupFailed (s : Server K V ρ) (at_ : s.start = .failed) :
      StartStep cfg s .silent
        { s with
          cancelled := update s.cancelled .startup true
          startupDone := some true
          start := .stopping cfg.cleanupTimeout .beginStopping }
  | registrationGone (s : Server K V ρ) (at_ : s.start = .serving true)
      (lost : s.registrationLost = true) :
      StartStep cfg s .silent
        (s.setStart (if s.requests.isClosed then .serving false else .failing .beginStopping))
  | failing {s s' : Server K V ρ} {e pc pc'}
      (at_ : s.start = .failing pc) (step : FailStep cfg s pc e s' pc') :
      StartStep cfg s e (s'.setStart (.failing pc'))
  | failed (s : Server K V ρ) (timeout)
      (at_ : s.start = .failing (.trigger timeout .returned)) :
      StartStep cfg s .silent (s.setStart (.serving false))
  | fatal (s : Server K V ρ) (watching) (at_ : s.start = .serving watching)
      (fatal : s.fatal = true) :
      StartStep cfg s .silent (s.setStart (.stopping cfg.shutdownTimeout .beginStopping))
  -- the server came down by itself
  | serveFailed (s : Server K V ρ) (watching) (at_ : s.start = .serving watching)
      (alive : s.fatal = true ∨ s.requests.isClosed = false) :
      StartStep cfg s .silent (s.setStart (.stopping cfg.shutdownTimeout .beginStopping))
  | served (s : Server K V ρ) (watching) (at_ : s.start = .serving watching)
      (healthy : s.fatal = false) (stopped : s.requests.isClosed = true) :
      StartStep cfg s .silent (s.setStart .returned)
  -- `stopAfterFailure` with the context `Start` was called with
  | stopping {s s' : Server K V ρ} {e timeout pc pc'}
      (at_ : s.start = .stopping timeout pc) (step : TriggerStep s.startCtx timeout s pc e s' pc') :
      StartStep cfg s e (s'.setStart (.stopping timeout pc'))
  | stopped (s : Server K V ρ) (timeout) (at_ : s.start = .stopping timeout .returned) :
      StartStep cfg s .silent (s.setStart .returned)

/-- Calls of `Stop`, `Forward`, `Disconnect`, `Session` and `PushToUID`, and the lease monitor. -/
inductive TaskStep (cfg : LifecycleConfig) :
    Server K V ρ → NodeEvent K V ρ → Server K V ρ → Prop where
  | stopCalled (s : Server K V ρ) (ctx) :
      TaskStep cfg s .silent (s.setTasks (.stop (normalizeContext ctx) .beginStopping :: s.tasks))
  | stop {s s' : Server K V ρ} {e ctx pc pc' tasks} (step : TriggerStep ctx cfg.shutdownTimeout s pc e s' pc')
      (moves : Moves (.stop ctx pc) (.stop ctx pc') s.tasks tasks) :
      TaskStep cfg s e (s'.setTasks tasks)
  | failing {s s' : Server K V ρ} {e pc pc' caller tasks} (step : FailStep cfg s pc e s' pc')
      (moves : Moves (.failing pc caller) (.failing pc' caller) s.tasks tasks) :
      TaskStep cfg s e (s'.setTasks tasks)
  | failed (s : Server K V ρ) (timeout caller tasks)
      (moves : Moves (.failing (.trigger timeout .returned) caller)
        (match caller with
          | .disconnect => .ended
          | .request => .requestLeaving
          | .delivery => .deliveryLeaving
          | .monitor => .monitorLeaving) s.tasks tasks) :
      TaskStep cfg s .silent (s.setTasks tasks)
  -- `Disconnect` looks at the lease before it asks for admission
  | disconnectCalled (s : Server K V ρ) :
      TaskStep cfg s .silent (s.setTasks (.disconnectRouting :: s.tasks))
  | disconnectFenced (s : Server K V ρ) (tasks) (isOver : s.validLease.1 ≠ none)
      (moves : Moves .disconnectRouting (.failing .beginStopping .disconnect) s.tasks tasks) :
      TaskStep cfg s .silent (s.validLease.2.setTasks tasks)
  | disconnectRefused (s : Server K V ρ) (tasks)
      (moves : Moves .disconnectRouting .ended s.tasks tasks) :
      TaskStep cfg s .silent (s.setTasks tasks)
  | disconnectLocked (s : Server K V ρ) (tasks)
      (valid : s.validLease.1 = none) (free : s.requests.canAdmit = true)
      (moves : Moves .disconnectRouting (.requestAdmitting true) s.tasks tasks) :
      TaskStep cfg s .silent { s with requests := s.requests.lock, tasks := tasks }
  | requestLocked (s : Server K V ρ) (free : s.requests.canAdmit = true) :
      TaskStep cfg s .silent
        { s with requests := s.requests.lock, tasks := .requestAdmitting false :: s.tasks }
  | requestAdmitted (s : Server K V ρ) (disconnect : Bool) (tasks)
      (moves : Moves (.requestAdmitting disconnect)
        (if disconnect then .requestHandling else .requestChecking) s.tasks tasks) :
      TaskStep cfg s .requestAdmitted { s with requests := s.requests.enter, tasks := tasks }
  | requestFenced (s : Server K V ρ) (task tasks)
      (place : task = .requestChecking ∨ task = .requestFencing) (isOver : s.validLease.1 ≠ none)
      (moves : Moves task (.failing .beginStopping .request) s.tasks tasks) :
      TaskStep cfg s .silent (s.validLease.2.setTasks tasks)
  | requestRouted (s : Server K V ρ) (tasks) (valid : s.validLease.1 = none)
      (moves : Moves .requestChecking .requestFencing s.tasks tasks) :
      TaskStep cfg s .silent (s.setTasks tasks)
  | requestRefused (s : Server K V ρ) (task tasks)
      (place : task = .requestChecking ∨ task = .requestFencing)
      (moves : Moves task .requestLeaving s.tasks tasks) :
      TaskStep cfg s .silent (s.setTasks tasks)
  | handlerCalled (s : Server K V ρ) (tasks)
      (moves : Moves .requestFencing .requestHandling s.tasks tasks) :
      TaskStep cfg s .handlerCalled (s.setTasks tasks)
  | requestDone (s : Server K V ρ) (task tasks)
      (place : task = .requestHandling ∨ task = .requestLeaving)
      (free : s.requests.locked = false) (moves : Moves task .ended s.tasks tasks) :
      TaskStep cfg s .silent { s with requests := s.requests.done, tasks := tasks }
  | deliveryLocked (s : Server K V ρ) (write) (free : s.deliveries.canAdmit = true) :
      TaskStep cfg s .silent
        { s with deliveries := s.deliveries.lock, tasks := .deliveryAdmitting write :: s.tasks }
  | deliveryAdmitted (s : Server K V ρ) (write tasks)
      (moves : Moves (.deliveryAdmitting write) (.deliveryChecking write) s.tasks tasks) :
      TaskStep cfg s .deliveryAdmitted { s with deliveries := s.deliveries.enter, tasks := tasks }
  | deliveryFenced (s : Server K V ρ) (write tasks)
      (isOver : s.validLease.1 ≠ none)
      (moves : Moves (.deliveryChecking write) (.failing .beginStopping .delivery) s.tasks tasks) :
      TaskStep cfg s .silent (s.validLease.2.setTasks tasks)
  | deliveryRefused (s : Server K V ρ) (write tasks)
      (moves : Moves (.deliveryChecking write) .deliveryLeaving s.tasks tasks) :
      TaskStep cfg s .silent (s.setTasks tasks)
  | deliveryCalled (s : Server K V ρ) (write : Bool) (tasks)
      (valid : s.validLease.1 = none)
      (moves : Moves (.deliveryChecking write) (.deliveryCalling write) s.tasks tasks) :
      TaskStep cfg s (if write then .bindingWritten else .silent) (s.setTasks tasks)
  | deliveryReturned (s : Server K V ρ) (write tasks)
      (moves : Moves (.deliveryCalling write) .deliveryLeaving s.tasks tasks) :
      TaskStep cfg s .silent (s.setTasks tasks)
  -- the store says that the epoch belongs to somebody else
  | ownershipLost (s : Server K V ρ) (cause tasks)
      (moves : Moves (.deliveryCalling true) (.failing .beginStopping .delivery) s.tasks tasks) :
      TaskStep cfg s .silent ((s.cancelLease cause).setTasks tasks)
  | deliveryDone (s : Server K V ρ) (tasks) (free : s.deliveries.locked = false)
      (moves : Moves .deliveryLeaving .ended s.tasks tasks) :
      TaskStep cfg s .silent { s with deliveries := s.deliveries.done, tasks := tasks }
  | renewed (s : Server K V ρ) (l : NodeLease) (deadline) (at_ : Task.monitoring ∈ s.tasks)
      (lease : s.lease = some l) :
      TaskStep cfg s .silent
        { s with lease := some { l with epoch := { l.epoch with deadline := deadline } } }
  | firstRenewal (s : Server K V ρ) (at_ : Task.monitoring ∈ s.tasks) (first : s.ready = none) :
      TaskStep cfg s .silent { s with ready := some true }
  -- the first renewal failed, or the lease is over
  | monitorEnded (s : Server K V ρ) (cause tasks)
      (isOver : s.ready = none ∨ s.validLease.1 = some cause)
      (moves : Moves .monitoring
        (if cause = .canceled then .monitorLeaving else .failing .beginStopping .monitor)
        s.tasks tasks) :
      TaskStep cfg s .silent { s.cancelLease cause with ready := s.ready.or (some false), tasks := tasks }
  | monitorLeft (s : Server K V ρ) (tasks)
      (moves : Moves .monitorLeaving .ended s.tasks tasks) :
      TaskStep cfg s .silent
        { s with lease := s.lease.map fun l => { l with done := some true }, tasks := tasks }

inductive CleanupStep (cfg : LifecycleConfig) (s : Server K V ρ) (c : Cleanup K V ρ) :
    NodeEvent K V ρ → Server K V ρ → Prop where
  | noStartup (pc : c.pc = .readStartup) (free : s.lifecycleMu = false)
      (missing : s.startupDone = none) :
      CleanupStep cfg s c .silent (s.setCleanup c .readRecord)
  -- a part of the budget only
  | startupFound (pc : c.pc = .readStartup) (free : s.lifecycleMu = false)
      (found : s.startupDone ≠ none) :
      CleanupStep cfg s c .silent
        (s.setCleanup c (.waitStartup (c.ctx.withDeadline .startupWait (s.now + c.timeout / 4))))
  | startupOver (waitCtx) (pc : c.pc = .waitStartup waitCtx)
      (isOver : s.startupDone = some true) :
      CleanupStep cfg s c .silent (s.setCleanup c .readRecord)
  | startupLate (waitCtx) (pc : c.pc = .waitStartup waitCtx)
      (late : s.startupDone ≠ some true) (expired : s.ctxDone waitCtx = true) :
      CleanupStep cfg s c .silent (s.setCleanup { c with startupErr := true } .readRecord)
  | recordRead (pc : c.pc = .readRecord) (free : s.lifecycleMu = false) :
      CleanupStep cfg s c .silent (s.setCleanup { c with record := s.registration } .deregister)
  | noRecord (pc : c.pc = .deregister) (missing : c.record = none) :
      CleanupStep cfg s c .silent (s.setCleanup c .stopRequests)
  | deregisterCalled (record : ρ) (pc : c.pc = .deregister) (found : c.record = some record) :
      CleanupStep cfg s c (.deregisterCalled (c.ctx.withDeadline .deregister (s.now + c.timeout / 4)) record)
        (s.setCleanup c (.deregistering (c.ctx.withDeadline .deregister (s.now + c.timeout / 4))))
  -- the registrar answered, or its part of the budget is used up
  | deregistered (ctx) (pc : c.pc = .deregistering ctx) :
      CleanupStep cfg s c .silent (s.setCleanup c .stopRequests)
  | requestsClosed (pc : c.pc = .stopRequests) :
      CleanupStep cfg s c .silent ({ s with requests := s.requests.close }.setCleanup c .countRequests)
  | requestsCounted (pc : c.pc = .countRequests) (free : s.requests.locked = false) :
      CleanupStep cfg s c .silent
        ({ s with requests := s.requests.watch }.setCleanup c
          (if s.requests.active = 0 then .drain else .waitRequests))
  | requestsDrained (pc : c.pc = .waitRequests) (drained : s.requests.drained = some true) :
      CleanupStep cfg s c .silent (s.setCleanup c .drain)
  | requestsLate (pc : c.pc = .waitRequests) (expired : s.ctxDone c.ctx = true) :
      CleanupStep cfg s c .silent (s.setCleanup { c with requestErr := true } .drain)
  | drainSkipped (pc : c.pc = .drain) (skip : c.requestErr = true ∨ cfg.drain = false) :
      CleanupStep cfg s c .silent (s.setCleanup c .stopDeliveries)
  | drainCalled (pc : c.pc = .drain) (idle : c.requestErr = false) (configured : cfg.drain = true) :
      CleanupStep cfg s c (.drainCalled c.ctx) ({ s with drain := .running }.setCleanup c .draining)
  | drainOver (ok) (pc : c.pc = .draining) (returned : s.drain = .returned ok) :
      CleanupStep cfg s c .silent (s.setCleanup { c with drainErr := !ok } .stopDeliveries)
  | drainLate (pc : c.pc = .draining) (expired : s.ctxDone c.ctx = true) :
      CleanupStep cfg s c .silent
        (s.setCleanup { c with drainErr := true, lateDrain := true } .stopDeliveries)
  | deliveriesClosed (pc : c.pc = .stopDeliveries) :
      CleanupStep cfg s c .silent ({ s with deliveries := s.deliveries.close }.setCleanup c .countDeliveries)
  | deliveriesCounted (pc : c.pc = .countDeliveries) (free : s.deliveries.locked = false) :
      CleanupStep cfg s c .silent
        ({ s with deliveries := s.deliveries.watch }.setCleanup c
          (if s.deliveries.active = 0 then .loadLease else .waitDeliveries))
  | deliveriesDrained (pc : c.pc = .waitDeliveries) (drained : s.deliveries.drained = some true) :
      CleanupStep cfg s c .silent (s.setCleanup c .loadLease)
  | deliveriesLate (pc : c.pc = .waitDeliveries) (expired : s.ctxDone c.ctx = true) :
      CleanupStep cfg s c .silent (s.setCleanup { c with deliveryErr := true } .loadLease)
  | leaseLoaded (pc : c.pc = .loadLease) :
      CleanupStep cfg s c .silent
        (s.setCleanup { c with lease := s.lease.isSome }
          (if c.drained = false ∨ c.startupErr = true then .cancelLease .stop else .network))
  -- `stopRenewal` and `release` of a lease that is nil
  | leaseMissing (job : LeaseJob K V) (pc : c.pc = .cancelLease job)
      (missing : c.leaseOf s job = none) :
      CleanupStep cfg s c .silent (s.setCleanup c job.next)
  | leaseCancelled (job : LeaseJob K V) (pc : c.pc = .cancelLease job)
      (found : c.leaseOf s job ≠ none) :
      CleanupStep cfg s c (if job.releases then .releaseCalled (c.leaseCtx job) else .silent)
        ((s.cancelLease .canceled).setCleanup c (.readDone job))
  | neverStarted (job : LeaseJob K V) (l : NodeLease) (pc : c.pc = .readDone job)
      (lease : s.lease = some l) (missing : l.done = none) :
      CleanupStep cfg s c .silent (s.setCleanup c (if job.releases then .unregister job else job.next))
  | renewalFound (job) (l : NodeLease) (pc : c.pc = .readDone job)
      (lease : s.lease = some l) (found : l.done ≠ none) :
      CleanupStep cfg s c .silent (s.setCleanup c (.waitDone job))
  | renewalOver (job : LeaseJob K V) (l : NodeLease) (pc : c.pc = .waitDone job)
      (lease : s.lease = some l) (isOver : l.done = some true) :
      CleanupStep cfg s c .silent (s.setCleanup c (if job.releases then .unregister job else job.next))
  -- the epoch is left to its time to live
  | renewalLate (job : LeaseJob K V) (pc : c.pc = .waitDone job)
      (expired : s.ctxDone (c.leaseCtx job) = true) :
      CleanupStep cfg s c .silent (s.setCleanup c job.next)
  | alreadyReleased (job : LeaseJob K V) (l : NodeLease) (pc : c.pc = .unregister job)
      (lease : s.lease = some l) (released : l.released = true) :
      CleanupStep cfg s c .silent (s.setCleanup c job.next)
  | unregisterCalled (job) (l : NodeLease) (pc : c.pc = .unregister job)
      (lease : s.lease = some l) (held : l.released = false) :
      CleanupStep cfg s c (.unregisterCalled (c.leaseCtx job)) (s.setCleanup c (.unregistering job))
  -- the store removed the epoch, or no longer had it
  | unregistered (job : LeaseJob K V) (pc : c.pc = .unregistering job) :
      CleanupStep cfg s c .silent (s.setReleased.setCleanup c job.next)
  | unregisterFailed (job : LeaseJob K V) (pc : c.pc = .unregistering job) :
      CleanupStep cfg s c .silent (s.setCleanup c job.next)
  | networkStopped (pc : c.pc = .network) :
      CleanupStep cfg s c .silent (s.setCleanup c .clearIdentity)
  | identityCleared (pc : c.pc = .clearIdentity) :
      CleanupStep cfg s c .silent
        ({ s with identity := false }.setCleanup c
          (if c.drained = true ∧ c.startupErr = false then .cancelLease .release else .decideLate))
  | inTime (pc : c.pc = .decideLate) (done : c.startupErr = false) :
      CleanupStep cfg s c .silent (s.setCleanup c .joinDrain)
  | overtaken (pc : c.pc = .decideLate) (late : c.startupErr = true) :
      CleanupStep cfg s c .silent (s.setCleanup c .waitLate)
  | startupCaughtUp (pc : c.pc = .waitLate) (isOver : s.startupDone = some true) :
      CleanupStep cfg s c (.budgetOpened s.now)
        (s.setCleanup c (.readLateRecord (c.base.withDeadline .late (s.now + c.timeout))))
  | lateRecordRead (ctx) (pc : c.pc = .readLateRecord ctx)
      (free : s.lifecycleMu = false) :
      CleanupStep cfg s c .silent (s.setCleanup { c with lateRecord := s.registration } (.lateDeregister ctx))
  -- the same pointer, or nothing that could be deregistered
  | noLateRecord (ctx) (pc : c.pc = .lateDeregister ctx)
      (known : c.lateRecord = c.record ∨ c.lateRecord = none) :
      CleanupStep cfg s c .silent (s.setCleanup c (.chooseLate ctx))
  | lateDeregisterCalled (ctx : Ctx K V) (record : ρ) (pc : c.pc = .lateDeregister ctx)
      (found : c.lateRecord = some record) (new : c.lateRecord ≠ c.record) :
      CleanupStep cfg s c
        (.deregisterCalled (ctx.withDeadline .lateDeregister (s.now + c.timeout / 4)) record)
        (s.setCleanup c (.lateDeregistering ctx (ctx.withDeadline .lateDeregister (s.now + c.timeout / 4))))
  | lateDeregistered (ctx deregisterCtx)
      (pc : c.pc = .lateDeregistering ctx deregisterCtx) :
      CleanupStep cfg s c .silent (s.setCleanup c (.chooseLate ctx))
  | lateChosen (ctx) (pc : c.pc = .chooseLate ctx) :
      CleanupStep cfg s c .silent
        (s.setCleanup c (.cancelLease (if c.drained then .lateRelease ctx else .lateStop ctx)))
  | lateIdentityCleared (pc : c.pc = .clearLateIdentity) :
      CleanupStep cfg s c .silent ({ s with identity := false }.setCleanup c .joinDrain)
  | finished (pc : c.pc = .joinDrain)
      (joined : c.lateDrain = false ∨ ∃ ok, s.drain = .returned ok) :
      CleanupStep cfg s c .cleanupFinished { s with cleanup := .finished }

inductive NodeStep (cfg : LifecycleConfig) :
    Server K V ρ → NodeEvent K V ρ → Server K V ρ → Prop where
  | outside {s s' e} (h : OutsideStep s e s') :
      NodeStep cfg s e s'
  | start {s s' e} (h : StartStep cfg s e s') :
      NodeStep cfg s e s'
  | task {s s' e} (h : TaskStep cfg s e s') :
      NodeStep cfg s e s'
  | cleanupBegun (s : Server K V ρ) (base timeout)
      (at_ : s.cleanup = .spawned base timeout) :
      NodeStep cfg s (.budgetOpened s.now) { s with cleanup := .running (s.newCleanup base timeout) }
  | cleanup {s s' : Server K V ρ} {c e}
      (at_ : s.cleanup = .running c) (h : CleanupStep cfg s c e s') : NodeStep cfg s e s'

end Steps

def newServer (K V ρ : Type) : Server K V ρ where
  now := 0
  cancelled _ := false
  lifecycleMu := false
  state := .fresh
  startCtx := .background
  startupDone := none
  lifecycleCtx := none
  fatal := false
  lease := none
  ready := none
  identity := false
  requests := .new
  deliveries := .new
  registration := none
  registrationLost := false
  drain := .idle
  start := .idle
  cleanup := .idle
  tasks := []

/-! ## A node that starts, serves and is stopped -/

def sampleConfig : LifecycleConfig where
  stateful := true
  drain := true
  cleanupTimeout := 3000000000
  shutdownTimeout := 10000000000

def sampleCtx : Ctx Unit String := Context.background.withValue () "game"

def sampleServing : Server Unit String Unit :=
  { newServer Unit String Unit with
    cancelled := update (fun _ => false) .startup true
    state := .started
    startCtx := sampleCtx
    startupDone := some true
    lifecycleCtx := some sampleCtx.withoutCancel
    lease := some ⟨⟨30000000000, none⟩, some false, false⟩
    ready := some true
    identity := true
    requests := ⟨.opened, false, 0, none⟩
    deliveries := ⟨.opened, false, 0, none⟩
    registration := some ()
    start := .serving true
    tasks := [.monitoring] }

theorem sample_starts : ∃ es, Run (NodeStep sampleConfig) (newServer Unit String Unit) es
    sampleServing ∧ .startEntered sampleCtx ∈ es ∧ .registered () ∈ es := by
  refine ⟨_, .cons (.start (.entered _ (some sampleCtx) rfl rfl rfl)) <| .cons (.start (.appFound _ rfl)) <|
    .cons (.start (.prepared _ rfl)) <|
    .cons (.start (.claimed _ ⟨30000000000, none⟩ false rfl rfl)) <|
    .cons (.start (.stored _ _ _ rfl)) <|
    .cons (.start (.claimAccepted _ rfl rfl)) <|
    .cons (.start (.published _ rfl)) <|
    .cons (.start (.leaseStarted _ _ rfl rfl rfl)) <|
    .cons (.task (.firstRenewal _ List.mem_cons_self rfl)) <|
    .cons (.start (.readyOk _ rfl rfl)) <|
    .cons (.start (.leaseValid _ rfl rfl)) <|
    .cons (.start (.readyAlive _ rfl rfl)) <|
    .cons (.start (.accepting _ rfl)) <|
    .cons (.start (.servedAlive _ rfl rfl)) <|
    .cons (.start (.registered _ () rfl)) <|
    .cons (.start (.recordAccepted _ () rfl rfl rfl rfl rfl)) <|
    .cons (.start (.opened _ rfl)) <|
    .cons (.start (.startupOver _ rfl)) <| .nil _, ?_, ?_⟩
  · exact List.mem_cons_self
  · exact List.mem_of_getElem? (i := 14) rfl

variable (stopCtx : Ctx Unit String)

def sampleCleanupCtx : Ctx Unit String := stopCtx.withoutCancel.withDeadline .cleanup 10000000000

def sampleCleanup (pc : CleanupPc Unit String) : Cleanup Unit String Unit :=
  { sampleServing.newCleanup stopCtx 10000000000 with
    pc := pc
    record := some () }

def sampleStopped : Server Unit String Unit :=
  { sampleServing with
    cancelled := update (update (fun _ => false) .startup true) .startup true
    requests := ⟨.closed, false, 0, none⟩
    cleanup := .running (sampleCleanup stopCtx .stopRequests)
    tasks := [.stop stopCtx .returned, .monitoring] }

theorem sample_stops : ∃ es, Run (NodeStep sampleConfig) sampleServing es (sampleStopped stopCtx) ∧
    .cleanupStarted stopCtx 10000000000 ∈ es := by
  refine ⟨_, .cons (.task (.stopCalled _ (some stopCtx))) <|
    .cons (.task (.stop (.beginStopping _ rfl) (.intro [] [Task.monitoring]))) <|
    .cons (.task (.stop (.first _ rfl rfl) (.intro [] [Task.monitoring]))) <|
    .cons (.cleanupBegun _ stopCtx 10000000000 rfl) <|
    .cons (.cleanup rfl (.startupFound rfl rfl nofun)) <|
    .cons (.cleanup rfl (.startupOver _ rfl rfl)) <|
    .cons (.cleanup rfl (.recordRead rfl rfl)) <|
    .cons (.cleanup rfl (.deregisterCalled () rfl rfl)) <|
    .cons (.cleanup rfl (.deregistered _ rfl)) <| .nil _, ?_⟩
  exact List.mem_of_getElem? (i := 2) rfl

def sampleDrained : Server Unit String Unit :=
  { sampleStopped stopCtx with
    deliveries := ⟨.closed, false, 0, none⟩
    drain := .returned true
    cleanup := .running (sampleCleanup stopCtx .loadLease) }

theorem sample_drains : ∃ es, Run (NodeStep sampleConfig) (sampleStopped stopCtx) es
    (sampleDrained stopCtx) ∧ .drainCalled (sampleCleanupCtx stopCtx) ∈ es := by
  refine ⟨_, .cons (.cleanup rfl (.requestsClosed rfl)) <| .cons (.cleanup rfl (.requestsCounted rfl rfl)) <|
    .cons (.cleanup rfl (.drainCalled rfl rfl rfl)) <|
    .cons (.outside (.drainReturned _ true rfl)) <|
    .cons (.cleanup rfl (.drainOver true rfl rfl)) <|
    .cons (.cleanup rfl (.deliveriesClosed rfl)) <|
    .cons (.cleanup rfl (.deliveriesCounted rfl rfl)) <| .nil _, ?_⟩
  exact List.mem_of_getElem? (i := 2) rfl

theorem sample_releases : ∃ es t t' es' s, Run (NodeStep sampleConfig) (sampleDrained stopCtx) es t ∧
    NodeStep sampleConfig t (.unregisterCalled (sampleCleanupCtx stopCtx)) t' ∧
    Run (NodeStep sampleConfig) t' es' s ∧ s.cleanup = .finished := by
  exact ⟨_, _, _, _, _, .cons (.cleanup rfl (.leaseLoaded rfl)) <|
    .cons (.cleanup rfl (.networkStopped rfl)) <|
    .cons (.cleanup rfl (.identityCleared rfl)) <|
    .cons (.cleanup rfl (.leaseCancelled .release rfl nofun)) <|
    .cons (.cleanup rfl (.renewalFound .release _ rfl rfl nofun)) <|
    .cons (.task (.monitorEnded _ .canceled _ (.inr rfl) (.intro [Task.stop stopCtx .returned] []))) <|
    .cons (.task (.monitorLeft _ _ (.intro [Task.stop stopCtx .returned] []))) <|
    .cons (.cleanup rfl (.renewalOver .release _ rfl rfl rfl)) <| .nil _,
    .cleanup rfl (.unregisterCalled .release _ rfl rfl rfl),
    .cons (.cleanup rfl (.unregistered .release rfl)) <|
    .cons (.cleanup rfl (.inTime rfl rfl)) <|
    .cons (.cleanup rfl (.finished rfl (.inl rfl))) <| .nil _, rfl⟩

/-- The whole life of the node, cut at the call that gives up its epoch. -/
theorem sample_run : ∃ es t t' es' s, Run (NodeStep sampleConfig) (newServer Unit String Unit) es t ∧
    NodeStep sampleConfig t (.unregisterCalled (sampleCleanupCtx stopCtx)) t' ∧
    Run (NodeStep sampleConfig) t' es' s ∧ s.cleanup = .finished ∧
    ∃ before after, es = before ++ .cleanupStarted stopCtx 10000000000 :: after ∧
      .startEntered sampleCtx ∈ before ∧ .registered () ∈ before ∧
      .drainCalled (sampleCleanupCtx stopCtx) ∈ es := by
  obtain ⟨es₁, hstart, hent, hreg⟩ := sample_starts
  obtain ⟨es₂, hstop, htriggered⟩ := sample_stops stopCtx
  obtain ⟨es₃, hdrain, hdrn⟩ := sample_drains stopCtx
  obtain ⟨es₄, t, t', es', s, hrelease, hcall, hrest, hfin⟩ := sample_releases stopCtx
  obtain ⟨pre, post, rfl⟩ := List.append_of_mem htriggered
  refine ⟨_, t, t', es', s, ((hstart.append hstop).append hdrain).append hrelease, hcall, hrest,
    hfin, es₁ ++ pre, post ++ es₃ ++ es₄, by simp, ?_, ?_, ?_⟩
  · exact List.mem_append_left _ hent
  · exact List.mem_append_left _ hreg
  · exact List.mem_append_left _ (List.mem_append_right _ hdrn)

end Yola.Node
