import Yola.Go.Context
import Yola.Node.Admission
import Yola.Node.Epoch

/-!
# The lifecycle of a node

A node starts once, is stopped by whoever comes first, and cleans up once.  Every method is cut where
another goroutine can act: at each lock, each wait, each call of the store, the registrar or the
business code.  A call that the source makes in a goroutine of its own is out from the `go` statement
on and may return at any time.
-/

namespace Yola.Node

open Go

/-- The cancel functions of contexts: those of callers, and those the server makes. -/
inductive CancelId where
  | caller (n : Nat)
  | startup
  | cleanup
  | startupWait
  | deregister
  | late
  | lateDeregister
deriving DecidableEq

abbrev Ctx (K V : Type) := Context CancelId K V

def normalizeContext {K V : Type} (ctx : Option (Ctx K V)) : Ctx K V := ctx.getD .background

inductive LifecycleState where
  | fresh
  | starting
  | started
deriving DecidableEq

/-- What the server holds of its `epochLease`: the channel `done` is made by `start`. -/
structure NodeLease where
  epoch : EpochLease
  done : Option Bool
  released : Bool
deriving DecidableEq

structure LifecycleConfig where
  stateful : Bool
  drain : Bool
  cleanupTimeout : Nat
  shutdownTimeout : Nat

inductive TriggerPc where
  | beginStopping
  | once
  | returned
deriving DecidableEq

inductive FailPc where
  | beginStopping
  | closeDeliveries
  | cancelFatal
  | readState
  | trigger (timeout : Nat) (pc : TriggerPc)
deriving DecidableEq

/-- What the caller of `failLifecycle` has to do when it returns. -/
inductive Caller where
  | disconnect
  | request
  | delivery
  | monitor
deriving DecidableEq

/-- The goroutines that come and go: callers of `Stop`, requests, binding writes and pushes, and the
monitor of the lease. -/
inductive Task (K V : Type) where
  | stop (ctx : Ctx K V) (pc : TriggerPc)
  | disconnectRouting
  | requestAdmitting (disconnect : Bool)
  | requestChecking
  | requestFencing
  | requestHandling
  | requestLeaving
  | deliveryAdmitting (write : Bool)
  | deliveryChecking (write : Bool)
  | deliveryCalling (write : Bool)
  | deliveryLeaving
  | failing (pc : FailPc) (caller : Caller)
  | monitoring
  | monitorLeaving
  | ended

inductive StartPc (ρ : Type) where
  | idle
  | checkApp
  | prepare
  | claim
  | claimed (lease : Option EpochLease) (err : Bool)
  | checkClaim (err : Bool)
  | publish
  | startLease
  | waitReady
  | checkLease
  | checkReady
  | serve
  | checkServed
  | register
  | registered (record : ρ)
  -- `lifecycleMu` is held, and deliveries are open
  | openRequests
  | succeeded
  | failed
  | serving (watching : Bool)
  | failing (pc : FailPc)
  | stopping (timeout : Nat) (pc : TriggerPc)
  | returned

/-- What `cleanup` does with the lease, and in which of its two phases. -/
inductive LeaseJob (K V : Type) where
  | stop
  | release
  | lateStop (ctx : Ctx K V)
  | lateRelease (ctx : Ctx K V)

inductive CleanupPc (K V : Type) where
  | readStartup
  | waitStartup (waitCtx : Ctx K V)
  | readRecord
  | deregister
  | deregistering (ctx : Ctx K V)
  | stopRequests
  | countRequests
  | waitRequests
  | drain
  | draining
  | stopDeliveries
  | countDeliveries
  | waitDeliveries
  | loadLease
  | cancelLease (job : LeaseJob K V)
  | readDone (job : LeaseJob K V)
  | waitDone (job : LeaseJob K V)
  | unregister (job : LeaseJob K V)
  | unregistering (job : LeaseJob K V)
  | network
  | clearIdentity
  | decideLate
  | waitLate
  | readLateRecord (ctx : Ctx K V)
  | lateDeregister (ctx : Ctx K V)
  | lateDeregistering (ctx deregisterCtx : Ctx K V)
  | chooseLate (ctx : Ctx K V)
  | clearLateIdentity
  | joinDrain

/-- The local variables of `cleanup`. -/
structure Cleanup (K V ρ : Type) where
  pc : CleanupPc K V
  base : Ctx K V
  ctx : Ctx K V
  timeout : Nat
  startupErr : Bool
  record : Option ρ
  requestErr : Bool
  drainErr : Bool
  lateDrain : Bool
  deliveryErr : Bool
  lease : Bool
  lateRecord : Option ρ

inductive CleanupState (K V ρ : Type) where
  | idle
  | spawned (base : Ctx K V) (timeout : Nat)
  | running (c : Cleanup K V ρ)
  | finished

inductive DrainState where
  | idle
  | running
  | returned (ok : Bool)
deriving DecidableEq

/-- `Server`, with the clock, the cancel functions called so far, and all goroutines. -/
structure Server (K V ρ : Type) where
  now : Nat
  cancelled : CancelId → Bool
  lifecycleMu : Bool
  state : LifecycleState
  /-- The argument of the `Start` that got in. -/
  startCtx : Ctx K V
  startupDone : Option Bool
  lifecycleCtx : Option (Ctx K V)
  fatal : Bool
  lease : Option NodeLease
  /-- The first result of the monitor, once it is sent. -/
  ready : Option Bool
  /-- Whether an identity is published. -/
  identity : Bool
  requests : Admission
  deliveries : Admission
  registration : Option ρ
  /-- The channel `Done` of the registrar is closed. -/
  registrationLost : Bool
  drain : DrainState
  start : StartPc ρ
  cleanup : CleanupState K V ρ
  tasks : List (Task K V)

inductive NodeEvent (K V ρ : Type) where
  | silent
  | startEntered (ctx : Ctx K V)
  | leaseClaimed
  | registered (record : ρ)
  | cleanupStarted (base : Ctx K V) (timeout : Nat)
  | budgetOpened (now : Nat)
  | deregisterCalled (ctx : Ctx K V) (record : ρ)
  | drainCalled (ctx : Ctx K V)
  | drainReturned (ok : Bool)
  | releaseCalled (ctx : Ctx K V)
  | unregisterCalled (ctx : Ctx K V)
  | requestAdmitted
  | handlerCalled
  | deliveryAdmitted
  | bindingWritten
  | cleanupFinished

namespace Server

variable {K V ρ : Type} (s : Server K V ρ)

def ctxDone (ctx : Ctx K V) : Bool := ctx.done s.cancelled s.now

def startupCtx : Ctx K V := s.startCtx.withCancel .startup

def startupError : Bool := s.requests.isClosed || s.ctxDone s.startupCtx

/-- `lease.valid`, for a lease that may be nil. -/
def validLease : Option Cause × Server K V ρ :=
  (s.lease.bind fun l => (l.epoch.valid s.now).1,
    { s with lease := s.lease.map fun l => { l with epoch := (l.epoch.valid s.now).2 } })

def cancelLease (cause : Cause) : Server K V ρ :=
  { s with lease := s.lease.map fun l => { l with epoch := l.epoch.cancel cause } }

def setReleased : Server K V ρ := { s with lease := s.lease.map fun l => { l with released := true } }

/-- `beginStopping`; the cancel function of the startup is there once `Start` got in. -/
def beginStopping : Server K V ρ :=
  { s with
    requests := s.requests.close
    cancelled :=
      if s.state = .fresh then s.cancelled else Function.update s.cancelled .startup true }

/-- `base` after the block of `startCleanup` under `lifecycleMu`.  The variable that block declares
is another one and ends with it. -/
def cleanupBase (base : Ctx K V) : Ctx K V :=
  match s.lifecycleCtx with
  | some lifecycleCtx =>
      let _base := lifecycleCtx
      base
  | none => base

/-- `cleanup` up to its first wait. -/
def newCleanup (base : Ctx K V) (timeout : Nat) : Cleanup K V ρ where
  pc := .readStartup
  base := base.withoutCancel
  ctx := base.withoutCancel.withDeadline .cleanup (s.now + timeout)
  timeout := timeout
  startupErr := false
  record := none
  requestErr := false
  drainErr := false
  lateDrain := false
  deliveryErr := false
  lease := false
  lateRecord := none

def setStart (pc : StartPc ρ) : Server K V ρ := { s with start := pc }

def setTasks (tasks : List (Task K V)) : Server K V ρ := { s with tasks := tasks }

def setCleanup (c : Cleanup K V ρ) (pc : CleanupPc K V) : Server K V ρ :=
  { s with cleanup := .running { c with pc := pc } }

end Server

namespace Cleanup

variable {K V ρ : Type} (c : Cleanup K V ρ)

def drained : Bool := !c.requestErr && !c.drainErr && !c.deliveryErr

/-- The context of a call that the lease gets. -/
def leaseCtx : LeaseJob K V → Ctx K V
  | .stop | .release => c.ctx
  | .lateStop ctx | .lateRelease ctx => ctx

/-- The pointer is loaded anew in the late phase. -/
def leaseOf (s : Server K V ρ) : LeaseJob K V → Option NodeLease
  | .stop | .release => if c.lease then s.lease else none
  | .lateStop _ | .lateRelease _ => s.lease

end Cleanup

namespace LeaseJob

variable {K V : Type}

def releases : LeaseJob K V → Bool
  | release | lateRelease _ => true
  | _ => false

/-- Where `cleanup` goes on. -/
def next : LeaseJob K V → CleanupPc K V
  | stop => .network
  | release => .decideLate
  | lateStop _ | lateRelease _ => .clearLateIdentity

end LeaseJob

end Yola.Node
