import Yola.Node.EpochExclusion

/-!
# Dispatch of requests

Processes that share a node id handle `Forward` and `Disconnect` calls of gateways.  A handling reads
the published identity, the lease and the store one after the other; anybody can act in between, so it
is cut after each of these reads.  A read of the store is out until a reply is taken, and it may be
served late, more than once or not at all.
-/

namespace Yola.Node

open Text Redis Locate Locate.Redis

inductive Code where
  | invalidArgument
  | aborted
  | unavailable
  | internal
  | unimplemented
deriving DecidableEq

/-- What a call returns: a gRPC status, or the error of a context as it is. -/
inductive CallFailure where
  | status (code : Code) (message : String)
  | context
deriving DecidableEq

structure StickyClaim where
  nodeID : Bytes
  epoch : Bytes
deriving DecidableEq

structure NodeIdentity where
  serviceName : Bytes
  nodeID : Bytes
  epoch : Bytes
deriving DecidableEq

/-- A call of a gateway; the body of a `Forward` is passed on and read by nobody here. -/
inductive Rpc where
  | forward (claim : StickyClaim) (binding : GateBinding) (command : Int)
  | disconnect (binding : GateBinding)
deriving DecidableEq

namespace Rpc

def binding : Rpc → GateBinding
  | forward _ binding _ | disconnect binding => binding

def invalidRoute : Rpc → String
  | forward _ _ _ => "invalid forward route"
  | disconnect _ => "invalid disconnect route"

end Rpc

def currentIdentity (published : Option NodeIdentity) : NodeIdentity := published.getD ⟨[], [], []⟩

/-- `routeIdentity`, up to its check of the epoch. -/
def routeIdentity (published : Option NodeIdentity) (binding : GateBinding) :
    Except CallFailure NodeIdentity :=
  let identity := currentIdentity published
  if identity.serviceName = [] ∨ identity.serviceName ≠ binding.serviceName then
    .error (.status .aborted "node service mismatch")
  else .ok identity

/-- The checks both calls make of their route. -/
def checkRoute (published : Option NodeIdentity) (rpc : Rpc) : Except CallFailure NodeIdentity :=
  if !validGateBinding rpc.binding then .error (.status .invalidArgument rpc.invalidRoute)
  else routeIdentity published rpc.binding

/-- `fenceStickyClaim`, up to its call of `checkNodeBinding`: whether there is a claim to check. -/
def fenceStickyClaim (claim : StickyClaim) (identity : NodeIdentity) : Except CallFailure Bool :=
  if (claim.nodeID == []) != (claim.epoch == []) then
    .error (.status .invalidArgument "invalid node claim")
  else if claim.nodeID = [] then .ok false
  else if identity.nodeID ≠ claim.nodeID then .error (.status .aborted "node binding changed")
  else if claim.epoch ≠ identity.epoch then .error (.status .aborted "node epoch mismatch")
  else .ok true

/-- `mapNodeLocatorError`, of an error that is not one of a context. -/
def mapNodeLocatorError (err : CallError) : CallFailure :=
  match err.sentinel with
  | some .invalidNodeBinding | some .invalidNodeEpoch =>
      .status .internal "invalid node locator state"
  | some .nodeNotFound | some .nodeConflict => .status .aborted "node binding changed"
  | _ => .status .unavailable "node locator is unavailable"

inductive HandlingPc where
  | arrived
  -- a `Forward` asks for admission first, a `Disconnect` after its route
  | admitted
  | identified (identity : NodeIdentity)
  | routed (identity : NodeIdentity)
  | leased (identity : NodeIdentity)
  | locating (identity : NodeIdentity) (replies : List (Except CallError Bytes))
  | located (identity : NodeIdentity)
  | fenced
  | handling
  | returned (failure : Option CallFailure)
deriving DecidableEq

structure DispatchConfig (ι : Type) where
  epochs : EpochConfig ι
  /-- Whether the process has a locator. -/
  stateful : ι → Bool
  handlers : ι → Int → Bool
  onDisconnect : ι → Bool

structure Dispatch (ι : Type) where
  cluster : Cluster ι
  identity : ι → Option NodeIdentity
  handling : ι × Nat → Option (Rpc × HandlingPc)

inductive DispatchEvent (ι : Type) where
  | silent
  | arrived (i : ι) (k : Nat) (rpc : Rpc)
  | located (i : ι) (k : Nat) (rpc : Rpc) (reply : Except CallError Bytes)
  | fencePassed (i : ι) (k : Nat) (rpc : Rpc)
  | handlerCalled (i : ι) (k : Nat) (rpc : Rpc)

namespace DispatchConfig

variable {ι : Type} (cfg : DispatchConfig ι)

def nodeIdentity (i : ι) : NodeIdentity where
  serviceName := cfg.epochs.serviceName
  nodeID := cfg.epochs.nodeID
  epoch := if cfg.stateful i then cfg.epochs.epoch i else []

/-- `LocateNode`, when the store gets to it. -/
def locate (c : Cluster ι) (binding : GateBinding) : Except CallError Bytes :=
  (locateNode (cfg.epochs.millis c) binding.serviceName binding.uid c.db).1

/-- `checkEpoch`: the error of the lease, which may be nil, and what `valid` does to it. -/
def checkEpoch [DecidableEq ι] (c : Cluster ι) (i : ι) : Option Cause × Cluster ι :=
  match (c.process i).lease with
  | none => (none, c)
  | some l =>
      ((l.valid (cfg.epochs.now c i)).1,
        c.set i { c.process i with lease := some (l.valid (cfg.epochs.now c i)).2 })

end DispatchConfig

namespace Dispatch

variable {ι : Type} [DecidableEq ι] (s : Dispatch ι)

def goto (i : ι) (k : Nat) (rpc : Rpc) (pc : HandlingPc) : Dispatch ι :=
  { s with handling := Function.update s.handling (i, k) (some (rpc, pc)) }

def fail (i : ι) (k : Nat) (rpc : Rpc) (failure : CallFailure) : Dispatch ι :=
  s.goto i k rpc (.returned (some failure))

end Dispatch

section Step

variable {ι : Type} [DecidableEq ι]

/-- The leases, the store and the lifecycle of the processes. -/
inductive SurroundingStep (cfg : DispatchConfig ι) : Dispatch ι → Dispatch ι → Prop where
  | cluster (s : Dispatch ι) (c a)
      (step : EpochStep cfg.epochs s.cluster a c)
      (claims : ∀ i, a = .claimBegin i → cfg.stateful i = true) :
      SurroundingStep cfg s { s with cluster := c }
  -- a process with a locator publishes after it has stored its lease
  | published (s : Dispatch ι) (i)
      (claimed : cfg.stateful i = true → (s.cluster.process i).lease ≠ none) :
      SurroundingStep cfg s { s with identity := Function.update s.identity i (some (cfg.nodeIdentity i)) }
  | cleared (s : Dispatch ι) (i) :
      SurroundingStep cfg s { s with identity := Function.update s.identity i none }

inductive HandlingStep (cfg : DispatchConfig ι) (s : Dispatch ι) (i : ι) (k : Nat) (rpc : Rpc) :
    HandlingPc → DispatchEvent ι → Dispatch ι → Prop where
  | draining (pc)
      (place : (∃ claim binding command, rpc = .forward claim binding command) ∧ pc = .arrived ∨
        (∃ binding, rpc = .disconnect binding) ∧ ∃ identity, pc = .routed identity) :
      HandlingStep cfg s i k rpc pc .silent
        (s.fail i k rpc (.status .unavailable "node is draining"))
  | forwardAdmitted (claim binding command)
      (forward : rpc = .forward claim binding command) :
      HandlingStep cfg s i k rpc .arrived .silent (s.goto i k rpc .admitted)
  | misrouted (pc failure)
      (place : pc = .admitted ∨ (∃ binding, rpc = .disconnect binding) ∧ pc = .arrived)
      (refused : checkRoute (s.identity i) rpc = .error failure) :
      HandlingStep cfg s i k rpc pc .silent (s.fail i k rpc failure)
  | identified (pc identity)
      (place : pc = .admitted ∨ (∃ binding, rpc = .disconnect binding) ∧ pc = .arrived)
      (found : checkRoute (s.identity i) rpc = .ok identity) :
      HandlingStep cfg s i k rpc pc .silent (s.goto i k rpc (.identified identity))
  | epochInvalid (pc identity)
      (place : pc = .identified identity ∨ pc = .located identity)
      (isOver : (cfg.checkEpoch s.cluster i).1 ≠ none) :
      HandlingStep cfg s i k rpc pc .silent
        ({ s with cluster := (cfg.checkEpoch s.cluster i).2 }.fail i k rpc
          (.status .unavailable "node epoch is unavailable"))
  | routed (identity) (valid : (cfg.checkEpoch s.cluster i).1 = none) :
      HandlingStep cfg s i k rpc (.identified identity) .silent
        ({ s with cluster := (cfg.checkEpoch s.cluster i).2 }.goto i k rpc (.routed identity))
  -- `requestContext`, for a `Disconnect` behind its admission
  | leased (identity) :
      HandlingStep cfg s i k rpc (.routed identity) .silent
        ({ s with cluster := (cfg.checkEpoch s.cluster i).2 }.goto i k rpc (.leased identity))
  | claimRefused (claim binding command identity failure)
      (forward : rpc = .forward claim binding command)
      (refused : fenceStickyClaim claim identity = .error failure) :
      HandlingStep cfg s i k rpc (.leased identity) .silent (s.fail i k rpc failure)
  | claimAbsent (claim binding command identity) (forward : rpc = .forward claim binding command)
      (absent : fenceStickyClaim claim identity = .ok false) :
      HandlingStep cfg s i k rpc (.leased identity) .silent (s.goto i k rpc .fenced)
  | locatorMissing (claim binding command identity) (forward : rpc = .forward claim binding command)
      (claimed : fenceStickyClaim claim identity = .ok true) (missing : cfg.stateful i = false) :
      HandlingStep cfg s i k rpc (.leased identity) .silent
        (s.fail i k rpc (.status .unavailable "node locator is unavailable"))
  | locateCalled (claim binding command identity) (forward : rpc = .forward claim binding command)
      (claimed : fenceStickyClaim claim identity = .ok true) (found : cfg.stateful i = true) :
      HandlingStep cfg s i k rpc (.leased identity) .silent (s.goto i k rpc (.locating identity []))
  | locateServed (identity replies) :
      HandlingStep cfg s i k rpc (.locating identity replies)
        (.located i k rpc (cfg.locate s.cluster rpc.binding))
        (s.goto i k rpc (.locating identity (cfg.locate s.cluster rpc.binding :: replies)))
  -- the context of the request ended, or no reply came through
  | locateLost (identity replies failure)
      (lost : failure = .context ∨ failure = .status .unavailable "node locator is unavailable") :
      HandlingStep cfg s i k rpc (.locating identity replies) .silent (s.fail i k rpc failure)
  | locateFailed (identity replies err) (reply : .error err ∈ replies) :
      HandlingStep cfg s i k rpc (.locating identity replies) .silent
        (s.fail i k rpc (mapNodeLocatorError err))
  | rebound (identity : NodeIdentity) (replies nodeID)
      (reply : .ok nodeID ∈ replies) (other : nodeID ≠ identity.nodeID) :
      HandlingStep cfg s i k rpc (.locating identity replies) .silent
        (s.fail i k rpc (.status .aborted "node binding changed"))
  | bound (identity : NodeIdentity) (replies)
      (reply : .ok identity.nodeID ∈ replies) :
      HandlingStep cfg s i k rpc (.locating identity replies) .silent (s.goto i k rpc (.located identity))
  | fencePassed (identity) (valid : (cfg.checkEpoch s.cluster i).1 = none) :
      HandlingStep cfg s i k rpc (.located identity) (.fencePassed i k rpc)
        ({ s with cluster := (cfg.checkEpoch s.cluster i).2 }.goto i k rpc .fenced)
  | unimplemented (claim binding command)
      (forward : rpc = .forward claim binding command) (missing : cfg.handlers i command = false) :
      HandlingStep cfg s i k rpc .fenced .silent
        (s.fail i k rpc (.status .unimplemented s!"unimplemented Command={command}"))
  | forwardHandled (claim binding command)
      (forward : rpc = .forward claim binding command) (found : cfg.handlers i command = true) :
      HandlingStep cfg s i k rpc .fenced (.handlerCalled i k rpc) (s.goto i k rpc .handling)
  | disconnectHandled (binding identity)
      (disconnect : rpc = .disconnect binding) (found : cfg.onDisconnect i = true) :
      HandlingStep cfg s i k rpc (.leased identity) (.handlerCalled i k rpc) (s.goto i k rpc .handling)
  | disconnectIgnored (binding identity)
      (disconnect : rpc = .disconnect binding) (missing : cfg.onDisconnect i = false) :
      HandlingStep cfg s i k rpc (.leased identity) .silent (s.goto i k rpc (.returned none))
  | handlerReturned (failure) :
      HandlingStep cfg s i k rpc .handling .silent (s.goto i k rpc (.returned failure))

inductive DispatchStep (cfg : DispatchConfig ι) :
    Dispatch ι → DispatchEvent ι → Dispatch ι → Prop where
  | surrounding {s s'} (h : SurroundingStep cfg s s') : DispatchStep cfg s .silent s'
  | arrived (s : Dispatch ι) (i k rpc) (new : s.handling (i, k) = none) :
      DispatchStep cfg s (.arrived i k rpc) (s.goto i k rpc .arrived)
  | handling {s s' : Dispatch ι} {i k rpc pc e} (at_ : s.handling (i, k) = some (rpc, pc))
      (h : HandlingStep cfg s i k rpc pc e s') : DispatchStep cfg s e s'

end Step

def DispatchConfig.Init {ι : Type} (cfg : DispatchConfig ι) (s : Dispatch ι) : Prop :=
  cfg.epochs.Init s.cluster ∧ (∀ i, s.identity i = none) ∧ ∀ c, s.handling c = none

end Yola.Node
