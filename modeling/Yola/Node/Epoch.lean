import Yola.Locate.Redis.Node
import Yola.Reasoning.Runs
import Yola.Redis.Lease

/-!
# Epoch leases

A node process claims its node id by registering a fresh epoch and keeps a local deadline, counted
from the start of the last store call that succeeded.  Any number of processes share one store here;
their calls are cut where another goroutine, another process or the store can act in between.
A request can be served late, more than once or not at all, and a reply can be lost.
-/

namespace Yola.Node

open Function Text Redis Locate Locate.Redis

def defaultNodeEpochTTL : Duration := .wrap (30 * Duration.second)

-- The same time to live in the units of the clocks below.
def epochTTLMillis : Nat := 30000

def epochTTLNanos : Nat := epochTTLMillis * nanosPerMilli

def nodeEpochRPCTimeout : Nat := 3000 * nanosPerMilli

inductive Cause where
  | expired
  | canceled
  | ownershipLost (err : CallError)
  | other
deriving DecidableEq

/-- `epochLease`: the deadline on the local clock and the cause of the context, once cancelled. -/
structure EpochLease where
  deadline : Nat
  cause : Option Cause
deriving DecidableEq

namespace EpochLease

-- The first cause stays.
def cancel (l : EpochLease) (cause : Cause) : EpochLease := { l with cause := l.cause.or (some cause) }

/-- `valid`, at local time `now`: the error it returns and the lease it leaves. -/
def valid (l : EpochLease) (now : Nat) : Option Cause × EpochLease :=
  let l' := if now < l.deadline then l else l.cancel .expired
  (l'.cause, l')

theorem cancel_cause_ne_none (l : EpochLease) (cause : Cause) : (l.cancel cause).cause ≠ none := by
  unfold cancel
  cases l.cause <;> simp

theorem valid_eq_none_iff (l : EpochLease) (now : Nat) :
    (l.valid now).1 = none ↔ l.cause = none ∧ now < l.deadline := by
  unfold valid
  by_cases h : now < l.deadline
  · simp [h]
  · simp [h, cancel_cause_ne_none]

theorem valid_snd (l : EpochLease) (now : Nat) :
    (l.valid now).2 = l ∨ (l.valid now).2 = l.cancel .expired := by
  unfold valid
  by_cases h : now < l.deadline <;> simp [h]

end EpochLease

/-- How far `claimEpoch` has come; a call that is out carries the replies the store has produced. -/
inductive Claim where
  | idle
  | calling (started : Nat) (replies : List (Except CallError Unit))
  | returned

inductive Renewal where
  | idle
  | checked
  | started (since : Nat)
  | calling (started limit : Nat) (replies : List (Except CallError Unit))
  | replied (started : Nat)
  | accepted (started : Nat)
  | returned

def Renewal.left : Renewal → Bool
  | replied _ | accepted _ | returned => true
  | _ => false

/-- The store call is out or has just come back. -/
def Renewal.underWay : Renewal → Bool
  | calling _ _ _ | replied _ => true
  | _ => false

def renewalDeadline (deadline started : Nat) : Nat :=
  let rpcDeadline := started + nodeEpochRPCTimeout
  if rpcDeadline < deadline then rpcDeadline else deadline

structure EpochProcess where
  claim : Claim
  lease : Option EpochLease
  renewals : Nat → Renewal
  releasing : Bool

def EpochProcess.setRenewal (p : EpochProcess) (k : Nat) (r : Renewal) : EpochProcess :=
  { p with renewals := update p.renewals k r }

theorem EpochProcess.setRenewal_self (p : EpochProcess) (k : Nat) (r : Renewal) :
    (p.setRenewal k r).renewals k = r := update_self ..

theorem EpochProcess.setRenewal_of_ne (p : EpochProcess) (r : Renewal) {k k' : Nat} (h : k' ≠ k) :
    (p.setRenewal k r).renewals k' = p.renewals k' := update_of_ne h ..

/-- Processes that share a node id, with the offsets of their clocks and of the store's. -/
structure EpochConfig (ι : Type) where
  serviceName : Bytes
  nodeID : Bytes
  epoch : ι → Bytes
  distinct : Injective epoch
  clientClock : ι → Nat
  serverClock : Nat
  decode : Decode

structure Cluster (ι : Type) where
  t : Nat
  db : Db
  process : ι → EpochProcess

namespace EpochConfig

variable {ι : Type} (cfg : EpochConfig ι)

def key : Bytes := nodeEpochKey cfg.serviceName cfg.nodeID

def clocks (i : ι) : Clocks := ⟨cfg.clientClock i, cfg.serverClock⟩

def millis (s : Cluster ι) : Nat := (s.t + cfg.serverClock) / nanosPerMilli

def now (s : Cluster ι) (i : ι) : Nat := s.t + cfg.clientClock i

def register (s : Cluster ι) (i : ι) : Except CallError Unit × Db :=
  registerNodeEpoch (cfg.millis s) cfg.serviceName cfg.nodeID (cfg.epoch i) defaultNodeEpochTTL s.db

def renew (s : Cluster ι) (i : ι) : Except CallError Unit × Db :=
  renewNodeEpoch cfg.decode (cfg.millis s) cfg.serviceName cfg.nodeID (cfg.epoch i) defaultNodeEpochTTL s.db

def unregister (s : Cluster ι) (i : ι) : Except CallError Unit × Db :=
  unregisterNodeEpoch cfg.decode (cfg.millis s) cfg.serviceName cfg.nodeID (cfg.epoch i) s.db

end EpochConfig

/-- The store's verdicts that end a lease at once. -/
def lostOwnership (err : CallError) : Bool :=
  err.sentinel == some .nodeEpochNotFound || err.sentinel == some .nodeEpochConflict

inductive EpochAction (ι : Type) where
  | elapse (ns : Nat)
  | evict (key : Bytes)
  | elsewhere
  | claimBegin (i : ι)
  | claimServed (i : ι)
  | claimConfirmed (i : ι)
  | claimFailed (i : ι)
  | validCalled (i : ι)
  | cancelled (i : ι)
  | renewChecked (i : ι) (k : Nat)
  | renewStarted (i : ι) (k : Nat)
  | renewIssued (i : ι) (k : Nat)
  | renewServed (i : ι) (k : Nat)
  | renewReplied (i : ι) (k : Nat)
  | renewRejected (i : ι) (k : Nat)
  | renewFailed (i : ι) (k : Nat)
  | renewAccepted (i : ι) (k : Nat)
  | renewStored (i : ι) (k : Nat)
  | releaseBegin (i : ι)
  | releaseServed (i : ι)

section Step

variable {ι : Type} [DecidableEq ι]

def Cluster.set (s : Cluster ι) (i : ι) (p : EpochProcess) : Cluster ι :=
  { s with process := update s.process i p }

theorem Cluster.set_process_self (s : Cluster ι) (i : ι) (p : EpochProcess) :
    (s.set i p).process i = p := update_self ..

theorem Cluster.set_process_of_ne (s : Cluster ι) (p : EpochProcess) {i j : ι} (h : j ≠ i) :
    (s.set i p).process j = s.process j := update_of_ne h ..

inductive EpochStep (cfg : EpochConfig ι) : Cluster ι → EpochAction ι → Cluster ι → Prop where
  | elapse (s : Cluster ι) (ns) : EpochStep cfg s (.elapse ns) { s with t := s.t + ns }
  | evict (s : Cluster ι) (key) :
      EpochStep cfg s (.evict key) { s with db := s.db.evict (cfg.millis s) key }
  -- other nodes, bindings and services share the database, not this key
  | elsewhere (s : Cluster ι) (db) (same : db cfg.key = s.db cfg.key) :
      EpochStep cfg s .elsewhere { s with db := db }
  | claimBegin (s : Cluster ι) (i) (idle : (s.process i).claim = .idle) :
      EpochStep cfg s (.claimBegin i) (s.set i { s.process i with claim := .calling (cfg.now s i) [] })
  | claimServed (s : Cluster ι) (i started replies)
      (calling : (s.process i).claim = .calling started replies) :
      EpochStep cfg s (.claimServed i)
        ({ s with db := (cfg.register s i).2 }.set i
          { s.process i with claim := .calling started ((cfg.register s i).1 :: replies) })
  | claimServedLate (s : Cluster ι) (i) (returned : (s.process i).claim = .returned) :
      EpochStep cfg s (.claimServed i) { s with db := (cfg.register s i).2 }
  | claimConfirmed (s : Cluster ι) (i started replies)
      (calling : (s.process i).claim = .calling started replies) (ok : .ok () ∈ replies) :
      EpochStep cfg s (.claimConfirmed i)
        (s.set i { s.process i with
          claim := .returned, lease := some ⟨started + epochTTLNanos, none⟩ })
  -- an error of the store, or no reply in time
  | claimFailed (s : Cluster ι) (i started replies)
      (calling : (s.process i).claim = .calling started replies) :
      EpochStep cfg s (.claimFailed i) (s.set i { s.process i with claim := .returned })
  | validCalled (s : Cluster ι) (i) (l : EpochLease) (lease : (s.process i).lease = some l) :
      EpochStep cfg s (.validCalled i) (s.set i { s.process i with lease := some (l.valid (cfg.now s i)).2 })
  -- the monitor and the session code may end a lease at any time
  | cancelled (s : Cluster ι) (i) (l : EpochLease) (cause)
      (lease : (s.process i).lease = some l) :
      EpochStep cfg s (.cancelled i) (s.set i { s.process i with lease := some (l.cancel cause) })
  | renewChecked (s : Cluster ι) (i k) (l : EpochLease)
      (idle : (s.process i).renewals k = .idle) (lease : (s.process i).lease = some l)
      (valid : (l.valid (cfg.now s i)).1 = none) :
      EpochStep cfg s (.renewChecked i k) (s.set i ((s.process i).setRenewal k .checked))
  | renewStarted (s : Cluster ι) (i k)
      (checked : (s.process i).renewals k = .checked) :
      EpochStep cfg s (.renewStarted i k) (s.set i ((s.process i).setRenewal k (.started (cfg.now s i))))
  | renewIssued (s : Cluster ι) (i k started) (l : EpochLease)
      (begun : (s.process i).renewals k = .started started) (lease : (s.process i).lease = some l) :
      EpochStep cfg s (.renewIssued i k)
        (s.set i ((s.process i).setRenewal k (.calling started (renewalDeadline l.deadline started) [])))
  | renewServed (s : Cluster ι) (i k started limit replies)
      (calling : (s.process i).renewals k = .calling started limit replies) :
      EpochStep cfg s (.renewServed i k)
        ({ s with db := (cfg.renew s i).2 }.set i
          ((s.process i).setRenewal k (.calling started limit ((cfg.renew s i).1 :: replies))))
  | renewServedLate (s : Cluster ι) (i k)
      (left : ((s.process i).renewals k).left = true) :
      EpochStep cfg s (.renewServed i k) { s with db := (cfg.renew s i).2 }
  -- a reply that comes at or after the limit is a failure
  | renewReplied (s : Cluster ι) (i k started limit replies)
      (calling : (s.process i).renewals k = .calling started limit replies)
      (ok : .ok () ∈ replies) (inTime : cfg.now s i < limit) :
      EpochStep cfg s (.renewReplied i k) (s.set i ((s.process i).setRenewal k (.replied started)))
  | renewRejected (s : Cluster ι) (i k started limit replies err) (l : EpochLease)
      (calling : (s.process i).renewals k = .calling started limit replies)
      (error : .error err ∈ replies) (lost : lostOwnership err = true)
      (lease : (s.process i).lease = some l) :
      EpochStep cfg s (.renewRejected i k)
        (s.set i { (s.process i).setRenewal k .returned with
          lease := some (l.cancel (.ownershipLost err)) })
  -- the transport failed, the context ended, or the final `valid` refused
  | renewFailed (s : Cluster ι) (i k)
      (underWay : ((s.process i).renewals k).underWay = true) :
      EpochStep cfg s (.renewFailed i k) (s.set i ((s.process i).setRenewal k .returned))
  | renewAccepted (s : Cluster ι) (i k started) (l : EpochLease)
      (replied : (s.process i).renewals k = .replied started)
      (lease : (s.process i).lease = some l) (valid : (l.valid (cfg.now s i)).1 = none) :
      EpochStep cfg s (.renewAccepted i k) (s.set i ((s.process i).setRenewal k (.accepted started)))
  | renewStored (s : Cluster ι) (i k started) (l : EpochLease)
      (accepted : (s.process i).renewals k = .accepted started)
      (lease : (s.process i).lease = some l) :
      EpochStep cfg s (.renewStored i k)
        (s.set i { (s.process i).setRenewal k .returned with
          lease := some { l with deadline := started + epochTTLNanos } })
  -- the renewal is cancelled before the epoch is given up
  | releaseBegin (s : Cluster ι) (i) (l : EpochLease) (lease : (s.process i).lease = some l) :
      EpochStep cfg s (.releaseBegin i)
        (s.set i { s.process i with lease := some (l.cancel .canceled), releasing := true })
  | releaseServed (s : Cluster ι) (i) (releasing : (s.process i).releasing = true) :
      EpochStep cfg s (.releaseServed i) { s with db := (cfg.unregister s i).2 }

end Step

/-- Nobody has claimed yet; the key may hold the epoch of a process that is none of these. -/
def EpochConfig.Init {ι : Type} (cfg : EpochConfig ι) (s : Cluster ι) : Prop :=
  (∀ i, s.process i = ⟨.idle, none, fun _ => .idle, false⟩) ∧
    ∀ i e, s.db cfg.key = some e → e.value ≠ cfg.epoch i

end Yola.Node
