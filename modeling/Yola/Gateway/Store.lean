import Yola.Locate.Redis.GateTakeover
import Yola.Redis.Lease

/-!
# The store as the gateways see it

Gateways call the store over a network.  A call that has been issued can be served late, more than
once or not at all, so everything ever issued stays deliverable.  Each time the store gives a binding
an expiry this is noted down, newest first; a binding is noted as it reads back from the store.
-/

namespace Yola.Gateway

open Text Redis Locate Locate.Redis

/-- The two readings of the bind script: its text as it stands, and with its block closed. -/
inductive BindReading where
  | asWritten
  | closed

namespace BindReading

variable (decode : Decode) (now : Nat)

def bindGate : BindReading → GateBinding → Duration → Call (GateLease × Option GateBinding)
  | asWritten => Redis.bindGate decode now
  | closed => closedBindGate decode now

/-- The script is accepted and runs as far as its write. -/
def stores (db : Db) (b : GateBinding) (ttl : Duration) : BindReading → Bool
  | asWritten => false
  | closed =>
      validGateBinding b && decide (0 < ttl.milliseconds) &&
        (gateView db now (bindingKey b)).fold true false fun current _ =>
          luaValidBinding decode b.serviceName b.uid current

theorem bindGate_closed : closed.bindGate decode now = closedBindGate decode now := rfl

variable {decode now} {db : Db} {b : GateBinding} {ttl : Duration} {r : BindReading}

theorem bindGate_of_stores (h : r.stores decode now db b ttl = true) :
    validGateBinding b = true ∧ ∃ ms, LeaseMillis ttl ms ∧
      (r.bindGate decode now b ttl db).2 = boundDb db now b ms ∧
      ∀ lease previous, (r.bindGate decode now b ttl db).1 = .ok (lease, previous) → lease = grantedLease b ms := by
  cases r with
  | asWritten => cases h
  | closed =>
    simp only [stores, Bool.and_eq_true, decide_eq_true_eq] at h
    obtain ⟨⟨hb, hpos⟩, hview⟩ := h
    have hms : LeaseMillis ttl (ttl.milliseconds - 1).toNat := by
      unfold LeaseMillis
      omega
    have heq := closedBindGate_eq decode now db hb hms
    refine ⟨hb, _, hms, ?_⟩
    rw [bindGate_closed]
    cases hv : gateView db now (bindingKey b) with
    | missing =>
      rw [hv, GateView.fold] at heq
      rw [heq]
      refine ⟨rfl, fun lease previous hok => ?_⟩
      cases hok
      rfl
    | badLease =>
      rw [hv] at hview
      cases hview
    | held current =>
      rw [hv, GateView.fold] at hview heq
      rw [if_pos hview] at heq
      rw [heq]
      refine ⟨rfl, fun lease previous hok => ?_⟩
      cases hdec : decodeBinding current b.serviceName b.uid with
      | error =>
        rw [hdec] at hok
        cases hok
      | ok =>
        rw [hdec] at hok
        cases hok
        rfl

theorem bindGate_of_not_stores (h : r.stores decode now db b ttl = false) :
    Refused (r.bindGate decode now b ttl db) db := by
  cases r with
  | asWritten => exact bindGate_fails decode now db b ttl
  | closed =>
    rcases bindGateWith_cases decode now db closedBindGateScript b ttl with
      href | ⟨hb, ms, hms⟩
    · exact href
    have heq := closedBindGate_eq decode now db hb hms
    have hpos : 0 < ttl.milliseconds := by
      unfold LeaseMillis at hms
      omega
    simp only [stores, hb, hpos, decide_true, Bool.and_self, Bool.true_and] at h
    rw [bindGate_closed]
    cases hv : gateView db now (bindingKey b) with
    | missing =>
      rw [hv] at h
      cases h
    | badLease =>
      rw [hv, GateView.fold] at heq
      rw [heq]
      exact ⟨⟨_, rfl⟩, rfl⟩
    | held =>
      rw [hv, GateView.fold] at h heq
      rw [if_neg (by simp [h])] at heq
      rw [heq]
      exact ⟨⟨_, rfl⟩, rfl⟩

end BindReading

/-! ## Calls on their way -/

inductive StoreCall where
  | bind (b : GateBinding) (ttl : Duration)
  | renew (b : GateBinding) (ttl : Duration)
  | unbind (b : GateBinding)

/-- An expiry that the store has given a binding. -/
inductive Grant where
  | bound (b : GateBinding) (expiry : Nat)
  | renewed (b : GateBinding) (expiry : Nat)

namespace Grant

def binding : Grant → GateBinding
  | bound b _ | renewed b _ => b

def expiry : Grant → Nat
  | bound _ e | renewed _ e => e

end Grant

/-- What all gateways share: time, the database, and the calls the network can still deliver. -/
structure World where
  t : Nat
  db : Db
  issued : List StoreCall
  grants : List Grant

def World.issue (w : World) (c : StoreCall) : World := { w with issued := c :: w.issued }

structure StoreConfig where
  serverClock : Nat
  decode : Decode
  reading : BindReading

abbrev BindReply := Except CallError (GateLease × Option GateBinding)

abbrev RenewReply := Except CallError GateLease

namespace StoreConfig

variable (st : StoreConfig) (w : World)

def millis : Nat := (w.t + st.serverClock) / nanosPerMilli

def bind (b : GateBinding) (ttl : Duration) : BindReply × Db :=
  st.reading.bindGate st.decode (st.millis w) b ttl w.db

def renew (b : GateBinding) (ttl : Duration) : RenewReply × Db :=
  renewGateLease st.decode (st.millis w) b ttl w.db

def unbind (b : GateBinding) : Except CallError Unit × Db := unbindGate st.decode (st.millis w) b w.db

def bindGrants (b : GateBinding) (ttl : Duration) : List Grant :=
  if st.reading.stores st.decode (st.millis w) w.db b ttl then
    [.bound (readBack b) (st.millis w + ttl.milliseconds.toNat)]
  else []

-- The caller of a renewal has its binding from the store already.
def renewGrants (b : GateBinding) (ttl : Duration) : List Grant :=
  match (st.renew w b ttl).1 with
  | .ok _ => [.renewed b (st.millis w + ttl.milliseconds.toNat)]
  | .error _ => []

def serve : StoreCall → World
  | .bind b ttl =>
      { w with db := (st.bind w b ttl).2, grants := st.bindGrants w b ttl ++ w.grants }
  | .renew b ttl =>
      { w with db := (st.renew w b ttl).2, grants := st.renewGrants w b ttl ++ w.grants }
  | .unbind b => { w with db := (st.unbind w b).2 }

variable (b : GateBinding) (ttl : Duration)

theorem serve_bind : st.serve w (.bind b ttl) =
    { w with db := (st.bind w b ttl).2, grants := st.bindGrants w b ttl ++ w.grants } := rfl

theorem serve_renew : st.serve w (.renew b ttl) =
    { w with db := (st.renew w b ttl).2, grants := st.renewGrants w b ttl ++ w.grants } := rfl

theorem serve_unbind : st.serve w (.unbind b) = { w with db := (st.unbind w b).2 } := rfl

variable {st w} {b : GateBinding} {ttl : Duration} {lease : GateLease}
  {previous : Option GateBinding}

/-- A bind that succeeds has written, and grants its own binding. -/
theorem bind_ok (h : (st.bind w b ttl).1 = .ok (lease, previous)) :
    st.reading.stores st.decode (st.millis w) w.db b ttl = true ∧ validGateBinding b = true ∧
      ∃ ms, LeaseMillis ttl ms ∧ (st.bind w b ttl).2 = boundDb w.db (st.millis w) b ms ∧
        lease = grantedLease b ms := by
  cases hstores : st.reading.stores st.decode (st.millis w) w.db b ttl with
  | true =>
    obtain ⟨hb, ms, hms, hdb, hls⟩ := BindReading.bindGate_of_stores hstores
    exact ⟨rfl, hb, ms, hms, hdb, hls lease previous h⟩
  | false =>
    obtain ⟨⟨e, herr⟩, -⟩ := BindReading.bindGate_of_not_stores hstores
    unfold bind at h
    rw [herr] at h
    cases h

end StoreConfig

end Yola.Gateway
