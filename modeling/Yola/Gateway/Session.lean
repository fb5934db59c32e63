import Yola.Locate.Locator
import Mathlib.Data.List.AList

/-!
# Sessions and their registry

A session is what a gateway knows about one client connection.  Times are nanoseconds on the
gateway's own clock, and zero is the zero time.  Whatever a method of the source does under
`bindingMu` or under the registry's lock is one function here; what the caller can observe of a
context is an argument.
-/

namespace Yola.Gateway

open Text Locate

def noBinding : GateBinding := ⟨[], [], [], [], [], []⟩

structure Session where
  authDeadline : Nat
  authTimer : Bool
  authAttempted : Bool
  binding : GateBinding
  leaseDeadline : Nat
deriving DecidableEq

def newSession (now authTimeout : Nat) : Session where
  authDeadline := now + authTimeout
  authTimer := true
  authAttempted := false
  binding := noBinding
  leaseDeadline := 0

/-- `Time.Add` for a lease that is not negative. -/
def addDuration (t : Nat) (d : Duration) : Nat := t + d.ns.toNat

namespace Session

variable (sess : Session) {now : Nat}

def leaseValid (now : Nat) : Bool := validGateBinding sess.binding && decide (now < sess.leaseDeadline)

def beginAuthentication : Bool × Session :=
  if sess.authAttempted then (false, sess) else (true, { sess with authAttempted := true })

def canAuthenticate (ctxErr : Bool) (now : Nat) : Bool := !ctxErr && decide (now < sess.authDeadline)

def finishAuthentication (now : Nat) (lease : GateLease) (boundAt : Nat) : Bool × Session :=
  let leaseDeadline := addDuration boundAt lease.ttl
  if ¬ now < sess.authDeadline ∨ ¬ now < leaseDeadline then (false, sess)
  else
    (true, { sess with
      binding := lease.binding, leaseDeadline := leaseDeadline, authTimer := false })

/-- The binding, whether the lease is valid, and whether a renewal is due. -/
def heartbeatRoute (now interval : Nat) : GateBinding × Bool × Bool :=
  let valid := sess.leaseValid now
  (sess.binding, valid, valid && !decide (now + interval < sess.leaseDeadline))

def finishHeartbeat (expected : GateBinding) (renewedAt : Nat) (ttl : Duration) : Session :=
  if sess.binding = expected then { sess with leaseDeadline := addDuration renewedAt ttl }
  else sess

def detachForClose : GateBinding × Session :=
  (sess.binding, { sess with binding := noBinding, leaseDeadline := 0, authTimer := false })

def detachForKick (now : Nat) (expected : GateBinding) : Bool × Session :=
  if sess.binding ≠ expected ∨ ¬ now < sess.leaseDeadline then (false, sess)
  else (true, { sess with binding := noBinding, leaseDeadline := 0 })

theorem noBinding_invalid : validGateBinding noBinding = false := by decide

theorem leaseValid_iff {sess : Session} : sess.leaseValid now = true ↔
      validGateBinding sess.binding = true ∧ now < sess.leaseDeadline := by
  unfold leaseValid
  rw [Bool.and_eq_true, decide_eq_true_eq]

-- A lease that is not valid does not become so by waiting.
theorem leaseValid_mono {sess : Session} {now' : Nat} (hle : now ≤ now')
    (h : sess.leaseValid now' = true) : sess.leaseValid now = true := by
  rw [leaseValid_iff] at h ⊢
  exact ⟨h.1, Nat.lt_of_le_of_lt hle h.2⟩

theorem detachForKick_ok {sess : Session} {expected : GateBinding}
    (h : (sess.detachForKick now expected).1 = true) : sess.binding = expected ∧
      (sess.detachForKick now expected).2 = { sess with binding := noBinding, leaseDeadline := 0 } := by
  unfold detachForKick at h ⊢
  split at h
  · cases h
  · rename_i hkeep
    rw [if_neg hkeep]
    simp only [not_or, Decidable.not_not] at hkeep
    exact ⟨hkeep.1, rfl⟩

end Session

/-- `sessionRegistry`; the map is nil once the server has taken all sessions. -/
structure Registry (κ : Type) where
  byConnID : Option (AList fun _ : Bytes => κ)
  accepting : Bool
  authentications : Nat

namespace Registry

variable {κ : Type} (r : Registry κ)

def get (connID : Bytes) : Option κ := r.byConnID.bind fun m => m.lookup connID

/-- `add`; an error leaves the registry as it was. -/
def add (connID : Bytes) (k : κ) : Option (Registry κ) :=
  match r.byConnID with
  | none => none
  | some m =>
      if !r.accepting || (m.lookup connID).isSome then none
      else some { r with byConnID := some (m.insert connID k) }

/-- The part of `admitAuthentication` and `commitAuthentication` that looks the session up. -/
def holds [DecidableEq κ] (connID : Bytes) (k : κ) : Bool := r.get connID == some k

def admitAuthentication [DecidableEq κ] (connID : Bytes) (k : κ) (sess : Session) (ctxErr : Bool)
    (now : Nat) : Option (Registry κ) :=
  if !r.accepting || !r.holds connID k || !sess.canAuthenticate ctxErr now then none
  else some { r with authentications := r.authentications + 1 }

def commitAuthentication [DecidableEq κ] (connID : Bytes) (k : κ) (sess : Session) (ctxErr : Bool)
    (now : Nat) (lease : GateLease) (boundAt : Nat) : Bool × Session :=
  if !r.holds connID k || !sess.canAuthenticate ctxErr now then (false, sess)
  else sess.finishAuthentication now lease boundAt

/-- `remove`, for the connection of session `k`. -/
def remove [DecidableEq κ] (connID : Bytes) (k : κ) : Option (Registry κ) :=
  if r.holds connID k then
    some { r with byConnID := r.byConnID.map fun m => m.erase connID }
  else none

def takeAll : List κ × Registry κ :=
  match r.byConnID with
  | none => ([], r)
  | some m => (m.entries.map Sigma.snd, { r with byConnID := none })

def openAdmission : Registry κ := { r with accepting := true }

def closeAdmission : Registry κ := { r with accepting := false }

def done : Registry κ := { r with authentications := r.authentications - 1 }

end Registry

end Yola.Gateway
