import Yola.Gateway.Session
import Yola.Gateway.Store

/-!
# Gateways, their sessions and the store

Any number of gateways with any number of connections share one store.  Each goroutine runs one of
the server's methods for one session; a method is cut wherever it takes or waits for a lock, calls
the store, or leaves a critical section, so that any other goroutine can act there.
-/

namespace Yola.Gateway

open Function Text Redis Locate Locate.Redis

inductive Owner where
  | authenticate
  | close
  | kick
  | drain
deriving DecidableEq

/-- `Close` for a connection that is gone, or `drainSession` with the deadline of its context. -/
inductive Job where
  | close
  | drain (deadline : Nat)

namespace Job

def owner : Job → Owner
  | close => .close
  | drain _ => .drain

/-- Whether the context of the cleanup has expired; that of `Close` is looked at by nobody. -/
def ctxErr (now : Nat) : Job → Bool
  | close => false
  | drain deadline => decide (deadline ≤ now)

end Job

inductive Goroutine (κ : Type) where
  | idle
  | handleFound (k : κ)
  | forwarding (k : κ)
  | authBegun (k : κ)
  | authAccepted (k : κ)
  | authIdentified (k : κ) (b : GateBinding)
  | authAdmitted (k : κ) (b : GateBinding)
  | authBinding (k : κ) (b : GateBinding) (boundAt : Nat) (replies : List BindReply)
  | authBound (k : κ) (boundAt : Nat) (lease : GateLease)
  | authRejected (k : κ) (lease : GateLease)
  | authLeaving (k : κ) (admitted : Bool)
  | heartbeatFound (k : κ)
  | heartbeatLocked (k : κ) (now : Nat)
  | heartbeatRenewing (k : κ) (b : GateBinding) (renewedAt : Nat) (replies : List RenewReply)
  | closeRemoved (job : Job) (k : κ)
  | closeLocked (job : Job) (k : κ)
  | closeDetached (job : Job) (k : κ) (b : GateBinding)
  | kickFound (k : κ) (target : GateBinding)
  | kickDetached (k : κ) (target : GateBinding)
  | kickRemoved (k : κ) (target : GateBinding)

/-- How far a server has come with stopping; a context of its own limits the shutdown. -/
inductive ServerState where
  | prepared
  | serving
  | stopping
  | quiescing (deadline : Nat)
  | drained (deadline : Nat)

structure GatewayConfig (γ κ : Type) where
  store : StoreConfig
  clientClock : γ → Nat
  gateID : γ → Bytes
  endpoint : γ → Bytes
  leaseTTL : γ → Duration
  authTimeout : γ → Nat
  cleanupTimeout : γ → Nat
  shutdownTimeout : γ → Nat
  home : κ → γ
  connID : κ → Bytes
  /-- `uuid.NewString` in the authentication of a connection: no two are the same. -/
  token : κ → Bytes
  distinct : Injective token
  token_utf8 : ∀ k, validString (token k) = true

structure Gateways (γ κ : Type) where
  world : World
  server : γ → ServerState
  registry : γ → Registry κ
  undrained : γ → List κ
  opened : κ → Bool
  session : κ → Session
  handlerMu : κ → Bool
  heartbeatMu : κ → Bool
  goroutine : Nat → Goroutine κ

inductive Event (κ : Type) where
  | silent
  | bindCalled (k : κ)
  | bindReturned (k : κ) (b : GateBinding)
  | bindFailed (k : κ)
  | committed (k : κ) (b : GateBinding)
  | rejected (k : κ) (b : GateBinding)
  | detached (k : κ) (owner : Owner) (b : GateBinding)
  | unbindIssued (owner : Owner) (b : GateBinding)
  | unbindSkipped (b : GateBinding)
  | renewalStored (k : κ)

namespace GatewayConfig

variable {γ κ : Type} (cfg : GatewayConfig γ κ)

def clocks (g : γ) : Clocks := ⟨cfg.clientClock g, cfg.store.serverClock⟩

def now (s : Gateways γ κ) (g : γ) : Nat := s.world.t + cfg.clientClock g

def candidate (k : κ) (serviceName uid : Bytes) : GateBinding where
  serviceName := serviceName
  uid := uid
  gateID := cfg.gateID (cfg.home k)
  gateEndpoint := cfg.endpoint (cfg.home k)
  connID := cfg.connID k
  bindingToken := cfg.token k

def ownsBinding (g : γ) (b : GateBinding) : Bool :=
  b.gateID == cfg.gateID g && b.gateEndpoint == cfg.endpoint g

def admission [DecidableEq κ] (s : Gateways γ κ) (k : κ) (ctxErr : Bool) : Option (Registry κ) :=
  (s.registry (cfg.home k)).admitAuthentication (cfg.connID k) k (s.session k) ctxErr (cfg.now s (cfg.home k))

def commit [DecidableEq κ] (s : Gateways γ κ) (k : κ) (ctxErr : Bool) (lease : GateLease)
    (boundAt : Nat) : Bool × Session :=
  (s.registry (cfg.home k)).commitAuthentication (cfg.connID k) k (s.session k) ctxErr
    (cfg.now s (cfg.home k)) lease boundAt

def removeFrom [DecidableEq κ] (s : Gateways γ κ) (k : κ) : Option (Registry κ) :=
  (s.registry (cfg.home k)).remove (cfg.connID k) k

def route (s : Gateways γ κ) (k : κ) (now : Nat) : GateBinding × Bool × Bool :=
  (s.session k).heartbeatRoute now ((cfg.leaseTTL (cfg.home k)).ns / 2).toNat

def leaseValid (s : Gateways γ κ) (k : κ) : Bool := (s.session k).leaseValid (cfg.now s (cfg.home k))

end GatewayConfig

namespace Gateways

variable {γ κ : Type} (s : Gateways γ κ)

def Found (g : γ) (connID : Bytes) (k : κ) : Prop := (s.registry g).get connID = some k

def setGoroutine (n : Nat) (g : Goroutine κ) : Gateways γ κ :=
  { s with goroutine := update s.goroutine n g }

def setSession [DecidableEq κ] (k : κ) (sess : Session) : Gateways γ κ :=
  { s with session := update s.session k sess }

def setRegistry [DecidableEq γ] (g : γ) (r : Registry κ) : Gateways γ κ :=
  { s with registry := update s.registry g r }

def setServer [DecidableEq γ] (g : γ) (state : ServerState) : Gateways γ κ :=
  { s with server := update s.server g state }

def setHandlerMu [DecidableEq κ] (k : κ) (held : Bool) : Gateways γ κ :=
  { s with handlerMu := update s.handlerMu k held }

def setHeartbeatMu [DecidableEq κ] (k : κ) (held : Bool) : Gateways γ κ :=
  { s with heartbeatMu := update s.heartbeatMu k held }

def issue (c : StoreCall) : Gateways γ κ := { s with world := s.world.issue c }

def serve (st : StoreConfig) (c : StoreCall) : Gateways γ κ := { s with world := st.serve s.world c }

end Gateways

end Yola.Gateway
