import Yola.Gateway.System
import Yola.Reasoning.Runs

/-!
# Steps of the gateways

One relation for each group of methods.  A goroutine takes a lock only if it is free; a lookup in the
registry and what is done with the session it found are different steps.
-/

namespace Yola.Gateway

open Text Redis Locate Locate.Redis Reasoning

section Steps

variable {γ κ : Type} [DecidableEq γ] [DecidableEq κ]

/-- Time, expiry, and calls the network delivers late or once more. -/
inductive WorldStep (cfg : GatewayConfig γ κ) : Gateways γ κ → Gateways γ κ → Prop where
  | elapse (s : Gateways γ κ) (ns) :
      WorldStep cfg s { s with world := { s.world with t := s.world.t + ns } }
  | evict (s : Gateways γ κ) (key) :
      WorldStep cfg s
        { s with world := { s.world with db := s.world.db.evict (cfg.store.millis s.world) key } }
  -- node bindings and epochs share the database, not the gate keys
  | elsewhere (s : Gateways γ κ) (db)
      (same : ∀ serviceName uid, db (gateKey serviceName uid) = s.world.db (gateKey serviceName uid)) :
      WorldStep cfg s { s with world := { s.world with db := db } }
  | served (s : Gateways γ κ) (c) (issued : c ∈ s.world.issued) :
      WorldStep cfg s (s.serve cfg.store c)

/-- Connections come in, and a server starts, stops and takes its sessions. -/
inductive ServerStep (cfg : GatewayConfig γ κ) : Gateways γ κ → Gateways γ κ → Prop where
  | opened (s : Gateways γ κ) (k r) (fresh : s.opened k = false)
      (added : (s.registry (cfg.home k)).add (cfg.connID k) k = some r) :
      ServerStep cfg s
        { (s.setRegistry (cfg.home k) r).setSession k
            (newSession (cfg.now s (cfg.home k)) (cfg.authTimeout (cfg.home k))) with
          opened := Function.update s.opened k true }
  | admissionOpened (s : Gateways γ κ) (g) (prepared : s.server g = .prepared) :
      ServerStep cfg s ((s.setServer g .serving).setRegistry g (s.registry g).openAdmission)
  | stopping (s : Gateways γ κ) (g)
      (running : s.server g = .prepared ∨ s.server g = .serving) :
      ServerStep cfg s ((s.setServer g .stopping).setRegistry g (s.registry g).closeAdmission)
  | quiescing (s : Gateways γ κ) (g) (stopping : s.server g = .stopping) :
      ServerStep cfg s (s.setServer g (.quiescing (cfg.now s g + cfg.shutdownTimeout g)))
  -- the authentications are waited for, but not beyond the deadline
  | taken (s : Gateways γ κ) (g deadline) (quiescing : s.server g = .quiescing deadline)
      (waited : (s.registry g).authentications = 0 ∨ deadline ≤ cfg.now s g) :
      ServerStep cfg s
        { (s.setServer g (.drained deadline)).setRegistry g (s.registry g).takeAll.2 with
          undrained := Function.update s.undrained g ((s.registry g).takeAll.1 ++ s.undrained g) }

inductive AuthStep (cfg : GatewayConfig γ κ) (n : Nat) :
    Gateways γ κ → Event κ → Gateways γ κ → Prop where
  | found (s : Gateways γ κ) (k) (idle : s.goroutine n = .idle)
      (found : s.Found (cfg.home k) (cfg.connID k) k) :
      AuthStep cfg n s .silent (s.setGoroutine n (.handleFound k))
  | forwarding (s : Gateways γ κ) (k) (at_ : s.goroutine n = .handleFound k)
      (free : s.handlerMu k = false) :
      AuthStep cfg n s .silent ((s.setHandlerMu k true).setGoroutine n (.forwarding k))
  | forwarded (s : Gateways γ κ) (k) (at_ : s.goroutine n = .forwarding k) :
      AuthStep cfg n s .silent ((s.setHandlerMu k false).setGoroutine n .idle)
  | begun (s : Gateways γ κ) (k) (at_ : s.goroutine n = .handleFound k)
      (free : s.handlerMu k = false) (first : (s.session k).beginAuthentication.1 = true) :
      AuthStep cfg n s .silent
        (((s.setHandlerMu k true).setSession k (s.session k).beginAuthentication.2).setGoroutine n
          (.authBegun k))
  -- a second attempt closes the connection
  | repeated (s : Gateways γ κ) (k) (at_ : s.goroutine n = .handleFound k)
      (free : s.handlerMu k = false) (again : (s.session k).beginAuthentication.1 = false) :
      AuthStep cfg n s .silent (s.setGoroutine n .idle)
  | accepted (s : Gateways γ κ) (k) (at_ : s.goroutine n = .authBegun k)
      (accepting : (s.registry (cfg.home k)).accepting = true) :
      AuthStep cfg n s .silent (s.setGoroutine n (.authAccepted k))
  | unavailable (s : Gateways γ κ) (k) (at_ : s.goroutine n = .authBegun k)
      (closed : (s.registry (cfg.home k)).accepting = false) :
      AuthStep cfg n s .silent (s.setGoroutine n (.authLeaving k false))
  -- the request names the service, the authenticator the user
  | identified (s : Gateways γ κ) (k serviceName uid)
      (at_ : s.goroutine n = .authAccepted k) (service : validServiceName serviceName = true)
      (user : validUID uid = true) :
      AuthStep cfg n s .silent (s.setGoroutine n (.authIdentified k (cfg.candidate k serviceName uid)))
  | unidentified (s : Gateways γ κ) (k) (at_ : s.goroutine n = .authAccepted k) :
      AuthStep cfg n s .silent (s.setGoroutine n (.authLeaving k false))
  | admitted (s : Gateways γ κ) (k b ctxErr r)
      (at_ : s.goroutine n = .authIdentified k b) (granted : cfg.admission s k ctxErr = some r) :
      AuthStep cfg n s .silent ((s.setRegistry (cfg.home k) r).setGoroutine n (.authAdmitted k b))
  | refused (s : Gateways γ κ) (k b ctxErr)
      (at_ : s.goroutine n = .authIdentified k b) (refuse : cfg.admission s k ctxErr = none) :
      AuthStep cfg n s .silent (s.setGoroutine n (.authLeaving k false))
  | bindCalled (s : Gateways γ κ) (k b)
      (at_ : s.goroutine n = .authAdmitted k b) :
      AuthStep cfg n s (.bindCalled k)
        ((s.issue (.bind b (cfg.leaseTTL (cfg.home k)))).setGoroutine n
          (.authBinding k b (cfg.now s (cfg.home k)) []))
  | bindServed (s : Gateways γ κ) (k b boundAt replies) (at_ : s.goroutine n = .authBinding k b boundAt replies) :
      AuthStep cfg n s .silent
        ((s.serve cfg.store (.bind b (cfg.leaseTTL (cfg.home k)))).setGoroutine n
          (.authBinding k b boundAt ((cfg.store.bind s.world b (cfg.leaseTTL (cfg.home k))).1 :: replies)))
  | bindReturned (s : Gateways γ κ) (k b boundAt replies) (lease : GateLease) (previous)
      (at_ : s.goroutine n = .authBinding k b boundAt replies)
      (ok : .ok (lease, previous) ∈ replies) :
      AuthStep cfg n s (.bindReturned k lease.binding) (s.setGoroutine n (.authBound k boundAt lease))
  -- an error of the store, or no reply in time
  | bindFailed (s : Gateways γ κ) (k b boundAt replies) (at_ : s.goroutine n = .authBinding k b boundAt replies) :
      AuthStep cfg n s (.bindFailed k) (s.setGoroutine n (.authLeaving k true))
  -- the previous binding is kicked by a goroutine of its own, here or on its gateway
  | committed (s : Gateways γ κ) (k boundAt) (lease : GateLease) (ctxErr)
      (at_ : s.goroutine n = .authBound k boundAt lease)
      (commit : (cfg.commit s k ctxErr lease boundAt).1 = true) :
      AuthStep cfg n s (.committed k lease.binding)
        ((s.setSession k (cfg.commit s k ctxErr lease boundAt).2).setGoroutine n (.authLeaving k true))
  | rejected (s : Gateways γ κ) (k boundAt) (lease : GateLease) (ctxErr)
      (at_ : s.goroutine n = .authBound k boundAt lease)
      (reject : (cfg.commit s k ctxErr lease boundAt).1 = false) :
      AuthStep cfg n s (.rejected k lease.binding) (s.setGoroutine n (.authRejected k lease))
  | unbound (s : Gateways γ κ) (k) (lease : GateLease)
      (at_ : s.goroutine n = .authRejected k lease) :
      AuthStep cfg n s (.unbindIssued .authenticate lease.binding)
        ((s.issue (.unbind lease.binding)).setGoroutine n (.authLeaving k true))
  | left (s : Gateways γ κ) (k admitted)
      (at_ : s.goroutine n = .authLeaving k admitted) :
      AuthStep cfg n s .silent
        (((s.setHandlerMu k false).setRegistry (cfg.home k)
          (if admitted then (s.registry (cfg.home k)).done else s.registry (cfg.home k))).setGoroutine
            n .idle)

/-- `Heartbeat` -/
inductive HeartbeatStep (cfg : GatewayConfig γ κ) (n : Nat) :
    Gateways γ κ → Event κ → Gateways γ κ → Prop where
  | found (s : Gateways γ κ) (k) (idle : s.goroutine n = .idle)
      (found : s.Found (cfg.home k) (cfg.connID k) k) :
      HeartbeatStep cfg n s .silent (s.setGoroutine n (.heartbeatFound k))
  | locked (s : Gateways γ κ) (k) (at_ : s.goroutine n = .heartbeatFound k)
      (free : s.heartbeatMu k = false) :
      HeartbeatStep cfg n s .silent
        ((s.setHeartbeatMu k true).setGoroutine n (.heartbeatLocked k (cfg.now s (cfg.home k))))
  -- the lease is over, or not yet due for a renewal
  | passed (s : Gateways γ κ) (k now) (at_ : s.goroutine n = .heartbeatLocked k now)
      (rest : (cfg.route s k now).2.2 = false) :
      HeartbeatStep cfg n s .silent ((s.setHeartbeatMu k false).setGoroutine n .idle)
  | renewCalled (s : Gateways γ κ) (k now) (at_ : s.goroutine n = .heartbeatLocked k now)
      (due : (cfg.route s k now).2.2 = true) :
      HeartbeatStep cfg n s .silent
        ((s.issue (.renew (cfg.route s k now).1 (cfg.leaseTTL (cfg.home k)))).setGoroutine n
          (.heartbeatRenewing k (cfg.route s k now).1 now []))
  | renewServed (s : Gateways γ κ) (k b renewedAt replies)
      (at_ : s.goroutine n = .heartbeatRenewing k b renewedAt replies) :
      HeartbeatStep cfg n s .silent
        ((s.serve cfg.store (.renew b (cfg.leaseTTL (cfg.home k)))).setGoroutine n
          (.heartbeatRenewing k b renewedAt
            ((cfg.store.renew s.world b (cfg.leaseTTL (cfg.home k))).1 :: replies)))
  | renewStored (s : Gateways γ κ) (k b renewedAt replies) (lease : GateLease)
      (at_ : s.goroutine n = .heartbeatRenewing k b renewedAt replies) (ok : .ok lease ∈ replies) :
      HeartbeatStep cfg n s (.renewalStored k)
        (((s.setSession k ((s.session k).finishHeartbeat b renewedAt lease.ttl)).setHeartbeatMu k
          false).setGoroutine n .idle)
  | renewFailed (s : Gateways γ κ) (k b renewedAt replies)
      (at_ : s.goroutine n = .heartbeatRenewing k b renewedAt replies) :
      HeartbeatStep cfg n s .silent ((s.setHeartbeatMu k false).setGoroutine n .idle)

/-- `Close`, `drainSession` and `kick` -/
inductive TeardownStep (cfg : GatewayConfig γ κ) (n : Nat) :
    Gateways γ κ → Event κ → Gateways γ κ → Prop where
  | closed (s : Gateways γ κ) (k r) (idle : s.goroutine n = .idle)
      (removed : cfg.removeFrom s k = some r) :
      TeardownStep cfg n s .silent ((s.setRegistry (cfg.home k) r).setGoroutine n (.closeRemoved .close k))
  | drained (s : Gateways γ κ) (k deadline) (idle : s.goroutine n = .idle)
      (taken : s.server (cfg.home k) = .drained deadline) (waiting : k ∈ s.undrained (cfg.home k)) :
      TeardownStep cfg n s .silent
        ({ s with
            undrained := Function.update s.undrained (cfg.home k)
              ((s.undrained (cfg.home k)).erase k) }.setGoroutine n
          (.closeRemoved
            (.drain (min deadline (cfg.now s (cfg.home k) + cfg.cleanupTimeout (cfg.home k)))) k))
  | locked (s : Gateways γ κ) (job k) (at_ : s.goroutine n = .closeRemoved job k)
      (free : s.handlerMu k = false) :
      TeardownStep cfg n s .silent ((s.setHandlerMu k true).setGoroutine n (.closeLocked job k))
  | detached (s : Gateways γ κ) (job : Job) (k) (at_ : s.goroutine n = .closeLocked job k)
      (free : s.heartbeatMu k = false) :
      TeardownStep cfg n s (.detached k job.owner (s.session k).detachForClose.1)
        (((s.setSession k (s.session k).detachForClose.2).setHandlerMu k false).setGoroutine n
          (.closeDetached job k (s.session k).detachForClose.1))
  | nothing (s : Gateways γ κ) (job k b)
      (at_ : s.goroutine n = .closeDetached job k b) (invalid : validGateBinding b = false) :
      TeardownStep cfg n s .silent (s.setGoroutine n .idle)
  | unbound (s : Gateways γ κ) (job : Job) (k b)
      (at_ : s.goroutine n = .closeDetached job k b) (valid : validGateBinding b = true)
      (live : job.ctxErr (cfg.now s (cfg.home k)) = false) :
      TeardownStep cfg n s (.unbindIssued job.owner b) ((s.issue (.unbind b)).setGoroutine n .idle)
  | skipped (s : Gateways γ κ) (job : Job) (k b)
      (at_ : s.goroutine n = .closeDetached job k b) (valid : validGateBinding b = true)
      (expired : job.ctxErr (cfg.now s (cfg.home k)) = true) :
      TeardownStep cfg n s (.unbindSkipped b) (s.setGoroutine n .idle)
  -- a peer or a newer login asks for it
  | kickFound (s : Gateways γ κ) (k) (target : GateBinding) (idle : s.goroutine n = .idle)
      (valid : validGateBinding target = true) (owns : cfg.ownsBinding (cfg.home k) target = true)
      (found : s.Found (cfg.home k) target.connID k) :
      TeardownStep cfg n s .silent (s.setGoroutine n (.kickFound k target))
  | kickMissed (s : Gateways γ κ) (k target)
      (at_ : s.goroutine n = .kickFound k target)
      (kept : ((s.session k).detachForKick (cfg.now s (cfg.home k)) target).1 = false) :
      TeardownStep cfg n s .silent (s.setGoroutine n .idle)
  | kickDetached (s : Gateways γ κ) (k target)
      (at_ : s.goroutine n = .kickFound k target)
      (taken : ((s.session k).detachForKick (cfg.now s (cfg.home k)) target).1 = true) :
      TeardownStep cfg n s (.detached k .kick target)
        ((s.setSession k ((s.session k).detachForKick (cfg.now s (cfg.home k)) target).2).setGoroutine
          n (.kickDetached k target))
  | kickRemoved (s : Gateways γ κ) (k target)
      (at_ : s.goroutine n = .kickDetached k target) :
      TeardownStep cfg n s .silent
        ((s.setRegistry (cfg.home k)
          ((cfg.removeFrom s k).getD (s.registry (cfg.home k)))).setGoroutine n (.kickRemoved k target))
  | kickUnbound (s : Gateways γ κ) (k target)
      (at_ : s.goroutine n = .kickRemoved k target) :
      TeardownStep cfg n s (.unbindIssued .kick target) ((s.issue (.unbind target)).setGoroutine n .idle)

inductive GatewayStep (cfg : GatewayConfig γ κ) : Gateways γ κ → Event κ → Gateways γ κ → Prop where
  | world {s s'} (h : WorldStep cfg s s') : GatewayStep cfg s .silent s'
  | server {s s'} (h : ServerStep cfg s s') : GatewayStep cfg s .silent s'
  | auth (n) {s s' e} (h : AuthStep cfg n s e s') :
      GatewayStep cfg s e s'
  | heartbeat (n) {s s' e} (h : HeartbeatStep cfg n s e s') :
      GatewayStep cfg s e s'
  | teardown (n) {s s' e} (h : TeardownStep cfg n s e s') :
      GatewayStep cfg s e s'

end Steps

/-- No connection has come in, and no stored string carries one of the tokens to be drawn. -/
structure GatewayConfig.Init {γ κ : Type} (cfg : GatewayConfig γ κ) (s : Gateways γ κ) : Prop where
  issued : s.world.issued = []
  grants : s.world.grants = []
  server : ∀ g, s.server g = .prepared
  registry : ∀ g, s.registry g = ⟨some ∅, false, 0⟩
  undrained : ∀ g, s.undrained g = []
  opened : ∀ k, s.opened k = false
  session : ∀ k, s.session k = newSession 0 0
  goroutine : ∀ n, s.goroutine n = .idle
  tokens : ∀ k serviceName uid b e, s.world.db (gateKey serviceName uid) = some e →
    b.bindingToken = cfg.token k → e.value ≠ marshalBinding b

/-! ## One gateway with one connection -/

def soloConfig : GatewayConfig Unit Unit where
  store := ⟨0, fun _ => none, .closed⟩
  clientClock _ := 0
  gateID _ := utf8 "g1"
  endpoint _ := utf8 "grpc://10.0.0.1:9000"
  leaseTTL _ := .wrap Duration.second
  authTimeout _ := 15000 * nanosPerMilli
  cleanupTimeout _ := 3000 * nanosPerMilli
  shutdownTimeout _ := 10000 * nanosPerMilli
  home _ := ()
  connID _ := utf8 "c1"
  token _ := utf8 "t1"
  distinct _ _ _ := rfl
  token_utf8 _ := by decide

def soloStart : Gateways Unit Unit where
  world := ⟨0, fun _ => none, [], []⟩
  server _ := .prepared
  registry _ := ⟨some ∅, false, 0⟩
  undrained _ := []
  opened _ := false
  session _ := newSession 0 0
  handlerMu _ := false
  heartbeatMu _ := false
  goroutine _ := .idle

theorem soloStart_init : soloConfig.Init soloStart where
  issued := rfl
  grants := rfl
  server _ := rfl
  registry _ := rfl
  undrained _ := rfl
  opened _ := rfl
  session _ := rfl
  goroutine _ := rfl
  tokens _ _ _ _ _ h := nomatch h

def soloBinding : GateBinding := soloConfig.candidate () (utf8 "game") (utf8 "u1")

theorem bind_soloBinding {w : World} (hdb : w.db = fun _ => none) :
    (soloConfig.store.bind w soloBinding (.wrap Duration.second)).1 =
      .ok (grantedLease soloBinding 999, none) := by
  have hval : validGateBinding soloBinding = true := by decide
  have hms : LeaseMillis (.wrap Duration.second) 999 := by
    unfold LeaseMillis
    decide
  have hview : gateView w.db (soloConfig.store.millis w) (bindingKey soloBinding) = .missing := by
    rw [hdb]
    rfl
  have heq := closedBindGate_eq soloConfig.store.decode (soloConfig.store.millis w) w.db hval hms
  rw [hview, GateView.fold] at heq
  exact congrArg Prod.fst heq

-- The connection logs in, and later it is closed.
theorem solo_session : ∃ es s es' s', Run (GatewayStep soloConfig) soloStart es s ∧
    soloConfig.leaseValid s () = true ∧ .bindReturned () (readBack soloBinding) ∈ es ∧
    Run (GatewayStep soloConfig) s es' s' ∧ s'.opened () = true ∧
    (s'.registry ()).get (utf8 "c1") = none ∧ s'.undrained () = [] ∧
    ∀ n, s'.goroutine n = .idle := by
  refine ⟨_, _, _, _, .cons (.server (.admissionOpened _ () rfl)) <|
    .cons (.server (.opened _ () _ rfl rfl)) <|
    .cons (.auth 0 (.found _ () rfl rfl)) <|
    .cons (.auth 0 (.begun _ () rfl rfl rfl)) <|
    .cons (.auth 0 (.accepted _ () rfl rfl)) <|
    .cons (.auth 0 (.identified _ () (utf8 "game") (utf8 "u1") rfl (by decide) (by decide))) <|
    .cons (.auth 0 (.admitted _ () _ false _ rfl rfl)) <|
    .cons (.auth 0 (.bindCalled _ () _ rfl)) <|
    .cons (.auth 0 (.bindServed _ () _ _ _ rfl)) <|
    .cons (.auth 0 (.bindReturned _ () _ _ _ (grantedLease soloBinding 999) none rfl ?_)) <|
    .cons (.auth 0 (.committed _ () _ _ false rfl ?_)) <| .nil _, ?_, ?_,
    .cons (.auth 0 (.left _ () _ rfl)) <|
    .cons (.teardown 0 (.closed _ () _ rfl rfl)) <|
    .cons (.teardown 0 (.locked _ _ () rfl rfl)) <|
    .cons (.teardown 0 (.detached _ _ () rfl rfl)) <|
    .cons (.teardown 0 (.unbound _ _ () _ rfl ?_ rfl)) <| .nil _, ?_, ?_, ?_, fun n => ?_⟩
  · exact List.mem_cons.mpr (.inl (bind_soloBinding rfl).symm)
  · rfl
  · rfl
  · simp [grantedLease]
  · rfl
  · rfl
  · rfl
  · rfl
  · cases n <;> rfl

end Yola.Gateway
