import Yola.Gateway.LifeSimulation
import Yola.Gateway.StoreInvariant

/-!
# A valid session is backed by the store

Whoever is about to give a session a deadline has a reply of the store that makes it sound, and
whoever is about to remove a binding has taken it out of its session before.
-/

namespace Yola.Gateway

open Function Text Redis Locate Locate.Redis Reasoning

variable {γ κ : Type}

/-- The deadlines a goroutine may set are sound, and the bindings it may remove are known. -/
def Goroutine.Sound (cfg : GatewayConfig γ κ) (w : World) : Goroutine κ → Prop
  | authBinding k b boundAt replies =>
      boundAt ≤ w.t + cfg.clientClock (cfg.home k) ∧
        .bind b (cfg.leaseTTL (cfg.home k)) ∈ w.issued ∧ b.bindingToken = cfg.token k ∧
        ∀ lease previous, .ok (lease, previous) ∈ replies →
          cfg.Sound w k lease.binding (addDuration boundAt lease.ttl)
  | authBound k boundAt lease => cfg.Sound w k lease.binding (addDuration boundAt lease.ttl)
  | authRejected k lease => cfg.Known w k lease.binding
  | heartbeatLocked k now => now ≤ w.t + cfg.clientClock (cfg.home k)
  | heartbeatRenewing k b renewedAt replies =>
      renewedAt ≤ w.t + cfg.clientClock (cfg.home k) ∧
        .renew b (cfg.leaseTTL (cfg.home k)) ∈ w.issued ∧ cfg.Known w k b ∧
        ∀ lease, .ok lease ∈ replies → cfg.Sound w k b (addDuration renewedAt lease.ttl)
  | closeDetached _ k b => validGateBinding b = true → cfg.Known w k b
  | kickDetached k b | kickRemoved k b => cfg.Known w k b
  | _ => True

structure LeaseInv (cfg : GatewayConfig γ κ) (s : Gateways γ κ) : Prop where
  store : StoreInv cfg s.world
  session : ∀ k, validGateBinding (s.session k).binding = true →
    cfg.Sound s.world k (s.session k).binding (s.session k).leaseDeadline
  goroutine : ∀ n, (s.goroutine n).Sound cfg s.world

variable {cfg : GatewayConfig γ κ} {s s' : Gateways γ κ} {w w' : World} {n : Nat} {g : Goroutine κ}
  {lives : κ → Life}

/-- What a goroutine relies on stays true when time passes and nothing known is forgotten. -/
theorem Goroutine.Sound.mono (h : g.Sound cfg w) (htime : w.t ≤ w'.t)
    (hiss : ∀ c ∈ w.issued, c ∈ w'.issued) (hknown : ∀ k b, cfg.Known w k b → cfg.Known w' k b)
    (hsound : ∀ k b deadline, cfg.Sound w k b deadline → cfg.Sound w' k b deadline) : g.Sound cfg w' := by
  cases g with
  | authBinding =>
    obtain ⟨hstart, hbind, htok, hrep⟩ := h
    refine ⟨by omega, hiss _ hbind, htok, ?_⟩
    exact fun lease previous hok => hsound _ _ _ (hrep lease previous hok)
  | heartbeatLocked =>
    unfold Goroutine.Sound at h ⊢
    omega
  | heartbeatRenewing =>
    obtain ⟨hstart, hrenew, hknows, hrep⟩ := h
    refine ⟨by omega, hiss _ hrenew, hknown _ _ hknows, ?_⟩
    exact fun lease hok => hsound _ _ _ (hrep lease hok)
  | authBound => exact hsound _ _ _ h
  | closeDetached => exact fun hval => hknown _ _ (h hval)
  | authRejected | kickDetached | kickRemoved => exact hknown _ _ h
  | _ => trivial

theorem Goroutine.Sound.effect (h : g.Sound cfg w) (hinv : StoreInv cfg w)
    (heff : Effect cfg w w') : g.Sound cfg w' :=
  h.mono (GatewayConfig.time_of_effect heff).ge (fun _ => (GatewayConfig.issued_of_effect heff).symm ▸ id)
    (fun _ _ hknown => hknown.effect heff) (fun _ _ _ hsound => hsound.effect hinv heff)

theorem Goroutine.Sound.drift (h : g.Sound cfg w) (hdrift : cfg.Drifts w w') : g.Sound cfg w' :=
  h.mono hdrift.time hdrift.issued (fun _ _ hknown => hknown.drift hdrift)
    (fun _ _ _ hsound => hsound.drift hdrift)

namespace LeaseInv

theorem of_init (h : cfg.Init s) : LeaseInv cfg s where
  store := by
    refine ⟨?_, ?_, ?_, ?_, fun sn uid e b k hkey hval htok => ?_⟩
    iterate 4 simp [h.issued]
    exact absurd hval (h.tokens k sn uid b e hkey htok)
  session k hvalid := by
    rw [h.session k] at hvalid
    cases hvalid
  goroutine n := by
    rw [h.goroutine n]
    trivial

theorem effect (h : LeaseInv cfg s) (heff : Effect cfg s.world w') :
    LeaseInv cfg { s with world := w' } where
  store := h.store.effect heff
  session k hvalid := (h.session k hvalid).effect h.store heff
  goroutine n := (h.goroutine n).effect h.store heff

theorem drift (h : LeaseInv cfg s) (hdrift : cfg.Drifts s.world w') (hstore : StoreInv cfg w') :
    LeaseInv cfg { s with world := w' } where
  store := hstore
  session k hvalid := (h.session k hvalid).drift hdrift
  goroutine n := (h.goroutine n).drift hdrift

theorem move (h : LeaseInv cfg s) (hworld : s'.world = s.world)
    (hsess : ∀ k, validGateBinding (s'.session k).binding = true →
      cfg.Sound s.world k (s'.session k).binding (s'.session k).leaseDeadline)
    (hgo : s'.goroutine = update s.goroutine n g) (hg : g.Sound cfg s.world) :
    LeaseInv cfg s' where
  store := by
    rw [hworld]
    exact h.store
  session k hvalid := by
    rw [hworld]
    exact hsess k hvalid
  goroutine m := by
    rw [hworld, hgo]
    exact update_forall (P := fun _ (g : Goroutine κ) => g.Sound cfg s.world) hg (fun m _ => h.goroutine m) m

-- A session that was given something else holds it soundly, or holds nothing.
theorem sound_update [DecidableEq κ] (h : LeaseInv cfg s) {k₀ : κ} {sess : Session}
    (hsess : validGateBinding sess.binding = true → cfg.Sound s.world k₀ sess.binding sess.leaseDeadline) :
    ∀ k, validGateBinding (update s.session k₀ sess k).binding = true →
      cfg.Sound s.world k (update s.session k₀ sess k).binding
        (update s.session k₀ sess k).leaseDeadline :=
  update_forall (P := fun k (sess : Session) => validGateBinding sess.binding = true →
    cfg.Sound s.world k sess.binding sess.leaseDeadline) hsess fun k _ => h.session k

section Steps

variable [DecidableEq γ] [DecidableEq κ] {e : Event κ}

omit [DecidableEq γ] [DecidableEq κ] in
theorem world (h : LeaseInv cfg s) (hstep : WorldStep cfg s s') : LeaseInv cfg s' := by
  cases hstep with
  | elapse ns =>
    exact h.drift ⟨Nat.le_add_right _ _, fun _ hc => hc, rfl,
      fun _ _ _ _ _ _ hb => hb.later (Nat.le_add_right _ _)⟩ (h.store.elapse ns)
  | evict key =>
    refine h.drift ⟨Nat.le_refl _, fun _ hc => hc, rfl, fun clk hclk sn uid value deadline hb => ?_⟩
      (h.store.shrink fun _ _ _ => Db.evict_some)
    have hevict := hb.evict key
    rw [Clocks.serverAt, hclk] at hevict
    exact hevict
  | elsewhere db same =>
    exact h.drift ⟨Nat.le_refl _, fun _ hc => hc, rfl, fun _ _ sn uid _ _ hb => hb.of_key_eq (same sn uid)⟩
      (h.store.shrink fun sn uid e he => (same sn uid).symm.trans he)
  | served c issued => exact h.effect (h.store.serve_effect issued)

theorem server (h : LeaseInv cfg s) (hstep : ServerStep cfg s s') : LeaseInv cfg s' := by
  have hsame : s.goroutine = update s.goroutine 0 (s.goroutine 0) :=
    (update_eq_self 0 s.goroutine).symm
  cases hstep with
  | opened =>
    exact h.move rfl (h.sound_update fun hval => nomatch hval) hsame (h.goroutine 0)
  | _ => exact h.move rfl h.session hsame (h.goroutine 0)

theorem auth (h : LeaseInv cfg s) (hlink : Linked cfg s lives) (hstep : AuthStep cfg n s e s') :
    LeaseInv cfg s' := by
  have hsound := h.goroutine n
  have hwf := hlink.wf n
  cases hstep with
  | begun k =>
    refine h.move rfl (h.sound_update fun hval => ?_) rfl trivial
    have hkept : (s.session k).beginAuthentication.2.binding = (s.session k).binding ∧
        (s.session k).beginAuthentication.2.leaseDeadline = (s.session k).leaseDeadline := by
      unfold Session.beginAuthentication
      split <;> exact ⟨rfl, rfl⟩
    rw [hkept.1] at hval ⊢
    rw [hkept.2]
    exact h.session k hval
  | bindCalled k b at_ =>
    rw [at_] at hwf
    have hfresh : lives k = .fresh := hlink.view n k _ (by rw [at_]; rfl)
    have hstore : StoreInv cfg (s.world.issue (.bind b (cfg.leaseTTL (cfg.home k)))) :=
      h.store.issue_bind hwf fun b' ttl hb' htok => hlink.bindIssued k b' ttl hb' htok hfresh
    have hissued := h.drift (drifts_issue _ _) hstore
    refine hissued.move rfl hissued.session rfl ⟨Nat.le_refl _, List.mem_cons_self, hwf, ?_⟩
    exact fun lease previous hok => nomatch hok
  | bindServed k b boundAt replies at_ =>
    rw [at_] at hsound
    have heffect := h.store.serve_effect hsound.2.1
    have hserved := h.effect heffect
    refine hserved.move rfl hserved.session rfl ?_
    obtain ⟨hstart, hissued, htok, hrep⟩ := Goroutine.Sound.effect hsound h.store heffect
    refine ⟨hstart, hissued, htok, fun lease previous hok => ?_⟩
    rcases List.mem_cons.mp hok with hnew | hold
    · exact sound_of_bind_ok hsound.2.1 hsound.2.2.1 hsound.1 hnew.symm
    · exact hrep lease previous hold
  | bindReturned k b boundAt replies lease previous at_ ok =>
    rw [at_] at hsound
    exact h.move rfl h.session rfl (hsound.2.2.2 lease previous ok)
  | committed k boundAt lease ctxErr at_ commit =>
    rw [at_] at hsound
    refine h.move rfl (h.sound_update fun _ => ?_) rfl trivial
    rw [(cfg.commit_ok commit).2]
    exact hsound
  | rejected k boundAt lease ctxErr at_ =>
    rw [at_] at hsound
    exact h.move rfl h.session rfl (GatewayConfig.Sound.known hsound)
  | unbound k lease at_ =>
    rw [at_] at hsound
    have hissued := h.drift (drifts_issue _ _) (h.store.issue_unbind hsound)
    exact hissued.move rfl hissued.session rfl trivial
  | _ => exact h.move rfl h.session rfl trivial

omit [DecidableEq γ] in
theorem heartbeat (h : LeaseInv cfg s) (hstep : HeartbeatStep cfg n s e s') : LeaseInv cfg s' := by
  have hsound := h.goroutine n
  cases hstep with
  | locked => exact h.move rfl h.session rfl (Nat.le_refl _)
  | renewCalled k now at_ due =>
    rw [at_] at hsound
    have hval : validGateBinding (s.session k).binding = true := by
      have hboth := due
      simp only [GatewayConfig.route, Session.heartbeatRoute, Bool.and_eq_true] at hboth
      exact (Session.leaseValid_iff.mp hboth.1).1
    have hknown : cfg.Known s.world k (s.session k).binding := (h.session k hval).known
    have hissued := h.drift (drifts_issue _ _) (h.store.issue_renew hknown)
    refine hissued.move rfl hissued.session rfl
      ⟨hsound, List.mem_cons_self, hknown.drift (drifts_issue _ _), ?_⟩
    exact fun lease hok => nomatch hok
  | renewServed k b renewedAt replies at_ =>
    rw [at_] at hsound
    have heffect := h.store.serve_effect hsound.2.1
    have hserved := h.effect heffect
    refine hserved.move rfl hserved.session rfl ?_
    obtain ⟨hstart, hissued, hknown, hrep⟩ := Goroutine.Sound.effect hsound h.store heffect
    refine ⟨hstart, hissued, hknown, fun lease hok => ?_⟩
    rcases List.mem_cons.mp hok with hnew | hold
    · exact sound_of_renew_ok h.store hsound.2.2.1 hsound.1 hnew.symm
    · exact hrep lease hold
  | renewStored k b renewedAt replies lease at_ ok =>
    rw [at_] at hsound
    refine h.move rfl (h.sound_update fun hval => ?_) rfl trivial
    unfold Session.finishHeartbeat at hval ⊢
    split at hval
    · rename_i hsame
      rw [if_pos hsame]
      exact hsame ▸ hsound.2.2.2 lease ok
    · rename_i hoth
      rw [if_neg hoth]
      exact h.session k hval
  | _ => exact h.move rfl h.session rfl trivial

theorem teardown (h : LeaseInv cfg s) (hlink : Linked cfg s lives)
    (hstep : TeardownStep cfg n s e s') : LeaseInv cfg s' := by
  have hsound := h.goroutine n
  have hwf := hlink.wf n
  cases hstep with
  | detached job k =>
    exact h.move rfl (h.sound_update fun hval => nomatch hval) rfl
      (fun hval => (h.session k hval).known)
  | unbound job k b at_ valid =>
    rw [at_] at hsound
    have hissued := h.drift (drifts_issue _ _) (h.store.issue_unbind (hsound valid))
    exact hissued.move rfl hissued.session rfl trivial
  | kickDetached k target at_ taken =>
    rw [at_] at hwf
    obtain ⟨hbind, hnew⟩ := (s.session k).detachForKick_ok taken
    refine h.move rfl (h.sound_update fun hval => ?_) rfl ?_
    · rw [hnew] at hval
      cases hval
    · have hknown := (h.session k (hbind ▸ hwf)).known
      rw [hbind] at hknown
      exact hknown
  | kickRemoved k target at_ =>
    rw [at_] at hsound
    exact h.move rfl h.session rfl hsound
  | kickUnbound k target at_ =>
    rw [at_] at hsound
    have hissued := h.drift (drifts_issue _ _) (h.store.issue_unbind hsound)
    exact hissued.move rfl hissued.session rfl trivial
  | _ => exact h.move rfl h.session rfl trivial

theorem step (h : LeaseInv cfg s) (hlink : Linked cfg s lives)
    (hstep : GatewayStep cfg s e s') : LeaseInv cfg s' := by
  cases hstep with
  | world hstep => exact h.world hstep
  | server hstep => exact h.server hstep
  | auth n hstep => exact h.auth hlink hstep
  | heartbeat n hstep => exact h.heartbeat hstep
  | teardown n hstep => exact h.teardown hlink hstep

end Steps

end LeaseInv

/-! ## Every reachable state -/

/-- The store has the binding under the key of its user, unexpired, and every gateway reads it. -/
def GatewayConfig.StoreHolds (cfg : GatewayConfig γ κ) (s : Gateways γ κ) (b : GateBinding) : Prop :=
  ∃ raw, s.world.db.get (cfg.store.millis s.world) (gateKey b.serviceName b.uid) = some raw ∧
    decodeBinding raw b.serviceName b.uid = .ok b

theorem GatewayConfig.storeHolds_of_backed {b : GateBinding} {deadline : Nat} {k : κ}
    (hval : validGateBinding b = true)
    (h : Backed (cfg.clocks (cfg.home k)) (bindingKey b) (marshalBinding b) s.world.t s.world.db deadline)
    (hlt : (cfg.clocks (cfg.home k)).clientAt s.world.t < deadline) :
    cfg.StoreHolds s (readBack b) := by
  obtain ⟨expiry, hfind, -⟩ := h.find_of_lt hlt
  obtain ⟨hserviceName, huid, -⟩ := readBack_valid hval
  refine ⟨marshalBinding b, ?_, ?_⟩
  · rw [hserviceName, huid]
    exact Db.get_eq_some.mpr ⟨_, hfind, rfl⟩
  · rw [hserviceName, huid]
    exact decodeBinding_marshal hval

variable [DecidableEq γ] [DecidableEq κ]

theorem leaseInv_of_reachable (h : Reachable cfg.Init (GatewayStep cfg) s) : LeaseInv cfg s := by
  apply h.invariant_of (fun s hs => .of_init hs)
  rintro s e s' ⟨s₀, es, hinit, hrun⟩ hstep hinv
  obtain ⟨lives, ⟨-, hlink⟩, -⟩ := gateways_follow_lives hinit hrun
  exact hinv.step hlink hstep

omit [DecidableEq γ] [DecidableEq κ] in
-- A binding that is given up has left its session.
theorem not_unbound_of_held {k : κ} (hlink : Linked cfg s lives)
    (hval : validGateBinding (s.session k).binding = true) :
    .unbind (s.session k).binding ∉ s.world.issued := by
  intro hiss
  have hlife := hlink.committed_of_valid hval
  have howned := hlink.owned k _ (by rw [hlife]; rfl)
  obtain ⟨owner, hrel⟩ := hlink.unbindIssued k _ hiss howned.2
  rw [hlife] at hrel
  cases hrel

/-- While its deadline has not come, the binding of a session is in the store or displaced by a later
bind, and no gateway has asked to remove it.  The deadline of a session that holds a binding is within
an expiry the store gave that binding. -/
theorem local_lease_sound (hreach : Reachable cfg.Init (GatewayStep cfg) s) (k : κ) :
    (cfg.leaseValid s k = true →
      (cfg.StoreHolds s (s.session k).binding ∨ Displaced s.world.grants (s.session k).binding) ∧
      .unbind (s.session k).binding ∉ s.world.issued) ∧
    (validGateBinding (s.session k).binding = true →
      ∃ g ∈ s.world.grants, g.binding = (s.session k).binding ∧
        cfg.Within (cfg.home k) (s.session k).leaseDeadline g.expiry) := by
  have hinv := leaseInv_of_reachable hreach
  obtain ⟨s₀, es, hinit, hrun⟩ := hreach
  obtain ⟨lives, ⟨-, hlink⟩, -⟩ := gateways_follow_lives hinit hrun
  refine ⟨fun hval => ?_, fun hbind => ?_⟩
  · obtain ⟨hbind, hlt⟩ := Session.leaseValid_iff.mp hval
    have hkept := not_unbound_of_held hlink hbind
    obtain ⟨b₀, ttl, -, -, hval₀, hb, -, -, hheld⟩ := hinv.session k hbind
    refine ⟨?_, hkept⟩
    rw [hb] at hkept ⊢
    rcases hheld with hback | hdispl | hunbound
    · exact .inl (GatewayConfig.storeHolds_of_backed hval₀ hback hlt)
    · exact .inr hdispl
    · exact absurd hunbound hkept
  · obtain ⟨-, -, -, -, -, -, -, hgrant, -⟩ := hinv.session k hbind
    exact hgrant

-- After its login the lone session is valid.
theorem local_lease_sound_solo : ∃ s, soloConfig.leaseValid s () = true ∧
    (soloConfig.StoreHolds s (s.session ()).binding ∨ Displaced s.world.grants (s.session ()).binding) ∧
    .unbind (s.session ()).binding ∉ s.world.issued := by
  obtain ⟨es, s, -, -, hrun, hval, -⟩ := solo_session
  exact ⟨s, hval, (local_lease_sound ⟨_, es, soloStart_init, hrun⟩ ()).1 hval⟩

end Yola.Gateway
