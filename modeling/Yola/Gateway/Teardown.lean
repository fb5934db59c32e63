import Yola.Gateway.LifeSimulation

/-!
# Every binding is accounted for once

When a connection is closed and nobody works on it any more, a binding that the store returned for it
has been given back by exactly one owner.  While the session still holds its binding, it is in the
registry, or on its way to the goroutine that will detach it.
-/

namespace Yola.Gateway

open Function Text Redis Locate Locate.Redis Reasoning

def Goroutine.ending {κ : Type} : Goroutine κ → Option κ
  | closeRemoved _ k | closeLocked _ k => some k
  | _ => none

variable {γ κ : Type}

namespace GatewayConfig

variable (cfg : GatewayConfig γ κ) (s : Gateways γ κ) (k : κ)

def Registered : Prop := s.Found (cfg.home k) (cfg.connID k) k

def Left : Prop := s.opened k = true ∧ ¬ cfg.Registered s k

/-- The connection is closed: its session has left and nothing is left to be done for it. -/
def Closed : Prop := cfg.Left s k ∧ k ∉ s.undrained (cfg.home k) ∧ ∀ n, (s.goroutine n).session? ≠ some k

/-- The session is registered, waits for its drain, is being ended, or holds no binding. -/
def Kept : Prop :=
  cfg.Registered s k ∨ k ∈ s.undrained (cfg.home k) ∨ (∃ n, (s.goroutine n).ending = some k) ∨
    (s.session k).binding = noBinding

def Accounted : Prop := ∀ k, s.opened k = true → cfg.Kept s k

end GatewayConfig

section Accounted

variable {cfg : GatewayConfig γ κ} {s s' : Gateways γ κ} {n : Nat} {g g₀ : Goroutine κ}
  {lives : κ → Life}

theorem accounted_of_init (h : cfg.Init s) : cfg.Accounted s := by
  intro k hk
  rw [h.opened k] at hk
  cases hk

theorem GatewayConfig.Kept.step {k : κ} (h : cfg.Kept s k)
    (hregistered : cfg.Registered s k → cfg.Registered s' k)
    (hundr : k ∈ s.undrained (cfg.home k) → k ∈ s'.undrained (cfg.home k))
    (hgo : s'.goroutine = update s.goroutine n g)
    (hending : (s.goroutine n).ending = some k → g.ending = some k)
    (hbind : (s.session k).binding = noBinding →
      (s'.session k).binding = noBinding ∨ cfg.Registered s' k) : cfg.Kept s' k := by
  rcases h with hreg | hund | ⟨m, hm⟩ | hnone
  · exact .inl (hregistered hreg)
  · exact .inr (.inl (hundr hund))
  · refine .inr (.inr (.inl ⟨m, ?_⟩))
    rw [hgo]
    exact update_forall (P := fun m (g : Goroutine κ) => (s.goroutine m).ending = some k → g.ending = some k)
      hending (fun _ _ => id) m hm
  · rcases hbind hnone with hstill | hreg
    · exact .inr (.inr (.inr hstill))
    · exact .inl hreg

/-- A step that takes no session out of the registry or out of the hands of its goroutine. -/
theorem GatewayConfig.Accounted.keep (h : cfg.Accounted s) (at_ : s.goroutine n = g₀)
    (hopened : s'.opened = s.opened) (hreg : ∀ k, cfg.Registered s k → cfg.Registered s' k)
    (hundr : s'.undrained = s.undrained)
    (hgo : s'.goroutine = update s.goroutine n g)
    (hending : g₀.ending = none ∨ g.ending = g₀.ending)
    (hbind : ∀ k, (s.session k).binding = noBinding →
      (s'.session k).binding = noBinding ∨ cfg.Registered s' k) : cfg.Accounted s' := by
  intro k hk
  rw [hopened] at hk
  refine (h k hk).step (hreg k) (fun hund => ?_) hgo (fun hm => ?_) (hbind k)
  · rw [hundr]
    exact hund
  · rw [at_] at hm
    rcases hending with hnone | hsame
    · cases hnone.symm.trans hm
    · exact hsame.trans hm

theorem GatewayConfig.Accounted.goes (h : cfg.Accounted s) (at_ : s.goroutine n = g₀)
    (hopened : s'.opened = s.opened) (hreg : s'.registry = s.registry)
    (hundr : s'.undrained = s.undrained)
    (hgo : s'.goroutine = update s.goroutine n g)
    (hending : g₀.ending = none ∨ g.ending = g₀.ending) (hsess : s'.session = s.session) :
    cfg.Accounted s' := by
  refine h.keep at_ hopened (fun k hk => ?_) hundr hgo hending fun k hnone => .inl ?_
  · rw [GatewayConfig.Registered, Gateways.Found, hreg]
    exact hk
  · rw [hsess]
    exact hnone

variable [DecidableEq γ] [DecidableEq κ] {k k' : κ} {r : Registry κ} {e : Event κ}

omit [DecidableEq γ] in
theorem binding_update {sess : Session} (h : (s.session k).binding = noBinding → sess.binding = noBinding)
    (hnone : (s.session k').binding = noBinding) :
    (update s.session k sess k').binding = noBinding :=
  update_forall (P := fun k (sess : Session) => (s.session k).binding = noBinding → sess.binding = noBinding)
    h (fun _ _ => id) k' hnone

omit [DecidableEq κ] in
theorem registry_setRegistry_self (s : Gateways γ κ) (g : γ) (r : Registry κ) :
    (s.setRegistry g r).registry g = r := update_self ..

omit [DecidableEq κ] in
theorem registry_setRegistry_of_ne (s : Gateways γ κ) (r : Registry κ) {g g' : γ} (h : g' ≠ g) :
    (s.setRegistry g r).registry g' = s.registry g' := update_of_ne h ..

omit [DecidableEq κ] in
-- A registry in which the connection of `k` is looked up as before.
theorem registered_setRegistry {g : γ}
    (hr : (s.registry g).get (cfg.connID k) = some k → r.get (cfg.connID k) = some k)
    (h : cfg.Registered s k) : cfg.Registered (s.setRegistry g r) k := by
  unfold GatewayConfig.Registered Gateways.Found at h ⊢
  by_cases hg : cfg.home k = g
  · rw [hg, registry_setRegistry_self]
    rw [hg] at h
    exact hr h
  · rw [registry_setRegistry_of_ne s r hg]
    exact h

theorem registered_of_removeFrom (hrm : cfg.removeFrom s k = some r) (hk : k' ≠ k)
    (h : cfg.Registered s k') : cfg.Registered (s.setRegistry (cfg.home k) r) k' := by
  refine registered_setRegistry (fun hget => ?_) h
  rw [Registry.get_remove hrm, if_neg]
  · exact hget
  · -- one connection id leads to one session
    intro hconn
    rw [hconn, cfg.get_of_removeFrom hrm] at hget
    cases hget
    exact hk rfl

omit [DecidableEq γ] [DecidableEq κ] in
theorem GatewayConfig.Accounted.world (h : cfg.Accounted s) (hstep : WorldStep cfg s s') :
    cfg.Accounted s' := by
  cases hstep <;> exact h

theorem GatewayConfig.Accounted.server (h : cfg.Accounted s) (hstep : ServerStep cfg s s') :
    cfg.Accounted s' := by
  have hsame : s.goroutine = update s.goroutine 0 (s.goroutine 0) :=
    (update_eq_self 0 s.goroutine).symm
  cases hstep with
  | opened k r fresh added =>
    intro k' hk'
    obtain ⟨rfl, -⟩ | ⟨hk, hold⟩ := update_cases hk'
    · refine .inl ?_
      change ((s.setRegistry _ r).registry _).get _ = _
      rw [registry_setRegistry_self, Registry.get_add added, if_pos rfl]
    · refine (h k' hold).step (registered_setRegistry (s := s) fun hget => ?_) id hsame id fun hnone => .inl ?_
      · rw [Registry.get_add added, if_neg]
        · exact hget
        · intro hconn
          rw [hconn, Registry.get_eq_none_of_add added] at hget
          cases hget
      · exact binding_update (s := s) (fun _ => rfl) hnone
  | admissionOpened | stopping =>
    exact h.keep rfl rfl (fun _ hk => registered_setRegistry (s := s) id hk) rfl hsame (.inr rfl)
      (fun _ hk => .inl hk)
  | quiescing => exact h
  | taken g =>
    intro k hk
    by_cases hg : cfg.home k = g
    · have hund (hin : k ∈ (s.registry g).takeAll.1 ++ s.undrained g) :
          k ∈ update s.undrained g ((s.registry g).takeAll.1 ++ s.undrained g) (cfg.home k) := by
        rw [hg, update_self]
        exact hin
      rcases h k hk with hreg | hwait | hrest
      · rw [GatewayConfig.Registered, Gateways.Found, hg] at hreg
        exact .inr (.inl (hund (List.mem_append_left _ (Registry.mem_takeAll hreg))))
      · rw [hg] at hwait
        exact .inr (.inl (hund (List.mem_append_right _ hwait)))
      · exact .inr (.inr hrest)
    · refine (h k hk).step (fun hreg => ?_) (fun hwait => ?_) hsame id .inl
      · change ((s.setRegistry g _).registry (cfg.home k)).get (cfg.connID k) = some k
        rw [registry_setRegistry_of_ne s _ hg]
        exact hreg
      · change k ∈ update s.undrained g _ (cfg.home k)
        rw [update_of_ne hg]
        exact hwait

theorem GatewayConfig.Accounted.auth (h : cfg.Accounted s) (hstep : AuthStep cfg n s e s') :
    cfg.Accounted s' := by
  cases hstep with
  | begun k at_ =>
    refine h.keep at_ rfl (fun _ hk => hk) rfl rfl (.inl rfl) fun k' hnone => .inl ?_
    refine binding_update (s := s) (fun hnone => ?_) hnone
    rw [Session.beginAuthentication]
    split <;> exact hnone
  | committed k boundAt lease ctxErr at_ commit =>
    refine h.keep at_ rfl (fun _ hk => hk) rfl rfl (.inl rfl) fun k' hnone => ?_
    by_cases hk : k' = k
    · subst hk
      exact .inr (cfg.commit_ok commit).1
    · exact .inl (congrArg Session.binding (update_of_ne hk ..) |>.trans hnone)
  | admitted k b ctxErr r at_ granted =>
    refine h.keep at_ rfl (fun _ hk => registered_setRegistry (s := s) (fun hget => ?_) hk) rfl rfl (.inl rfl)
      (fun _ hk => .inl hk)
    exact (Registry.get_admitAuthentication granted).trans hget
  | left k admitted at_ =>
    refine h.keep at_ rfl (fun _ hk => registered_setRegistry (s := s) (fun hget => ?_) hk) rfl rfl (.inl rfl)
      (fun _ hk => .inl hk)
    split <;> exact hget
  | found k at_ _ | forwarding k at_ _ | forwarded k at_ | repeated k at_ _ _ | accepted k at_ _
  | unavailable k at_ _ | identified k _ _ at_ _ _ | unidentified k at_ | refused k _ _ at_ _
  | bindCalled k _ at_ | bindServed k _ _ _ at_ | bindReturned k _ _ _ _ _ at_ _
  | bindFailed k _ _ _ at_ | rejected k _ _ _ at_ | unbound k _ at_ =>
    exact h.goes at_ rfl rfl rfl rfl (.inl rfl) rfl

omit [DecidableEq γ] in
theorem GatewayConfig.Accounted.heartbeat (h : cfg.Accounted s)
    (hstep : HeartbeatStep cfg n s e s') : cfg.Accounted s' := by
  cases hstep with
  | renewStored k b renewedAt replies lease at_ =>
    refine h.keep at_ rfl (fun _ hk => hk) rfl rfl (.inl rfl) fun k' hnone => .inl ?_
    refine binding_update (s := s) (fun hnone => ?_) hnone
    rw [Session.finishHeartbeat]
    split <;> exact hnone
  | found k at_ _ | locked k at_ _ | passed k _ at_ _ | renewCalled k _ at_ _
  | renewServed k _ _ _ at_ | renewFailed k _ _ _ at_ =>
    exact h.goes at_ rfl rfl rfl rfl (.inl rfl) rfl

theorem GatewayConfig.Accounted.teardown (h : cfg.Accounted s) (hlink : Linked cfg s lives)
    (hstep : TeardownStep cfg n s e s') : cfg.Accounted s' := by
  cases hstep with
  | closed k r at_ removed =>
    intro k' hk'
    by_cases hk : k' = k
    · exact .inr (.inr (.inl ⟨n, by rw [hk]; exact congrArg _ (update_self ..)⟩))
    · exact (h k' hk').step (registered_of_removeFrom removed hk) id rfl (by rw [at_]; exact nofun) .inl
  | drained k deadline at_ =>
    intro k' hk'
    by_cases hk : k' = k
    · exact .inr (.inr (.inl ⟨n, by rw [hk]; exact congrArg _ (update_self ..)⟩))
    · refine (h k' hk').step id (fun hund => ?_) rfl (by rw [at_]; exact nofun) .inl
      exact update_forall (P := fun g l => k' ∈ s.undrained g → k' ∈ l) (List.mem_erase_of_ne hk).mpr
        (fun _ _ => id) _ hund
  | locked job k at_ => exact h.goes at_ rfl rfl rfl rfl (.inr rfl) rfl
  | detached job k at_ =>
    intro k' hk'
    by_cases hk : k' = k
    · exact .inr (.inr (.inr (by rw [hk]; exact congrArg _ (update_self ..))))
    · refine (h k' hk').step id id rfl (fun hm => ?_) fun hnone => .inl (binding_update (s := s) (fun _ => rfl) hnone)
      rw [at_] at hm
      cases hm
      exact absurd rfl hk
  | kickDetached k target at_ taken =>
    refine h.keep at_ rfl (fun _ hk => hk) rfl rfl (.inl rfl) fun k' hnone => .inl ?_
    refine binding_update (s := s) (fun _ => ?_) hnone
    rw [((s.session k).detachForKick_ok taken).2]
  | kickRemoved k target at_ =>
    have hlife : lives k = .detached .kick target := hlink.view n k _ (by rw [at_]; rfl)
    have hnone : (s.session k).binding = noBinding := by
      rw [hlink.binding k, hlife]
      rfl
    intro k' hk'
    by_cases hk : k' = k
    · exact .inr (.inr (.inr (by rw [hk]; exact hnone)))
    · refine (h k' hk').step (fun hreg => ?_) id rfl (by rw [at_]; exact nofun) .inl
      cases hrm : cfg.removeFrom s k with
      | none => exact registered_setRegistry (s := s) id hreg
      | some => exact registered_of_removeFrom hrm hk hreg
  | nothing job k b at_ _ | unbound job k b at_ _ _ | skipped job k b at_ _ _
  | kickFound k target at_ | kickMissed k target at_ | kickUnbound k target at_ =>
    exact h.goes at_ rfl rfl rfl rfl (.inl rfl) rfl

theorem GatewayConfig.Accounted.step (h : cfg.Accounted s) (hlink : Linked cfg s lives)
    (hstep : GatewayStep cfg s e s') : cfg.Accounted s' := by
  cases hstep with
  | world hstep => exact h.world hstep
  | server hstep => exact h.server hstep
  | auth n hstep => exact h.auth hstep
  | heartbeat n hstep => exact h.heartbeat hstep
  | teardown n hstep => exact h.teardown hlink hstep

end Accounted

/-! ## After the session has left -/

section Left

variable [DecidableEq γ] [DecidableEq κ] {cfg : GatewayConfig γ κ} {s s' : Gateways γ κ} {k : κ}
  {e : Event κ} {sess : Session}

-- A session enters the registry once, when it is opened.
theorem registered_of_step (hopened : s.opened k = true) (hstep : GatewayStep cfg s e s')
    (h : cfg.Registered s' k) : cfg.Registered s k := by
  cases hstep with
  | world hstep => cases hstep <;> exact h
  | server hstep =>
    cases hstep with
    | opened k₀ r fresh added =>
      have hne : k ≠ k₀ := by
        rintro rfl
        cases fresh.symm.trans hopened
      change ((s.setRegistry (cfg.home k₀) r).registry (cfg.home k)).get (cfg.connID k) = some k at h
      by_cases hg : cfg.home k = cfg.home k₀
      · rw [hg, registry_setRegistry_self, Registry.get_add added] at h
        split at h
        · cases h
          exact absurd rfl hne
        · rw [GatewayConfig.Registered, Gateways.Found, hg]
          exact h
      · rw [registry_setRegistry_of_ne s r hg] at h
        exact h
    | admissionOpened g =>
      exact Worked.get_setRegistry (r := (s.registry g).openAdmission) (fun _ _ hget => hget) _ _ _ h
    | stopping g =>
      exact Worked.get_setRegistry (r := (s.registry g).closeAdmission) (fun _ _ hget => hget) _ _ _ h
    | quiescing => exact h
    | taken =>
      refine Worked.get_setRegistry (fun c k hget => ?_) _ _ _ h
      rw [Registry.get_takeAll] at hget
      cases hget
  | auth n hstep => exact (Worked.auth hstep).registry _ _ _ h
  | heartbeat n hstep => exact (Worked.heartbeat hstep).registry _ _ _ h
  | teardown n hstep => exact (Worked.teardown hstep).registry _ _ _ h

theorem opened_of_step (hopened : s.opened k = true) (hstep : GatewayStep cfg s e s') :
    s'.opened k = true := by
  cases hstep with
  | world hstep => cases hstep <;> exact hopened
  | server hstep =>
    cases hstep with
    | opened => exact OpenedInv.opened_update hopened
    | _ => exact hopened
  | auth n hstep => rwa [(Worked.auth hstep).opened]
  | heartbeat n hstep => rwa [(Worked.heartbeat hstep).opened]
  | teardown n hstep => rwa [(Worked.teardown hstep).opened]

theorem GatewayConfig.Left.step (h : cfg.Left s k) (hstep : GatewayStep cfg s e s') : cfg.Left s' k :=
  ⟨opened_of_step h.1 hstep, fun hreg => h.2 (registered_of_step h.1 hstep hreg)⟩

omit [DecidableEq γ] in
-- The session is as it was, or another one has changed.
theorem leaseValid_setSession {k₀ : κ} {t : Nat}
    (hsess : sess.leaseValid (t + cfg.clientClock (cfg.home k₀)) = true →
      (s.session k₀).leaseValid (t + cfg.clientClock (cfg.home k₀)) = true)
    (h : ((s.setSession k₀ sess).session k).leaseValid (t + cfg.clientClock (cfg.home k)) = true) :
    (s.session k).leaseValid (t + cfg.clientClock (cfg.home k)) = true := by
  exact update_forall (P := fun k (sess : Session) =>
    sess.leaseValid (t + cfg.clientClock (cfg.home k)) = true →
      (s.session k).leaseValid (t + cfg.clientClock (cfg.home k)) = true) hsess (fun _ _ => id) k h

theorem leaseValid_noBinding {now : Nat} (hnone : sess.binding = noBinding) : sess.leaseValid now = false := by
  rw [Session.leaseValid, hnone, Session.noBinding_invalid]
  rfl

/-- Once the session has left, only the reply to a renewal can make its lease valid again. -/
theorem leaseValid_of_step (hleft : cfg.Left s k) (hstep : GatewayStep cfg s e s')
    (he : e ≠ .renewalStored k) (h : cfg.leaseValid s' k = true) : cfg.leaseValid s k = true := by
  unfold GatewayConfig.leaseValid GatewayConfig.now at h ⊢
  cases hstep with
  | world hstep =>
    cases hstep with
    | elapse ns =>
      refine Session.leaseValid_mono ?_ h
      change s.world.t + _ ≤ s.world.t + ns + _
      omega
    | served c => cases c <;> exact h
    | _ => exact h
  | server hstep =>
    cases hstep with
    | opened =>
      refine leaseValid_setSession (s := s) (fun hnew => ?_) h
      rw [leaseValid_noBinding rfl] at hnew
      cases hnew
    | _ => exact h
  | auth n hstep =>
    cases hstep with
    | begun =>
      refine leaseValid_setSession (s := s) (fun hnew => ?_) h
      rw [Session.beginAuthentication] at hnew
      split at hnew <;> exact hnew
    | committed k₀ boundAt lease ctxErr at_ commit =>
      by_cases hk : k = k₀
      · subst hk
        exact absurd (cfg.commit_ok commit).1 hleft.2
      · change (update s.session k₀ _ k).leaseValid _ = true at h
        rw [update_of_ne hk] at h
        exact h
    | _ => exact h
  | heartbeat n hstep =>
    cases hstep with
    | renewStored k₀ =>
      have hk : k ≠ k₀ := fun hk => he (by rw [hk])
      change (update s.session k₀ _ k).leaseValid _ = true at h
      rw [update_of_ne hk] at h
      exact h
    | _ => exact h
  | teardown n hstep =>
    cases hstep with
    | detached =>
      refine leaseValid_setSession (s := s) (fun hnew => ?_) h
      rw [leaseValid_noBinding rfl] at hnew
      cases hnew
    | kickDetached k₀ target at_ taken =>
      refine leaseValid_setSession (s := s) (fun hnew => ?_) h
      rw [leaseValid_noBinding (by rw [((s.session k₀).detachForKick_ok taken).2])] at hnew
      cases hnew
    | _ => exact h

end Left

/-! ## Whole runs -/

variable [DecidableEq γ] [DecidableEq κ] {cfg : GatewayConfig γ κ} {s s₀ : Gateways γ κ}
  {es : List (Event κ)} {lives : κ → Life} {g : Goroutine κ} {k : κ} {l : Life} {b : GateBinding}

theorem accounted_of_reachable (h : Reachable cfg.Init (GatewayStep cfg) s) : cfg.Accounted s := by
  apply h.invariant_of (fun s hs => accounted_of_init hs)
  rintro s e s' ⟨s₀, es, hinit, hrun⟩ hstep hacc
  obtain ⟨lives, ⟨-, hlink⟩, -⟩ := gateways_follow_lives hinit hrun
  exact hacc.step hlink hstep

omit [DecidableEq γ] [DecidableEq κ] in
theorem session?_of_carries (h : g.carries = some (k, l)) : g.session? = some k := by
  cases g with
  | closeDetached =>
    simp only [Goroutine.carries] at h
    split at h <;> cases h
    rfl
  | _ => cases h <;> rfl

omit [DecidableEq γ] [DecidableEq κ] in
theorem session?_of_ending (h : g.ending = some k) : g.session? = some k := by
  cases g <;> cases h <;> rfl

omit [DecidableEq γ] [DecidableEq κ] in
-- Nobody has the binding of a closed connection in hand, and its session does not hold it.
theorem life_of_closed (hlink : Linked cfg s lives) (hacc : cfg.Accounted s)
    (h : cfg.Closed s k) : (lives k).carried = false ∧ ∀ b, lives k ≠ .committed b := by
  obtain ⟨⟨hopened, hunregistered⟩, hundr, hidle⟩ := h
  constructor
  · by_contra hcarr
    obtain ⟨n, hn⟩ := hlink.carried k (by simpa using hcarr)
    exact hidle n (session?_of_carries hn)
  · intro b hlife
    rcases hacc k hopened with hreg | hund | ⟨n, hn⟩ | hnone
    · exact hunregistered hreg
    · exact hundr hund
    · exact hidle n (session?_of_ending hn)
    · have howned := hlink.owned k b (by rw [hlife]; rfl)
      rw [hlink.binding k, hlife] at hnone
      have hvalid := howned.1
      rw [show b = noBinding from hnone, Session.noBinding_invalid] at hvalid
      cases hvalid

theorem Life.count_called (l : Life) : l.trace.count .called ≤ 1 := by
  cases l with
  | released owner => cases owner <;> simp [Life.trace]
  | _ => simp [Life.trace]

-- What is seen of a binding that was returned, once it is in nobody's hands.
theorem Life.trace_of_returned (hret : .returned b ∈ l.trace)
    (hfree : l.carried = false) (hleft : ∀ b, l ≠ .committed b) :
    l.trace = [.called, .returned b, .rejected b, .unbound .authenticate b] ∨
      (∃ owner, owner ≠ .authenticate ∧
        l.trace = [.called, .returned b, .committed b, .detached owner b, .unbound owner b]) ∨
      l.trace = [.called, .returned b, .committed b, .detached .drain b, .skipped b] := by
  cases l with
  | committed b' => exact absurd rfl (hleft b')
  | released owner b' =>
    have hb : b = b' := by cases owner <;> simpa [Life.trace] using hret
    subst hb
    by_cases howner : owner = .authenticate
    · subst howner
      exact .inl rfl
    · refine .inr (.inl ⟨owner, howner, ?_⟩)
      cases owner <;> first | exact absurd rfl howner | rfl
  | skipped b' =>
    have hb : b = b' := by simpa [Life.trace] using hret
    subst hb
    exact .inr (.inr rfl)
  | fresh | failed => simp [Life.trace] at hret
  | _ => cases hfree

theorem Life.held_of_detached {owner : Owner} (h : .detached owner b ∈ l.trace) : l.held = noBinding := by
  cases l with
  | committed => simp [Life.trace] at h
  | _ => rfl

/-- `BindGate` is called at most once for a connection.  When the connection is closed, a binding it
returned was rejected and withdrawn by the authentication, or committed and detached by one of
`Close`, `kick` and `drainSession`, which is also the one to unbind it, unless the deadline of a drain
had passed.  A session that has left the registry does not become valid again, apart from the reply
to a renewal that was already on its way; one whose binding was detached never does. -/
theorem session_teardown (hinit : cfg.Init s₀) (hrun : Run (GatewayStep cfg) s₀ es s) (k : κ) :
    (es.filterMap (cfg.observe k)).count .called ≤ 1 ∧
      (cfg.Closed s k → ∀ b, .returned b ∈ es.filterMap (cfg.observe k) →
        es.filterMap (cfg.observe k) = [.called, .returned b, .rejected b, .unbound .authenticate b] ∨
          (∃ owner, owner ≠ .authenticate ∧ es.filterMap (cfg.observe k) =
            [.called, .returned b, .committed b, .detached owner b, .unbound owner b]) ∨
          es.filterMap (cfg.observe k) =
            [.called, .returned b, .committed b, .detached .drain b, .skipped b]) ∧
      (cfg.Left s k → cfg.leaseValid s k = false →
        ∀ es' s', Run (GatewayStep cfg) s es' s' → .renewalStored k ∉ es' → cfg.leaseValid s' k = false) ∧
      ∀ owner b, .detached owner b ∈ es.filterMap (cfg.observe k) → cfg.leaseValid s k = false := by
  obtain ⟨lives, ⟨-, hlink⟩, hruns⟩ := gateways_follow_lives hinit hrun
  have htrace : (lives k).trace = es.filterMap (cfg.observe k) := Life.trace_of_run (hruns k)
  rw [← htrace]
  refine ⟨(lives k).count_called, fun hcls b hret => ?_, fun hleft hbad es' s' hrun' hes =>
    ?_, fun owner b hdet => ?_⟩
  · obtain ⟨hfree, hcom⟩ :=
      life_of_closed hlink (accounted_of_reachable ⟨s₀, es, hinit, hrun⟩) hcls
    exact Life.trace_of_returned hret hfree hcom
  · have hboth : cfg.Left s' k ∧ cfg.leaseValid s' k = false := by
      apply hrun'.preserves (P := fun s => cfg.Left s k ∧ cfg.leaseValid s k = false)
      · rintro s e s' he hstep ⟨hleft, hbad⟩
        refine ⟨hleft.step hstep, ?_⟩
        by_contra hval
        have hbef := leaseValid_of_step hleft hstep (fun heq => hes (heq ▸ he)) (by simpa using hval)
        rw [hbad] at hbef
        cases hbef
      · exact ⟨hleft, hbad⟩
    exact hboth.2
  · apply leaseValid_noBinding
    rw [hlink.binding k]
    exact Life.held_of_detached hdet

-- The lone session is closed after its login.
theorem session_teardown_solo : ∃ es s, Run (GatewayStep soloConfig) soloStart es s ∧ soloConfig.Closed s () ∧
    (es.filterMap (soloConfig.observe ()) = [.called, .returned (readBack soloBinding),
        .rejected (readBack soloBinding), .unbound .authenticate (readBack soloBinding)] ∨
      (∃ owner, owner ≠ .authenticate ∧ es.filterMap (soloConfig.observe ()) =
        [.called, .returned (readBack soloBinding), .committed (readBack soloBinding),
          .detached owner (readBack soloBinding), .unbound owner (readBack soloBinding)]) ∨
      es.filterMap (soloConfig.observe ()) =
        [.called, .returned (readBack soloBinding), .committed (readBack soloBinding),
          .detached .drain (readBack soloBinding), .skipped (readBack soloBinding)]) := by
  obtain ⟨es, s, es', s', hlogin, -, hret, hclose, hopened, hgone, hundr, hidle⟩ :=
    solo_session
  have hcls : soloConfig.Closed s' () := by
    refine ⟨⟨hopened, fun hfound => ?_⟩, ?_, fun n => ?_⟩
    · rw [GatewayConfig.Registered, Gateways.Found] at hfound
      cases hgone.symm.trans hfound
    · rw [show s'.undrained (soloConfig.home ()) = [] from hundr]
      exact List.not_mem_nil
    · rw [hidle n]
      exact fun h => nomatch h
  refine ⟨es ++ es', s', hlogin.append hclose, hcls, ?_⟩
  apply (session_teardown soloStart_init (hlogin.append hclose) ()).2.1 hcls
  rw [List.filterMap_append]
  exact List.mem_append_left _ (List.mem_filterMap.mpr ⟨_, hret, rfl⟩)

end Yola.Gateway
