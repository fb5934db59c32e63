import Yola.Gateway.BindingLife
import Yola.Reasoning.Updates

/-!
# The gateways follow the life of every binding

A step either leaves all machines where they are, or moves the machine of one session, and then it is
the goroutine that has the binding in hand, or takes it over from the session, that does it.
-/

namespace Yola.Gateway

open Function Text Redis Locate Locate.Redis Reasoning

variable {γ κ : Type} {cfg : GatewayConfig γ κ} {s s' : Gateways γ κ} {lives : κ → Life} {n : Nat}
  {g : Goroutine κ} {k : κ} {l : Life} {b : GateBinding}

theorem carries_cases (h : g.carries = some (k, l)) : l = .fresh ∨ l.carried = true := by
  cases g with
  | closeDetached =>
    simp only [Goroutine.carries] at h
    split at h
    · cases h
      exact .inr rfl
    · cases h
  | authBegun | authAccepted | authIdentified | authAdmitted =>
    cases h
    exact .inl rfl
  | authBinding | authBound | authRejected | kickDetached | kickRemoved =>
    cases h
    exact .inr rfl
  | _ => cases h

theorem GatewayConfig.Owned.other {k' : κ} (h : cfg.Owned k b) (hk : k' ≠ k) : b.bindingToken ≠ cfg.token k' :=
  fun htok => hk (cfg.distinct (htok.symm.trans h.2))

/-- What a step that takes the machine of session `k` to `l` may add to the calls issued. -/
def Adds (cfg : GatewayConfig γ κ) (k : κ) (l : Life) : StoreCall → Prop
  | .bind b _ => b.bindingToken = cfg.token k ∧ l ≠ .fresh
  | .renew _ _ => True
  | .unbind b => b.bindingToken = cfg.token k ∧ ∃ owner, l = .released owner b

theorem Adds.cons {x : StoreCall} (h : Adds cfg k l x) (issued : List StoreCall) :
    ∀ c ∈ x :: issued, c ∈ issued ∨ Adds cfg k l c := by
  intro c hc
  rcases List.mem_cons.mp hc with rfl | hold
  · exact .inr h
  · exact .inl hold

namespace Linked

theorem of_init (h : cfg.Init s) : Linked cfg s (fun _ => .fresh) where
  view n k l hl := by
    rw [h.goroutine n] at hl
    cases hl
  alone n m k l l' hn := by
    rw [h.goroutine n] at hn
    cases hn
  carried k hk := by cases hk
  binding k := by
    rw [h.session k]
    rfl
  attempted k _ := by
    refine ⟨rfl, fun n l hl => ?_⟩
    rw [h.goroutine n] at hl
    cases hl
  owned k b hb := by cases hb
  wf n := by
    rw [h.goroutine n]
    trivial
  bindIssued k b ttl hb := by
    rw [h.issued] at hb
    cases hb
  unbindIssued k b hb := by
    rw [h.issued] at hb
    cases hb

variable (h : Linked cfg s lives)

include h

theorem quiet (hiss : ∀ c ∈ s'.world.issued, c ∈ s.world.issued ∨ ∃ b ttl, c = .renew b ttl)
    (hgo : s'.goroutine = update s.goroutine n g)
    (hcarr : g.carries = (s.goroutine n).carries) (hwf : g.Wf cfg)
    (hsess : ∀ k, (s'.session k).binding = (s.session k).binding ∧
      (s'.session k).authAttempted = (s.session k).authAttempted) : Linked cfg s' lives := by
  have hsame (m : Nat) : (s'.goroutine m).carries = (s.goroutine m).carries := by
    rw [hgo]
    exact update_proj Goroutine.carries hcarr m
  refine ⟨fun m k l hl => ?_, fun m m' k l l' hm hm' => ?_, fun k hk => ?_, fun k => ?_, fun k hk => ?_,
    h.owned, fun m => ?_, fun k b ttl hb => ?_, fun k b hb => ?_⟩
  · exact h.view m k l ((hsame m).symm.trans hl)
  · exact h.alone m m' k l l' ((hsame m).symm.trans hm) ((hsame m').symm.trans hm')
  · obtain ⟨m, hm⟩ := h.carried k hk
    exact ⟨m, (hsame m).trans hm⟩
  · rw [(hsess k).1]
    exact h.binding k
  · rw [(hsess k).2] at hk
    obtain ⟨hfresh, hnone⟩ := h.attempted k hk
    exact ⟨hfresh, fun m l hm => hnone m l ((hsame m).symm.trans hm)⟩
  · rw [hgo]
    exact update_forall (P := fun _ (g : Goroutine κ) => g.Wf cfg) hwf (fun m _ => h.wf m) m
  · rcases hiss _ hb with hold | ⟨_, _, hnew⟩
    · exact h.bindIssued k b ttl hold
    · cases hnew
  · rcases hiss _ hb with hold | ⟨_, _, hnew⟩
    · exact h.unbindIssued k b hold
    · cases hnew

theorem same (hiss : s'.world.issued = s.world.issued)
    (hgo : s'.goroutine = s.goroutine)
    (hsess : ∀ k, (s'.session k).binding = (s.session k).binding ∧
      (s'.session k).authAttempted = (s.session k).authAttempted) : Linked cfg s' lives := by
  refine h.quiet (n := 0) (g := s.goroutine 0) ?_ ?_ rfl (h.wf 0) hsess
  · intro c hc
    rw [hiss] at hc
    exact Or.inl hc
  · rw [update_eq_self]
    exact hgo

theorem authAttempted_of_carries (hn : (s.goroutine n).carries = some (k, l)) :
    (s.session k).authAttempted = true := by
  by_contra hatt
  exact (h.attempted k (by simpa using hatt)).2 n l hn

-- Only a committed binding sits in the session.
theorem committed_of_valid (hval : validGateBinding (s.session k).binding = true) :
    lives k = .committed (s.session k).binding := by
  rw [h.binding k] at hval ⊢
  cases hl : lives k with
  | committed => rfl
  | _ =>
    rw [hl] at hval
    exact absurd hval (by simp [Life.held, Session.noBinding_invalid])

theorem noBinding_of_invalid (hbad : ¬ validGateBinding (s.session k).binding = true) :
    (s.session k).binding = noBinding := by
  rw [h.binding k] at hbad ⊢
  cases hl : lives k with
  | committed b =>
    rw [hl] at hbad
    exact absurd (h.owned k b (by rw [hl]; rfl)).1 hbad
  | _ => rfl

variable [DecidableEq κ]

/-- One goroutine takes the machine of session `k` to `l`, and may change the session. -/
theorem move {sess : Session}
    (hbef : ∀ k' l', (s.goroutine n).carries = some (k', l') → k' = k)
    (hsolo : ∀ m l', m ≠ n → (s.goroutine m).carries ≠ some (k, l'))
    (hgo : s'.goroutine = update s.goroutine n g)
    (hafter : g.carries = some (k, l) ∨ g.carries = none ∧ l.carried = false) (hwf : g.Wf cfg)
    (hsess : s'.session = update s.session k sess) (hbind : sess.binding = l.held)
    (hatt : sess.authAttempted = true) (howned : ∀ b, l.binding? = some b → cfg.Owned k b)
    (hiss : ∀ c ∈ s'.world.issued, c ∈ s.world.issued ∨ Adds cfg k l c)
    (hnext : (lives k = l ∧ ∀ owner b, l ≠ .released owner b) ∨ ∃ o, LifeStep (lives k) o l) :
    Linked cfg s' (update lives k l) := by
  have hfresh : l = .fresh → lives k = .fresh := by
    rintro rfl
    obtain ⟨hk, -⟩ | ⟨o, hstep⟩ := hnext
    · exact hk
    · exact absurd hstep.trace_eq (by simp [Life.trace])
  have hlast (owner : Owner) (b : GateBinding) : lives k ≠ .released owner b := by
    intro hk
    rw [hk] at hnext
    obtain ⟨hl, hne⟩ | ⟨o, hstep⟩ := hnext
    · exact hne owner b hl.symm
    · cases hstep
  have hself : s'.goroutine n = g := by rw [hgo, update_self]
  have hne (m : Nat) (hm : m ≠ n) : s'.goroutine m = s.goroutine m := by
    rw [hgo, update_of_ne hm]
  have hg (k' : κ) (l' : Life) (hl : g.carries = some (k', l')) : k' = k ∧ l' = l := by
    rcases hafter with hsome | ⟨hnone, -⟩
    · rw [hsome] at hl
      cases hl
      exact ⟨rfl, rfl⟩
    · rw [hnone] at hl
      cases hl
  -- other sessions' bindings are in the same hands as before
  have hoth (m : Nat) (k' : κ) (l' : Life) (hk : k' ≠ k) :
      (s'.goroutine m).carries = some (k', l') ↔ (s.goroutine m).carries = some (k', l') := by
    by_cases hm : m = n
    · subst hm
      rw [hself]
      exact ⟨fun hl => absurd (hg k' l' hl).1 hk, fun hl => absurd (hbef k' l' hl) hk⟩
    · rw [hne m hm]
  have honly (m : Nat) (l' : Life) (hm : (s'.goroutine m).carries = some (k, l')) : m = n := by
    by_contra hmn
    rw [hne m hmn] at hm
    exact hsolo m l' hmn hm
  refine ⟨fun m k' l' hl => ?_, fun m m' k' l' l'' hm hm' => ?_, fun k' hk' => ?_, fun k' => ?_,
    fun k' hk' => ?_, fun k' b hb => ?_, fun m => ?_, fun k' b ttl hb htok => ?_,
    fun k' b hb htok => ?_⟩
  · by_cases hk : k' = k
    · subst hk
      rw [honly m l' hl, hself] at hl
      rw [update_self, (hg k' l' hl).2]
    · rw [update_of_ne hk]
      exact h.view m k' l' ((hoth m k' l' hk).mp hl)
  · by_cases hk : k' = k
    · subst hk
      rw [honly m l' hm, honly m' l'' hm']
    · exact h.alone m m' k' l' l'' ((hoth m k' l' hk).mp hm) ((hoth m' k' l'' hk).mp hm')
  · by_cases hk : k' = k
    · subst hk
      rw [update_self] at hk' ⊢
      rcases hafter with hsome | ⟨-, hfree⟩
      · exact ⟨n, by rw [hself, hsome]⟩
      · rw [hfree] at hk'
        cases hk'
    · rw [update_of_ne hk] at hk' ⊢
      obtain ⟨m, hm⟩ := h.carried k' hk'
      exact ⟨m, (hoth m k' _ hk).mpr hm⟩
  · rw [hsess]
    by_cases hk : k' = k
    · rw [hk, update_self, update_self]
      exact hbind
    · rw [update_of_ne hk, update_of_ne hk]
      exact h.binding k'
  · rw [hsess] at hk'
    by_cases hk : k' = k
    · rw [hk, update_self, hatt] at hk'
      cases hk'
    · rw [update_of_ne hk] at hk'
      obtain ⟨hlife, hnone⟩ := h.attempted k' hk'
      rw [update_of_ne hk]
      exact ⟨hlife, fun m l' hm => hnone m l' ((hoth m k' l' hk).mp hm)⟩
  · by_cases hk : k' = k
    · subst hk
      rw [update_self] at hb
      exact howned b hb
    · rw [update_of_ne hk] at hb
      exact h.owned k' b hb
  · by_cases hm : m = n
    · rw [hm, hself]
      exact hwf
    · rw [hne m hm]
      exact h.wf m
  · by_cases hk : k' = k
    · subst hk
      rw [update_self]
      rcases hiss _ hb with hold | hnew
      · exact fun hl => h.bindIssued k' b ttl hold htok (hfresh hl)
      · exact hnew.2
    · rw [update_of_ne hk]
      rcases hiss _ hb with hold | hnew
      · exact h.bindIssued k' b ttl hold htok
      · exact absurd (cfg.distinct (htok.symm.trans hnew.1)) hk
  · by_cases hk : k' = k
    · subst hk
      rw [update_self]
      rcases hiss _ hb with hold | hnew
      · obtain ⟨owner, hrel⟩ := h.unbindIssued k' b hold htok
        exact absurd hrel (hlast owner b)
      · exact hnew.2
    · rw [update_of_ne hk]
      rcases hiss _ hb with hold | hnew
      · exact h.unbindIssued k' b hold htok
      · exact absurd (cfg.distinct (htok.symm.trans hnew.1)) hk

end Linked

theorem owned_of_bind_ok {w : World} {ttl : Duration} {lease : GateLease}
    {previous : Option GateBinding} (hb : b.bindingToken = cfg.token k)
    (hok : (cfg.store.bind w b ttl).1 = .ok (lease, previous)) : cfg.Owned k lease.binding := by
  obtain ⟨-, hval, ms, -, -, rfl⟩ := StoreConfig.bind_ok hok
  refine ⟨(readBack_valid hval).2.2, ?_⟩
  change toValid b.bindingToken = cfg.token k
  rw [hb, toValid_eq_self (cfg.token_utf8 k)]

variable [DecidableEq κ]

/-- The machines can follow a step that leads to `s'`. -/
def CanFollow (cfg : GatewayConfig γ κ) (lives : κ → Life) (e : Event κ) (s' : Gateways γ κ) :
    Prop :=
  ∃ lives', Linked cfg s' lives' ∧ ∀ k, Follows LifeStep (cfg.observe k e) (lives k) (lives' k)

theorem CanFollow.rest (h : Linked cfg s' lives) : CanFollow cfg lives .silent s' := ⟨lives, h, fun _ => rfl⟩

theorem CanFollow.shows {e : Event κ} {o : Option LifeEvent} (h : Linked cfg s' (update lives k l))
    (ho : cfg.observe k e = o) (hk : Follows LifeStep o (lives k) l)
    (hoth : ∀ k', k' ≠ k → cfg.observe k' e = none) : CanFollow cfg lives e s' := by
  refine ⟨_, h, fun k' => ?_⟩
  by_cases hk' : k' = k
  · rw [hk', update_self, ho]
    exact hk
  · rw [update_of_ne hk', hoth k' hk']
    rfl

namespace Linked

variable {e : Event κ} {g₀ : Goroutine κ} {l₀ : Life} {o : Option LifeEvent} {b : GateBinding} {owner : Owner}
  {sess : Session}

theorem session_update (hbind : sess.binding = (s.session k).binding)
    (hatt : sess.authAttempted = (s.session k).authAttempted) (k' : κ) :
    (update s.session k sess k').binding = (s.session k').binding ∧
      (update s.session k sess k').authAttempted = (s.session k').authAttempted :=
  ⟨update_proj Session.binding hbind k', update_proj Session.authAttempted hatt k'⟩

variable (h : Linked cfg s lives) (at_ : s.goroutine n = g₀)

include h at_

theorem rests (hiss : s'.world.issued = s.world.issued)
    (hgo : s'.goroutine = update s.goroutine n g) (hcarr : g.carries = g₀.carries)
    (hwf : g.Wf cfg) (hsess : s'.session = s.session) : CanFollow cfg lives .silent s' := by
  refine .rest (h.quiet (fun c hc => .inl (hiss ▸ hc)) hgo ?_ hwf fun k => ?_)
  · rw [at_]
    exact hcarr
  · rw [hsess]
    exact ⟨rfl, rfl⟩

theorem carry (hn : g₀.carries = some (k, l₀))
    (ho : cfg.observe k e = o) (hk : Follows LifeStep o l₀ l)
    (hgo : s'.goroutine = update s.goroutine n g)
    (hafter : g.carries = some (k, l) ∨ g.carries = none ∧ l.carried = false) (hwf : g.Wf cfg)
    (hsess : s'.session = s.session) (hheld : l.held = l₀.held)
    (howned : ∀ b, l.binding? = some b → l₀.binding? = some b ∨ cfg.Owned k b)
    (hiss : ∀ c ∈ s'.world.issued, c ∈ s.world.issued ∨ Adds cfg k l c)
    (hoth : ∀ k', k' ≠ k → cfg.observe k' e = none) : CanFollow cfg lives e s' := by
  rw [← at_] at hn
  have hlife : lives k = l₀ := h.view n k l₀ hn
  have hsame : s'.session = update s.session k (s.session k) := by
    rw [update_eq_self]
    exact hsess
  refine .shows (h.move (n := n) ?_ ?_ hgo hafter hwf hsame ?_ (h.authAttempted_of_carries hn) ?_ hiss ?_)
    ho (hlife ▸ hk) hoth
  · intro k' l' hl
    rw [hn] at hl
    cases hl
    rfl
  · exact fun m l' hm hl => hm (h.alone m n k l' l₀ hl hn)
  · rw [h.binding k, hlife, hheld]
  · intro b hb
    obtain hb' | howned := howned b hb
    · exact h.owned k b (hlife ▸ hb')
    · exact howned
  · rw [hlife]
    cases o with
    | some o => exact .inr ⟨o, hk⟩
    | none =>
      obtain rfl : l = l₀ := hk
      refine .inl ⟨rfl, ?_⟩
      rintro owner b rfl
      obtain hfresh | hcarried := carries_cases hn
      · cases hfresh
      · cases hcarried

theorem release (hn : g₀.carries = some (k, l₀))
    (hlife : LifeStep l₀ (.unbound owner b) (.released owner b)) (hb : l₀.binding? = some b)
    (hheld : l₀.held = noBinding) (hgo : s'.goroutine = update s.goroutine n g)
    (hafter : g.carries = none) (hwf : g.Wf cfg) (hsess : s'.session = s.session)
    (hiss : s'.world.issued = .unbind b :: s.world.issued) :
    CanFollow cfg lives (.unbindIssued owner b) s' := by
  have howned : cfg.Owned k b := by
    apply h.owned k b
    rw [h.view n k l₀ (at_ ▸ hn)]
    exact hb
  refine h.carry at_ hn (if_pos howned.2) hlife hgo (.inr ⟨hafter, rfl⟩) hwf hsess hheld.symm ?_ ?_
    fun k' hk => if_neg (howned.other hk)
  · rintro b' ⟨⟩
    exact .inr howned
  · rw [hiss]
    exact Adds.cons (x := .unbind b) ⟨howned.2, owner, rfl⟩ _

theorem detach (hlife : lives k = .committed b)
    (hn : g₀.carries = none) (hgo : s'.goroutine = update s.goroutine n g)
    (hafter : g.carries = some (k, .detached owner b)) (hwf : g.Wf cfg)
    (hsess : s'.session = update s.session k sess) (hbind : sess.binding = noBinding)
    (hattempted : sess.authAttempted = (s.session k).authAttempted)
    (hiss : s'.world.issued = s.world.issued) (howner : owner ≠ .authenticate) :
    CanFollow cfg lives (.detached k owner b) s' := by
  have howned : cfg.Owned k b := h.owned k b (by rw [hlife]; rfl)
  have hstep : LifeStep (lives k) (.detached owner b) (.detached owner b) := by
    rw [hlife]
    exact .detached owner b howner
  refine .shows (h.move (n := n) ?_ ?_ hgo (.inl hafter) hwf hsess hbind ?_ ?_
    (fun c hc => .inl (hiss ▸ hc)) (.inr ⟨_, hstep⟩)) (if_pos ⟨rfl, howned.1⟩) hstep
    fun k' hk => if_neg fun hc => hk hc.1.symm
  · intro k' l' hl
    rw [at_, hn] at hl
    cases hl
  · intro m l' _ hl
    obtain rfl : .committed b = l' := hlife.symm.trans (h.view m k l' hl)
    obtain hfresh | hcarr := carries_cases hl
    · cases hfresh
    · cases hcarr
  · rw [hattempted]
    by_contra hatt
    cases hlife.symm.trans (h.attempted k (by simpa using hatt)).1
  · rintro b' ⟨⟩
    exact howned

end Linked

variable {e : Event κ} (h : Linked cfg s lives)

include h

theorem Linked.world (hstep : WorldStep cfg s s') :
    CanFollow cfg lives .silent s' := by
  cases hstep with
  | served c => exact .rest (h.same (by cases c <;> rfl) rfl fun _ => ⟨rfl, rfl⟩)
  | _ => exact .rest (h.same rfl rfl fun _ => ⟨rfl, rfl⟩)

theorem Linked.heartbeat (hstep : HeartbeatStep cfg n s e s') :
    CanFollow cfg lives e s' := by
  cases hstep with
  | found k at_ _ | locked k at_ _ | passed k now at_ _ | renewServed k b renewedAt replies at_
  | renewFailed k b renewedAt replies at_ =>
    exact h.rests at_ rfl rfl rfl trivial rfl
  | renewCalled k now at_ =>
    refine .rest (h.quiet (fun c hc => ?_) rfl (by rw [at_]; rfl) trivial fun _ => ⟨rfl, rfl⟩)
    rcases List.mem_cons.mp hc with rfl | hold
    · exact .inr ⟨_, _, rfl⟩
    · exact .inl hold
  | renewStored k b renewedAt replies lease at_ =>
    refine ⟨lives, h.quiet (fun _ => .inl) rfl (by rw [at_]; rfl) trivial (session_update ?_ ?_), fun _ => rfl⟩ <;>
    · unfold Session.finishHeartbeat
      split <;> rfl

variable [DecidableEq γ]

theorem Linked.auth (hstep : AuthStep cfg n s e s') : CanFollow cfg lives e s' := by
  have hwf := h.wf n
  cases hstep with
  | found k at_ _ | forwarding k at_ _ | forwarded k at_ | repeated k at_ _ _ | left k _ at_
  | accepted k at_ =>
    exact h.rests at_ rfl rfl rfl trivial rfl
  | identified k serviceName uid at_ => exact h.rests at_ rfl rfl rfl rfl rfl
  | admitted k b ctxErr r at_ =>
    rw [at_] at hwf
    exact h.rests at_ rfl rfl rfl hwf rfl
  | bindServed k b boundAt replies at_ =>
    rw [at_] at hwf
    refine h.rests at_ rfl rfl rfl ⟨hwf.1, ?_⟩ rfl
    intro lease previous hok
    rcases List.mem_cons.mp hok with hnew | hold
    · exact owned_of_bind_ok hwf.1 hnew.symm
    · exact hwf.2 lease previous hold
  | begun k at_ free first =>
    have hunatt : (s.session k).authAttempted = false := by
      by_contra hatt
      rw [Session.beginAuthentication, if_pos (by simpa using hatt)] at first
      cases first
    have hnew : (s.session k).beginAuthentication.2 = { s.session k with authAttempted := true } := by
      rw [Session.beginAuthentication, if_neg (by simp [hunatt])]
    obtain ⟨hfresh, hnone⟩ := h.attempted k hunatt
    refine .shows (k := k) (l := .fresh) (h.move (n := n) ?_ (fun m l' _ => hnone m l') rfl (.inl rfl)
      trivial rfl ?_ ?_ nofun (fun c hc => .inl hc) (.inl ⟨hfresh, nofun⟩)) rfl hfresh.symm (fun _ _ => rfl)
    · intro k' l' hl
      rw [at_] at hl
      cases hl
    · rw [hnew]
      exact (h.binding k).trans (by rw [hfresh])
    · rw [hnew]
  | unavailable k at_ | unidentified k at_ | refused k b ctxErr at_ =>
    exact h.carry at_ rfl rfl rfl rfl (.inr ⟨rfl, rfl⟩) trivial rfl rfl (fun _ => .inl) (fun _ => .inl)
      (fun _ _ => rfl)
  | bindCalled k b at_ =>
    rw [at_] at hwf
    exact h.carry at_ rfl (if_pos rfl) LifeStep.called rfl (.inl rfl) ⟨hwf, fun _ _ hok => nomatch hok⟩ rfl rfl
      (fun _ => .inl) (Adds.cons (l := .calling) (x := .bind b _) ⟨hwf, nofun⟩ _) (fun k' hk => if_neg hk.symm)
  | bindReturned k b boundAt replies lease previous at_ ok =>
    rw [at_] at hwf
    refine h.carry at_ rfl (if_pos rfl) (LifeStep.returned _) rfl (.inl rfl) trivial rfl rfl ?_ (fun _ => .inl)
      (fun k' hk => if_neg hk.symm)
    rintro b' ⟨⟩
    exact .inr (hwf.2 lease previous ok)
  | bindFailed k b boundAt replies at_ =>
    exact h.carry at_ rfl (if_pos rfl) LifeStep.failed rfl (.inr ⟨rfl, rfl⟩) trivial rfl rfl nofun (fun _ => .inl)
      (fun k' hk => if_neg hk.symm)
  | committed k boundAt lease ctxErr at_ commit =>
    have hn : (s.goroutine n).carries = some (k, .returned lease.binding) := by
      rw [at_]
      rfl
    have hlife := h.view n k _ hn
    have hstep : LifeStep (lives k) (.committed lease.binding) (.committed lease.binding) := by
      rw [hlife]
      exact .committed _
    obtain ⟨-, hnew⟩ := cfg.commit_ok commit
    refine .shows (k := k) (l := .committed lease.binding) (h.move (n := n) ?_ ?_ rfl
      (.inr ⟨rfl, rfl⟩) trivial rfl ?_ ?_ ?_ (fun c hc => .inl hc) (.inr ⟨_, hstep⟩)) (if_pos rfl) hstep
      (fun k' hk => if_neg hk.symm)
    · intro k' l' hl
      rw [hn] at hl
      cases hl
      rfl
    · exact fun m l' hm hl => hm (h.alone m n k l' _ hl hn)
    · rw [hnew]
      rfl
    · rw [hnew]
      exact h.authAttempted_of_carries hn
    · rintro b ⟨⟩
      exact h.owned k _ (by rw [hlife]; rfl)
  | rejected k boundAt lease ctxErr at_ =>
    exact h.carry at_ rfl (if_pos rfl) (LifeStep.rejected _) rfl (.inl rfl) trivial rfl rfl (fun _ => .inl)
      (fun _ => .inl) (fun k' hk => if_neg hk.symm)
  | unbound k lease at_ => exact h.release at_ rfl (.withdrawn _) rfl rfl rfl rfl trivial rfl rfl

theorem Linked.teardown (hstep : TeardownStep cfg n s e s') :
    CanFollow cfg lives e s' := by
  cases hstep with
  | closed k r at_ _ | drained k deadline at_ _ _ | locked job k at_ _ | kickMissed k target at_ _
  | kickRemoved k target at_ =>
    exact h.rests at_ rfl rfl rfl trivial rfl
  | nothing job k b at_ invalid => exact h.rests at_ rfl rfl (if_neg (by simp [invalid])).symm trivial rfl
  | kickFound k target at_ valid => exact h.rests at_ rfl rfl rfl valid rfl
  | detached job k at_ =>
    by_cases hval : validGateBinding (s.session k).binding = true
    · exact h.detach at_ (h.committed_of_valid hval) rfl rfl (if_pos hval) trivial rfl
        rfl rfl rfl (by cases job <;> simp [Job.owner])
    · -- there was no binding to detach
      have hnone : (s.session k).binding = noBinding := h.noBinding_of_invalid hval
      refine ⟨lives, h.quiet (fun _ => .inl) rfl ?_ trivial (session_update hnone.symm rfl), fun k' => ?_⟩
      · rw [at_]
        exact if_neg hval
      · rw [show cfg.observe k' (.detached k job.owner (s.session k).detachForClose.1) = none from
          if_neg fun hc => hval hc.2]
        rfl
  | unbound job k b at_ valid =>
    exact h.release at_ (if_pos valid) (.unbound _ b (by cases job <;> simp [Job.owner])) rfl rfl rfl rfl trivial
      rfl rfl
  | skipped job k b at_ valid expired =>
    have hn : (s.goroutine n).carries = some (k, .detached job.owner b) := by
      rw [at_]
      exact if_pos valid
    have howned : cfg.Owned k b := h.owned k b (by rw [h.view n k _ hn]; rfl)
    have hlife : LifeStep (.detached job.owner b) (.skipped b) (.skipped b) := by
      cases job with
      | close => cases expired
      | drain => exact .skipped b
    exact h.carry at_ (if_pos valid) (if_pos howned.2) hlife rfl (.inr ⟨rfl, rfl⟩) trivial rfl rfl
      (fun _ => .inl) (fun _ => .inl) fun k' hk => if_neg (howned.other hk)
  | kickDetached k target at_ taken =>
    have hwf := h.wf n
    rw [at_] at hwf
    obtain ⟨hbind, hnew⟩ := (s.session k).detachForKick_ok taken
    have hlife := h.committed_of_valid (hbind ▸ hwf)
    rw [hbind] at hlife
    exact h.detach at_ hlife rfl rfl rfl trivial rfl (by rw [hnew]) (by rw [hnew]) rfl (by simp)
  | kickUnbound k target at_ =>
    exact h.release at_ rfl (.unbound .kick target (by simp)) rfl rfl rfl rfl trivial rfl rfl

theorem Linked.server (hopened : OpenedInv s)
    (hstep : ServerStep cfg s s') : CanFollow cfg lives .silent s' := by
  cases hstep with
  | opened k r fresh =>
    have hnew := hopened.untouched k fresh
    exact .rest (h.same rfl rfl (session_update (congrArg Session.binding hnew).symm
      (congrArg Session.authAttempted hnew).symm))
  | _ => exact .rest (h.same rfl rfl fun _ => ⟨rfl, rfl⟩)

theorem Linked.step (hopened : OpenedInv s)
    (hstep : GatewayStep cfg s e s') : CanFollow cfg lives e s' := by
  cases hstep with
  | world hstep => exact h.world hstep
  | server hstep => exact h.server hopened hstep
  | auth n hstep => exact h.auth hstep
  | heartbeat n hstep => exact h.heartbeat hstep
  | teardown n hstep => exact h.teardown hstep

omit h in
/-- Every run of the gateways is a life of each of its bindings. -/
theorem gateways_follow_lives {es : List (Event κ)} (hinit : cfg.Init s)
    (hrun : Run (GatewayStep cfg) s es s') :
    ∃ lives, (OpenedInv s' ∧ Linked cfg s' lives) ∧
      ∀ k, Run LifeStep .fresh (es.filterMap (cfg.observe k)) (lives k) := by
  refine hrun.simulate (R := fun s lives => OpenedInv s ∧ Linked cfg s lives) ?_
    (a := fun _ => .fresh) ⟨.of_init hinit, .of_init hinit⟩
  rintro s e s' lives hstep ⟨hopened, hlink⟩
  obtain ⟨lives', hlink', hfollows⟩ := hlink.step hopened hstep
  exact ⟨lives', ⟨hopened.step hstep, hlink'⟩, hfollows⟩

end Yola.Gateway
