import Yola.Gateway.Steps
import Yola.Reasoning.Updates

/-!
# Only opened connections are worked on

A registry holds sessions of connections that have come in, a goroutine works on a session it has
found in a registry, and a session nobody has opened is untouched.
-/

namespace Yola.Gateway

open Function Text Redis Locate Locate.Redis Reasoning

/-! ## The registry -/

namespace Registry

variable {κ : Type} {r r' : Registry κ} {c c' : Bytes} {k k' : κ}

theorem add_eq_some (h : r.add c k = some r') :
    ∃ m, r.byConnID = some m ∧ m.lookup c = none ∧ r' = { r with byConnID := some (m.insert c k) } := by
  unfold add at h
  cases hm : r.byConnID with
  | none =>
    rw [hm] at h
    cases h
  | some m =>
    simp only [hm] at h
    split at h
    · cases h
    · rename_i hadmit
      simp only [Bool.or_eq_true, not_or, Option.not_isSome_iff_eq_none] at hadmit
      exact ⟨m, rfl, hadmit.2, (Option.some.inj h).symm⟩

theorem get_add (h : r.add c k = some r') : r'.get c' = if c' = c then some k else r.get c' := by
  obtain ⟨m, hm, -, rfl⟩ := add_eq_some h
  by_cases hc : c' = c
  · subst hc
    simp [get]
  · simp [get, hm, hc, AList.lookup_insert_ne hc]

theorem get_eq_none_of_add (h : r.add c k = some r') : r.get c = none := by
  obtain ⟨m, hm, hnone, -⟩ := add_eq_some h
  rw [get, hm]
  exact hnone

theorem get_takeAll : r.takeAll.2.get c = none := by
  unfold takeAll
  cases hm : r.byConnID <;> simp [get, hm]

theorem mem_takeAll (h : r.get c = some k) : k ∈ r.takeAll.1 := by
  unfold get at h
  cases hm : r.byConnID with
  | none =>
    rw [hm] at h
    cases h
  | some =>
    rw [hm, Option.bind_some] at h
    have hentry := AList.mem_lookup_iff.mp (Option.mem_def.mpr h)
    simp only [takeAll, hm]
    exact List.mem_map.mpr ⟨_, hentry, rfl⟩

theorem get_of_mem_takeAll (h : k ∈ r.takeAll.1) : ∃ c, r.get c = some k := by
  unfold takeAll at h
  cases hm : r.byConnID with
  | none =>
    rw [hm] at h
    cases h
  | some =>
    rw [hm] at h
    obtain ⟨⟨c, k'⟩, hent, rfl⟩ := List.mem_map.mp h
    refine ⟨c, ?_⟩
    rw [get, hm, Option.bind_some]
    exact AList.mem_lookup_iff.mpr hent

variable [DecidableEq κ]

theorem holds_iff : r.holds c k = true ↔ r.get c = some k := by
  unfold holds
  rw [beq_iff_eq]

theorem get_remove (h : r.remove c k = some r') : r'.get c' = if c' = c then none else r.get c' := by
  unfold remove at h
  split at h
  · cases h
    by_cases hc : c' = c
    · subst hc
      cases r.byConnID <;> simp [get]
    · cases hm : r.byConnID <;> simp [get, hm, hc, AList.lookup_erase_ne hc]
  · cases h

theorem get_of_get_remove (h : r.remove c k = some r') (hget : r'.get c' = some k') : r.get c' = some k' := by
  rw [get_remove h] at hget
  split at hget
  · cases hget
  · exact hget

theorem get_admitAuthentication {sess : Session} {ctxErr : Bool} {now : Nat}
    (h : r.admitAuthentication c k sess ctxErr now = some r') : r'.get c' = r.get c' := by
  unfold admitAuthentication at h
  split at h
  · cases h
  · cases h
    rfl

end Registry

theorem GatewayConfig.commit_ok {γ κ : Type} [DecidableEq κ] (cfg : GatewayConfig γ κ)
    {s : Gateways γ κ} {k : κ} {ctxErr : Bool} {lease : GateLease} {boundAt : Nat}
    (h : (cfg.commit s k ctxErr lease boundAt).1 = true) :
    (s.registry (cfg.home k)).get (cfg.connID k) = some k ∧
      (cfg.commit s k ctxErr lease boundAt).2 =
        { s.session k with
          binding := lease.binding, leaseDeadline := addDuration boundAt lease.ttl,
          authTimer := false } := by
  unfold GatewayConfig.commit Registry.commitAuthentication at h ⊢
  split at h
  · cases h
  · rename_i hadmit
    rw [if_neg hadmit]
    simp only [Bool.or_eq_true, not_or, Bool.not_eq_true', Bool.not_eq_false] at hadmit
    refine ⟨Registry.holds_iff.mp hadmit.1, ?_⟩
    unfold Session.finishAuthentication at h ⊢
    dsimp only at h ⊢
    split at h
    · cases h
    · rename_i hlate
      rw [if_neg hlate]

theorem GatewayConfig.get_of_removeFrom {γ κ : Type} [DecidableEq κ] (cfg : GatewayConfig γ κ)
    {s : Gateways γ κ} {k : κ} {r : Registry κ} (h : cfg.removeFrom s k = some r) :
    (s.registry (cfg.home k)).get (cfg.connID k) = some k := by
  unfold GatewayConfig.removeFrom Registry.remove at h
  split at h
  · rename_i hholds
    exact Registry.holds_iff.mp hholds
  · cases h

/-! ## Who works on what -/

def Goroutine.session? {κ : Type} : Goroutine κ → Option κ
  | idle => none
  | handleFound k | forwarding k | authBegun k | authAccepted k
  | authIdentified k _ | authAdmitted k _ | authBinding k _ _ _
  | authBound k _ _ | authRejected k _ | authLeaving k _
  | heartbeatFound k | heartbeatLocked k _ | heartbeatRenewing k _ _ _
  | closeRemoved _ k | closeLocked _ k | closeDetached _ k _
  | kickFound k _ | kickDetached k _ | kickRemoved k _ => some k

structure OpenedInv {γ κ : Type} (s : Gateways γ κ) : Prop where
  registry : ∀ g c k, (s.registry g).get c = some k → s.opened k = true
  undrained : ∀ g k, k ∈ s.undrained g → s.opened k = true
  goroutine : ∀ n k, (s.goroutine n).session? = some k → s.opened k = true
  untouched : ∀ k, s.opened k = false → s.session k = newSession 0 0

namespace OpenedInv

variable {γ κ : Type} {s s' : Gateways γ κ} {n : Nat} {g : Goroutine κ}

theorem of_init {cfg : GatewayConfig γ κ} (h : cfg.Init s) : OpenedInv s where
  registry g c k hget := by
    rw [h.registry g] at hget
    simp [Registry.get] at hget
  undrained g k hk := by
    rw [h.undrained g] at hk
    cases hk
  goroutine n k hk := by
    rw [h.goroutine n] at hk
    cases hk
  untouched k _ := h.session k

end OpenedInv

/-! ## What a step touches -/

variable {γ κ : Type} {s s' : Gateways γ κ} {n : Nat} {g g₀ : Goroutine κ} {k : κ}

def Gateways.Known (s : Gateways γ κ) (n : Nat) (k : κ) : Prop :=
  (s.goroutine n).session? = some k ∨ (∃ g c, (s.registry g).get c = some k) ∨ ∃ g, k ∈ s.undrained g

/-- A goroutine goes on with its session or takes up one that it finds, and changes no other; registries
lose sessions at most. -/
structure Worked (n : Nat) (s s' : Gateways γ κ) : Prop where
  opened : s'.opened = s.opened
  registry : ∀ g c k, (s'.registry g).get c = some k → (s.registry g).get c = some k
  undrained : ∀ g k, k ∈ s'.undrained g → k ∈ s.undrained g
  goroutine : ∃ g, s'.goroutine = update s.goroutine n g ∧ ∀ k, g.session? = some k → s.Known n k
  session : ∀ k, (s.goroutine n).session? ≠ some k → s'.session k = s.session k

namespace Worked

theorem goes (hopened : s'.opened = s.opened) (hreg : s'.registry = s.registry)
    (hundr : s'.undrained = s.undrained)
    (hgo : s'.goroutine = update s.goroutine n g)
    (hg : ∀ k, g.session? = some k → s.Known n k) (hsess : s'.session = s.session) : Worked n s s' where
  opened := hopened
  registry _ _ _ hget := hreg ▸ hget
  undrained _ _ hk := hundr ▸ hk
  goroutine := ⟨g, hgo, hg⟩
  session k _ := congrFun hsess k

theorem keeps (at_ : s.goroutine n = g₀) (h : g.session? = g₀.session?) :
    ∀ k, g.session? = some k → s.Known n k := by
  intro k hk
  rw [h, ← at_] at hk
  exact .inl hk

variable [DecidableEq κ] [DecidableEq γ]

omit [DecidableEq γ] in
theorem changes {sess : Session} (at_ : s.goroutine n = g₀) (hk : g₀.session? = some k)
    (hopened : s'.opened = s.opened) (hreg : s'.registry = s.registry)
    (hundr : s'.undrained = s.undrained)
    (hgo : s'.goroutine = update s.goroutine n g)
    (hg : ∀ k, g.session? = some k → s.Known n k)
    (hsess : s'.session = update s.session k sess) : Worked n s s' where
  opened := hopened
  registry _ _ _ hget := hreg ▸ hget
  undrained _ _ hk := hundr ▸ hk
  goroutine := ⟨g, hgo, hg⟩
  session k' hk' := by
    rw [hsess]
    refine update_of_ne ?_ ..
    rintro rfl
    exact hk' (at_ ▸ hk)

omit [DecidableEq κ] in
theorem get_setRegistry {g₀ : γ} {r : Registry κ}
    (hr : ∀ c k, r.get c = some k → (s.registry g₀).get c = some k) :
    ∀ g c k, ((s.setRegistry g₀ r).registry g).get c = some k → (s.registry g).get c = some k :=
  update_forall (P := fun g (r : Registry κ) => ∀ c k, r.get c = some k → (s.registry g).get c = some k) hr
    fun _ _ _ _ hget => hget

variable {cfg : GatewayConfig γ κ} {e : Event κ}

theorem auth (hstep : AuthStep cfg n s e s') : Worked n s s' := by
  cases hstep with
  | found k idle found =>
    refine .goes rfl rfl rfl rfl ?_ rfl
    rintro k' ⟨⟩
    exact .inr (.inl ⟨_, _, found⟩)
  | begun k at_ | committed k boundAt lease ctxErr at_ =>
    exact .changes at_ rfl rfl rfl rfl rfl (keeps at_ rfl) rfl
  | admitted k b ctxErr r at_ granted =>
    refine ⟨rfl, get_setRegistry (s := s) fun c k hget => ?_, fun _ _ hk => hk, ⟨_, rfl, keeps at_ rfl⟩,
      fun _ _ => rfl⟩
    rw [Registry.get_admitAuthentication granted] at hget
    exact hget
  | left k =>
    refine ⟨rfl, get_setRegistry (s := s) fun c k hget => ?_, fun _ _ hk => hk, ⟨_, rfl, nofun⟩,
      fun _ _ => rfl⟩
    split at hget <;> exact hget
  | forwarded | repeated => exact .goes rfl rfl rfl rfl nofun rfl
  | _ =>
    have at_ := ‹s.goroutine n = _›
    exact .goes rfl rfl rfl rfl (keeps at_ rfl) rfl

omit [DecidableEq γ] in
theorem heartbeat (hstep : HeartbeatStep cfg n s e s') : Worked n s s' := by
  cases hstep with
  | found k idle found =>
    refine .goes rfl rfl rfl rfl ?_ rfl
    rintro k' ⟨⟩
    exact .inr (.inl ⟨_, _, found⟩)
  | renewStored k b renewedAt replies lease at_ => exact .changes at_ rfl rfl rfl rfl rfl nofun rfl
  | passed | renewFailed => exact .goes rfl rfl rfl rfl nofun rfl
  | _ =>
    have at_ := ‹s.goroutine n = _›
    exact .goes rfl rfl rfl rfl (keeps at_ rfl) rfl

theorem teardown (hstep : TeardownStep cfg n s e s') : Worked n s s' := by
  cases hstep with
  | closed k r idle removed =>
    refine ⟨rfl, get_setRegistry (s := s) fun c k hget => Registry.get_of_get_remove removed hget,
      fun _ _ hk => hk, ⟨_, rfl, ?_⟩, fun _ _ => rfl⟩
    rintro k' ⟨⟩
    exact .inr (.inl ⟨_, _, cfg.get_of_removeFrom removed⟩)
  | drained k deadline idle taken waiting =>
    refine ⟨rfl, fun _ _ _ hget => hget, ?_, ⟨_, rfl, ?_⟩, fun _ _ => rfl⟩
    · exact update_forall (P := fun g l => ∀ k, k ∈ l → k ∈ s.undrained g) (fun _ => List.mem_of_mem_erase)
        fun _ _ _ hk => hk
    · rintro k' ⟨⟩
      exact .inr (.inr ⟨_, waiting⟩)
  | detached job k at_ | kickDetached k target at_ =>
    exact .changes at_ rfl rfl rfl rfl rfl (keeps at_ rfl) rfl
  | kickFound k target idle valid owns found =>
    refine .goes rfl rfl rfl rfl ?_ rfl
    rintro k' ⟨⟩
    exact .inr (.inl ⟨_, _, found⟩)
  | kickRemoved k target at_ =>
    refine ⟨rfl, get_setRegistry (s := s) fun c k' hget => ?_, fun _ _ hk => hk, ⟨_, rfl, keeps at_ rfl⟩,
      fun _ _ => rfl⟩
    cases hrm : cfg.removeFrom s k with
    | none =>
      rw [hrm] at hget
      exact hget
    | some =>
      rw [hrm] at hget
      exact Registry.get_of_get_remove hrm hget
  | locked job k at_ => exact .goes rfl rfl rfl rfl (keeps at_ rfl) rfl
  | _ => exact .goes rfl rfl rfl rfl nofun rfl

end Worked

namespace OpenedInv

theorem worked (h : OpenedInv s) (hstep : Worked n s s') : OpenedInv s' where
  registry g c k hget := by
    rw [hstep.opened]
    exact h.registry g c k (hstep.registry g c k hget)
  undrained g k hk := by
    rw [hstep.opened]
    exact h.undrained g k (hstep.undrained g k hk)
  goroutine m k hk := by
    obtain ⟨g, hgo, hg⟩ := hstep.goroutine
    rw [hgo] at hk
    rw [hstep.opened]
    by_cases hm : m = n
    · rw [hm, update_self] at hk
      obtain hsame | ⟨g', c, hget⟩ | ⟨g', hund⟩ := hg k hk
      · exact h.goroutine n k hsame
      · exact h.registry g' c k hget
      · exact h.undrained g' k hund
    · rw [update_of_ne hm] at hk
      exact h.goroutine m k hk
  untouched k hk := by
    rw [hstep.opened] at hk
    rw [hstep.session k fun hwork => ?_]
    · exact h.untouched k hk
    · cases hk.symm.trans (h.goroutine n k hwork)

variable [DecidableEq γ] [DecidableEq κ] {cfg : GatewayConfig γ κ} {e : Event κ}

omit [DecidableEq γ] in
theorem opened_update {k k' : κ} (h : s.opened k' = true) : update s.opened k true k' = true := by
  by_cases hk : k' = k
  · rw [hk, update_self]
  · rw [update_of_ne hk]
    exact h

theorem server (h : OpenedInv s) (hstep : ServerStep cfg s s') : OpenedInv s' := by
  have hreg {g : γ} {r : Registry κ} (hr : ∀ c k, r.get c = some k → (s.registry g).get c = some k) :
      ∀ g' c k, ((s.setRegistry g r).registry g').get c = some k → s.opened k = true :=
    fun g' c k hget => h.registry g' c k (Worked.get_setRegistry hr g' c k hget)
  cases hstep with
  | opened k r fresh added =>
    refine ⟨fun g c k' hget => ?_, fun g k' hk' => opened_update (h.undrained g k' hk'),
      fun n k' hk' => opened_update (h.goroutine n k' hk'), ?_⟩
    · change (update s.registry (cfg.home k) r g).get c = some k' at hget
      by_cases hg : g = cfg.home k
      · rw [hg, update_self, Registry.get_add added] at hget
        split at hget
        · cases hget
          exact update_self ..
        · exact opened_update (h.registry _ _ _ hget)
      · rw [update_of_ne hg] at hget
        exact opened_update (h.registry _ _ _ hget)
    · intro k' hk'
      obtain ⟨-, hfalse⟩ | ⟨hk, hold⟩ := update_cases hk'
      · cases hfalse
      · exact (update_of_ne hk ..).trans (h.untouched k' hold)
  | admissionOpened | stopping =>
    exact { h with registry := hreg fun _ _ hget => hget }
  | quiescing => exact { h with }
  | taken g =>
    refine { h with registry := hreg fun c k hget => ?_, undrained := ?_ }
    · rw [Registry.get_takeAll] at hget
      cases hget
    · refine update_forall (P := fun _ l => ∀ k, k ∈ l → s.opened k = true) (fun k hk => ?_)
        fun g' _ => h.undrained g'
      rcases List.mem_append.mp hk with htaken | hwait
      · obtain ⟨c, hget⟩ := Registry.get_of_mem_takeAll htaken
        exact h.registry g c k hget
      · exact h.undrained g k hwait

theorem step (h : OpenedInv s) (hstep : GatewayStep cfg s e s') : OpenedInv s' := by
  cases hstep with
  | world hstep => cases hstep <;> exact { h with }
  | server hstep => exact h.server hstep
  | auth n hstep => exact h.worked (.auth hstep)
  | heartbeat n hstep => exact h.worked (.heartbeat hstep)
  | teardown n hstep => exact h.worked (.teardown hstep)

end OpenedInv

end Yola.Gateway
