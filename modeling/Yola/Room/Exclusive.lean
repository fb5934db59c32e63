import Yola.Room.Registration

/-!
# A user has one seat

In Whot each user sits at most once, on the chair that its registered player names, and a `Login` or
`SwitchTable` that fails leaves no new seat behind.  In Ludo a seat attempt whose own push fails during a
game, and a `Login` that looks again while the player is being seated, break this; careful runs keep it.
-/

namespace Yola.Room

open Reasoning State

variable {U T K : Type} {n : Nat} {g : Game} {s s' : State U T K n} {r p : Nat} {l : Label U T K}

namespace State

def Quiescent (s : State U T K n) : Prop := ∀ r, s.requests r = .idle ∨ ∃ o, s.requests r = .returned o

structure Exclusive (s : State U T K n) : Prop where
  once : ∀ t t' c c' p p', s.seats t c = some (.player p) → s.seats t' c' = some (.player p') →
    (s.obj p).uid = (s.obj p').uid → t = t' ∧ c = c'
  registered : ∀ t c p, s.seats t c = some (.player p) → s.pm (s.obj p).uid = some p ∧
    (s.obj p).tableID = .table t ∧ (s.obj p).chairID = some c

def Initial (s : State U T K n) : Prop := ∃ uid, s = .new uid

theorem Resident.exclusive (h : s.Resident) (hreg : s.Registered) : s.Exclusive where
  once t t' c c' p p' hc hc' huid := by
    obtain ⟨ht, hchair⟩ := h.chair t c p hc
    obtain ⟨ht', hchair'⟩ := h.chair t' c' p' hc'
    have hp := hreg.seated p t ht
    -- Both are the player that the manager has for the user.
    rw [huid, hreg.seated p' t' ht', Option.some_inj] at hp
    rw [hp, ht, Route.table.injEq] at ht'
    rw [hp, hchair, Option.some_inj] at hchair'
    exact ⟨ht', hchair'⟩
  registered t c p hc := by
    obtain ⟨ht, hchair⟩ := h.chair t c p hc
    exact ⟨hreg.seated p t ht, ht, hchair⟩

theorem Resident.loginFailed (h : s.Resident) (hr : s.requests r = .returned (.loginFailed (some p))) (t : T)
    (c : Fin n) : s.seats t c ≠ some (.player p) := by
  intro hc
  have hpl := (h.owned r p (by rw [hr]; rfl)).2
  rw [hr] at hpl
  exact hpl t (h.chair t c p hc).1

end State

/-- In Whot the conditions are void: `Login` takes detached players off the server only, and no push ends a
`Seat`. -/
theorem careful_whot : Careful .whot s l := by
  unfold Careful
  split
  · exact nofun
  · exact nofun
  · trivial

variable [DecidableEq U] [DecidableEq T]

/-- A step, and it is careful. -/
def CarefulStep (g : Game) (s : State U T K n) (l : Label U T K) (s' : State U T K n) : Prop :=
  Step g s l s' ∧ Careful g s l

theorem resident_registered (h : Reachable Initial (CarefulStep g) s) : s.Resident ∧ s.Registered := by
  apply h.invariant
  · rintro s ⟨uid, rfl⟩
    exact ⟨resident_new uid, registered_new uid⟩
  · rintro s l s' ⟨hstep, hcare⟩ ⟨hres, hreg⟩
    exact ⟨hres.step hcare hstep, hreg.step hres hstep⟩

theorem careful_of_whot (h : Reachable Initial (Step .whot) s) : Reachable Initial (CarefulStep .whot) s :=
  h.mono fun _ _ _ hs => ⟨hs, careful_whot⟩

section Runs

structure Calm (step : State U T K n → Label U T K → State U T K n → Prop) (s : State U T K n) : Prop where
  reachable : Reachable Initial step s
  jobs : ∀ r, (s.requests r).job = none

namespace Calm

variable {step : State U T K n → Label U T K → State U T K n → Prop} {l' : Label U T K} {pc : Pc U T K}

omit [DecidableEq U] [DecidableEq T]

theorem free (h : Calm step s) (hcls : s.closed = false) {t : T} : s.Free t :=
  ⟨hcls, fun r hr => by cases (h.jobs r).symm.trans hr⟩

theorem next (h : Calm step s) (r : Nat) (pc : Pc U T K) (hs : step s l (s'.setPc r pc))
    (hreqs : s'.requests = s.requests) (hpc : pc.job = none) : Calm step (s'.setPc r pc) where
  reachable := h.reachable.next hs
  jobs := forall_setPc (P := fun _ pc => pc.job = none) hpc fun r _ => by
    rw [hreqs]
    exact h.jobs r

theorem through (h : Calm step s) (r : Nat) (pc' : Pc U T K) (hs : step s l (s'.setPc r pc))
    (hs' : step (s'.setPc r pc) l' ((s'.setPc r pc).setPc r pc')) (hreqs : s'.requests = s.requests)
    (hpc : pc'.job = none) : Calm step (s'.setPc r pc') where
  reachable := by
    rw [← s'.setPc_setPc pc]
    exact (h.reachable.next hs).next hs'
  jobs := forall_setPc (P := fun _ pc => pc.job = none) hpc fun r _ => by
    rw [hreqs]
    exact h.jobs r

theorem reads [DecidableEq U] [DecidableEq T] (h : Calm (Step g) s) (r : Nat) (pc : Pc U T K)
    (hs : Reads g s (s.requests r) pc) (hpc : pc.job = none) : Calm (Step g) (s.setPc r pc) :=
  h.next r pc (.request (.reads hs)) rfl hpc

theorem readsCarefully [DecidableEq U] [DecidableEq T] (h : Calm (CarefulStep g) s) (r : Nat) (pc : Pc U T K)
    (hs : Reads g s (s.requests r) pc) (hpc : pc.job = none) : Calm (CarefulStep g) (s.setPc r pc) :=
  h.next r pc ⟨.request (.reads hs), trivial⟩ rfl hpc

theorem careless [DecidableEq U] [DecidableEq T] (h : Calm (CarefulStep g) s) : Calm (Step g) s :=
  ⟨h.reachable.mono fun _ _ _ hs => hs.1, h.jobs⟩

end Calm

section

variable {t : T} {c : Fin n} {s : State Nat T Nat n} (h : Calm (CarefulStep g) s) (hr : s.requests 0 = .idle)
  (hpm : s.pm 7 = none)

include h hr hpm

/-- A `Login` of user 7 gets as far as looking for a chair. -/
theorem Calm.seeking : Calm (CarefulStep g) ((s.register 7 1).setPc 0 (.seeking s.next .enter)) := by
  have h₁ := h.readsCarefully 0 (.login 7 1 true) (hr ▸ .startLogin) rfl
  have h₂ := h₁.readsCarefully 0 (.creating 7 1 true) (.loginAbsent hpm) rfl
  have h₃ := h₂.next 0 (.binding s.next) ⟨.request (.registers rfl hpm), trivial⟩ rfl rfl
  have h₄ := h₃.readsCarefully 0 (.seeking s.next .enter) .bound rfl
  change Calm _ (State.setPc (.setPc (.setPc (.setPc (s.register 7 1) 0 _) 0 _) 0 _) 0 _) at h₄
  rwa [setPc_setPc, setPc_setPc, setPc_setPc] at h₄

theorem Calm.seats (hcls : s.closed = false) (hc : s.FirstFree t c) :
    CarefulStep g ((s.register 7 1).setPc 0 (.seeking s.next .enter)) ⟨some 0, .quiet⟩
      ((((s.register 7 1).setPc 0 (.seeking s.next .enter)).seat g 0 s.next t c).setPc 0
        (.seated s.next t .enter)) := by
  refine ⟨.request (.seats rfl trivial ((h.seeking hr hpm).free hcls) hc fun _ t' ht' => ?_), trivial⟩
  rw [setPc_obj, register_obj_next] at ht'
  cases ht'

theorem Calm.loggedIn (hcls : s.closed = false) (hc : s.FirstFree t c) :
    Calm (CarefulStep g) ((((s.register 7 1).setPc 0 (.seeking s.next .enter)).seat g 0 s.next t c).setPc 0
      (.returned (.loginOk s.next))) :=
  (h.seeking hr hpm).through 0 (.returned (.loginOk s.next)) (h.seats hr hpm hcls hc)
    ⟨.request (.reads (.seatSucceeds (.inr (.inl rfl)))), trivial⟩ rfl rfl

end

omit [DecidableEq U] [DecidableEq T] in
theorem calm_new (step : State U T K n → Label U T K → State U T K n → Prop) (uid : U) : Calm step (.new uid) :=
  ⟨.init_state ⟨uid, rfl⟩, fun _ => rfl⟩

/-- User 7 logs in at the first of two tables and switches to the other one. -/
theorem reachable_switched (g : Game) : ∃ s : State Nat Bool Nat 1, Reachable Initial (CarefulStep g) s ∧
    s.requests 1 = .returned (.switchOk 0) ∧ s.seatedBy 0 = some 1 ∧ s.seats true 0 = some (.player 0) := by
  have h₁ := (calm_new (CarefulStep g) 0).loggedIn (t := false) (c := (0 : Fin 1)) rfl rfl rfl
    (firstFree_zero rfl rfl)
  have h₂ := h₁.readsCarefully 1 (.switchTable 7) .startSwitch rfl
  have h₃ := h₂.readsCarefully 1 (.callPlayer 0 (.switchTable false)) (.switchCalls rfl rfl) rfl
  have h₄ := h₃.readsCarefully 1 (.call 0 false (.switchTable false)) (.calls nofun rfl) rfl
  have h₅ := h₄.next 1 (.seeking 0 (.migrate false))
    ⟨.request (.switches rfl (h₄.free rfl) ⟨rfl, 0, rfl, rfl⟩ rfl (by cases g <;> rfl)), trivial⟩ rfl rfl
  have h₆ := h₅.through 1 (.returned (.switchOk 0))
    ⟨.request (.seats (t := true) (c := 0) rfl nofun (h₅.free rfl) (firstFree_zero rfl rfl) nofun), trivial⟩
    ⟨.request (.reads (.seatSucceeds (.inr (.inr (by cases g <;> rfl))))), trivial⟩ rfl rfl
  exact ⟨_, h₆.reachable, rfl, rfl, rfl⟩

/-- Two robots play a game at a table of Ludo with three chairs. -/
def robotsPlay (c c' : Fin 3) : State Nat Unit Nat 3 :=
  (((State.new 0).setChair () c (some .robot) 1).setChair () c' (some .robot) 1).play () .play fun _ => false

theorem calm_robotsPlay : Calm (CarefulStep .ludo) (robotsPlay 0 1) := by
  have h₀ : Calm (CarefulStep .ludo) (.new 0 : State Nat Unit Nat 3) := calm_new _ 0
  have h₁ : Calm (CarefulStep .ludo) (State.setChair _ () 0 (some .robot) 1) :=
    ⟨h₀.reachable.next ⟨.table (.robotSits (h₀.free rfl) (firstFree_zero rfl rfl)), trivial⟩, h₀.jobs⟩
  have h₂ : Calm (CarefulStep .ludo) (State.setChair _ () 1 (some .robot) 1) :=
    ⟨h₁.reachable.next ⟨.table (.robotSits (h₁.free rfl) ⟨rfl, by decide⟩), trivial⟩, h₁.jobs⟩
  exact ⟨h₂.reachable.next ⟨.table (.plays (h₂.free rfl)), trivial⟩, h₂.jobs⟩

end Runs

/-- Along careful steps a user sits on at most one chair, known to the player and the manager, and on none after
a failed login. -/
theorem ludo_residency_exclusive (h : Reachable Initial (CarefulStep .ludo) s) :
    s.Exclusive ∧ ∀ r p t c, s.requests r = .returned (.loginFailed (some p)) →
      s.seats t c ≠ some (.player p) := by
  obtain ⟨hres, hreg⟩ := resident_registered h
  exact ⟨hres.exclusive hreg, fun r p t c hr => hres.loginFailed hr t c⟩

theorem ludo_residency_exclusive_switched : ∃ s : State Nat Bool Nat 1,
    (s.Exclusive ∧ ∀ r p t c, s.requests r = .returned (.loginFailed (some p)) →
      s.seats t c ≠ some (.player p)) ∧
      s.requests 1 = .returned (.switchOk 0) ∧ s.seats true 0 = some (.player 0) := by
  obtain ⟨s, h, hret, -, hseat⟩ := reachable_switched .ludo
  exact ⟨s, ludo_residency_exclusive h, hret, hseat⟩

/-- Two robots play, a user logs in and gets the third chair, and the push of its own user info finds no
client.  The table does not let the player go during the game, so `Login` fails with the player on the
chair and not in the manager. -/
theorem ludo_login_keeps_seat : ∃ s : State Nat Unit Nat 3, Reachable Initial (Step .ludo) s ∧ s.Quiescent ∧
    s.requests 0 = .returned (.loginFailed (some 0)) ∧ (∃ c, s.seats () c = some (.player 0)) ∧
    s.pm (s.obj 0).uid = none := by
  have h₁ := (calm_robotsPlay.seeking rfl rfl).careless
  have h₂ := (calm_robotsPlay.seats (t := ()) (c := 2) rfl rfl rfl ⟨rfl, by decide⟩).1
  -- The push fails, and the exit is refused.
  have h₃ := h₁.through 0 (.leavingRoom 0) h₂
    (.request (.seatPushFails (p := 0) (f := .enter) rfl rfl ⟨rfl, 2, rfl, rfl⟩ rfl (.refuses rfl (.inr rfl))))
    rfl rfl
  have h₄ := h₃.reads 0 (.unbindingRoom 0) (.leavesManaged (.inr ⟨rfl, nofun⟩)) rfl
  have h₅ := h₄.next 0 (.returned (.loginFailed (some 0))) (.request (.forgets rfl)) rfl rfl
  refine ⟨_, h₅.reachable, ?_, rfl, ⟨2, rfl⟩, rfl⟩
  rintro (_ | r)
  · exact .inr ⟨_, rfl⟩
  · exact .inl rfl

/-- A user sits on at most one chair, the seats are counted right, and whoever seats a player has reported it or
is back at the old table. -/
theorem whot_residency_exclusive (h : Reachable Initial (Step .whot) s) :
    s.Exclusive ∧ (∀ t, s.seatCount t = (s.occupied t).card) ∧
      (∀ r p t c, s.requests r = .returned (.loginFailed (some p)) → s.seats t c ≠ some (.player p)) ∧
      ∀ r p t c o, s.seats t c = some (.player p) → s.seatedBy p = some r → s.requests r = .returned o →
        o = .loginOk p ∨ o = .switchOk p ∨ o = .switchFailed p t := by
  obtain ⟨hres, hreg⟩ := resident_registered (careful_of_whot h)
  refine ⟨hres.exclusive hreg, hres.count, fun r p t c hr => hres.loginFailed hr t c, ?_⟩
  intro r p t c o hc hby hr
  have hpl := hres.placed r p t hby (hres.chair t c p hc).1
  rw [hr] at hpl
  cases o with
  | loginOk => exact .inl (congrArg _ hpl)
  | switchOk => exact .inr (.inl (congrArg _ hpl))
  | switchFailed => exact .inr (.inr (by rw [hpl.1, hpl.2]))
  | _ => cases hpl

theorem whot_residency_exclusive_switched : ∃ s : State Nat Bool Nat 1,
    (s.Exclusive ∧ (∀ t, s.seatCount t = (s.occupied t).card) ∧
      (∀ r p t c, s.requests r = .returned (.loginFailed (some p)) → s.seats t c ≠ some (.player p)) ∧
      ∀ r p t c o, s.seats t c = some (.player p) → s.seatedBy p = some r → s.requests r = .returned o →
        o = .loginOk p ∨ o = .switchOk p ∨ o = .switchFailed p t) ∧
      s.requests 1 = .returned (.switchOk 0) ∧ s.seatedBy 0 = some 1 ∧ s.seats true 0 = some (.player 0) := by
  obtain ⟨s, h, hret, hby, hseat⟩ := reachable_switched .whot
  exact ⟨s, whot_residency_exclusive (h.mono fun _ _ _ hs => hs.1), hret, hby, hseat⟩

end Yola.Room
