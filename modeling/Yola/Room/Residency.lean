import Mathlib.Data.Fintype.Card
import Yola.Room.System

/-!
# Where a player is

A player is pending, detached, or at the table whose chair holds it.  Only one request can move a player
who is not at a table: the one that created it, or the `Switch` that took it from its table.  A player
whom an exit has claimed is detached, and a detached player never sits down again.

In Ludo this holds as long as requests are `Careful`; in Whot they always are.
-/

namespace Yola.Room

open Reasoning

variable {U T K : Type} {n : Nat}

def Pc.owned : Pc U T K → Option Nat
  | .binding p | .seeking p _ | .seated p _ _ | .leavingRoom p | .unbindingRoom p | .detaching p _
  | .logoutGame p _ (.seat _ _) | .cancelling p (.seat _ _) | .returned (.loginFailed (some p)) => some p
  | _ => none

def Pc.Place (x : Player U T K n) : Pc U T K → Prop
  | .binding _ | .seeking _ _ => x.tableID = .pending
  | .seated _ t f => f.mayTake t ∧ (x.tableID = .table t ∧ x.gaming = false ∨ x.tableID = .detached)
  | .leavingRoom _ | .unbindingRoom _ | .detaching _ _ | .returned _ => ∀ t, x.tableID ≠ .table t
  | _ => True

/-- The player that the request takes off the server. -/
def Pc.retired : Pc U T K → Option Nat
  | .claiming _ _ p | .cancelling p _ => some p
  | .logoutGame _ _ .shutdown => none
  | .logoutGame p _ _ => some p
  | _ => none

/-- The request has given `p` its chair at table `t`. -/
def Pc.Placed (p : Nat) (t : T) : Pc U T K → Prop
  | .seated q t' _ => q = p ∧ t' = t
  | .recovering q old | .returned (.switchFailed q old) => q = p ∧ old = t
  | .returned (.loginOk q) | .returned (.switchOk q) => q = p
  | _ => False

namespace State

def occupied (s : State U T K n) (t : T) : Finset (Fin n) := {c | (s.seats t c).isSome}

structure Resident (s : State U T K n) : Prop where
  chair : ∀ t c p, s.seats t c = some (.player p) → (s.obj p).tableID = .table t ∧ (s.obj p).chairID = some c
  seated : ∀ p t, (s.obj p).tableID = .table t → ∃ c, s.seats t c = some (.player p)
  exiting : ∀ p, (s.obj p).exiting = true → (s.obj p).tableID = .detached
  fresh : ∀ p, s.next ≤ p → (s.obj p).tableID = .pending
  owned : ∀ r p, (s.requests r).owned = some p → p < s.next ∧ (s.requests r).Place (s.obj p)
  owner : ∀ r r' p, (s.requests r).owned = some p → (s.requests r').owned = some p → r = r'
  retired : ∀ r p, (s.requests r).retired = some p → (s.obj p).tableID = .detached
  placed : ∀ r p t, s.seatedBy p = some r → (s.obj p).tableID = .table t → (s.requests r).Placed p t
  count : ∀ t, s.seatCount t = (s.occupied t).card

/-- Steps of Ludo after which everybody still knows where a player is: a push to a player who is being
seated fails only while the table lets the player go, and `Login` does not take a player off the server
who has got a table since it looked for one. -/
def Careful (g : Game) (s : State U T K n) (l : Label U T K) : Prop :=
  match l.act with
  | .seatPushFails _ t => g = .ludo → s.stage t ≠ .play
  | .looksAgain p => g = .ludo → ∀ t, (s.obj p).tableID ≠ .table t
  | _ => True

end State

open State

variable {g : Game} {s s' : State U T K n} {r p : Nat} {t : T} {c : Fin n} {x : Player U T K n} {pc : Pc U T K}

theorem resident_new (uid : U) : (State.new uid : State U T K n).Resident where
  chair := nofun
  seated := nofun
  exiting := nofun
  fresh _ _ := rfl
  owned := nofun
  owner := nofun
  retired := nofun
  placed := nofun
  count t := by simp [State.new, occupied]

theorem Pc.job_of_owned (hown : pc.owned = some p) (hpl : pc.Place x)
    (hret : pc.retired = some p → x.tableID = .detached) (ht : x.tableID = .table t) : pc.job = some t := by
  cases pc with
  | seated =>
    obtain ⟨ht', -⟩ | hdet := hpl.2
    · rw [ht, Route.table.injEq] at ht'
      rw [Pc.job, ht']
    · rw [hdet] at ht
      cases ht
  | binding | seeking =>
    rw [show x.tableID = .pending from hpl] at ht
    cases ht
  | leavingRoom | unbindingRoom | detaching | returned => exact absurd ht (hpl t)
  | logoutGame q at_ caller | cancelling q caller =>
    cases caller with
    | seat =>
      rw [hret hown] at ht
      cases ht
    | _ => cases hown
  | _ => cases hown

/-- A request that owns a player and is not in a job of the player's table does not mind whether the player
is detached. -/
theorem Pc.place_detached (hpl : pc.Place x) {x' : Player U T K n} (hx : x.tableID ≠ .pending)
    (hx' : x'.tableID = .detached) : pc.Place x' := by
  cases pc with
  | binding | seeking => exact absurd hpl hx
  | seated => exact ⟨hpl.1, .inr hx'⟩
  | leavingRoom | unbindingRoom | detaching | returned =>
    intro t ht
    rw [hx'] at ht
    cases ht
  | _ => trivial

theorem Pc.place_congr {x' : Player U T K n} (ht : x'.tableID = x.tableID) (hgam : x'.gaming = x.gaming) :
    pc.Place x' ↔ pc.Place x := by
  cases pc <;> simp [Pc.Place, ht, hgam]

/-- A request may go on from `pc₀` at `pc`. -/
structure Continues (s : State U T K n) (pc₀ pc : Pc U T K) : Prop where
  owned : ∀ p, pc.owned = some p → pc.Place (s.obj p) ∧
    (pc₀.owned = some p ∨ p < s.next ∧ ∀ r, (s.requests r).owned ≠ some p)
  retired : ∀ p, pc.retired = some p → (s.obj p).tableID = .detached
  placed : ∀ p t, (s.obj p).tableID = .table t → pc₀.Placed p t → pc.Placed p t

namespace Continues

variable {pc₀ : Pc U T K}

theorem of_none (hown : pc.owned = none) (hret : pc.retired = none) (hpl : ∀ p t, ¬ pc₀.Placed p t) :
    Continues s pc₀ pc where
  owned p hp := by rw [hown] at hp; cases hp
  retired p hp := by rw [hret] at hp; cases hp
  placed p t _ h := absurd h (hpl p t)

theorem setPlayer (hc : Continues s pc₀ pc) (htab : x.tableID = (s.obj p).tableID)
    (hgam : x.gaming = (s.obj p).gaming) : Continues (s.setPlayer p x) pc₀ pc where
  owned := by
    apply forall_setPlayer (P := fun q y => pc.owned = some q → pc.Place y ∧
      (pc₀.owned = some q ∨ q < s.next ∧ ∀ r, (s.requests r).owned ≠ some q))
    · intro hp
      rw [Pc.place_congr htab hgam]
      exact hc.owned p hp
    · exact fun q _ => hc.owned q
  retired := by
    apply forall_setPlayer (P := fun q y => pc.retired = some q → y.tableID = .detached)
    · rw [htab]
      exact hc.retired p
    · exact fun q _ => hc.retired q
  placed := by
    apply forall_setPlayer (P := fun q y => ∀ t, y.tableID = .table t → pc₀.Placed q t → pc.Placed q t)
    · rw [htab]
      exact hc.placed p
    · exact fun q _ => hc.placed q

theorem of_detached (hp : (s.obj p).tableID = .detached) (hown : ∀ q, pc.owned = some q → q = p ∧ pc₀.owned = some p)
    (hplace : ∀ x : Player U T K n, x.tableID = .detached → pc.Place x) (hret : ∀ q, pc.retired = some q → q = p)
    (hpl : ∀ q t, pc₀.Placed q t → q = p) : Continues s pc₀ pc where
  owned q hq := by
    obtain ⟨rfl, hold⟩ := hown q hq
    exact ⟨hplace _ hp, .inl hold⟩
  retired q hq := by
    rw [hret q hq]
    exact hp
  placed q t ht h := by
    rw [hpl q t h, hp] at ht
    cases ht

end Continues

section Requests

variable {a : Action U T K} {caller : Caller U T K} {at_ at' : Persist K}

theorem Pc.retired_logoutGame (h : caller ≠ .shutdown) : (Pc.logoutGame p at_ caller).retired = some p := by
  cases caller with
  | shutdown => exact absurd rfl h
  | _ => rfl

theorem Continues.persist
    (hret : ∀ q, (Pc.logoutGame p at_ caller).retired = some q → (s.obj q).tableID = .detached) :
    Continues s (.logoutGame p at_ caller) (.logoutGame p at' caller) := by
  cases caller <;> exact ⟨fun q hq => ⟨trivial, .inl hq⟩, hret, nofun⟩

@[simp] theorem Action.owned_notFound : (a.notFound p).owned = none := by cases a <;> rfl
@[simp] theorem Action.retired_notFound : (a.notFound p).retired = none := by cases a <;> rfl
@[simp] theorem Action.owned_missed : (a.missed p).owned = none := by cases a <;> rfl
@[simp] theorem Action.retired_missed : (a.missed p).retired = none := by cases a <;> rfl

@[simp]
theorem Action.owned_changed : (a.changed g p).owned = none := by
  cases a with
  | disconnect uid k again => cases g <;> cases again <;> rfl
  | lose version again => cases again <;> rfl
  | _ => rfl

@[simp]
theorem Action.retired_changed : (a.changed g p).retired = none := by
  cases a with
  | disconnect uid k again => cases g <;> cases again <;> rfl
  | lose version again => cases again <;> rfl
  | _ => rfl

end Requests

theorem Reads.continues {pc₀ : Pc U T K} (hr : Reads g s pc₀ pc)
    (hown : ∀ p, pc₀.owned = some p → pc₀.Place (s.obj p))
    (hret : ∀ p, pc₀.retired = some p → (s.obj p).tableID = .detached) : Continues s pc₀ pc := by
  cases hr with
  | notFound => exact .of_none Action.owned_notFound Action.retired_notFound nofun
  | missed => exact .of_none Action.owned_missed Action.retired_missed nofun
  | routeChanged => exact .of_none Action.owned_changed Action.retired_changed nofun
  | bound | leavesManaged | leavesRetained => exact ⟨fun q hq => ⟨hown q hq, .inl hq⟩, nofun, nofun⟩
  | @givesUp p f failed =>
    refine ⟨fun q hq => ?_, ?_, nofun⟩
    · cases f with
      | migrate => exact ⟨hown q hq, .inl hq⟩
      | enter | restore =>
        -- A player for whom no chair was found is still pending.
        refine ⟨fun t ht => ?_, .inl hq⟩
        rw [show (s.obj q).tableID = .pending from hown q hq] at ht
        cases ht
    · cases f <;> exact nofun
  | @seatSucceeds p t f =>
    have hf := (hown p rfl).1
    cases f with
    | enter | migrate => exact ⟨nofun, nofun, fun _ _ _ h => h.1⟩
    | restore old failed =>
      obtain rfl : t = old := hf
      cases failed <;> exact ⟨nofun, nofun, fun _ _ _ h => h⟩
  | notRecovered => exact ⟨nofun, nofun, fun _ _ _ h => h⟩
  | persistLost | persistBegins | persistNoSession | persistSession | persistExpired =>
    exact .persist hret
  | _ => exact .of_none rfl rfl nofun

namespace State.Resident

section

variable (h : s.Resident)

include h

theorem setPc {pc₀ : Pc U T K} (hr : s.requests r = pc₀) (hc : Continues s pc₀ pc) : (s.setPc r pc).Resident where
  chair := h.chair
  seated := h.seated
  exiting := h.exiting
  fresh := h.fresh
  owned := by
    apply forall_setPc (P := fun _ pc => ∀ p, pc.owned = some p → p < s.next ∧ pc.Place (s.obj p))
    · intro p hp
      obtain ⟨hpl, hold | hnew⟩ := hc.owned p hp
      · exact ⟨(h.owned r p (hr ▸ hold)).1, hpl⟩
      · exact ⟨hnew.1, hpl⟩
    · exact fun r' _ => h.owned r'
  owner r₁ r₂ p h₁ h₂ := by
    -- The request that goes on has had the player before, or nobody has.
    have hold : ∀ r', ((s.setPc r pc).requests r').owned = some p →
        (s.requests r').owned = some p ∨ r' = r ∧ ∀ r, (s.requests r).owned ≠ some p := by
      apply forall_setPc (P := fun r' pc => pc.owned = some p →
        (s.requests r').owned = some p ∨ r' = r ∧ ∀ r, (s.requests r).owned ≠ some p)
      · rw [hr]
        exact fun hp => (hc.owned p hp).2.imp_right fun hnew => ⟨rfl, hnew.2⟩
      · exact fun r' _ hp => .inl hp
    obtain h₁ | ⟨h₁, hno₁⟩ := hold r₁ h₁ <;> obtain h₂ | ⟨h₂, hno₂⟩ := hold r₂ h₂
    · exact h.owner r₁ r₂ p h₁ h₂
    · exact absurd h₁ (hno₂ r₁)
    · exact absurd h₂ (hno₁ r₂)
    · rw [h₁, h₂]
  retired := forall_setPc (P := fun _ pc => ∀ p, pc.retired = some p → (s.obj p).tableID = .detached)
    hc.retired fun r' _ => h.retired r'
  placed := forall_setPc (P := fun r' pc => ∀ p t, s.seatedBy p = some r' → (s.obj p).tableID = .table t →
    pc.Placed p t) (fun p t hby ht => hc.placed p t ht (hr ▸ h.placed r p t hby ht)) fun r' _ => h.placed r'
  count := h.count

theorem setObj {obj : Nat → Player U T K n}
    (htab : ∀ p, (obj p).tableID = (s.obj p).tableID) (hchair : ∀ p, (obj p).chairID = (s.obj p).chairID)
    (hexit : ∀ p, (obj p).exiting = true → (s.obj p).tableID = .detached)
    (hpl : ∀ r p, (s.requests r).owned = some p → (s.requests r).Place (s.obj p) →
      (s.requests r).Place (obj p)) : { s with obj := obj }.Resident where
  chair t c p hc := by
    rw [htab, hchair]
    exact h.chair t c p hc
  seated p t ht := by
    rw [htab] at ht
    exact h.seated p t ht
  exiting p hp := by
    rw [htab]
    exact hexit p hp
  fresh p hp := by
    rw [htab]
    exact h.fresh p hp
  owned r p hp := ⟨(h.owned r p hp).1, hpl r p hp (h.owned r p hp).2⟩
  owner := h.owner
  retired r p hp := by
    rw [htab]
    exact h.retired r p hp
  placed r p t hby ht := by
    rw [htab] at ht
    exact h.placed r p t hby ht
  count := h.count

theorem setPlayer (htab : x.tableID = (s.obj p).tableID)
    (hchair : x.chairID = (s.obj p).chairID) (hgam : x.gaming = (s.obj p).gaming)
    (hexit : x.exiting = true → (s.obj p).tableID = .detached) : (s.setPlayer p x).Resident := by
  apply h.setObj
  · exact forall_setPlayer (P := fun q y => y.tableID = (s.obj q).tableID) htab fun _ _ => rfl
  · exact forall_setPlayer (P := fun q y => y.chairID = (s.obj q).chairID) hchair fun _ _ => rfl
  · exact forall_setPlayer (P := fun q y => y.exiting = true → (s.obj q).tableID = .detached) hexit
      fun q _ => h.exiting q
  · intro r
    apply forall_setPlayer (P := fun q y => (s.requests r).owned = some q → (s.requests r).Place (s.obj q) →
      (s.requests r).Place y)
    · exact fun _ hpl => (Pc.place_congr htab hgam).mpr hpl
    · exact fun _ _ _ hpl => hpl

theorem not_owned (hfree : s.Free t) (ht : (s.obj p).tableID = .table t) (r : Nat) :
    (s.requests r).owned ≠ some p := fun hown =>
  hfree.2 r (Pc.job_of_owned hown (h.owned r p hown).2 (h.retired r p) ht)

theorem lt_next (ht : (s.obj p).tableID ≠ .pending) : p < s.next := by
  by_contra hlt
  exact ht (h.fresh p (Nat.le_of_not_lt hlt))

theorem move {seats : T → Fin n → Option Occupant} {seatCount : T → Int}
    (hseats : ∀ t c q, seats t c = some (.player q) ↔ s.seats t c = some (.player q) ∧ q ≠ p)
    (hcnt : ∀ t, seatCount t = ({ s with seats := seats }.occupied t).card)
    (hlt : p < s.next) (hout : ∀ t, x.tableID ≠ .table t) (hexit : x.exiting = true → x.tableID = .detached)
    (hpl : ∀ r, (s.requests r).owned = some p → (s.requests r).Place x)
    (hret : ∀ r, (s.requests r).retired = some p → x.tableID = .detached) :
    ({ s with seats := seats, seatCount := seatCount }.setPlayer p x).Resident where
  chair t c q hc := by
    obtain ⟨hc, hq⟩ := (hseats t c q).mp hc
    rw [setPlayer_obj_of_ne _ _ hq]
    exact h.chair t c q hc
  seated := by
    apply forall_setPlayer (P := fun q y => ∀ t, y.tableID = .table t → ∃ c, seats t c = some (.player q))
    · exact fun t ht => absurd ht (hout t)
    · intro q hq t ht
      obtain ⟨c, hc⟩ := h.seated q t ht
      exact ⟨c, (hseats t c q).mpr ⟨hc, hq⟩⟩
  exiting := forall_setPlayer (P := fun _ y => y.exiting = true → y.tableID = .detached) hexit
    fun q _ => h.exiting q
  fresh := by
    apply forall_setPlayer (P := fun q y => s.next ≤ q → y.tableID = .pending)
    · exact fun hle => absurd hlt (Nat.not_lt_of_le hle)
    · exact fun q _ => h.fresh q
  owned r := by
    apply forall_setPlayer (P := fun q y => (s.requests r).owned = some q → q < s.next ∧ (s.requests r).Place y)
    · exact fun hown => ⟨hlt, hpl r hown⟩
    · exact fun q _ => h.owned r q
  owner := h.owner
  retired r := forall_setPlayer (P := fun q y => (s.requests r).retired = some q → y.tableID = .detached)
    (hret r) fun q _ => h.retired r q
  placed r := by
    apply forall_setPlayer (P := fun q y => ∀ t, s.seatedBy q = some r → y.tableID = .table t →
      (s.requests r).Placed q t)
    · exact fun t _ ht => absurd ht (hout t)
    · exact fun q _ => h.placed r q
  count := hcnt

theorem detach (hout : ∀ t, (s.obj p).tableID ≠ .table t) (hown : (s.requests r).owned = some p)
    (hpl : ∀ x : Player U T K n, x.tableID = .detached → (s.requests r).Place x) :
    (s.setPlayer p ((s.obj p).setTableID .detached)).Resident := by
  have hseats : ∀ t c q, s.seats t c = some (.player q) ↔ s.seats t c = some (.player q) ∧ q ≠ p := by
    intro t c q
    refine ⟨fun hc => ⟨hc, ?_⟩, And.left⟩
    rintro rfl
    exact hout t (h.chair t c q hc).1
  apply h.move hseats h.count (h.owned r p hown).1
  · exact nofun
  · exact fun _ => rfl
  · intro r' hown'
    rw [h.owner r' r p hown' hown]
    exact hpl _ rfl
  · exact fun _ _ => rfl

end

theorem register [DecidableEq U] (h : s.Resident) (uid : U) (k : K) : (s.register uid k).Resident where
  chair t c p hc := by
    have hp := h.chair t c p hc
    rw [register_obj_of_ne]
    · exact hp
    · exact (h.lt_next (by rw [hp.1]; nofun)).ne
  seated := by
    apply forall_register (P := fun p x => ∀ t, x.tableID = .table t → ∃ c, s.seats t c = some (.player p))
    · exact nofun
    · exact fun p _ => h.seated p
  exiting := forall_register (P := fun _ x => x.exiting = true → x.tableID = .detached) nofun
    fun p _ => h.exiting p
  fresh p hp := by
    rw [register_obj_of_ne _ _ (Nat.ne_of_gt hp)]
    exact h.fresh p (Nat.le_of_succ_le hp)
  owned r p hp := by
    have hold := h.owned r p hp
    rw [register_obj_of_ne _ _ hold.1.ne]
    exact ⟨Nat.lt_succ_of_lt hold.1, hold.2⟩
  owner := h.owner
  retired r p hp := by
    have hdet := h.retired r p hp
    rw [register_obj_of_ne]
    · exact hdet
    · exact (h.lt_next (by rw [hdet]; nofun)).ne
  placed r := by
    apply forall_register (P := fun p x => ∀ t, s.seatedBy p = some r → x.tableID = .table t →
      (s.requests r).Placed p t)
    · exact nofun
    · exact fun p _ => h.placed r p
  count := h.count

variable [DecidableEq T]

theorem count_add (hcnt : ∀ t, s.seatCount t = (s.occupied t).card) (hc : s.seats t c = none) (o : Occupant) :
    ∀ t', (s.setChair t c (some o) 1).seatCount t' = ((s.setChair t c (some o) 1).occupied t').card := by
  intro t'
  by_cases ht : t' = t
  · subst ht
    have hocc : (s.setChair t' c (some o) 1).occupied t' = insert c (s.occupied t') := by
      ext c'
      by_cases hc' : c' = c <;> simp [occupied, hc']
    have hnot : c ∉ s.occupied t' := by simp [occupied, hc]
    rw [hocc, Finset.card_insert_of_notMem hnot]
    simp [setChair, hcnt]
  · have hocc : (s.setChair t c (some o) 1).occupied t' = s.occupied t' := by
      ext c'
      simp [occupied, ht]
    rw [hocc, ← hcnt]
    exact Function.update_of_ne ht ..

theorem count_sub (hcnt : ∀ t, s.seatCount t = (s.occupied t).card) {o : Occupant}
    (hc : s.seats t c = some o) :
    ∀ t', (s.setChair t c none (-1)).seatCount t' = ((s.setChair t c none (-1)).occupied t').card := by
  intro t'
  by_cases ht : t' = t
  · subst ht
    have hocc : (s.setChair t' c none (-1)).occupied t' = (s.occupied t').erase c := by
      ext c'
      by_cases hc' : c' = c <;> simp [occupied, hc']
    have hmem : c ∈ s.occupied t' := by simp [occupied, hc]
    have hpos := Finset.card_pos.mpr ⟨c, hmem⟩
    rw [hocc, Finset.card_erase_of_mem hmem]
    simp only [setChair, Function.update_self, hcnt]
    omega
  · have hocc : (s.setChair t c none (-1)).occupied t' = s.occupied t' := by
      ext c'
      simp [occupied, ht]
    rw [hocc, ← hcnt]
    exact Function.update_of_ne ht ..

variable (h : s.Resident)

include h

theorem robotSits (hc : s.seats t c = none) : (s.setChair t c (some .robot) 1).Resident :=
  { h with
    chair := fun t' c' p hp => by
      rw [setChair_seats] at hp
      split at hp
      · cases hp
      · exact h.chair t' c' p hp
    seated := fun p t' ht => by
      obtain ⟨c', hc'⟩ := h.seated p t' ht
      refine ⟨c', ?_⟩
      rw [setChair_seats, if_neg]
      · exact hc'
      · rintro ⟨rfl, rfl⟩
        rw [hc] at hc'
        cases hc'
    count := count_add h.count hc .robot }

theorem robotLeaves (hc : s.seats t c = some .robot) : (s.setChair t c none (-1)).Resident :=
  { h with
    chair := fun t' c' p hp => by
      rw [setChair_seats] at hp
      split at hp
      · cases hp
      · exact h.chair t' c' p hp
    seated := fun p t' ht => by
      obtain ⟨c', hc'⟩ := h.seated p t' ht
      refine ⟨c', ?_⟩
      rw [setChair_seats, if_neg]
      · exact hc'
      · rintro ⟨rfl, rfl⟩
        rw [hc] at hc'
        cases hc'
    count := count_sub h.count hc }

theorem leaves (hc : s.seats t c = some (.player p)) (hout : ∀ t, x.tableID ≠ .table t)
    (hexit : x.exiting = true → x.tableID = .detached)
    (hpl : ∀ r, (s.requests r).owned = some p → (s.requests r).Place x) :
    ((s.setChair t c none (-1)).setPlayer p x).Resident := by
  have hp := h.chair t c p hc
  have hseats : ∀ t' c' q, (s.setChair t c none (-1)).seats t' c' = some (.player q) ↔
      s.seats t' c' = some (.player q) ∧ q ≠ p := by
    intro t' c' q
    rw [setChair_seats]
    split
    next heq =>
      -- The chair that has become free was the player's.
      rw [heq.1, heq.2, hc]
      simp [eq_comm]
    next hne =>
      refine ⟨fun hq => ⟨hq, ?_⟩, And.left⟩
      rintro rfl
      have hq' := h.chair t' c' q hq
      rw [hp.1, hp.2, Route.table.injEq, Option.some_inj] at hq'
      exact hne ⟨hq'.1.symm, hq'.2.symm⟩
  refine h.move hseats (count_sub h.count hc) (h.lt_next ?_) hout hexit hpl ?_
  · rw [hp.1]
    nofun
  · intro r hret
    have hdet := h.retired r p hret
    rw [hp.1] at hdet
    cases hdet

theorem removeForExit (hc : s.seats t c = some (.player p)) : (s.removeForExit p t c).Resident := by
  have ht := (h.chair t c p hc).1
  apply h.leaves hc
  · exact nofun
  · exact fun _ => rfl
  · intro r hown
    apply Pc.place_detached (h.owned r p hown).2 _ rfl
    rw [ht]
    nofun

theorem removeForSwitch (hfree : s.Free t) (hc : s.seats t c = some (.player p)) :
    (s.removeForSwitch p t c).Resident := by
  have ht := (h.chair t c p hc).1
  apply h.leaves hc
  · exact nofun
  · intro hexit
    have hdet := h.exiting p hexit
    rw [ht] at hdet
    cases hdet
  · exact fun r hown => absurd hown (h.not_owned hfree ht r)

theorem seat {f : Seating T} (hr : s.requests r = .seeking p f) (hf : f.mayTake t)
    (hc : s.seats t c = none) : ((s.seat g r p t c).setPc r (.seated p t f)).Resident := by
  have hown : (s.requests r).owned = some p := by rw [hr]; rfl
  have hpend : (s.obj p).tableID = .pending := by
    have hplace := (h.owned r p hown).2
    rw [hr] at hplace
    exact hplace
  have hoth : ∀ r', r' ≠ r → (s.requests r').owned ≠ some p := fun r' hne hown' =>
    hne (h.owner r' r p hown' hown)
  have howned : ∀ r', (((s.seat g r p t c).setPc r (.seated p t f)).requests r').owned =
      (s.requests r').owned :=
    forall_setPc (P := fun r' pc => pc.owned = (s.requests r').owned) hown.symm fun _ _ => rfl
  constructor
  case chair =>
    intro t' c' q hq
    rw [setPc_seats, seat_seats] at hq
    split at hq
    next heq =>
      rw [Option.some_inj, Occupant.player.injEq] at hq
      rw [← hq, heq.1, heq.2]
      exact ⟨by rw [setPc_obj, seat_obj_self]; rfl, by rw [setPc_obj, seat_obj_self]; rfl⟩
    next =>
      have hold := h.chair t' c' q hq
      have hne : q ≠ p := by
        rintro rfl
        rw [hpend] at hold
        cases hold.1
      rw [setPc_obj, seat_obj_of_ne _ hne]
      exact hold
  case seated =>
    apply forall_seat (r := r) (P := fun q y => ∀ t', y.tableID = .table t' →
      ∃ c', (s.seat g r p t c).seats t' c' = some (.player q))
    · rintro t' ht
      cases ht
      exact ⟨c, by rw [seat_seats, if_pos ⟨rfl, rfl⟩]⟩
    · intro q _ t' ht
      obtain ⟨c', hc'⟩ := h.seated q t' ht
      refine ⟨c', ?_⟩
      rw [seat_seats, if_neg]
      · exact hc'
      · rintro ⟨rfl, rfl⟩
        rw [hc] at hc'
        cases hc'
  case exiting =>
    apply forall_seat (r := r) (P := fun _ y => y.exiting = true → y.tableID = .detached)
    · intro hexit
      have hdet := h.exiting p hexit
      rw [hpend] at hdet
      cases hdet
    · exact fun q _ => h.exiting q
  case fresh =>
    apply forall_seat (r := r) (P := fun q y => s.next ≤ q → y.tableID = .pending)
    · exact fun hle => absurd (h.owned r p hown).1 (Nat.not_lt_of_le hle)
    · exact fun q _ => h.fresh q
  case owned =>
    apply forall_setPc (P := fun _ pc => ∀ q, pc.owned = some q →
      q < s.next ∧ pc.Place ((s.seat g r p t c).obj q))
    · intro q hq
      obtain rfl : p = q := by simpa [Pc.owned] using hq
      refine ⟨(h.owned r p hown).1, ?_⟩
      rw [seat_obj_self]
      exact ⟨hf, .inl ⟨rfl, rfl⟩⟩
    · intro r' hr' q hq
      rw [seat_obj_of_ne]
      · exact h.owned r' q hq
      · rintro rfl
        exact hoth r' hr' hq
  case owner =>
    intro r₁ r₂ q h₁ h₂
    rw [howned] at h₁ h₂
    exact h.owner r₁ r₂ q h₁ h₂
  case retired =>
    apply forall_setPc (P := fun _ pc => ∀ q, pc.retired = some q →
      ((s.seat g r p t c).obj q).tableID = .detached)
    · exact nofun
    · intro r' _ q hq
      have hdet := h.retired r' q hq
      rw [seat_obj_of_ne]
      · exact hdet
      · rintro rfl
        rw [hpend] at hdet
        cases hdet
  case placed =>
    intro r' q t' hby ht
    by_cases hq : q = p
    · subst hq
      have hr' : r = r' := by
        rw [setPc_seatedBy, seat_seatedBy_self] at hby
        exact Option.some_inj.mp hby
      rw [setPc_obj, seat_obj_self] at ht
      cases ht
      rw [← hr', setPc_requests_self]
      exact ⟨rfl, rfl⟩
    · rw [setPc_seatedBy, seat_seatedBy_of_ne _ hq] at hby
      rw [setPc_obj, seat_obj_of_ne _ hq] at ht
      have hpl := h.placed r' q t' hby ht
      by_cases hr' : r' = r
      · -- A request that looks for a chair has given none before.
        rw [hr', hr] at hpl
        cases hpl
      · rw [setPc_requests_of_ne _ _ hr']
        exact hpl
  case count => exact count_add h.count hc (.player p)

theorem offline {caller : Caller U T K} {pc₀ : Pc U T K} (hr : s.requests r = pc₀)
    (ho : Offline g s r p t caller pc s')
    (hclr : ∀ q, (Pc.logoutGame p .check caller).owned = some q → pc₀.owned = some p)
    (hpl : ∀ q t, pc₀.Placed q t → q = p)
    (hpc : (s.obj p).gaming = true ∨ (s.obj p).exiting = true ∨ (s.obj p).canExit g (s.stage t) = false →
      Continues s pc₀ pc) : s'.Resident := by
  cases ho with
  | marks gaming =>
    have hmarked : (s.setPlayer p ((s.obj p).setOffline true)).Resident :=
      h.setPlayer rfl rfl rfl (h.exiting p)
    exact hmarked.setPc hr ((hpc (.inl gaming)).setPlayer rfl rfl)
  | exits _ hexits =>
    refine (h.removeForExit hexits.chair).setPc hr (.of_detached (p := p) ?_ ?_ ?_ ?_ hpl)
    · rw [State.removeForExit, setPlayer_obj_self]
      rfl
    · intro q hq
      refine ⟨?_, hclr q hq⟩
      cases caller <;> simp_all [Pc.owned]
    · exact fun _ _ => trivial
    · intro q hq
      cases caller <;> simp_all [Pc.retired]
  | refuses _ hrefuses => exact h.setPc hr (hpc (.inr hrefuses))

end State.Resident

end Yola.Room
