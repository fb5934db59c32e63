import Yola.Room.Changes
import Yola.Room.ResidencySteps

/-!
# The player manager knows everybody who is on the server

A player who is at a table, or for whom a request is looking for one, is the one that the manager has for
its user.
-/

namespace Yola.Room

open Reasoning State

variable {U T K : Type} {n : Nat} {g : Game} {s s' : State U T K n} {r p : Nat} {t : T} {a : Act U T K}
  {l : Label U T K}

structure State.Registered (s : State U T K n) : Prop where
  isOpen : s.closed = false
  running : ∀ r p, (s.requests r).logs ≠ some (p, .shutdown)
  uid : ∀ u p, s.pm u = some p → (s.obj p).uid = u ∧ p < s.next
  seated : ∀ p t, (s.obj p).tableID = .table t → s.pm (s.obj p).uid = some p
  seeks : ∀ r p, (s.requests r).seeks = some p → s.pm (s.obj p).uid = some p
  session : ∀ p k, (s.obj p).tableID = .pending → (s.obj p).session = some k → s.pm (s.obj p).uid = some p

theorem registered_new (uid : U) : (State.new uid : State U T K n).Registered where
  isOpen := rfl
  running := nofun
  uid := nofun
  seated := nofun
  seeks := nofun
  session := nofun

theorem Pc.owned_of_seeks {pc : Pc U T K} (h : pc.seeks = some p) : pc.owned = some p := by
  cases pc with
  | binding | seeking => exact h
  | _ => cases h

theorem State.Resident.pending_of_seeks (h : s.Resident) (hr : (s.requests r).seeks = some p) :
    (s.obj p).tableID = .pending := by
  have hpl := (h.owned r p (Pc.owned_of_seeks hr)).2
  generalize s.requests r = pc at hr hpl
  cases pc with
  | binding | seeking => exact hpl
  | _ => cases hr

theorem State.Resident.detached_of_finish {at_ : Persist K} {caller : Caller U T K} (h : s.Resident)
    (hruns : (s.requests r).logs ≠ some (p, .shutdown)) (hr : s.requests r = .logoutGame p at_ caller) :
    (s.obj p).tableID = .detached := by
  apply h.retired r p
  rw [hr] at hruns ⊢
  apply Pc.retired_logoutGame
  rintro rfl
  exact hruns rfl

variable [DecidableEq T]

namespace State.Registered

theorem tableStep (h : s.Registered) (hs : TableStep g s s') : s'.Registered := by
  have huid : ∀ p, (s'.obj p).uid = (s.obj p).uid := fun p => (hs.keeps p).uid
  constructor
  case isOpen => rw [hs.closed_eq, h.isOpen]
  case running =>
    rw [hs.requests_eq]
    exact h.running
  case uid =>
    intro u p hp
    rw [hs.pm_eq] at hp
    rw [huid, hs.next_eq]
    exact h.uid u p hp
  case seated =>
    intro p t ht
    rw [(hs.keeps p).tableID] at ht
    rw [huid, hs.pm_eq]
    exact h.seated p t ht
  case seeks =>
    intro r p hp
    rw [hs.requests_eq] at hp
    rw [huid, hs.pm_eq]
    exact h.seeks r p hp
  case session =>
    intro p k ht hk
    rw [(hs.keeps p).tableID] at ht
    rw [(hs.keeps p).session] at hk
    rw [huid, hs.pm_eq]
    exact h.session p k ht hk

variable [DecidableEq U]

variable (h : s.Registered)

include h

variable (hres : s.Resident)

include hres

/-- A registered player stays registered unless the request that may take it off the server does so. -/
theorem kept_or_removed (hs : RequestStep g s r a s') (hp : s.pm (s.obj p).uid = some p) :
    s'.pm (s.obj p).uid = some p ∨ (s'.requests r).seeks = none ∧
      ((s.requests r = .binding p ∨ s.requests r = .unbindingRoom p) ∧ (s'.obj p).session = none ∨
        (s.obj p).tableID = .detached) := by
  obtain hsame | ⟨k, rfl⟩ | ⟨q, hq, -, hseeks, hremoves⟩ := hs.pm_cases (s.obj p).uid
  · rw [hsame]
    exact .inl hp
  · have hnone := hs.registers_inv.2.1
    rw [hp] at hnone
    cases hnone
  · obtain rfl : p = q := by
      rw [hp] at hq
      exact Option.some_inj.mp hq
    exact .inr ⟨hseeks, hremoves.imp_right fun ⟨caller, hr⟩ => hres.detached_of_finish (h.running r p) hr⟩

theorem kept_at_table (hs : RequestStep g s r a s')
    (ht : (s.obj p).tableID = .table t) : s'.pm (s.obj p).uid = some p := by
  obtain hkept | ⟨-, ⟨hr, -⟩ | hdet⟩ := h.kept_or_removed hres hs (h.seated p t ht)
  · exact hkept
  · -- A request that gives a player up owns it, and knows that it is at no table.
    obtain hr | hr := hr
    · have hpend := hres.pending_of_seeks (p := p) (r := r) (by rw [hr]; rfl)
      cases hpend.symm.trans ht
    · have hpl := (hres.owned r p (by rw [hr]; rfl)).2
      rw [hr] at hpl
      exact absurd ht (hpl t)
  · cases hdet.symm.trans ht

theorem kept_seeking (hs : RequestStep g s r a s') {r' : Nat}
    (hr' : (s.requests r').seeks = some p) (hstill : r' = r → (s'.requests r).seeks = some p) :
    s'.pm (s.obj p).uid = some p := by
  obtain hkept | ⟨hseeks, ⟨hr, -⟩ | hdet⟩ := h.kept_or_removed hres hs (h.seeks r' p hr')
  · exact hkept
  · have hown : (s.requests r).owned = some p := by
      obtain hr | hr := hr <;> rw [hr] <;> rfl
    have hself := hstill (hres.owner r' r p (Pc.owned_of_seeks hr') hown)
    rw [hseeks] at hself
    cases hself
  · cases hdet.symm.trans (hres.pending_of_seeks hr')

theorem requestStep (hs : RequestStep g s r a s') : s'.Registered := by
  have huid : ∀ p, p ≠ s.next → (s'.obj p).uid = (s.obj p).uid := fun p hp => (hs.change p).uid_eq hp
  constructor
  case isOpen => rw [hs.closed_eq, h.isOpen]
  case running =>
    intro r' p hlogs
    by_cases hr : r' = r
    · subst hr
      obtain hold | hmay := hs.inherits.logs p _ hlogs
      · exact h.running r' p hold
      · exact hmay.1 rfl
    · rw [hs.requests_of_ne hr] at hlogs
      exact h.running r' p hlogs
  case uid =>
    intro u p hpm
    obtain hsame | ⟨k, rfl⟩ | ⟨q, -, hnone, -⟩ := hs.pm_cases u
    · rw [hsame] at hpm
      obtain ⟨hu, hlt⟩ := h.uid u p hpm
      rw [huid p hlt.ne]
      exact ⟨hu, hlt.trans_le hs.next_le⟩
    · obtain ⟨-, -, hpm', hnext, hobj⟩ := hs.registers_inv
      rw [hpm, Option.some_inj] at hpm'
      rw [hpm', hobj, hnext]
      exact ⟨rfl, Nat.lt_succ_self _⟩
    · rw [hpm] at hnone
      cases hnone
  case seated =>
    intro p t ht
    obtain hold | ⟨f, hr⟩ := (hs.change p).table_cases ht
    · rw [huid p (hres.lt_next (by rw [hold]; nofun)).ne]
      exact h.kept_at_table hres hs hold
    · have hseeks : (s.requests r).seeks = some p := by rw [hr]; rfl
      rw [huid p (hres.owned r p (Pc.owned_of_seeks hseeks)).1.ne]
      obtain hkept | ⟨-, ⟨hr' | hr', -⟩ | hdet⟩ := h.kept_or_removed hres hs (h.seeks r p hseeks)
      · exact hkept
      · cases hr.symm.trans hr'
      · cases hr.symm.trans hr'
      · cases hdet.symm.trans (hres.pending_of_seeks hseeks)
  case seeks =>
    intro r' p hp
    have hold : ∀ r', (s.requests r').seeks = some p → (r' = r → (s'.requests r).seeks = some p) →
        s'.pm (s'.obj p).uid = some p := by
      intro r' hr' hstill
      rw [huid p (hres.owned r' p (Pc.owned_of_seeks hr')).1.ne]
      exact h.kept_seeking hres hs hr' hstill
    by_cases hr : r' = r
    · subst hr
      obtain hseeks | rfl | ⟨uid, k, rfl⟩ := hs.inherits.seeks p hp
      · exact hold r' hseeks fun _ => hp
      · obtain ⟨t, -, ht, -⟩ := hs.switches_inv
        rw [huid p (hres.lt_next (by rw [ht]; nofun)).ne]
        exact h.kept_at_table hres hs ht
      · obtain ⟨-, -, hpm, -, hobj⟩ := hs.registers_inv
        rw [hobj]
        exact hpm
    · rw [hs.requests_of_ne hr] at hp
      exact hold r' hp fun hr' => absurd hr' hr
  case session =>
    intro p k ht hk
    obtain ⟨uid, k, rfl⟩ | rfl | ⟨hpend, hsess⟩ := (hs.change p).pending_cases ht hk
    · obtain ⟨-, -, hpm, -, hobj⟩ := hs.registers_inv
      rw [hobj]
      exact hpm
    · obtain ⟨t, -, ht, -⟩ := hs.switches_inv
      rw [huid p (hres.lt_next (by rw [ht]; nofun)).ne]
      exact h.kept_at_table hres hs ht
    · have hpm := h.session p k hpend hsess
      rw [huid p (h.uid _ p hpm).2.ne]
      obtain hkept | ⟨-, ⟨-, hnone⟩ | hdet⟩ := h.kept_or_removed hres hs hpm
      · exact hkept
      · cases hk.symm.trans hnone
      · cases hpend.symm.trans hdet

theorem step (hs : Step g s l s') : s'.Registered := by
  cases hs with
  | request hs => exact h.requestStep hres hs
  | table hs => exact h.tableStep hs

end State.Registered

end Yola.Room
