import Yola.Room.Residency

/-!
# Every step keeps players where they are known to be
-/

namespace Yola.Room

open Reasoning State

variable {U T K : Type} {n : Nat} {g : Game} {s s' : State U T K n} {r p : Nat} {t : T} {f : Seating T}
  {a : Action U T K} {caller : Caller U T K} {pc₀ : Pc U T K} {l : Label U T K}

theorem Player.detached_of_left {x : Player U T K n} (h : x.keptByLogin g = false)
    (hout : g = .ludo → ∀ t, x.tableID ≠ .table t) : x.tableID = .detached := by
  cases htab : x.tableID with
  | detached => rfl
  | pending => cases g <;> simp [Player.keptByLogin, htab] at h
  | table t =>
    cases g with
    | ludo => exact absurd htab (hout rfl t)
    | whot => simp [Player.keptByLogin, htab] at h

theorem Player.logoutGame_tableID (x : Player U T K n) : (x.logoutGame g).tableID = x.tableID := by
  cases g <;> rfl

namespace Continues

theorem seatFails (hp : (s.obj p).tableID = .detached) (hown : pc₀.owned = some p)
    (hpl : ∀ q t, pc₀.Placed q t → q = p) : Continues s pc₀ (f.fails p) := by
  apply of_detached hp _ _ _ hpl
  · intro q hq
    refine ⟨?_, hown⟩
    cases f <;> simp_all [Seating.fails, Pc.owned]
  · intro x hx
    cases f <;> simp [Seating.fails, Pc.Place, hx]
  · intro q hq
    cases f <;> cases hq

theorem succeeds (hp : caller ≠ .shutdown → (s.obj p).tableID = .detached)
    (hown : ∀ t f, caller = .seat t f → pc₀.owned = some p) (hpl : ∀ q t, ¬ pc₀.Placed q t) :
    Continues s pc₀ (caller.succeeds p) := by
  cases caller with
  | exit t a => cases a <;> exact of_none rfl rfl hpl
  | seat t f => exact seatFails (hp nofun) (hown t f rfl) fun q t h => absurd h (hpl q t)
  | _ => exact of_none rfl rfl hpl

theorem fails (hp : caller ≠ .shutdown → (s.obj p).tableID = .detached)
    (hown : ∀ t f, caller = .seat t f → pc₀.owned = some p) (hpl : ∀ q t, ¬ pc₀.Placed q t) :
    Continues s pc₀ (caller.fails p) := by
  have hpl' : ∀ q t, pc₀.Placed q t → q = p := fun q t h => absurd h (hpl q t)
  cases caller with
  | exit =>
    exact of_detached (hp nofun) nofun (fun _ _ => trivial) (fun q hq => (Option.some_inj.mp hq).symm) hpl'
  | seat t f =>
    exact of_detached (hp nofun) (fun q hq => ⟨(Option.some_inj.mp hq).symm, hown t f rfl⟩)
      (fun _ _ => trivial) (fun q hq => (Option.some_inj.mp hq).symm) hpl'
  | _ => exact of_none rfl rfl hpl

theorem givesUp (hp : ∀ t, (s.obj p).tableID ≠ .table t) (hown : pc₀.owned = some p)
    (hpl : ∀ q t, ¬ pc₀.Placed q t) : Continues s pc₀ (.returned (.loginFailed (some p))) where
  owned q hq := by
    obtain rfl : p = q := Option.some_inj.mp hq
    exact ⟨hp, .inl hown⟩
  retired := nofun
  placed q t _ h := absurd h (hpl q t)

theorem logoutGame {at_ : Persist K} (hp : (s.obj p).tableID = .detached)
    (hown : ∀ t f, caller = .seat t f → pc₀.owned = some p) (hpl : ∀ q t, pc₀.Placed q t → q = p) :
    Continues s pc₀ (.logoutGame p at_ caller) := by
  refine of_detached hp ?_ (fun _ _ => trivial) ?_ hpl
  · intro q hq
    cases caller with
    | seat t f => exact ⟨(Option.some_inj.mp hq).symm, hown t f rfl⟩
    | _ => cases hq
  · intro q hq
    cases caller <;> simp_all [Pc.retired]

end Continues

namespace State.Resident

theorem updateSession (h : s.Resident) {session : Option K} :
    (s.setPlayer p ((s.obj p).updateSession g session)).Resident := h.setPlayer rfl rfl rfl (h.exiting p)

theorem setExiting (h : s.Resident) (hp : (s.obj p).tableID = .detached) (exiting : Bool) :
    (s.setPlayer p ((s.obj p).setExiting exiting)).Resident := h.setPlayer rfl rfl rfl fun _ => hp

theorem gaming_of_seated (h : s.Resident) (hr : s.requests r = .seated p t f) {t' : T}
    (ht : (s.obj p).tableID = .table t') : (s.obj p).gaming = false := by
  have hpl := (h.owned r p (by rw [hr]; rfl)).2
  rw [hr] at hpl
  obtain ⟨-, hgam⟩ | hdet := hpl.2
  · exact hgam
  · cases hdet.symm.trans ht

section

variable [DecidableEq U]

theorem removeIfSame (h : s.Resident) : (s.removeIfSame p).Resident := { h with }

theorem forget (h : s.Resident) : (s.forget g p).Resident := (h.removeIfSame (p := p)).updateSession

theorem finalize (h : s.Resident) : (s.finalize g p).Resident := by
  cases g <;> exact (h.removeIfSame (p := p)).setPlayer rfl rfl rfl (h.exiting p)

end

variable [DecidableEq T]

theorem seatFails (h : s.Resident) (hr : s.requests r = .seated p t f)
    (hmay : (s.obj p).tableID = .table t → (s.obj p).canExit g (s.stage t) = true)
    (ho : Offline g s r p t (.seat t f) (f.fails p) s') : s'.Resident := by
  have hpl := (h.owned r p (by rw [hr]; rfl)).2
  rw [hr] at hpl
  apply h.offline hr ho (fun _ _ => rfl) (fun q t' hq => hq.1.symm)
  intro hstays
  refine .seatFails ?_ rfl fun q t' hq => hq.1.symm
  obtain ⟨htab, hgam⟩ | hdet := hpl.2
  · -- A player on the chair is not in a game and has not been claimed, so the exit is not refused.
    rw [hgam, hmay htab] at hstays
    simp only [Bool.false_eq_true, Bool.true_eq_false, false_or, or_false] at hstays
    exact h.exiting p hstays
  · exact hdet

theorem tableStep (h : s.Resident) (hs : TableStep g s s') : s'.Resident := by
  cases hs with
  | @plays t stage gaming free =>
    -- Only players at the table change, and those nobody owns.
    have hobj : ({ s with obj := (s.play t stage gaming).obj } : State U T K n).Resident := by
      refine h.setObj (fun _ => rfl) (fun _ => rfl) h.exiting fun r p hown hpl => ?_
      apply (Pc.place_congr _ _).mpr hpl
      · rfl
      · exact if_neg fun ht => h.not_owned free ht r hown
    exact { hobj with }
  | @marks p => exact h.setPlayer rfl rfl rfl (h.exiting p)
  | starts => exact { h with }
  | robotSits _ chair => exact h.robotSits chair.1
  | robotLeaves _ chair => exact h.robotLeaves chair

variable [DecidableEq U]

theorem requestStep {a : Act U T K} (h : s.Resident) (hcare : Careful g s ⟨some r, a⟩)
    (hs : RequestStep g s r a s') : s'.Resident := by
  cases hs with
  | reads hreads => exact h.setPc rfl (hreads.continues (fun p hp => (h.owned r p hp).2) (h.retired r))
  | looksAgain at_ left =>
    have hdet := Player.detached_of_left left hcare
    refine h.setPc at_ ⟨by rintro _ ⟨⟩, fun q hq => ?_, fun _ _ _ => False.elim⟩
    rw [← Option.some_inj.mp hq]
    exact hdet
  | @claims uid k p at_ claim =>
    have hdet := h.retired r p (by rw [at_]; rfl)
    refine (h.setExiting hdet true).setPc at_ (.logoutGame ?_ (by rintro _ _ ⟨⟩) (by rintro _ _ ⟨⟩))
    rw [setPlayer_obj_self]
    exact hdet
  | @registers uid k at_ absent =>
    refine (h.register uid k).setPc at_ ⟨fun q hq => ?_, by rintro _ ⟨⟩, fun _ _ _ => False.elim⟩
    obtain rfl : s.next = q := Option.some_inj.mp hq
    refine ⟨?_, .inr ⟨Nat.lt_succ_self _, fun r' hown => (h.owned r' _ hown).1.false⟩⟩
    rw [register_obj_next]
    rfl
  | @bindFails p at_ =>
    have hplace := (h.owned r p (by rw [at_]; rfl)).2
    rw [at_] at hplace
    refine h.forget.setPc at_ (.givesUp (fun t ht => ?_) rfl (by rintro _ _ ⟨⟩))
    rw [State.forget, setPlayer_obj_self] at ht
    cases hplace.symm.trans ht
  | @leavesUnmanaged p at_ =>
    have hplace := (h.owned r p (by rw [at_]; rfl)).2
    rw [at_] at hplace
    refine h.updateSession.setPc at_ (.givesUp (fun t ht => ?_) rfl (by rintro _ _ ⟨⟩))
    rw [setPlayer_obj_self] at ht
    exact hplace t ht
  | @forgets p at_ =>
    have hplace := (h.owned r p (by rw [at_]; rfl)).2
    rw [at_] at hplace
    refine h.forget.setPc at_ (.givesUp (fun t ht => ?_) rfl (by rintro _ _ ⟨⟩))
    rw [State.forget, setPlayer_obj_self] at ht
    exact hplace t ht
  | seats at_ mayTake free chair => exact h.seat at_ mayTake chair.1
  | @seatPushFails p f t _ at_ ludo located online ho =>
    subst ludo
    have hgaming := h.gaming_of_seated at_ located.1
    -- The table lets a player who has just sat down go unless a game is being played.
    exact h.seatFails at_ (fun _ => Player.canExit_ludo hgaming (hcare rfl)) ho
  | @seatFindsOffline p f t _ at_ whot migrates isOffline ho =>
    subst whot
    exact h.seatFails at_ (fun htab => Player.canExit_whot (h.gaming_of_seated at_ htab) isOffline) ho
  | @switches p t old c at_ free located chair canExit =>
    obtain ⟨htab, c', hchair, hseat⟩ := located
    obtain rfl : c' = c := by
      rw [hchair] at chair
      exact Option.some_inj.mp chair
    refine (h.removeForSwitch free hseat).setPc at_ ⟨fun q hq => ?_, by rintro _ ⟨⟩, fun _ _ _ => False.elim⟩
    obtain rfl : p = q := Option.some_inj.mp hq
    refine ⟨?_, .inr ⟨h.lt_next (by rw [htab]; rintro ⟨⟩), h.not_owned free htab⟩⟩
    rw [State.removeForSwitch, setPlayer_obj_self]
    rfl
  | @detaches p old at_ =>
    have hown : (s.requests r).owned = some p := by rw [at_]; rfl
    have hplace := (h.owned r p hown).2
    rw [at_] at hplace
    refine (h.detach hplace hown fun x hx => ?_).setPc at_ (.of_none rfl rfl fun _ _ => id)
    rw [at_]
    intro t ht
    rw [hx] at ht
    cases ht
  | @recovers p old at_ detached managed claim =>
    refine (h.setExiting detached true).setPc at_ (.logoutGame ?_ (by rintro _ _ ⟨⟩) fun q t hq => hq.1.symm)
    rw [setPlayer_obj_self]
    exact detached
  | @exits p t c at_ free located hexits | @kicks p t c at_ free hexits =>
    refine (h.removeForExit hexits.chair).setPc at_ (.logoutGame ?_ (by rintro _ _ ⟨⟩) fun _ _ => False.elim)
    rw [State.removeForExit, setPlayer_obj_self]
    rfl
  | @marks uid k p at_ whot present session | @confirms p t k session offline at_
  | @reverts p t t' session offline at_ ludo table =>
    exact setPc (h.setPlayer rfl rfl rfl (h.exiting p)) at_ (.of_none rfl rfl fun _ _ => id)
  | noticesNowhere at_ | notices at_ | misses at_ | gone at_ =>
    exact h.setPc at_ (.of_none rfl rfl fun _ _ => id)
  | drops at_ free located session ho | reenterPushFails at_ ludo located online ho
  | pushFails at_ ludo isOpen located online ho =>
    refine h.offline at_ ho (by rintro _ ⟨⟩) (fun _ _ => False.elim) fun _ => ?_
    exact .of_none rfl rfl fun _ _ => id
  | @reconnects p uid k t at_ free located =>
    have hroute : (s.setPlayer p ((s.obj p).reconnect g k)).Resident := by
      cases g <;> exact h.setPlayer rfl rfl rfl (h.exiting p)
    exact hroute.setPc at_ (.of_none rfl rfl fun _ _ => id)
  | @loses p t version again s' at_ free located managed loses ho =>
    have hlost : (s.setPlayer p (s.obj p).loseNodeBinding).Resident := h.setPlayer rfl rfl rfl (h.exiting p)
    refine hlost.offline at_ ho (by rintro _ ⟨⟩) (fun _ _ => False.elim) fun _ => ?_
    exact .of_none rfl rfl fun _ _ => id
  | saves at_ | unbinds at_ => exact h.setPc at_ (.persist (at_ ▸ h.retired r))
  | @finalizes p caller at_ =>
    refine h.finalize.setPc at_ (.succeeds (fun hclr => ?_) (fun t f => ?_) fun _ _ => id)
    · rw [State.finalize, setPlayer_obj_self, Player.logoutGame_tableID]
      exact h.retired r p (at_ ▸ Pc.retired_logoutGame hclr)
    · rintro rfl
      rfl
  | @cancels p caller at_ hclr =>
    have hdet := h.retired r p (at_ ▸ Pc.retired_logoutGame hclr)
    refine (h.setExiting hdet false).setPc at_ (.fails (fun _ => ?_) (fun t f => ?_) fun _ _ => id)
    · rw [setPlayer_obj_self]
      exact hdet
    · rintro rfl
      rfl
  | @cancelsAgain p caller at_ =>
    have hdet := h.retired r p (by rw [at_]; rfl)
    refine (h.setExiting hdet false).setPc at_ (.succeeds (fun _ => ?_) (fun t f => ?_) fun _ _ => id)
    · rw [setPlayer_obj_self]
      exact hdet
    · rintro rfl
      rfl

theorem step (h : s.Resident) (hcare : Careful g s l) (hs : Step g s l s') : s'.Resident := by
  cases hs with
  | request hs => exact h.requestStep hcare hs
  | table hs => exact h.tableStep hs

theorem lifeStep (h : s.Resident) (hcare : Careful g s l) (hs : LifeStep g s l s') : s'.Resident := by
  cases hs with
  | step hs => exact h.step hcare hs
  | closes => exact { h with }
  | cleans closed at_ => exact h.setPc at_ (.of_none rfl rfl nofun)

end State.Resident

end Yola.Room
