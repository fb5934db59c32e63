import Yola.Room.Exclusive

/-!
# The connection of a Whot player

A `Disconnect` of an old connection leaves a player alone who has a newer session; one of the current
connection marks the player until the next reconnect; and a `Switch` that has seated an offline player does
not succeed.
-/

namespace Yola.Room

open Reasoning State

variable {U T K : Type} {n : Nat} {g : Game} {s s' s₁ s₂ : State U T K n} {r p q : Nat} {t : T} {c : Fin n}
  {k k' : K} {uid : U} {f : Seating T} {a : Act U T K} {l : Label U T K} {ls : List (Label U T K)}
  {pc pc₀ : Pc U T K} {caller : Caller U T K} {b : Action U T K} {x : Player U T K n} {at_ : Persist K}

def Pc.disconnectOf : Pc U T K → Option K
  | .disconnect _ k | .offlineLoop _ _ k _
  | .callPlayer _ (.disconnect _ k _) | .call _ _ (.disconnect _ k _)
  | .logoutGame _ _ (.exit _ (.disconnect _ k _)) | .cancelling _ (.exit _ (.disconnect _ k _))
  | .returned (.disconnected _ k) => some k
  | _ => none

theorem Pc.retired_of_logs (h : pc.logs = some (p, caller)) (hclr : caller ≠ .shutdown) :
    pc.retired = some p := by
  cases pc with
  | logoutGame =>
    obtain ⟨rfl, rfl⟩ := Prod.mk.injEq .. ▸ Option.some_inj.mp h
    exact retired_logoutGame hclr
  | cancelling =>
    obtain ⟨rfl, rfl⟩ := Prod.mk.injEq .. ▸ Option.some_inj.mp h
    rfl
  | _ => cases h

theorem Change.session_of_detached (h : Change .whot s r a p x) (hp : p ≠ s.next)
    (hdet : (s.obj p).tableID = .detached) (hk : x.session = some k) : (s.obj p).session = some k := by
  cases h with
  | registers _ next => exact absurd next hp
  | reconnects _ _ located => cases hdet.symm.trans located.1
  | forgets | finalizes | loses | losesExits => cases hk
  | reverts ludo => cases ludo
  | _ => exact hk

def State.Evicted (s : State U T K n) : Prop :=
  ∀ r p t uid k again, (s.requests r).logs = some (p, .exit t (.disconnect uid k again)) →
    ∀ k', (s.obj p).session = some k' → k' = k

theorem Caller.exit_of_disconnectOf (hd : pc.disconnectOf = some k) (hlogs : pc.logs = some (p, caller)) :
    ∃ t uid again, caller = .exit t (.disconnect uid k again) := by
  have hclr : (pc.disconnectOf = match caller with
      | .exit _ (.disconnect _ k _) => some k
      | _ => none) := by
    cases pc with
    | logoutGame q at_ caller' | cancelling q caller' =>
      obtain ⟨rfl, rfl⟩ := Prod.mk.injEq .. ▸ Option.some_inj.mp hlogs
      cases caller' with
      | exit t a => cases a <;> rfl
      | _ => rfl
    | _ => cases hlogs
  rw [hd] at hclr
  cases caller with
  | exit t a =>
    cases a with
    | disconnect uid k' again =>
      cases hclr
      exact ⟨t, uid, again, rfl⟩
    | _ => cases hclr
  | _ => cases hclr

structure Untouched (s s' : State U T K n) (p : Nat) : Prop where
  obj : s'.obj p = s.obj p
  seats : ∀ t c, s.seats t c = some (.player p) → s'.seats t c = some (.player p)
  pm : ∀ u, s.pm u = some p → s'.pm u = some p

theorem Untouched.setPc (r : Nat) (pc : Pc U T K) : Untouched s (s.setPc r pc) p :=
  ⟨rfl, fun _ _ h => h, fun _ h => h⟩

theorem Untouched.setPlayer (h : p ≠ q) (r : Nat) (pc : Pc U T K) :
    Untouched s ((s.setPlayer q x).setPc r pc) p :=
  ⟨setPlayer_obj_of_ne _ _ h, fun _ _ h => h, fun _ h => h⟩

theorem Untouched.finalize [DecidableEq U] (h : p ≠ q) (r : Nat) (pc : Pc U T K) :
    Untouched s ((s.finalize g q).setPc r pc) p where
  obj := setPlayer_obj_of_ne _ _ h
  seats _ _ h := h
  pm u hu := by
    obtain hsame | ⟨hq, -⟩ := s.removeIfSame_pm q u
    · exact hsame.trans hu
    · rw [hu, Option.some_inj] at hq
      exact absurd hq h

theorem Offline.untouched [DecidableEq T] (ho : Offline g s r q t caller pc s') (h : p ≠ q) :
    Untouched s s' p := by
  cases ho with
  | marks => exact .setPlayer h r pc
  | @exits c _ hexits =>
    refine ⟨setPlayer_obj_of_ne _ _ h, fun t' c' hc => ?_, fun _ h => h⟩
    change (s.setChair t c none (-1)).seats t' c' = _
    rw [setChair_seats, if_neg]
    · exact hc
    · rintro ⟨rfl, rfl⟩
      rw [hexits.chair, Option.some_inj, Occupant.player.injEq] at hc
      exact h hc.symm
  | refuses => exact .setPc r pc

theorem Change.isOffline (h : Change .whot s r a p x) (hp : p ≠ s.next)
    (ha : ∀ k, a ≠ .reconnects p k) (hoff : (s.obj p).isOffline = true) : x.isOffline = true := by
  cases h with
  | registers _ next => exact absurd next hp
  | reconnects act => exact absurd act (ha _)
  | reverts ludo => cases ludo
  | marks | loses | losesExits => rfl
  | _ => exact hoff

def Pc.Unsuccessful : Pc U T K → Prop
  | .logoutGame _ _ (.seat _ f) | .cancelling _ (.seat _ f) => f ≠ .enter
  | .recovering _ _ | .detaching _ _ | .returned (.switchFailed _ _)
  | .logoutGame _ _ (.switchTable _) | .cancelling _ (.switchTable _) => True
  | _ => False

theorem Seating.unsuccessful_fails (hf : f ≠ .enter) : (f.fails p : Pc U T K).Unsuccessful := by
  cases f with
  | enter => exact absurd rfl hf
  | _ => trivial

section

variable (h : (Pc.logoutGame p at_ caller).Unsuccessful)

include h

theorem Caller.unsuccessful_succeeds : (caller.succeeds p).Unsuccessful := by
  cases caller with
  | seat => exact Seating.unsuccessful_fails h
  | switchTable => trivial
  | _ => cases h

theorem Caller.unsuccessful_fails : (caller.fails p).Unsuccessful := by
  cases caller with
  | seat => exact h
  | switchTable => trivial
  | _ => cases h

theorem Pc.unsuccessful_logoutGame {at' : Persist K} : (Pc.logoutGame p at' caller).Unsuccessful := by
  cases caller with
  | seat => exact h
  | switchTable => trivial
  | _ => cases h

end

theorem Reads.unsuccessful (h : Reads g s pc₀ pc) (hpc : pc₀.Unsuccessful) : pc.Unsuccessful := by
  cases h with
  | notRecovered => trivial
  | persistLost | persistBegins | persistNoSession | persistSession | persistExpired =>
    exact Pc.unsuccessful_logoutGame hpc
  | _ => cases hpc

variable [DecidableEq U] [DecidableEq T]

theorem RequestStep.unsuccessful (hs : RequestStep g s r a s') (hr : (s.requests r).Unsuccessful) :
    (s'.requests r).Unsuccessful := by
  cases hs with
  | reads hreads =>
    rw [setPc_requests_self]
    exact hreads.unsuccessful hr
  | detaches | recovers =>
    rw [setPc_requests_self]
    trivial
  | saves at_ | unbinds at_ =>
    rw [setPc_requests_self]
    rw [at_] at hr
    exact Pc.unsuccessful_logoutGame hr
  | finalizes at_ =>
    rw [setPc_requests_self]
    rw [at_] at hr
    exact Caller.unsuccessful_succeeds hr
  | cancels at_ =>
    rw [setPc_requests_self]
    rw [at_] at hr
    exact Caller.unsuccessful_fails hr
  | @cancelsAgain p caller at_ =>
    rw [setPc_requests_self]
    rw [at_] at hr
    have hlogout : (Pc.logoutGame p .check caller).Unsuccessful := by
      cases caller <;> exact hr
    exact Caller.unsuccessful_succeeds hlogout
  | _ => simp_all [Pc.Unsuccessful]

/-- A `Seat` of `Switch` that has seated an offline player fails. -/
theorem RequestStep.seat_unsuccessful (hs : RequestStep .whot s r a s') (hr : s.requests r = .seated p t f)
    (hf : f ≠ .enter) (hoff : (s.obj p).isOffline = true) : (s'.requests r).Unsuccessful := by
  cases hs with
  | reads hreads =>
    rw [setPc_requests_self]
    rw [hr] at hreads
    cases hreads with
    | seatSucceeds => simp_all
  | seatPushFails _ ludo => cases ludo
  | seatFindsOffline at_ _ _ _ ho =>
    cases hr.symm.trans at_
    cases ho with
    | exits =>
      rw [setPc_requests_self]
      exact hf
    | marks | refuses =>
      rw [setPc_requests_self]
      exact Seating.unsuccessful_fails hf
  | _ => simp_all

theorem State.Evicted.step (h : s.Evicted) (hres : s.Resident) (hs : Step .whot s l s') : s'.Evicted := by
  cases hs with
  | @request _ r a hs =>
    intro r' p t uid k again hlogs k' hk'
    have hold : (s.requests r').logs = some (p, .exit t (.disconnect uid k again)) → k' = k := by
      intro hlogs
      have hdet := hres.retired r' p (Pc.retired_of_logs hlogs nofun)
      have hlt := hres.lt_next (p := p) (by rw [hdet]; nofun)
      exact h r' p t uid k again hlogs k' ((hs.change p).session_of_detached hlt.ne hdet hk')
    by_cases hr : r' = r
    · subst hr
      obtain hlogs | hmay := hs.inherits.logs p _ hlogs
      · exact hold hlogs
      · have hk := hmay.2 t uid k again rfl
        rw [hk', Option.some_inj] at hk
        exact hk
    · rw [hs.requests_of_ne hr] at hlogs
      exact hold hlogs
  | table hs =>
    intro r p t uid k again hlogs
    rw [hs.requests_eq] at hlogs
    rw [(hs.keeps p).session]
    exact h r p t uid k again hlogs

theorem Evicted.untouched (h : s.Evicted) (hd : (s.requests r).disconnectOf = some k)
    (hs : RequestStep .whot s r a s') (hk : (s.obj p).session = some k') (hne : k' ≠ k) : Untouched s s' p := by
  have hoth : ∀ q, (s.obj q).session = some k → p ≠ q := by
    rintro q hq rfl
    rw [hk, Option.some_inj] at hq
    exact hne hq
  -- Whom it takes off the server had the session of the notice.
  have hlogs : ∀ {q caller}, (s.requests r).logs = some (q, caller) → p ≠ q := by
    rintro q caller hr rfl
    obtain ⟨t, uid, again, rfl⟩ := Caller.exit_of_disconnectOf hd hr
    exact hne (h r p t uid k again hr k' hk)
  cases hs with
  | reads | noticesNowhere | notices | misses | saves | unbinds => exact .setPc ..
  | marks at_ whot present session =>
    rw [at_] at hd
    cases hd
    exact .setPlayer (hoth _ session) ..
  | drops at_ free located session ho =>
    rw [at_] at hd
    cases hd
    exact ho.untouched (hoth _ session)
  | finalizes at_ => exact .finalize (hlogs (by rw [at_]; rfl)) ..
  | cancels at_ | cancelsAgain at_ => exact .setPlayer (hlogs (by rw [at_]; rfl)) ..
  | _ => simp_all [Pc.disconnectOf]

theorem isOffline_run (hrun : Run (Step .whot) s ls s') (hp : p < s.next) (hoff : (s.obj p).isOffline = true)
    (hls : ∀ l ∈ ls, ∀ k, l.act ≠ .reconnects p k) : (s'.obj p).isOffline = true := by
  suffices h : p < s'.next ∧ (s'.obj p).isOffline = true from h.2
  refine hrun.preserves (P := fun s => p < s.next ∧ (s.obj p).isOffline = true) ?_ ⟨hp, hoff⟩
  rintro s l s' hl hs ⟨hp, hoff⟩
  cases hs with
  | request hs => exact ⟨hp.trans_le hs.next_le, (hs.change p).isOffline hp.ne (hls _ hl) hoff⟩
  | table hs =>
    rw [hs.next_eq]
    exact ⟨hp, (hs.keeps p).isOffline hoff⟩

theorem switch_run (hres : s.Resident) (hrun : Run (Step .whot) s ls s') (hr : s.requests r = .seated p t f)
    (hf : f ≠ .enter) (hoff : (s.obj p).isOffline = true) :
    s'.requests r = .seated p t f ∨ (s'.requests r).Unsuccessful := by
  suffices h : s'.Resident ∧ (s'.requests r = .seated p t f ∧ (s'.obj p).isOffline = true ∨
      (s'.requests r).Unsuccessful) from h.2.imp_left And.left
  refine hrun.preserves (P := fun s => s.Resident ∧ (s.requests r = .seated p t f ∧
    (s.obj p).isOffline = true ∨ (s.requests r).Unsuccessful)) ?_ ⟨hres, .inl ⟨hr, hoff⟩⟩
  rintro s l s' - hs ⟨hres, hseated⟩
  refine ⟨hres.step careful_whot hs, ?_⟩
  cases hs with
  | @request _ r' a hs =>
    by_cases hr' : r = r'
    · subst hr'
      obtain ⟨hr, hoff⟩ | hun := hseated
      · exact .inr (hs.seat_unsuccessful hr hf hoff)
      · exact .inr (hs.unsuccessful hun)
    · rw [hs.requests_of_ne hr']
      refine hseated.imp_left fun ⟨hr, hoff⟩ => ⟨hr, ?_⟩
      have hown : (s.requests r).owned = some p := by rw [hr]; rfl
      apply (hs.change p).isOffline (hres.owned r p hown).1.ne _ hoff
      -- A reconnect would be another job of the table.
      rintro k rfl
      obtain ⟨t', hfree, ht', -⟩ := hs.reconnects_inv
      exact hres.not_owned hfree ht' r hown
  | table hs =>
    rw [hs.requests_eq]
    exact hseated.imp_left fun ⟨hr, hoff⟩ => ⟨hr, (hs.keeps p).isOffline hoff⟩

theorem RequestStep.disconnect_marks (hs : RequestStep .whot s r a s') (hr : s.requests r = .disconnect uid k)
    (hp : s.pm uid = some p) (hk : (s.obj p).session = some k) : (s'.obj p).isOffline = true := by
  cases hs with
  | reads hreads =>
    rw [hr] at hreads
    cases hreads <;> simp_all
  | marks at_ whot present =>
    cases hr.symm.trans at_
    obtain rfl := Option.some_inj.mp (hp.symm.trans present)
    rw [setPc_obj, setPlayer_obj_self]
    rfl
  | _ => simp_all

/-- The connection state of Whot follows the newest connection. -/
theorem whot_connection_newest (h : Reachable Initial (Step .whot) s) :
    (∀ r k a s' p k', (s.requests r).disconnectOf = some k → Step .whot s ⟨some r, a⟩ s' →
      (s.obj p).session = some k' → k' ≠ k → Untouched s s' p) ∧
    (∀ r uid k p a s₁ ls s₂, s.requests r = .disconnect uid k → s.pm uid = some p →
      (s.obj p).session = some k → Step .whot s ⟨some r, a⟩ s₁ → Run (Step .whot) s₁ ls s₂ →
      (∀ l ∈ ls, ∀ k', l.act ≠ .reconnects p k') → (s₂.obj p).isOffline = true) ∧
    ∀ r p t f ls s₂, s.requests r = .seated p t f → f ≠ .enter → (s.obj p).isOffline = true →
      Run (Step .whot) s ls s₂ → ∀ q, s₂.requests r ≠ .returned (.switchOk q) := by
  obtain ⟨hres, hreg⟩ := resident_registered (careful_of_whot h)
  have hev : s.Evicted := by
    apply h.invariant_of
    · rintro s ⟨uid, rfl⟩
      exact nofun
    · intro s l s' hs hstep hev
      exact hev.step (resident_registered (careful_of_whot hs)).1 hstep
  refine ⟨?_, ?_, ?_⟩
  · rintro r k a s' p k' hd ⟨⟩ hk hne
    next hs => exact Evicted.untouched hev hd hs hk hne
  · rintro r uid k p a s₁ ls s₂ hr hp hk ⟨⟩ hrun hls
    next hs =>
      have hlt := (hreg.uid uid p hp).2
      exact isOffline_run hrun (hlt.trans_le hs.next_le) (hs.disconnect_marks hr hp hk) hls
  · intro r p t f ls s₂ hr hf hoff hrun q hq
    obtain hseated | hun := switch_run hres hrun hr hf hoff
    · cases hseated.symm.trans hq
    · rw [hq] at hun
      exact hun

/-- User 7 has logged in, and the notice that its connection is gone has arrived. -/
theorem whot_connection_newest_notice : ∃ s : State Nat Unit Nat 2,
    s.requests 1 = .disconnect 7 1 ∧ s.pm 7 = some 0 ∧ (s.obj 0).session = some 1 ∧
    ∀ a s₁, Step .whot s ⟨some 1, a⟩ s₁ → (s₁.obj 0).isOffline = true := by
  have h₁ := ((calm_new (CarefulStep .whot) 0).loggedIn (t := ()) (c := (0 : Fin 2)) rfl rfl rfl
    (firstFree_zero rfl rfl)).careless
  have h₂ := h₁.reads 1 (.disconnect 7 1) .startDisconnect rfl
  have hnotice := (whot_connection_newest h₂.reachable).2.1 1 7 1 0
  exact ⟨_, rfl, rfl, rfl, fun a s₁ hs => hnotice a s₁ [] s₁ rfl rfl rfl hs (.nil s₁) nofun⟩

end Yola.Room
