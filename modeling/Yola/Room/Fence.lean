import Yola.Room.Connection

/-!
# A player whose node binding is lost is not saved

The renewal loop samples the version of a session before its remote call and compares it inside the
table's mailbox, so that a failure of an old session leaves a player alone who has reconnected.  From
`LoseNodeBinding` to `ConfirmNodeBinding` nobody saves or unbinds the player: whoever is past the check of
`persistAndUnbindPlayer` has taken the player off its table, or has closed the tables.
-/

namespace Yola.Room

open Reasoning State

variable {U T K : Type} {n : Nat} {g : Game} {s s' s₁ s₂ : State U T K n} {r r' p q version : Nat} {k : K}
  {a : Act U T K} {l : Label U T K} {ls : List (Label U T K)} {pc pc₀ : Pc U T K} {caller : Caller U T K}
  {b : Action U T K}

def Pc.sampled : Pc U T K → Option (Nat × Nat)
  | .renewing p version | .callPlayer p (.lose version _) | .call p _ (.lose version _) => some (p, version)
  | _ => none

/-- The player whom the request saves or unbinds next. -/
def Pc.persists : Pc U T K → Option Nat
  | .logoutGame p .save _ | .logoutGame p (.session _) _ | .logoutGame p (.unbind _ _) _ => some p
  | _ => none

theorem Pc.logs_of_persists (h : pc.persists = some p) : ∃ caller, pc.logs = some (p, caller) := by
  cases pc with
  | logoutGame q at_ caller =>
    cases at_ with
    | save | session | unbind =>
      cases h
      exact ⟨caller, rfl⟩
    | _ => cases h
  | _ => cases h

namespace Change

variable {x : Player U T K n}

/-- The version of a session only grows, and a reconnect makes it grow. -/
theorem sessionVersion_le (h : Change g s r a p x) (hp : p ≠ s.next) :
    (s.obj p).sessionVersion ≤ x.sessionVersion := by
  cases h with
  | registers _ next => exact absurd next hp
  | forgets | reverts | loses | losesExits => exact Nat.le_succ _
  | finalizes =>
    cases g with
    | ludo => exact Nat.le_refl _
    | whot => exact Nat.le_succ _
  | reconnects => cases g <;> exact Nat.le_succ _
  | _ => exact Nat.le_refl _

theorem nodeBindingLost_eq (h : Change g s r a p x) (hp : p ≠ s.next) :
    x.nodeBindingLost = (s.obj p).nodeBindingLost ∨ a = .loses p ∧ x.nodeBindingLost = true ∨
      a = .confirms p ∧ x.nodeBindingLost = false := by
  cases h with
  | registers _ next => exact absurd next hp
  | loses act | losesExits act => exact .inr (.inl ⟨act, rfl⟩)
  | confirms act => exact .inr (.inr ⟨act, rfl⟩)
  | finalizes | reconnects => cases g <;> exact .inl rfl
  | _ => exact .inl rfl

end Change

theorem Pc.Plain.persists (h : pc.Plain) : pc.persists ≠ some p := by
  intro hp
  obtain ⟨caller, hlogs⟩ := Pc.logs_of_persists hp
  cases h.2.symm.trans hlogs

theorem Caller.persists_fails : (caller.fails p).persists ≠ some q := by cases caller <;> nofun

section

variable (h : Reads g s pc₀ pc)

include h

theorem Reads.persists (hp : pc.persists = some p) : pc₀.persists = some p ∨ (s.obj p).nodeBindingLost = false := by
  cases h with
  | persistBegins kept =>
    cases hp
    exact .inr kept
  | persistSession => exact .inl hp
  | @givesUp p f => cases f <;> cases hp
  | seatSucceeds => exact absurd hp Seating.plain_succeeds.persists
  | notFound => exact absurd hp Action.plain_notFound.persists
  | missed => exact absurd hp Action.plain_missed.persists
  | routeChanged => exact absurd hp Action.plain_changed.persists
  | _ => cases hp

/-- The renewal of one player goes on with the version that it has sampled, or is over. -/
theorem Reads.sampled_cases (hp : pc₀.sampled = some (p, version)) :
    pc.sampled = some (p, version) ∨ ∃ o, pc = .returned o := by
  cases h with
  | renewed | loseRefused => exact .inr ⟨_, rfl⟩
  | aborted => exact .inl hp
  | @notFound p b | @missed p b =>
    cases b with
    | lose => exact .inr ⟨_, rfl⟩
    | _ => cases hp
  | @calls p b =>
    cases b with
    | lose => exact .inl hp
    | _ => cases hp
  | @routeChanged p b =>
    cases b with
    | lose version' again =>
      cases again with
      | false => exact .inr ⟨_, rfl⟩
      | true => exact .inl hp
    | _ => cases hp
  | _ => cases hp

theorem Reads.sampled_new (hp : pc.sampled = some (p, version)) :
    pc₀.sampled = some (p, version) ∨ pc₀ = .renewal p ∧ version = (s.obj p).sessionVersion := by
  cases h with
  | sampled =>
    cases hp
    exact .inr ⟨rfl, rfl⟩
  | aborted => exact .inl hp
  | @givesUp p f => cases f <;> cases hp
  | @seatSucceeds p t f =>
    cases f with
    | restore old failed => cases failed <;> cases hp
    | _ => cases hp
  | @notFound p b | @missed p b => cases b <;> cases hp
  | @calls p b =>
    cases b with
    | lose => exact .inl hp
    | _ => cases hp
  | @routeChanged p b =>
    cases b with
    | disconnect uid k again => cases g <;> cases again <;> cases hp
    | lose version' again =>
      cases again with
      | false => cases hp
      | true => exact .inl hp
    | _ => cases hp
  | _ => cases hp

theorem Reads.renewal_new (hp : pc = .renewal p) : s.pm (s.obj p).uid = some p := by
  cases h with
  | startRenewal managed =>
    cases hp
    exact managed
  | @givesUp p f => cases f <;> cases hp
  | @seatSucceeds p t f =>
    cases f with
    | restore old failed => cases failed <;> cases hp
    | _ => cases hp
  | @notFound p b | @missed p b => cases b <;> cases hp
  | @routeChanged p b =>
    cases b with
    | disconnect uid k again => cases g <;> cases again <;> cases hp
    | lose version again => cases again <;> cases hp
    | _ => cases hp
  | _ => cases hp

end

theorem Seating.isRenewal_fails {f : Seating T} : (f.fails p : Pc U T K).isRenewal = false := by cases f <;> rfl

theorem Caller.isRenewal_succeeds : (caller.succeeds p).isRenewal = false := by
  cases caller with
  | exit t a => cases a <;> rfl
  | seat => exact Seating.isRenewal_fails
  | _ => rfl

theorem Caller.isRenewal_fails : (caller.fails p).isRenewal = false := by cases caller <;> rfl

theorem Pc.isRenewal_of_sampled (h : pc.sampled = some (p, version)) : pc.isRenewal = true := by
  cases pc with
  | renewing => rfl
  | callPlayer q a | call q t a =>
    cases a with
    | lose => rfl
    | _ => cases h
  | _ => cases h

/-- What the renewal loop knows, and who is past the check of `persistAndUnbindPlayer`. -/
structure State.Fenced (s : State U T K n) : Prop where
  managed : ∀ u p, s.pm u = some p → p < s.next
  renewal : ∀ r p, s.requests r = .renewal p → p < s.next
  sampled : ∀ r p version, (s.requests r).sampled = some (p, version) →
    p < s.next ∧ version ≤ (s.obj p).sessionVersion
  shutdown : ∀ r p, (s.requests r).logs = some (p, .shutdown) → s.closed = true ∧ p < s.next
  persists : ∀ r p, (s.requests r).persists = some p → (s.obj p).nodeBindingLost = false

namespace State.Fenced

/-- Nobody is past the check for a player who is at a table whose mailbox is free. -/
theorem not_persists {t : T} (h : s.Fenced) (hres : s.Resident) (hfree : s.Free t)
    (hp : (s.obj p).tableID = .table t) (r : Nat) : (s.requests r).persists ≠ some p := by
  intro hpersists
  obtain ⟨caller, hlogs⟩ := Pc.logs_of_persists hpersists
  by_cases hclr : caller = .shutdown
  · have hcls := (h.shutdown r p (hclr ▸ hlogs)).1
    cases hfree.1.symm.trans hcls
  · have hdet := hres.retired r p (Pc.retired_of_logs hlogs hclr)
    cases hp.symm.trans hdet

theorem persists_lt (h : s.Fenced) (hres : s.Resident) (hp : (s.requests r).persists = some p) :
    p < s.next := by
  obtain ⟨caller, hlogs⟩ := Pc.logs_of_persists hp
  by_cases hclr : caller = .shutdown
  · exact (h.shutdown r p (hclr ▸ hlogs)).2
  · apply hres.lt_next
    rw [hres.retired r p (Pc.retired_of_logs hlogs hclr)]
    nofun

end State.Fenced

variable [DecidableEq T]

theorem Offline.isRenewal_eq {t : T} (h : Offline g s r p t caller pc s') (hpc : pc.isRenewal = false) :
    (s'.requests r).isRenewal = false := by
  cases h with
  | exits =>
    rw [setPc_requests_self]
    rfl
  | marks | refuses =>
    rw [setPc_requests_self]
    exact hpc

theorem Offline.persists_eq {t : T} (h : Offline g s r p t caller pc s') (hpc : pc.Plain) :
    (s'.requests r).persists ≠ some q := by
  cases h with
  | exits =>
    rw [setPc_requests_self]
    nofun
  | marks | refuses =>
    rw [setPc_requests_self]
    exact hpc.persists

theorem State.Fenced.tableStep (h : s.Fenced) (hs : TableStep g s s') : s'.Fenced := by
  constructor
  case managed =>
    rw [hs.pm_eq, hs.next_eq]
    exact h.managed
  case renewal =>
    rw [hs.requests_eq, hs.next_eq]
    exact h.renewal
  case sampled =>
    intro r p version hp
    rw [hs.requests_eq] at hp
    rw [hs.next_eq, (hs.keeps p).sessionVersion]
    exact h.sampled r p version hp
  case shutdown =>
    rw [hs.requests_eq, hs.closed_eq, hs.next_eq]
    exact h.shutdown
  case persists =>
    intro r p hp
    rw [hs.requests_eq] at hp
    rw [(hs.keeps p).nodeBindingLost]
    exact h.persists r p hp

variable [DecidableEq U]

/-- Only reading steps lead into the renewal loop and on in it. -/
theorem RequestStep.renewal_cases (h : RequestStep g s r a s') :
    (∃ pc, Reads g s (s.requests r) pc ∧ s' = s.setPc r pc) ∨ (s'.requests r).isRenewal = false := by
  cases h with
  | reads hreads => exact .inl ⟨_, hreads, rfl⟩
  | seatPushFails _ _ _ _ ho | seatFindsOffline _ _ _ _ ho =>
    exact .inr (ho.isRenewal_eq Seating.isRenewal_fails)
  | drops _ _ _ _ ho | pushFails _ _ _ _ _ ho | reenterPushFails _ _ _ _ ho | loses _ _ _ _ _ ho =>
    exact .inr (ho.isRenewal_eq rfl)
  | finalizes | cancelsAgain =>
    rw [setPc_requests_self]
    exact .inr Caller.isRenewal_succeeds
  | cancels =>
    rw [setPc_requests_self]
    exact .inr Caller.isRenewal_fails
  | _ =>
    rw [setPc_requests_self]
    exact .inr rfl

theorem RequestStep.persists (h : RequestStep g s r a s') (hp : (s'.requests r).persists = some p) :
    ((s.requests r).persists = some p ∨ (s.obj p).nodeBindingLost = false) ∧ s'.obj p = s.obj p := by
  cases h with
  | reads hreads =>
    rw [setPc_requests_self] at hp
    exact ⟨hreads.persists hp, rfl⟩
  | saves at_ =>
    rw [setPc_requests_self] at hp
    rw [at_]
    exact ⟨.inl hp, rfl⟩
  | seatPushFails _ _ _ _ ho | seatFindsOffline _ _ _ _ ho =>
    exact absurd hp (ho.persists_eq Seating.plain_fails)
  | drops _ _ _ _ ho | pushFails _ _ _ _ _ ho | reenterPushFails _ _ _ _ ho | loses _ _ _ _ _ ho =>
    exact absurd hp (ho.persists_eq ⟨rfl, rfl⟩)
  | finalizes | cancelsAgain =>
    rw [setPc_requests_self] at hp
    exact absurd hp Caller.plain_succeeds.persists
  | cancels =>
    rw [setPc_requests_self] at hp
    exact absurd hp Caller.persists_fails
  | _ =>
    rw [setPc_requests_self] at hp
    cases hp

theorem RequestStep.loses_lost (h : RequestStep g s r (.loses p) s') : (s'.obj p).nodeBindingLost = true := by
  cases h with
  | @loses _ t _ _ _ _ _ _ _ _ ho =>
    apply ho.forall_obj (P := fun q x => q = p → x.nodeBindingLost = true) _ _ _ p rfl
    · rintro q rfl
      rw [setPlayer_obj_self]
      rfl
    all_goals
      rw [setPlayer_obj_self]
      exact fun _ => rfl

theorem RequestStep.reconnects_version (h : RequestStep g s r (.reconnects p k) s') :
    (s.requests r).sampled = none ∧ (s.obj p).sessionVersion < (s'.obj p).sessionVersion := by
  cases h with
  | reconnects at_ =>
    rw [at_, setPc_obj, setPlayer_obj_self]
    cases g <;> exact ⟨rfl, Nat.lt_succ_self _⟩

theorem RequestStep.loses_inv (h : RequestStep g s r (.loses p) s') : ∃ t, s.Free t ∧ s.Located p t := by
  cases h with
  | @loses p t _ _ _ _ free located => exact ⟨t, free, located⟩

namespace State.Fenced

theorem requestStep (h : s.Fenced) (hres : s.Resident) (hs : RequestStep g s r a s') : s'.Fenced where
  managed u p hp := by
    obtain hsame | ⟨k, rfl⟩ | ⟨q, -, hnone, -⟩ := hs.pm_cases u
    · rw [hsame] at hp
      exact (h.managed u p hp).trans_le hs.next_le
    · obtain ⟨-, -, hpm, hnext, -⟩ := hs.registers_inv
      rw [hp, Option.some_inj] at hpm
      rw [hpm, hnext]
      exact Nat.lt_succ_self _
    · cases hp.symm.trans hnone
  renewal r' p hp := by
    refine Nat.lt_of_lt_of_le ?_ hs.next_le
    by_cases hr : r' = r
    · subst hr
      obtain ⟨pc, hreads, rfl⟩ | hno := hs.renewal_cases
      · rw [setPc_requests_self] at hp
        exact h.managed _ p (hreads.renewal_new hp)
      · rw [hp] at hno
        cases hno
    · rw [hs.requests_of_ne hr] at hp
      exact h.renewal r' p hp
  sampled r' p version hp := by
    have hold : p < s.next ∧ version ≤ (s.obj p).sessionVersion := by
      by_cases hr : r' = r
      · subst hr
        obtain ⟨pc, hreads, rfl⟩ | hno := hs.renewal_cases
        · rw [setPc_requests_self] at hp
          obtain hp | ⟨hr, rfl⟩ := hreads.sampled_new hp
          · exact h.sampled r' p version hp
          · exact ⟨h.renewal r' p hr, Nat.le_refl _⟩
        · rw [Pc.isRenewal_of_sampled hp] at hno
          cases hno
      · rw [hs.requests_of_ne hr] at hp
        exact h.sampled r' p version hp
    exact ⟨hold.1.trans_le hs.next_le, hold.2.trans ((hs.change p).sessionVersion_le hold.1.ne)⟩
  shutdown r' p hp := by
    rw [hs.closed_eq]
    refine And.imp_right (fun hlt => Nat.lt_of_lt_of_le hlt hs.next_le) ?_
    by_cases hr : r' = r
    · subst hr
      obtain hp | hmay := hs.inherits.logs p _ hp
      · exact h.shutdown r' p hp
      · exact absurd rfl hmay.1
    · rw [hs.requests_of_ne hr] at hp
      exact h.shutdown r' p hp
  persists r' p hp := by
    by_cases hr : r' = r
    · subst hr
      obtain ⟨hold, hobj⟩ := hs.persists hp
      rw [hobj]
      obtain hold | hkept := hold
      · exact h.persists r' p hold
      · exact hkept
    · rw [hs.requests_of_ne hr] at hp
      obtain hsame | ⟨rfl, -⟩ | ⟨-, hkept⟩ := (hs.change p).nodeBindingLost_eq (h.persists_lt hres hp).ne
      · rw [hsame]
        exact h.persists r' p hp
      · obtain ⟨t, hfree, ht, -⟩ := hs.loses_inv
        exact absurd hp (h.not_persists hres hfree ht r')
      · exact hkept

theorem lifeStep (h : s.Fenced) (hres : s.Resident) (hs : LifeStep g s l s') : s'.Fenced := by
  cases hs with
  | step hs =>
    cases hs with
    | request hs => exact h.requestStep hres hs
    | table hs => exact h.tableStep hs
  | closes => exact { h with shutdown := fun r p hp => ⟨rfl, (h.shutdown r p hp).2⟩ }
  | @cleans r p closed at_ managed =>
    constructor
    case managed => exact h.managed
    case renewal => exact forall_setPc (P := fun _ pc => ∀ p, pc = .renewal p → p < s.next) nofun fun r _ => h.renewal r
    case sampled =>
      exact forall_setPc (P := fun _ pc => ∀ p version, pc.sampled = some (p, version) →
        p < s.next ∧ version ≤ (s.obj p).sessionVersion) nofun fun r _ => h.sampled r
    case shutdown =>
      apply forall_setPc (P := fun _ pc => ∀ p, pc.logs = some (p, .shutdown) → s.closed = true ∧ p < s.next)
      · intro q hq
        cases hq
        exact ⟨closed, h.managed _ p managed⟩
      · exact fun r _ => h.shutdown r
    case persists =>
      exact forall_setPc (P := fun _ pc => ∀ p, pc.persists = some p → (s.obj p).nodeBindingLost = false)
        nofun fun r _ => h.persists r

end State.Fenced

theorem RequestStep.not_returned {o : Outcome U T K} (hs : RequestStep g s r a s') :
    s.requests r ≠ .returned o := by
  intro hr
  cases hs with
  | reads hreads =>
    rw [hr] at hreads
    cases hreads
  | _ => simp_all

theorem RequestStep.outrun (hs : RequestStep g s r a s') (hp : (s.requests r).sampled = some (p, version))
    (hlt : version < (s.obj p).sessionVersion) :
    ∃ pc, s' = s.setPc r pc ∧ (pc.sampled = some (p, version) ∨ ∃ o, pc = .returned o) := by
  cases hs with
  | reads hreads => exact ⟨_, rfl, hreads.sampled_cases hp⟩
  | loses at_ _ _ _ loses =>
    rw [at_] at hp
    cases hp
    exact absurd loses.1 hlt.ne'
  | _ => simp_all [Pc.sampled]

def Outrun (r p version : Nat) (s : State U T K n) : Prop :=
  p < s.next ∧ version < (s.obj p).sessionVersion ∧
    ((s.requests r).sampled = some (p, version) ∨ ∃ o, s.requests r = .returned o)

theorem Outrun.requestStep (h : Outrun r p version s) (hs : RequestStep g s r' a s') :
    Outrun r p version s' ∧ (r' = r → Untouched s s' p) := by
  obtain ⟨hlt, hver, hr⟩ := h
  have hnext := hlt.trans_le hs.next_le
  have hver' := hver.trans_le ((hs.change p).sessionVersion_le hlt.ne)
  by_cases hrr : r = r'
  · subst hrr
    obtain hsamp | ⟨o, ho⟩ := hr
    · obtain ⟨pc, rfl, hpc⟩ := hs.outrun hsamp hver
      refine ⟨⟨hnext, hver', ?_⟩, fun _ => .setPc ..⟩
      rw [setPc_requests_self]
      exact hpc
    · exact absurd ho hs.not_returned
  · refine ⟨⟨hnext, hver', ?_⟩, fun hrr' => absurd hrr'.symm hrr⟩
    rw [hs.requests_of_ne hrr]
    exact hr

theorem Outrun.lifeStep (h : Outrun r p version s) (hs : LifeStep g s l s') :
    Outrun r p version s' ∧ (l.request = some r → Untouched s s' p) := by
  cases hs with
  | step hs =>
    cases hs with
    | request hs => exact (h.requestStep hs).imp_right fun hun hr => hun (Option.some_inj.mp hr)
    | table hs =>
      refine ⟨?_, nofun⟩
      unfold Outrun
      rw [hs.next_eq, (hs.keeps p).sessionVersion, hs.requests_eq]
      exact h
  | closes => exact ⟨h, nofun⟩
  | @cleans r' q closed at_ =>
    have hr : r ≠ r' := by
      rintro rfl
      obtain hsamp | ⟨o, ho⟩ := h.2.2
      · rw [at_] at hsamp
        cases hsamp
      · cases at_.symm.trans ho
    refine ⟨⟨h.1, h.2.1, ?_⟩, fun hr' => absurd (Option.some_inj.mp hr').symm hr⟩
    rw [setPc_requests_of_ne _ _ hr]
    exact h.2.2

theorem LifeStep.nodeBindingLost (hs : LifeStep g s l s') (hp : p < s.next) (hl : l.act ≠ .confirms p)
    (hlost : (s.obj p).nodeBindingLost = true) : p < s'.next ∧ (s'.obj p).nodeBindingLost = true := by
  cases hs with
  | step hs =>
    cases hs with
    | request hs =>
      refine ⟨hp.trans_le hs.next_le, ?_⟩
      obtain hsame | ⟨-, hlost'⟩ | ⟨rfl, -⟩ := (hs.change p).nodeBindingLost_eq hp.ne
      · rw [hsame]
        exact hlost
      · exact hlost'
      · exact absurd rfl hl
    | table hs =>
      rw [hs.next_eq, (hs.keeps p).nodeBindingLost]
      exact ⟨hp, hlost⟩
  | closes | cleans => exact ⟨hp, hlost⟩

def CarefulLife (g : Game) (s : State U T K n) (l : Label U T K) (s' : State U T K n) : Prop :=
  LifeStep g s l s' ∧ Careful g s l

theorem resident_fenced (h : Reachable Initial (CarefulLife g) s) : s.Resident ∧ s.Fenced := by
  apply h.invariant
  · rintro s ⟨uid, rfl⟩
    exact ⟨resident_new uid, nofun, nofun, nofun, nofun, nofun⟩
  · rintro s l s' ⟨hstep, hcare⟩ ⟨hres, hfenced⟩
    exact ⟨hres.lifeStep hcare hstep, hfenced.lifeStep hres hstep⟩

theorem LifeStep.not_persists (hs : LifeStep g s l s') (hfenced : s.Fenced)
    (hlost : (s.obj p).nodeBindingLost = true) : l.act ≠ .saves p ∧ l.act ≠ .unbinds p := by
  have hno : ∀ r, (s.requests r).persists ≠ some p := by
    intro r hr
    rw [hfenced.persists r p hr] at hlost
    cases hlost
  cases hs with
  | step hs =>
    cases hs with
    | @request _ r a hs =>
      refine ⟨?_, ?_⟩ <;> rintro rfl <;> cases hs <;> exact hno r (by simp_all [Pc.persists])
    | table => exact ⟨nofun, nofun⟩
  | closes | cleans => exact ⟨nofun, nofun⟩

/-- The fence around a lost node binding, for both games. -/
theorem node_binding_fence (h : Reachable Initial (CarefulLife g) s) :
    (∀ r p version k r' s₁ ls s₂ l s₃, (s.requests r).sampled = some (p, version) →
      CarefulLife g s ⟨some r', .reconnects p k⟩ s₁ → Run (CarefulLife g) s₁ ls s₂ →
      CarefulLife g s₂ l s₃ → l.request = some r → Untouched s₂ s₃ p) ∧
    ∀ p r s₁ ls s₂, CarefulLife g s ⟨some r, .loses p⟩ s₁ → Run (CarefulLife g) s₁ ls s₂ →
      (∀ l ∈ ls, l.act ≠ .confirms p) → ∀ l ∈ ls, l.act ≠ .saves p ∧ l.act ≠ .unbinds p := by
  obtain ⟨hres, hfenced⟩ := resident_fenced h
  constructor
  · rintro r p version k r' s₁ ls s₂ l s₃ hsamp ⟨⟨⟨hs⟩⟩, -⟩ hrun hlast hl
    obtain ⟨hlt, hle⟩ := hfenced.sampled r p version hsamp
    obtain ⟨hno, hgrows⟩ := hs.reconnects_version
    have hr : r ≠ r' := by
      rintro rfl
      cases hno.symm.trans hsamp
    have houtrun : Outrun r p version s₁ := by
      refine ⟨hlt.trans_le hs.next_le, hle.trans_lt hgrows, .inl ?_⟩
      rw [hs.requests_of_ne hr]
      exact hsamp
    have hend := hrun.preserves (P := Outrun r p version) (fun s l s' _ hs h => (h.lifeStep hs.1).1) houtrun
    exact (hend.lifeStep hlast.1).2 hl
  · rintro p r s₁ ls s₂ hloses hrun hls l hl
    obtain ⟨pre, post, rfl⟩ := List.append_of_mem hl
    obtain ⟨s₃, s₄, hpre, hstep, -⟩ := hrun.split
    have hrch := (h.next hloses).run hpre
    obtain ⟨⟨⟨hs⟩⟩, -⟩ := hloses
    obtain ⟨t, -, ht, -⟩ := hs.loses_inv
    have hlt := hres.lt_next (p := p) (by rw [ht]; nofun)
    have hlost := hpre.preserves (P := fun s => p < s.next ∧ (s.obj p).nodeBindingLost = true)
      (fun s l s' hl hs hlost => hs.1.nodeBindingLost hlost.1 (hls l (List.mem_append_left _ hl)) hlost.2)
      ⟨hlt.trans_le hs.next_le, hs.loses_lost⟩
    exact hstep.1.not_persists (resident_fenced hrch).2 hlost.2

/-- User 7 has logged in, and its node is being renewed. -/
theorem node_binding_fence_renewing : ∃ s : State Nat Unit Nat 2, (s.requests 1).sampled = some (0, 0) ∧
    ∀ k r' s₁ ls s₂ l s₃, CarefulLife .ludo s ⟨some r', .reconnects 0 k⟩ s₁ →
      Run (CarefulLife .ludo) s₁ ls s₂ → CarefulLife .ludo s₂ l s₃ → l.request = some 1 →
      Untouched s₂ s₃ 0 := by
  have h₁ := (calm_new (CarefulStep .ludo) 0).loggedIn (t := ()) (c := (0 : Fin 2)) rfl rfl rfl
    (firstFree_zero rfl rfl)
  have h₂ := h₁.readsCarefully 1 (.renewal 0) (.startRenewal rfl) rfl
  have h₃ := h₂.readsCarefully 1 (.renewing 0 0) (.sampled rfl rfl) rfl
  have h₄ : Reachable Initial (CarefulLife .ludo) _ := h₃.reachable.mono fun _ _ _ hs => ⟨.step hs.1, hs.2⟩
  exact ⟨_, rfl, fun k r' s₁ ls s₂ l s₃ => (node_binding_fence h₄).1 1 0 0 k r' s₁ ls s₂ l s₃ rfl⟩

/-- While user 7 is between two tables of Ludo, a second `Login` finds it pending; when it looks again the
player sits at the new table, so that it takes the player off the server.  Past the check of
`persistAndUnbindPlayer` the renewal loop finds that the binding is lost, and then the player is saved. -/
theorem ludo_saves_lost_player : ∃ s s₁ s₂ : State Nat Bool Nat 1, Reachable Initial (LifeStep .ludo) s ∧
    LifeStep .ludo s ⟨some 3, .loses 0⟩ s₁ ∧ LifeStep .ludo s₁ ⟨some 2, .saves 0⟩ s₂ := by
  have h₁ := ((calm_new (CarefulStep .ludo) 0).loggedIn (t := false) (c := (0 : Fin 1)) rfl rfl rfl
    (firstFree_zero rfl rfl)).careless
  -- `SwitchTable` takes the player from its table.
  have h₂ := h₁.reads 1 (.switchTable 7) .startSwitch rfl
  have h₃ := h₂.reads 1 (.callPlayer 0 (.switchTable false)) (.switchCalls rfl rfl) rfl
  have h₄ := h₃.reads 1 (.call 0 false (.switchTable false)) (.calls nofun rfl) rfl
  have h₅ := h₄.next 1 (.seeking 0 (.migrate false))
    (.request (.switches rfl (h₄.free rfl) ⟨rfl, 0, rfl, rfl⟩ rfl rfl)) rfl rfl
  -- A `Login` finds it pending.
  have h₆ := h₅.reads 2 (.login 7 2 true) .startLogin rfl
  have h₇ := h₆.reads 2 (.found 7 2 0) (.loginPresent rfl) rfl
  have h₈ := h₇.reads 2 (.second 7 2 0) (.foundElsewhere nofun) rfl
  -- The player sits down at the other table.
  have h₉ := h₈.through 1 (.returned (.switchOk 0))
    (.request (.seats (r := 1) (t := true) (c := 0) rfl nofun (h₈.free rfl) (firstFree_zero rfl rfl) nofun))
    (.request (.reads (.seatSucceeds (.inl rfl)))) rfl rfl
  have h₁₀ := h₉.next 2 (.claiming 7 2 0) (.request (.looksAgain rfl rfl)) rfl rfl
  have h₁₁ := h₁₀.next 2 (.logoutGame 0 .check (.login 7 2)) (.request (.claims rfl rfl)) rfl rfl
  have h₁₂ := h₁₁.reads 2 (.logoutGame 0 .save (.login 7 2)) (.persistBegins rfl) rfl
  -- The renewal loop samples the binding.
  have h₁₃ := h₁₂.reads 3 (.renewal 0) (.startRenewal rfl) rfl
  have h₁₄ := h₁₃.reads 3 (.renewing 0 0) (.sampled rfl rfl) rfl
  have h₁₅ := h₁₄.reads 3 (.callPlayer 0 (.lose 0 true)) .aborted rfl
  have h₁₆ := h₁₅.reads 3 (.call 0 true (.lose 0 true)) (.calls nofun rfl) rfl
  have hloses : Step .ludo _ ⟨some 3, .loses 0⟩ _ := .request (.loses rfl (h₁₆.free rfl) ⟨rfl, 0, rfl, rfl⟩
    rfl ⟨rfl, rfl⟩ (.refuses rfl (.inl rfl)))
  exact ⟨_, _, State.setPc _ 2 (.logoutGame 0 (.session true) (.login 7 2)),
    h₁₆.reachable.mono fun _ _ _ hs => .step hs, .step hloses, .step (.request (.saves rfl))⟩

end Yola.Room
