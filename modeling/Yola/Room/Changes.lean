import Yola.Room.System

/-!
# What a step of a request changes

A request changes its own program counter, at most one player, and at most one entry of the manager.
-/

namespace Yola.Room

open State

variable {U T K : Type} {n : Nat} {g : Game} {s s' : State U T K n} {r r' p q : Nat} {t : T} {c : Fin n}
  {a : Act U T K} {caller : Caller U T K} {pc : Pc U T K}

inductive Change (g : Game) (s : State U T K n) (r : Nat) (a : Act U T K) (p : Nat) :
    Player U T K n → Prop where
  | keeps : Change g s r a p (s.obj p)
  | registers {uid : U} {k : K} (act : a = .registers p uid k) (next : p = s.next) :
      Change g s r a p (.new uid (some k))
  /-- `exiting` is set or taken back for a player whom the request takes off the server. -/
  | claims {exiting : Bool} : Change g s r a p ((s.obj p).setExiting exiting)
  | marks : Change g s r a p ((s.obj p).setOffline true)
  /-- `enterRoom` ends. -/
  | forgets (at_ : s.requests r = .binding p ∨ s.requests r = .leavingRoom p ∨ s.requests r = .unbindingRoom p) :
      Change g s r a p ((s.obj p).updateSession g none)
  | finalizes {caller : Caller U T K} (at_ : s.requests r = .logoutGame p (.finish true) caller) :
      Change g s r a p ((s.obj p).logoutGame g)
  | sits {f : Seating T} {t : T} {c : Fin n} (at_ : s.requests r = .seeking p f) :
      Change g s r a p ((s.obj p).sit g t c)
  | switches {t : T} (act : a = .switches p) (free : s.Free t) (located : s.Located p t) :
      Change g s r a p ((s.obj p).exitReset .pending)
  | exits : Change g s r a p (((s.obj p).exitReset .detached).setExiting true)
  | detaches : Change g s r a p ((s.obj p).setTableID .detached)
  | reconnects {t : T} {k : K} (act : a = .reconnects p k) (free : s.Free t) (located : s.Located p t) :
      Change g s r a p ((s.obj p).reconnect g k)
  | confirms (act : a = .confirms p) : Change g s r a p (s.obj p).confirmNodeBinding
  | reverts {t t' : T} {session : Option K} {offline : Bool} (ludo : g = .ludo)
      (at_ : s.requests r = .reverting p t session offline) (table : (s.obj p).tableID = .table t') :
      Change g s r a p (((s.obj p).updateSession g session).setOffline offline)
  | loses (act : a = .loses p) : Change g s r a p (s.obj p).loseNodeBinding
  | losesExits (act : a = .loses p) :
      Change g s r a p (((s.obj p).loseNodeBinding.exitReset .detached).setExiting true)

namespace Change

variable {x : Player U T K n}

theorem uid_eq (h : Change g s r a p x) (hp : p ≠ s.next) : x.uid = (s.obj p).uid := by
  cases h with
  | registers _ next => exact absurd next hp
  | finalizes | reconnects => cases g <;> rfl
  | _ => rfl

/-- Only `Seat` brings a player to a table. -/
theorem table_cases (h : Change g s r a p x) (ht : x.tableID = .table t) :
    (s.obj p).tableID = .table t ∨ ∃ f, s.requests r = .seeking p f := by
  cases h with
  | sits at_ => exact .inr ⟨_, at_⟩
  | finalizes | reconnects => cases g <;> exact .inl ht
  | registers | switches | exits | detaches | losesExits => cases ht
  | _ => exact .inl ht

/-- A pending player with a session has just been created or left its table, or was so before. -/
theorem pending_cases {k : K} (h : Change g s r a p x) (ht : x.tableID = .pending) (hk : x.session = some k) :
    (∃ uid k, a = .registers p uid k) ∨ a = .switches p ∨
      (s.obj p).tableID = .pending ∧ (s.obj p).session = some k := by
  cases h with
  | registers act => exact .inl ⟨_, _, act⟩
  | switches act => exact .inr (.inl act)
  | keeps | claims | marks | confirms => exact .inr (.inr ⟨ht, hk⟩)
  | finalizes =>
    cases g with
    | ludo => exact .inr (.inr ⟨ht, hk⟩)
    | whot => cases hk
  | reconnects _ _ located => cases g <;> cases ht.symm.trans located.1
  | reverts _ _ table => cases ht.symm.trans table
  | forgets | loses => cases hk
  | sits | exits | detaches | losesExits => cases ht

end Change

def Pc.seeks : Pc U T K → Option Nat
  | .binding p | .seeking p _ => some p
  | _ => none

def Pc.logs : Pc U T K → Option (Nat × Caller U T K)
  | .logoutGame p _ caller | .cancelling p caller => some (p, caller)
  | _ => none

section Pcs

variable {f : Seating T} {b : Action U T K} {pc₀ : Pc U T K}

def Pc.Plain (pc : Pc U T K) : Prop := pc.seeks = none ∧ pc.logs = none

theorem Seating.plain_fails : (f.fails p : Pc U T K).Plain := by cases f <;> exact ⟨rfl, rfl⟩

theorem Seating.plain_succeeds : (f.succeeds p : Pc U T K).Plain := by
  cases f with
  | restore old failed => cases failed <;> exact ⟨rfl, rfl⟩
  | _ => exact ⟨rfl, rfl⟩

theorem Action.plain_ends : (b.ends p).Plain := by cases b <;> exact ⟨rfl, rfl⟩

theorem Action.plain_notFound : (b.notFound p).Plain := by cases b <;> exact ⟨rfl, rfl⟩

theorem Action.plain_missed : (b.missed p).Plain := by cases b <;> exact ⟨rfl, rfl⟩

theorem Action.plain_changed : (b.changed g p).Plain := by
  cases b with
  | disconnect uid k again => cases g <;> cases again <;> exact ⟨rfl, rfl⟩
  | lose version again => cases again <;> exact ⟨rfl, rfl⟩
  | _ => exact ⟨rfl, rfl⟩

theorem Caller.plain_succeeds : (caller.succeeds p).Plain := by
  cases caller with
  | exit => exact Action.plain_ends
  | seat => exact Seating.plain_fails
  | _ => exact ⟨rfl, rfl⟩

/-- What the request at `pc` does of both it has done at `pc₀` before. -/
def Pc.Inherits (pc₀ pc : Pc U T K) : Prop :=
  (∀ p, pc.seeks = some p → pc₀.seeks = some p) ∧ ∀ x, pc.logs = some x → pc₀.logs = some x

theorem Pc.Plain.inherits (h : pc.Plain) : pc₀.Inherits pc := by
  unfold Pc.Inherits
  rw [h.1, h.2]
  exact ⟨nofun, nofun⟩

theorem Caller.inherits_fails {at_ : Persist K} : (Pc.logoutGame p at_ caller).Inherits (caller.fails p) := by
  cases caller with
  | exit | seat => exact ⟨nofun, fun _ h => h⟩
  | _ => exact ⟨nofun, nofun⟩

theorem Reads.inherits (h : Reads g s pc₀ pc) : pc₀.Inherits pc := by
  cases h with
  | bound => exact ⟨fun _ hp => hp, nofun⟩
  | @givesUp p f =>
    cases f with
    | migrate => exact ⟨fun _ hp => hp, nofun⟩
    | _ => exact ⟨nofun, nofun⟩
  | seatSucceeds => exact Seating.plain_succeeds.inherits
  | notFound => exact Action.plain_notFound.inherits
  | missed => exact Action.plain_missed.inherits
  | routeChanged => exact Action.plain_changed.inherits
  | persistLost | persistBegins | persistNoSession | persistSession | persistExpired =>
    exact ⟨nofun, fun _ h => h⟩
  | _ => exact Pc.Plain.inherits ⟨rfl, rfl⟩

end Pcs

/-- `LogoutGame` may be called for the player in a running server; an exit of `Disconnect` is for the
player's connection. -/
def Caller.MayLog (x : Player U T K n) (caller : Caller U T K) : Prop :=
  caller ≠ .shutdown ∧ ∀ t uid k again, caller = .exit t (.disconnect uid k again) → x.session = some k

/-- What a table changes of a player by itself is whether it is in the game and, in Whot, offline. -/
structure Player.Keeps (x y : Player U T K n) : Prop where
  uid : y.uid = x.uid
  tableID : y.tableID = x.tableID
  session : y.session = x.session
  sessionVersion : y.sessionVersion = x.sessionVersion
  nodeBindingLost : y.nodeBindingLost = x.nodeBindingLost
  isOffline : x.isOffline = true → y.isOffline = true

section Offline

variable [DecidableEq T]

namespace TableStep

variable (h : TableStep g s s')

include h

theorem keeps (p : Nat) : (s.obj p).Keeps (s'.obj p) := by
  have hsame : (s.obj p).Keeps (s.obj p) := ⟨rfl, rfl, rfl, rfl, rfl, id⟩
  cases h with
  | plays => exact ⟨rfl, rfl, rfl, rfl, rfl, id⟩
  | @marks q =>
    by_cases hp : p = q
    · subst hp
      rw [setPlayer_obj_self]
      exact ⟨rfl, rfl, rfl, rfl, rfl, fun _ => rfl⟩
    · rw [setPlayer_obj_of_ne _ _ hp]
      exact hsame
  | _ => exact hsame

theorem requests_eq : s'.requests = s.requests := by cases h <;> rfl

theorem pm_eq : s'.pm = s.pm := by cases h <;> rfl

theorem next_eq : s'.next = s.next := by cases h <;> rfl

theorem closed_eq : s'.closed = s.closed := by cases h <;> rfl

end TableStep

variable (h : Offline g s r p t caller pc s')

include h

theorem Offline.requests_of_ne (hr : r' ≠ r) : s'.requests r' = s.requests r' := by
  cases h <;> exact setPc_requests_of_ne _ _ hr

theorem Offline.forall_obj {P : Nat → Player U T K n → Prop}
    (hkeeps : ∀ q, P q (s.obj q)) (hmarks : P p ((s.obj p).setOffline true))
    (hexits : P p (((s.obj p).exitReset .detached).setExiting true)) : ∀ q, P q (s'.obj q) := by
  cases h with
  | marks => exact forall_setPlayer hmarks fun q _ => hkeeps q
  | @exits c => exact forall_setPlayer (s := s.setChair t c none (-1)) hexits fun q _ => hkeeps q
  | refuses => exact hkeeps

theorem Offline.logs_cases {x : Nat × Caller U T K} (hpc : pc.Plain)
    (hx : (s'.requests r).logs = some x) : x = (p, caller) := by
  cases h with
  | exits =>
    rw [setPc_requests_self] at hx
    exact (Option.some_inj.mp hx).symm
  | marks | refuses =>
    rw [setPc_requests_self, hpc.2] at hx
    cases hx

theorem Offline.seeks_eq (hpc : pc.Plain) : (s'.requests r).seeks = none := by
  cases h with
  | exits =>
    rw [setPc_requests_self]
    rfl
  | marks | refuses =>
    rw [setPc_requests_self]
    exact hpc.1

theorem Offline.pm_eq : s'.pm = s.pm := by cases h <;> rfl

theorem Offline.next_eq : s'.next = s.next := by cases h <;> rfl

theorem Offline.closed_eq : s'.closed = s.closed := by cases h <;> rfl

end Offline

/-- A request begins to look for a chair with a new player, or with one that it takes from a table; it
enters `LogoutGame` for a player whom it may take off the server. -/
structure Begins (s : State U T K n) (r : Nat) (a : Act U T K) (s' : State U T K n) : Prop where
  seeks : ∀ p, (s'.requests r).seeks = some p →
    (s.requests r).seeks = some p ∨ a = .switches p ∨ ∃ uid k, a = .registers p uid k
  logs : ∀ p caller, (s'.requests r).logs = some (p, caller) →
    (s.requests r).logs = some (p, caller) ∨ caller.MayLog (s'.obj p)

theorem Begins.of_inherits (h : (s.requests r).Inherits (s'.requests r)) : Begins s r a s' :=
  ⟨fun p hp => .inl (h.1 p hp), fun _ _ hlogs => .inl (h.2 _ hlogs)⟩

theorem Begins.of_logs (hpc : s'.requests r = pc) (hseeks : pc.seeks = none)
    (hlogs : ∀ x, pc.logs = some x → x = (p, caller)) (hmay : caller.MayLog (s'.obj p)) : Begins s r a s' := by
  subst hpc
  refine ⟨by rw [hseeks]; exact nofun, fun q caller' hx => .inr ?_⟩
  obtain ⟨rfl, rfl⟩ := Prod.mk.injEq .. ▸ hlogs _ hx
  exact hmay

variable [DecidableEq U] [DecidableEq T]

namespace RequestStep

section

variable (h : RequestStep g s r a s')

include h

theorem frame : (∀ r' ≠ r, s'.requests r' = s.requests r') ∧ s'.closed = s.closed ∧ s.next ≤ s'.next := by
  cases h with
  | seatPushFails _ _ _ _ ho | seatFindsOffline _ _ _ _ ho | drops _ _ _ _ ho | pushFails _ _ _ _ _ ho
  | reenterPushFails _ _ _ _ ho | loses _ _ _ _ _ ho =>
    exact ⟨fun _ => ho.requests_of_ne, ho.closed_eq, Nat.le_of_eq ho.next_eq.symm⟩
  | registers => exact ⟨fun _ => setPc_requests_of_ne _ _, rfl, Nat.le_succ _⟩
  | _ => exact ⟨fun _ => setPc_requests_of_ne _ _, rfl, Nat.le_refl _⟩

theorem requests_of_ne (hr : r' ≠ r) : s'.requests r' = s.requests r' := h.frame.1 r' hr

theorem closed_eq : s'.closed = s.closed := h.frame.2.1

theorem next_le : s.next ≤ s'.next := h.frame.2.2

theorem change : ∀ p, Change g s r a p (s'.obj p) := by
  cases h with
  | claims | cancels | cancelsAgain | recovers => exact forall_setPlayer .claims fun _ _ => .keeps
  | @registers uid k => exact forall_register (.registers rfl rfl) fun _ _ => .keeps
  | @bindFails p at_ => exact forall_setPlayer (s := s.removeIfSame p) (.forgets (.inl at_)) fun _ _ => .keeps
  | leavesUnmanaged at_ => exact forall_setPlayer (.forgets (.inr (.inl at_))) fun _ _ => .keeps
  | @forgets p at_ =>
    exact forall_setPlayer (s := s.removeIfSame p) (.forgets (.inr (.inr at_))) fun _ _ => .keeps
  | @seats p f t c at_ => exact forall_seat (r := r) (.sits at_) fun _ _ => .keeps
  | seatPushFails _ _ _ _ ho | seatFindsOffline _ _ _ _ ho | drops _ _ _ _ ho | pushFails _ _ _ _ _ ho
  | reenterPushFails _ _ _ _ ho =>
    exact ho.forall_obj (fun _ => .keeps) .marks .exits
  | @switches p t old c at_ free located =>
    exact forall_setPlayer (s := s.setChair t c none (-1)) (.switches rfl free located) fun _ _ => .keeps
  | detaches => exact forall_setPlayer .detaches fun _ _ => .keeps
  | @exits p t c | @kicks p t c => exact forall_setPlayer (s := s.setChair t c none (-1)) .exits fun _ _ => .keeps
  | marks => exact forall_setPlayer .marks fun _ _ => .keeps
  | reconnects _ free located => exact forall_setPlayer (.reconnects rfl free located) fun _ _ => .keeps
  | confirms => exact forall_setPlayer (.confirms rfl) fun _ _ => .keeps
  | reverts at_ ludo table => exact forall_setPlayer (.reverts ludo at_ table) fun _ _ => .keeps
  | @loses p t version again s' at_ free located managed loses ho =>
    apply ho.forall_obj (P := fun q x => Change g s r (.loses p) q x)
    · exact forall_setPlayer (.loses rfl) fun _ _ => .keeps
    · rw [setPlayer_obj_self]
      exact .loses rfl
    · rw [setPlayer_obj_self]
      exact .losesExits rfl
  | @finalizes p caller at_ =>
    exact forall_setPlayer (s := s.removeIfSame p) (.finalizes at_) fun _ _ => .keeps
  | _ => exact fun _ => .keeps

theorem inherits : Begins s r a s' := by
  cases h with
  | reads hreads =>
    apply Begins.of_inherits
    rw [setPc_requests_self]
    exact hreads.inherits
  | @registers uid k at_ absent =>
    constructor <;> rw [setPc_requests_self]
    · exact fun p hp => .inr (.inr ⟨uid, k, by rw [← Option.some_inj.mp hp]⟩)
    · exact nofun
  | @switches p =>
    constructor <;> rw [setPc_requests_self]
    · exact fun q hq => .inr (.inl (by rw [← Option.some_inj.mp hq]))
    · exact nofun
  | claims | recovers | exits | kicks =>
    exact Begins.of_logs (setPc_requests_self ..) rfl (fun _ hx => (Option.some_inj.mp hx).symm) ⟨nofun, nofun⟩
  | seatPushFails _ _ _ _ ho | seatFindsOffline _ _ _ _ ho =>
    exact Begins.of_logs rfl (ho.seeks_eq Seating.plain_fails) (fun _ => ho.logs_cases Seating.plain_fails)
      ⟨nofun, nofun⟩
  | @drops p uid k again t _ at_ free located session ho =>
    refine Begins.of_logs rfl (ho.seeks_eq ⟨rfl, rfl⟩) (fun _ => ho.logs_cases ⟨rfl, rfl⟩) ⟨nofun, ?_⟩
    rintro _ _ _ _ ⟨⟩
    exact ho.forall_obj (P := fun q x => q = p → x.session = some k) (fun q hq => hq ▸ session)
      (fun _ => session) (fun _ => session) _ rfl
  | pushFails _ _ _ _ _ ho | reenterPushFails _ _ _ _ ho | loses _ _ _ _ _ ho =>
    exact Begins.of_logs rfl (ho.seeks_eq ⟨rfl, rfl⟩) (fun _ => ho.logs_cases ⟨rfl, rfl⟩) ⟨nofun, nofun⟩
  | saves at_ | unbinds at_ =>
    apply Begins.of_inherits
    rw [setPc_requests_self, at_]
    exact ⟨nofun, fun _ h => h⟩
  | finalizes | cancelsAgain =>
    apply Begins.of_inherits
    rw [setPc_requests_self]
    exact Caller.plain_succeeds.inherits
  | cancels at_ =>
    apply Begins.of_inherits
    rw [setPc_requests_self, at_]
    exact Caller.inherits_fails
  | _ =>
    apply Begins.of_inherits
    rw [setPc_requests_self]
    exact Pc.Plain.inherits ⟨rfl, rfl⟩

end

theorem registers_inv {uid : U} {k : K} (h : RequestStep g s r (.registers p uid k) s') :
    p = s.next ∧ s.pm uid = none ∧ s'.pm uid = some p ∧ s'.next = s.next + 1 ∧
      s'.obj p = .new uid (some k) := by
  cases h with
  | registers at_ absent =>
    exact ⟨rfl, absent, Function.update_self .., rfl, register_obj_next uid k⟩

theorem reconnects_inv {k : K} (h : RequestStep g s r (.reconnects p k) s') :
    ∃ t, s.Free t ∧ s.Located p t := by
  cases h with
  | @reconnects p uid k t _ free located => exact ⟨t, free, located⟩

theorem switches_inv (h : RequestStep g s r (.switches p) s') : ∃ t, s.Free t ∧ s.Located p t := by
  cases h with
  | @switches p t _ _ _ free located => exact ⟨t, free, located⟩

/-- A user's entry of the manager changes only if a request adds the player that it has created or removes
the one that it takes off the server. -/
theorem pm_cases (h : RequestStep g s r a s') (u : U) : s'.pm u = s.pm u ∨ (∃ k, a = .registers s.next u k) ∨
    ∃ p, s.pm u = some p ∧ s'.pm u = none ∧ (s'.requests r).seeks = none ∧
      ((s.requests r = .binding p ∨ s.requests r = .unbindingRoom p) ∧ (s'.obj p).session = none ∨
        ∃ caller, s.requests r = .logoutGame p (.finish true) caller) := by
  cases h with
  | seatPushFails _ _ _ _ ho | seatFindsOffline _ _ _ _ ho | drops _ _ _ _ ho | pushFails _ _ _ _ _ ho
  | reenterPushFails _ _ _ _ ho | loses _ _ _ _ _ ho =>
    exact .inl (congrFun ho.pm_eq u)
  | @registers uid k at_ absent =>
    by_cases hu : u = uid
    · subst hu
      exact .inr (.inl ⟨k, rfl⟩)
    · exact .inl (Function.update_of_ne hu ..)
  | @bindFails p at_ | @forgets p at_ =>
    obtain hsame | ⟨hpm, hnone⟩ := s.removeIfSame_pm p u
    · exact .inl hsame
    · refine .inr (.inr ⟨p, hpm, hnone, ?_, .inl ⟨by simp [at_], ?_⟩⟩)
      · rw [setPc_requests_self]
        rfl
      · rw [setPc_obj, State.forget, setPlayer_obj_self]
        rfl
  | @finalizes p caller at_ =>
    obtain hsame | ⟨hpm, hnone⟩ := s.removeIfSame_pm p u
    · exact .inl hsame
    · refine .inr (.inr ⟨p, hpm, hnone, ?_, .inr ⟨caller, at_⟩⟩)
      rw [setPc_requests_self]
      exact Caller.plain_succeeds.1
  | _ => exact .inl rfl

end RequestStep

end Yola.Room
