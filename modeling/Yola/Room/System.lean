import Yola.Reasoning.Runs
import Yola.Room.Request

/-!
# The steps of a game server

What the requests of Ludo and Whot do, and what the tables do of themselves.  A job of a table mailbox
runs when no other job of the table does, and a call of it that returns an error has not run it; input and
output may fail at any time.

The games differ in what a push to a client that is gone leads to: in Ludo `Offline` is called at once,
and `Seat` and `ReEnter` fail if the client is the one they are about; in Whot the player is marked and
cleaned up by a later job, which is one of the exits that a table may begin at any time.
-/

namespace Yola.Room

open Function

inductive Occupant where
  | robot
  | player (p : Nat)
deriving DecidableEq

variable {U T K : Type} {n : Nat}

/-- Player objects and requests are numbered; the objects from `next` on are not yet created.
`seatedBy` is the request that gave a player its chair. -/
structure State (U T K : Type) (n : Nat) where
  obj : Nat → Player U T K n
  next : Nat
  pm : U → Option Nat
  seats : T → Fin n → Option Occupant
  seatCount : T → Int
  stage : T → Stage
  seatedBy : Nat → Option Nat
  requests : Nat → Pc U T K
  /-- The mailboxes of the tables are closed. -/
  closed : Bool

namespace State

def new (uid : U) : State U T K n where
  obj _ := .new uid none
  next := 0
  pm _ := none
  seats _ _ := none
  seatCount _ := 0
  stage _ := .wait
  seatedBy _ := none
  requests _ := .idle
  closed := false

variable (s : State U T K n)

def setPc (r : Nat) (pc : Pc U T K) : State U T K n := { s with requests := update s.requests r pc }

def setPlayer (p : Nat) (x : Player U T K n) : State U T K n := { s with obj := update s.obj p x }

section

variable (r : Nat) (pc : Pc U T K) (p : Nat) (x : Player U T K n)

@[simp] theorem setPc_obj : (s.setPc r pc).obj = s.obj := rfl
@[simp] theorem setPc_seats : (s.setPc r pc).seats = s.seats := rfl
@[simp] theorem setPc_seatedBy : (s.setPc r pc).seatedBy = s.seatedBy := rfl
@[simp] theorem setPc_requests_self : (s.setPc r pc).requests r = pc := update_self ..

@[simp] theorem setPlayer_obj_self : (s.setPlayer p x).obj p = x := update_self ..

variable {r p} {r' p' : Nat}

theorem setPc_requests_of_ne (h : r' ≠ r) : (s.setPc r pc).requests r' = s.requests r' :=
  update_of_ne h ..

@[simp]
theorem setPc_setPc (pc' : Pc U T K) : (s.setPc r pc).setPc r pc' = s.setPc r pc' := by
  simp [setPc, update_idem]

theorem setPlayer_obj_of_ne (h : p' ≠ p) : (s.setPlayer p x).obj p' = s.obj p' := update_of_ne h ..

variable {s x} in
theorem forall_setPlayer {P : Nat → Player U T K n → Prop} (hx : P p x) (h : ∀ q, q ≠ p → P q (s.obj q)) :
    ∀ q, P q ((s.setPlayer p x).obj q) := by
  intro q
  by_cases hq : q = p
  · rw [hq, setPlayer_obj_self]
    exact hx
  · rw [setPlayer_obj_of_ne _ _ hq]
    exact h q hq

variable {s pc} in
theorem forall_setPc {P : Nat → Pc U T K → Prop} (hpc : P r pc) (h : ∀ r', r' ≠ r → P r' (s.requests r')) :
    ∀ r', P r' ((s.setPc r pc).requests r') := by
  intro r'
  by_cases hr : r' = r
  · rw [hr, setPc_requests_self]
    exact hpc
  · rw [setPc_requests_of_ne _ _ hr]
    exact h r' hr

end

def Free (t : T) : Prop := s.closed = false ∧ ∀ r, (s.requests r).job ≠ some t

/-- Chair `c` is the one that `Seat` takes. -/
def FirstFree (t : T) (c : Fin n) : Prop := s.seats t c = none ∧ ∀ c' < c, s.seats t c' ≠ none

theorem firstFree_zero {s : State U T K n} {t : T} {c : Fin n} (hc : s.seats t c = none) (h0 : c.val = 0) :
    s.FirstFree t c := by
  refine ⟨hc, fun c' hlt => ?_⟩
  rw [Fin.lt_def, h0] at hlt
  exact absurd hlt (Nat.not_lt_zero _)

/-- The check of `CallPlayer`. -/
def Located (p : Nat) (t : T) : Prop :=
  (s.obj p).tableID = .table t ∧ ∃ c, (s.obj p).chairID = some c ∧ s.seats t c = some (.player p)

section

variable [DecidableEq U]

def removeIfSame (p : Nat) : State U T K n :=
  { s with
    pm := update s.pm (s.obj p).uid
      (if s.pm (s.obj p).uid = some p then none else s.pm (s.obj p).uid) }

theorem removeIfSame_pm (p : Nat) (u : U) :
    (s.removeIfSame p).pm u = s.pm u ∨ s.pm u = some p ∧ (s.removeIfSame p).pm u = none := by
  unfold removeIfSame
  by_cases hu : u = (s.obj p).uid
  · subst hu
    by_cases hp : s.pm (s.obj p).uid = some p
    · exact .inr ⟨hp, by simp [hp]⟩
    · exact .inl (by simp [hp])
  · exact .inl (update_of_ne hu ..)

def register (uid : U) (k : K) : State U T K n :=
  { s with
    obj := update s.obj s.next (.new uid (some k))
    pm := update s.pm uid (some s.next)
    next := s.next + 1 }

section

variable {s} {p : Nat} (uid : U) (k : K)

@[simp]
theorem register_obj_next : (s.register uid k).obj s.next = .new uid (some k) := update_self ..

theorem register_obj_of_ne (h : p ≠ s.next) : (s.register uid k).obj p = s.obj p := update_of_ne h ..

variable {uid k} in
theorem forall_register {P : Nat → Player U T K n → Prop} (hnew : P s.next (.new uid (some k)))
    (h : ∀ p, p ≠ s.next → P p (s.obj p)) : ∀ p, P p ((s.register uid k).obj p) := by
  intro p
  by_cases hp : p = s.next
  · rw [hp, register_obj_next]
    exact hnew
  · rw [register_obj_of_ne _ _ hp]
    exact h p hp

end

/-- The end of `LogoutGame`, and of the shutdown for one player. -/
def finalize (g : Game) (p : Nat) : State U T K n := (s.removeIfSame p).setPlayer p ((s.obj p).logoutGame g)

/-- `enterRoom` gives the player up. -/
def forget (g : Game) (p : Nat) : State U T K n :=
  (s.removeIfSame p).setPlayer p ((s.obj p).updateSession g none)

end

section

variable [DecidableEq T]

def setChair (t : T) (c : Fin n) (o : Option Occupant) (count : Int) : State U T K n :=
  { s with
    seats := update s.seats t (update (s.seats t) c o)
    seatCount := update s.seatCount t (s.seatCount t + count) }

@[simp]
theorem setChair_seats (t t' : T) (c c' : Fin n) (o : Option Occupant) (count : Int) :
    (s.setChair t c o count).seats t' c' = if t' = t ∧ c' = c then o else s.seats t' c' := by
  unfold setChair
  by_cases ht : t' = t
  · subst ht
    by_cases hc : c' = c
    · simp [hc]
    · simp [hc]
  · simp [ht]

def seat (g : Game) (r p : Nat) (t : T) (c : Fin n) : State U T K n :=
  { (s.setChair t c (some (.player p)) 1).setPlayer p ((s.obj p).sit g t c) with
    seatedBy := update s.seatedBy p (some r) }

section

variable {s} {r p q : Nat} {t : T} {c : Fin n} (g : Game)

@[simp] theorem seat_obj_self : (s.seat g r p t c).obj p = (s.obj p).sit g t c := update_self ..
@[simp] theorem seat_seatedBy_self : (s.seat g r p t c).seatedBy p = some r := update_self ..

theorem seat_obj_of_ne (h : q ≠ p) : (s.seat g r p t c).obj q = s.obj q := update_of_ne h ..

theorem seat_seatedBy_of_ne (h : q ≠ p) : (s.seat g r p t c).seatedBy q = s.seatedBy q :=
  update_of_ne h ..

@[simp]
theorem seat_seats (t' : T) (c' : Fin n) :
    (s.seat g r p t c).seats t' c' = if t' = t ∧ c' = c then some (.player p) else s.seats t' c' :=
  setChair_seats s t t' c c' (some (.player p)) 1

variable {g} in
theorem forall_seat {P : Nat → Player U T K n → Prop} (hp : P p ((s.obj p).sit g t c))
    (h : ∀ q, q ≠ p → P q (s.obj q)) : ∀ q, P q ((s.seat g r p t c).obj q) :=
  forall_setPlayer (s := s.setChair t c (some (.player p)) 1) hp h

end

def removeForSwitch (p : Nat) (t : T) (c : Fin n) : State U T K n :=
  (s.setChair t c none (-1)).setPlayer p ((s.obj p).exitReset .pending)

/-- The game at table `t` reaches `stage`, with those players in it that `gaming` says. -/
def play (t : T) (stage : Stage) (gaming : Nat → Bool) : State U T K n :=
  { s with
    stage := update s.stage t stage
    obj := fun p => { s.obj p with
      gaming := if (s.obj p).tableID = .table t then gaming p else (s.obj p).gaming } }

/-- `TryBeginExit` and `RemovePlayer` of an exit. -/
def removeForExit (p : Nat) (t : T) (c : Fin n) : State U T K n :=
  (s.setChair t c none (-1)).setPlayer p (((s.obj p).exitReset .detached).setExiting true)

end

structure Exits (g : Game) (p : Nat) (t : T) (c : Fin n) : Prop where
  chairID : (s.obj p).chairID = some c
  chair : s.seats t c = some (.player p)
  claim : (s.obj p).exiting = false
  canExit : (s.obj p).canExit g (s.stage t) = true

end State

/-- `Offline` of Ludo and `OnOffline` of Whot for a player at table `t`; without an exit the request goes
on at `pc`. -/
inductive Offline [DecidableEq T] (g : Game) (s : State U T K n) (r p : Nat) (t : T) (caller : Caller U T K)
    (pc : Pc U T K) : State U T K n → Prop where
  | marks (gaming : (s.obj p).gaming = true) :
      Offline g s r p t caller pc ((s.setPlayer p ((s.obj p).setOffline true)).setPc r pc)
  | exits {c} (gaming : (s.obj p).gaming = false) (exits : s.Exits g p t c) :
      Offline g s r p t caller pc ((s.removeForExit p t c).setPc r (.logoutGame p .check caller))
  | refuses (gaming : (s.obj p).gaming = false)
      (refuses : (s.obj p).exiting = true ∨ (s.obj p).canExit g (s.stage t) = false) :
      Offline g s r p t caller pc (s.setPc r pc)

/-- The steps of a request that only read. -/
inductive Reads (g : Game) (s : State U T K n) : Pc U T K → Pc U T K → Prop where
  | startLogin {uid k token} : Reads g s .idle (.login uid k token)
  | startLogout {uid} : Reads g s .idle (.logout uid)
  | startDisconnect {uid k} : Reads g s .idle (.disconnect uid k)
  | startSwitch {uid} : Reads g s .idle (.switchTable uid)
  | startRenewal {p} (managed : s.pm (s.obj p).uid = some p) : Reads g s .idle (.renewal p)
  -- Login
  | loginAbsent {uid k token} (absent : s.pm uid = none) :
      Reads g s (.login uid k token) (.creating uid k token)
  | loginTokenFail {uid k p} (present : s.pm uid = some p) :
      Reads g s (.login uid k false) (.returned (.loginFailed none))
  | loginPresent {uid k p} (present : s.pm uid = some p) :
      Reads g s (.login uid k true) (.found uid k p)
  | foundSeated {uid k p t} (at_ : (s.obj p).tableID = .table t) :
      Reads g s (.found uid k p) (.callPlayer p (.reconnect uid k))
  | foundElsewhere {uid k p} (at_ : ∀ t, (s.obj p).tableID ≠ .table t) :
      Reads g s (.found uid k p) (.second uid k p)
  | changedOther {uid k p} (other : s.pm uid ≠ some p) :
      Reads g s (.changed uid k p) (.creating uid k true)
  | changedSame {uid k p} (same : s.pm uid = some p) :
      Reads g s (.changed uid k p) (.second uid k p)
  | secondKept {uid k p} (kept : (s.obj p).keptByLogin g = true) :
      Reads g s (.second uid k p) (.returned (.loginFailed none))
  | claimedAlready {uid k p} (claimed : (s.obj p).exiting = true) :
      Reads g s (.claiming uid k p) (.returned (.loginFailed none))
  /-- The player cannot be loaded, the token or the room refuses it, or another one is there. -/
  | notCreated {uid k token} :
      Reads g s (.creating uid k token) (.returned (.loginFailed none))
  | bound {p} : Reads g s (.binding p) (.seeking p .enter)
  | leavesManaged {p} (unbind : g = .whot ∨
        s.pm (s.obj p).uid = some p ∧ (s.obj p).tableID ≠ .detached) :
      Reads g s (.leavingRoom p) (.unbindingRoom p)
  | leavesRetained {p} (ludo : g = .ludo) (managed : s.pm (s.obj p).uid = some p)
      (detached : (s.obj p).tableID = .detached) :
      Reads g s (.leavingRoom p) (.returned (.loginFailed (some p)))
  -- Seat
  | givesUp {p} {f : Seating T} {failed} : Reads g s (.seeking p f) (f.givesUp p failed)
  | seatSucceeds {p t} {f : Seating T}
      (online : g = .ludo ∨ f = .enter ∨ (s.obj p).isOffline = false) :
      Reads g s (.seated p t f) (f.succeeds p)
  -- SwitchTable
  | switchAbsent {uid} (absent : s.pm uid = none) : Reads g s (.switchTable uid) (.returned .done)
  | switchNowhere {uid p} (present : s.pm uid = some p)
      (at_ : ∀ t, (s.obj p).tableID ≠ .table t) : Reads g s (.switchTable uid) (.returned .done)
  | switchNoTable {uid p old} (present : s.pm uid = some p)
      (at_ : (s.obj p).tableID = .table old) :
      Reads g s (.switchTable uid) (.returned (.switchFailed p old))
  | switchCalls {uid p old} (present : s.pm uid = some p)
      (at_ : (s.obj p).tableID = .table old) :
      Reads g s (.switchTable uid) (.callPlayer p (.switchTable old))
  | notRecovered {p old} (kept : (s.obj p).tableID ≠ .detached ∨
        s.pm (s.obj p).uid ≠ some p ∨ (s.obj p).exiting = true) :
      Reads g s (.recovering p old) (.returned (.switchFailed p old))
  -- Logout and Disconnect
  | logoutAbsent {uid} (absent : s.pm uid = none) : Reads g s (.logout uid) (.returned .done)
  | logoutPresent {uid p} (present : s.pm uid = some p) :
      Reads g s (.logout uid) (.callPlayer p .logout)
  | disconnectAbsent {uid k} (absent : s.pm uid = none) :
      Reads g s (.disconnect uid k) (.returned (.disconnected uid k))
  | disconnectDetached {uid k p} (ludo : g = .ludo) (present : s.pm uid = some p)
      (detached : (s.obj p).tableID = .detached) :
      Reads g s (.disconnect uid k) (.returned (.disconnected uid k))
  | disconnectCalls {uid k p} (ludo : g = .ludo) (present : s.pm uid = some p)
      (kept : (s.obj p).tableID ≠ .detached) :
      Reads g s (.disconnect uid k) (.callPlayer p (.disconnect uid k false))
  | disconnectStale {uid k p} (whot : g = .whot) (present : s.pm uid = some p)
      (other : (s.obj p).session ≠ some k) :
      Reads g s (.disconnect uid k) (.returned (.disconnected uid k))
  | offlineNowhere {p uid k again} (at_ : ∀ t, (s.obj p).tableID ≠ .table t) :
      Reads g s (.offlineLoop p uid k again) (.returned (.disconnected uid k))
  | offlineCalls {p uid k again t} (at_ : (s.obj p).tableID = .table t) :
      Reads g s (.offlineLoop p uid k again) (.callPlayer p (.disconnect uid k again))
  -- The renewal loop
  | sampled {p k} (kept : (s.obj p).nodeBindingLost = false)
      (session : (s.obj p).session = some k) :
      Reads g s (.renewal p) (.renewing p (s.obj p).sessionVersion)
  | notSampled {p} (without : (s.obj p).nodeBindingLost = true ∨ (s.obj p).session = none) :
      Reads g s (.renewal p) (.returned .done)
  | renewed {p version} : Reads g s (.renewing p version) (.returned .done)
  | aborted {p version} : Reads g s (.renewing p version) (.callPlayer p (.lose version true))
  -- CallPlayer, but for Disconnect
  | notFound {p} {a : Action U T K} (other : ∀ uid k again, a ≠ .disconnect uid k again)
      (at_ : ∀ t, (s.obj p).tableID ≠ .table t) : Reads g s (.callPlayer p a) (a.notFound p)
  | calls {p a t} (other : ∀ uid k again, a ≠ .disconnect uid k again)
      (at_ : (s.obj p).tableID = .table t) : Reads g s (.callPlayer p a) (.call p t a)
  | missed {p} {a : Action U T K} {t} (other : ∀ uid k again, a ≠ .disconnect uid k again) :
      Reads g s (.call p t a) (a.missed p)
  | routeChanged {p} {a : Action U T K} {t} (free : s.Free t) (moved : ¬ s.Located p t) :
      Reads g s (.call p t a) (a.changed g p)
  -- Jobs of a player who is there
  | logoutRefused {p t} (free : s.Free t) (located : s.Located p t)
      (refuses : (s.obj p).exiting = true ∨ (s.obj p).canExit g (s.stage t) = false) :
      Reads g s (.call p t .logout) (.returned .done)
  | disconnectOld {p t uid k again} (free : s.Free t)
      (located : s.Located p t) (other : (s.obj p).session ≠ some k) :
      Reads g s (.call p t (.disconnect uid k again)) (.returned (.disconnected uid k))
  | notRebound {p t uid k} (free : s.Free t) (located : s.Located p t) :
      Reads g s (.call p t (.reconnect uid k)) (.returned (.loginFailed none))
  /-- The room's limits or the table refuse. -/
  | switchRefused {p t old} (free : s.Free t) (located : s.Located p t) :
      Reads g s (.call p t (.switchTable old)) (.returned (.switchFailed p old))
  | loseRefused {p t version again} (free : s.Free t) (located : s.Located p t)
      (refuses : s.pm (s.obj p).uid ≠ some p ∨ ¬ (s.obj p).LosesNodeBinding version) :
      Reads g s (.call p t (.lose version again)) (.returned .done)
  -- LogoutGame
  | persistLost {p caller} (lost : (s.obj p).nodeBindingLost = true) :
      Reads g s (.logoutGame p .check caller) (.logoutGame p (.finish true) caller)
  | persistBegins {p caller} (kept : (s.obj p).nodeBindingLost = false) :
      Reads g s (.logoutGame p .check caller) (.logoutGame p .save caller)
  | persistNoSession {p saved caller} (none_ : (s.obj p).session = none) :
      Reads g s (.logoutGame p (.session saved) caller) (.logoutGame p (.finish saved) caller)
  | persistSession {p saved k caller}
      (session : (s.obj p).session = some k) :
      Reads g s (.logoutGame p (.session saved) caller) (.logoutGame p (.unbind k saved) caller)
  /-- The context of the cleanup is done. -/
  | persistExpired {p at_ caller}
      (waits : at_ = .check ∨ ∃ saved, at_ = .session saved) :
      Reads g s (.logoutGame p at_ caller) (.logoutGame p (.finish false) caller)
  | shutdownFailed {p} :
      Reads g s (.logoutGame p (.finish false) .shutdown) (.returned .done)

variable [DecidableEq U] [DecidableEq T]

inductive RequestStep (g : Game) (s : State U T K n) (r : Nat) : Act U T K → State U T K n → Prop where
  | reads {pc} (h : Reads g s (s.requests r) pc) : RequestStep g s r .quiet (s.setPc r pc)
  -- Login
  | looksAgain {uid k p} (at_ : s.requests r = .second uid k p)
      (left : (s.obj p).keptByLogin g = false) :
      RequestStep g s r (.looksAgain p) (s.setPc r (.claiming uid k p))
  | claims {uid k p} (at_ : s.requests r = .claiming uid k p)
      (claim : (s.obj p).exiting = false) :
      RequestStep g s r .quiet
        ((s.setPlayer p ((s.obj p).setExiting true)).setPc r (.logoutGame p .check (.login uid k)))
  | registers {uid k} (at_ : s.requests r = .creating uid k true) (absent : s.pm uid = none) :
      RequestStep g s r (.registers s.next uid k) ((s.register uid k).setPc r (.binding s.next))
  | bindFails {p} (at_ : s.requests r = .binding p) :
      RequestStep g s r .quiet ((s.forget g p).setPc r (.returned (.loginFailed (some p))))
  | leavesUnmanaged {p} (at_ : s.requests r = .leavingRoom p) (ludo : g = .ludo)
      (other : s.pm (s.obj p).uid ≠ some p) :
      RequestStep g s r .quiet
        ((s.setPlayer p ((s.obj p).updateSession g none)).setPc r (.returned (.loginFailed (some p))))
  | forgets {p} (at_ : s.requests r = .unbindingRoom p) :
      RequestStep g s r .quiet ((s.forget g p).setPc r (.returned (.loginFailed (some p))))
  -- Seat
  | seats {p} {f : Seating T} {t c} (at_ : s.requests r = .seeking p f)
      (mayTake : f.mayTake t) (free : s.Free t) (chair : s.FirstFree t c)
      (whot : g = .whot → ∀ t, (s.obj p).tableID ≠ .table t) :
      RequestStep g s r .quiet ((s.seat g r p t c).setPc r (.seated p t f))
  | seatPushFails {p} {f : Seating T} {t s'} (at_ : s.requests r = .seated p t f)
      (ludo : g = .ludo) (located : s.Located p t) (online : (s.obj p).isOffline = false)
      (offline : Offline g s r p t (.seat t f) (f.fails p) s') :
      RequestStep g s r (.seatPushFails p t) s'
  | seatFindsOffline {p} {f : Seating T} {t s'}
      (at_ : s.requests r = .seated p t f) (whot : g = .whot) (migrates : f ≠ .enter)
      (isOffline : (s.obj p).isOffline = true) (offline : Offline g s r p t (.seat t f) (f.fails p) s') :
      RequestStep g s r .quiet s'
  -- SwitchTable
  | switches {p t old c} (at_ : s.requests r = .call p t (.switchTable old))
      (free : s.Free t) (located : s.Located p t) (chair : (s.obj p).chairID = some c)
      (canExit : (s.obj p).canExit g (s.stage t) = true) :
      RequestStep g s r (.switches p) ((s.removeForSwitch p t c).setPc r (.seeking p (.migrate old)))
  | detaches {p old} (at_ : s.requests r = .detaching p old) :
      RequestStep g s r .quiet ((s.setPlayer p ((s.obj p).setTableID .detached)).setPc r (.recovering p old))
  | recovers {p old} (at_ : s.requests r = .recovering p old)
      (detached : (s.obj p).tableID = .detached) (managed : s.pm (s.obj p).uid = some p)
      (claim : (s.obj p).exiting = false) :
      RequestStep g s r .quiet
        ((s.setPlayer p ((s.obj p).setExiting true)).setPc r (.logoutGame p .check (.switchTable old)))
  -- Logout and Disconnect
  | exits {p t c} (at_ : s.requests r = .call p t .logout) (free : s.Free t)
      (located : s.Located p t) (exits : s.Exits g p t c) :
      RequestStep g s r .quiet ((s.removeForExit p t c).setPc r (.logoutGame p .check (.exit t .logout)))
  | marks {uid k p} (at_ : s.requests r = .disconnect uid k) (whot : g = .whot)
      (present : s.pm uid = some p) (session : (s.obj p).session = some k) :
      RequestStep g s r (.marks p k)
        ((s.setPlayer p ((s.obj p).setOffline true)).setPc r (.offlineLoop p uid k true))
  | noticesNowhere {p uid k again}
      (at_ : s.requests r = .callPlayer p (.disconnect uid k again))
      (nowhere : ∀ t, (s.obj p).tableID ≠ .table t) :
      RequestStep g s r (.notices p k) (s.setPc r (.returned (.disconnected uid k)))
  | notices {p uid k again t}
      (at_ : s.requests r = .callPlayer p (.disconnect uid k again))
      (table : (s.obj p).tableID = .table t) :
      RequestStep g s r (.notices p k) (s.setPc r (.call p t (.disconnect uid k again)))
  | misses {p uid k again t}
      (at_ : s.requests r = .call p t (.disconnect uid k again)) :
      RequestStep g s r (.misses p k) (s.setPc r (.returned (.disconnected uid k)))
  | drops {p uid k again t s'}
      (at_ : s.requests r = .call p t (.disconnect uid k again)) (free : s.Free t) (located : s.Located p t)
      (session : (s.obj p).session = some k)
      (offline : Offline g s r p t (.exit t (.disconnect uid k again)) (.returned (.disconnected uid k)) s') :
      RequestStep g s r (.drops p t k) s'
  -- Reconnect
  | reconnects {p uid k t} (at_ : s.requests r = .call p t (.reconnect uid k))
      (free : s.Free t) (located : s.Located p t) :
      RequestStep g s r (.reconnects p k)
        ((s.setPlayer p ((s.obj p).reconnect g k)).setPc r
          (.reentering p t k (s.obj p).session (s.obj p).isOffline))
  | confirms {p t k session offline}
      (at_ : s.requests r = .reentering p t k session offline) :
      RequestStep g s r (.confirms p)
        ((s.setPlayer p (s.obj p).confirmNodeBinding).setPc r (.returned (.loginOk p)))
  | reenterPushFails {p t k session offline s'}
      (at_ : s.requests r = .reentering p t k session offline) (ludo : g = .ludo) (located : s.Located p t)
      (online : (s.obj p).isOffline = false)
      (h : Offline g s r p t (.exit t (.reconnect (s.obj p).uid k)) (.reverting p t session offline) s') :
      RequestStep g s r .quiet s'
  | reverts {p t t' session offline}
      (at_ : s.requests r = .reverting p t session offline) (ludo : g = .ludo)
      (table : (s.obj p).tableID = .table t') :
      RequestStep g s r .quiet
        ((s.setPlayer p (((s.obj p).updateSession g session).setOffline offline)).setPc r
          (.returned (.loginFailed none)))
  | gone {p t session offline}
      (at_ : s.requests r = .reverting p t session offline) (nowhere : ∀ t, (s.obj p).tableID ≠ .table t) :
      RequestStep g s r .quiet (s.setPc r (.returned (.loginFailed none)))
  -- The renewal loop
  | loses {p t version again s'}
      (at_ : s.requests r = .call p t (.lose version again)) (free : s.Free t) (located : s.Located p t)
      (managed : s.pm (s.obj p).uid = some p) (loses : (s.obj p).LosesNodeBinding version)
      (offline : Offline g (s.setPlayer p (s.obj p).loseNodeBinding) r p t (.exit t (.lose version again))
        (.returned .done) s') : RequestStep g s r (.loses p) s'
  -- LogoutGame
  | saves {p saved caller} (at_ : s.requests r = .logoutGame p .save caller) :
      RequestStep g s r (.saves p) (s.setPc r (.logoutGame p (.session saved) caller))
  | unbinds {p k saved ok caller}
      (at_ : s.requests r = .logoutGame p (.unbind k saved) caller) :
      RequestStep g s r (.unbinds p) (s.setPc r (.logoutGame p (.finish (saved && ok)) caller))
  | finalizes {p} {caller : Caller U T K} (at_ : s.requests r = .logoutGame p (.finish true) caller) :
      RequestStep g s r .quiet ((s.finalize g p).setPc r (caller.succeeds p))
  | cancels {p} {caller : Caller U T K} (at_ : s.requests r = .logoutGame p (.finish false) caller)
      (logoutGame : caller ≠ .shutdown) :
      RequestStep g s r .quiet ((s.setPlayer p ((s.obj p).setExiting false)).setPc r (caller.fails p))
  | cancelsAgain {p} {caller : Caller U T K} (at_ : s.requests r = .cancelling p caller) :
      RequestStep g s r .quiet ((s.setPlayer p ((s.obj p).setExiting false)).setPc r (caller.succeeds p))
  -- Exits that a table begins itself
  | kicks {p t c} (at_ : s.requests r = .idle) (free : s.Free t)
      (exits : s.Exits g p t c) :
      RequestStep g s r .quiet ((s.removeForExit p t c).setPc r (.logoutGame p .check (.exit t .logout)))
  | pushFails {p t s'} (at_ : s.requests r = .idle) (ludo : g = .ludo)
      (isOpen : s.closed = false) (located : s.Located p t) (online : (s.obj p).isOffline = false)
      (offline : Offline g s r p t (.exit t .logout) (.returned .done) s') : RequestStep g s r .quiet s'

/-- What the tables do to players without an exit, and robots. -/
inductive TableStep (g : Game) (s : State U T K n) : State U T K n → Prop where
  | plays {t stage gaming} (free : s.Free t) :
      TableStep g s (s.play t stage gaming)
  /-- In Whot a push that finds no client marks the player. -/
  | marks {p t} (whot : g = .whot) (isOpen : s.closed = false) (located : s.Located p t) :
      TableStep g s (s.setPlayer p ((s.obj p).setOffline true))
  /-- `Seat` of Whot finds that enough players are ready. -/
  | starts {r p t f} (whot : g = .whot) (at_ : s.requests r = .seated p t f)
      (waits : s.stage t = .wait) : TableStep g s { s with stage := update s.stage t .play }
  | robotSits {t c} (free : s.Free t) (chair : s.FirstFree t c) :
      TableStep g s (s.setChair t c (some .robot) 1)
  | robotLeaves {t c} (free : s.Free t) (chair : s.seats t c = some .robot) :
      TableStep g s (s.setChair t c none (-1))

inductive Step (g : Game) : State U T K n → Label U T K → State U T K n → Prop where
  | request {s s' r a} (h : RequestStep g s r a s') :
      Step g s ⟨some r, a⟩ s'
  | table {s s'} (h : TableStep g s s') : Step g s ⟨none, .quiet⟩ s'

/-- The steps of a server that is shut down at some time: `Drain` waits for the renewal loop and for the
jobs of the tables, and then persists the players that are left. -/
inductive LifeStep (g : Game) : State U T K n → Label U T K → State U T K n → Prop where
  | step {s s' l} (h : Step g s l s') : LifeStep g s l s'
  | closes {s : State U T K n} (jobs : ∀ r, (s.requests r).job = none)
      (renewals : ∀ r, (s.requests r).isRenewal = false) :
      LifeStep g s ⟨none, .quiet⟩ { s with closed := true }
  | cleans {s : State U T K n} {r p} (closed : s.closed = true) (at_ : s.requests r = .idle)
      (managed : s.pm (s.obj p).uid = some p) :
      LifeStep g s ⟨some r, .quiet⟩ (s.setPc r (.logoutGame p .check .shutdown))

end Yola.Room
