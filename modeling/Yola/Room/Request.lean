import Yola.Room.Player

/-!
# The requests of a game server

Where a request of Ludo or Whot can be: `Login`, `Logout`, `Disconnect`, `SwitchTable`, one player's turn
of the renewal loop, an exit that a table begins itself, and the shutdown's cleanup of one player.  A
request is a program counter that stands between two points at which another goroutine can see the player
manager, a player or a table.
-/

namespace Yola.Room

section Requests

variable (U T K : Type)

inductive Outcome where
  | done
  | disconnected (uid : U) (k : K)
  | loginOk (p : Nat)
  /-- With the player that it created and added to the manager. -/
  | loginFailed (created : Option Nat)
  | switchOk (p : Nat)
  | switchFailed (p : Nat) (old : T)

/-- What `CallPlayer` is called for; `again` when a changed route leads to a second call. -/
inductive Action where
  | logout
  | disconnect (uid : U) (k : K) (again : Bool)
  | reconnect (uid : U) (k : K)
  | switchTable (old : T)
  | lose (version : Nat) (again : Bool)

/-- What `Seat` is called for: `Enter`, the new table of `Switch`, or `restorePlayer`. -/
inductive Seating where
  | enter
  | migrate (old : T)
  /-- `failed` when the search for a new table has ended with an error. -/
  | restore (old : T) (failed : Bool)

/-- Where `persistAndUnbindPlayer` is, and how it has ended. -/
inductive Persist where
  | check
  | save
  | session (saved : Bool)
  | unbind (k : K) (saved : Bool)
  | finish (ok : Bool)

/-- Who has called `LogoutGame`: an exit in a job of table `t` (one that the table begins itself ends like
a logout), an exit inside a `Seat`, `Login` for a player who is left over, `SwitchTable` for one whom it
has lost, or the shutdown, which calls `persistAndUnbindPlayer` itself. -/
inductive Caller where
  | exit (t : T) (a : Action U T K)
  | seat (t : T) (f : Seating T)
  | login (uid : U) (k : K)
  | switchTable (old : T)
  | shutdown

inductive Pc where
  | idle
  | login (uid : U) (k : K) (token : Bool)
  | found (uid : U) (k : K) (p : Nat)
  | changed (uid : U) (k : K) (p : Nat)
  | second (uid : U) (k : K) (p : Nat)
  | claiming (uid : U) (k : K) (p : Nat)
  | creating (uid : U) (k : K) (token : Bool)
  | binding (p : Nat)
  | seeking (p : Nat) (f : Seating T)
  | seated (p : Nat) (t : T) (f : Seating T)
  /-- `enterRoom` has failed to enter. -/
  | leavingRoom (p : Nat)
  | unbindingRoom (p : Nat)
  | reentering (p : Nat) (t : T) (k : K) (session : Option K) (offline : Bool)
  /-- `ReEnter` has failed. -/
  | reverting (p : Nat) (t : T) (session : Option K) (offline : Bool)
  | logout (uid : U)
  | disconnect (uid : U) (k : K)
  | offlineLoop (p : Nat) (uid : U) (k : K) (again : Bool)
  | switchTable (uid : U)
  /-- `restorePlayer` has failed. -/
  | detaching (p : Nat) (old : T)
  /-- `Switch` has returned an error. -/
  | recovering (p : Nat) (old : T)
  | renewal (p : Nat)
  | renewing (p : Nat) (version : Nat)
  | callPlayer (p : Nat) (a : Action U T K)
  | call (p : Nat) (t : T) (a : Action U T K)
  | logoutGame (p : Nat) (at_ : Persist K) (caller : Caller U T K)
  /-- `LogoutGame` has failed in an exit, which takes the claim back once more. -/
  | cancelling (p : Nat) (caller : Caller U T K)
  | returned (o : Outcome U T K)

inductive Act where
  | quiet
  /-- `Login` looks at the table ID of a player for the second time. -/
  | looksAgain (p : Nat)
  /-- A push to the player whom table `t` is seating finds no client. -/
  | seatPushFails (p : Nat) (t : T)
  | registers (p : Nat) (uid : U) (k : K)
  | reconnects (p : Nat) (k : K)
  | confirms (p : Nat)
  | loses (p : Nat)
  | saves (p : Nat)
  | unbinds (p : Nat)
  | marks (p : Nat) (k : K)
  | switches (p : Nat)
  /-- `Disconnect` looks for the table of a player. -/
  | notices (p : Nat) (k : K)
  /-- The job of `Disconnect` finds the player and calls `Offline`. -/
  | drops (p : Nat) (t : T) (k : K)
  /-- A mailbox does not take the job of `Disconnect`. -/
  | misses (p : Nat) (k : K)

structure Label where
  request : Option Nat
  act : Act U T K

end Requests

variable {U T K : Type} {n : Nat}

/-- The table in whose mailbox a request is running a job. -/
def Pc.job : Pc U T K → Option T
  | .seated _ t _ | .reentering _ t _ _ _ | .reverting _ t _ _
  | .logoutGame _ _ (.exit t _) | .logoutGame _ _ (.seat t _)
  | .cancelling _ (.exit t _) | .cancelling _ (.seat t _) => some t
  | _ => none

/-- The request belongs to the renewal loop. -/
def Pc.isRenewal : Pc U T K → Bool
  | .renewal _ | .renewing _ _ | .callPlayer _ (.lose _ _) | .call _ _ (.lose _ _) => true
  | _ => false

def Seating.mayTake : Seating T → T → Prop
  | .enter, _ => True
  | .migrate old, t => t ≠ old
  | .restore old _, t => t = old

def Seating.succeeds (p : Nat) : Seating T → Pc U T K
  | .enter => .returned (.loginOk p)
  | .migrate _ => .returned (.switchOk p)
  | .restore old true => .recovering p old
  | .restore old false => .returned (.switchFailed p old)

def Seating.fails (p : Nat) : Seating T → Pc U T K
  | .enter => .leavingRoom p
  | .migrate old => .recovering p old
  | .restore old _ => .detaching p old

def Seating.givesUp (p : Nat) (failed : Bool) : Seating T → Pc U T K
  | .enter => .leavingRoom p
  | .migrate old => .seeking p (.restore old failed)
  | .restore old _ => .detaching p old

def Action.notFound (p : Nat) : Action U T K → Pc U T K
  | .logout | .lose _ _ => .returned .done
  | .disconnect uid k _ => .returned (.disconnected uid k)
  | .reconnect uid k => .changed uid k p
  | .switchTable old => .recovering p old

def Action.missed (p : Nat) : Action U T K → Pc U T K
  | .logout | .lose _ _ => .returned .done
  | .disconnect uid k _ => .returned (.disconnected uid k)
  | .reconnect _ _ => .returned (.loginFailed none)
  | .switchTable old => .recovering p old

def Action.changed (g : Game) (p : Nat) : Action U T K → Pc U T K
  | .logout | .lose _ false => .returned .done
  | .lose version true => .callPlayer p (.lose version false)
  | .disconnect uid k again =>
    match g, again with
    | .whot, true => .offlineLoop p uid k false
    | _, _ => .returned (.disconnected uid k)
  | .reconnect uid k => .changed uid k p
  | .switchTable old => .recovering p old

def Action.ends (p : Nat) : Action U T K → Pc U T K
  | .logout | .lose _ _ => .returned .done
  | .disconnect uid k _ => .returned (.disconnected uid k)
  | .reconnect _ _ => .returned (.loginFailed none)
  | .switchTable old => .returned (.switchFailed p old)

def Caller.succeeds (p : Nat) : Caller U T K → Pc U T K
  | .exit _ a => a.ends p
  | .seat _ f => f.fails p
  | .login uid k => .creating uid k true
  | .switchTable old => .returned (.switchFailed p old)
  | .shutdown => .returned .done

def Caller.fails (p : Nat) : Caller U T K → Pc U T K
  | .exit t a => .cancelling p (.exit t a)
  | .seat t f => .cancelling p (.seat t f)
  | .login _ _ => .returned (.loginFailed none)
  | .switchTable old => .returned (.switchFailed p old)
  | .shutdown => .returned .done

end Yola.Room
