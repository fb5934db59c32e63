import Mathlib.Logic.Function.Basic

/-!
# Players and their sessions

`player.Player` of Ludo and Whot, as far as residency and sessions depend on it.  A session is known by
its binding token.
-/

namespace Yola.Room

inductive Game where
  | ludo
  | whot
deriving DecidableEq

/-- The stages as far as exits depend on them: `StWait`, the last one (`StResult` of Ludo, `StEnd` of
Whot), and all others. -/
inductive Stage where
  | wait
  | play
  | ended
deriving DecidableEq

/-- `tableID`: `TableIDPending`, `TableIDDetached`, or a table. -/
inductive Route (T : Type) where
  | pending
  | detached
  | table (t : T)
deriving DecidableEq

/-- A player of a user `uid`, at one of tables `T` with `n` chairs, with a session of token `K`. -/
structure Player (U T K : Type) (n : Nat) where
  uid : U
  tableID : Route T
  chairID : Option (Fin n)
  gaming : Bool
  isOffline : Bool
  exiting : Bool
  session : Option K
  sessionVersion : Nat
  nodeBindingLost : Bool

namespace Player

variable {U T K : Type} {n : Nat}

/-- `player.New`; the zero table ID is the pending one. -/
def new (uid : U) (session : Option K) : Player U T K n where
  uid := uid
  tableID := .pending
  chairID := none
  gaming := false
  isOffline := false
  exiting := false
  session := session
  sessionVersion := 0
  nodeBindingLost := false

variable (p : Player U T K n)

/-- `UpdateSession`.  In Whot a new session is online. -/
def updateSession (g : Game) (session : Option K) : Player U T K n :=
  { p with
    session := session
    sessionVersion := p.sessionVersion + 1
    isOffline := match g, session with
      | .whot, some _ => false
      | _, _ => p.isOffline }

def setOffline (offline : Bool) : Player U T K n := { p with isOffline := offline }

/-- `LogoutGame` of the player at the end of that of the server; Ludo has none. -/
def logoutGame (g : Game) : Player U T K n :=
  match g with
  | .ludo => p
  | .whot => p.updateSession .whot none

/-- `UpdateSession` of `reconnect`, with `SetOffline` of `ReEnter` in Ludo. -/
def reconnect (g : Game) (k : K) : Player U T K n :=
  match g with
  | .ludo => (p.updateSession .ludo (some k)).setOffline false
  | .whot => p.updateSession .whot (some k)

/-- `LoseNodeBinding`, when it returns true. -/
def loseNodeBinding : Player U T K n :=
  { p with
    isOffline := true
    session := none
    sessionVersion := p.sessionVersion + 1
    nodeBindingLost := true }

/-- `LoseNodeBinding` returns true. -/
def LosesNodeBinding (version : Nat) : Prop := p.sessionVersion = version ∧ p.nodeBindingLost = false

def confirmNodeBinding : Player U T K n := { p with nodeBindingLost := false }

def setExiting (exiting : Bool) : Player U T K n := { p with exiting := exiting }

def setTableID (tableID : Route T) : Player U T K n := { p with tableID := tableID }

/-- What `Seat` does to the player.  In Ludo a player who sits down is online. -/
def sit (g : Game) (t : T) (c : Fin n) : Player U T K n :=
  { p with
    tableID := .table t
    chairID := some c
    gaming := false
    isOffline := match g with
      | .ludo => false
      | .whot => p.isOffline }

def exitReset (next : Route T) : Player U T K n :=
  { p with tableID := next, chairID := none, gaming := false }

def canExit (g : Game) (stage : Stage) : Bool :=
  match g with
  | .ludo =>
    match stage with
    | .wait => !p.gaming
    | .ended => true
    | .play => false
  | .whot => !p.gaming && (p.isOffline || stage = .wait || stage = .ended)

theorem canExit_ludo {p : Player U T K n} {stage : Stage} (hgam : p.gaming = false) (hst : stage ≠ .play) :
    p.canExit .ludo stage = true := by
  cases stage with
  | wait => exact congrArg not hgam
  | play => exact absurd rfl hst
  | ended => rfl

theorem canExit_whot {p : Player U T K n} {stage : Stage} (hgam : p.gaming = false)
    (hoffline : p.isOffline = true) : p.canExit .whot stage = true := by
  rw [canExit, hgam, hoffline]
  rfl

/-- `Login` leaves the player alone whose table ID it reads the second time. -/
def keptByLogin (g : Game) : Bool :=
  match g, p.tableID with
  | .ludo, .pending => true
  | .ludo, _ => false
  | .whot, .detached => false
  | .whot, _ => true

end Player

end Yola.Room
