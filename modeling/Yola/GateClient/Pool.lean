import Mathlib.Data.List.Count
import Mathlib.Logic.Function.Basic
import Yola.Reasoning.Runs

/-!
# The connections of a gateway client

`Client` of the package `gateclient`: the table of connections by host, with the calls that use them, the
idle timers and `Close`.  What is done under the lock is one step.  Time is a number that never falls; a
timer fires no earlier than it is due, and a timer that has fired is a goroutine that will call `evict`.
-/

namespace Yola.GateClient

open Function

variable {Host : Type}

structure Rpc (Host : Type) where
  host : Host
  lastUsed : Nat
  idleTimer : Option Nat
  inflight : Int

inductive TimerPhase where
  | armed
  /-- Its goroutine has not come to the lock of `evict` yet. -/
  | fired
  | stopped
  | done
deriving DecidableEq

structure Timer where
  entry : Nat
  /-- When it was armed. -/
  since : Nat
  phase : TimerPhase

inductive Closing where
  | none
  /-- Closing connections and waiting for the evictions. -/
  | emptied
  | returned
deriving DecidableEq

structure Client (Host : Type) where
  now : Nat
  /-- The context of the client has ended. -/
  cancelled : Bool
  /-- `byHost` is nil. -/
  isNil : Bool
  byHost : Host → Option Nat
  /-- All entries that have been made. -/
  entries : Nat → Rpc Host
  made : Nat
  timers : Nat → Timer
  armed : Nat
  /-- The evictions that are closing a connection. -/
  evictions : List Nat
  /-- The entries of the acquires that have not been released. -/
  acquired : List Nat
  closing : Closing

namespace Client

/-- Entries and timers that have not been made are arbitrary. -/
def new [Inhabited Host] : Client Host where
  now := 0
  cancelled := false
  isNil := false
  byHost _ := none
  entries _ := ⟨default, 0, none, 0⟩
  made := 0
  timers _ := ⟨0, 0, .done⟩
  armed := 0
  evictions := []
  acquired := []
  closing := .none

variable (c : Client Host)

def setEntry (id : Nat) (entry : Rpc Host) : Client Host :=
  { c with entries := update c.entries id entry }

def setPhase (timer : Nat) (phase : TimerPhase) : Client Host :=
  { c with timers := update c.timers timer { c.timers timer with phase := phase } }

/-- `Timer.Stop`, if there is one: too late for a timer that has fired. -/
def stopTimer : Option Nat → Client Host
  | none => c
  | some timer => if (c.timers timer).phase = .armed then c.setPhase timer .stopped else c

/-- `time.AfterFunc` for an entry, some time after `lastUsed` was set. -/
def afterFunc (id : Nat) (since : Nat) : Client Host :=
  { c.setEntry id { c.entries id with idleTimer := some c.armed } with
    now := since
    timers := update c.timers c.armed ⟨id, since, .armed⟩
    armed := c.armed + 1 }

inductive Cached where
  | unavailable
  | missing
  | entry (id : Nat)
deriving DecidableEq

def cached (host : Host) : Cached × Client Host :=
  if c.cancelled || c.isNil then (.unavailable, c)
  else
    match c.byHost host with
    | none => (.missing, c)
    | some id =>
      (.entry id, { (c.stopTimer (c.entries id).idleTimer).setEntry id
          { c.entries id with inflight := (c.entries id).inflight + 1, idleTimer := none } with
        acquired := c.acquired ++ [id] })

variable [DecidableEq Host]

/-- `connect` from the lock on. -/
def connect (host : Host) (since : Nat) : Client Host :=
  if c.isNil || (c.byHost host).isSome then c
  else
    { c.setEntry c.made ⟨host, c.now, none, 0⟩ with
      byHost := update c.byHost host (some c.made)
      made := c.made + 1 }.afterFunc c.made since

/-- `release` for an entry that has been acquired. -/
def release (id : Nat) (since : Nat) : Client Host :=
  let c₁ := { c with acquired := c.acquired.erase id }
  if c.isNil || c.byHost (c.entries id).host ≠ some id then c₁
  else
    let entry := { c.entries id with inflight := (c.entries id).inflight - 1, lastUsed := c.now }
    let c₂ := c₁.setEntry id entry
    if entry.inflight = 0 then c₂.afterFunc id since else c₂

def Keeps (idle : Nat) (id : Nat) : Prop :=
  c.isNil = true ∨ c.byHost (c.entries id).host ≠ some id ∨ 0 < (c.entries id).inflight ∨
    c.now < (c.entries id).lastUsed + idle

instance (idle : Nat) (id : Nat) : Decidable (c.Keeps idle id) := inferInstanceAs (Decidable (_ ∨ _ ∨ _ ∨ _))

/-- `evict` by a timer that has fired, up to the unlock. -/
def evict (idle : Nat) (timer : Nat) : Client Host :=
  let id := (c.timers timer).entry
  let c₁ := c.setPhase timer .done
  if c.Keeps idle id then c₁
  else
    { c₁.setEntry id { c.entries id with idleTimer := none } with
      byHost := update c.byHost (c.entries id).host none
      evictions := c.evictions ++ [id] }

/-- `Close` under the lock, for a table that is there. -/
def empty : Client Host :=
  { c with
    timers := fun timer =>
      let t := c.timers timer
      if c.byHost (c.entries t.entry).host = some t.entry ∧ (c.entries t.entry).idleTimer = some timer ∧
        t.phase = .armed then { t with phase := .stopped } else t
    isNil := true
    byHost := fun _ => none
    closing := .emptied }

end Client

inductive Step [DecidableEq Host] (idle : Nat) (c : Client Host) : Unit → Client Host → Prop where
  | ticks {now} (later : c.now ≤ now) : Step idle c () { c with now := now }
  | fires {timer} (armed : (c.timers timer).phase = .armed)
      (due : (c.timers timer).since + idle ≤ c.now) : Step idle c () (c.setPhase timer .fired)
  | acquires (host) : Step idle c () (c.cached host).2
  | connects (host) {since} (later : c.now ≤ since) : Step idle c () (c.connect host since)
  | releases {id since} (held : id ∈ c.acquired) (later : c.now ≤ since) :
      Step idle c () (c.release id since)
  | evicts {timer} (fired : (c.timers timer).phase = .fired) : Step idle c () (c.evict idle timer)
  /-- The connection of an evicted entry is closed. -/
  | finishes {id before after} (running : c.evictions = before ++ id :: after) :
      Step idle c () { c with evictions := before ++ after }
  | cancels : Step idle c () { c with cancelled := true }
  | empties (cancelled : c.cancelled = true) (present : c.isNil = false) : Step idle c () c.empty
  | returns (emptied : c.closing = .emptied) (waited : c.evictions = []) :
      Step idle c () { c with closing := .returned }

end Yola.GateClient
