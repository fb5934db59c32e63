import Mathlib.Data.Finmap
import Yola.Reasoning.Runs

/-!
# The robots of a game

`robot.Manager` and `EnterRobots`, which Ludo and Whot have alike, and the exits of robots from their
tables.  The manager is one goroutine, and each table runs one job at a time; a step is what happens
between two points at which another goroutine can see the maps or a robot's table.  The money of a robot
decides only whether the room's limits let it in, which may go either way here.
-/

namespace Yola.Robots

open Function

/-- A player object of a robot; an ID that is loaded again gets a new one. -/
structure Robot where
  id : Int
  serial : Nat
deriving DecidableEq

inductive Occupant where
  | user
  | robot (p : Robot)
deriving DecidableEq

/-- The part of `conf.Room_Robot` that the manager's loops read. -/
structure Config where
  isOpen : Bool
  num : Int
  idBegin : Int

def defaultBatchLoadCount : Int := 100

def defaultBatchReleaseCount : Int := 100

inductive Manager (m : Nat) where
  | waiting
  | loading (id idEnd toLoad : Int)
  | releasing (visited : Finset Int) (toRelease : Int)
  /-- The robot is deleted from `all` and not yet from `free`. -/
  | deleting (id : Int) (visited : Finset Int) (toRelease : Int)
  | choosing (visited : Finset Int) (players : List Robot)
  /-- The loop of `EnterRobots` over the players. -/
  | entering (players : List Robot) (tableIndex : Nat) (entered : List Int)
  /-- Its loop over the tables, for one player. -/
  | trying (p : Robot) (players : List Robot) (tableIndex : Nat) (entered : List Int)
  | calling (p : Robot) (players : List Robot) (t : Fin m) (entered : List Int)
  /-- `EnterRobots` has returned. -/
  | returned (entered : List Int)
deriving DecidableEq

inductive Job where
  | idle
  /-- A robot has left its chair, and `Leave` is called. -/
  | leaving (id : Int)
  | loaded (id : Int) (p : Robot)
  | storing (id : Int) (p : Robot)
deriving DecidableEq

/-- The tables are `m`, with `n` chairs each. -/
structure State (m n : Nat) where
  all : Finmap fun _ : Int => Robot
  free : Finmap fun _ : Int => Robot
  created : Nat
  /-- No table for an ID that is not positive. -/
  tableID : Robot → Option (Fin m)
  seats : Fin m → Fin n → Option Occupant
  manager : Manager m
  jobs : Fin m → Job

variable {m n : Nat}

def State.new (m n : Nat) : State m n where
  all := ∅
  free := ∅
  created := 0
  tableID _ := none
  seats _ _ := none
  manager := .waiting
  jobs _ := .idle

namespace State

def countAll (s : State m n) : Int := s.all.keys.card

def sit (s : State m n) (t : Fin m) (c : Fin n) (p : Robot) : State m n :=
  { s with
    seats := update s.seats t (update (s.seats t) c (some (.robot p)))
    tableID := update s.tableID p (some t) }

/-- `RemovePlayer`. -/
def removePlayer (s : State m n) (t : Fin m) (c : Fin n) (p : Robot) : State m n :=
  { s with
    seats := update s.seats t (update (s.seats t) c none)
    tableID := update s.tableID p none }

def setJob (s : State m n) (t : Fin m) (job : Job) : State m n :=
  { s with jobs := update s.jobs t job }

end State

/-- How many robots `load` is to add. -/
def Config.toLoad (rc : Config) (current : Int) : Int := min (rc.num - current) defaultBatchLoadCount

/-- The last ID that `load` tries; the offset is computed in 32 bits. -/
def Config.idEnd (rc : Config) : Int := rc.idBegin + (rc.num * 2).bmod (2 ^ 32)

/-- How many robots `release` is to drop. -/
def Config.toRelease (rc : Config) (current : Int) : Int :=
  min (current - if rc.isOpen then rc.num else 0) defaultBatchReleaseCount

def joined (p : Robot) (players : List Robot) (t : Fin m) (entered : List Int) : Manager m :=
  if t.val + 1 = m then .returned (entered ++ [p.id])
  else .entering players (t.val + 1) (entered ++ [p.id])

/-- What a step is for the robots: something a table does of itself, or not. -/
inductive Event where
  | manages
  | leaves (p : Robot)
  | plays
deriving DecidableEq

/-- `load`.  A robot that is only in `all` is seen by nobody, so that both maps get it in one step. -/
inductive LoadStep (rc : Config) (s : State m n) : State m n → Prop where
  | begins (waits : s.manager = .waiting) (isOpen : rc.isOpen = true) (num : 0 < rc.num)
      (some_ : 0 < rc.toLoad s.countAll) :
      LoadStep rc s { s with manager := .loading rc.idBegin rc.idEnd (rc.toLoad s.countAll) }
  /-- It exists, or cannot be created. -/
  | skips {id idEnd toLoad} (at_ : s.manager = .loading id idEnd toLoad) (more : id ≤ idEnd)
      (some_ : 0 < toLoad) : LoadStep rc s { s with manager := .loading (id + 1) idEnd toLoad }
  | stores {id idEnd toLoad} (at_ : s.manager = .loading id idEnd toLoad) (more : id ≤ idEnd)
      (some_ : 0 < toLoad) (absent : s.all.lookup id = none) :
      LoadStep rc s { s with
        all := s.all.insert id ⟨id, s.created⟩
        free := s.free.insert id ⟨id, s.created⟩
        tableID := update s.tableID ⟨id, s.created⟩ none
        created := s.created + 1
        manager := .loading (id + 1) idEnd (toLoad - 1) }
  | ends {id idEnd toLoad} (at_ : s.manager = .loading id idEnd toLoad)
      (done : ¬ (id ≤ idEnd ∧ 0 < toLoad)) : LoadStep rc s { s with manager := .waiting }

/-- `release`.  A `Range` sees a key at most once, and may miss one that is stored while it runs. -/
inductive ReleaseStep (rc : Config) (s : State m n) : State m n → Prop where
  | begins (waits : s.manager = .waiting) (some_ : 0 < rc.toRelease s.countAll) :
      ReleaseStep rc s { s with manager := .releasing ∅ (rc.toRelease s.countAll) }
  | skips {k p visited toRelease}
      (at_ : s.manager = .releasing visited toRelease) (visit : k ∉ visited)
      (found : s.free.lookup k = some p) (seated : s.tableID p ≠ none) :
      ReleaseStep rc s { s with manager := .releasing (insert k visited) toRelease }
  | deletes {k p visited toRelease}
      (at_ : s.manager = .releasing visited toRelease) (some_ : 0 < toRelease) (visit : k ∉ visited)
      (found : s.free.lookup k = some p) (detached : s.tableID p = none) :
      ReleaseStep rc s { s with
        all := s.all.erase k
        manager := .deleting k visited toRelease }
  | frees {k visited toRelease}
      (at_ : s.manager = .deleting k visited toRelease) :
      ReleaseStep rc s { s with
        free := s.free.erase k
        manager := .releasing (insert k visited) (toRelease - 1) }
  | ends {visited toRelease} (at_ : s.manager = .releasing visited toRelease) :
      ReleaseStep rc s { s with manager := .waiting }

/-- `login`.  How many robots sit already decides only whether there is a batch at all. -/
inductive LoginStep (rc : Config) (s : State m n) : State m n → Prop where
  | begins (waits : s.manager = .waiting) (isOpen : rc.isOpen = true) :
      LoginStep rc s { s with manager := .choosing ∅ [] }
  /-- It sits at a table, or the room's limits refuse it. -/
  | passes {k p visited players}
      (at_ : s.manager = .choosing visited players) (visit : k ∉ visited)
      (found : s.free.lookup k = some p) :
      LoginStep rc s { s with manager := .choosing (insert k visited) players }
  | chooses {k p visited players}
      (at_ : s.manager = .choosing visited players) (visit : k ∉ visited)
      (found : s.free.lookup k = some p) (detached : s.tableID p = none) :
      LoginStep rc s { s with manager := .choosing (insert k visited) (players ++ [p]) }
  | enters {visited players} (at_ : s.manager = .choosing visited players) :
      LoginStep rc s { s with manager := .entering players 0 [] }
  | deletes {uid uids} (at_ : s.manager = .returned (uid :: uids)) :
      LoginStep rc s { s with free := s.free.erase uid, manager := .returned uids }
  | ends (at_ : s.manager = .returned []) : LoginStep rc s { s with manager := .waiting }

/-- `EnterRobots`.  A call that fails has not run its job; a job is run when the table has no other. -/
inductive EnterStep (s : State m n) : State m n → Prop where
  | skips {p ps i entered}
      (at_ : s.manager = .entering (p :: ps) i entered) (seated : s.tableID p ≠ none) :
      EnterStep s { s with manager := .entering ps i entered }
  | tries {p ps i entered}
      (at_ : s.manager = .entering (p :: ps) i entered) (detached : s.tableID p = none) :
      EnterStep s { s with manager := .trying p ps i entered }
  | ends {i entered} (at_ : s.manager = .entering [] i entered) :
      EnterStep s { s with manager := .returned entered }
  | calls {p ps} {t : Fin m} {entered}
      (at_ : s.manager = .trying p ps t.val entered) :
      EnterStep s { s with manager := .calling p ps t entered }
  | breaks {p ps i entered}
      (at_ : s.manager = .trying p ps i entered) (over_ : m ≤ i) :
      EnterStep s { s with manager := .returned entered }
  | fails {p ps t entered}
      (at_ : s.manager = .calling p ps t entered) :
      EnterStep s { s with manager := .returned entered }
  | already {p ps t entered}
      (at_ : s.manager = .calling p ps t entered) (idle : s.jobs t = .idle)
      (seated : s.tableID p ≠ none) : EnterStep s { s with manager := joined p ps t entered }
  | seats {p ps t entered c}
      (at_ : s.manager = .calling p ps t entered) (idle : s.jobs t = .idle)
      (detached : s.tableID p = none) (chair : s.seats t c = none) :
      EnterStep s { s.sit t c p with manager := joined p ps t entered }
  /-- The table is full, or its robot logic refuses. -/
  | refuses {p ps} {t : Fin m} {entered}
      (at_ : s.manager = .calling p ps t entered) (idle : s.jobs t = .idle)
      (detached : s.tableID p = none) :
      EnterStep s { s with manager := .trying p ps (t.val + 1) entered }

inductive LeaveStep (s : State m n) (t : Fin m) : State m n → Prop where
  | unknown {id} (at_ : s.jobs t = .leaving id) (absent : s.all.lookup id = none) :
      LeaveStep s t (s.setJob t .idle)
  | loads {id p} (at_ : s.jobs t = .leaving id) (found : s.all.lookup id = some p) :
      LeaveStep s t (s.setJob t (.loaded id p))
  | alreadyFree {id p q} (at_ : s.jobs t = .loaded id p)
      (found : s.free.lookup id = some q) : LeaveStep s t (s.setJob t .idle)
  | resets {id p} (at_ : s.jobs t = .loaded id p) (absent : s.free.lookup id = none) :
      LeaveStep s t (s.setJob t (.storing id p))
  | stores {id p} (at_ : s.jobs t = .storing id p) :
      LeaveStep s t { s.setJob t .idle with free := s.free.insert id p }

inductive UserStep (s : State m n) : State m n → Prop where
  | sits {t c} (idle : s.jobs t = .idle) (chair : s.seats t c = none) :
      UserStep s { s with seats := update s.seats t (update (s.seats t) c (some .user)) }
  | leaves {t c} (idle : s.jobs t = .idle) (chair : s.seats t c = some .user) :
      UserStep s { s with seats := update s.seats t (update (s.seats t) c none) }

inductive Step (rc : Config) : State m n → Event → State m n → Prop where
  | load {s s'} (h : LoadStep rc s s') : Step rc s .manages s'
  | release {s s'} (h : ReleaseStep rc s s') : Step rc s .manages s'
  | login {s s'} (h : LoginStep rc s s') : Step rc s .manages s'
  | enter {s s'} (h : EnterStep s s') : Step rc s .manages s'
  | leaves {s : State m n} {t c} {p : Robot} (idle : s.jobs t = .idle)
      (chair : s.seats t c = some (.robot p)) :
      Step rc s (.leaves p) ((s.removePlayer t c p).setJob t (.leaving p.id))
  | leave {s s' t} (h : LeaveStep s t s') : Step rc s .plays s'
  | user {s s'} (h : UserStep s s') : Step rc s .plays s'

namespace Manager

def players : Manager m → List Robot
  | .choosing _ ps | .entering ps _ _ => ps
  | .trying p ps _ _ | .calling p ps _ _ => p :: ps
  | _ => []

def entered : Manager m → List Int
  | .entering _ _ e | .trying _ _ _ e | .calling _ _ _ e | .returned e => e
  | _ => []

/-- A login batch is in flight. -/
def inBatch : Manager m → Bool
  | .choosing _ _ | .entering _ _ _ | .trying _ _ _ _ | .calling _ _ _ _ | .returned _ => true
  | _ => false

def deleted : Manager m → Option Int
  | .deleting id _ _ => some id
  | _ => none

end Manager

def State.Quiet (s : State m n) : Prop := s.manager.inBatch = false ∧ ∀ t, s.jobs t = .idle

def State.Seated (s : State m n) (p : Robot) : Prop := ∃ t c, s.seats t c = some (.robot p)

/-- No robot is lost: each is free or at a table, and not both. -/
def State.Kept (s : State m n) : Prop :=
  (∀ id p, s.all.lookup id = some p → s.free.lookup id = some p ∨ s.Seated p) ∧
    ∀ id p, s.free.lookup id = some p → ¬ s.Seated p

end Yola.Robots
