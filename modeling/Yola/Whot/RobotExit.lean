import Yola.Whot.Settlement

/-!
# Robots at the end of a game

A robot that gets the result of a game schedules its exit if the table and its own policy let it go.  The result
is sent before the table enters its last stage and before its players stop gaming, so the table never does.
-/

namespace Yola.Whot

/-- What the robots are configured with, who they are, and what they draw on this occasion. -/
structure RobotConfig (n : Nat) where
  isOpen : Bool
  tableMaxCount : Nat
  standMaxMoney : ℚ
  standMinMoney : ℚ
  isRobot : Int → Bool
  now : Int
  exitInterval : Fin n → Int
  exitHit : Fin n → Bool

/-- When a robot last left, and the chairs whose exit has been scheduled. -/
structure RobotLogic (n : Nat) where
  lastExitUnix : Int
  scheduled : List (Fin n)

variable {n : Nat} (cfg : RobotConfig n) (t : Table n)

def Table.userCount : Nat := t.seated.countP fun x => !cfg.isRobot x.2.uid

def Table.robotCount : Nat := t.seated.countP fun x => cfg.isRobot x.2.uid

namespace RobotLogic

variable (r : RobotLogic n) (c : Fin n) (p : Player)

def exitTooShort : Bool := cfg.now - r.lastExitUnix < cfg.exitInterval c

/-- `CanExit`, the policy of the robot on a chair. -/
def canExit : Bool :=
  if !cfg.isOpen then true
  else if r.exitTooShort cfg c then false
  else if t.userCount cfg = 0 || cfg.tableMaxCount < t.robotCount cfg then true
  else if cfg.standMaxMoney ≤ p.money || p.money ≤ cfg.standMinMoney then true
  else cfg.exitHit c

def onExit : RobotLogic n :=
  if !(t.canExit c && r.canExit cfg t c p) then r
  else { lastExitUnix := cfg.now, scheduled := r.scheduled ++ [c] }

/-- `SendPacketToClient` with the result, for what a robot does about it. -/
def onResult (x : Fin n × Player) : RobotLogic n :=
  if x.2.isOffline then r else if cfg.isRobot x.2.uid then r.onExit cfg t x.1 x.2 else r

/-- `broadcastResult` -/
def broadcastResult : RobotLogic n := t.seated.foldl (onResult cfg t) r

end RobotLogic

namespace Table

open Reasoning

variable {cfg t} {t' : Table n} {rc : RoomConfig} {c : Fin n} {p : Player} {winner : Option (Fin n)}

theorem settle_stage (t : Table n) : (t.settle rc).2.stage = t.stage := by
  unfold settle
  split
  · rfl
  · dsimp only
    split <;> rfl

/-- Between the last card and the end the table lets nobody go who is online. -/
theorem canExit_waitEnd (hst : t.stage.state = .waitEnd) (hp : t.seats c = some p)
    (honline : p.isOffline = false) : t.canExit c = false := by
  simp [canExit, hp, honline, hst]

theorem broadcastResult_waitEnd (hst : t.stage.state = .waitEnd) (r : RobotLogic n) :
    r.broadcastResult cfg t = r := by
  refine List.foldlRecOn (motive := (· = r)) t.seated _ rfl ?_
  rintro _ rfl ⟨c, p⟩ hseated
  unfold RobotLogic.onResult RobotLogic.onExit
  split
  · rfl
  · rename_i honline
    rw [canExit_waitEnd hst (mem_seated.mp hseated) (by simpa using honline)]
    split <;> rfl

/-- The result makes no robot leave, so all that may leave do only if none may. -/
theorem robots_leave_iff (hpossible : Possible rc t) (hend : TableStep rc t (.settled winner) t')
    (cfg : RobotConfig n) (lastExitUnix : Int) :
    (∀ c p, (t.settle rc).2.seats c = some p → cfg.isRobot p.uid = true →
        RobotLogic.canExit cfg (t.settle rc).2 ⟨lastExitUnix, []⟩ c p = true →
          c ∈ (RobotLogic.broadcastResult cfg (t.settle rc).2 ⟨lastExitUnix, []⟩).scheduled) ↔
      ∀ c p, (t.settle rc).2.seats c = some p → cfg.isRobot p.uid = true →
        RobotLogic.canExit cfg (t.settle rc).2 ⟨lastExitUnix, []⟩ c p = false := by
  cases (hpossible.inv.step hend).2 with
  | settled l stage settled =>
    have hst : (t.settle rc).2.stage.state = .waitEnd := (congrArg Stage.state t.settle_stage).trans stage
    rw [broadcastResult_waitEnd hst]
    simp

/-- Everybody is a robot. -/
def robotsOnly : RobotConfig 2 where
  isOpen := true
  tableMaxCount := 2
  standMaxMoney := 0
  standMinMoney := 0
  isRobot _ := true
  now := 0
  exitInterval _ := 3
  exitHit _ := false

theorem canExit_robotsOnly (t : Table 2) (c : Fin 2) (p : Player) :
    RobotLogic.canExit robotsOnly t ⟨-100, []⟩ c p = true := by
  have hnone : t.userCount robotsOnly = 0 := by simp [userCount, robotsOnly]
  unfold RobotLogic.canExit
  rw [hnone]
  rfl

theorem two_seated_at_end : ∃ (t : Table 2) (winner : Option (Fin 2)) (t' : Table 2) (c : Fin 2) (p : Player),
    Possible houseRules t ∧ TableStep houseRules t (.settled winner) t' ∧
      (t.settle houseRules).2.seats c = some p := by
  obtain ⟨ls, t, c, p, winner, t', hrun, -, hp, hset⟩ := two_are_settled
  have hid : ((t.settle houseRules).2.seats c).map Player.uid = (t.seats c).map Player.uid := t.settle_ids c
  rw [hp, Option.map_some] at hid
  obtain ⟨q, hq, -⟩ := Option.map_eq_some_iff.mp hid
  exact ⟨t, winner, t', c, q, (twoSeated_possible.next dealtTwo_step).run hrun, hset, hq⟩

/-- There is a robot that may leave, so there is one whose exit is not scheduled. -/
theorem robots_leave_iff_two : ∃ (t : Table 2) (winner : Option (Fin 2)) (t' : Table 2),
    Possible houseRules t ∧ TableStep houseRules t (.settled winner) t' ∧
    ¬ ∀ c p, (t.settle houseRules).2.seats c = some p → robotsOnly.isRobot p.uid = true →
      RobotLogic.canExit robotsOnly (t.settle houseRules).2 ⟨-100, []⟩ c p = true →
        c ∈ (RobotLogic.broadcastResult robotsOnly (t.settle houseRules).2 ⟨-100, []⟩).scheduled := by
  obtain ⟨t, winner, t', c, p, hposs, hset, hp⟩ := two_seated_at_end
  refine ⟨t, winner, t', hposs, hset, fun hleave => ?_⟩
  have hstay := (robots_leave_iff hposs hset robotsOnly (-100)).mp hleave c p hp rfl
  exact absurd (hstay.symm.trans (canExit_robotsOnly ..)) Bool.false_ne_true

/-- A robot that need not stay does not leave. -/
theorem robot_has_to_stay : ∃ (t : Table 2) (winner : Option (Fin 2)) (t' : Table 2) (c : Fin 2) (p : Player),
    Possible houseRules t ∧ TableStep houseRules t (.settled winner) t' ∧ (t.settle houseRules).2.seats c = some p ∧
    robotsOnly.isRobot p.uid = true ∧
    RobotLogic.canExit robotsOnly (t.settle houseRules).2 ⟨-100, []⟩ c p = true ∧
    (RobotLogic.broadcastResult robotsOnly (t.settle houseRules).2 ⟨-100, []⟩).scheduled = [] := by
  obtain ⟨t, winner, t', c, p, hposs, hset, hp⟩ := two_seated_at_end
  refine ⟨t, winner, t', c, p, hposs, hset, hp, rfl, canExit_robotsOnly .., ?_⟩
  cases (hposs.inv.step hset).2 with
  | settled l stage =>
    rw [broadcastResult_waitEnd ((congrArg Stage.state t.settle_stage).trans stage)]

end Table

end Yola.Whot
