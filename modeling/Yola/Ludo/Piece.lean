import Mathlib.Algebra.BigOperators.Group.List.Basic
import Mathlib.Algebra.Ring.Int.Defs
import Mathlib.Data.Fin.Basic

/-!
# Pieces

The track has 52 public squares.  A piece enters it at the entry of its colour, goes round to its home
entrance and leaves it for its home path, whose last square is where it arrives.
-/

namespace Yola.Ludo

inductive PieceState where
  | idle
  | onBoard
  | inHomePath
  | arrived
deriving DecidableEq

def PieceState.num : PieceState → Int
  | .idle => 0
  | .onBoard => 1
  | .inHomePath => 2
  | .arrived => 3

inductive MoveCode where
  | moveOK
  | errInvalidPieceIdx
  | errInvalidPieceColor
  | errInvalidStep
  | errIdleMustBeSix
  | errExceedHomePath
  | errAlreadyArrived
deriving DecidableEq

def totalPositions : Int := 52

def homePathLen : Int := 6

def basePos : Int := -1

def maximumDiceValue : Int := 6

/-- One of the `ColorCount` colours. -/
abbrev Color := Fin 4

def entryPoints : Color → Int
  | 0 => 0
  | 1 => 13
  | 2 => 26
  | 3 => 39

def homeEntrances : Color → Int
  | 0 => 50
  | 1 => 11
  | 2 => 24
  | 3 => 37

def homeStartIndices : Color → Int
  | 0 => 101
  | 1 => 111
  | 2 => 121
  | 3 => 131

def safePositions : List Int := [0, 8, 13, 21, 26, 34, 39, 47]

def calcStateByPos (pos : Int) (color : Color) : PieceState :=
  if pos = basePos then .idle
  else
    let homeStart := homeStartIndices color
    let homeEnd := homeStart + homePathLen - 1
    if pos = homeEnd then .arrived
    else if homeStart ≤ pos ∧ pos < homeEnd then .inHomePath
    else if pos = homeEntrances color then .onBoard
    else if 0 ≤ pos ∧ pos < totalPositions then .onBoard
    else .idle

/-- Whether a piece can move, the code that says why not, and where it moves to. -/
def calcNextPos (pos : Int) (color : Color) (x : Int) : Bool × MoveCode × Int :=
  if x ≤ 0 ∨ maximumDiceValue < x then (false, .errInvalidStep, pos)
  else
    let homeStart := homeStartIndices color
    let homeEnd := homeStart + homePathLen - 1
    if pos = basePos then
      if x = maximumDiceValue then (true, .moveOK, entryPoints color)
      else (false, .errIdleMustBeSix, pos)
    else if pos = homeEnd then (false, .errAlreadyArrived, pos)
    else if homeStart ≤ pos ∧ pos < homeEnd then
      if pos + x ≤ homeEnd then (true, .moveOK, pos + x) else (false, .errExceedHomePath, pos)
    else if 0 ≤ pos ∧ pos < totalPositions then
      let distToEntry := (homeEntrances color - pos + totalPositions) % totalPositions
      if x ≤ distToEntry then (true, .moveOK, (pos + x) % totalPositions)
      else
        let homeSteps := x - distToEntry - 1
        if 0 ≤ homeSteps ∧ homeSteps < homePathLen then (true, .moveOK, homeStart + homeSteps)
        else (false, .errExceedHomePath, pos)
    else (false, .errInvalidStep, pos)

/-- The rule of movement for a piece as it stands in a snapshot on the wire. -/
def canMovePiece (pos color status steps : Int) : Bool :=
  if color < 0 ∨ 4 ≤ color then false
  else
    let color : Color := Fin.ofNat 4 color.toNat
    if status ≠ (calcStateByPos pos color).num then false else (calcNextPos pos color steps).1

/-- Where a piece starts, and where it goes when it is killed. -/
def calcBasePos (color : Color) (isFastMode : Bool) : Int :=
  if isFastMode then entryPoints color else basePos

def stepsFromStart (pos : Int) (color : Color) : Int :=
  if pos = basePos then 0
  else
    let homeStart := homeStartIndices color
    if homeStart ≤ pos ∧ pos < homeStart + homePathLen then totalPositions + (pos - homeStart)
    else if 0 ≤ pos ∧ pos < totalPositions then
      (pos - entryPoints color + totalPositions) % totalPositions
    else 0

structure Piece where
  id : Int
  color : Color
  pos : Int
  state : PieceState
deriving DecidableEq

namespace Piece

def new (id : Int) (color : Color) (isFastMode : Bool) : Piece :=
  if isFastMode then ⟨id, color, entryPoints color, .onBoard⟩ else ⟨id, color, basePos, .idle⟩

variable (p : Piece)

def isOnBoard : Bool := p.state = .onBoard

def isArrived : Bool := p.state = .arrived

def isEnemy (o : Piece) : Bool := p.color ≠ o.color

def setPos (pos : Int) : Piece := { p with pos := pos, state := calcStateByPos pos p.color }

/-- The enemies on a square that is not safe. -/
def canKillAt (pieces : List Piece) (targetPos : Int) : List Piece :=
  if p.state ≠ .onBoard then []
  else if targetPos ∈ safePositions then []
  else
    pieces.filter fun other =>
      other.id ≠ p.id && other.pos = targetPos && other.isOnBoard && p.isEnemy other

/-- Where the piece comes from and goes to, and the piece there. -/
def move (x : Int) : Int × Int × Piece :=
  let (canMove, _, newPos) := calcNextPos p.pos p.color x
  if !canMove then (p.pos, p.pos, p) else (p.pos, newPos, p.setPos newPos)

/-- The state of a piece is that of its square. -/
def Consistent : Prop := p.state = calcStateByPos p.pos p.color

variable {p}

@[simp] theorem setPos_setPos (pos pos' : Int) : (p.setPos pos').setPos pos = p.setPos pos := rfl

theorem Consistent.setPos_self (h : p.Consistent) : p.setPos p.pos = p := by
  unfold setPos
  rw [← h]

theorem consistent_new (id : Int) (color : Color) (isFastMode : Bool) :
    (new id color isFastMode).Consistent := by
  cases isFastMode
  · rfl
  · revert color
    change ∀ color, PieceState.onBoard = calcStateByPos (entryPoints color) color
    decide

theorem move_of_legal {x : Int} (h : (calcNextPos p.pos p.color x).1 = true) :
    p.move x = (p.pos, (calcNextPos p.pos p.color x).2.2, p.setPos (calcNextPos p.pos p.color x).2.2) := by
  unfold move
  dsimp only
  rw [h]
  rfl

theorem move_of_illegal {x : Int} (h : (calcNextPos p.pos p.color x).1 = false) :
    p.move x = (p.pos, p.pos, p) := by
  unfold move
  dsimp only
  rw [h]
  rfl

theorem Consistent.move (h : p.Consistent) (x : Int) :
    p.move x = (p.pos, (p.move x).2.1, p.setPos (p.move x).2.1) := by
  cases hleg : (calcNextPos p.pos p.color x).1 with
  | false => rw [move_of_illegal hleg, h.setPos_self]
  | true => rw [move_of_legal hleg]

/-- Whether the piece kills another by going to a square. -/
def Kills (p : Piece) (toPos : Int) (q : Piece) : Prop :=
  p.pos ≠ toPos ∧ calcStateByPos toPos p.color = .onBoard ∧ toPos ∉ safePositions ∧
    q.id ≠ p.id ∧ q.pos = toPos ∧ q.state = .onBoard ∧ p.color ≠ q.color

instance (p : Piece) (toPos : Int) (q : Piece) : Decidable (p.Kills toPos q) :=
  inferInstanceAs (Decidable (_ ∧ _))

theorem mem_canKillAt {pieces : List Piece} {toPos : Int} {v : Piece} (hne : p.pos ≠ toPos) :
    v ∈ (p.setPos toPos).canKillAt pieces toPos ↔ v ∈ pieces ∧ p.Kills toPos v := by
  unfold canKillAt Kills
  split
  · rename_i hstate
    exact ⟨nofun, fun h => absurd h.2.2.1 hstate⟩
  · rename_i hstate
    rw [not_not] at hstate
    split
    · rename_i hsafe
      exact ⟨nofun, fun h => absurd hsafe h.2.2.2.1⟩
    · rename_i hsafe
      simp [setPos, isOnBoard, isEnemy, hne, hsafe, show calcStateByPos toPos p.color = _ from hstate, and_assoc]

end Piece

/-! ## Legal moves -/

variable {pos x : Int} {color : Color}

/-- The ways a piece can go: out of its base, along its home path, along the track, or from the track home. -/
theorem calcNextPos_legal (h : (calcNextPos pos color x).1 = true) :
    0 < x ∧ x ≤ 6 ∧ (pos = -1 ∧ (calcNextPos pos color x).2.2 = entryPoints color ∨
      homeStartIndices color ≤ pos ∧ pos + x ≤ homeStartIndices color + 5 ∧
        (calcNextPos pos color x).2.2 = pos + x ∨
      0 ≤ pos ∧ pos < 52 ∧ x ≤ (homeEntrances color - pos + 52) % 52 ∧
        (calcNextPos pos color x).2.2 = (pos + x) % 52 ∨
      0 ≤ pos ∧ pos < 52 ∧ (homeEntrances color - pos + 52) % 52 < x ∧
        (calcNextPos pos color x).2.2 =
          homeStartIndices color + (x - (homeEntrances color - pos + 52) % 52 - 1)) := by
  revert h
  unfold calcNextPos maximumDiceValue basePos homePathLen totalPositions
  dsimp only
  split_ifs <;> grind

/-- The home entrance is fifty squares from the entry, and the home path is off the track. -/
theorem layout (color : Color) :
    0 ≤ entryPoints color ∧ entryPoints color < 52 ∧ homeEntrances color = (entryPoints color + 50) % 52 ∧
      101 ≤ homeStartIndices color := by
  revert color
  decide

theorem calcNextPos_ne (h : (calcNextPos pos color x).1 = true) : (calcNextPos pos color x).2.2 ≠ pos := by
  have hlayout := layout color
  have hleg := calcNextPos_legal h
  omega

theorem calcStateByPos_arrived : calcStateByPos pos color = .arrived ↔ pos = homeStartIndices color + 5 := by
  have hlayout := layout color
  unfold calcStateByPos basePos homePathLen
  grind

theorem calcNextPos_arrived (h : calcStateByPos pos color = .arrived) (x : Int) :
    (calcNextPos pos color x).1 = false := by
  rw [calcStateByPos_arrived] at h
  have hlayout := layout color
  rw [← Bool.not_eq_true]
  intro hok
  have hleg := calcNextPos_legal hok
  omega

end Yola.Ludo
