import Mathlib.Algebra.Ring.Nat
import Mathlib.Data.Rat.Defs
import Yola.Ludo.Search

/-!
# A Ludo table

The state of a table and of the players at it.  A chair is a place of the table; where the source writes
a chair of `-1` there is none.  Money is exact.  The jobs of a table run one after another.
-/

namespace Yola.Ludo

/-! ## Players -/

/-- `Status`; the table never folds a player. -/
inductive Status where
  | free
  | sit
  | ready
  | gaming
deriving DecidableEq

structure DiceSlot where
  value : Int
  used : Bool
deriving DecidableEq

structure Player where
  uid : Int
  vip : Int
  money : ℚ
  status : Status
  idleCount : Nat
  isOffline : Bool
  exiting : Bool
  color : Int
  initDiceList : List Int
  lastRoll : Int
  dices : List DiceSlot
  lastDices : List DiceSlot
  allArrived : Bool
deriving DecidableEq

def tripleRollLimit : Nat := 3

def maximumDiceSlot : Nat := 4

def bonusRollValue : Int := 6

/-- The loop of `UseDice`: the first slot that fits. -/
def useSlot (value : Int) : List DiceSlot → List DiceSlot
  | [] => []
  | d :: dices =>
      if d.value = value && !d.used then { d with used := true } :: dices else d :: useSlot value dices

namespace Player

def reset (p : Player) : Player :=
  { p with
    status := .free
    idleCount := 0
    color := -1
    initDiceList := []
    lastRoll := -1
    dices := []
    lastDices := []
    allArrived := false }

def setStatus (s : Status) (p : Player) : Player := { p with status := s }

def isGaming (p : Player) : Bool := p.status = .gaming

def isReady (p : Player) : Bool := p.status = .ready

def isFinish (p : Player) : Bool := p.allArrived

def setFinish (p : Player) : Player := { p with allArrived := true }

def setOffline (offline : Bool) (p : Player) : Player := { p with isOffline := offline }

def addMoney (amount : ℚ) (p : Player) : Player := { p with money := p.money + amount }

def incrTimeoutCnt (timeout : Bool) (p : Player) : Player :=
  if timeout then { p with idleCount := p.idleCount + 1 } else p

/-- `InitDicesSequence`, with the shuffled numbers and the place of the six. -/
def initDicesSequence (fastMode : Bool) (base : List Int) (six : Fin 3) (p : Player) : Player :=
  if fastMode then p else { p with initDiceList := (base.take 4).set six 6 }

def addDice (value : Int) (p : Player) : Player :=
  { p with dices := p.dices ++ [⟨value, false⟩], lastRoll := value }

def unusedDice (p : Player) : List Int := (p.dices.filter (!·.used)).map DiceSlot.value

def hasUnusedDice (value : Int) (p : Player) : Bool := p.dices.any fun d => d.value = value && !d.used

def useDice (value : Int) (p : Player) : Player := { p with dices := useSlot value p.dices }

/-- The last three dice that are not used are sixes. -/
def isTripleSix (p : Player) : Bool :=
  tripleRollLimit ≤ ((p.dices.filter (!·.used)).reverse.takeWhile (·.value = maximumDiceValue)).length

def finishTurn (p : Player) : Player := { p with lastDices := p.dices, dices := [] }

def rollInitDiceList (p : Player) : Int × Player :=
  match p.initDiceList with
  | [] => (-1, p)
  | dice :: rest => (dice, { p with initDiceList := rest })

end Player

/-! ## Rooms and stages -/

/-- `conf.Room`, as far as it passes its validation, and the mode the game is built for. -/
structure RoomConfig (n : Nat) where
  chairNum_le : n ≤ 4
  fastMode : Bool
  autoReady : Bool
  minMoney : ℚ
  maxMoney : ℚ
  baseMoney : ℚ
  fee : ℚ
  vipLimit : Int

inductive StageID where
  | wait
  | ready
  | sendCard
  | dice
  | move
  | result
deriving DecidableEq

/-- In seconds. -/
def StageID.timeout (fastMode : Bool) : StageID → Nat
  | .wait | .ready => 0
  | .sendCard => 3
  | .dice | .move => if fastMode then 5 else 7
  | .result => 3

/-- Times are in nanoseconds. -/
structure Stage where
  state : StageID
  generation : Nat
  startedAt : Nat
  duration : Nat
deriving DecidableEq

def Stage.remaining (s : Stage) (now : Nat) : Nat := s.duration - (now - s.startedAt)

/-! ## Messages -/

inductive ActionType where
  | none
  | acDice
  | acMove
deriving DecidableEq

structure PlayerInfo (n : Nat) where
  userId : Int
  chairId : Fin n
  status : Status
  hosting : Bool
  offline : Bool
  color : Int
  diceList : List DiceSlot
  canAction : ActionType
deriving DecidableEq

/-- The layout of the board, which never changes, is left out. -/
structure SceneRsp (n : Nat) where
  baseScore : ℚ
  stage : StageID
  timeout : Nat
  active : Option (Fin n)
  firstChair : Option (Fin n)
  players : List (PlayerInfo n)
  pieces : List Piece
deriving DecidableEq

structure ActivePush (n : Nat) where
  stage : StageID
  timeout : Nat
  active : Option (Fin n)
  unusedDices : List Int
  canAction : ActionType
deriving DecidableEq

structure DiceRsp where
  uid : Int
  dice : Int
  diceList : List DiceSlot
deriving DecidableEq

structure DiceMove where
  playerId : Int
  pieceId : Int
  fromPos : Int
  toPos : Int
deriving DecidableEq

structure MoveRsp where
  diceValue : Int
  move : DiceMove
  killed : List DiceMove
  pieces : List Piece
deriving DecidableEq

/-- `MoveReq`; the user id is read by nobody. -/
structure MoveReq where
  pieceId : Int
  diceValue : Int
deriving DecidableEq

inductive FinishType where
  | none
  | playerHandEmpty
deriving DecidableEq

structure PlayerResult (n : Nat) where
  userID : Int
  chairID : Fin n
  isWinner : Bool
  winScore : ℚ
deriving DecidableEq

structure ResultPush (n : Nat) where
  finishType : FinishType
  winnerID : Int
  results : List (PlayerResult n)
deriving DecidableEq

/-- What a player gets; chats and forwarded messages are left out. -/
inductive Push (n : Nat) where
  | userInfo (userID : Int) (chairID : Fin n) (money : ℚ) (vip : Int) (status : Status)
  | ready (userID : Int) (isReady : Bool)
  | hosting (chairID : Fin n) (status : Int) (aiNum : Nat)
  | userOffline (userID : Int) (isOffline : Bool)
  | playerQuit (userID : Int) (chairID : Fin n)
  | sendCard (userID : Int) (firstChair : Option (Fin n)) (color : Int) (pieces : List Piece)
  | scene (rsp : SceneRsp n)
  | active (rsp : ActivePush n)
  | dice (rsp : DiceRsp)
  | move (rsp : MoveRsp)
  | result (rsp : ResultPush n)
deriving DecidableEq

/-! ## The table -/

structure Table (n : Nat) where
  clock : Nat
  stage : Stage
  /-- The timers of stages that may still come, with what they were set for. -/
  timers : List (StageID × Nat)
  /-- The deadlines of games that may still come. -/
  fastTimers : List Nat
  gameGeneration : Nat
  seats : Fin n → Option Player
  activeChair : Option (Fin n)
  firstChair : Option (Fin n)
  board : Option Board
  /-- What has been sent, and to which chair. -/
  outbox : List (Fin n × Push n)

namespace Table

variable {n : Nat}

def new : Table n where
  clock := 0
  stage := ⟨.wait, 0, 0, 0⟩
  timers := []
  fastTimers := []
  gameGeneration := 0
  seats _ := none
  activeChair := none
  firstChair := none
  board := none
  outbox := []

variable (t : Table n)

def modify (c : Fin n) (f : Player → Player) : Table n :=
  { t with seats := Function.update t.seats c ((t.seats c).map f) }

def reset : Table n :=
  { t with
    activeChair := none
    firstChair := none
    board := none
    seats := fun c => (t.seats c).map Player.reset }

def seated : List (Fin n × Player) := (List.finRange n).filterMap fun c => (t.seats c).map (c, ·)

def playing (c : Fin n) : Bool := (t.seats c).any fun p => p.isGaming && !p.isFinish

theorem chair_lt (c : Fin n) (k : Nat) : (c + 1 + k) % n < n := Nat.mod_lt _ c.pos

def chairsAfter (c : Fin n) : List (Fin n) := (List.range n).map fun k => ⟨(c + 1 + k) % n, chair_lt c k⟩

def nextPlayer (c : Fin n) : Option (Fin n) := (chairsAfter c).find? t.playing

def getNextActiveChair : Option (Fin n) := t.activeChair.bind t.nextPlayer

def activePlayer : Option (Fin n × Player) := t.activeChair.bind fun c => (t.seats c).map (c, ·)

/-! ## Sending -/

/-- `sendPacket`, for each of the messages. -/
def push (l : List (Fin n × Push n)) : Table n :=
  { t with outbox := t.outbox ++ l.filter fun d => (t.seats d.1).any (!·.isOffline) }

def sendToAll (msg : Push n) : Table n := t.push (t.seated.map fun x => (x.1, msg))

def sendToAllExcept (msg : Push n) (excludedUID : Int) : Table n :=
  t.push ((t.seated.filter fun x => x.2.uid ≠ excludedUID).map fun x => (x.1, msg))

def userInfo (src : Fin n × Player) : Push n := .userInfo src.2.uid src.1 src.2.money src.2.vip src.2.status

def broadcastUserInfo (c : Fin n) : Table n :=
  t.push
    (match t.seats c with
    | none => []
    | some p =>
        (c, userInfo (c, p)) :: (t.seated.filter fun x => x.1 ≠ c).flatMap fun x =>
          [(x.1, userInfo (c, p)), (c, userInfo x)])

def broadcastUserOffline (c : Fin n) : Table n :=
  t.push
    (match t.seats c with
    | none => []
    | some p => t.seated.map fun x => (x.1, .userOffline p.uid p.isOffline))

def broadcastUserQuitPush (c : Fin n) (p : Player) : Table n := t.sendToAllExcept (.playerQuit p.uid c) p.uid

def broadcastHostingPush (c : Fin n) (hosting : Bool) : Table n :=
  t.push
    (match t.seats c with
    | none => []
    | some p =>
        (t.seated.filter fun x => x.2.uid ≠ p.uid).map fun x =>
          (x.1, .hosting c (if hosting then 1 else 0) p.idleCount))

def boardPieces : List Piece := (t.board.map Board.pieces).getD []

def dispatchCardPush (players : List (Fin n)) : Table n :=
  t.push (players.filterMap fun c => (t.seats c).bind fun p =>
    if p.isGaming then some (c, .sendCard p.uid t.firstChair p.color t.boardPieces) else none)

def getCanAction (c : Fin n) (p : Player) : ActionType :=
  if !p.isGaming || some c ≠ t.activeChair || p.isFinish then .none
  else
    match t.stage.state with
    | .dice => .acDice
    | .move => .acMove
    | _ => .none

def getScene (x : Fin n × Player) : PlayerInfo n where
  userId := x.2.uid
  chairId := x.1
  status := x.2.status
  hosting := 0 < x.2.idleCount
  offline := x.2.isOffline
  color := x.2.color
  diceList := if some x.1 ≠ t.activeChair then x.2.lastDices else x.2.dices
  canAction := t.getCanAction x.1 x.2

def scene (rc : RoomConfig n) : SceneRsp n where
  baseScore := rc.baseMoney
  stage := t.stage.state
  timeout := t.stage.remaining t.clock / 10 ^ 9
  active := t.activeChair
  firstChair := t.firstChair
  players := t.seated.map t.getScene
  pieces := t.boardPieces

def sendScene (rc : RoomConfig n) (c : Fin n) : Table n := t.push [(c, .scene (t.scene rc))]

def activePush : ActivePush n where
  stage := t.stage.state
  timeout := t.stage.remaining t.clock / 10 ^ 9
  active := t.activeChair
  unusedDices := (t.activePlayer.map fun x => x.2.unusedDice).getD []
  canAction := (t.activePlayer.map fun x => t.getCanAction x.1 x.2).getD .none

def broadcastActivePlayerPush : Table n := t.sendToAll (.active t.activePush)

def diceResponse (p : Player) (dice : Int) : DiceRsp := ⟨p.uid, dice, p.dices⟩

def moveResponse (p : Player) (dice : Int) (step : Step) : MoveRsp where
  diceValue := dice
  move := ⟨p.uid, step.id, step.fromPos, step.toPos⟩
  killed := step.killed.map fun killed => ⟨0, killed.id, killed.fromPos, killed.toPos⟩
  pieces := t.boardPieces

/-- `BroadcastDicePush`, except to the player who asked, if it was one. -/
def broadcastDicePush (requester : Option Int) (rsp : DiceRsp) : Table n :=
  match requester with
  | none => t.sendToAll (.dice rsp)
  | some uid => t.sendToAllExcept (.dice rsp) uid

def broadcastMovePush (requester : Option Int) (rsp : MoveRsp) : Table n :=
  match requester with
  | none => t.sendToAll (.move rsp)
  | some uid => t.sendToAllExcept (.move rsp) uid

end Table

end Yola.Ludo
