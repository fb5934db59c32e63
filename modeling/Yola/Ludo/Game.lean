import Yola.Ludo.Table

/-!
# The course of a game

What the table does with requests and when the timer of a stage or the deadline of a game comes.  Random
choices are arguments.  A push to a player who is gone makes the table treat them as disconnected; that
may happen after any job, and in the middle of `Seat`.
-/

namespace Yola.Ludo

open Function

/-- The random choices of a roll: whether a roll after a six is held down, a number from one to five, and
one from one to six. -/
structure Roll where
  hit : Bool
  low : Fin 5
  full : Fin 6

/-- The random choices of a start: the shuffled numbers and the place of the six for each player, and the
first player. -/
structure Deal (n : Nat) where
  base : Fin n → List Int
  six : Fin n → Fin 3
  first : Nat

def Player.ctrlRollDice (r : Roll) (p : Player) : Int × Player :=
  let (x, p) := p.rollInitDiceList
  if 1 ≤ x ∧ x ≤ 6 then (x, p)
  else if p.lastRoll = 6 && r.hit then (1 + r.low, p)
  else if maximumDiceSlot ≤ p.dices.length then (1 + r.low, p)
  else (1 + r.full, p)

inductive TableEvent (n : Nat) where
  | silent
  | seated (p : Player) (lost : List (Fin n)) (failed : Bool)
  | left (c : Fin n)
  | offline (c : Fin n)
  | ready (c : Fin n) (ready : Bool)
  | started (gamers : List (Fin n))
  | rolled (c : Fin n) (dice : Int)
  | moved (c : Fin n) (req : MoveReq)
  | won (c : Fin n)
  | drawn
deriving DecidableEq

namespace Table

variable {n : Nat} (rc : RoomConfig n) (t : Table n)

/-- `enterStage`.  The timer of the stage before is cancelled, which may come too late. -/
def enterStage (state : StageID) : Table n :=
  { t with
    stage := ⟨state, t.stage.generation + 1, t.clock, state.timeout rc.fastMode * 10 ^ 9⟩
    timers := t.timers ++ [(state, t.stage.generation + 1)] }

/-! ## Coming and going -/

def canExit (c : Fin n) : Bool :=
  (t.seats c).any fun p =>
    match t.stage.state with
    | .wait => !p.isGaming
    | .result => true
    | _ => false

/-- `RemovePlayer`; `none` if it refuses. -/
def removePlayer (c : Fin n) : Option (Table n) :=
  match t.seats c with
  | none => none
  | some p =>
      if !t.canExit c then none
      else some ({ t with seats := update t.seats c none }.broadcastUserQuitPush c p)

/-- `Exit`, up to the logout, which is not about the table. -/
def exit (c : Fin n) : Option (Table n) :=
  match t.seats c with
  | none => none
  | some p => if p.exiting then none else t.removePlayer c

def offline (c : Fin n) : Table n :=
  match t.seats c with
  | none => t
  | some p =>
      if !p.isGaming then (t.exit c).getD t
      else (t.modify c (·.setOffline true)).broadcastUserOffline c

/-- `offlinePlayers`, with those that turn out to be disconnected on the way. -/
def offlinePlayers (players : List (Fin n)) : Table n :=
  players.foldl (fun t c => if (t.seats c).any (!·.isOffline) then t.offline c else t) t

def readyPlayers : List (Fin n) :=
  (t.seated.filter fun x => x.2.isReady && rc.baseMoney ≤ x.2.money).map Prod.fst

def canStartGame (players : List (Fin n)) : Bool := 2 ≤ players.length && players.length % 2 = 0

def tryEnterReady : Table n :=
  if t.stage.state ≠ .wait then t
  else if !canStartGame (t.readyPlayers rc) then t
  else t.enterStage rc .ready

def checkAutoReady (p : Player) : Player :=
  if rc.autoReady && !p.isReady && rc.baseMoney ≤ p.money then p.setStatus .ready else p

/-- `Seat`, of a player who is at no table; `none` if there is no chair.  Pushes to the players in `lost`
fail on the way; if one to the new player does, they are treated as disconnected and it returns at once. -/
def seat (p : Player) (lost : List (Fin n)) (failed : Bool) : Option (Table n) :=
  match (List.finRange n).find? fun c => (t.seats c).isNone with
  | none => none
  | some c =>
      let p := checkAutoReady rc ((p.reset.setOffline false).setStatus .sit)
      let t := { t with seats := update t.seats c (some p) }
      let t := (t.broadcastUserInfo c).sendScene rc c
      some
        (if failed then (t.offline c).offlinePlayers lost
        else (t.offlinePlayers lost).tryEnterReady rc)

/-- `ReEnter`, after the session has been replaced. -/
def reEnter (c : Fin n) : Table n :=
  (((t.modify c (·.setOffline false)).broadcastUserInfo c).sendScene rc c).broadcastUserOffline c

/-- `Ready`, of the player on a chair; `none` if it refuses. -/
def ready (c : Fin n) (ready : Bool) : Option (Table n) :=
  match t.seats c with
  | none => none
  | some p =>
      if t.stage.state ≠ .wait then none
      else
        let t :=
          if ready then (t.modify c (·.setStatus .ready)).tryEnterReady rc
          else t.modify c (·.setStatus .sit)
        some (t.sendToAllExcept (.ready p.uid ready) p.uid)

def setHosting (c : Fin n) (hosting : Bool) : Table n :=
  (t.modify c fun p =>
    if hosting then (if p.idleCount = 0 then p.incrTimeoutCnt true else p)
    else { p with idleCount := 0 }).broadcastHostingPush c hosting

/-- `CheckRoomLimit` finds nothing. -/
def withinRoomLimit (p : Player) : Bool :=
  !(p.money < rc.minMoney) && !(rc.maxMoney ≠ -1 && rc.maxMoney < p.money) &&
    !(p.money < rc.baseMoney) && !(p.vip < rc.vipLimit)

def checkKickPlayer (p : Player) : Bool :=
  match t.stage.state with
  | .wait => p.isOffline || !withinRoomLimit rc p
  | .result => p.isOffline
  | _ => false

def kick (t : Table n) (c : Fin n) : Table n :=
  if (t.seats c).any (t.checkKickPlayer rc) then (t.exit c).getD t else t

def checkKick : Table n := (List.finRange n).foldl (kick rc) t

def checkAutoReadyAll : Table n := { t with seats := fun c => (t.seats c).map (checkAutoReady rc) }

/-! ## Turns -/

def allowPlayerToMove (c : Fin n) : Table n :=
  ({ t with activeChair := some c }.enterStage rc .move).broadcastActivePlayerPush

def repeatPlayerTurn (c : Fin n) : Table n :=
  ({ t with activeChair := some c }.enterStage rc .dice).broadcastActivePlayerPush

def endPlayerTurn (c : Fin n) : Table n :=
  let t := t.modify c Player.finishTurn
  ({ t with activeChair := t.getNextActiveChair }.enterStage rc .dice).broadcastActivePlayerPush

/-- `RollDice`, of the player on a chair; `none` if it refuses, or panics for want of a board. -/
def rollDice (r : Roll) (c : Fin n) (timeout : Bool) : Option (DiceRsp × Table n) :=
  match t.seats c, t.board with
  | some p, some board =>
      if t.stage.state ≠ .dice || some c ≠ t.activeChair || !p.isGaming || p.isFinish then none
      else
        let (dice, p) := p.ctrlRollDice r
        let p := (p.addDice dice).incrTimeoutCnt timeout
        let t := { t with seats := update t.seats c (some p) }
        let movable := board.calcCanMoveDice p.color p.unusedDice
        let tripleSix := dice = bonusRollValue && p.isTripleSix
        some (diceResponse p dice,
          if !movable || tripleSix then t.endPlayerTurn rc c
          else if dice = bonusRollValue then t.repeatPlayerTurn rc c
          else t.allowPlayerToMove rc c)
  | _, _ => none

/-! ## Settlement -/

def playerResult (x : Fin n × Player) (winner : Bool) (score : ℚ) : PlayerResult n where
  userID := x.2.uid
  chairID := x.1
  isWinner := winner
  winScore := score

/-- `settleGame`.  The deadline of the game is cancelled, which may come too late. -/
def settleGame (winner : Option (Fin n)) (finishType : FinishType) : Table n :=
  let t := { t with gameGeneration := t.gameGeneration + 1 }
  let gamers := t.seated.filter fun x => x.2.isGaming
  let (t, result) : Table n × ResultPush n :=
    match winner.bind fun c => (t.seats c).map (c, ·) with
    | none =>
        ({ t with seats := fun c => (t.seats c).map fun p =>
            if p.isGaming then p.addMoney rc.baseMoney else p },
          ⟨finishType, 0, gamers.map (playerResult · false 0)⟩)
    | some w =>
        let losers := gamers.filter fun x => x.1 ≠ w.1
        let payout := rc.baseMoney + losers.length * rc.baseMoney * (1 - rc.fee)
        (t.modify w.1 (·.addMoney payout),
          ⟨finishType, w.2.uid,
            losers.map (playerResult · false (-rc.baseMoney)) ++ [playerResult w true payout]⟩)
  (t.enterStage rc .result).sendToAll (.result result)

/-- What follows a move: the player who moved has a piece home, or killed one, or neither. -/
def afterMove (c : Fin n) (p : Player) (board : Board) (arrived : Bool) (step : Step) : Table n :=
  if arrived && (board.getActivePieceIDs p.color).length = 0 then
    (t.modify c Player.setFinish).settleGame rc (some c) .playerHandEmpty
  else if arrived || 0 < step.killed.length then t.repeatPlayerTurn rc c
  else if !board.calcCanMoveDice p.color p.unusedDice then t.endPlayerTurn rc c
  else t.allowPlayerToMove rc c

/-- `MovePiece`, of the player on a chair; `none` if it refuses, or panics for want of a board. -/
def movePiece (c : Fin n) (req : MoveReq) (timeout : Bool) : Option (MoveRsp × Table n) :=
  match t.seats c, t.board with
  | some p, some board =>
      if t.stage.state ≠ .move || some c ≠ t.activeChair || !p.isGaming || p.isFinish then none
      else if !p.hasUnusedDice req.diceValue then none
      else if !(board.canMove p.color req.pieceId req.diceValue).1 then none
      else
        match board.move req.pieceId req.diceValue with
        | none => none
        | some (step, board) =>
            let arrived := (board.getPieceByID req.pieceId).any Piece.isArrived
            let p := (p.useDice req.diceValue).incrTimeoutCnt timeout
            let t := { t with board := some board, seats := update t.seats c (some p) }
            some (t.moveResponse p req.diceValue step, t.afterMove rc c p board arrived step)
  | _, _ => none

def moveEvent (c : Fin n) (req : MoveReq) : TableEvent n :=
  if t.stage.state = .result then .won c else .moved c req

/-! ## Timers -/

def startPlayer (d : Deal n) (c : Fin n) (p : Player) : Player :=
  { ({ p.setStatus .gaming with money := p.money - rc.baseMoney }.initDicesSequence rc.fastMode
      (d.base c) (d.six c)) with color := (c : Int) }

def prepareGame (d : Deal n) (players : List (Fin n)) : Table n :=
  let t := players.foldl (fun t c => t.modify c (startPlayer rc d c)) t
  let t := { t with
    board := some (Board.new (players.map (Fin.castLE rc.chairNum_le)) 4 rc.fastMode) }
  if rc.fastMode then
    { t with
      gameGeneration := t.gameGeneration + 1
      fastTimers := t.fastTimers ++ [t.gameGeneration + 1] }
  else t

def chooseFirstChair (players : List (Fin n)) (first : Nat) : Table n :=
  { t with
    activeChair := players[first % players.length]?
    firstChair := players[first % players.length]? }

def startGame (d : Deal n) : TableEvent n × Table n :=
  if t.stage.state ≠ .ready then (.silent, t.enterStage rc .wait)
  else
    let players := t.readyPlayers rc
    if !canStartGame players then (.silent, t.enterStage rc .wait)
    else
      let t := (t.prepareGame rc d players).chooseFirstChair players d.first
      (.started players, (t.dispatchCardPush players).enterStage rc .sendCard)

def onSendCardTimeout : Table n := (t.enterStage rc .dice).broadcastActivePlayerPush

def onDiceTimeout (r : Roll) : TableEvent n × Table n :=
  match t.activePlayer with
  | none => (.silent, t)
  | some (c, p) =>
      if !p.isGaming then (.silent, t)
      else
        match t.rollDice rc r c true with
        | none => (.silent, t)
        | some (rsp, t) => (.rolled c rsp.dice, t.broadcastDicePush none rsp)

def onMoveTimeout : TableEvent n × Table n :=
  match t.activePlayer, t.board with
  | some (c, p), some board =>
      if !p.isGaming then (.silent, t)
      else if t.stage.state ≠ .move then (.silent, t)
      else
        let (id, x) := findBestMoveSequence board p.unusedDice p.color
        if id ≤ -1 || x ≤ -1 then (.silent, t)
        else
          match t.movePiece rc c ⟨id, x⟩ true with
          | none => (.silent, t)
          | some (rsp, t) => (t.moveEvent c ⟨id, x⟩, t.broadcastMovePush none rsp)
  | _, _ => (.silent, t)

def resetForNextGame : Table n := ((t.reset.enterStage rc .wait).checkKick rc).checkAutoReadyAll rc

def handleStageTimeout (r : Roll) (d : Deal n) : TableEvent n × Table n :=
  match t.stage.state with
  | .wait => (.silent, t.tryEnterReady rc)
  | .ready => t.startGame rc d
  | .sendCard => (.silent, t.onSendCardTimeout rc)
  | .dice => t.onDiceTimeout rc r
  | .move => t.onMoveTimeout rc
  | .result => (.silent, t.resetForNextGame rc)

/-- The timer that `enterStage` set. -/
def onStageTimer (r : Roll) (d : Deal n) (state : StageID) (generation : Nat) : TableEvent n × Table n :=
  if t.stage.state ≠ state || t.stage.generation ≠ generation then (.silent, t)
  else t.handleStageTimeout rc r d

/-- The timer that `prepareGame` set. -/
def onFastTimer (generation : Nat) : TableEvent n × Table n :=
  if t.gameGeneration ≠ generation then (.silent, t)
  else (.drawn, t.settleGame rc none .none)

end Table

/-! ## The system -/

inductive TableStep {n : Nat} (rc : RoomConfig n) : Table n → TableEvent n → Table n → Prop where
  | seat {t t' : Table n} (p lost failed)
      (step : t.seat rc p lost failed = some t') : TableStep rc t (.seated p lost failed) t'
  | exit {t t' : Table n} (c) (step : t.exit c = some t') : TableStep rc t (.left c) t'
  -- the first half of a change of tables
  | leave {t t' : Table n} (c) (step : t.removePlayer c = some t') :
      TableStep rc t (.left c) t'
  | reEnter {t : Table n} (c) : TableStep rc t .silent (t.reEnter rc c)
  | ready {t t' : Table n} (c ready) (step : t.ready rc c ready = some t') :
      TableStep rc t (.ready c ready) t'
  | hosting {t : Table n} (c hosting) : TableStep rc t .silent (t.setHosting c hosting)
  | offline {t : Table n} (c) : TableStep rc t (.offline c) (t.offline c)
  -- what the sessions do to a player at any time
  | flags {t : Table n} (c isOffline exiting) :
      TableStep rc t .silent (t.modify c fun p => { p with isOffline := isOffline, exiting := exiting })
  | tick {t : Table n} (elapsed) : TableStep rc t .silent { t with clock := t.clock + elapsed }
  | rollDice {t t' : Table n} {rsp : DiceRsp} (r c requester)
      (step : t.rollDice rc r c false = some (rsp, t')) :
      TableStep rc t (.rolled c rsp.dice) (t'.broadcastDicePush requester rsp)
  | movePiece {t t' : Table n} {rsp} (c req requester)
      (step : t.movePiece rc c req false = some (rsp, t')) :
      TableStep rc t (t'.moveEvent c req) (t'.broadcastMovePush requester rsp)
  | timer {t t' : Table n} {e a b} (r) (d : Deal n)
      (state generation) (timers : t.timers = a ++ (state, generation) :: b)
      (base : ∀ c, (d.base c).Perm [1, 2, 3, 4, 5])
      (step : { t with timers := a ++ b }.onStageTimer rc r d state generation = (e, t')) :
      TableStep rc t e t'
  | fastTimer {t t' : Table n} {e a b} (generation)
      (timers : t.fastTimers = a ++ generation :: b)
      (step : { t with fastTimers := a ++ b }.onFastTimer rc generation = (e, t')) :
      TableStep rc t e t'

end Yola.Ludo
