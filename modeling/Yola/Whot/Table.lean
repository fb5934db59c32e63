import Mathlib.Algebra.BigOperators.Group.List.Basic
import Mathlib.Algebra.Ring.Int.Defs
import Mathlib.Algebra.Ring.Nat
import Mathlib.Data.Rat.Defs
import Yola.Whot.Card

/-!
# A Whot table

The state of a table and of the players at it.  A chair is a place of the table; where the source writes
a chair of `-1` there is none.  Money is exact.  The jobs of a table run one after another.
-/

namespace Yola.Whot

inductive Status where
  | free
  | sit
  | ready
  | gaming
deriving DecidableEq

structure Player where
  uid : Int
  vip : Int
  money : ℚ
  status : Status
  idleCount : Nat
  bet : ℚ
  cards : List Card
  isOffline : Bool
  exiting : Bool
deriving DecidableEq

namespace Player

def reset (p : Player) : Player := { p with status := .free, idleCount := 0, bet := 0, cards := [] }

def setStatus (s : Status) (p : Player) : Player := { p with status := s }

def isGaming (p : Player) : Bool := p.status = .gaming

def isReady (p : Player) : Bool := p.status = .ready

def setOffline (offline : Bool) (p : Player) : Player := { p with isOffline := offline }

/-- `refreshCards` sorts nothing if there is nothing. -/
def addCards (cards : List Card) (p : Player) : Player := { p with cards := sortCards (p.cards ++ cards) }

/-- `xgo.SliceSubtract` takes one copy away. -/
def removeCard (card : Card) (p : Player) : Player := { p with cards := sortCards (p.cards.erase card) }

def getHandScore (p : Player) : Int := (p.cards.map (·.tmod 100)).sum

def intoGaming (bet : ℚ) (p : Player) : Player := { p with money := p.money - bet, bet := p.bet + bet }

def addMoney (money : ℚ) (p : Player) : Player := { p with money := p.money + money }

end Player

structure RoomConfig where
  autoReady : Bool
  minMoney : ℚ
  maxMoney : ℚ
  baseMoney : ℚ
  fee : ℚ
  vipLimit : Int

inductive StageID where
  | wait
  | ready
  | sendCard
  | playing
  | waitEnd
  | ended
deriving DecidableEq

/-- In seconds. -/
def StageID.timeout : StageID → Nat
  | .wait | .ready => 0
  | .sendCard => 3
  | .playing => 8
  | .waitEnd => 3
  | .ended => 10

/-- Times are in nanoseconds. -/
structure Stage where
  state : StageID
  generation : Nat
  startAt : Nat
  duration : Nat
deriving DecidableEq

def Stage.remaining (s : Stage) (now : Nat) : Nat := s.duration - (now - s.startAt)

inductive Effect where
  | normal
  | holdOn
  | pickTwo
  | suspend
  | market
  | whot
deriving DecidableEq

structure Pending (n : Nat) where
  initiator : Fin n
  target : Option (Fin n)
  effect : Effect
  quantity : Nat
deriving DecidableEq

/-- The numbers of the actions that are known; any other is `other`. -/
inductive Action where
  | playCard
  | drawCard
  | declareSuit
  | skipTurn
  | other
deriving DecidableEq

def Action.num : Action → Nat
  | .playCard => 1
  | .drawCard => 2
  | .declareSuit => 3
  | .skipTurn => 4
  | .other => 0

/-- `PlayerActionReq`; the user id is read by nobody. -/
structure ActionReq where
  action : Action
  outCard : Int
  declareSuit : Int
deriving DecidableEq

structure ActionOption where
  action : Action
  cards : List Card
  drawCount : Nat
  suits : List Int
deriving DecidableEq

/-! ## Messages -/

structure PlayerInfo (n : Nat) where
  userId : Int
  chairId : Fin n
  status : Status
  hosting : Bool
  offline : Bool
  cards : List Card
  canOp : List ActionOption
deriving DecidableEq

structure SceneRsp (n : Nat) where
  baseScore : ℚ
  stage : StageID
  timeout : Nat
  active : Option (Fin n)
  firstChair : Option (Fin n)
  currCard : Card
  declareSuit : Int
  leftNum : Nat
  pending : Option (Pending n)
  players : List (PlayerInfo n)
deriving DecidableEq

structure ActivePush (n : Nat) where
  stage : StageID
  timeout : Nat
  active : Option (Fin n)
  leftNum : Nat
  cardsNum : Nat
  pending : Option (Pending n)
  canOp : List ActionOption
deriving DecidableEq

structure PlayerActionRsp (n : Nat) where
  userId : Int
  chairId : Fin n
  action : Action
  leftNum : Nat
  effect : Option (Pending n)
  cardsNum : Nat
  playCard : Card
  playCards : List Card
  drawNum : Nat
  drawn : List Card
  drawCards : List Card
  declaredSuit : Int
deriving DecidableEq

structure MarketDrawCardPush (n : Nat) where
  userID : Int
  chairID : Fin n
  drawNum : Nat
  cardsNum : Nat
  leftNum : Nat
  draw : List Card
  cards : List Card
deriving DecidableEq

inductive FinishType where
  | playerHandEmpty
  | deckEmpty
deriving DecidableEq

structure PlayerResult (n : Nat) where
  userID : Int
  chairID : Fin n
  isWinner : Bool
  winScore : ℚ
  handCards : List Card
  handCardsScore : Int
deriving DecidableEq

structure ResultPush (n : Nat) where
  finishType : FinishType
  winnerID : Int
  results : List (PlayerResult n)
deriving DecidableEq

/-- What a player gets; chats and forwarded messages are left out. -/
inductive Push (n : Nat) where
  | userInfo (userID : Int) (chairID : Fin n) (money : ℚ) (vip : Int) (status : Status)
  | ready (userID : Int) (isReady : Bool)
  | hosting (chairID : Fin n) (status : Int) (aiNum : Nat)
  | userOffline (userID : Int) (isOffline : Bool)
  | playerQuit (userID : Int) (chairID : Fin n)
  | matchResult (uid : Int)
  | sendCard (userID : Int) (cards bottom : List Card) (leftNum : Nat)
  | scene (rsp : SceneRsp n)
  | active (rsp : ActivePush n)
  | playerAction (rsp : PlayerActionRsp n)
  | marketDraw (rsp : MarketDrawCardPush n)
  | result (rsp : Option (ResultPush n))
deriving DecidableEq

/-! ## The table -/

structure Table (n : Nat) where
  clock : Nat
  stage : Stage
  /-- The generations whose timer may still come. -/
  timers : List Nat
  cards : GameCards
  seats : Fin n → Option Player
  active : Option (Fin n)
  first : Option (Fin n)
  currCard : Card
  declareSuit : Int
  pending : Option (Pending n)
  /-- What has been sent, and to which chair. -/
  outbox : List (Fin n × Push n)

namespace Table

variable {n : Nat}

def new : Table n where
  clock := 0
  stage := ⟨.wait, 0, 0, 0⟩
  timers := []
  cards := .new
  seats _ := none
  active := none
  first := none
  currCard := -1
  declareSuit := -1
  pending := none
  outbox := []

variable (t : Table n)

def modify (c : Fin n) (f : Player → Player) : Table n :=
  { t with seats := Function.update t.seats c ((t.seats c).map f) }

def reset : Table n :=
  { t with
    active := none
    first := none
    currCard := -1
    declareSuit := -1
    pending := none
    seats := fun c => (t.seats c).map Player.reset }

def seated : List (Fin n × Player) := (List.finRange n).filterMap fun c => (t.seats c).map (c, ·)

def getGamers : List (Fin n × Player) := t.seated.filter (·.2.isGaming)

def gaming (c : Fin n) : Bool := (t.seats c).any Player.isGaming

def chairsAfter (c : Fin n) (count : Nat) : List (Fin n) :=
  (List.range count).map fun k => ⟨(c + 1 + k) % n, Nat.mod_lt _ c.pos⟩

def nextPlayer (c : Fin n) : Option (Fin n) := (chairsAfter c n).find? t.gaming

def getNextActiveChair : Option (Fin n) := t.active.bind t.nextPlayer

/-- `updateStage`.  The timer of the stage before is cancelled, which may come too late. -/
def updateStage (state : StageID) : Table n :=
  { t with
    stage := ⟨state, t.stage.generation + 1, t.clock, state.timeout * 10 ^ 9⟩
    timers := t.timers ++ [t.stage.generation + 1] }

/-! ## Rules -/

def canPlayCardOn (currCard card : Card) (pending : Option (Pending n)) : Bool :=
  match pending.map Pending.effect with
  | some .pickTwo | some .suspend => !isWhotCard card && number card = number currCard
  | some .market | some .whot => false
  | _ => isWhotCard card || suit card = suit currCard || number card = number currCard

def canOutCard (curr : Card) (hand : List Card) (card : Card) : Bool :=
  hand.any fun c => c = card && canPlayCardOn curr card t.pending

def canDrawCard (c : Fin n) : Bool :=
  match t.pending with
  | none => true
  | some pending =>
      if pending.target ≠ some c then false
      else
        match pending.effect with
        | .normal | .holdOn | .pickTwo => true
        | _ => false

def collectPlayCard (currCard : Card) (hand : List Card) (pending : Option (Pending n)) : List Card :=
  hand.filter fun card => canPlayCardOn currCard card pending

def newDrawOption (count : Nat) : ActionOption := ⟨.drawCard, [], count, []⟩

/-- `getCanOp`, of the player on a chair. -/
def getCanOp (c : Fin n) : List ActionOption :=
  match t.seats c with
  | none => []
  | some p =>
      if !p.isGaming || t.getGamers.length ≤ 1 || some c ≠ t.active then []
      else if t.stage.state ≠ .playing then []
      else
        let play :=
          match collectPlayCard t.currCard p.cards t.pending with
          | [] => []
          | canOuts => [⟨.playCard, canOuts, 0, []⟩]
        let sortOps (ops : List ActionOption) :=
          if 1 < ops.length then ops.insertionSort (·.action.num ≤ ·.action.num) else ops
        match t.pending with
        | none => sortOps (newDrawOption 1 :: play)
        | some pending =>
            match pending.effect with
            | .normal | .holdOn => sortOps (newDrawOption 1 :: play)
            | .pickTwo => sortOps (newDrawOption pending.quantity :: play)
            | .suspend => sortOps (⟨.skipTurn, [], 0, []⟩ :: play)
            | .whot => [⟨.declareSuit, [], 0, [1, 2, 3, 4, 5]⟩]
            | .market => sortOps play

/-! ## Sending -/

/-- `SendPacketToClient`, for each of the messages. -/
def push (l : List (Fin n × Push n)) : Table n :=
  { t with outbox := t.outbox ++ l.filter fun d => (t.seats d.1).any (!·.isOffline) }

def toAllExcept (msg : Push n) (uid : Int) : List (Fin n × Push n) :=
  (t.seated.filter fun x => x.2.uid ≠ uid).map fun x => (x.1, msg)

def sendPacketToAll (msg : Push n) : Table n := t.push (t.seated.map fun x => (x.1, msg))

def sendPacketToAllExcept (msg : Push n) (uid : Int) : Table n := t.push (t.toAllExcept msg uid)

def userInfo (src : Fin n × Player) : Push n := .userInfo src.2.uid src.1 src.2.money src.2.vip src.2.status

def broadcastUserInfo (c : Fin n) : Table n :=
  t.push
    (match t.seats c with
    | none => []
    | some p =>
        (c, userInfo (c, p)) :: (t.seated.filter fun x => x.1 ≠ c).flatMap fun x =>
          [(x.1, userInfo (c, p)), (c, userInfo x)])

def broadcastReadyRsp (p : Player) (ready : Bool) : Table n :=
  t.sendPacketToAllExcept (.ready p.uid ready) p.uid

def broadcastHostingRsp (c : Fin n) (hosting : Bool) : Table n :=
  t.push
    (match t.seats c with
    | none => []
    | some p => t.toAllExcept (.hosting c (if hosting then 2 else 1) p.idleCount) p.uid)

def broadcastUserOffline (c : Fin n) : Table n :=
  t.push
    (match t.seats c with
    | none => []
    | some p => t.seated.map fun x => (x.1, .userOffline p.uid p.isOffline))

def broadcastUserQuitPush (c : Fin n) (p : Player) : Table n :=
  t.sendPacketToAllExcept (.playerQuit p.uid c) p.uid

def sendMatchOk (c : Fin n) : Table n := t.push ((t.seats c).toList.map fun p => (c, .matchResult p.uid))

def dispatchCardPush (seats : List (Fin n)) (bottom : List Card) (leftNum : Nat) : Table n :=
  t.push (seats.filterMap fun c => (t.seats c).bind fun p =>
    if p.isGaming then some (c, .sendCard p.uid p.cards bottom leftNum) else none)

def getScene (subject : Fin n × Player) (includePrivate : Bool) : PlayerInfo n where
  userId := subject.2.uid
  chairId := subject.1
  status := subject.2.status
  hosting := 0 < subject.2.idleCount
  offline := subject.2.isOffline
  cards := if includePrivate then subject.2.cards else []
  canOp := if includePrivate then t.getCanOp subject.1 else []

def getPlayersScene (viewer : Fin n) : List (PlayerInfo n) :=
  t.seated.map fun subject => t.getScene subject (subject.1 = viewer)

variable (rc : RoomConfig)

def sceneInfo (viewer : Fin n) : SceneRsp n where
  baseScore := rc.baseMoney
  stage := t.stage.state
  timeout := t.stage.remaining t.clock / 10 ^ 9
  active := t.active
  firstChair := t.first
  currCard := t.currCard
  declareSuit := t.declareSuit
  leftNum := t.cards.getCardNum
  pending := t.pending
  players := t.getPlayersScene viewer

def sendSceneInfo (c : Fin n) : Table n := t.push [(c, .scene (t.sceneInfo rc c))]

def activePush (x : Fin n × Player) : ActivePush n where
  stage := t.stage.state
  timeout := t.stage.remaining t.clock / 10 ^ 9
  active := t.active
  leftNum := t.cards.getCardNum
  cardsNum := x.2.cards.length
  pending := t.pending
  canOp := t.getCanOp x.1

def broadcastActivePlayerPush : Table n := t.push (t.seated.map fun x => (x.1, .active (t.activePush x)))

def playerActionRsp (c : Fin n) (p : Player) (action : Action) (cs : List Card) (declaredSuit : Int)
    (v : Player) : PlayerActionRsp n :=
  let self := v.uid = p.uid
  { userId := p.uid
    chairId := c
    action := action
    leftNum := t.cards.getCardNum
    effect := t.pending
    cardsNum := p.cards.length
    playCard := if action = .playCard ∧ cs.length = 1 then cs.headD 0 else 0
    playCards := if action = .playCard ∧ self then p.cards else []
    drawNum := if action = .drawCard then cs.length else 0
    drawn := if action = .drawCard ∧ self then cs else []
    drawCards := if action = .drawCard ∧ self then p.cards else []
    declaredSuit := declaredSuit }

def broadcastPlayerAction (c : Fin n) (action : Action) (cs : List Card) (declaredSuit : Int) : Table n :=
  t.push
    (match t.seats c with
    | none => []
    | some p =>
        t.seated.map fun x => (x.1, .playerAction (t.playerActionRsp c p action cs declaredSuit x.2)))

def marketDrawCardPush (c : Fin n) (p : Player) (draw : List Card) (v : Player) : MarketDrawCardPush n where
  userID := p.uid
  chairID := c
  drawNum := draw.length
  cardsNum := p.cards.length
  leftNum := t.cards.getCardNum
  draw := if v.uid = p.uid then draw else []
  cards := if v.uid = p.uid then p.cards else []

def sendMarketDrawCardPush (c : Fin n) (draw : List Card) : Table n :=
  t.push
    (match t.seats c with
    | none => []
    | some p => t.seated.map fun x => (x.1, .marketDraw (t.marketDrawCardPush c p draw x.2)))

end Table

end Yola.Whot
