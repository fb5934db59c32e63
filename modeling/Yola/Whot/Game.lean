import Yola.Whot.Table

/-!
# The course of a game

What the table does with requests and when the timer of a stage comes.  Random choices are arguments.
-/

namespace Yola.Whot

namespace Table

variable {n : Nat} (rc : RoomConfig) (t : Table n)

/-! ## Coming and going -/

def canExit (c : Fin n) : Bool :=
  (t.seats c).any fun p =>
    !p.isGaming && (p.isOffline || t.stage.state = .wait || t.stage.state = .ended)

/-- `RemovePlayer`; `none` if it refuses. -/
def removePlayer (c : Fin n) : Option (Table n) :=
  match t.seats c with
  | none => none
  | some p =>
      if !t.canExit c then none
      else some ({ t with seats := Function.update t.seats c none }.broadcastUserQuitPush c p)

/-- `OnExitGame`, up to the logout, which is not about the table. -/
def onExitGame (c : Fin n) : Option (Table n) :=
  match t.seats c with
  | none => none
  | some p => if p.exiting then none else t.removePlayer c

def hasEnoughReadyPlayers : Bool :=
  2 ≤ (t.seated.filter fun x => x.2.isReady && rc.baseMoney ≤ x.2.money).length

def checkCanStart : Table n :=
  if t.stage.state ≠ .wait || !t.hasEnoughReadyPlayers rc then t else t.updateStage .ready

def checkAutoReady (p : Player) : Player :=
  if rc.autoReady && !p.isReady && rc.baseMoney ≤ p.money then p.setStatus .ready else p

/-- `Seat`, of a player who is at no table; `none` if there is no chair. -/
def seat (p : Player) : Option (Table n) :=
  match (List.finRange n).find? fun c => (t.seats c).isNone with
  | none => none
  | some c =>
      let p := checkAutoReady rc (p.reset.setStatus .sit)
      let t := { t with seats := Function.update t.seats c (some p) }
      some (((t.broadcastUserInfo c).sendSceneInfo rc c).checkCanStart rc)

/-- `ReEnter`, after the session has been replaced. -/
def reEnter (c : Fin n) : Table n :=
  (((t.modify c (·.setOffline false)).broadcastUserInfo c).sendSceneInfo rc c).broadcastUserOffline c

def onReadyReq (c : Fin n) (ready : Bool) : Option (Table n) :=
  match t.seats c with
  | none => none
  | some p =>
      if p.isGaming then none
      else
        some (((t.modify c (·.setStatus (if ready then .ready else .sit))).broadcastReadyRsp p
          ready).checkCanStart rc)

def onHosting (c : Fin n) (hosting : Bool) : Table n :=
  (t.modify c fun p => { p with
    idleCount := if hosting then p.idleCount + 1 else 0 }).broadcastHostingRsp c hosting

def onOffline (c : Fin n) : Table n :=
  match t.seats c with
  | none => t
  | some p =>
      if !p.isGaming then (t.onExitGame c).getD t
      else (t.modify c (·.setOffline true)).broadcastUserOffline c

/-- `CheckRoomLimit` finds nothing. -/
def withinRoomLimit (p : Player) : Bool :=
  !(p.money < rc.minMoney) && !(rc.maxMoney ≠ -1 && rc.maxMoney < p.money) &&
    !(p.money < rc.baseMoney) && !(p.vip < rc.vipLimit)

def checkKickPlayer (p : Player) : Bool :=
  match t.stage.state with
  | .wait => p.isOffline || !withinRoomLimit rc p
  | .waitEnd | .ended => p.isOffline
  | _ => false

def kick (t : Table n) (c : Fin n) : Table n :=
  if (t.seats c).any (t.checkKickPlayer rc) then (t.onExitGame c).getD t else t

def checkKick : Table n := (List.finRange n).foldl (kick rc) t

def checkAutoReadyAll : Table n := { t with seats := fun c => (t.seats c).map (checkAutoReady rc) }

/-! ## Start -/

def getReadySeats : List (Fin n) :=
  (t.seated.filter fun x => x.2.isReady && rc.baseMoney ≤ x.2.money).map Prod.fst

def intoGaming (seats : List (Fin n)) : Table n :=
  seats.foldl (fun t c =>
    (t.modify c fun p => (p.setStatus .gaming).intoGaming rc.baseMoney).sendMatchOk c) t

/-- `calcBanker`, with the random index. -/
def calcBanker (seats : List (Fin n)) (banker : Nat) : Table n :=
  { t with active := seats[banker % seats.length]?, first := seats[banker % seats.length]? }

def deal (t : Table n) (c : Fin n) : Table n :=
  let (cards, rest) := t.cards.dispatchCards 5
  { t with cards := rest }.modify c (·.addCards cards)

/-- `dispatchCard`, with the order of the shuffled cards; `none` if no card is left for the bottom. -/
def dispatchCard (seats : List (Fin n)) (order : List Card) : Option (Table n) :=
  let t := seats.foldl deal { t with cards := t.cards.shuffle order }
  let (bottom, cards) := t.cards.setBottom
  match bottom with
  | [] => none
  | card :: _ =>
      some ({ t with cards := cards, currCard := card }.dispatchCardPush seats bottom cards.getCardNum)

/-! ## Actions -/

/-- `drawCardByMarket`, for the chairs that are to come. -/
def drawCardByMarket : List (Fin n) → Table n → Bool × Table n
  | [], t => (t.cards.isEmpty, t)
  | c :: rest, t =>
      if !t.gaming c then drawCardByMarket rest t
      else
        let (drawn, cards) := t.cards.dispatchCards 1
        if drawn.length = 0 then (true, { t with cards := cards })
        else
          drawCardByMarket rest
            (({ t with cards := cards }.modify c (·.addCards drawn)).sendMarketDrawCardPush c drawn)

def effectOf (card : Card) : Effect :=
  if number card = holdOnCardNumber then .holdOn
  else if number card = pickTwoCardNumber then .pickTwo
  else if number card = suspendCardNumber then .suspend
  else if number card = marketCardNumber then .market
  else if number card = whotCardNumber then .whot
  else .normal

def pendingOf (c : Fin n) (card : Card) : Option (Pending n) :=
  if !isSpecialCard card then none
  else
    some {
      initiator := c
      target :=
        match effectOf card with
        | .pickTwo | .suspend => t.nextPlayer c
        | _ => some c
      effect := effectOf card
      quantity :=
        match effectOf card with
        | .pickTwo => 2
        | _ => 1 }

def updatePending (c : Fin n) (card : Card) : Table n := { t with pending := t.pendingOf c card }

/-- The end of every action that leaves the game going. -/
def passTo (active : Option (Fin n)) : Table n :=
  ({ t with active := active }.updateStage .playing).broadcastActivePlayerPush

def passToNext : Table n :=
  t.passTo
    (match t.pending with
    | some pending => pending.target
    | none => t.getNextActiveChair)

/-- `onPlayCard`, up to where it looks at the hand. -/
def layCard (c : Fin n) (card : Card) : Table n :=
  let t := { t.modify c (·.removeCard card) with currCard := card, declareSuit := -1 }
  (t.updatePending c card).broadcastPlayerAction c .playCard [card] 0

def onPlayCard (c : Fin n) (card : Card) : Table n :=
  let t := t.layCard c card
  if (t.seats c).any (·.cards.length = 0) then t.updateStage .waitEnd
  else if t.pending.map Pending.effect = some .market ∧ number card = marketCardNumber then
    let (deckEmpty, t) := drawCardByMarket (chairsAfter c (n - 1)) { t with pending := none }
    if deckEmpty then t.updateStage .waitEnd else t.passToNext
  else t.passToNext

/-- How many cards `onDrawCard` asks for. -/
def drawCount : Nat :=
  match t.pending with
  | some pending => if 0 < pending.quantity then pending.quantity else 1
  | none => 1

def onDrawCard (c : Fin n) : Table n :=
  let (drawn, cards) := t.cards.dispatchCards t.drawCount
  let t := { t with cards := cards }
  if drawn.length = 0 ∨ t.cards.isEmpty then t.updateStage .waitEnd
  else
    let t :=
      if t.pending.any fun pending => pending.target = some c then { t with pending := none } else t
    let t := (t.modify c (·.addCards drawn)).broadcastPlayerAction c .drawCard drawn 0
    t.passTo t.getNextActiveChair

def onSkipTurn (c : Fin n) : Table n :=
  let t := { t with pending := none }.broadcastPlayerAction c .skipTurn [] 0
  t.passTo t.getNextActiveChair

def onDeclareSuit (c : Fin n) (suit : Int) : Table n :=
  let t := { t with currCard := newDeclareWhot suit t.currCard, declareSuit := suit, pending := none }
  (t.broadcastPlayerAction c .declareSuit [] suit).passTo (some c)

def switchAction (c : Fin n) (p : Player) (req : ActionReq) : Option (Table n) :=
  match req.action with
  | .playCard =>
      if !t.canOutCard t.currCard p.cards req.outCard then none else some (t.onPlayCard c req.outCard)
  | .drawCard => if !t.canDrawCard c then none else some (t.onDrawCard c)
  | .skipTurn => if t.pending.map Pending.effect ≠ some .suspend then none else some (t.onSkipTurn c)
  | .declareSuit =>
      if t.pending.map Pending.effect ≠ some .whot || !isWhotCard t.currCard then none
      else if req.declareSuit < suitCircle || suitStart < req.declareSuit then none
      else some (t.onDeclareSuit c req.declareSuit)
  | .other => none

/-- `OnPlayerActionReq`, of the player on a chair; `none` if it refuses. -/
def onPlayerActionReq (c : Fin n) (req : ActionReq) : Option (Table n) :=
  match t.seats c with
  | none => none
  | some p =>
      if !p.isGaming || t.getGamers.length ≤ 1 || some c ≠ t.active then none
      else if t.stage.state ≠ .playing then none
      else t.switchAction c p req

/-! ## Settlement -/

structure SettleObj (n : Nat) where
  winner : Fin n × Player
  taxFee : ℚ
  winScore : ℚ
  result : ResultPush n

def buildResult (p : Fin n × Player) (isWinner : Bool) (score : ℚ) : PlayerResult n where
  userID := p.2.uid
  chairID := p.1
  isWinner := isWinner
  winScore := score
  handCards := p.2.cards
  handCardsScore := p.2.getHandScore

/-- `SettleObj.Settle` -/
def settleScores (winner : Fin n × Player) (users : List (Fin n × Player)) (baseScore taxRate : ℚ)
    (endType : FinishType) : Option (SettleObj n) :=
  if users.length = 0 then none
  else if baseScore < 0 || taxRate < 0 || 1 < taxRate then none
  else
    let losers := users.filter fun p => p.2.uid ≠ winner.2.uid
    let totalLost := losers.length * baseScore
    let tax := totalLost * taxRate
    let winScore := baseScore + totalLost - tax
    some {
      winner := winner
      taxFee := tax
      winScore := winScore
      result := {
        finishType := endType
        winnerID := winner.2.uid
        results :=
          losers.map (fun p => buildResult p false (-baseScore)) ++ [buildResult winner true winScore] } }

/-- The loop of `settle`: the first of those with the lowest score. -/
def pickWinner (winner : Option (Fin n × Player)) (p : Fin n × Player) : Option (Fin n × Player) :=
  match winner with
  | none => some p
  | some w => if p.2.getHandScore < w.2.getHandScore then some p else some w

def settle : Option (SettleObj n) × Table n :=
  match t.getGamers.foldl pickWinner none with
  | none => (none, t)
  | some winner =>
      let endType := if winner.2.getHandScore = 0 then .playerHandEmpty else .deckEmpty
      match settleScores winner t.getGamers rc.baseMoney rc.fee endType with
      | none => (none, t)
      | some obj => (some obj, t.modify winner.1 (·.addMoney obj.winScore))

end Table

/-! ## Timers -/

inductive TableEvent (n : Nat) where
  | silent
  | started (gamers : List (Fin n))
  | acted (c : Fin n) (req : ActionReq)
  | settled (winner : Option (Fin n))
deriving DecidableEq

structure Random where
  order : List Card
  banker : Nat
  option : Nat
  choice : Nat

namespace Table

variable {n : Nat} (rc : RoomConfig) (r : Random) (t : Table n)

def onGameStart : Option (TableEvent n × Table n) :=
  if t.stage.state ≠ .ready then some (.silent, t.updateStage .wait)
  else
    let seats := t.getReadySeats rc
    if seats.length < 2 then some (.silent, t.updateStage .wait)
    else
      (((t.intoGaming rc seats).calcBanker seats r.banker).dispatchCard seats r.order).map fun t =>
        (.started seats, t.updateStage .sendCard)

def onSendCardTimeout : Table n := (t.updateStage .playing).broadcastActivePlayerPush

def choose {α : Type} (l : List α) (k : Nat) : Option α := l[k % l.length]?

def requestOf (op : ActionOption) : Option ActionReq :=
  match op.action with
  | .playCard => some ⟨.playCard, (choose op.cards r.choice).getD 0, 0⟩
  | .declareSuit => some ⟨.declareSuit, 0, (choose op.suits r.choice).getD 0⟩
  | .drawCard => some ⟨.drawCard, 0, 0⟩
  | .skipTurn => some ⟨.skipTurn, 0, 0⟩
  | .other => none

def makeAutoActionReq (c : Fin n) : Option ActionReq := (choose (t.getCanOp c) r.option).bind (requestOf r)

def onActionTimeout : TableEvent n × Table n :=
  match t.active with
  | none => (.silent, t)
  | some c =>
      if !t.gaming c then (.silent, t)
      else
        match t.makeAutoActionReq r c with
        | none => (.silent, t)
        | some req =>
            match t.onPlayerActionReq c req with
            | none => (.silent, t)
            | some t => (.acted c req, t)

def gameEnd : TableEvent n × Table n :=
  let (obj, t) := t.settle rc
  let t := t.sendPacketToAll (.result (obj.map SettleObj.result))
  (.settled (obj.map (·.winner.1)), ((t.updateStage .ended).checkKick rc).reset)

def onEndTimeout : Table n := ((t.updateStage .wait).checkKick rc).checkAutoReadyAll rc

/-- `OnTimer`; `none` if it panics. -/
def onTimer : Option (TableEvent n × Table n) :=
  match t.stage.state with
  | .wait => some (.silent, t.checkCanStart rc)
  | .ready => t.onGameStart rc r
  | .sendCard => some (.silent, t.onSendCardTimeout)
  | .playing => some (t.onActionTimeout r)
  | .waitEnd => some (t.gameEnd rc)
  | .ended => some (.silent, t.onEndTimeout rc)

end Table

/-! ## The system -/

inductive TableStep {n : Nat} (rc : RoomConfig) : Table n → TableEvent n → Table n → Prop where
  | seat {t t' : Table n} (p : Player) (new : ∀ c q, t.seats c = some q → q.uid ≠ p.uid)
      (step : t.seat rc p = some t') : TableStep rc t .silent t'
  | exit {t t' : Table n} (c) (step : t.onExitGame c = some t') : TableStep rc t .silent t'
  -- the first half of a change of tables
  | leave {t t' : Table n} (c) (step : t.removePlayer c = some t') : TableStep rc t .silent t'
  | reEnter {t : Table n} (c) : TableStep rc t .silent (t.reEnter rc c)
  | ready {t t' : Table n} (c ready) (step : t.onReadyReq rc c ready = some t') :
      TableStep rc t .silent t'
  | hosting {t : Table n} (c hosting) : TableStep rc t .silent (t.onHosting c hosting)
  | offline {t : Table n} (c) : TableStep rc t .silent (t.onOffline c)
  -- what the sessions do to a player at any time
  | flags {t : Table n} (c isOffline exiting) :
      TableStep rc t .silent (t.modify c fun p => { p with isOffline := isOffline, exiting := exiting })
  | tick {t : Table n} (elapsed) : TableStep rc t .silent { t with clock := t.clock + elapsed }
  | action {t t' : Table n} (c req) (step : t.onPlayerActionReq c req = some t') :
      TableStep rc t (.acted c req) t'
  -- a timer that was cancelled does not come, or comes too late and does nothing
  | late {t : Table n} {a b} (g) (timers : t.timers = a ++ g :: b)
      (old : g ≠ t.stage.generation) : TableStep rc t .silent { t with timers := a ++ b }
  | timer {t t' : Table n} {e a b} (r : Random)
      (timers : t.timers = a ++ t.stage.generation :: b) (order : r.order.Perm t.cards.cards)
      (step : { t with timers := a ++ b }.onTimer rc r = some (e, t')) : TableStep rc t e t'

end Yola.Whot
