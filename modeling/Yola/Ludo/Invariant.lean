import Mathlib.Order.Fin.Basic
import Yola.Ludo.Turns
import Yola.Reasoning.Runs

/-!
# What holds at a table all the time

Every step of a table is one of the changes below.  From the start of a game to its result somebody is in
turn; whoever is in no game has nothing left of one; and the deadline of a game can only come while that
game goes on.
-/

namespace Yola.Ludo

open Function Reasoning

namespace Table

variable {n : Nat} {t t' u v : Table n} {c d : Fin n} {p q : Player} {rc : RoomConfig n} {b : Board}
  {e : TableEvent n} {deal : Deal n} {timers : List (StageID × Nat)}

/-! ## Those who are in -/

def gaming (t : Table n) (c : Fin n) : Bool := (t.seats c).any Player.isGaming

theorem gaming_iff : t.gaming c = true ↔ ∃ p, t.seats c = some p ∧ p.isGaming = true := Option.any_eq_true ..

theorem map_fst_filter_seated (t : Table n) (P : Fin n × Player → Bool) :
    (t.seated.filter P).map Prod.fst =
      (List.finRange n).filter fun c => (t.seats c).any fun p => P (c, p) := by
  unfold seated
  induction List.finRange n with
  | nil => rfl
  | cons c rest ih =>
    rw [List.filterMap_cons, List.filter_cons]
    cases hp : t.seats c with
    | none => simpa using ih
    | some =>
      simp only [Option.map_some, Option.any_some]
      rw [List.filter_cons]
      split
      · rw [List.map_cons, ih]
      · exact ih

theorem readyPlayers_eq (t : Table n) (rc : RoomConfig n) :
    t.readyPlayers rc = (List.finRange n).filter fun c =>
      (t.seats c).any fun p => p.isReady && rc.baseMoney ≤ p.money :=
  t.map_fst_filter_seated fun x => x.2.isReady && rc.baseMoney ≤ x.2.money

theorem readyPlayers_nodup (t : Table n) (rc : RoomConfig n) : (t.readyPlayers rc).Nodup := by
  rw [readyPlayers_eq]
  exact (List.nodup_finRange n).filter _

theorem mem_readyPlayers :
    c ∈ t.readyPlayers rc ↔ ∃ p, t.seats c = some p ∧ p.isReady = true ∧ rc.baseMoney ≤ p.money := by
  rw [readyPlayers_eq, List.mem_filter, Option.any_eq_true]
  simp only [List.mem_finRange, true_and, Bool.and_eq_true, decide_eq_true_eq]

/-! ## The start of a game -/

theorem foldl_modify (f : Fin n → Player → Player) (t : Table n) {l : List (Fin n)} (hl : l.Nodup) :
    l.foldl (fun t c => t.modify c (f c)) t =
      { t with seats := fun d => if d ∈ l then (t.seats d).map (f d) else t.seats d } := by
  induction l generalizing t with
  | nil => simp
  | cons c rest ih =>
    obtain ⟨hnot, hrest⟩ := List.nodup_cons.mp hl
    rw [List.foldl_cons, ih (t.modify c (f c)) hrest]
    have hseats : (fun d => if d ∈ rest then ((t.modify c (f c)).seats d).map (f d)
        else (t.modify c (f c)).seats d) =
        fun d => if d ∈ c :: rest then (t.seats d).map (f d) else t.seats d := by
      funext d
      rw [seats_modify]
      by_cases hd : d = c
      · subst hd
        simp [hnot]
      · simp [hd]
    rw [hseats]
    rfl

structure Started (rc : RoomConfig n) (t : Table n) (gamers : List (Fin n)) (t' : Table n) : Prop where
  ready : gamers = t.readyPlayers rc
  stage : t.stage.state = .ready
  state : t'.stage.state = .sendCard
  timer : (t'.stage.state, t'.stage.generation) ∈ t'.timers
  board : ∃ b, t'.board = some b ∧ b.Valid
  first : ∃ c ∈ gamers, t'.activeChair = some c
  players : ∀ c ∈ gamers, ∃ (d : Deal n) (p : Player), (d.base c).Perm [1, 2, 3, 4, 5] ∧
    t.seats c = some p ∧ t'.seats c = some (startPlayer rc d c p)
  others : ∀ c, c ∉ gamers → t'.seats c = t.seats c
  fastTimers : (∀ g ∈ t.fastTimers, g ≤ t.gameGeneration) → ∀ g ∈ t'.fastTimers, g ≤ t'.gameGeneration

theorem prepareGame_seats (d : Deal n) :
    (t.prepareGame rc d (t.readyPlayers rc)).seats = fun c =>
      if c ∈ t.readyPlayers rc then (t.seats c).map (startPlayer rc d c) else t.seats c := by
  unfold prepareGame
  rw [foldl_modify _ _ (t.readyPlayers_nodup rc)]
  cases rc.fastMode <;> rfl

theorem prepareGame_board (d : Deal n) (players : List (Fin n)) :
    (t.prepareGame rc d players).board =
      some (Board.new (players.map (Fin.castLE rc.chairNum_le)) 4 rc.fastMode) := by
  unfold prepareGame
  cases rc.fastMode <;> rfl

theorem prepareGame_fastTimers (d : Deal n) (h : ∀ g ∈ t.fastTimers, g ≤ t.gameGeneration) :
    ∀ g ∈ (t.prepareGame rc d (t.readyPlayers rc)).fastTimers,
      g ≤ (t.prepareGame rc d (t.readyPlayers rc)).gameGeneration := by
  unfold prepareGame
  rw [foldl_modify _ _ (t.readyPlayers_nodup rc)]
  cases rc.fastMode
  · exact h
  · intro g hg
    rcases List.mem_append.mp hg with hold | hnew
    · exact Nat.le_succ_of_le (h g hold)
    · rw [List.mem_singleton.mp hnew]
      exact Nat.le_refl _

def opening (rc : RoomConfig n) (t : Table n) (deal : Deal n) : Table n :=
  (((t.prepareGame rc deal (t.readyPlayers rc)).chooseFirstChair (t.readyPlayers rc)
    deal.first).dispatchCardPush (t.readyPlayers rc)).enterStage rc .sendCard

theorem startGame_eq (hst : t.stage.state = .ready) : t.startGame rc deal =
      if canStartGame (t.readyPlayers rc) then (.started (t.readyPlayers rc), t.opening rc deal)
      else (.silent, t.enterStage rc .wait) := by
  unfold startGame
  rw [if_neg (not_not.mpr hst)]
  dsimp only
  cases canStartGame (t.readyPlayers rc) <;> rfl

theorem started_opening (hbase : ∀ c, (deal.base c).Perm [1, 2, 3, 4, 5]) (hst : t.stage.state = .ready)
    (hcan : canStartGame (t.readyPlayers rc) = true) :
    Started rc t (t.readyPlayers rc) ({ t with timers := timers }.opening rc deal) := by
  have hlen : 0 < (t.readyPlayers rc).length := by
    simp only [canStartGame, Bool.and_eq_true, decide_eq_true_eq] at hcan
    omega
  have hindex : deal.first % (t.readyPlayers rc).length < (t.readyPlayers rc).length :=
    Nat.mod_lt _ hlen
  have hseats (c : Fin n) : ({ t with timers := timers }.opening rc deal).seats c =
      if c ∈ t.readyPlayers rc then (t.seats c).map (startPlayer rc deal c) else t.seats c :=
    congrFun (prepareGame_seats (t := { t with timers := timers }) deal) c
  constructor
  · rfl
  · exact hst
  · rfl
  · exact (entered_enterStage rc _ .sendCard).current
  · exact ⟨_, prepareGame_board deal _, Board.valid_new ..⟩
  · exact ⟨_, List.getElem_mem hindex, List.getElem?_eq_getElem hindex⟩
  · intro c hc
    obtain ⟨p, hp, -⟩ := mem_readyPlayers.mp hc
    refine ⟨deal, p, hbase c, hp, ?_⟩
    rw [hseats, if_pos hc, hp]
    rfl
  · intro c hc
    rw [hseats]
    exact if_neg hc
  · exact prepareGame_fastTimers (t := { t with timers := timers }) deal

/-! ## The end of a game -/

structure Settled (t : Table n) (pay : Fin n → Player → Player) (t' : Table n) : Prop where
  state : t'.stage.state = .result
  timer : (t'.stage.state, t'.stage.generation) ∈ t'.timers
  generation : t'.stage.generation = t.stage.generation + 1
  gameGeneration : t'.gameGeneration = t.gameGeneration + 1
  fastTimers : ∀ g ∈ t'.fastTimers, g ∈ t.fastTimers
  seats : ∀ c, t'.seats c = (t.seats c).map (pay c)

/-- How many have lost if this player has won. -/
def losers (t : Table n) (w : Fin n) : Nat :=
  ((t.seated.filter fun x => x.2.isGaming).filter fun x => x.1 ≠ w).length

theorem losers_eq (t : Table n) (w : Fin n) :
    t.losers w = ((List.finRange n).filter fun c => t.gaming c && c ≠ w).length := by
  unfold losers
  rw [List.filter_filter, ← List.length_map Prod.fst, map_fst_filter_seated]
  congr 2
  funext c
  unfold gaming
  cases t.seats c with
  | none => rfl
  | some => exact Bool.and_comm ..

def payout (rc : RoomConfig n) (losers : Nat) : ℚ := rc.baseMoney + losers * rc.baseMoney * (1 - rc.fee)

/-- What a draw gives back. -/
def refund (rc : RoomConfig n) (p : Player) : Player := if p.isGaming then p.addMoney rc.baseMoney else p

def payWinner (rc : RoomConfig n) (t : Table n) (w : Fin n) (value : Int) (timeout : Bool) (c : Fin n)
    (p : Player) : Player :=
  if c = w then ((p.moved value timeout).setFinish).addMoney (payout rc (t.losers w)) else p

theorem settled_drawn {l : List Nat} (hl : ∀ g ∈ l, g ∈ t.fastTimers) :
    Settled t (fun _ => refund rc) ({ t with fastTimers := l }.settleGame rc none .none) where
  state := rfl
  timer := List.mem_append_right _ List.mem_cons_self
  generation := rfl
  gameGeneration := rfl
  fastTimers := hl
  seats _ := rfl

theorem settleGame_won (rc : RoomConfig n) {w : Fin n} (hw : t.seats w = some p) (finishType : FinishType) :
    Entered { t with
      gameGeneration := t.gameGeneration + 1
      seats := update t.seats w (some (p.addMoney (payout rc (t.losers w)))) } .result
      (t.settleGame rc (some w) finishType) := by
  have hseat : { t with gameGeneration := t.gameGeneration + 1 }.seats w = some p := hw
  unfold settleGame
  dsimp only
  rw [Option.bind_some, hw]
  dsimp only [Option.map_some]
  rw [modify_eq _ hseat]
  exact (entered_enterStage ..).push _

theorem settled_won (rc : RoomConfig n) (value : Int) (timeout : Bool) (b' : Board)
    (hp : t.seats c = some p) :
    Settled t (payWinner rc t c value timeout)
      (((t.afterPiece c (p.moved value timeout) b').modify c Player.setFinish).settleGame rc (some c)
        .playerHandEmpty) := by
  set u := t.afterPiece c (p.moved value timeout) b' with hu
  have hseat : u.seats c = some (p.moved value timeout) := update_self ..
  have hoth (d : Fin n) (hd : d ≠ c) : u.seats d = t.seats d := update_of_ne hd ..
  have hfinish : (u.modify c Player.setFinish).seats c = some (p.moved value timeout).setFinish := by
    rw [seats_modify, if_pos rfl, hseat]
    rfl
  have hlosers : (u.modify c Player.setFinish).losers c = t.losers c := by
    rw [losers_eq, losers_eq]
    congr 2
    funext d
    by_cases hd : d = c
    · simp [hd]
    · unfold gaming
      rw [seats_modify, if_neg hd, hoth d hd]
  have henter := settleGame_won rc hfinish .playerHandEmpty
  rw [hlosers] at henter
  refine ⟨henter.state, henter.current, henter.generation, henter.gameGeneration, ?_, ?_⟩
  · intro g hg
    rw [henter.fastTimers] at hg
    exact hg
  · intro d
    rw [henter.seats]
    dsimp only
    by_cases hd : d = c
    · subst hd
      rw [update_self, hp, Option.map_some, payWinner, if_pos rfl]
    · rw [update_of_ne hd, seats_modify, if_neg hd, hoth d hd]
      cases t.seats d with
      | none => rfl
      | some => rw [Option.map_some, payWinner, if_neg hd]

structure Cleared (t t' : Table n) : Prop where
  state : t'.stage.state = .wait
  timer : (t'.stage.state, t'.stage.generation) ∈ t'.timers
  gameGeneration : t'.gameGeneration = t.gameGeneration
  fastTimers : ∀ g ∈ t'.fastTimers, g ∈ t.fastTimers
  seats : ∀ c p', t'.seats c = some p' → ∃ p, t.seats c = some p ∧ p'.isGaming = false ∧ p'.Idle ∧
    p'.uid = p.uid ∧ p'.money = p.money

theorem cleared_resetForNextGame : Cleared t ({ t with timers := timers }.resetForNextGame rc) := by
  set w := { t with timers := timers }
  have hent := entered_enterStage rc w.reset .wait
  have hdropped := checkKick_dropped (w.reset.enterStage rc .wait) rc
  constructor
  · exact congrArg Stage.state hdropped.stage
  · change (_, _) ∈ ((w.reset.enterStage rc .wait).checkKick rc).timers
    have hcur := hdropped.timers _ hent.current rfl
    rw [← hdropped.stage] at hcur
    exact hcur
  · exact hdropped.gameGeneration
  · exact hdropped.fastTimers
  · intro c p' hp'
    obtain ⟨p, hp, rfl⟩ := Option.map_eq_some_iff.mp hp'
    have hdrop := hdropped.seats c
    rw [hp, hent.seats] at hdrop
    generalize hold : w.reset.seats c = o at hdrop
    cases hdrop with
    | kept core =>
      obtain ⟨q, hq, rfl⟩ := Option.map_eq_some_iff.mp hold
      have hidle : p.Idle := Player.Idle.of_core (p := q.reset) ⟨rfl, rfl, rfl⟩ core
      have huid : p.uid = q.reset.uid := Player.eq_of_core Player.uid (fun _ => rfl) core
      have hmoney : p.money = q.reset.money := Player.eq_of_core Player.money (fun _ => rfl) core
      refine ⟨q, hq, ?_⟩
      rcases checkAutoReady_cases rc p with hsame | hready
      · rw [hsame]
        exact ⟨Player.isGaming_of_core core, hidle, huid, hmoney⟩
      · rw [hready]
        exact ⟨rfl, ⟨hidle.unfinished, hidle.initDiceList, hidle.dices⟩, huid, hmoney⟩

/-! ## All that can happen -/

structure TableInv (t : Table n) : Prop where
  idle : ∀ c p, t.seats c = some p → p.isGaming = false → p.Idle
  between : t.stage.state = .wait ∨ t.stage.state = .ready → ∀ c p, t.seats c = some p → p.isGaming = false
  playing : t.stage.state.inGame = true → Playing t
  timer : t.stage.state ≠ .wait → (t.stage.state, t.stage.generation) ∈ t.timers
  deadline : t.stage.state.inGame = false → t.gameGeneration ∉ t.fastTimers
  deadlines : ∀ g ∈ t.fastTimers, g ≤ t.gameGeneration

end Table

/-- What has nothing to do with the course of a game. -/
def TableEvent.isQuiet {n : Nat} : TableEvent n → Bool
  | .silent | .seated _ _ _ | .left _ | .offline _ | .ready _ _ => true
  | _ => false

namespace Table

variable {n : Nat} {t t' u v : Table n} {c d : Fin n} {p q : Player} {rc : RoomConfig n} {b : Board}
  {e : TableEvent n} {r : Roll} {timeout ready : Bool} {l : List (StageID × Nat)} {deal : Deal n}
  {generation : Nat}

inductive Change (rc : RoomConfig n) (t : Table n) : TableEvent n → Table n → Prop where
  | aside {e : TableEvent n} {t' : Table n} (quiet : e.isQuiet = true) (aside : Aside t t')
      (same : e = .silent → t'.readyPlayers rc = t.readyPlayers rc) : Change rc t e t'
  | waited {timers : List (StageID × Nat)} (stage : t.stage.state = .wait)
      (cannot : canStartGame (t.readyPlayers rc) = false) :
      Change rc t .silent { t with timers := timers }
  | readied {e : TableEvent n} {u t' : Table n} (quiet : e.isQuiet = true) (aside : Aside t u)
      (stage : u.stage.state = .wait) (enter : Entered u .ready t') : Change rc t e t'
  | unready {t' : Table n} (stage : t.stage.state = .ready) (enter : Entered t .wait t') :
      Change rc t .silent t'
  | started {gamers : List (Fin n)} {t' : Table n} (started : Started rc t gamers t') :
      Change rc t (.started gamers) t'
  | dealt {t' : Table n} (stage : t.stage.state = .sendCard) (enter : Entered t .dice t') :
      Change rc t .silent t'
  | rolled {r : Roll} {c : Fin n} {timeout : Bool} {dice : Int} {t' : Table n} {p : Player} {b : Board}
      (rolled : Rolled t r c timeout dice t' p b) : Change rc t (.rolled c dice) t'
  | moved {c : Fin n} {req : MoveReq} {timeout : Bool} {p : Player} {b b' : Board} {step : Step}
      {t' : Table n} (moves : Moves t c req p b step b')
      (outcome : Outcome (t.afterPiece c (p.moved req.diceValue timeout) b') c
        (p.moved req.diceValue timeout) b' True t') : Change rc t (.moved c req) t'
  | won {c : Fin n} {req : MoveReq} {timeout : Bool} {p : Player} {b b' : Board} {step : Step}
      {t' : Table n} (moves : Moves t c req p b step b')
      (settled : Settled t (payWinner rc t c req.diceValue timeout) t') : Change rc t (.won c) t'
  | drawn {t' : Table n} (outstanding : t.gameGeneration ∈ t.fastTimers)
      (settled : Settled t (fun _ => refund rc) t') : Change rc t .drawn t'
  | cleared {t' : Table n} (stage : t.stage.state = .result) (cleared : Cleared t t') :
      Change rc t .silent t'

theorem tryEnterReady_cases (u : Table n) (rc : RoomConfig n) :
    u.tryEnterReady rc = u ∧ (u.stage.state = .wait → canStartGame (u.readyPlayers rc) = false) ∨
      u.stage.state = .wait ∧ canStartGame (u.readyPlayers rc) = true ∧
        u.tryEnterReady rc = u.enterStage rc .ready := by
  unfold tryEnterReady
  split
  · rename_i hst
    exact .inl ⟨rfl, fun hwait => absurd hwait hst⟩
  · rename_i hst
    split
    · rename_i hcannot
      exact .inl ⟨rfl, fun _ => by simpa using hcannot⟩
    · rename_i hcan
      exact .inr ⟨not_not.mp hst, by simpa using hcan, rfl⟩

theorem push_nil (t : Table n) : t.push [] = t := by
  unfold push
  rw [List.filter_nil, List.append_nil]

theorem Change.tryEnterReady (quiet : e.isQuiet = true) (hloud : e ≠ .silent) (h : Aside t u)
    (l : List (Fin n × Push n)) : Change rc t e ((u.tryEnterReady rc).push l) := by
  rcases u.tryEnterReady_cases rc with ⟨hsame, -⟩ | ⟨hwait, -, hent⟩
  · rw [hsame]
    exact .aside quiet (h.push l) fun hsilent => absurd hsilent hloud
  · rw [hent]
    exact .readied quiet h hwait ((entered_enterStage rc u .ready).push l)

theorem change_of_rollDice {rsp : DiceRsp}
    (h : t.rollDice rc r c timeout = some (rsp, t')) (requester : Option Int) :
    Change rc t (.rolled c rsp.dice) (t'.broadcastDicePush requester rsp) := by
  obtain ⟨p, b, hroll⟩ := rolled_of_rollDice h
  cases requester
  · exact .rolled { hroll with outcome := hroll.outcome.push _ }
  · exact .rolled { hroll with outcome := hroll.outcome.push _ }

theorem change_of_movePiece {req : MoveReq} {rsp : MoveRsp}
    (h : t.movePiece rc c req timeout = some (rsp, t')) (requester : Option Int) :
    Change rc t (t'.moveEvent c req) (t'.broadcastMovePush requester rsp) := by
  obtain ⟨p, b, step, b', hmv, hwon | hout⟩ := moves_of_movePiece h
  · have hset := settled_won rc req.diceValue timeout b' hmv.seat
    rw [← hwon] at hset
    have hevent : t'.moveEvent c req = .won c := if_pos hset.state
    rw [hevent]
    cases requester
    · exact .won hmv { hset with }
    · exact .won hmv { hset with }
  · have hevent : t'.moveEvent c req = .moved c req := by
      apply if_neg
      cases hout with
      | ended enter | again _ enter | moves _ enter => rw [enter.state]; decide
    rw [hevent]
    cases requester
    · exact .moved hmv (hout.push _)
    · exact .moved hmv (hout.push _)

theorem Change.of_timers (h : Change rc { t with timers := l } e t')
    (hloud : e.isQuiet = false) : Change rc t e t' := by
  cases h with
  | aside quiet | readied quiet =>
    rw [quiet] at hloud
    cases hloud
  | waited | unready | dealt | cleared => cases hloud
  | started started => exact .started { started with }
  | rolled rolled => exact .rolled { rolled with outcome := rolled.outcome.of_timers }
  | moved moves outcome => exact .moved { moves with } outcome.of_timers
  | won moves settled => exact .won { moves with } { settled with }
  | drawn outstanding settled => exact .drawn outstanding { settled with }

theorem Turn.activePlayer (h : Turn t c p b) : t.activePlayer = some (c, p) := by
  unfold Table.activePlayer
  rw [h.active, Option.bind_some, h.seat]
  rfl

theorem Turn.onDiceTimeout (h : Turn t c p b) (rc : RoomConfig n) (hst : t.stage.state = .dice) (r : Roll) :
    ∃ rsp t', t.rollDice rc r c true = some (rsp, t') ∧
      t.onDiceTimeout rc r = (.rolled c rsp.dice, t'.broadcastDicePush none rsp) := by
  obtain ⟨rsp, t', hroll⟩ := h.rollDice rc hst r true
  refine ⟨rsp, t', hroll, ?_⟩
  unfold Table.onDiceTimeout
  rw [h.activePlayer]
  dsimp only
  rw [h.gaming, if_neg (by decide), hroll]

theorem Turn.legalMove (h : Turn t c p b) (hallow : t.stage.state.Allows b p)
    (hst : t.stage.state = .move) :
    ∃ id dice, findBestMoveSequence b p.unusedDice p.color = (id, dice) ∧ dice ∈ p.unusedDice ∧
      id ∈ b.getActivePieceIDs p.color ∧ (b.canMoveOne id dice).1 = true := by
  rw [hst] at hallow
  exact findBestMoveSequence_legal h.valid (Nat.le_trans hallow.1 (by decide)) hallow.2

theorem Turn.onMoveTimeout (h : Turn t c p b) (rc : RoomConfig n)
    (hst : t.stage.state = .move) {id dice : Int}
    (hbest : findBestMoveSequence b p.unusedDice p.color = (id, dice)) (hdice : dice ∈ p.unusedDice)
    (hid : id ∈ b.getActivePieceIDs p.color) (hcan : (b.canMoveOne id dice).1 = true) :
    ∃ rsp t', t.movePiece rc c ⟨id, dice⟩ true = some (rsp, t') ∧
      t.onMoveTimeout rc = (t'.moveEvent c ⟨id, dice⟩, t'.broadcastMovePush none rsp) := by
  obtain ⟨rsp, t', hmove⟩ :=
    h.movePiece rc ⟨id, dice⟩ hst hdice hid hcan true
  refine ⟨rsp, t', hmove, ?_⟩
  obtain ⟨piece, hpiece, -⟩ := h.valid.mem_getActivePieceIDs.mp hid
  have hnonneg := (Board.getPieceByID_eq_some.mp hpiece).1
  have hpos := h.gamer.one_le_unused hdice
  unfold Table.onMoveTimeout
  rw [h.activePlayer, h.board]
  dsimp only
  rw [h.gaming, if_neg (by decide), if_neg (not_not.mpr hst), hbest]
  dsimp only
  rw [if_neg, hmove]
  simp only [Bool.or_eq_true, decide_eq_true_eq, not_or]
  omega

/-! ## The timers of stages -/

theorem TableInv.change_of_timeout (h : TableInv t)
    {timers : List (StageID × Nat)} (hbase : ∀ c, (deal.base c).Perm [1, 2, 3, 4, 5])
    (hstep : { t with timers := timers }.handleStageTimeout rc r deal = (e, t')) : Change rc t e t' := by
  let u := { t with timers := timers }
  unfold handleStageTimeout at hstep
  dsimp only at hstep
  cases hst : t.stage.state with
  | wait =>
    rw [hst] at hstep
    cases hstep
    rcases tryEnterReady_cases u rc with ⟨hsame, hcannot⟩ | ⟨-, -, hent⟩
    · rw [hsame]
      exact .waited hst (hcannot hst)
    · rw [hent]
      exact .readied rfl (.refl t) hst { entered_enterStage rc u .ready with }
  | ready =>
    rw [hst] at hstep
    have hready : u.stage.state = .ready := hst
    dsimp only at hstep
    rw [startGame_eq hready] at hstep
    split at hstep
    · rename_i hcan
      cases hstep
      exact .started (started_opening hbase hst hcan)
    · cases hstep
      exact .unready hst { entered_enterStage rc u .wait with }
  | sendCard =>
    rw [hst] at hstep
    cases hstep
    exact .dealt hst { entered_enterStage rc u .dice with }
  | dice =>
    rw [hst] at hstep
    obtain ⟨c, p, b, hturn, -⟩ := h.playing (by rw [hst]; rfl)
    have hturn' : Turn u c p b := { hturn with }
    obtain ⟨rsp, u, hroll, hto⟩ := hturn'.onDiceTimeout rc hst r
    dsimp only at hstep
    rw [hto] at hstep
    cases hstep
    exact (change_of_rollDice hroll none).of_timers rfl
  | move =>
    rw [hst] at hstep
    obtain ⟨c, p, b, hturn, hallow⟩ := h.playing (by rw [hst]; rfl)
    have hturn' : Turn u c p b := { hturn with }
    obtain ⟨id, dice, hbest, hdice, hid, hcan⟩ := hturn.legalMove hallow hst
    obtain ⟨rsp, u, hmove, hto⟩ :=
      hturn'.onMoveTimeout rc hst hbest hdice hid hcan
    dsimp only at hstep
    rw [hto] at hstep
    cases hstep
    apply (change_of_movePiece hmove none).of_timers
    unfold moveEvent
    split <;> rfl
  | result =>
    rw [hst] at hstep
    cases hstep
    exact .cleared hst cleared_resetForNextGame

theorem TableInv.change_of_timer (h : TableInv t) {state : StageID} {a : List (StageID × Nat)}
    (htim : t.timers = a ++ (state, generation) :: l) (hbase : ∀ c, (deal.base c).Perm [1, 2, 3, 4, 5])
    (hstep : { t with timers := a ++ l }.onStageTimer rc r deal state generation = (e, t')) : Change rc t e t' := by
  unfold onStageTimer at hstep
  split at hstep
  · rename_i hstale
    cases hstep
    refine .aside rfl ⟨⟨rfl, rfl, rfl, rfl, fun _ hg => hg, ?_⟩, fun _ => .refl _⟩ fun _ => rfl
    -- the timer that came is not the current one
    intro x hx hcur
    rw [htim] at hx
    rcases List.mem_append.mp hx with hleft | hright
    · exact List.mem_append_left _ hleft
    · rcases List.mem_cons.mp hright with hthis | hright
      · rw [hthis] at hcur
        cases hcur
        simp at hstale
      · exact List.mem_append_right _ hright
  · exact h.change_of_timeout hbase hstep

theorem change_of_fastTimer {a l : List Nat} (htim : t.fastTimers = a ++ generation :: l)
    (hstep : { t with fastTimers := a ++ l }.onFastTimer rc generation = (e, t')) : Change rc t e t' := by
  have hkeep (g : Nat) (hg : g ∈ a ++ l) : g ∈ t.fastTimers := by
    rw [htim]
    simp only [List.mem_append, List.mem_cons] at hg ⊢
    exact hg.imp_right .inr
  unfold onFastTimer at hstep
  split at hstep
  · cases hstep
    exact .aside rfl ⟨⟨rfl, rfl, rfl, rfl, hkeep, fun _ hx _ => hx⟩, fun _ => .refl _⟩ fun _ => rfl
  · rename_i hcur
    cases hstep
    refine .drawn ?_ (settled_drawn hkeep)
    rw [htim, not_not.mp hcur]
    exact List.mem_append_right _ List.mem_cons_self

theorem ready_cases (h : t.ready rc c ready = some t') : ∃ p l, t.seats c = some p ∧ t.stage.state = .wait ∧
      t' = (if ready then (t.modify c (·.setStatus .ready)).tryEnterReady rc
        else t.modify c (·.setStatus .sit)).push l := by
  unfold Table.ready at h
  split at h
  · cases h
  · rename_i p hp
    split at h
    · cases h
    · rename_i hst
      cases h
      exact ⟨p, _, hp, not_not.mp hst, rfl⟩

theorem TableInv.restatus_aside (h : TableInv t) (hst : t.stage.state = .wait)
    (hp : t.seats c = some p) {s : Status} (hs : s ≠ .gaming) :
    Aside t (t.modify c (·.setStatus s)) := by
  rw [modify_eq _ hp]
  apply Aside.update
  rw [hp]
  exact .restatus s (h.between (.inl hst) c p hp) hs rfl

theorem TableInv.change_of_ready (h : TableInv t) (hstep : t.ready rc c ready = some t') :
    Change rc t (.ready c ready) t' := by
  obtain ⟨p, l, hp, hst, rfl⟩ := ready_cases hstep
  cases ready
  · exact .aside rfl ((h.restatus_aside hst hp (by decide)).push l) nofun
  · exact .tryEnterReady (e := .ready c true) rfl nofun (h.restatus_aside hst hp (by decide)) l

theorem modify_readyPlayers {f : Player → Player} (hf : ∀ p, (f p).core = p.core) :
    (t.modify c f).readyPlayers rc = t.readyPlayers rc := by
  rw [readyPlayers_eq, readyPlayers_eq]
  congr 1
  funext d
  rw [seats_modify]
  split
  · rename_i hd
    rw [← hd]
    cases t.seats d with
    | none => rfl
    | some p =>
      have hready := Player.eq_of_core Player.isReady (fun _ => rfl) (hf p)
      have hmoney := Player.eq_of_core Player.money (fun _ => rfl) (hf p)
      simp only [Option.map_some, Option.any_some, hready, hmoney]
  · rfl

theorem TableInv.change (h : TableInv t) (hstep : TableStep rc t e t') : Change rc t e t' := by
  cases hstep with
  | seat p lost failed step =>
    obtain ⟨c, hfree, rfl⟩ := seat_cases step
    have htaken := taken_aside rc (p := p) hfree
    cases failed
    · rw [if_neg (by decide), ← push_nil (tryEnterReady rc _)]
      exact .tryEnterReady (e := .seated p lost false) rfl nofun
        (htaken.trans_dropped (offlinePlayers_dropped _ lost)) []
    · rw [if_pos rfl]
      exact .aside rfl
        ((htaken.trans_dropped (offline_dropped _ c)).trans_dropped (offlinePlayers_dropped _ lost)) nofun
  | exit c step => exact .aside rfl (exit_dropped step).aside nofun
  | leave c step => exact .aside rfl (removePlayer_dropped step).aside nofun
  | reEnter => exact .aside rfl reEnter_dropped.aside fun _ => modify_readyPlayers fun _ => rfl
  | ready c ready step => exact h.change_of_ready step
  | hosting c hosting =>
    exact .aside rfl setHosting_dropped.aside fun _ => modify_readyPlayers (hosting_core hosting)
  | offline c => exact .aside rfl (offline_dropped t c).aside nofun
  | flags =>
    exact .aside rfl flags_dropped.aside fun _ => modify_readyPlayers fun _ => rfl
  | tick =>
    exact .aside rfl ⟨⟨rfl, rfl, rfl, rfl, fun _ hg => hg, fun _ hx _ => hx⟩, fun _ => .refl _⟩ fun _ => rfl
  | rollDice r c requester step => exact change_of_rollDice step requester
  | movePiece c req requester step => exact change_of_movePiece step requester
  | timer r deal state generation timers base step => exact h.change_of_timer timers base step
  | fastTimer generation timers step => exact change_of_fastTimer timers step

/-! ## What the changes keep -/

def NobodyGaming (t : Table n) : Prop := ∀ c p, t.seats c = some p → p.isGaming = false

def OthersIdle (t : Table n) : Prop := ∀ c p, t.seats c = some p → p.isGaming = false → p.Idle

theorem Aside.othersIdle (h : Aside t t') (hidle : OthersIdle t) : OthersIdle t' := by
  intro c p' hp' hg
  have hch := h.seats c
  rw [hp'] at hch
  generalize hold : t.seats c = o at hch
  cases hch with
  | drop drop =>
    cases drop with
    | kept core => exact (hidle c _ hold ((Player.isGaming_of_core core).symm.trans hg)).of_core core
  | @restatus p _ s idle notGaming core =>
    have hp := hidle c p hold idle
    exact Player.Idle.of_core (p := p.setStatus s) ⟨hp.unfinished, hp.initDiceList, hp.dices⟩ core
  | came _ idle => exact idle

theorem Aside.nobodyGaming (h : Aside t t') (hnobody : NobodyGaming t) : NobodyGaming t' := by
  intro c p' hp'
  have hch := h.seats c
  rw [hp'] at hch
  generalize hold : t.seats c = o at hch
  cases hch with
  | drop drop =>
    cases drop with
    | kept core => exact (Player.isGaming_of_core core).trans (hnobody c _ hold)
  | restatus s idle notGaming core =>
    rw [Player.isGaming_of_core core]
    exact decide_eq_false notGaming
  | came out => exact out

theorem TableInv.aside (h : TableInv t) (haside : Aside t t') : TableInv t' where
  idle := haside.othersIdle h.idle
  between hstage := by
    rw [haside.stage] at hstage
    exact haside.nobodyGaming (h.between hstage)
  playing hgame := by
    rw [haside.stage] at hgame
    exact (h.playing hgame).aside hgame haside
  timer hstage := by
    rw [haside.stage] at hstage ⊢
    exact haside.timers _ (h.timer hstage) rfl
  deadline hgame hmem := by
    rw [haside.stage] at hgame
    rw [haside.gameGeneration] at hmem
    exact h.deadline hgame (haside.fastTimers _ hmem)
  deadlines g hg := by
    rw [haside.gameGeneration]
    exact h.deadlines g (haside.fastTimers g hg)

theorem TableInv.entered_between {s : StageID} (h : TableInv u)
    (hold : u.stage.state = .wait ∨ u.stage.state = .ready) (hent : Entered u s t')
    (hnew : s = .wait ∨ s = .ready) : TableInv t' where
  idle := by
    rw [hent.seats]
    exact h.idle
  between _ := by
    rw [hent.seats]
    exact h.between hold
  playing hgame := by
    rw [hent.state] at hgame
    rcases hnew with rfl | rfl <;> cases hgame
  timer _ := hent.current
  deadline _ := by
    rw [hent.gameGeneration, hent.fastTimers]
    apply h.deadline
    rcases hold with hold | hold
    · rw [hold]
      rfl
    · rw [hold]
      rfl
  deadlines := by
    rw [hent.gameGeneration, hent.fastTimers]
    exact h.deadlines

theorem startPlayer_dices (rc : RoomConfig n) (hidle : p.Idle) (deal : Deal n) :
    (startPlayer rc deal c p).dices = [] := by
  unfold startPlayer Player.initDicesSequence
  split <;> exact hidle.dices

theorem startPlayer_gaming (rc : RoomConfig n) (deal : Deal n) (p : Player) :
    (startPlayer rc deal c p).isGaming = true := by
  unfold startPlayer Player.initDicesSequence
  split <;> rfl

theorem startPlayer_gamer (hidle : p.Idle)
    (hbase : (deal.base c).Perm [1, 2, 3, 4, 5]) : (startPlayer rc deal c p).Gamer c := by
  have hdices := startPlayer_dices rc (c := c) hidle deal
  refine ⟨rfl, ?_, ?_, ?_⟩
  · unfold startPlayer Player.initDicesSequence
    split <;> exact hidle.unfinished
  · rw [hdices]
    unfold startPlayer Player.initDicesSequence
    split
    · intro hlist
      exact absurd hidle.initDiceList hlist
    · intro _
      change 0 + (((deal.base c).take 4).set (deal.six c) 6).length ≤ maximumDiceSlot
      rw [List.length_set, List.length_take, hbase.length_eq]
      decide
  · rw [hdices]
    exact nofun

theorem TableInv.started {gamers : List (Fin n)} (h : TableInv t) (hs : Started rc t gamers t') :
    TableInv t' := by
  have hnobody := h.between (.inr hs.stage)
  have hpl (c : Fin n) (p' : Player) (hp' : t'.seats c = some p') (hg : p'.isGaming = true) :
      p'.Gamer c ∧ p'.dices = [] := by
    by_cases hc : c ∈ gamers
    · obtain ⟨deal, p, hbase, hp, hstart⟩ := hs.players c hc
      rw [hstart] at hp'
      cases hp'
      have hidle := h.idle c p hp (hnobody c p hp)
      exact ⟨startPlayer_gamer hidle hbase, startPlayer_dices rc hidle deal⟩
    · rw [hs.others c hc] at hp'
      rw [hnobody c p' hp'] at hg
      cases hg
  constructor
  · intro c p' hp' hg
    by_cases hc : c ∈ gamers
    · obtain ⟨deal, p, -, -, hstart⟩ := hs.players c hc
      rw [hstart] at hp'
      cases hp'
      rw [startPlayer_gaming] at hg
      cases hg
    · rw [hs.others c hc] at hp'
      exact h.idle c p' hp' hg
  · rw [hs.state]
    intro hst
    rcases hst with hst | hst <;> cases hst
  · intro _
    obtain ⟨b, hb, hval⟩ := hs.board
    obtain ⟨c, hc, hact⟩ := hs.first
    obtain ⟨deal, p, -, hp, hstart⟩ := hs.players c hc
    have hg := startPlayer_gaming rc (c := c) deal p
    refine ⟨c, _, b, ⟨hact, hstart, hg, hb, hval, ?_, ?_⟩, ?_⟩
    · exact fun d q hq hqg => (hpl d q hq hqg).1
    · exact fun d q _ hq hqg => (hpl d q hq hqg).2
    · rw [hs.state]
      exact (hpl c _ hstart hg).2
  · exact fun _ => hs.timer
  · rw [hs.state]
    intro hgame
    cases hgame
  · exact hs.fastTimers h.deadlines

theorem TableInv.outcome {bonus : Prop} (h : TableInv t) (hout : Outcome u c q b bonus t')
    (hplaying : Playing t') (hg : q.isGaming = true) (hseat : u.seats c = some q)
    (hoth : ∀ d, d ≠ c → u.seats d = t.seats d) (hgen : u.gameGeneration = t.gameGeneration)
    (hfast : u.fastTimers = t.fastTimers) : TableInv t' := by
  obtain ⟨hgame, -, htim, hgen', hfast'⟩ := hout.entered
  constructor
  · intro d p' hp' hnot
    by_cases hd : d = c
    · subst hd
      rcases hout.seats_self hseat with hsame | hsame
      · rw [hsame] at hp'
        cases hp'
        rw [hg] at hnot
        cases hnot
      · rw [hsame] at hp'
        cases hp'
        rw [show q.finishTurn.isGaming = q.isGaming from rfl, hg] at hnot
        cases hnot
    · rw [hout.seats_of_ne hd, hoth d hd] at hp'
      exact h.idle d p' hp' hnot
  · intro hst
    rcases hst with hst | hst
    · rw [hst] at hgame
      cases hgame
    · rw [hst] at hgame
      cases hgame
  · exact fun _ => hplaying
  · exact fun _ => htim
  · intro hnot
    rw [hgame] at hnot
    cases hnot
  · rw [hgen', hfast', hgen, hfast]
    exact h.deadlines

theorem TableInv.settled {pay : Fin n → Player → Player} (h : TableInv t) (hs : Settled t pay t')
    (hgam : ∀ c p, t.seats c = some p → (pay c p).isGaming = p.isGaming)
    (hoths : ∀ c p, t.seats c = some p → p.isGaming = false → pay c p = p) : TableInv t' := by
  constructor
  · intro c p' hp' hg
    rw [hs.seats] at hp'
    obtain ⟨p, hp, rfl⟩ := Option.map_eq_some_iff.mp hp'
    rw [hgam c p hp] at hg
    rw [hoths c p hp hg]
    exact h.idle c p hp hg
  · rw [hs.state]
    intro hst
    rcases hst with hst | hst <;> cases hst
  · rw [hs.state]
    intro hgame
    cases hgame
  · exact fun _ => hs.timer
  · intro _ hmem
    have hle := h.deadlines _ (hs.fastTimers _ hmem)
    rw [hs.gameGeneration] at hle
    omega
  · intro g hg
    rw [hs.gameGeneration]
    exact Nat.le_succ_of_le (h.deadlines g (hs.fastTimers g hg))

theorem TableInv.cleared (h : TableInv t) (hst : t.stage.state = .result) (hc : Cleared t t') :
    TableInv t' := by
  constructor
  · intro c p' hp' _
    obtain ⟨p, -, -, hidle, -⟩ := hc.seats c p' hp'
    exact hidle
  · intro _ c p' hp'
    obtain ⟨p, -, hg, -⟩ := hc.seats c p' hp'
    exact hg
  · rw [hc.state]
    intro hgame
    cases hgame
  · exact fun hwait => absurd hc.state hwait
  · intro _ hmem
    rw [hc.gameGeneration] at hmem
    exact h.deadline (by rw [hst]; rfl) (hc.fastTimers _ hmem)
  · intro g hg
    rw [hc.gameGeneration]
    exact h.deadlines g (hc.fastTimers g hg)

theorem refund_gaming (p : Player) : (refund rc p).isGaming = p.isGaming := by
  unfold refund
  split <;> rfl

theorem payWinner_gaming {value : Int} {w : Fin n} (p : Player) :
    (payWinner rc t w value timeout c p).isGaming = p.isGaming := by
  unfold payWinner
  split
  · change (p.moved value timeout).isGaming = (p.useDice value).isGaming
    exact Player.isGaming_of_core (p.moved_core value timeout)
  · rfl

theorem TableInv.of_change (h : TableInv t) (hch : Change rc t e t') : TableInv t' := by
  cases hch with
  | aside _ aside => exact h.aside aside
  | waited stage =>
    refine ⟨h.idle, h.between, fun hgame => ?_, absurd stage, h.deadline, h.deadlines⟩
    dsimp only at hgame
    rw [stage] at hgame
    cases hgame
  | readied _ aside stage enter => exact (h.aside aside).entered_between (.inl stage) enter (.inr rfl)
  | unready stage enter => exact h.entered_between (.inr stage) enter (.inl rfl)
  | started started => exact h.started started
  | dealt stage enter =>
    obtain ⟨c, p, b, hturn, hallow⟩ := h.playing (by rw [stage]; rfl)
    constructor
    · rw [enter.seats]
      exact h.idle
    · rw [enter.state]
      intro hst
      rcases hst with hst | hst <;> cases hst
    · intro _
      refine ⟨c, p, b, hturn.entered enter, ?_⟩
      rw [stage] at hallow
      rw [enter.state]
      have hunused := p.length_unusedDice_le
      rw [show p.dices = [] from hallow, List.length_nil] at hunused
      exact Nat.le_trans hunused (Nat.zero_le _)
    · exact fun _ => enter.current
    · rw [enter.state]
      intro hgame
      cases hgame
    · rw [enter.gameGeneration, enter.fastTimers]
      exact h.deadlines
  | @rolled r c timeout dice _ p b rolled =>
    obtain ⟨c', p', b', hturn, hallow⟩ := h.playing (by rw [rolled.stage]; rfl)
    have hactive := rolled.active
    rw [hturn.active] at hactive
    cases hactive
    have hg := (Player.isGaming_of_core (p.rolled_core r timeout)).trans rolled.gaming
    exact h.outcome rolled.outcome (hturn.rolled hallow rolled) hg (update_self ..)
      (fun d hd => update_of_ne hd ..) rfl rfl
  | @moved c req timeout p b b' step _ moves outcome =>
    obtain ⟨c', p', b₀, hturn, hallow⟩ := h.playing (by rw [moves.stage]; rfl)
    have hactive := moves.active
    rw [hturn.active] at hactive
    cases hactive
    have hg := (Player.isGaming_of_core (p.moved_core req.diceValue timeout)).trans moves.gaming
    exact h.outcome outcome (hturn.moved hallow moves outcome) hg (update_self ..)
      (fun d hd => update_of_ne hd ..) rfl rfl
  | @won w req timeout p _ _ _ _ moves settled =>
    refine h.settled settled (fun c p _ => payWinner_gaming p) fun c q hq hg => ?_
    refine if_neg fun hcw => ?_
    rw [hcw, moves.seat] at hq
    cases hq
    rw [moves.gaming] at hg
    cases hg
  | drawn _ settled =>
    exact h.settled settled (fun _ p _ => refund_gaming p) fun _ p _ hg => if_neg (by rw [hg]; decide)
  | cleared stage cleared => exact h.cleared stage cleared

theorem TableInv.step (h : TableInv t) (hstep : TableStep rc t e t') : TableInv t' :=
  h.of_change (h.change hstep)

theorem tableInv_new : TableInv (n := n) new := by
  refine ⟨?_, ?_, ?_, absurd rfl, ?_, ?_⟩
  · intro c p hp
    cases hp
  · intro _ c p hp
    cases hp
  · intro hgame
    cases hgame
  · intro _ hmem
    cases hmem
  · intro g hg
    cases hg

def Possible (rc : RoomConfig n) : Table n → Prop := Reachable (· = new) (TableStep rc)

theorem Possible.inv (h : Possible rc t) : TableInv t :=
  h.invariant (fun _ hnew => hnew ▸ tableInv_new) fun _ _ _ hstep hs => hs.step hstep

end Table

end Yola.Ludo
