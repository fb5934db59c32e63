import Yola.Ludo.Invariant

/-!
# Turns never stall

Whenever a roll or a move is awaited there is a player in turn who can do it, and if they do not, the
table does it for them.
-/

namespace Yola.Ludo

open Reasoning

namespace Table

variable {n : Nat} {t : Table n} {c : Fin n} {p : Player} {rc : RoomConfig n} {b : Board} {t' : Table n}
  {timeout : Bool}

/-! ## A game of two -/

def rulesOfHouse {n : Nat} (chairNum_le : n ≤ 4) : RoomConfig n where
  chairNum_le := chairNum_le
  fastMode := true
  autoReady := true
  minMoney := 1
  maxMoney := -1
  baseMoney := 1
  fee := 1 / 10
  vipLimit := 0

def houseRules : RoomConfig 2 := rulesOfHouse (by decide)

def guest (uid : Int) : Player where
  uid := uid
  vip := 0
  money := 10
  status := .free
  idleCount := 0
  isOffline := false
  exiting := false
  color := -1
  initDiceList := []
  lastRoll := -1
  dices := []
  lastDices := []
  allArrived := false

def oneSeated : Table 2 := (new.seat houseRules (guest 7) [] false).getD new

def twoSeated : Table 2 := (oneSeated.seat houseRules (guest 8) [] false).getD oneSeated

def three : Roll := ⟨false, 2, 2⟩

def plain : Deal n := ⟨fun _ => [1, 2, 3, 4, 5], fun _ => 0, 0⟩

def startedTwo : Table 2 := ({ twoSeated with timers := [] }.onStageTimer houseRules three plain .ready 1).2

def rollingTwo : Table 2 := ({ startedTwo with timers := [] }.onStageTimer houseRules three plain .sendCard 2).2

def movingTwo : Table 2 := ({ rollingTwo with timers := [] }.onStageTimer houseRules three plain .dice 3).2

theorem seat_step (hseat : (t.seat rc p [] false).isSome = true) :
    TableStep rc t (.seated p [] false) ((t.seat rc p [] false).getD t) := by
  obtain ⟨u, hu⟩ := Option.isSome_iff_exists.mp hseat
  rw [hu]
  exact .seat p [] false hu

theorem timer_step (rc : RoomConfig n) {state : StageID} {generation : Nat} {a l : List (StageID × Nat)}
    (htim : t.timers = a ++ (state, generation) :: l) :
    TableStep rc t ({ t with timers := a ++ l }.onStageTimer rc three plain state generation).1
      ({ t with timers := a ++ l }.onStageTimer rc three plain state generation).2 :=
  .timer three plain state generation htim (fun _ => .refl _) rfl

theorem twoSeated_possible : Possible houseRules twoSeated := by
  have hone : TableStep houseRules new (.seated (guest 7) [] false) oneSeated := seat_step (by decide +kernel)
  have htwo : TableStep houseRules oneSeated (.seated (guest 8) [] false) twoSeated := seat_step (by decide +kernel)
  exact ⟨new, _, rfl, .cons hone (.single htwo)⟩

theorem startedTwo_step : TableStep houseRules twoSeated (.started [0, 1]) startedTwo := by
  have hstep := timer_step houseRules (a := []) (l := [])
    (show twoSeated.timers = [(.ready, 1)] by decide +kernel)
  have hevent : ({ twoSeated with timers := [] ++ [] }.onStageTimer houseRules three plain .ready 1).1 =
      .started [0, 1] := by decide +kernel
  rw [hevent] at hstep
  exact hstep

theorem movingTwo_possible : Possible houseRules movingTwo := by
  have hrolling := timer_step houseRules (a := []) (l := [])
    (show startedTwo.timers = [(.sendCard, 2)] by decide +kernel)
  have hmoving := timer_step houseRules (a := []) (l := [])
    (show rollingTwo.timers = [(.dice, 3)] by decide +kernel)
  exact ((twoSeated_possible.next startedTwo_step).next hrolling).next hmoving

/-! ## Rolls and moves -/

theorem generation_of_rollDice {r : Roll} {rsp : DiceRsp} (h : t.rollDice rc r c timeout = some (rsp, t')) :
    t'.stage.generation = t.stage.generation + 1 := by
  obtain ⟨p, b, hroll⟩ := rolled_of_rollDice h
  exact hroll.outcome.entered.2.1

theorem generation_of_movePiece {req : MoveReq} {rsp : MoveRsp}
    (h : t.movePiece rc c req timeout = some (rsp, t')) : t'.stage.generation = t.stage.generation + 1 := by
  obtain ⟨p, b, step, b', hmv, hwon | hout⟩ := moves_of_movePiece h
  · have hset := settled_won rc req.diceValue timeout b' hmv.seat
    rw [← hwon] at hset
    exact hset.generation
  · exact hout.entered.2.1

theorem stage_broadcastDicePush (t : Table n) (requester : Option Int) (rsp : DiceRsp) :
    (t.broadcastDicePush requester rsp).stage = t.stage := by
  cases requester <;> rfl

/-- In every stage of rolls or moves somebody is in turn, who is in the game and has not finished it, and
there is somebody after them.  A roll is always accepted.  In a stage of moves the player has a die that
moves one of their pieces, the search finds such a die and such a piece, and the move is accepted.  When
the time is over the table rolls or moves, and another instance of a stage begins. -/
theorem turns_never_stall (h : Possible rc t) (hstage : t.stage.state = .dice ∨ t.stage.state = .move) :
    ∃ c p b, t.activeChair = some c ∧ t.seats c = some p ∧ p.isGaming = true ∧ p.isFinish = false ∧
      t.board = some b ∧ p.color = (c : Int) ∧ t.getNextActiveChair ≠ none ∧
      (t.stage.state, t.stage.generation) ∈ t.timers ∧
      (t.stage.state = .dice → ∀ r, (∀ timeout, (t.rollDice rc r c timeout).isSome = true) ∧
        ∃ dice, (t.onDiceTimeout rc r).1 = .rolled c dice ∧
          (t.onDiceTimeout rc r).2.stage.generation = t.stage.generation + 1) ∧
      (t.stage.state = .move → ∃ id dice,
        findBestMoveSequence b p.unusedDice p.color = (id, dice) ∧ dice ∈ p.unusedDice ∧
        id ∈ b.getActivePieceIDs p.color ∧ (b.canMove p.color id dice).1 = true ∧
        ∃ rsp t', t.movePiece rc c ⟨id, dice⟩ true = some (rsp, t') ∧
          t'.stage.generation = t.stage.generation + 1 ∧
          t.onMoveTimeout rc = (t'.moveEvent c ⟨id, dice⟩, t'.broadcastMovePush none rsp)) := by
  have hinv := h.inv
  have hgame : t.stage.state.inGame = true := by
    rcases hstage with hstage | hstage
    · rw [hstage]
      rfl
    · rw [hstage]
      rfl
  have htim : (t.stage.state, t.stage.generation) ∈ t.timers := by
    apply hinv.timer
    intro hwait
    rw [hwait] at hgame
    cases hgame
  obtain ⟨c, p, b, hturn, hallow⟩ := hinv.playing hgame
  refine ⟨c, p, b, hturn.active, hturn.seat, hturn.gaming, hturn.gamer.unfinished, hturn.board,
    hturn.gamer.color, ?_, htim, ?_, ?_⟩
  · obtain ⟨d, hd, -⟩ := hturn.getNextActiveChair
    rw [hd]
    exact Option.some_ne_none d
  · intro hdice r
    constructor
    · intro timeout
      obtain ⟨rsp, t', hroll⟩ := hturn.rollDice rc hdice r timeout
      rw [hroll]
      rfl
    · obtain ⟨rsp, t', hroll, hto⟩ := hturn.onDiceTimeout rc hdice r
      rw [hto]
      refine ⟨rsp.dice, rfl, ?_⟩
      dsimp only
      rw [stage_broadcastDicePush]
      exact generation_of_rollDice hroll
  · intro hmove
    obtain ⟨id, dice, hbest, hdice, hid, hcan⟩ := hturn.legalMove hallow hmove
    obtain ⟨piece, hpiece, hcol, -⟩ := hturn.valid.mem_getActivePieceIDs.mp hid
    obtain ⟨rsp, t', hacc, hto⟩ :=
      hturn.onMoveTimeout rc hmove hbest hdice hid hcan
    exact ⟨id, dice, hbest, hdice, hid, Board.canMove_of_canMoveOne hpiece hcol hcan, rsp, t',
      hacc, generation_of_movePiece hacc, hto⟩

theorem turns_never_stall_first_move : ∃ c req rsp t',
    movingTwo.activeChair = some c ∧ movingTwo.movePiece houseRules c req true = some (rsp, t') := by
  have hst : movingTwo.stage.state = .move := by decide +kernel
  obtain ⟨c, p, b, hact, -, -, -, -, -, -, -, -, hmove⟩ :=
    turns_never_stall movingTwo_possible (.inr hst)
  obtain ⟨id, dice, -, -, -, -, rsp, t', hacc, -⟩ := hmove hst
  exact ⟨c, ⟨id, dice⟩, rsp, t', hact, hacc⟩

end Table

end Yola.Ludo
