import Yola.Ludo.Seats

/-!
# Turns

A player in turn rolls until the roll is not a six, then moves dice until none is left that moves a piece.
A six is rolled with fewer than four dice on the table, so a player who may roll has at most four dice to
use, and one who may move at most five.
-/

namespace Yola.Ludo

open Function

/-! ## Dice -/

theorem map_value_useSlot (value : Int) (dices : List DiceSlot) :
    (useSlot value dices).map DiceSlot.value = dices.map DiceSlot.value := by
  induction dices with
  | nil => rfl
  | cons d dices ih =>
    unfold useSlot
    split
    · rfl
    · rw [List.map_cons, ih, List.map_cons]

theorem length_filter_useSlot {value : Int} {dices : List DiceSlot}
    (h : (dices.any fun d => d.value = value && !d.used) = true) :
    ((useSlot value dices).filter (!·.used)).length + 1 = (dices.filter (!·.used)).length := by
  induction dices with
  | nil => cases h
  | cons d dices ih =>
    unfold useSlot
    by_cases hd : (d.value = value && !d.used) = true
    · have hunu : d.used = false := by
        simp only [Bool.and_eq_true, Bool.not_eq_true'] at hd
        exact hd.2
      rw [if_pos hd, List.filter_cons_of_neg (by simp), List.filter_cons_of_pos (by simp [hunu])]
      rfl
    · rw [List.any_cons, Bool.or_eq_true] at h
      have hrest := ih (h.resolve_left hd)
      rw [if_neg hd]
      cases hused : d.used
      · rw [List.filter_cons_of_pos (by simp [hused]), List.filter_cons_of_pos (by simp [hused]),
          List.length_cons, List.length_cons, hrest]
      · rw [List.filter_cons_of_neg (by simp [hused]), List.filter_cons_of_neg (by simp [hused])]
        exact hrest

namespace Player

variable {n : Nat} {p p' : Player} {c : Fin n} {r : Roll} {x : Int}

theorem ctrlRollDice_snd (r : Roll) (p : Player) :
    (p.ctrlRollDice r).2 = { p with initDiceList := p.initDiceList.tail } := by
  have hroll : p.rollInitDiceList.2 = { p with initDiceList := p.initDiceList.tail } := by
    unfold rollInitDiceList
    cases hlist : p.initDiceList with
    | nil => cases p; cases hlist; rfl
    | cons => rfl
  unfold ctrlRollDice
  dsimp only
  rw [← hroll]
  split
  · rfl
  · split
    · rfl
    · split
      · rfl
      · rfl

theorem ctrlRollDice_range (r : Roll) (p : Player) : 1 ≤ (p.ctrlRollDice r).1 ∧ (p.ctrlRollDice r).1 ≤ 6 := by
  have hlow := r.low.isLt
  have hfull := r.full.isLt
  unfold ctrlRollDice
  dsimp only
  split
  · rename_i hrange
    exact hrange
  · split
    · dsimp only
      omega
    · split
      · dsimp only
        omega
      · dsimp only
        omega

/-- Without prepared numbers a six needs room. -/
theorem ctrlRollDice_six (h : (p.ctrlRollDice r).1 = 6) :
    p.initDiceList ≠ [] ∨ p.dices.length < maximumDiceSlot := by
  by_cases hlist : p.initDiceList = []
  · right
    have hroll : p.rollInitDiceList = (-1, p) := by
      unfold rollInitDiceList
      rw [hlist]
    have hlow := r.low.isLt
    unfold ctrlRollDice at h
    rw [hroll] at h
    dsimp only at h
    rw [if_neg (by decide)] at h
    split at h
    · dsimp only at h
      omega
    · split at h
      · dsimp only at h
        omega
      · rename_i hroom
        exact Nat.lt_of_not_le hroom
  · exact .inl hlist

/-- A player in a game, on this chair. -/
structure Gamer (c : Fin n) (p : Player) : Prop where
  color : p.color = (c : Int)
  unfinished : p.isFinish = false
  slots : p.initDiceList ≠ [] → p.dices.length + p.initDiceList.length ≤ maximumDiceSlot
  values : ∀ x ∈ p.dices.map DiceSlot.value, 1 ≤ x

theorem Gamer.of_core (h : p.Gamer c) (hcore : p'.core = p.core) : p'.Gamer c where
  color := (eq_of_core Player.color (fun _ => rfl) hcore).trans h.color
  unfinished := (eq_of_core isFinish (fun _ => rfl) hcore).trans h.unfinished
  slots := by
    rw [eq_of_core Player.dices (fun _ => rfl) hcore, eq_of_core initDiceList (fun _ => rfl) hcore]
    exact h.slots
  values := by
    rw [eq_of_core Player.dices (fun _ => rfl) hcore]
    exact h.values

theorem Gamer.finishTurn (h : p.Gamer c) : p.finishTurn.Gamer c where
  color := h.color
  unfinished := h.unfinished
  slots hlist := Nat.le_trans (Nat.add_le_add_right (Nat.zero_le _) _) (h.slots hlist)
  values := nofun

def rolled (r : Roll) (timeout : Bool) (p : Player) : Player :=
  ((p.ctrlRollDice r).2.addDice (p.ctrlRollDice r).1).incrTimeoutCnt timeout

def moved (value : Int) (timeout : Bool) (p : Player) : Player := (p.useDice value).incrTimeoutCnt timeout

theorem incrTimeoutCnt_core (timeout : Bool) (p : Player) : (p.incrTimeoutCnt timeout).core = p.core := by
  cases timeout <;> rfl

theorem unusedDice_of_core (h : p'.core = p.core) : p'.unusedDice = p.unusedDice :=
  eq_of_core unusedDice (fun _ => rfl) h

theorem rolled_core (r : Roll) (timeout : Bool) (p : Player) :
    (p.rolled r timeout).core =
      ({ p with initDiceList := p.initDiceList.tail }.addDice (p.ctrlRollDice r).1).core := by
  unfold rolled
  rw [incrTimeoutCnt_core, ctrlRollDice_snd]

theorem Gamer.rolled (h : p.Gamer c) (r : Roll) (timeout : Bool) : (p.rolled r timeout).Gamer c := by
  refine Gamer.of_core ?_ (rolled_core r timeout p)
  refine ⟨h.color, h.unfinished, ?_, ?_⟩
  · intro htail
    change (p.dices ++ [_]).length + p.initDiceList.tail.length ≤ maximumDiceSlot
    have hlist : p.initDiceList ≠ [] := fun hnil => htail (by
      change p.initDiceList.tail = []
      rw [hnil]
      rfl)
    have hslots := h.slots hlist
    have hpos := List.length_pos_of_ne_nil hlist
    rw [List.length_append, List.length_singleton, List.length_tail]
    omega
  · intro x hx
    change x ∈ (p.dices ++ [_]).map DiceSlot.value at hx
    rw [List.map_append, List.mem_append] at hx
    cases hx with
    | inl hold => exact h.values x hold
    | inr hnew =>
      rw [List.mem_singleton.mp hnew]
      exact (ctrlRollDice_range r p).1

theorem unusedDice_rolled (r : Roll) (timeout : Bool) (p : Player) :
    (p.rolled r timeout).unusedDice = p.unusedDice ++ [(p.ctrlRollDice r).1] := by
  rw [unusedDice_of_core (rolled_core r timeout p)]
  change ((p.dices ++ [_]).filter _).map _ = _
  rw [List.filter_append, List.map_append]
  rfl

theorem length_unusedDice_le (p : Player) : p.unusedDice.length ≤ p.dices.length := by
  unfold unusedDice
  rw [List.length_map]
  exact List.length_filter_le ..

theorem Gamer.unusedDice_six (h : p.Gamer c) (hsix : (p.ctrlRollDice r).1 = bonusRollValue)
    (timeout : Bool) : (p.rolled r timeout).unusedDice.length ≤ maximumDiceSlot := by
  have hroom : p.dices.length < maximumDiceSlot := by
    cases ctrlRollDice_six hsix with
    | inl hlist =>
      have hslots := h.slots hlist
      have hpos := List.length_pos_of_ne_nil hlist
      omega
    | inr hroom => exact hroom
  have hunused := p.length_unusedDice_le
  rw [unusedDice_rolled, List.length_append, List.length_singleton]
  omega

theorem moved_core (value : Int) (timeout : Bool) (p : Player) :
    (p.moved value timeout).core = (p.useDice value).core := incrTimeoutCnt_core timeout (p.useDice value)

theorem Gamer.moved (h : p.Gamer c) (value : Int) (timeout : Bool) : (p.moved value timeout).Gamer c := by
  have hvals := map_value_useSlot value p.dices
  refine Gamer.of_core ?_ (moved_core value timeout p)
  refine ⟨h.color, h.unfinished, ?_, ?_⟩
  · have hlen : (useSlot value p.dices).length = p.dices.length := by
      simpa using congrArg List.length hvals
    change p.initDiceList ≠ [] → (useSlot value p.dices).length + p.initDiceList.length ≤ maximumDiceSlot
    rw [hlen]
    exact h.slots
  · change ∀ x ∈ (useSlot value p.dices).map DiceSlot.value, 1 ≤ x
    rw [hvals]
    exact h.values

theorem length_unusedDice_moved {value : Int} (h : p.hasUnusedDice value = true) (timeout : Bool) :
    (p.moved value timeout).unusedDice.length + 1 = p.unusedDice.length := by
  rw [unusedDice_of_core (moved_core value timeout p)]
  unfold unusedDice
  rw [List.length_map, List.length_map]
  exact length_filter_useSlot h

theorem mem_unusedDice : x ∈ p.unusedDice ↔ p.hasUnusedDice x = true := by
  unfold unusedDice hasUnusedDice
  rw [List.mem_map, List.any_eq_true]
  constructor
  · intro ⟨d, hd, hval⟩
    obtain ⟨hmem, hunu⟩ := List.mem_filter.mp hd
    exact ⟨d, hmem, by simpa [hval] using hunu⟩
  · intro ⟨d, hmem, hd⟩
    simp only [Bool.and_eq_true, decide_eq_true_eq] at hd
    exact ⟨d, List.mem_filter.mpr ⟨hmem, hd.2⟩, hd.1⟩

theorem Gamer.one_le_unused (h : p.Gamer c) (hx : x ∈ p.unusedDice) : 1 ≤ x := by
  apply h.values x
  unfold unusedDice at hx
  exact (List.filter_sublist.map _).subset hx

end Player

/-- The dice a player in turn may have in each stage. -/
def StageID.Allows (stage : StageID) (board : Board) (p : Player) : Prop :=
  match stage with
  | .sendCard => p.dices = []
  | .dice => p.unusedDice.length ≤ maximumDiceSlot
  | .move =>
      p.unusedDice.length ≤ maximumDiceSlot + 1 ∧ board.calcCanMoveDice p.color p.unusedDice = true
  | _ => True

theorem StageID.Allows.of_core {stage : StageID} {board : Board} {p p' : Player}
    (h : stage.Allows board p) (hcore : p'.core = p.core) : stage.Allows board p' := by
  have hdices := Player.eq_of_core Player.dices (fun _ => rfl) hcore
  have hunu := Player.unusedDice_of_core hcore
  have hcol := Player.eq_of_core Player.color (fun _ => rfl) hcore
  cases stage <;> simp only [Allows, hdices, hunu, hcol] at h ⊢ <;> exact h

namespace Table

variable {n : Nat} {t t' u : Table n} {c d : Fin n} {p q : Player} {rc : RoomConfig n} {b : Board}
  {s : StageID} {p' : Player} {b' : Board} {bonus : Prop} {r : Roll} {timeout : Bool} {req : MoveReq}

/-! ## Stages -/

structure Entered (u : Table n) (s : StageID) (t' : Table n) : Prop where
  state : t'.stage.state = s
  generation : t'.stage.generation = u.stage.generation + 1
  timer : (s, u.stage.generation + 1) ∈ t'.timers
  seats : t'.seats = u.seats
  activeChair : t'.activeChair = u.activeChair
  board : t'.board = u.board
  gameGeneration : t'.gameGeneration = u.gameGeneration
  fastTimers : t'.fastTimers = u.fastTimers

theorem entered_enterStage (rc : RoomConfig n) (u : Table n) (s : StageID) :
    Entered u s (u.enterStage rc s) :=
  ⟨rfl, rfl, List.mem_append_right _ List.mem_cons_self, rfl, rfl, rfl, rfl, rfl⟩

theorem Entered.push (h : Entered u s t') (l : List (Fin n × Push n)) : Entered u s (t'.push l) := { h with }

theorem Entered.current (h : Entered u s t') : (t'.stage.state, t'.stage.generation) ∈ t'.timers := by
  rw [h.state, h.generation]
  exact h.timer

/-! ## Whose turn it is -/

/-- It is the turn of the player on this chair. -/
structure Turn (t : Table n) (c : Fin n) (p : Player) (b : Board) : Prop where
  active : t.activeChair = some c
  seat : t.seats c = some p
  gaming : p.isGaming = true
  board : t.board = some b
  valid : b.Valid
  gamers : ∀ d q, t.seats d = some q → q.isGaming = true → q.Gamer d
  others : ∀ d q, d ≠ c → t.seats d = some q → q.isGaming = true → q.dices = []

def Playing (t : Table n) : Prop := ∃ c p b, Turn t c p b ∧ t.stage.state.Allows b p

theorem Turn.gamer (h : Turn t c p b) : p.Gamer c := h.gamers c p h.seat h.gaming

theorem Turn.playing (h : Turn t c p b) : t.playing c = true :=
  playing_iff.mpr ⟨p, h.seat, h.gaming, h.gamer.unfinished⟩

theorem Turn.entered (h : Turn u c p b) (hent : Entered u s t') : Turn t' c p b where
  active := hent.activeChair.trans h.active
  seat := by
    rw [hent.seats]
    exact h.seat
  gaming := h.gaming
  board := hent.board.trans h.board
  valid := h.valid
  gamers := by
    rw [hent.seats]
    exact h.gamers
  others := by
    rw [hent.seats]
    exact h.others

theorem Aside.gamer (h : Aside t t') (hgame : t.stage.state.inGame = true) (hp : t.seats c = some p)
    (hg : p.isGaming = true) : ∃ p', t'.seats c = some p' ∧ p'.core = p.core := by
  have hch := h.seats c
  rw [hp] at hch
  generalize t'.seats c = o at hch
  cases hch with
  | drop drop =>
    cases drop with
    | kept core => exact ⟨_, rfl, core⟩
    | left may =>
      rcases may with hres | ⟨hwait, -⟩
      · rw [hres] at hgame
        cases hgame
      · rw [hwait] at hgame
        cases hgame
  | restatus s idle =>
    rw [hg] at idle
    cases idle

theorem Aside.gamer_of (h : Aside t t') (hp' : t'.seats c = some p') (hg : p'.isGaming = true) :
    ∃ p, t.seats c = some p ∧ p.isGaming = true ∧ p'.core = p.core := by
  have hch := h.seats c
  rw [hp'] at hch
  generalize t.seats c = o at hch
  cases hch with
  | drop drop =>
    cases drop with
    | kept core => exact ⟨_, rfl, (Player.isGaming_of_core core).symm.trans hg, core⟩
  | restatus s idle notGaming core =>
    rw [Player.isGaming_of_core core] at hg
    exact absurd (of_decide_eq_true hg) notGaming
  | came out =>
    rw [hg] at out
    cases out

theorem Playing.aside (h : Playing t) (hgame : t.stage.state.inGame = true) (haside : Aside t t') :
    Playing t' := by
  obtain ⟨c, p, b, hturn, hallow⟩ := h
  obtain ⟨p', hp', hcore⟩ := haside.gamer hgame hturn.seat hturn.gaming
  refine ⟨c, p', b, ?_, ?_⟩
  · constructor
    · exact haside.activeChair.trans hturn.active
    · exact hp'
    · exact (Player.isGaming_of_core hcore).trans hturn.gaming
    · exact haside.board.trans hturn.board
    · exact hturn.valid
    · intro d q' hq' hg
      obtain ⟨q, hq, hqg, hqcore⟩ := haside.gamer_of hq' hg
      exact (hturn.gamers d q hq hqg).of_core hqcore
    · intro d q' hne hq' hg
      obtain ⟨q, hq, hqg, hqcore⟩ := haside.gamer_of hq' hg
      exact (Player.eq_of_core Player.dices (fun _ => rfl) hqcore).trans (hturn.others d q hne hq hqg)
  · rw [haside.stage]
    exact hallow.of_core hcore

theorem Turn.update (h : Turn t c p b) (hval : b'.Valid) (hg : q.isGaming = true) (hgamer : q.Gamer c) :
    Turn { t with board := some b', seats := update t.seats c (some q) } c q b' where
  active := h.active
  seat := update_self ..
  gaming := hg
  board := rfl
  valid := hval
  gamers d q' hq' hg' := by
    dsimp only at hq'
    by_cases hd : d = c
    · subst hd
      rw [update_self] at hq'
      cases hq'
      exact hgamer
    · rw [update_of_ne hd] at hq'
      exact h.gamers d q' hq' hg'
  others d q' hne hq' hg' := by
    dsimp only at hq'
    rw [update_of_ne hne] at hq'
    exact h.others d q' hne hq' hg'

/-! ## How a roll or a move goes on -/

/-- What follows for the player on a chair: the turn ends, or they may roll once more, or move. -/
inductive Outcome (u : Table n) (c : Fin n) (q : Player) (b : Board) (bonus : Prop)
    (t' : Table n) : Prop where
  | ended
      (enter : Entered { u.modify c Player.finishTurn with
        activeChair := (u.modify c Player.finishTurn).getNextActiveChair } .dice t')
  | again (earned : bonus) (enter : Entered u .dice t')
  | moves (can : b.calcCanMoveDice q.color q.unusedDice = true) (enter : Entered u .move t')

section

variable (h : Outcome u c q b bonus t')

include h

theorem Outcome.push (l : List (Fin n × Push n)) : Outcome u c q b bonus (t'.push l) := by
  cases h with
  | ended enter => exact .ended (enter.push l)
  | again earned enter => exact .again earned (enter.push l)
  | moves can enter => exact .moves can (enter.push l)

omit h in
theorem Outcome.of_timers {l : List (StageID × Nat)}
    (h : Outcome { u with timers := l } c q b bonus t') : Outcome u c q b bonus t' := by
  cases h with
  | ended enter => exact .ended { enter with }
  | again earned enter => exact .again earned { enter with }
  | moves can enter => exact .moves can { enter with }

theorem Outcome.seats_of_ne (hd : d ≠ c) : t'.seats d = u.seats d := by
  cases h with
  | ended enter =>
    rw [enter.seats]
    dsimp only
    rw [seats_modify, if_neg hd]
  | again _ enter | moves _ enter => rw [enter.seats]

theorem Outcome.seats_self (hq : u.seats c = some q) : t'.seats c = some q ∨ t'.seats c = some q.finishTurn := by
  cases h with
  | ended enter =>
    right
    rw [enter.seats]
    dsimp only
    rw [seats_modify, if_pos rfl, hq]
    rfl
  | again _ enter | moves _ enter =>
    left
    rw [enter.seats, hq]

theorem Outcome.entered : t'.stage.state.inGame = true ∧ t'.stage.generation = u.stage.generation + 1 ∧
      (t'.stage.state, t'.stage.generation) ∈ t'.timers ∧ t'.gameGeneration = u.gameGeneration ∧
      t'.fastTimers = u.fastTimers := by
  cases h with
  | ended enter | again _ enter | moves _ enter =>
    exact ⟨by rw [enter.state]; rfl, enter.generation, enter.current, enter.gameGeneration, enter.fastTimers⟩

end

theorem endPlayerTurn_entered (rc : RoomConfig n) (u : Table n) (c : Fin n) :
    Entered { u.modify c Player.finishTurn with
      activeChair := (u.modify c Player.finishTurn).getNextActiveChair } .dice (u.endPlayerTurn rc c) :=
  (entered_enterStage ..).push _

theorem repeatPlayerTurn_entered (rc : RoomConfig n) (h : u.activeChair = some c) :
    Entered u .dice (u.repeatPlayerTurn rc c) :=
  { (entered_enterStage rc u .dice) with activeChair := h.symm }

theorem allowPlayerToMove_entered (rc : RoomConfig n) (h : u.activeChair = some c) :
    Entered u .move (u.allowPlayerToMove rc c) :=
  { (entered_enterStage rc u .move) with activeChair := h.symm }

theorem Turn.getNextActiveChair (h : Turn t c p b) :
    ∃ d, t.getNextActiveChair = some d ∧ t.playing d = true := by
  unfold Table.getNextActiveChair
  rw [h.active]
  exact nextPlayer_of_playing h.playing

theorem Turn.ended (h : Turn u c q b)
    (hent : Entered { u.modify c Player.finishTurn with
      activeChair := (u.modify c Player.finishTurn).getNextActiveChair } .dice t') : Playing t' := by
  have hfin : Turn (u.modify c Player.finishTurn) c q.finishTurn b := by
    have hupdate := h.update h.valid (q := q.finishTurn) h.gaming h.gamer.finishTurn
    rw [← h.board] at hupdate
    rw [modify_eq _ h.seat]
    exact hupdate
  obtain ⟨d, hd, hplaying⟩ := hfin.getNextActiveChair
  obtain ⟨p, hp, hg, hunfinished⟩ := playing_iff.mp hplaying
  have hdices (e : Fin n) (r : Player) (hr : (u.modify c Player.finishTurn).seats e = some r)
      (hrg : r.isGaming = true) : r.dices = [] := by
    by_cases he : e = c
    · subst he
      rw [hfin.seat] at hr
      cases hr
      rfl
    · exact hfin.others e r he hr hrg
  refine ⟨d, p, b, Turn.entered ?_ hent, ?_⟩
  · exact ⟨hd, hp, hg, hfin.board, hfin.valid, hfin.gamers,
      fun e r _ hr hrg => hdices e r hr hrg⟩
  · rw [hent.state]
    have hunu := p.length_unusedDice_le
    rw [hdices d p hp hg, List.length_nil] at hunu
    exact Nat.le_trans hunu (Nat.zero_le _)

theorem Turn.outcome (h : Turn u c q b) (hout : Outcome u c q b bonus t')
    (hbonus : bonus → q.unusedDice.length ≤ maximumDiceSlot)
    (hfew : q.unusedDice.length ≤ maximumDiceSlot + 1) : Playing t' := by
  cases hout with
  | ended enter => exact h.ended enter
  | again earned enter =>
    refine ⟨c, q, b, h.entered enter, ?_⟩
    rw [enter.state]
    exact hbonus earned
  | moves can enter =>
    refine ⟨c, q, b, h.entered enter, ?_⟩
    rw [enter.state]
    exact ⟨hfew, can⟩

/-! ## Rolls -/

structure Rolled (t : Table n) (r : Roll) (c : Fin n) (timeout : Bool) (dice : Int) (t' : Table n)
    (p : Player) (b : Board) : Prop where
  stage : t.stage.state = .dice
  active : t.activeChair = some c
  seat : t.seats c = some p
  gaming : p.isGaming = true
  board : t.board = some b
  rolled : dice = (p.ctrlRollDice r).1
  outcome : Outcome { t with seats := update t.seats c (some (p.rolled r timeout)) } c
    (p.rolled r timeout) b (dice = bonusRollValue) t'

theorem outcome_of_roll (rc : RoomConfig n) (dice : Int) (tripleSix : Bool)
    (hact : u.activeChair = some c) :
    Outcome u c q b (dice = bonusRollValue)
      (if !b.calcCanMoveDice q.color q.unusedDice || tripleSix then u.endPlayerTurn rc c
      else if dice = bonusRollValue then u.repeatPlayerTurn rc c
      else u.allowPlayerToMove rc c) := by
  split
  · exact .ended (endPlayerTurn_entered ..)
  · rename_i hends
    simp only [Bool.or_eq_true, not_or, Bool.not_eq_true', Bool.not_eq_false] at hends
    split
    · rename_i hsix
      exact .again hsix (repeatPlayerTurn_entered rc hact)
    · exact .moves hends.1 (allowPlayerToMove_entered rc hact)

theorem rolled_of_rollDice {rsp : DiceRsp} (h : t.rollDice rc r c timeout = some (rsp, t')) :
    ∃ p b, Rolled t r c timeout rsp.dice t' p b := by
  unfold rollDice at h
  split at h
  · rename_i p b hp hboard
    split at h
    · cases h
    · rename_i hguard
      simp only [Bool.or_eq_true, decide_eq_true_eq, not_or, Decidable.not_not,
        Bool.not_eq_true', Bool.not_eq_false] at hguard
      obtain ⟨⟨⟨hst, hact⟩, hgam⟩, -⟩ := hguard
      cases h
      exact ⟨p, b, hst, hact.symm, hp, hgam, hboard, rfl, outcome_of_roll rc _ _ hact.symm⟩
  · cases h

theorem Turn.rolled {dice : Int} (h : Turn t c p b) (hallow : t.stage.state.Allows b p)
    (hroll : Rolled t r c timeout dice t' p' b') : Playing t' := by
  have hseat := hroll.seat
  have hboard := hroll.board
  rw [h.seat] at hseat
  rw [h.board] at hboard
  cases hseat
  cases hboard
  rw [hroll.stage] at hallow
  have hturn := h.update h.valid (q := p.rolled r timeout)
    ((Player.isGaming_of_core (p.rolled_core r timeout)).trans h.gaming) (h.gamer.rolled r timeout)
  rw [← h.board] at hturn
  apply hturn.outcome hroll.outcome
  · intro hsix
    rw [hroll.rolled] at hsix
    exact h.gamer.unusedDice_six hsix timeout
  · rw [Player.unusedDice_rolled, List.length_append]
    exact Nat.add_le_add_right hallow 1

theorem Turn.rollDice (h : Turn t c p b) (rc : RoomConfig n) (hst : t.stage.state = .dice)
    (r : Roll) (timeout : Bool) : ∃ rsp t', t.rollDice rc r c timeout = some (rsp, t') := by
  unfold Table.rollDice
  rw [h.seat, h.board]
  dsimp only
  rw [if_neg]
  · exact ⟨_, _, rfl⟩
  · simp [hst, h.active, h.gaming, h.gamer.unfinished]

/-! ## Moves -/

structure Moves (t : Table n) (c : Fin n) (req : MoveReq) (p : Player) (b : Board) (step : Step)
    (b' : Board) : Prop where
  stage : t.stage.state = .move
  active : t.activeChair = some c
  seat : t.seats c = some p
  gaming : p.isGaming = true
  board : t.board = some b
  has : p.hasUnusedDice req.diceValue = true
  move : b.move req.pieceId req.diceValue = some (step, b')

def afterPiece (t : Table n) (c : Fin n) (q : Player) (b' : Board) : Table n :=
  { t with board := some b', seats := update t.seats c (some q) }

theorem moves_of_movePiece {rsp : MoveRsp} (h : t.movePiece rc c req timeout = some (rsp, t')) :
    ∃ p b step b', Moves t c req p b step b' ∧
      (t' = ((t.afterPiece c (p.moved req.diceValue timeout) b').modify c
          Player.setFinish).settleGame rc (some c) .playerHandEmpty ∨
        Outcome (t.afterPiece c (p.moved req.diceValue timeout) b') c
          (p.moved req.diceValue timeout) b' True t') := by
  unfold movePiece at h
  split at h
  · rename_i p b hp hboard
    split at h
    · cases h
    · rename_i hguard
      simp only [Bool.or_eq_true, decide_eq_true_eq, not_or, Decidable.not_not,
        Bool.not_eq_true', Bool.not_eq_false] at hguard
      obtain ⟨⟨⟨hst, hact⟩, hgam⟩, -⟩ := hguard
      split at h
      · cases h
      · rename_i hhas
        split at h
        · cases h
        · split at h
          · cases h
          · rename_i step b' hmove
            cases h
            refine ⟨p, b, step, b', ⟨hst, hact.symm, hp, hgam, hboard, ?_, hmove⟩, ?_⟩
            · simpa using hhas
            · unfold afterMove
              split
              · exact .inl rfl
              · right
                split
                · exact .again trivial (repeatPlayerTurn_entered rc hact.symm)
                · split
                  · exact .ended (endPlayerTurn_entered ..)
                  · rename_i hcan
                    exact .moves (by simpa [Player.moved] using hcan) (allowPlayerToMove_entered rc hact.symm)
  · cases h

theorem Turn.moved {b₀ : Board} {step : Step} (h : Turn t c p b) (hallow : t.stage.state.Allows b p)
    (hmv : Moves t c req p' b₀ step b')
    (hout : Outcome (t.afterPiece c (p'.moved req.diceValue timeout) b') c
      (p'.moved req.diceValue timeout) b' True t') : Playing t' := by
  have hseat := hmv.seat
  have hboard := hmv.board
  rw [h.seat] at hseat
  rw [h.board] at hboard
  cases hseat
  cases hboard
  rw [hmv.stage] at hallow
  have hless := Player.length_unusedDice_moved hmv.has timeout
  have hunu : (p.moved req.diceValue timeout).unusedDice.length ≤ maximumDiceSlot := by
    have hmost := hallow.1
    omega
  have hcore := p.moved_core req.diceValue timeout
  have hturn := h.update (h.valid.move hmv.move) (q := p.moved req.diceValue timeout)
    ((Player.isGaming_of_core hcore).trans h.gaming) (h.gamer.moved req.diceValue timeout)
  exact hturn.outcome hout (fun _ => hunu) (Nat.le_succ_of_le hunu)

theorem Turn.movePiece (h : Turn t c p b) (rc : RoomConfig n) (req : MoveReq) (hst : t.stage.state = .move)
    (hdice : req.diceValue ∈ p.unusedDice) (hid : req.pieceId ∈ b.getActivePieceIDs p.color)
    (hcan : (b.canMoveOne req.pieceId req.diceValue).1 = true) (timeout : Bool) :
    ∃ rsp t', t.movePiece rc c req timeout = some (rsp, t') := by
  obtain ⟨piece, hpiece, hcol, -⟩ := h.valid.mem_getActivePieceIDs.mp hid
  obtain ⟨step, b', hmove⟩ := Board.move_isSome hpiece req.diceValue
  unfold Table.movePiece
  rw [h.seat, h.board]
  dsimp only
  rw [if_neg, if_neg, if_neg, hmove]
  · exact ⟨_, _, rfl⟩
  · simp [Board.canMove_of_canMoveOne hpiece hcol hcan]
  · simp [Player.mem_unusedDice.mp hdice]
  · simp [hst, h.active, h.gaming, h.gamer.unfinished]

end Table

end Yola.Ludo
