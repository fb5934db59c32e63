import Mathlib.Data.List.Induction
import Mathlib.Data.Prod.Lex
import Yola.Ludo.Reachable
import Yola.Reasoning.Folds

/-!
# The search for a move

`FindBestMoveSequence` tries every sequence of moves with the given dice on a copy of the board, taking
each move back before the next, and prefers the longest sequence and then the best score.  As the copy is
restored after every try, the search is a loop over all sequences in the order of the dice and the pieces,
and what is pruned could not win.
-/

namespace Yola.Ludo

open Reasoning

def threatenedDistance : Int := 6

def dangerousDistance : Int := 6

def wrapInt32 (x : Int) : Int := x.bmod (2 ^ 32)

namespace Board

variable (b : Board)

/-- What a step adds to the score, at its place among the steps. -/
def stepScore (count : Nat) (step : Step × Nat) : Int :=
  if step.1.fromPos = step.1.toPos then 0
  else
    step.1.x * 2 +
      (step.1.killed.map fun killed =>
        stepsFromStart killed.fromPos killed.color * 2 + (count - step.2 : Int) * 2 + 20).sum +
      (if step.1.fromPos = basePos then 60 else 0) +
      (if (b.getPieceByID step.1.id).any Piece.isArrived then 80 else 0)

def enemyScore (p : Piece) (eID : Int) : Int :=
  match b.getPieceByID eID with
  -- the source goes on with a nil pointer
  | none => 0
  | some e =>
      if !e.isOnBoard || !p.isEnemy e then 0
      else
        let forwardDist := (e.pos - p.pos + totalPositions).tmod totalPositions
        let backwardDist := (p.pos - e.pos + totalPositions).tmod totalPositions
        (if 0 < backwardDist ∧ backwardDist ≤ dangerousDistance then
          -((dangerousDistance - backwardDist + 1) * 2) else 0) +
        (if 0 < forwardDist ∧ forwardDist ≤ threatenedDistance then
          (threatenedDistance - forwardDist + 1).tdiv 2 else 0)

def pieceScore (enemy : List Int) (id : Int) : Int :=
  match b.getPieceByID id with
  | none => 0
  | some p =>
      (if p.pos ∈ safePositions then 15 else 0) +
      (if p.state = .inHomePath then 2 else 0) +
      (if !p.isOnBoard then 0
      else
        let stepsToEnd := (p.pos - homeEntrances p.color + totalPositions).tmod totalPositions
        (totalPositions - stepsToEnd).tdiv 5 + (enemy.map (b.enemyScore p)).sum)

/-- What the `int32` arithmetic of `evaluateMoveSequence` adds up. -/
def sequenceScore (steps : List Step) (totalDiceSum : Int) (ids enemy : List Int) : Int :=
  let usedDiceSum := ((steps.filter fun step => step.fromPos ≠ step.toPos).map Step.x).sum
  let wasted := wrapInt32 (totalDiceSum - usedDiceSum)
  (steps.zipIdx.map (b.stepScore steps.length)).sum + (ids.map (b.pieceScore enemy)).sum +
    usedDiceSum - (if 0 < wasted then wasted else 0)

def evaluateMoveSequence (steps : List Step) (totalDiceSum : Int) (ids enemy : List Int) : Int :=
  wrapInt32 (b.sequenceScore steps totalDiceSum ids enemy)

end Board

structure MoveSearch where
  board : Board
  dices : List Int
  usedDices : List Bool
  pieces : List Int
  enemies : List Int
  totalDiceSum : Int
  bestScore : Int
  bestPath : List Int
  maxSteps : Nat

namespace MoveSearch

def new (board : Board) (dices ids enemy : List Int) : MoveSearch where
  board := board
  dices := dices
  usedDices := List.replicate dices.length false
  pieces := ids
  enemies := enemy
  totalDiceSum := dices.sum
  bestScore := -2 ^ 31
  bestPath := []
  maxSteps := 0

def record (s : MoveSearch) (path : List Int) (steps : List Step) : MoveSearch :=
  if steps.length = 0 then s
  else
    let score := s.board.evaluateMoveSequence steps s.totalDiceSum s.pieces s.enemies
    if s.maxSteps < steps.length || s.bestScore < score && steps.length = s.maxSteps then
      { s with maxSteps := steps.length, bestScore := score, bestPath := path }
    else s

section Loops

variable (search : List Int → List Step → MoveSearch → MoveSearch) (path : List Int)
  (steps : List Step)

def tryPiece (diceIndex : Nat) (dice : Int) (s : MoveSearch) (pieceID : Int) : MoveSearch :=
  if !(s.board.canMoveOne pieceID dice).1 then s
  else
    match s.board.move pieceID dice with
    | none => s
    | some (step, board) =>
        let s := search (path ++ [pieceID, dice]) (steps ++ [step])
          { s with usedDices := s.usedDices.set diceIndex true, board := board }
        { s with
          board := (s.board.backOne.map Prod.snd).getD s.board
          usedDices := s.usedDices.set diceIndex false }

def tryDice (s : MoveSearch) (dice : Int × Nat) : MoveSearch :=
  if s.usedDices.getD dice.2 false then s
  else s.pieces.foldl (tryPiece search path steps dice.2 dice.1) s

end Loops

def evaluate (remainingDice : Nat) (path : List Int) (steps : List Step) (s : MoveSearch) :
    MoveSearch :=
  if steps.length + remainingDice < s.maxSteps then s
  else
    let s := s.record path steps
    match remainingDice with
    -- every die is used
    | 0 => s
    | remainingDice + 1 => s.dices.zipIdx.foldl (tryDice (evaluate remainingDice) path steps) s

end MoveSearch

/-- The piece and the die of the first move, or `-1` and `-1`. -/
def findBestMoveSequence (b : Board) (dices : List Int) (color : Int) : Int × Int :=
  if dices.length = 0 then (-1, -1)
  else
    let boardCopy := b.clone
    let left := boardCopy.pieces.filter fun p => !p.isArrived
    let ids := (left.filter fun p => (p.color : Int) = color).map Piece.id
    let enemy := (left.filter fun p => (p.color : Int) ≠ color).map Piece.id
    if ids.length = 0 then (-1, -1)
    else
      let search := (MoveSearch.new boardCopy dices ids enemy).evaluate dices.length [] []
      match search.bestPath with
      | id :: dice :: _ => (id, dice)
      | _ => (-1, -1)

/-! ## All sequences of moves -/

/-- A sequence of moves, and the board after it. -/
structure Line where
  path : List Int
  steps : List Step
  board : Board

namespace Line

variable (lines : List Bool → Line → List Line) (used : List Bool) (l : Line) (die : Int × Nat)

/-- The sequences that go on with a legal move. -/
def withPiece (id : Int) : List Line :=
  if !(l.board.canMoveOne id die.1).1 then []
  else
    match l.board.move id die.1 with
    | none => []
    | some (step, board) =>
        lines (used.set die.2 true) ⟨l.path ++ [id, die.1], l.steps ++ [step], board⟩

/-- The sequences that go on with a die, one piece after the other. -/
def withDice (pieces : List Int) : List Line :=
  if used.getD die.2 false then [] else pieces.flatMap (l.withPiece lines used die)

end Line

/-- A sequence and all that go on from it with at most so many unused dice, one die after the other. -/
def lines (dices pieces : List Int) : Nat → List Bool → Line → List Line
  | 0, _, l => [l]
  | k + 1, used, l => l :: dices.zipIdx.flatMap fun die => l.withDice (lines dices pieces k) used die pieces

namespace Board

variable (b : Board) (dices : List Int) (color : Int)

def activeEnemyIDs : List Int :=
  ((b.pieces.filter fun p => !p.isArrived).filter fun p => (p.color : Int) ≠ color).map Piece.id

/-- The sequences of at least one move. -/
def sequences : List Line :=
  (lines dices (b.getActivePieceIDs color) dices.length (List.replicate dices.length false)
    ⟨[], [], b.clone⟩).tail

/-- How good a sequence is: the number of dice first, then the score. -/
def rank (l : Line) : Nat ×ₗ Int :=
  toLex (l.steps.length, l.board.evaluateMoveSequence l.steps dices.sum (b.getActivePieceIDs color)
    (b.activeEnemyIDs color))

end Board

section Lines

variable {dices pieces path : List Int} {steps : List Step} {k : Nat} {used : List Bool} {l l₀ : Line}

theorem lines_eq_cons : lines dices pieces k used l = l :: (lines dices pieces k used l).tail := by
  cases k <;> rfl

theorem mem_lines_tail : l ∈ (lines dices pieces (k + 1) used l₀).tail ↔
    ∃ die ∈ dices.zipIdx, used.getD die.2 false = false ∧ ∃ id ∈ pieces,
      (l₀.board.canMoveOne id die.1).1 = true ∧ ∃ step board, l₀.board.move id die.1 = some (step, board) ∧
        l ∈ lines dices pieces k (used.set die.2 true) ⟨l₀.path ++ [id, die.1], l₀.steps ++ [step], board⟩ := by
  rw [lines, List.tail_cons, List.mem_flatMap]
  refine exists_congr fun die => and_congr_right fun _ => ?_
  unfold Line.withDice
  cases used.getD die.2 false with
  | true => simp
  | false =>
    simp only [Bool.false_eq_true, if_false, List.mem_flatMap, true_and]
    refine exists_congr fun id => and_congr_right fun _ => ?_
    unfold Line.withPiece
    cases (l₀.board.canMoveOne id die.1).1 with
    | false => simp
    | true => rcases l₀.board.move id die.1 with _ | ⟨step, board⟩ <;> simp

theorem lines_extend (h : l ∈ lines dices pieces k used l₀) :
    l₀.path <+: l.path ∧ l₀.steps.length ≤ l.steps.length ∧ l.steps.length ≤ l₀.steps.length + k := by
  induction k generalizing used l₀ with
  | zero =>
    obtain rfl := List.mem_singleton.mp h
    exact ⟨List.prefix_rfl, le_rfl, le_rfl⟩
  | succ k ih =>
    rw [lines_eq_cons, List.mem_cons, mem_lines_tail] at h
    obtain rfl | ⟨die, -, -, id, -, -, step, board, -, h⟩ := h
    · exact ⟨List.prefix_rfl, le_rfl, by omega⟩
    · obtain ⟨hpath, hle, hge⟩ := ih h
      rw [List.length_append, List.length_singleton] at hle hge
      exact ⟨(List.prefix_append ..).trans hpath, by omega, by omega⟩

end Lines

/-! ## The search goes through all sequences -/

namespace MoveSearch

variable {s s' : MoveSearch} {path : List Int} {steps : List Step} {k i : Nat} {dice id : Int} {l : Line}
  {ls : List Line}

def rank (s : MoveSearch) (l : Line) : Nat ×ₗ Int :=
  toLex (l.steps.length, l.board.evaluateMoveSequence l.steps s.totalDiceSum s.pieces s.enemies)

/-- What `record` does with a sequence. -/
def offer (s : MoveSearch) (l : Line) : MoveSearch :=
  if l.steps.length = 0 then s
  else if toLex (s.maxSteps, s.bestScore) < s.rank l then
    { s with maxSteps := l.steps.length, bestScore := (ofLex (s.rank l)).2, bestPath := l.path }
  else s

theorem record_eq (s : MoveSearch) (path : List Int) (steps : List Step) :
    s.record path steps = s.offer ⟨path, steps, s.board⟩ := by
  unfold record offer rank
  simp only [Prod.Lex.toLex_lt_toLex, Bool.or_eq_true, Bool.and_eq_true, decide_eq_true_eq, ofLex_toLex,
    and_comm, @eq_comm _ steps.length]

/-- What the search works on. -/
def task (s : MoveSearch) : Board × List Int × List Bool × List Int × List Int × Int :=
  (s.board, s.dices, s.usedDices, s.pieces, s.enemies, s.totalDiceSum)

theorem offer_task (s : MoveSearch) (l : Line) : (s.offer l).task = s.task := by
  unfold offer
  split_ifs <;> rfl

theorem foldl_offer_task (ls : List Line) : (ls.foldl offer s).task = s.task :=
  List.foldlRecOn (motive := fun s' => s'.task = s.task) ls offer rfl fun s' h l _ => (s'.offer_task l).trans h

theorem foldl_offer_with (used : List Bool) (board : Board) :
    ls.foldl offer { s with usedDices := used, board := board } =
      { ls.foldl offer s with usedDices := used, board := board } := by
  induction ls generalizing s with
  | nil => rfl
  | cons l ls ih =>
    have hoffer : offer { s with usedDices := used, board := board } l =
        { s.offer l with usedDices := used, board := board } := by
      unfold offer rank
      dsimp only
      split_ifs <;> rfl
    rw [List.foldl_cons, hoffer, ih, List.foldl_cons]

theorem foldl_offer_of_short (h : ∀ l ∈ ls, l.steps.length < s.maxSteps) : ls.foldl offer s = s := by
  refine List.foldlRecOn (motive := (· = s)) ls offer rfl ?_
  rintro _ rfl l hl
  have hshort := h l hl
  unfold offer
  split_ifs with hemp hbetter
  · rfl
  · rw [rank, Prod.Lex.toLex_lt_toLex] at hbetter
    omega
  · rfl

/-- The board can remember as many moves as the search will make. -/
structure Room (s : MoveSearch) (k : Nat) : Prop where
  valid : s.board.Valid
  steps : s.board.steps.length + k ≤ maxTrackedSteps

theorem Room.of_task (h : s.Room k) (hs : s'.task = s.task) : s'.Room k := by
  have hboard : s'.board = s.board := congrArg Prod.fst hs
  exact ⟨hboard ▸ h.valid, hboard ▸ h.steps⟩

theorem set_of_getD_false {used : List Bool} (h : used.getD i false = false) :
    (used.set i true).set i false = used := by
  rw [List.set_set]
  apply List.ext_getElem?
  intro j
  rw [List.getElem?_set]
  split
  · rename_i hij
    subst hij
    rw [List.getD_eq_getElem?_getD] at h
    split
    · rename_i hlt
      rw [List.getElem?_eq_getElem hlt] at h ⊢
      exact congrArg some h.symm
    · rename_i hlt
      exact (List.getElem?_eq_none (Nat.le_of_not_lt hlt)).symm
  · rfl

section Loops

variable (hsearch : ∀ path steps s, Room s k → s.evaluate k path steps =
  (lines s.dices s.pieces k s.usedDices ⟨path, steps, s.board⟩).foldl offer s)

include hsearch

/-- Moving, searching on and taking the move back leaves only what the search has found. -/
theorem tryPiece_eq (hroom : s.Room (k + 1)) (hunu : s.usedDices.getD i false = false) :
    tryPiece (evaluate k) path steps i dice s id =
      (Line.withPiece (lines s.dices s.pieces k) s.usedDices ⟨path, steps, s.board⟩ (dice, i) id).foldl
        offer s := by
  unfold tryPiece Line.withPiece
  split
  · rfl
  · cases hmove : s.board.move id dice with
    | none => rfl
    | some moved =>
      obtain ⟨step, board⟩ := moved
      have hsteps := hroom.steps
      have hlength := Board.length_steps_move hmove
      have hback := hroom.valid.backOne_move (by omega) hmove
      have hdeep : Room { s with usedDices := s.usedDices.set i true, board := board } k :=
        ⟨hroom.valid.move hmove, by change board.steps.length + k ≤ _; omega⟩
      dsimp only
      rw [hsearch _ _ _ hdeep, foldl_offer_with]
      dsimp only
      rw [hback, set_of_getD_false hunu]
      exact (foldl_offer_with s.usedDices s.board).symm

theorem tryDice_eq (hroom : s.Room (k + 1)) (die : Int × Nat) :
    tryDice (evaluate k) path steps s die =
      (Line.withDice (lines s.dices s.pieces k) s.usedDices ⟨path, steps, s.board⟩ die s.pieces).foldl
        offer s := by
  unfold tryDice Line.withDice
  split
  · rfl
  · rename_i hunu
    rw [Bool.not_eq_true] at hunu
    rw [List.foldl_flatMap]
    refine foldl_congr_inv (I := fun s' => s'.task = s.task) rfl (fun s' id hs' => ?_) fun s' id hs' _ => ?_
    · exact (foldl_offer_task _).trans hs'
    · have hroom' := hroom.of_task hs'
      simp only [task, Prod.mk.injEq] at hs'
      obtain ⟨hboard, hdices, hused, hpieces, -⟩ := hs'
      rw [tryPiece_eq hsearch hroom' (by rw [hused, hunu]), hboard, hdices, hused, hpieces]

end Loops

/-- The search is a loop over all sequences; those it skips are too short. -/
theorem evaluate_eq (path : List Int) (steps : List Step) (s : MoveSearch) (hroom : s.Room k) :
    s.evaluate k path steps =
      (lines s.dices s.pieces k s.usedDices ⟨path, steps, s.board⟩).foldl offer s := by
  induction k generalizing path steps s with
  | zero =>
    unfold evaluate
    split
    · rename_i hpruned
      exact (foldl_offer_of_short fun l hl => (lines_extend hl).2.2.trans_lt hpruned).symm
    · exact s.record_eq path steps
  | succ k ih =>
    unfold evaluate
    split
    · rename_i hpruned
      exact (foldl_offer_of_short fun l hl => (lines_extend hl).2.2.trans_lt hpruned).symm
    · have htask := s.offer_task ⟨path, steps, s.board⟩
      have hdices : (s.offer ⟨path, steps, s.board⟩).dices = s.dices := congrArg (·.2.1) htask
      dsimp only
      rw [record_eq, lines, List.foldl_cons, List.foldl_flatMap, hdices]
      refine foldl_congr_inv (I := fun s' => s'.task = s.task) htask (fun s' die hs' => ?_)
        fun s' die hs' _ => ?_
      · exact (foldl_offer_task _).trans hs'
      · rw [tryDice_eq ih (hroom.of_task hs')]
        simp only [task, Prod.mk.injEq] at hs'
        obtain ⟨hboard, hdices, hused, hpieces, -⟩ := hs'
        rw [hboard, hdices, hused, hpieces]

/-! ## The best sequence -/

/-- The first of the best sequences is kept. -/
theorem foldl_offer_best (hs : s.maxSteps = 0) (hls : ∀ l ∈ ls, 0 < l.steps.length) (hne : ls ≠ []) :
    ∃ before l after, ls = before ++ l :: after ∧ (ls.foldl offer s).bestPath = l.path ∧
      toLex ((ls.foldl offer s).maxSteps, (ls.foldl offer s).bestScore) = s.rank l ∧
      (∀ l' ∈ before, s.rank l' < s.rank l) ∧ ∀ l' ∈ after, s.rank l' ≤ s.rank l := by
  induction ls using List.reverseRecOn with
  | nil => contradiction
  | append_singleton ls l ih =>
    obtain ⟨hls, hl⟩ := List.forall_mem_append.mp hls
    have hpos := hl l (List.mem_singleton_self l)
    have hrank : (ls.foldl offer s).rank = s.rank := by
      have htask := foldl_offer_task (s := s) ls
      simp only [task, Prod.mk.injEq] at htask
      unfold rank
      rw [htask.2.2.2.1, htask.2.2.2.2.1, htask.2.2.2.2.2]
    rw [List.foldl_append, List.foldl_cons, List.foldl_nil, offer, if_neg hpos.ne', hrank]
    rcases eq_or_ne ls [] with rfl | hne'
    · rw [if_pos]
      · exact ⟨[], l, [], rfl, rfl, rfl, nofun, nofun⟩
      · refine Prod.Lex.toLex_lt_toLex.mpr (.inl ?_)
        rw [List.foldl_nil, hs]
        exact hpos
    · obtain ⟨before, best, after, hsplit, hpath, hbest, hbef, hafter⟩ := ih hls hne'
      rw [hbest]
      split
      · rename_i hlt
        refine ⟨ls, l, [], rfl, rfl, rfl, fun l' hl' => lt_of_le_of_lt ?_ hlt, nofun⟩
        rw [hsplit, List.mem_append, List.mem_cons] at hl'
        obtain hl' | rfl | hl' := hl'
        · exact (hbef l' hl').le
        · exact le_rfl
        · exact hafter l' hl'
      · rename_i hle
        refine ⟨before, best, after ++ [l], ?_, hpath, hbest, hbef, ?_⟩
        · rw [hsplit, List.append_assoc, List.cons_append]
        · rw [List.forall_mem_append, List.forall_mem_singleton]
          exact ⟨hafter, not_lt.mp hle⟩

end MoveSearch

namespace Board

variable {b : Board} {dices : List Int} {color : Int} {l : Line}

theorem mem_sequences (h : l ∈ b.sequences dices color) :
    0 < l.steps.length ∧ ∃ id dice rest, l.path = id :: dice :: rest ∧ dice ∈ dices ∧
      id ∈ b.getActivePieceIDs color ∧ (b.canMoveOne id dice).1 = true := by
  unfold sequences at h
  cases hk : dices.length with
  | zero =>
    rw [hk] at h
    cases h
  | succ k =>
    rw [hk] at h
    obtain ⟨die, hdie, -, id, hid, hcan, step, board, -, h⟩ := mem_lines_tail.mp h
    obtain ⟨⟨rest, hpath⟩, hlen, -⟩ := lines_extend h
    exact ⟨hlen, id, die.1, rest, hpath.symm, List.fst_mem_of_mem_zipIdx hdie, hid, hcan⟩

theorem sequences_ne_nil (h : b.calcCanMoveDice color dices = true) : b.sequences dices color ≠ [] := by
  obtain ⟨dice, hdice, id, hid, hcan⟩ := calcCanMoveDice_iff.mp h
  obtain ⟨p, hp⟩ := exists_of_canMoveOne hcan
  obtain ⟨step, board, hmove⟩ := move_isSome (b := b.clone) hp dice
  obtain ⟨i, hi⟩ := List.mem_iff_getElem?.mp hdice
  obtain ⟨k, hk⟩ : ∃ k, dices.length = k + 1 :=
    Nat.exists_eq_succ_of_ne_zero (by simpa using List.ne_nil_of_mem hdice)
  have hunu : (List.replicate (k + 1) false).getD i false = false := by
    rw [List.getD_eq_getElem?_getD, List.getElem?_replicate]
    split <;> rfl
  unfold sequences
  rw [hk]
  apply List.ne_nil_of_mem (a := ⟨[id, dice], [step], board⟩)
  refine mem_lines_tail.mpr ⟨(dice, i), List.mem_zipIdx_iff_getElem?.mpr hi, hunu, id, hid, hcan, step, board,
    hmove, ?_⟩
  rw [lines_eq_cons]
  exact List.mem_cons_self

theorem Valid.evaluate_new (hb : b.Valid) (hdices : dices.length ≤ maxTrackedSteps) :
    (MoveSearch.new b.clone dices (b.getActivePieceIDs color) (b.activeEnemyIDs color)).evaluate dices.length [] [] =
      (b.sequences dices color).foldl MoveSearch.offer
        (.new b.clone dices (b.getActivePieceIDs color) (b.activeEnemyIDs color)) := by
  rw [MoveSearch.evaluate_eq [] [] _ ⟨⟨hb.index, hb.consistent⟩, ?_⟩, lines_eq_cons, List.foldl_cons]
  · rfl
  · rw [Nat.add_comm]
    exact hdices

theorem Valid.findBestMoveSequence_eq (hb : b.Valid) (hdices : dices.length ≤ maxTrackedSteps) :
    findBestMoveSequence b dices color =
      match ((b.sequences dices color).foldl MoveSearch.offer
        (.new b.clone dices (b.getActivePieceIDs color) (b.activeEnemyIDs color))).bestPath with
      | id :: dice :: _ => (id, dice)
      | _ => (-1, -1) := by
  have hids : ((b.clone.pieces.filter fun p => !p.isArrived).filter fun p => (p.color : Int) = color).map
      Piece.id = b.getActivePieceIDs color := by
    rw [List.filter_filter]
    rfl
  unfold findBestMoveSequence
  dsimp only
  rw [hids]
  split
  · rename_i hemp
    obtain rfl := List.length_eq_zero_iff.mp hemp
    rfl
  · split
    · rename_i hemp
      have hnone : b.sequences dices color = [] := by
        refine List.eq_nil_iff_forall_not_mem.mpr fun l hl => ?_
        obtain ⟨-, id, -, -, -, -, hid, -⟩ := mem_sequences hl
        rw [List.length_eq_zero_iff.mp hemp] at hid
        cases hid
      rw [hnone]
      rfl
    · rw [← hb.evaluate_new hdices]
      rfl

/-- The search returns the first move of the first of the best sequences, if there is any. -/
theorem Valid.findBestMoveSequence_best (hb : b.Valid) (color : Int) (hdices : dices.length ≤ maxTrackedSteps) :
    b.sequences dices color = [] ∧ findBestMoveSequence b dices color = (-1, -1) ∨
      ∃ before l after id dice rest, b.sequences dices color = before ++ l :: after ∧
        findBestMoveSequence b dices color = (id, dice) ∧ l.path = id :: dice :: rest ∧
        (∀ l' ∈ before, b.rank dices color l' < b.rank dices color l) ∧
        ∀ l' ∈ after, b.rank dices color l' ≤ b.rank dices color l := by
  rw [hb.findBestMoveSequence_eq hdices]
  rcases eq_or_ne (b.sequences dices color) [] with hnil | hne
  · rw [hnil]
    exact .inl ⟨rfl, rfl⟩
  · obtain ⟨before, l, after, hsplit, hpath, -, hranks⟩ := MoveSearch.foldl_offer_best
      (s := .new b.clone dices (b.getActivePieceIDs color) (b.activeEnemyIDs color)) rfl
      (fun l hl => (mem_sequences hl).1) hne
    obtain ⟨-, id, dice, rest, hfst, -⟩ := mem_sequences (hsplit ▸ List.mem_append_right _ List.mem_cons_self)
    refine .inr ⟨before, l, after, id, dice, rest, hsplit, ?_, hfst, hranks⟩
    rw [hpath, hfst]

end Board

theorem findBestMoveSequence_legal {b : Board} {dices : List Int} {color : Int} (hb : b.Valid)
    (hdices : dices.length ≤ maxTrackedSteps) (h : b.calcCanMoveDice color dices = true) :
    ∃ id dice, findBestMoveSequence b dices color = (id, dice) ∧ dice ∈ dices ∧
      id ∈ b.getActivePieceIDs color ∧ (b.canMoveOne id dice).1 = true := by
  obtain ⟨hnil, -⟩ | ⟨before, l, after, id, dice, rest, hsplit, hbest, hpath, -⟩ :=
    hb.findBestMoveSequence_best color hdices
  · exact absurd hnil (Board.sequences_ne_nil h)
  · have hl : l ∈ b.sequences dices color := hsplit ▸ List.mem_append_right before List.mem_cons_self
    obtain ⟨-, id', dice', rest', hpath', hfst⟩ := Board.mem_sequences hl
    cases hpath.symm.trans hpath'
    exact ⟨id, dice, hbest, hfst⟩

/-- The search leaves the copy of the board as it was, finds a move if there is one, and it begins the first of the
best sequences among all. -/
theorem findBestMoveSequence_exhaustive (seatColors : List Color) (piecesPerSeat : Nat) (isFastMode : Bool)
    (ms : List (Int × Int)) (dices : List Int) (hdices : dices.length ≤ maxTrackedSteps) (color : Int) :
    let b := (Board.new seatColors piecesPerSeat isFastMode).plays ms
    ((MoveSearch.new b.clone dices (b.getActivePieceIDs color) (b.activeEnemyIDs color)).evaluate
      dices.length [] []).board = b.clone ∧
    (findBestMoveSequence b dices color = (-1, -1) ↔
      ∀ dice ∈ dices, ∀ id, (b.canMove color id dice).1 = false) ∧
    (findBestMoveSequence b dices color ≠ (-1, -1) → ∃ before l after rest,
      b.sequences dices color = before ++ l :: after ∧
      l.path = (findBestMoveSequence b dices color).1 :: (findBestMoveSequence b dices color).2 :: rest ∧
      (∀ l' ∈ before, b.rank dices color l' < b.rank dices color l) ∧
      ∀ l' ∈ after, b.rank dices color l' ≤ b.rank dices color l) := by
  intro b
  have hb : b.Valid := ((Board.sound_new seatColors piecesPerSeat isFastMode).plays ms).valid
  refine ⟨?_, ⟨fun hnone dice hdice id => ?_, fun hnone => ?_⟩, fun hsome => ?_⟩
  · rw [hb.evaluate_new hdices]
    exact congrArg Prod.fst (MoveSearch.foldl_offer_task _)
  · rw [← Bool.not_eq_true, ← hb.legal_iff]
    rintro ⟨hid, hcan⟩
    obtain ⟨id, dice, hbest, -, -, hcan⟩ := findBestMoveSequence_legal hb hdices
      (Board.calcCanMoveDice_iff.mpr ⟨dice, hdice, id, hid, hcan⟩)
    cases hnone.symm.trans hbest
    cases hcan
  · obtain ⟨-, hnone⟩ | ⟨before, l, after, -, -, -, hsplit, -⟩ :=
      hb.findBestMoveSequence_best color hdices
    · exact hnone
    · have hl : l ∈ b.sequences dices color := hsplit ▸ List.mem_append_right before List.mem_cons_self
      obtain ⟨-, id, dice, -, -, hdice, hid, hcan⟩ := Board.mem_sequences hl
      cases (hnone dice hdice id).symm.trans (hb.legal_iff.mp ⟨hid, hcan⟩)
  · obtain ⟨-, hnone⟩ | ⟨before, l, after, id, dice, rest, hsplit, hbest, hpath, hranks⟩ :=
      hb.findBestMoveSequence_best color hdices
    · exact absurd hnone hsome
    · rw [hbest]
      exact ⟨before, l, after, rest, hsplit, hpath, hranks⟩

/-- Two dice and two pieces, one of them in its base. -/
theorem findBestMoveSequence_exhaustive_sample :
    ∃ l ∈ ((Board.new [0, 1] 2 false).plays [(0, 6)]).sequences [3, 6] 0, ∃ rest, l.path = 0 :: 3 :: rest := by
  have hbest : findBestMoveSequence ((Board.new [0, 1] 2 false).plays [(0, 6)]) [3, 6] 0 = (0, 3) := by
    decide +kernel
  obtain ⟨before, l, after, rest, hsplit, hpath, -⟩ :=
    (findBestMoveSequence_exhaustive [0, 1] 2 false [(0, 6)] [3, 6] (by decide) 0).2.2 (by rw [hbest]; decide)
  rw [hbest] at hpath
  rw [hsplit]
  exact ⟨l, List.mem_append_right before List.mem_cons_self, rest, hpath⟩

end Yola.Ludo
