import Mathlib.Algebra.Order.Ring.Int
import Yola.Ludo.Search

/-!
# Steps and scores

`StepsFromStart` is what a piece has walked since its entry, but one more on the home path, which it numbers
as if the public track were walked to its last square.  The score rewards the pieces on the track for the
distance to the home entrance instead of for how close they are to it.
-/

namespace Yola.Ludo

variable {pos x : Int} {color : Color}

/-! ## What a piece has walked -/

namespace Board

variable {b b' : Board} {id n : Int} {step : Step} {p q : Piece} {m : Int × Int} {isFastMode : Bool}

/-- The dice a piece has been moved by since it stood on its entry square, after one more move. -/
def walk (b : Board) (id n : Int) (m : Int × Int) : Int :=
  match b.getPieceByID id, (b.play m).getPieceByID id with
  | some p, some q =>
      if q.pos = p.pos then n
      -- another piece has killed it, or it has entered
      else if m.1 ≠ id ∨ q.pos = entryPoints q.color then 0
      else n + m.2
  | _, _ => n

def walked (b : Board) (id n : Int) : List (Int × Int) → Int
  | [] => n
  | m :: ms => (b.play m).walked id (b.walk id n m) ms

end Board

/-- The squares from the entry. -/
def squaresWalked (color : Color) (pos : Int) : Int :=
  stepsFromStart pos color - if homeStartIndices color ≤ pos then 1 else 0

theorem squaresWalked_calcBasePos (color : Color) (isFastMode : Bool) :
    squaresWalked color (calcBasePos color isFastMode) = 0 := by
  revert color isFastMode
  decide

theorem OnRoute.squaresWalked_next (h : OnRoute color pos) (hleg : (calcNextPos pos color x).1 = true) :
    squaresWalked color (calcNextPos pos color x).2.2 =
      if (calcNextPos pos color x).2.2 = entryPoints color then 0 else squaresWalked color pos + x := by
  have hnext := calcNextPos_legal hleg
  have hlayout := layout color
  generalize (calcNextPos pos color x).2.2 = next at *
  unfold OnRoute basePos totalPositions homePathLen at h
  unfold squaresWalked stepsFromStart basePos totalPositions homePathLen
  dsimp only
  split_ifs <;> omega

namespace Board

variable {b b' : Board} {id n : Int} {step : Step} {p q : Piece} {m : Int × Int} {isFastMode : Bool}

theorem Moved.walk_eq (h : Moved b m.1 m.2 step (b.play m) p) (hs : b.Sound isFastMode)
    (hn : ∀ r, b.getPieceByID id = some r → n = squaresWalked r.color r.pos)
    (hq : (b.play m).getPieceByID id = some q) : b.walk id n m = squaresWalked q.color q.pos := by
  obtain ⟨hid, hget⟩ := getPieceByID_eq_some.mp hq
  obtain ⟨r, hr, hcases⟩ := h.cases hget
  have hr' : b.getPieceByID id = some r := getPieceByID_eq_some.mpr ⟨hid, hr⟩
  rw [Int.toNat_of_nonneg hid] at hcases
  unfold walk
  rw [hr', hq]
  dsimp only
  rw [hn r hr']
  obtain ⟨hi, rfl, rfl⟩ | ⟨hi, -, rfl⟩ | ⟨-, -, rfl⟩ := hcases
  · cases hleg : (calcNextPos r.pos r.color m.2).1 with
    | false =>
      rw [Piece.move_of_illegal hleg]
      exact if_pos rfl
    | true =>
      rw [Piece.move_of_legal hleg]
      have hnext := (hs.onRoute _ r hr).squaresWalked_next hleg
      simp only [Piece.setPos, calcNextPos_ne hleg, if_false, hi, ne_eq, not_true_eq_false, false_or]
      exact hnext.symm
  · have hbase := squaresWalked_calcBasePos r.color b.fastMode
    simp only [Piece.setPos, ne_eq, hi, not_false_eq_true, true_or, if_true]
    split
    · rename_i hsame
      rw [← hsame]
    · exact hbase.symm
  · exact if_pos rfl

theorem Sound.walked_eq (hs : b.Sound isFastMode)
    (hn : ∀ p, b.getPieceByID id = some p → n = squaresWalked p.color p.pos) {ms : List (Int × Int)}
    (hp : (b.plays ms).getPieceByID id = some p) : b.walked id n ms = squaresWalked p.color p.pos := by
  induction ms generalizing b n with
  | nil => exact hn p hp
  | cons m ms ih =>
    rcases hs.valid.play_cases m with ⟨hsame, -⟩ | ⟨step, q, hmv⟩
    · have hwalk : ∀ q, (b.play m).getPieceByID id = some q → b.walk id n m = squaresWalked q.color q.pos := by
        intro q hq
        unfold walk
        rw [hsame] at hq ⊢
        rw [hq]
        dsimp only
        rw [if_pos rfl, hn q hq]
      exact ih (hsame.symm ▸ hs) hwalk hp
    · exact ih (hmv.sound hs) (fun r hr => hmv.walk_eq hs hn hr) hp

/-- The steps of a piece are the dice it has walked exactly while it is not on its home path. -/
theorem cumulative_steps_iff (seatColors : List Color) (piecesPerSeat : Nat) (isFastMode : Bool)
    (ms : List (Int × Int)) (id : Int) (p : Piece)
    (hp : ((new seatColors piecesPerSeat isFastMode).plays ms).getPieceByID id = some p) :
    stepsFromStart p.pos p.color = (new seatColors piecesPerSeat isFastMode).walked id 0 ms ↔
      p.pos < homeStartIndices p.color := by
  have hnew : ∀ p, (new seatColors piecesPerSeat isFastMode).getPieceByID id = some p →
      0 = squaresWalked p.color p.pos := by
    intro p hp
    obtain ⟨color, rfl⟩ := getElem?_new (getPieceByID_eq_some.mp hp).2
    rw [Piece.new_eq, squaresWalked_calcBasePos]
  rw [(sound_new seatColors piecesPerSeat isFastMode).walked_eq hnew hp, squaresWalked]
  split <;> omega

/-- A piece on the track. -/
theorem cumulative_steps_iff_track :
    stepsFromStart 18 0 = (new [0, 1] 1 true).walked 0 0 [(0, 6), (1, 3), (0, 6), (0, 6)] ∧ (18 : Int) < 101 := by
  have hiff := cumulative_steps_iff [0, 1] 1 true [(0, 6), (1, 3), (0, 6), (0, 6)] 0 ⟨0, 0, 18, .onBoard⟩ rfl
  exact ⟨hiff.mpr (by decide), by decide⟩

/-- The first square of the home path is the fifty-first from the entry, and counts as the fifty-second. -/
theorem home_path_counts_one_more :
    let ms := List.replicate 8 (0, 6) ++ [(0, 3)]
    ((new [0] 1 true).plays ms).getPieceByID 0 = some ⟨0, 0, 101, .inHomePath⟩ ∧
      (new [0] 1 true).walked 0 0 ms = 51 ∧ stepsFromStart 101 0 = 52 := by
  decide

end Board

/-! ## What the score makes of a piece that advances -/

/-- The squares to the home entrance. -/
def stepsLeft (color : Color) (pos : Int) : Int := (homeEntrances color - pos + totalPositions) % totalPositions

theorem endReward_eq (hnonneg : 0 ≤ pos) (hlt : pos < totalPositions) :
    (totalPositions - (pos - homeEntrances color + totalPositions).tmod totalPositions).tdiv 5 =
      if stepsLeft color pos = 0 then 10 else stepsLeft color pos / 5 := by
  have hlayout := layout color
  unfold stepsLeft totalPositions at *
  rw [Int.tmod_eq_emod_of_nonneg (by omega), Int.tdiv_eq_ediv_of_nonneg (by omega)]
  split <;> omega

theorem not_near {a : Int} (h : 6 < a % totalPositions) :
    ¬ (0 < (a + totalPositions).tmod totalPositions ∧ (a + totalPositions).tmod totalPositions ≤ 6) := by
  unfold totalPositions at *
  rcases Int.le_total 0 (a + 52) with hnonneg | hneg
  · rw [Int.tmod_eq_emod_of_nonneg hnonneg]
    omega
  · have hnonpos : (a + 52).tmod 52 ≤ 0 := by
      rw [← Int.neg_nonneg, ← Int.neg_tmod]
      exact Int.tmod_nonneg 52 (by omega)
    omega

def FitsInt32 (x : Int) : Prop := -2 ^ 31 ≤ x ∧ x < 2 ^ 31

instance (x : Int) : Decidable (FitsInt32 x) := inferInstanceAs (Decidable (_ ∧ _))

theorem wrapInt32_eq (h : FitsInt32 x) : wrapInt32 x = x := by
  unfold FitsInt32 at h
  apply Int.bmod_eq_of_le <;> omega

namespace Board

/-- A public square that is not safe; the enemies are pieces of the board, and none of them is on the square or
within six squares of it. -/
structure Quiet (b : Board) (enemy : List Int) (color : Color) (pos : Int) : Prop where
  nonneg : 0 ≤ pos
  lt : pos < totalPositions
  exposed : pos ∉ safePositions
  alone : ∀ eID ∈ enemy, ∃ e, b.getPieceByID eID = some e ∧ (e.isOnBoard = true → e.color ≠ color →
    6 < (e.pos - pos) % totalPositions ∧ 6 < (pos - e.pos) % totalPositions)

/-- The board with one piece on another square. -/
def replace (b : Board) (id pos : Int) : Board := { b with pieces := setPosAt b.pieces id pos }

variable {b b' : Board} {id i : Int} {enemy ids : List Int} {p q : Piece}

theorem getPieceByID_replace :
    (b.replace id pos).getPieceByID i = (b.getPieceByID i).map fun q => if id = i then q.setPos pos else q := by
  unfold getPieceByID replace
  split
  · rfl
  · rw [getElem?_setPosAt, Int.toNat_of_nonneg (by omega)]

theorem Quiet.pieceScore_eq (h : b.Quiet enemy p.color p.pos) (hp : b'.getPieceByID id = some p)
    (hboard : p.isOnBoard = true) (henemy : ∀ eID ∈ enemy, b'.enemyScore p eID = b.enemyScore p eID) :
    b'.pieceScore enemy id = if stepsLeft p.color p.pos = 0 then 10 else stepsLeft p.color p.pos / 5 := by
  have hstate : p.state = .onBoard := of_decide_eq_true hboard
  have hcalm : (enemy.map (b'.enemyScore p)).sum = 0 := by
    refine List.sum_eq_zero fun x hx => ?_
    obtain ⟨eID, heID, rfl⟩ := List.mem_map.mp hx
    obtain ⟨e, he, hfar⟩ := h.alone eID heID
    rw [henemy eID heID, enemyScore, he]
    dsimp only
    split
    · rfl
    · rename_i hnear
      simp only [Piece.isEnemy, Bool.or_eq_true, Bool.not_eq_true', decide_eq_false_iff_not, not_or,
        Bool.not_eq_false, not_not] at hnear
      have hfar := hfar hnear.1 (Ne.symm hnear.2)
      unfold dangerousDistance threatenedDistance
      rw [if_neg (not_near hfar.2), if_neg (not_near hfar.1)]
      rfl
  unfold pieceScore
  rw [hp]
  dsimp only
  rw [if_neg h.exposed, hstate, hboard, endReward_eq h.nonneg h.lt, hcalm]
  simp

theorem enemyScore_replace (hp : b.getPieceByID id = some p) (hq : q.color = p.color) (eID : Int) :
    (b.replace id pos).enemyScore q eID = b.enemyScore q eID := by
  unfold enemyScore
  rw [getPieceByID_replace]
  by_cases heq : id = eID
  · subst heq
    rw [hp]
    simp [Piece.isEnemy, Piece.setPos, hq]
  · simp only [heq, if_false, Option.map_id']

theorem stepScore_replace (hp : b.getPieceByID id = some p) (hboard : p.isOnBoard = true) (hnonneg : 0 ≤ pos)
    (hlt : pos < totalPositions) : (b.replace id pos).stepScore = b.stepScore := by
  funext count step
  unfold stepScore
  rw [getPieceByID_replace]
  by_cases heq : id = step.1.id
  · have hstate : p.state = .onBoard := of_decide_eq_true hboard
    rw [← heq, hp]
    simp [Piece.isArrived, Piece.setPos, hstate, calcStateByPos_onBoard p.color hnonneg hlt]
  · simp only [heq, if_false, Option.map_id']

theorem sum_map_eq {f g : Int → Int} (h : ∀ i ∈ ids, i ≠ id → g i = f i) :
    (ids.map g).sum = (ids.map f).sum + ids.count id * (g id - f id) := by
  induction ids with
  | nil => simp
  | cons i ids ih =>
    rw [List.forall_mem_cons] at h
    rw [List.map_cons, List.map_cons, List.sum_cons, List.sum_cons, ih h.2, List.count_cons]
    by_cases hi : i = id
    · subst hi
      rw [if_pos (beq_self_eq_true i), Int.natCast_add, Int.add_mul]
      omega
    · rw [h.1 hi, if_neg (by simpa using hi), Nat.add_zero]
      omega

/-- As long as the score does not overflow, a piece that gets closer to its home entrance is not rewarded less
only if it gets there, or if the reward, one for every five squares to go, is the same. -/
theorem progress_rewarded_iff (b : Board) (color : Color) (steps : List Step) (totalDiceSum : Int)
    (ids enemy : List Int) (hown : ∀ i ∈ ids, ∀ q, b.getPieceByID i = some q → q.color = color)
    (id : Int) (hid : id ∈ ids) (p : Piece) (hp : b.getPieceByID id = some p) (hboard : p.isOnBoard = true)
    (pos : Int) (hold : b.Quiet enemy color p.pos) (hnew : b.Quiet enemy color pos)
    (hcloser : stepsLeft color pos < stepsLeft color p.pos)
    (hfits : FitsInt32 (b.sequenceScore steps totalDiceSum ids enemy))
    (hfits' : FitsInt32 ((b.replace id pos).sequenceScore steps totalDiceSum ids enemy)) :
    b.evaluateMoveSequence steps totalDiceSum ids enemy ≤
        (b.replace id pos).evaluateMoveSequence steps totalDiceSum ids enemy ↔
      stepsLeft color pos = 0 ∨ stepsLeft color pos / 5 = stepsLeft color p.pos / 5 := by
  obtain rfl := hown id hid p hp
  have hp' : (b.replace id pos).getPieceByID id = some (p.setPos pos) := by
    rw [getPieceByID_replace, hp, Option.map_some, if_pos rfl]
  have hboard' : (p.setPos pos).isOnBoard = true :=
    decide_eq_true (calcStateByPos_onBoard p.color hnew.nonneg hnew.lt)
  have hoths : ∀ i ∈ ids, i ≠ id → (b.replace id pos).pieceScore enemy i = b.pieceScore enemy i := by
    intro i hi hne
    unfold pieceScore
    rw [getPieceByID_replace]
    simp only [hne.symm, if_false, Option.map_id']
    cases hq : b.getPieceByID i with
    | none => rfl
    | some q => simp only [funext (enemyScore_replace hp (hown i hi q hq))]
  have hscore := hold.pieceScore_eq hp hboard fun _ _ => rfl
  have hscore' := hnew.pieceScore_eq (p := p.setPos pos) hp' hboard' fun eID _ =>
    enemyScore_replace hp (q := p.setPos pos) rfl eID
  have hcnt : 0 < (ids.count id : Int) := Int.natCast_pos.mpr (List.count_pos_iff.mpr hid)
  have hgain : 0 ≤ ids.count id * ((b.replace id pos).pieceScore enemy id - b.pieceScore enemy id) ↔
      0 ≤ (b.replace id pos).pieceScore enemy id - b.pieceScore enemy id :=
    mul_nonneg_iff_of_pos_left hcnt
  have hleft : 0 ≤ stepsLeft p.color pos ∧ stepsLeft p.color p.pos < 52 := by
    unfold stepsLeft totalPositions
    omega
  unfold evaluateMoveSequence
  rw [wrapInt32_eq hfits, wrapInt32_eq hfits']
  unfold sequenceScore
  dsimp only
  rw [stepScore_replace hp hboard hnew.nonneg hnew.lt, sum_map_eq hoths]
  rw [hscore, hscore'] at *
  change _ ↔ stepsLeft p.color pos = 0 ∨ _
  simp only [Piece.setPos] at *
  split_ifs at hgain ⊢ <;> omega

def sampleBoard : Board := (new ((List.finRange 4).take 2) 1 true).plays [(0, 1)]

theorem quiet_sampleBoard (h : (0 ≤ pos ∧ pos < totalPositions) ∧ pos ∉ safePositions ∧
    6 < (13 - pos) % totalPositions ∧ 6 < (pos - 13) % totalPositions) : sampleBoard.Quiet [1] 0 pos where
  nonneg := h.1.1
  lt := h.1.2
  exposed := h.2.1
  alone eID heID := by
    obtain rfl := List.mem_singleton.mp heID
    exact ⟨⟨1, 1, 13, .onBoard⟩, rfl, fun _ _ => h.2.2⟩

/-- One square further on the reward is the same. -/
theorem progress_rewarded_iff_next : sampleBoard.evaluateMoveSequence [] 0 [0] [1] ≤
    (sampleBoard.replace 0 2).evaluateMoveSequence [] 0 [0] [1] := by
  refine (progress_rewarded_iff sampleBoard 0 [] 0 [0] [1] ?_ 0 (by decide) ⟨0, 0, 1, .onBoard⟩ rfl rfl 2
    (quiet_sampleBoard (by decide)) (quiet_sampleBoard (by decide)) (by decide) (by decide) (by decide)).mpr
    (by decide)
  intro i hi q hq
  obtain rfl := List.mem_singleton.mp hi
  obtain rfl : ⟨0, 0, 1, .onBoard⟩ = q := Option.some.inj hq
  rfl

/-- Twenty-nine squares further on it is less. -/
theorem advance_lowers_score : sampleBoard.Quiet [1] 0 1 ∧ sampleBoard.Quiet [1] 0 30 ∧
    sampleBoard.getPieceByID 0 = some ⟨0, 0, 1, .onBoard⟩ ∧ stepsLeft 0 30 = 20 ∧ stepsLeft 0 1 = 49 ∧
    sampleBoard.evaluateMoveSequence [] 0 [0] [1] = 9 ∧
    (sampleBoard.replace 0 30).evaluateMoveSequence [] 0 [0] [1] = 4 :=
  ⟨quiet_sampleBoard (by decide), quiet_sampleBoard (by decide), by decide⟩

end Board

end Yola.Ludo
