import Mathlib.Data.List.Basic
import Yola.Ludo.Piece

/-!
# The board

A move is recorded so that it can be taken back; the board remembers the last ten.  Pieces are found by
their id, which is their index.  Every change of a piece is `setPos` on one index, so what a move and
its undoing do to the board is known from what they do at each index.
-/

namespace Yola.Ludo

structure KilledInfo where
  id : Int
  fromPos : Int
  toPos : Int
  color : Color
deriving DecidableEq

structure Step where
  id : Int
  x : Int
  fromPos : Int
  toPos : Int
  color : Color
  killed : List KilledInfo
deriving DecidableEq

structure Board where
  fastMode : Bool
  pieces : List Piece
  steps : List Step
deriving DecidableEq

def maxTrackedSteps : Nat := 10

def setPosAt (pieces : List Piece) (id pos : Int) : List Piece :=
  if id < 0 then pieces else pieces.modify id.toNat (·.setPos pos)

namespace Board

def new (seatColors : List Color) (piecesPerSeat : Nat) (isFastMode : Bool) : Board where
  fastMode := isFastMode
  pieces :=
    (seatColors.flatMap (List.replicate piecesPerSeat)).mapIdx fun id color =>
      Piece.new id color isFastMode
  steps := []

variable (b : Board)

def getPieceByID (id : Int) : Option Piece := if id < 0 then none else b.pieces[id.toNat]?

def getActivePieceIDs (color : Int) : List Int :=
  (b.pieces.filter fun p => (p.color : Int) = color && !p.isArrived).map Piece.id

def clone : Board := { b with steps := [] }

/-- The record of a move joins the last ones. -/
def track (step : Step) : List Step :=
  let steps := b.steps ++ [step]
  steps.drop (steps.length - maxTrackedSteps)

/-- `Move`; there is no step if there is no such piece. -/
def move (pieceID steps : Int) : Option (Step × Board) :=
  match b.getPieceByID pieceID with
  | none => none
  | some p =>
      let (fromPos, toPos, p') := p.move steps
      let pieces := b.pieces.set pieceID.toNat p'
      let killed := if fromPos ≠ toPos then p'.canKillAt pieces toPos else []
      let step : Step := {
        id := pieceID
        x := steps
        fromPos := fromPos
        toPos := toPos
        color := p.color
        killed := killed.map fun v => ⟨v.id, v.pos, calcBasePos v.color b.fastMode, v.color⟩ }
      some (step, { b with
        pieces := killed.foldl (fun ps v => setPosAt ps v.id (calcBasePos v.color b.fastMode)) pieces
        steps := b.track step })

def canMove (color pieceID x : Int) : Bool × MoveCode :=
  match b.getPieceByID pieceID with
  | none => (false, .errInvalidPieceIdx)
  | some p =>
      if (p.color : Int) ≠ color then (false, .errInvalidPieceColor)
      else
        let (ok, code, _) := calcNextPos p.pos p.color x
        (ok, code)

def canMoveOne (id x : Int) : Bool × MoveCode :=
  match b.getPieceByID id with
  | none => (false, .errInvalidPieceIdx)
  | some p =>
      let (ok, code, _) := calcNextPos p.pos p.color x
      (ok, code)

def calcCanMoveDice (color : Int) (dices : List Int) : Bool :=
  let pieces := b.getActivePieceIDs color
  dices.any fun dice => pieces.any fun id => (b.canMoveOne id dice).1

/-- For each die the pieces that it moves. -/
def calcAllMovable (color : Int) (dices : List Int) : List (Int × Int) :=
  let pieces := b.getActivePieceIDs color
  dices.flatMap fun dice => (pieces.filter fun id => (b.canMoveOne id dice).1).map fun id => (id, dice)

/-- `backOne`; there is no step if none is left. -/
def backOne : Option (Step × Board) :=
  match b.steps.getLast? with
  | none => none
  | some step =>
      let pieces := setPosAt b.pieces step.id step.fromPos
      some (step, { b with
        pieces := step.killed.foldl (fun ps killed => setPosAt ps killed.id killed.fromPos) pieces
        steps := b.steps.dropLast })

end Board

/-! ## One index at a time -/

section SetPosAt

variable {α : Type} {pieces : List Piece} {id pos : Int} {i : Nat}

theorem getElem?_setPosAt :
    (setPosAt pieces id pos)[i]? = pieces[i]?.map fun p => if id = i then p.setPos pos else p := by
  unfold setPosAt
  split
  · have hne : id ≠ i := by omega
    simp only [hne, if_false, Option.map_id']
  · rw [List.getElem?_modify]
    have hiff : id.toNat = i ↔ id = i := by omega
    simp only [hiff, Option.map_eq_map]

/-- If all that is done to a piece is to put it on one square, it is there or as it was. -/
theorem getElem?_foldl_setPosAt {f g : α → Int} {l : List α} (pos : Int) (h : ∀ a ∈ l, f a = i → g a = pos) :
    (l.foldl (fun ps a => setPosAt ps (f a) (g a)) pieces)[i]? =
      pieces[i]?.map fun q => if ∃ a ∈ l, f a = i then q.setPos pos else q := by
  induction l generalizing pieces with
  | nil => simp
  | cons a l ih =>
    rw [List.foldl_cons, ih fun a ha => h a (List.mem_cons_of_mem _ ha), getElem?_setPosAt, Option.map_map]
    congr 1
    funext q
    have hpos := h a List.mem_cons_self
    by_cases ha : f a = i <;> by_cases hl : ∃ a ∈ l, f a = i <;> simp [ha, hl, hpos]

end SetPosAt

namespace Board

variable {b b' : Board} {id x color : Int} {step : Step} {i : Nat} {p q : Piece}

/-! ## Boards that are in order -/

structure Valid (b : Board) : Prop where
  index : ∀ (i : Nat) (p : Piece), b.pieces[i]? = some p → p.id = i
  consistent : ∀ (i : Nat) (p : Piece), b.pieces[i]? = some p → p.Consistent

theorem getPieceByID_eq_some : b.getPieceByID id = some p ↔ 0 ≤ id ∧ b.pieces[id.toNat]? = some p := by
  unfold getPieceByID
  split
  · rename_i hneg
    exact ⟨nofun, fun h => absurd h.1 (by omega)⟩
  · rename_i hnonneg
    exact ⟨fun h => ⟨by omega, h⟩, And.right⟩

theorem getElem?_new {seatColors : List Color} {piecesPerSeat : Nat} {isFastMode : Bool}
    (h : (new seatColors piecesPerSeat isFastMode).pieces[i]? = some p) :
    ∃ color, p = Piece.new i color isFastMode := by
  change (List.mapIdx _ _)[i]? = some p at h
  rw [List.getElem?_mapIdx] at h
  obtain ⟨color, -, rfl⟩ := Option.map_eq_some_iff.mp h
  exact ⟨color, rfl⟩

theorem valid_new (seatColors : List Color) (piecesPerSeat : Nat) (isFastMode : Bool) :
    (new seatColors piecesPerSeat isFastMode).Valid := by
  constructor
  · intro i p h
    obtain ⟨color, rfl⟩ := getElem?_new h
    cases isFastMode <;> rfl
  · intro i p h
    obtain ⟨color, rfl⟩ := getElem?_new h
    exact Piece.consistent_new ..

namespace Valid

theorem getElem?_of_mem (hb : b.Valid) (hp : p ∈ b.pieces) (hi : p.id = i) : b.pieces[i]? = some p := by
  obtain ⟨j, hj⟩ := List.mem_iff_getElem?.mp hp
  have hindex := hb.index j p hj
  obtain rfl : i = j := by omega
  exact hj

theorem mem_setPosAt (hb : b.Valid) {pos : Int} (hne : p.id ≠ id) :
    p ∈ setPosAt b.pieces id pos ↔ p ∈ b.pieces := by
  simp only [List.mem_iff_getElem?, getElem?_setPosAt, Option.map_eq_some_iff]
  refine exists_congr fun i => ⟨?_, fun hp => ⟨p, hp, if_neg ?_⟩⟩
  · rintro ⟨q, hq, rfl⟩
    have hindex := hb.index i q hq
    split at hne
    · rename_i hi
      exact absurd (hindex.trans hi.symm) hne
    · rename_i hi
      rw [if_neg hi]
      exact hq
  · rw [hb.index i p hp] at hne
    exact hne.symm

end Valid

/-! ## Moves -/

/-- What a move does: the piece goes to its new square, and those it kills go where they started. -/
structure Moved (b : Board) (id x : Int) (step : Step) (b' : Board) (p : Piece) : Prop where
  piece : b.getPieceByID id = some p
  stepID : step.id = id
  fromPos : step.fromPos = p.pos
  killed : ∀ k, k ∈ step.killed ↔ ∃ v ∈ b.pieces, p.Kills (p.move x).2.1 v ∧
    (⟨v.id, v.pos, calcBasePos v.color b.fastMode, v.color⟩ : KilledInfo) = k
  fastMode : b'.fastMode = b.fastMode
  steps : b'.steps = b.track step
  getElem? : ∀ i : Nat, b'.pieces[i]? = b.pieces[i]?.map fun q =>
    if id = i then q.setPos (p.move x).2.1
    else if p.Kills (p.move x).2.1 q then q.setPos (calcBasePos q.color b.fastMode)
    else q

theorem set_eq_setPosAt {pieces : List Piece} {pos : Int} (hid : 0 ≤ id) (hp : pieces[id.toNat]? = some p) :
    pieces.set id.toNat (p.setPos pos) = setPosAt pieces id pos := by
  unfold setPosAt
  rw [if_neg (by omega), List.modify_eq_set_getElem?]
  simp [hp]

theorem Valid.moved (hb : b.Valid) (h : b.move id x = some (step, b')) : ∃ p, Moved b id x step b' p := by
  unfold move at h
  cases hp : b.getPieceByID id with
  | none =>
    rw [hp] at h
    cases h
  | some p =>
    obtain ⟨hid, hget⟩ := getPieceByID_eq_some.mp hp
    have hindex : p.id = id := by rw [hb.index _ p hget, Int.toNat_of_nonneg hid]
    rw [hp] at h
    dsimp only at h
    rw [(hb.consistent _ p hget).move x] at h
    dsimp only at h
    rw [set_eq_setPosAt hid hget] at h
    generalize htoPos : (p.move x).2.1 = toPos at h
    have hkilled (v : Piece) :
        (v ∈ if p.pos ≠ toPos then (p.setPos toPos).canKillAt (setPosAt b.pieces id toPos) toPos else []) ↔
          v ∈ b.pieces ∧ p.Kills toPos v := by
      split
      · rename_i hne
        rw [Piece.mem_canKillAt hne]
        refine and_congr_left fun hkills => hb.mem_setPosAt ?_
        rw [← hindex]
        exact hkills.2.2.2.1
      · rename_i heq
        exact ⟨nofun, fun hv => absurd hv.2.1 heq⟩
    cases h
    refine ⟨p, hp, rfl, rfl, fun k => ?_, rfl, rfl, fun i => ?_⟩
    · simp only [List.mem_map, hkilled, htoPos, and_assoc]
    · rw [htoPos]
      cases hq : b.pieces[i]? with
      | none =>
        rw [getElem?_foldl_setPosAt 0 ?_, getElem?_setPosAt, hq]
        · rfl
        · intro v hv hi
          cases hq.symm.trans (hb.getElem?_of_mem ((hkilled v).mp hv).1 hi)
      | some q =>
        have hsame (v : Piece) (hv : v ∈ b.pieces) (hi : v.id = i) : v = q :=
          Option.some.inj ((hb.getElem?_of_mem hv hi).symm.trans hq)
        have hiff : (∃ v ∈ if p.pos ≠ toPos then (p.setPos toPos).canKillAt (setPosAt b.pieces id toPos) toPos
            else [], v.id = i) ↔ p.Kills toPos q := by
          simp only [hkilled]
          refine ⟨?_, fun h => ⟨q, ⟨List.mem_of_getElem? hq, h⟩, hb.index i q hq⟩⟩
          rintro ⟨v, ⟨hv, hkills⟩, hi⟩
          rw [← hsame v hv hi]
          exact hkills
        rw [getElem?_foldl_setPosAt (calcBasePos q.color b.fastMode) ?_, getElem?_setPosAt, hq]
        · simp only [Option.map_some, hiff]
          by_cases hi : id = i
          · have hspare : ¬ p.Kills toPos q :=
              fun hkills => hkills.2.2.2.1 ((hb.index i q hq).trans (hi.symm.trans hindex.symm))
            rw [if_neg hspare]
            simp only [hspare, if_false]
          · simp only [hi, if_false]
        · intro v hv hi
          rw [hsame v ((hkilled v).mp hv).1 hi]

namespace Moved

theorem eq_piece (h : Moved b id x step b' p) (hq : b.pieces[i]? = some q) (hi : id = i) : q = p := by
  obtain ⟨-, hp⟩ := getPieceByID_eq_some.mp h.piece
  rw [hi, Int.toNat_natCast, hq] at hp
  exact Option.some.inj hp

theorem valid (h : Moved b id x step b' p) (hb : b.Valid) : b'.Valid := by
  constructor
  · intro i q hget
    rw [h.getElem? i] at hget
    obtain ⟨q, hq, rfl⟩ := Option.map_eq_some_iff.mp hget
    split_ifs <;> exact hb.index i q hq
  · intro i q hget
    rw [h.getElem? i] at hget
    obtain ⟨q, hq, rfl⟩ := Option.map_eq_some_iff.mp hget
    split_ifs
    · rfl
    · rfl
    · exact hb.consistent i q hq

/-- The record of a move is enough to take it back. -/
theorem back (h : Moved b id x step b' p) (hb : b.Valid) (l : List Step) :
    backOne { b' with steps := l ++ [step] } = some (step, { b with steps := l }) := by
  unfold backOne
  rw [List.getLast?_concat, List.dropLast_concat]
  dsimp only
  rw [h.fastMode]
  congr 3
  apply List.ext_getElem?
  intro i
  cases hq : b.pieces[i]? with
  | none =>
    rw [getElem?_foldl_setPosAt 0 ?_, getElem?_setPosAt, h.getElem? i, hq]
    · rfl
    · intro k hk hi
      obtain ⟨v, hv, -, rfl⟩ := (h.killed k).mp hk
      cases hq.symm.trans (hb.getElem?_of_mem hv hi)
  | some q =>
    have hself := (hb.consistent i q hq).setPos_self
    rw [getElem?_foldl_setPosAt q.pos ?_, getElem?_setPosAt, h.getElem? i, hq, h.stepID, h.fromPos]
    · simp only [Option.map_some, Option.some.injEq]
      split
      · split_ifs <;> exact hself
      · rename_i hspare
        split
        · rename_i hi
          rw [← h.eq_piece hq hi]
          exact hself
        · refine if_neg fun hkills => hspare ?_
          exact ⟨_, (h.killed _).mpr ⟨q, List.mem_of_getElem? hq, hkills, rfl⟩, hb.index i q hq⟩
    · intro k hk hi
      obtain ⟨v, hv, -, rfl⟩ := (h.killed k).mp hk
      rw [Option.some.inj ((hb.getElem?_of_mem hv hi).symm.trans hq)]

end Moved

theorem Valid.move (hb : b.Valid) (h : b.move id x = some (step, b')) : b'.Valid := by
  obtain ⟨p, hmv⟩ := hb.moved h
  exact hmv.valid hb

theorem Valid.backOne_move (hb : b.Valid) (hroom : b.steps.length < maxTrackedSteps)
    (h : b.move id x = some (step, b')) : b'.backOne = some (step, b) := by
  obtain ⟨p, hmv⟩ := hb.moved h
  have hsteps : b'.steps = b.steps ++ [step] := by
    rw [hmv.steps]
    unfold track
    dsimp only
    rw [List.length_append, List.length_singleton, Nat.sub_eq_zero_of_le hroom, List.drop_zero]
  have hback := hmv.back hb b.steps
  rw [← hsteps] at hback
  exact hback

theorem length_steps_move (h : b.move id x = some (step, b')) : b'.steps.length ≤ b.steps.length + 1 := by
  unfold move at h
  cases hp : b.getPieceByID id with
  | none =>
    rw [hp] at h
    cases h
  | some =>
    rw [hp] at h
    cases h
    dsimp only [track]
    rw [List.length_drop, List.length_append, List.length_singleton]
    omega

theorem move_isSome (h : b.getPieceByID id = some p) (x : Int) :
    ∃ step b', b.move id x = some (step, b') := by
  unfold move
  rw [h]
  exact ⟨_, _, rfl⟩

/-! ## Legal moves -/

theorem canMoveOne_eq (h : b.getPieceByID id = some p) (x : Int) :
    b.canMoveOne id x = ((calcNextPos p.pos p.color x).1, (calcNextPos p.pos p.color x).2.1) := by
  unfold canMoveOne
  rw [h]

theorem exists_of_canMoveOne (h : (b.canMoveOne id x).1 = true) : ∃ p, b.getPieceByID id = some p := by
  unfold canMoveOne at h
  cases hp : b.getPieceByID id with
  | none =>
    rw [hp] at h
    cases h
  | some p => exact ⟨p, rfl⟩

theorem Valid.mem_getActivePieceIDs (hb : b.Valid) :
    id ∈ b.getActivePieceIDs color ↔
      ∃ p, b.getPieceByID id = some p ∧ (p.color : Int) = color ∧ p.isArrived = false := by
  unfold getActivePieceIDs
  rw [List.mem_map]
  constructor
  · rintro ⟨p, hp, rfl⟩
    obtain ⟨hmem, hfilter⟩ := List.mem_filter.mp hp
    simp only [Bool.and_eq_true, decide_eq_true_eq, Bool.not_eq_true'] at hfilter
    obtain ⟨i, hi⟩ := List.mem_iff_getElem?.mp hmem
    refine ⟨p, getPieceByID_eq_some.mpr ?_, hfilter⟩
    rw [hb.index i p hi]
    exact ⟨Int.natCast_nonneg i, hi⟩
  · rintro ⟨p, hp, hcol, harr⟩
    obtain ⟨hid, hget⟩ := getPieceByID_eq_some.mp hp
    refine ⟨p, List.mem_filter.mpr ⟨List.mem_of_getElem? hget, ?_⟩, ?_⟩
    · simp [hcol, harr]
    · rw [hb.index _ p hget, Int.toNat_of_nonneg hid]

theorem calcCanMoveDice_iff {dices : List Int} :
    b.calcCanMoveDice color dices = true ↔
      ∃ dice ∈ dices, ∃ id ∈ b.getActivePieceIDs color, (b.canMoveOne id dice).1 = true := by
  unfold calcCanMoveDice
  simp only [List.any_eq_true]

theorem canMove_of_canMoveOne (hp : b.getPieceByID id = some p) (hcol : (p.color : Int) = color)
    (h : (b.canMoveOne id x).1 = true) : (b.canMove color id x).1 = true := by
  rw [canMoveOne_eq hp] at h
  unfold canMove
  rw [hp]
  dsimp only
  rw [if_neg (not_not.mpr hcol)]
  exact h

end Board

end Yola.Ludo
