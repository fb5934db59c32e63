import Yola.Ludo.Board

/-!
# Reachable boards

Whatever moves are made on a new board, with pieces that exist or not and with dice that move them or not,
every piece stands on its own route and is in the state of its square, and enemies meet on safe squares only.
The last ten moves can be taken back, and all the checks that ask whether a piece can move agree with what a
move does.
-/

namespace Yola.Ludo

/-- The base, a public square up to the home entrance, or a square of the home path. -/
def OnRoute (color : Color) (pos : Int) : Prop :=
  pos = basePos ∨
    0 ≤ pos ∧ pos < totalPositions ∧
      (pos - entryPoints color) % totalPositions ≤ (homeEntrances color - entryPoints color) % totalPositions ∨
    homeStartIndices color ≤ pos ∧ pos < homeStartIndices color + homePathLen

/-- Enemies on one public square that is not safe. -/
structure Piece.Meets (p q : Piece) : Prop where
  enemies : p.color ≠ q.color
  pos : p.pos = q.pos
  nonneg : 0 ≤ p.pos
  lt : p.pos < totalPositions
  exposed : p.pos ∉ safePositions

namespace Board

/-- `Move` for what it does to the board. -/
def play (b : Board) (m : Int × Int) : Board := ((b.move m.1 m.2).map Prod.snd).getD b

def plays (b : Board) (ms : List (Int × Int)) : Board := ms.foldl play b

/-- `backOne` for what it does to the board. -/
def takeBack (b : Board) : Board := (b.backOne.map Prod.snd).getD b

end Board

section Route

variable {pos x : Int} {color : Color} {p q : Piece}

theorem Piece.Meets.symm (h : p.Meets q) : q.Meets p where
  enemies := h.enemies.symm
  pos := h.pos.symm
  nonneg := h.pos ▸ h.nonneg
  lt := h.pos ▸ h.lt
  exposed := h.pos ▸ h.exposed

theorem onRoute_calcBasePos (color : Color) (isFastMode : Bool) : OnRoute color (calcBasePos color isFastMode) := by
  cases isFastMode
  · exact .inl rfl
  · have hlayout := layout color
    unfold OnRoute calcBasePos totalPositions
    rw [if_pos rfl]
    omega

theorem onRoute_calcNextPos (hleg : (calcNextPos pos color x).1 = true) :
    OnRoute color (calcNextPos pos color x).2.2 := by
  have hnext := calcNextPos_legal hleg
  have hlayout := layout color
  unfold OnRoute basePos totalPositions homePathLen
  omega

theorem OnRoute.move (h : OnRoute p.color p.pos) (x : Int) : OnRoute p.color (p.move x).2.1 := by
  cases hleg : (calcNextPos p.pos p.color x).1 with
  | false =>
    rw [Piece.move_of_illegal hleg]
    exact h
  | true =>
    rw [Piece.move_of_legal hleg]
    exact onRoute_calcNextPos hleg

theorem calcStateByPos_onBoard (color : Color) (hnonneg : 0 ≤ pos) (hlt : pos < totalPositions) :
    calcStateByPos pos color = .onBoard := by
  have hlayout := layout color
  unfold calcStateByPos basePos homePathLen totalPositions at *
  grind

/-- Nobody meets a piece that is back where it started: in its base or on a safe square. -/
theorem Piece.Meets.ne_calcBasePos (h : p.Meets q) (color : Color) (isFastMode : Bool) :
    p.pos ≠ calcBasePos color isFastMode := by
  have hsafe : ∀ isFastMode color, calcBasePos color isFastMode < 0 ∨
      calcBasePos color isFastMode ∈ safePositions := by decide
  intro hbase
  rcases hsafe isFastMode color with hneg | hsafe
  · exact absurd (hbase ▸ h.nonneg) (Int.not_le.mpr hneg)
  · exact h.exposed (hbase ▸ hsafe)

theorem Piece.new_eq (id : Int) (color : Color) (isFastMode : Bool) :
    Piece.new id color isFastMode =
      ⟨id, color, calcBasePos color isFastMode, calcStateByPos (calcBasePos color isFastMode) color⟩ := by
  have hcons := Piece.consistent_new id color isFastMode
  cases isFastMode
  · rfl
  · exact congrArg (Piece.mk id color _) hcons

end Route

namespace Board

variable {b b' : Board} {id x : Int} {step : Step} {i : Nat} {p q : Piece} {m : Int × Int}

theorem play_eq (h : b.move m.1 m.2 = some (step, b')) : b.play m = b' := by
  unfold play
  rw [h]
  rfl

theorem Valid.play_cases (hb : b.Valid) (m : Int × Int) :
    b.play m = b ∧ b.getPieceByID m.1 = none ∨ ∃ step p, Moved b m.1 m.2 step (b.play m) p := by
  cases hp : b.getPieceByID m.1 with
  | none =>
    refine .inl ⟨?_, rfl⟩
    unfold play Board.move
    rw [hp]
    rfl
  | some p =>
    obtain ⟨step, b', hmove⟩ := move_isSome hp m.2
    obtain ⟨q, hmv⟩ := hb.moved hmove
    rw [play_eq hmove]
    exact .inr ⟨step, q, hmv⟩

namespace Moved

theorem cases (h : Moved b id x step b' p) (hq : b'.pieces[i]? = some q) : ∃ r, b.pieces[i]? = some r ∧
    (id = i ∧ r = p ∧ q = p.setPos (p.move x).2.1 ∨
      id ≠ i ∧ p.Kills (p.move x).2.1 r ∧ q = r.setPos (calcBasePos r.color b.fastMode) ∨
      id ≠ i ∧ ¬ p.Kills (p.move x).2.1 r ∧ q = r) := by
  rw [h.getElem? i] at hq
  obtain ⟨r, hr, rfl⟩ := Option.map_eq_some_iff.mp hq
  refine ⟨r, hr, ?_⟩
  by_cases hi : id = i
  · obtain rfl := h.eq_piece hr hi
    exact .inl ⟨hi, rfl, if_pos hi⟩
  · rw [if_neg hi]
    by_cases hkills : p.Kills (p.move x).2.1 r
    · exact .inr (.inl ⟨hi, hkills, if_pos hkills⟩)
    · exact .inr (.inr ⟨hi, hkills, if_neg hkills⟩)

theorem arrived (h : Moved b id x step b' p) (hb : b.Valid) (hq : b.pieces[i]? = some q)
    (harr : q.isArrived = true) : b'.pieces[i]? = some q := by
  have hstate : q.state = .arrived := of_decide_eq_true harr
  have hcons := hb.consistent i q hq
  rw [h.getElem? i, hq, Option.map_some]
  congr 1
  split
  · rename_i hi
    rw [← h.eq_piece hq hi, Piece.move_of_illegal (calcNextPos_arrived (hcons.symm.trans hstate) x)]
    exact hcons.setPos_self
  · refine if_neg fun hkills => ?_
    cases hstate.symm.trans hkills.2.2.2.2.2.1

theorem isSome (h : Moved b id x step b' p) (id' : Int) :
    (b'.getPieceByID id').isSome = (b.getPieceByID id').isSome := by
  unfold getPieceByID
  split
  · rfl
  · rw [h.getElem?, Option.isSome_map]

end Moved

/-! ## What holds of every board -/

structure Sound (isFastMode : Bool) (b : Board) : Prop where
  fastMode : b.fastMode = isFastMode
  steps : b.steps.length ≤ maxTrackedSteps
  valid : b.Valid
  onRoute : ∀ (i : Nat) (p : Piece), b.pieces[i]? = some p → OnRoute p.color p.pos
  apart : ∀ (i j : Nat) (p q : Piece), b.pieces[i]? = some p → b.pieces[j]? = some q → ¬ p.Meets q

variable {isFastMode : Bool}

theorem sound_new (seatColors : List Color) (piecesPerSeat : Nat) (isFastMode : Bool) :
    (new seatColors piecesPerSeat isFastMode).Sound isFastMode where
  fastMode := rfl
  steps := Nat.zero_le _
  valid := valid_new ..
  onRoute i p hp := by
    obtain ⟨color, rfl⟩ := getElem?_new hp
    rw [Piece.new_eq]
    exact onRoute_calcBasePos color isFastMode
  apart i j p q hp hq hmeets := by
    obtain ⟨color, rfl⟩ := getElem?_new hp
    apply hmeets.ne_calcBasePos color isFastMode
    rw [Piece.new_eq]

theorem track_length_le (b : Board) (step : Step) : (b.track step).length ≤ maxTrackedSteps := by
  unfold track
  dsimp only
  rw [List.length_drop]
  omega

/-- The piece that moves kills the enemies it would meet. -/
theorem Moved.not_meets (h : Moved b id x step b' p) (hs : b.Sound isFastMode) (hq : b.pieces[i]? = some q)
    (hi : id ≠ i) (hspare : ¬ p.Kills (p.move x).2.1 q) : ¬ (p.setPos (p.move x).2.1).Meets q := by
  intro hmeets
  obtain ⟨hid, hp⟩ := getPieceByID_eq_some.mp h.piece
  have hstate := calcStateByPos_onBoard p.color hmeets.nonneg hmeets.lt
  have hqstate : q.state = .onBoard :=
    (hs.valid.consistent i q hq).trans (calcStateByPos_onBoard _ (hmeets.pos ▸ hmeets.nonneg) (hmeets.pos ▸ hmeets.lt))
  by_cases hstays : p.pos = (p.move x).2.1
  · apply hs.apart _ i p q hp hq
    exact ⟨hmeets.enemies, hstays.trans hmeets.pos, hstays ▸ hmeets.nonneg, hstays ▸ hmeets.lt, hstays ▸ hmeets.exposed⟩
  · refine hspare ⟨hstays, hstate, hmeets.exposed, ?_, hmeets.pos.symm, hqstate, hmeets.enemies⟩
    rw [hs.valid.index i q hq, hs.valid.index _ p hp]
    omega

theorem Moved.sound (h : Moved b id x step b' p) (hs : b.Sound isFastMode) : b'.Sound isFastMode where
  fastMode := h.fastMode.trans hs.fastMode
  steps := h.steps ▸ b.track_length_le step
  valid := h.valid hs.valid
  onRoute i q hq := by
    obtain ⟨r, hr, ⟨-, rfl, rfl⟩ | ⟨-, -, rfl⟩ | ⟨-, -, rfl⟩⟩ := h.cases hq
    · exact (hs.onRoute i r hr).move x
    · exact onRoute_calcBasePos ..
    · exact hs.onRoute i q hr
  apart i j q q' hq hq' hmeets := by
    obtain ⟨r, hr, ⟨hi, rfl, rfl⟩ | ⟨-, -, rfl⟩ | ⟨hi, hspare, rfl⟩⟩ := h.cases hq
    · obtain ⟨r', hr', ⟨-, rfl, rfl⟩ | ⟨-, -, rfl⟩ | ⟨hj, hspare, rfl⟩⟩ := h.cases hq'
      · exact hmeets.enemies rfl
      · exact hmeets.symm.ne_calcBasePos _ _ rfl
      · exact h.not_meets hs hr' hj hspare hmeets
    · exact hmeets.ne_calcBasePos _ _ rfl
    · obtain ⟨r', hr', ⟨-, rfl, rfl⟩ | ⟨-, -, rfl⟩ | ⟨-, -, rfl⟩⟩ := h.cases hq'
      · exact h.not_meets hs hr hi hspare hmeets.symm
      · exact hmeets.symm.ne_calcBasePos _ _ rfl
      · exact hs.apart i j q q' hr hr' hmeets

/-- What every move keeps holds after any moves. -/
theorem Sound.plays_rec {P : Board → Prop} (hs : b.Sound isFastMode) (hP : P b)
    (hmv : ∀ {b id x step b' p}, b.Sound isFastMode → Moved b id x step b' p → P b → P b')
    (ms : List (Int × Int)) : (b.plays ms).Sound isFastMode ∧ P (b.plays ms) := by
  refine List.foldlRecOn (motive := fun b' => b'.Sound isFastMode ∧ P b') ms Board.play ⟨hs, hP⟩ ?_
  rintro b' ⟨hs', hP'⟩ m -
  rcases hs'.valid.play_cases m with ⟨hsame, -⟩ | ⟨step, p, h⟩
  · rw [hsame]
    exact ⟨hs', hP'⟩
  · exact ⟨h.sound hs', hmv hs' h hP'⟩

theorem Sound.plays (hs : b.Sound isFastMode) (ms : List (Int × Int)) : (b.plays ms).Sound isFastMode :=
  (hs.plays_rec (P := fun _ => True) trivial (fun _ _ => id) ms).1

theorem Moved.getPieceByID_killed (h : Moved b id x step b' p) (hs : b.Sound isFastMode) {k : KilledInfo}
    (hk : k ∈ step.killed) : (∃ v, b.getPieceByID k.id = some v ∧ v.isArrived = false) ∧
      b'.getPieceByID k.id = some (.new k.id k.color isFastMode) := by
  obtain ⟨v, hv, hkills, rfl⟩ := (h.killed k).mp hk
  obtain ⟨i, hi⟩ := List.mem_iff_getElem?.mp hv
  have hindex := hs.valid.index i v hi
  obtain ⟨hid, hp⟩ := getPieceByID_eq_some.mp h.piece
  have hne : id ≠ i := by
    rintro rfl
    apply hkills.2.2.2.1
    rw [h.eq_piece hi rfl]
  dsimp only
  rw [hindex]
  refine ⟨⟨v, getPieceByID_eq_some.mpr ⟨Int.natCast_nonneg i, hi⟩, ?_⟩,
    getPieceByID_eq_some.mpr ⟨Int.natCast_nonneg i, ?_⟩⟩
  · simp [Piece.isArrived, hkills.2.2.2.2.2.1]
  · rw [Int.toNat_natCast, h.getElem? i, hi, Option.map_some, if_neg hne, if_pos hkills, Piece.new_eq,
      ← hs.fastMode, ← hindex]
    rfl

/-- On every board of a game the pieces are on their routes, enemies share no unsafe public square, what has
arrived stays, and what is killed goes back to its start. -/
theorem board_invariant (seatColors : List Color) (piecesPerSeat : Nat) (isFastMode : Bool)
    (ms : List (Int × Int)) :
    let b := (new seatColors piecesPerSeat isFastMode).plays ms
    (∀ p ∈ b.pieces, p.state = calcStateByPos p.pos p.color ∧ OnRoute p.color p.pos) ∧
    (∀ p ∈ b.pieces, ∀ q ∈ b.pieces, ¬ p.Meets q) ∧
    (∀ id p, b.getPieceByID id = some p → p.isArrived = true →
      ∀ more, (b.plays more).getPieceByID id = some p) ∧
    (∀ id x step b', b.move id x = some (step, b') → ∀ k ∈ step.killed,
      (∃ v, b.getPieceByID k.id = some v ∧ v.isArrived = false) ∧
        b'.getPieceByID k.id = some (.new k.id k.color isFastMode)) := by
  intro b
  have hs : b.Sound isFastMode := (sound_new seatColors piecesPerSeat isFastMode).plays ms
  refine ⟨fun p hp => ?_, fun p hp q hq => ?_, fun id p hp harr more => ?_, fun id x step b' hmove k hk => ?_⟩
  · obtain ⟨i, hi⟩ := List.mem_iff_getElem?.mp hp
    exact ⟨hs.valid.consistent i p hi, hs.onRoute i p hi⟩
  · obtain ⟨i, hi⟩ := List.mem_iff_getElem?.mp hp
    obtain ⟨j, hj⟩ := List.mem_iff_getElem?.mp hq
    exact hs.apart i j p q hi hj
  · obtain ⟨hid, hget⟩ := getPieceByID_eq_some.mp hp
    exact getPieceByID_eq_some.mpr
      ⟨hid, (hs.plays_rec hget (fun hs hmv hget => hmv.arrived hs.valid hget harr) more).2⟩
  · obtain ⟨p, hmv⟩ := hs.valid.moved hmove
    exact hmv.getPieceByID_killed hs hk

/-! ## The home path -/

theorem Moved.homeward (h : Moved b id x step b' p) (hb : b.Valid) (hq : b.pieces[i]? = some q)
    (hhome : homeStartIndices q.color ≤ q.pos) :
    ∃ r, b'.pieces[i]? = some r ∧ r.color = q.color ∧ q.pos ≤ r.pos := by
  have hlayout := layout q.color
  obtain ⟨r, hr⟩ : ∃ r, b'.pieces[i]? = some r := ⟨_, by rw [h.getElem? i, hq, Option.map_some]⟩
  obtain ⟨q', hq', hcase⟩ := h.cases hr
  cases hq.symm.trans hq'
  refine ⟨r, hr, ?_⟩
  obtain ⟨-, rfl, rfl⟩ | ⟨-, hkills, -⟩ | ⟨-, -, rfl⟩ := hcase
  · refine ⟨rfl, ?_⟩
    change q.pos ≤ (q.move x).2.1
    cases hleg : (calcNextPos q.pos q.color x).1 with
    | false => rw [Piece.move_of_illegal hleg]
    | true =>
      rw [Piece.move_of_legal hleg]
      have hnext := calcNextPos_legal hleg
      dsimp only
      omega
  · -- only pieces on the public track are killed
    have hstate := (hb.consistent i q hq).symm.trans hkills.2.2.2.2.2.1
    unfold calcStateByPos basePos homePathLen totalPositions at hstate
    grind
  · exact ⟨rfl, le_rfl⟩

/-- A piece on its home path is never sent back, and goes on along its own path only. -/
theorem home_path_safe (seatColors : List Color) (piecesPerSeat : Nat) (isFastMode : Bool)
    (ms : List (Int × Int)) :
    let b := (new seatColors piecesPerSeat isFastMode).plays ms
    ∀ id p, b.getPieceByID id = some p → homeStartIndices p.color ≤ p.pos →
      ∀ more, ∃ q, (b.plays more).getPieceByID id = some q ∧ q.color = p.color ∧ p.pos ≤ q.pos ∧
        q.pos < homeStartIndices p.color + homePathLen := by
  intro b id p hp hhome more
  have hs : b.Sound isFastMode := (sound_new seatColors piecesPerSeat isFastMode).plays ms
  obtain ⟨hid, hget⟩ := getPieceByID_eq_some.mp hp
  obtain ⟨hs', q, hq, hcol, hle⟩ := hs.plays_rec (P := fun b => ∃ q, b.pieces[id.toNat]? = some q ∧
    q.color = p.color ∧ p.pos ≤ q.pos) ⟨p, hget, rfl, le_rfl⟩ (fun hs hmv ⟨q, hq, hcol, hle⟩ => by
      obtain ⟨r, hr, hcol', hle'⟩ := hmv.homeward hs.valid hq (hcol ▸ hhome.trans hle)
      exact ⟨r, hr, hcol'.trans hcol, hle.trans hle'⟩) more
  refine ⟨q, getPieceByID_eq_some.mpr ⟨hid, hq⟩, hcol, hle, ?_⟩
  have hroute := hs'.onRoute _ q hq
  have hlayout := layout p.color
  rw [hcol] at hroute
  unfold OnRoute basePos totalPositions at hroute
  omega

theorem home_path_safe_step :
    let b := (new [0] 1 true).plays (List.replicate 8 (0, 6) ++ [(0, 3)])
    ∃ q, (b.plays [(0, 2)]).getPieceByID 0 = some q ∧ q.color = 0 ∧ 101 ≤ q.pos ∧ q.pos < 101 + homePathLen :=
  home_path_safe [0] 1 true _ 0 ⟨0, 0, 101, .inHomePath⟩ (by decide) (by decide) [(0, 2)]

/-! ## Taking moves back -/

/-- As many moves as the board remembers are taken back completely; older records are gone. -/
theorem Sound.takeBack_plays (hs : b.Sound isFastMode) {ms : List (Int × Int)}
    (hms : ∀ m ∈ ms, (b.getPieceByID m.1).isSome = true) (hlen : ms.length ≤ maxTrackedSteps) :
    takeBack^[ms.length] (b.plays ms) =
      { b with steps := b.steps.drop (b.steps.length + ms.length - maxTrackedSteps) } := by
  induction ms generalizing b with
  | nil =>
    have hsteps := hs.steps
    rw [List.length_nil, Nat.add_zero, Nat.sub_eq_zero_of_le hsteps]
    rfl
  | cons m ms ih =>
    rw [List.forall_mem_cons] at hms
    rw [List.length_cons] at hlen
    rcases hs.valid.play_cases m with ⟨-, hnone⟩ | ⟨step, p, hmv⟩
    · rw [hnone] at hms
      cases hms.1
    · have hrest : ∀ m' ∈ ms, ((b.play m).getPieceByID m'.1).isSome = true :=
        fun m' hm' => (hmv.isSome m'.1).trans (hms.2 m' hm')
      have hkept : (b.play m).steps.drop ((b.play m).steps.length + ms.length - maxTrackedSteps) =
          b.steps.drop (b.steps.length + (ms.length + 1) - maxTrackedSteps) ++ [step] := by
        have hsteps := hs.steps
        rw [hmv.steps]
        unfold track
        dsimp only
        rw [List.drop_drop, List.length_drop, List.length_append, List.length_singleton,
          ← List.drop_append_of_le_length (by omega)]
        congr 1
        omega
      rw [List.length_cons, Function.iterate_succ_apply', Board.plays, List.foldl_cons, ← Board.plays,
        ih (hmv.sound hs) hrest (by omega), hkept]
      unfold takeBack
      rw [hmv.back hs.valid]
      rfl

/-- Taking back moves, as many as are tracked, restores the pieces of the board before them. -/
theorem undo_exact (seatColors : List Color) (piecesPerSeat : Nat) (isFastMode : Bool)
    (before ms : List (Int × Int))
    (hms : ∀ m ∈ ms, ((new seatColors piecesPerSeat isFastMode).getPieceByID m.1).isSome = true)
    (k : Nat) (hk : k ≤ min ms.length maxTrackedSteps) :
    (takeBack^[k] ((new seatColors piecesPerSeat isFastMode).plays (before ++ ms))).pieces =
      ((new seatColors piecesPerSeat isFastMode).plays (before ++ ms.take (ms.length - k))).pieces := by
  have hsound := sound_new seatColors piecesPerSeat isFastMode
  have hlast : (ms.drop (ms.length - k)).length = k := by
    rw [List.length_drop]
    omega
  have hsplit : (new seatColors piecesPerSeat isFastMode).plays (before ++ ms) =
      ((new seatColors piecesPerSeat isFastMode).plays (before ++ ms.take (ms.length - k))).plays
        (ms.drop (ms.length - k)) := by
    unfold plays
    rw [← List.foldl_append, List.append_assoc, List.take_append_drop]
  obtain ⟨hs, hexist⟩ := hsound.plays_rec (P := fun b => ∀ m ∈ ms, (b.getPieceByID m.1).isSome = true) hms
    (fun _ hmv hexist m hm => (hmv.isSome m.1).trans (hexist m hm)) (before ++ ms.take (ms.length - k))
  have hback := hs.takeBack_plays
    (fun m (hm : m ∈ ms.drop (ms.length - k)) => hexist m (List.mem_of_mem_drop hm)) (by omega)
  rw [hlast] at hback
  rw [hsplit, hback]

/-- A kill and a move that is refused. -/
theorem undo_exact_kill :
    (takeBack^[2] ((new [0, 1] 1 true).plays ([(0, 6), (0, 6), (1, 1)] ++ [(0, 2), (0, 7)]))).pieces =
      ((new [0, 1] 1 true).plays ([(0, 6), (0, 6), (1, 1)] ++ [])).pieces :=
  undo_exact [0, 1] 1 true _ [(0, 2), (0, 7)] (by decide) 2 (by decide)

/-! ## The checks agree -/

theorem canMove_iff {c : Int} : (b.canMove c id x).1 = true ↔
    ∃ p, b.getPieceByID id = some p ∧ (p.color : Int) = c ∧ (calcNextPos p.pos p.color x).1 = true := by
  unfold canMove
  cases b.getPieceByID id with
  | none => simp
  | some p => by_cases hcol : (p.color : Int) = c <;> simp [hcol]

theorem Valid.legal_iff (hb : b.Valid) {c : Int} :
    id ∈ b.getActivePieceIDs c ∧ (b.canMoveOne id x).1 = true ↔ (b.canMove c id x).1 = true := by
  rw [hb.mem_getActivePieceIDs, canMove_iff]
  constructor
  · rintro ⟨⟨p, hp, hcol, -⟩, hcan⟩
    rw [canMoveOne_eq hp] at hcan
    exact ⟨p, hp, hcol, hcan⟩
  · rintro ⟨p, hp, hcol, hleg⟩
    refine ⟨⟨p, hp, hcol, ?_⟩, by rw [canMoveOne_eq hp, hleg]⟩
    rw [← Bool.not_eq_true]
    intro harr
    have hcons := hb.consistent _ p (getPieceByID_eq_some.mp hp).2
    cases hleg.symm.trans (calcNextPos_arrived (hcons.symm.trans (of_decide_eq_true harr)) x)

theorem Piece.canMovePiece_iff (h : p.Consistent) :
    canMovePiece p.pos p.color p.state.num x = (calcNextPos p.pos p.color x).1 := by
  have hcol : Fin.ofNat 4 (p.color : Int).toNat = p.color := by
    apply Fin.ext
    have hlt := p.color.isLt
    simp
  unfold canMovePiece
  rw [if_neg (by omega)]
  dsimp only
  rw [hcol, ← h, if_neg (by simp)]

theorem Moved.moves_iff (h : Moved b id x step b' p) :
    (∃ q, b'.getPieceByID id = some q ∧ q.pos ≠ p.pos) ↔ (calcNextPos p.pos p.color x).1 = true := by
  obtain ⟨hid, hp⟩ := getPieceByID_eq_some.mp h.piece
  have hget : b'.getPieceByID id = some (p.setPos (p.move x).2.1) := by
    refine getPieceByID_eq_some.mpr ⟨hid, ?_⟩
    rw [h.getElem?, hp, Option.map_some, if_pos (Int.toNat_of_nonneg hid).symm]
  rw [hget]
  cases hleg : (calcNextPos p.pos p.color x).1 with
  | false =>
    rw [Piece.move_of_illegal hleg]
    simp [Piece.setPos]
  | true =>
    rw [Piece.move_of_legal hleg]
    simpa [Piece.setPos] using calcNextPos_ne hleg

/-- All checks accept the same moves, and these are the moves that move. -/
theorem legality_checks_agree (seatColors : List Color) (piecesPerSeat : Nat) (isFastMode : Bool)
    (ms : List (Int × Int)) (id x c : Int) :
    let b := (new seatColors piecesPerSeat isFastMode).plays ms
    (∀ dices, (id, x) ∈ b.calcAllMovable c dices ↔ x ∈ dices ∧ (b.canMove c id x).1 = true) ∧
    (∀ dices, b.calcCanMoveDice c dices = true ↔ ∃ x ∈ dices, ∃ id, (b.canMove c id x).1 = true) ∧
    (∀ p, b.getPieceByID id = some p →
      ((p.color : Int) ≠ c → b.canMove c id x = (false, .errInvalidPieceColor)) ∧
      (canMovePiece p.pos p.color p.state.num x = (b.canMove p.color id x).1) ∧
      ((∃ step b' q, b.move id x = some (step, b') ∧ b'.getPieceByID id = some q ∧ q.pos ≠ p.pos) ↔
        (b.canMove p.color id x).1 = true)) := by
  intro b
  have hb : b.Valid := ((sound_new seatColors piecesPerSeat isFastMode).plays ms).valid
  refine ⟨fun dices => ?_, fun dices => ?_, fun p hp => ?_⟩
  · rw [← hb.legal_iff]
    unfold calcAllMovable
    simp only [List.mem_flatMap, List.mem_map, List.mem_filter, Prod.mk.injEq]
    constructor
    · rintro ⟨_, hx, _, h, rfl, rfl⟩
      exact ⟨hx, h⟩
    · rintro ⟨hx, h⟩
      exact ⟨x, hx, id, h, rfl, rfl⟩
  · simp only [calcCanMoveDice_iff, ← hb.legal_iff]
  · have hcan : (b.canMove p.color id x).1 = (calcNextPos p.pos p.color x).1 := by
      rw [Bool.eq_iff_iff, canMove_iff, hp]
      simp
    have hcons := hb.consistent _ p (getPieceByID_eq_some.mp hp).2
    refine ⟨fun hcol => ?_, ?_, ?_⟩
    · unfold canMove
      rw [hp]
      exact if_pos hcol
    · rw [hcan, Piece.canMovePiece_iff hcons]
    · obtain ⟨step, b', hmove⟩ := move_isSome hp x
      obtain ⟨q, hmv⟩ := hb.moved hmove
      obtain rfl : q = p := Option.some.inj (hmv.piece.symm.trans hp)
      rw [hcan, ← hmv.moves_iff]
      constructor
      · rintro ⟨_, _, r, hmove', hr⟩
        cases hmove'.symm.trans hmove
        exact ⟨r, hr⟩
      · rintro ⟨r, hr⟩
        exact ⟨step, b', r, hmove, hr⟩

end Board

end Yola.Ludo
