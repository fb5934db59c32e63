import Yola.Ludo.Game

/-!
# Who sits where

What happens beside a game: players come to free chairs, those who are in no game leave or change their
minds, and anybody may be flagged as hosted, offline or leaving.  Whoever is in a game stays and keeps
what is theirs until the result.
-/

open Function

namespace Yola.Ludo

def StageID.inGame : StageID → Bool
  | .sendCard | .dice | .move => true
  | _ => false

namespace Player

def core (p : Player) : Player := { p with idleCount := 0, isOffline := false, exiting := false }

/-- Nothing is left of a game. -/
structure Idle (p : Player) : Prop where
  unfinished : p.isFinish = false
  initDiceList : p.initDiceList = []
  dices : p.dices = []

variable {p p' : Player}

theorem eq_of_core {α : Type} (f : Player → α) (hf : ∀ p : Player, f p.core = f p)
    (h : p'.core = p.core) : f p' = f p := by
  rw [← hf p', h, hf p]

theorem isGaming_of_core (h : p'.core = p.core) : p'.isGaming = p.isGaming :=
  eq_of_core isGaming (fun _ => rfl) h

theorem Idle.of_core (h : p.Idle) (hcore : p'.core = p.core) : p'.Idle where
  unfinished := (eq_of_core isFinish (fun _ => rfl) hcore).trans h.unfinished
  initDiceList := (eq_of_core Player.initDiceList (fun _ => rfl) hcore).trans h.initDiceList
  dices := (eq_of_core Player.dices (fun _ => rfl) hcore).trans h.dices

end Player

/-- What may become of a chair when nobody comes: the player stays, or leaves as the stage allows. -/
inductive Drop (stage : StageID) : Option Player → Option Player → Prop where
  | vacant : Drop stage none none
  | kept {p p' : Player} (core : p'.core = p.core) : Drop stage (some p) (some p')
  | left {p : Player} (may : stage = .result ∨ stage = .wait ∧ p.isGaming = false) :
      Drop stage (some p) none

inductive SeatChange (stage : StageID) : Option Player → Option Player → Prop where
  | drop {o o' : Option Player} (drop : Drop stage o o') : SeatChange stage o o'
  | restatus {p p' : Player} (s : Status) (idle : p.isGaming = false) (notGaming : s ≠ .gaming)
      (core : p'.core = (p.setStatus s).core) : SeatChange stage (some p) (some p')
  | came {p : Player} (out : p.isGaming = false) (idle : p.Idle) : SeatChange stage none (some p)

section

variable {stage : StageID} {o o' o'' : Option Player}

theorem Drop.refl (o : Option Player) : Drop stage o o := by
  cases o with
  | none => exact .vacant
  | some => exact .kept rfl

theorem Drop.trans (h : Drop stage o o') (h' : Drop stage o' o'') : Drop stage o o'' := by
  cases h with
  | vacant => exact h'
  | left may =>
    cases h' with
    | vacant => exact .left may
  | kept core =>
    cases h' with
    | kept core' => exact .kept (core'.trans core)
    | left may =>
      rw [Player.isGaming_of_core core] at may
      exact .left may

theorem SeatChange.refl (o : Option Player) : SeatChange stage o o := .drop (.refl o)

theorem SeatChange.trans_drop (h : SeatChange stage o o') (h' : Drop stage o' o'') :
    SeatChange stage o o'' := by
  cases h with
  | drop drop => exact .drop (drop.trans h')
  | restatus s idle notGaming core =>
    cases h' with
    | kept core' => exact .restatus s idle notGaming (core'.trans core)
    | left may => exact .drop (.left (may.imp_right fun hwait => ⟨hwait.1, idle⟩))
  | came out idle =>
    cases h' with
    | kept core =>
      exact .came ((Player.isGaming_of_core core).trans out) (idle.of_core core)
    | left => exact .drop .vacant

end

namespace Table

variable {n : Nat} {t t' u : Table n} {c d : Fin n} {p q : Player} {rc : RoomConfig n}

/-! ## One chair -/

theorem seats_modify (t : Table n) (c d : Fin n) (f : Player → Player) :
    (t.modify c f).seats d = if d = c then (t.seats c).map f else t.seats d := by
  unfold modify
  exact update_apply _ _ _ _

theorem modify_eq (f : Player → Player) (hp : t.seats c = some p) :
    t.modify c f = { t with seats := update t.seats c (some (f p)) } := by
  unfold modify
  rw [hp]
  rfl

/-! ## The next player -/

theorem self_mem_chairsAfter (c : Fin n) : c ∈ chairsAfter c := by
  apply List.mem_map.mpr
  refine ⟨n - 1, List.mem_range.mpr (Nat.sub_lt c.pos Nat.one_pos), ?_⟩
  apply Fin.ext
  have hlt := c.isLt
  have hsum : c.val + 1 + (n - 1) = c.val + n := by omega
  change (c.val + 1 + (n - 1)) % n = c.val
  rw [hsum, Nat.add_mod_right, Nat.mod_eq_of_lt hlt]

theorem playing_iff :
    t.playing c = true ↔ ∃ p, t.seats c = some p ∧ p.isGaming = true ∧ p.isFinish = false := by
  unfold playing
  rw [Option.any_eq_true]
  simp only [Bool.and_eq_true, Bool.not_eq_true']

/-- Going round the table, one comes back to the player one has started from. -/
theorem nextPlayer_of_playing (h : t.playing c = true) :
    ∃ d, t.nextPlayer c = some d ∧ t.playing d = true := by
  have hsome : (t.nextPlayer c).isSome = true :=
    List.find?_isSome.mpr ⟨c, self_mem_chairsAfter c, h⟩
  obtain ⟨d, hd⟩ := Option.isSome_iff_exists.mp hsome
  exact ⟨d, hd, List.find?_some hd⟩

/-! ## Beside the game -/

structure Frame (t t' : Table n) : Prop where
  stage : t'.stage = t.stage
  activeChair : t'.activeChair = t.activeChair
  board : t'.board = t.board
  gameGeneration : t'.gameGeneration = t.gameGeneration
  fastTimers : ∀ g ∈ t'.fastTimers, g ∈ t.fastTimers
  timers : ∀ x ∈ t.timers, x = (t.stage.state, t.stage.generation) → x ∈ t'.timers

theorem Frame.refl (t : Table n) : Frame t t := ⟨rfl, rfl, rfl, rfl, fun _ h => h, fun _ h _ => h⟩

theorem Frame.trans (h : Frame t t') (h' : Frame t' u) : Frame t u where
  stage := h'.stage.trans h.stage
  activeChair := h'.activeChair.trans h.activeChair
  board := h'.board.trans h.board
  gameGeneration := h'.gameGeneration.trans h.gameGeneration
  fastTimers g hg := h.fastTimers g (h'.fastTimers g hg)
  timers x hx hcurrent := by
    apply h'.timers x (h.timers x hx hcurrent)
    rw [h.stage]
    exact hcurrent

structure Dropped (t t' : Table n) : Prop extends Frame t t' where
  seats : ∀ c, Drop t.stage.state (t.seats c) (t'.seats c)

/-- Nothing of the game has changed. -/
structure Aside (t t' : Table n) : Prop extends Frame t t' where
  seats : ∀ c, SeatChange t.stage.state (t.seats c) (t'.seats c)

namespace Dropped

theorem refl (t : Table n) : Dropped t t := ⟨.refl t, fun _ => .refl _⟩

theorem trans (h : Dropped t t') (h' : Dropped t' u) : Dropped t u where
  toFrame := h.toFrame.trans h'.toFrame
  seats c := by
    have hnext := h'.seats c
    rw [h.stage] at hnext
    exact (h.seats c).trans hnext

theorem push (h : Dropped t u) (l : List (Fin n × Push n)) : Dropped t (u.push l) :=
  h.trans ⟨⟨rfl, rfl, rfl, rfl, fun _ h => h, fun _ h _ => h⟩, fun _ => .refl _⟩

theorem aside (h : Dropped t t') : Aside t t' := ⟨h.toFrame, fun c => .drop (h.seats c)⟩

theorem update {o : Option Player} (h : Drop t.stage.state (t.seats c) o) :
    Dropped t { t with seats := update t.seats c o } where
  toFrame := ⟨rfl, rfl, rfl, rfl, fun _ h => h, fun _ h _ => h⟩
  seats d := by
    dsimp only
    by_cases hd : d = c
    · subst hd
      rw [update_self]
      exact h
    · rw [update_of_ne hd]
      exact .refl _

theorem modify {f : Player → Player} (hf : ∀ p, (f p).core = p.core) : Dropped t (t.modify c f) := by
  apply update
  cases t.seats c with
  | none => exact .vacant
  | some p => exact .kept (hf p)

end Dropped

namespace Aside

theorem refl (t : Table n) : Aside t t := (Dropped.refl t).aside

theorem trans_dropped (h : Aside t t') (h' : Dropped t' u) : Aside t u where
  toFrame := h.toFrame.trans h'.toFrame
  seats c := by
    have hnext := h'.seats c
    rw [h.stage] at hnext
    exact (h.seats c).trans_drop hnext

theorem push (h : Aside t u) (l : List (Fin n × Push n)) : Aside t (u.push l) :=
  h.trans_dropped ((Dropped.refl u).push l)

theorem update {o : Option Player} (h : SeatChange t.stage.state (t.seats c) o) :
    Aside t { t with seats := update t.seats c o } where
  toFrame := ⟨rfl, rfl, rfl, rfl, fun _ h => h, fun _ h _ => h⟩
  seats d := by
    dsimp only
    by_cases hd : d = c
    · subst hd
      rw [update_self]
      exact h
    · rw [update_of_ne hd]
      exact .refl _

end Aside

theorem removePlayer_dropped (h : t.removePlayer c = some t') : Dropped t t' := by
  unfold removePlayer at h
  cases hp : t.seats c with
  | none =>
    rw [hp] at h
    cases h
  | some p =>
    rw [hp] at h
    dsimp only at h
    split at h
    · cases h
    · rename_i hexit
      cases h
      have hmay : t.stage.state = .result ∨ t.stage.state = .wait ∧ p.isGaming = false := by
        unfold canExit at hexit
        rw [hp] at hexit
        cases hst : t.stage.state <;> simp [hst] at hexit ⊢
        exact hexit
      have hdrop : Dropped t { t with seats := update t.seats c none } := by
        apply Dropped.update
        rw [hp]
        exact .left hmay
      exact hdrop.push _

theorem exit_dropped (h : t.exit c = some t') : Dropped t t' := by
  unfold exit at h
  split at h
  · cases h
  · split at h
    · cases h
    · exact removePlayer_dropped h

theorem getD_exit_dropped : Dropped t ((t.exit c).getD t) := by
  cases hexit : t.exit c with
  | none => exact .refl t
  | some => exact exit_dropped hexit

theorem offline_dropped (t : Table n) (c : Fin n) : Dropped t (t.offline c) := by
  unfold offline
  split
  · exact .refl t
  · split
    · exact getD_exit_dropped
    · exact (Dropped.modify (f := (·.setOffline true)) fun _ => rfl).push _

theorem offlinePlayers_dropped (t : Table n) (players : List (Fin n)) :
    Dropped t (t.offlinePlayers players) := by
  unfold offlinePlayers
  apply List.foldlRecOn players _ (Dropped.refl t)
  intro u hu c _
  split
  · exact hu.trans (offline_dropped u c)
  · exact hu

theorem checkKick_dropped (t : Table n) (rc : RoomConfig n) : Dropped t (t.checkKick rc) := by
  unfold checkKick
  apply List.foldlRecOn (List.finRange n) (kick rc) (Dropped.refl t)
  intro u hu c _
  apply hu.trans
  unfold kick
  split
  · exact getD_exit_dropped
  · exact .refl u

theorem checkAutoReady_cases (rc : RoomConfig n) (p : Player) :
    checkAutoReady rc p = p ∨ checkAutoReady rc p = p.setStatus .ready := by
  unfold checkAutoReady
  split
  · exact .inr rfl
  · exact .inl rfl

theorem checkAutoReady_came (rc : RoomConfig n) (p : Player) (stage : StageID) :
    SeatChange stage none (some (checkAutoReady rc ((p.reset.setOffline false).setStatus .sit))) := by
  rcases checkAutoReady_cases rc ((p.reset.setOffline false).setStatus .sit) with hsame | hready
  · rw [hsame]
    exact .came rfl ⟨rfl, rfl, rfl⟩
  · rw [hready]
    exact .came rfl ⟨rfl, rfl, rfl⟩

def taken (rc : RoomConfig n) (t : Table n) (c : Fin n) (p : Player) : Table n :=
  let p := checkAutoReady rc ((p.reset.setOffline false).setStatus .sit)
  ({ t with seats := update t.seats c (some p) }.broadcastUserInfo c).sendScene rc c

theorem taken_aside (rc : RoomConfig n) (hfree : t.seats c = none) : Aside t (t.taken rc c p) := by
  have hcame := checkAutoReady_came rc p t.stage.state
  rw [← hfree] at hcame
  exact ((Aside.update hcame).push _).push _

theorem seat_cases {lost : List (Fin n)} {failed : Bool} (h : t.seat rc p lost failed = some t') :
    ∃ c, t.seats c = none ∧
      t' = if failed then ((t.taken rc c p).offline c).offlinePlayers lost
        else ((t.taken rc c p).offlinePlayers lost).tryEnterReady rc := by
  unfold seat at h
  split at h
  · cases h
  · rename_i c hfind
    cases h
    have hfree : t.seats c = none := by simpa using List.find?_some hfind
    exact ⟨c, hfree, rfl⟩

theorem reEnter_dropped : Dropped t (t.reEnter rc c) :=
  (((Dropped.modify (f := (·.setOffline false)) fun _ => rfl).push _).push _).push _

theorem hosting_core (hosting : Bool) (p : Player) :
    (if hosting then (if p.idleCount = 0 then p.incrTimeoutCnt true else p)
      else { p with idleCount := 0 }).core = p.core := by
  cases hosting
  · rfl
  · by_cases hzero : p.idleCount = 0
    · simp [hzero, Player.incrTimeoutCnt, Player.core]
    · simp [hzero]

theorem setHosting_dropped {hosting : Bool} : Dropped t (t.setHosting c hosting) :=
  (Dropped.modify (hosting_core hosting)).push _

theorem flags_dropped {isOffline exiting : Bool} :
    Dropped t (t.modify c fun p => { p with isOffline := isOffline, exiting := exiting }) :=
  .modify fun _ => rfl

end Table

end Yola.Ludo
