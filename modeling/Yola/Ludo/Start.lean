import Yola.Ludo.Progress

/-!
# When a game starts

Whether there are enough players for a game is looked at when somebody sits down or gets ready and when a
timer comes, but not when somebody goes.  As the number of players has to be even, a table can become
ready to start by somebody's going, and then nothing happens.
-/

namespace Yola.Ludo

open Function Reasoning

namespace Table

variable {n : Nat} {t t' u : Table n} {c d : Fin n} {p : Player} {rc : RoomConfig n} {e : TableEvent n}
  {lost : List (Fin n)}

def timerOutstanding (t : Table n) : Bool := (t.stage.state, t.stage.generation) ∈ t.timers

def Starts (rc : RoomConfig n) (t : Table n) : Prop :=
  t.stage.state = .wait → canStartGame (t.readyPlayers rc) = true → t.timerOutstanding = true

def waiting (t : Table n) : Bool := t.stage.state = .wait && !t.timerOutstanding

/-- One player fewer would make a game. -/
def oneTooMany (rc : RoomConfig n) (t : Table n) : Bool :=
  3 ≤ (t.readyPlayers rc).length && (t.readyPlayers rc).length % 2 = 1

/-- No ready player goes who is one too many while the table waits, and no player who is about to leave
for another reason is lost while they sit down. -/
def Careful (rc : RoomConfig n) (t : Table n) : TableEvent n → Prop
  | .left c | .offline c | .ready c false =>
      t.waiting = true → oneTooMany rc t = true → c ∉ t.readyPlayers rc
  | .seated p lost true =>
      t.waiting = true → p.exiting = false ∧ (oneTooMany rc t = true → ∀ c ∈ lost, c ∉ t.readyPlayers rc)
  | _ => True

/-! ## Fewer players -/

theorem canStartGame_eq_false_iff {l : List (Fin n)} :
    canStartGame l = false ↔ l.length ≤ 1 ∨ l.length % 2 = 1 := by
  unfold canStartGame
  rw [Bool.and_eq_false_iff, decide_eq_false_iff_not, decide_eq_false_iff_not]
  omega

/-- Whoever is still ready was so before; if one fewer would make a game, all are. -/
theorem canStartGame_of_fewer (hcannot : canStartGame (t.readyPlayers rc) = false)
    (hfewer : ∀ d ∈ t'.readyPlayers rc, d ∈ t.readyPlayers rc)
    (hall : oneTooMany rc t = true → ∀ d ∈ t.readyPlayers rc, d ∈ t'.readyPlayers rc) :
    canStartGame (t'.readyPlayers rc) = false := by
  have hsub : (t'.readyPlayers rc).length ≤ (t.readyPlayers rc).length :=
    (List.subperm_of_subset (t'.readyPlayers_nodup rc) hfewer).length_le
  rw [canStartGame_eq_false_iff] at hcannot ⊢
  by_cases hmany : oneTooMany rc t = true
  · have hsup : (t.readyPlayers rc).length ≤ (t'.readyPlayers rc).length :=
      (List.subperm_of_subset (t.readyPlayers_nodup rc) (hall hmany)).length_le
    omega
  · unfold oneTooMany at hmany
    simp only [Bool.and_eq_true, decide_eq_true_eq, not_and] at hmany
    omega

theorem Dropped.readyPlayers (h : Dropped t t') : ∀ d ∈ t'.readyPlayers rc, d ∈ t.readyPlayers rc := by
  intro d hd
  obtain ⟨p', hp', hready, hmoney⟩ := mem_readyPlayers.mp hd
  have hdrop := h.seats d
  rw [hp'] at hdrop
  generalize hold : t.seats d = o at hdrop
  cases hdrop with
  | kept core =>
    refine mem_readyPlayers.mpr ⟨_, hold, ?_, ?_⟩
    · rw [← hready]
      exact (Player.eq_of_core Player.isReady (fun _ => rfl) core).symm
    · rw [← show Player.money _ = _ from Player.eq_of_core Player.money (fun _ => rfl) core]
      exact hmoney

theorem mem_readyPlayers_of_seats (h : t'.seats d = t.seats d) (hd : d ∈ t.readyPlayers rc) :
    d ∈ t'.readyPlayers rc := by
  obtain ⟨p, hp, hready⟩ := mem_readyPlayers.mp hd
  exact mem_readyPlayers.mpr ⟨p, h.trans hp, hready⟩

/-! ## One chair at a time -/

theorem removePlayer_seats (h : t.removePlayer c = some t') (hd : d ≠ c) : t'.seats d = t.seats d := by
  unfold removePlayer at h
  split at h
  · cases h
  · split at h
    · cases h
    · cases h
      exact update_of_ne hd ..

theorem exit_removePlayer (h : t.exit c = some t') : t.removePlayer c = some t' := by
  unfold exit at h
  split at h
  · cases h
  · split at h
    · cases h
    · exact h

theorem offline_seats (hd : d ≠ c) : (t.offline c).seats d = t.seats d := by
  unfold offline
  split
  · rfl
  · split
    · cases hexit : t.exit c with
      | none => rfl
      | some => exact removePlayer_seats (exit_removePlayer hexit) hd
    · change (t.modify c _).seats d = _
      rw [seats_modify, if_neg hd]

theorem offlinePlayers_seats (hd : d ∉ lost) : (t.offlinePlayers lost).seats d = t.seats d := by
  unfold offlinePlayers
  apply List.foldlRecOn (motive := fun u : Table n => u.seats d = t.seats d) lost _ rfl
  intro u hu c hc
  have hne : d ≠ c := fun heq => hd (heq ▸ hc)
  split
  · exact (offline_seats hne).trans hu
  · exact hu

theorem taken_offline_seats (rc : RoomConfig n) (hst : t.stage.state = .wait) (hfree : t.seats c = none)
    (hexiting : p.exiting = false) : ((t.taken rc c p).offline c).seats = t.seats := by
  set q := checkAutoReady rc ((p.reset.setOffline false).setStatus .sit) with hq
  have hgam : q.isGaming = false := by
    rcases checkAutoReady_cases rc ((p.reset.setOffline false).setStatus .sit) with hsame | hready
    · rw [hq, hsame]
      rfl
    · rw [hq, hready]
      rfl
  have hqexiting : q.exiting = false := by
    rcases checkAutoReady_cases rc ((p.reset.setOffline false).setStatus .sit) with hsame | hready
    · rw [hq, hsame]
      exact hexiting
    · rw [hq, hready]
      exact hexiting
  have hseat : (t.taken rc c p).seats c = some q := update_self ..
  have hst' : (t.taken rc c p).stage.state = .wait := hst
  have hexit : (t.taken rc c p).canExit c = true := by
    unfold canExit
    rw [hseat, hst', Option.any_some, hgam]
    rfl
  have hremoved : ((t.taken rc c p).offline c).seats = update (t.taken rc c p).seats c none := by
    unfold offline exit removePlayer
    rw [hseat]
    dsimp only
    rw [hgam, hqexiting, hexit]
    rfl
  rw [hremoved]
  change update (update t.seats c _) c none = _
  rw [update_idem, ← hfree, update_eq_self]

/-! ## Steps -/

theorem Frame.timerOutstanding (h : Frame t t') (ht : t.timerOutstanding = true) :
    t'.timerOutstanding = true := by
  unfold Table.timerOutstanding at ht ⊢
  rw [decide_eq_true_eq] at ht ⊢
  rw [h.stage]
  exact h.timers _ ht rfl

section

variable (h : Starts rc t)

include h

theorem Starts.aside (haside : Aside t t')
    (hfewer : t.waiting = true → canStartGame (t.readyPlayers rc) = false →
      canStartGame (t'.readyPlayers rc) = false) : Starts rc t' := by
  intro hst hcan
  by_cases htim : t.timerOutstanding = true
  · exact haside.toFrame.timerOutstanding htim
  · rw [haside.stage] at hst
    have hwait : t.waiting = true := by
      unfold waiting
      simp [hst, htim]
    have hcannot : canStartGame (t.readyPlayers rc) = false := by
      by_contra hstart
      exact htim (h hst (by simpa using hstart))
    rw [hfewer hwait hcannot] at hcan
    cases hcan

theorem Starts.dropped (hdrop : Dropped t t') (hall : t.waiting = true → oneTooMany rc t = true →
      ∀ d ∈ t.readyPlayers rc, t'.seats d = t.seats d) : Starts rc t' := by
  apply h.aside hdrop.aside
  intro hwait hcannot
  apply canStartGame_of_fewer hcannot hdrop.readyPlayers
  intro hmany d hd
  exact mem_readyPlayers_of_seats (hall hwait hmany d hd) hd

omit h in
theorem starts_tryEnterReady (u : Table n) (l : List (Fin n × Push n)) :
    Starts rc ((u.tryEnterReady rc).push l) := by
  rcases u.tryEnterReady_cases rc with ⟨hsame, hcannot⟩ | ⟨-, -, hent⟩
  · rw [hsame]
    intro hst hcan
    rw [show (u.push l).readyPlayers rc = u.readyPlayers rc from rfl, hcannot hst] at hcan
    cases hcan
  · rw [hent]
    intro hst
    cases hst

omit h in
theorem Starts.entered {s : StageID} (h : Entered u s t') : Starts rc t' := by
  intro _ _
  unfold timerOutstanding
  rw [decide_eq_true_eq]
  exact h.current

omit h in
theorem starts_of_state (h : t.stage.state ≠ .wait) : Starts rc t := fun hst => absurd hst h

theorem Starts.same (haside : Aside t t') (hsame : t'.readyPlayers rc = t.readyPlayers rc) : Starts rc t' := by
  apply h.aside haside
  intro _ hcannot
  rw [hsame]
  exact hcannot

/-- What the course of a game does to a table that could start one. -/
theorem Starts.of_change (hch : Change rc t e t') (he : e.isQuiet = true → e = .silent) : Starts rc t' := by
  cases hch with
  | aside quiet aside same => exact h.same aside (same (he quiet))
  | waited _ cannot =>
    intro _ hcan
    exact absurd (cannot.symm.trans hcan) (by decide)
  | readied _ _ _ enter | unready _ enter | dealt _ enter => exact .entered enter
  | started started => exact starts_of_state (by rw [started.state]; decide)
  | rolled rolled =>
    exact starts_of_state fun hwait => by
      have hgame := rolled.outcome.entered.1
      rw [hwait] at hgame
      cases hgame
  | moved _ outcome =>
    exact starts_of_state fun hwait => by
      have hgame := outcome.entered.1
      rw [hwait] at hgame
      cases hgame
  | won _ settled | drawn _ settled => exact starts_of_state (by rw [settled.state]; decide)
  | cleared _ cleared =>
    intro _ _
    unfold timerOutstanding
    rw [decide_eq_true_eq]
    exact cleared.timer

theorem Starts.seat {failed : Bool} (hstep : t.seat rc p lost failed = some t')
    (hcare : Careful rc t (.seated p lost failed)) : Starts rc t' := by
  obtain ⟨c, hfree, rfl⟩ := seat_cases hstep
  cases failed with
  | false =>
    rw [if_neg (by decide), ← push_nil (tryEnterReady rc _)]
    exact starts_tryEnterReady _ []
  | true =>
    rw [if_pos rfl]
    have hdropped := offlinePlayers_dropped ((t.taken rc c p).offline c) lost
    have haside : Aside t (((t.taken rc c p).offline c).offlinePlayers lost) :=
      ((taken_aside rc hfree).trans_dropped (offline_dropped _ c)).trans_dropped hdropped
    apply h.aside haside
    intro hwait hcannot
    have hst : t.stage.state = .wait := by
      unfold waiting at hwait
      rw [Bool.and_eq_true, decide_eq_true_eq] at hwait
      exact hwait.1
    obtain ⟨hexit, hlost⟩ := hcare hwait
    have hseats := taken_offline_seats rc hst hfree hexit
    have hready : ((t.taken rc c p).offline c).readyPlayers rc = t.readyPlayers rc := by
      rw [readyPlayers_eq, readyPlayers_eq, hseats]
    apply canStartGame_of_fewer hcannot
    · rw [← hready]
      exact hdropped.readyPlayers
    · intro hmany d hd
      apply mem_readyPlayers_of_seats _ hd
      rw [offlinePlayers_seats fun hmem => hlost hmany d hmem hd, hseats]

theorem Starts.ready {ready : Bool} (hinv : TableInv t)
    (hstep : t.ready rc c ready = some t') (hcare : Careful rc t (.ready c ready)) : Starts rc t' := by
  obtain ⟨p, l, hp, hst, rfl⟩ := ready_cases hstep
  cases ready with
  | true => exact starts_tryEnterReady _ l
  | false =>
    apply h.aside ((hinv.restatus_aside hst hp (by decide)).push l)
    intro hwait hcannot
    have hoth (d : Fin n) (hd : d ≠ c) : (t.modify c (·.setStatus .sit)).seats d = t.seats d := by
      rw [seats_modify, if_neg hd]
    apply canStartGame_of_fewer hcannot
    · intro d hd
      obtain ⟨q, hq, hready, hmoney⟩ := mem_readyPlayers.mp hd
      by_cases hdc : d = c
      · subst hdc
        change (t.modify d _).seats d = some q at hq
        rw [seats_modify, if_pos rfl, hp] at hq
        cases hq
        cases hready
      · exact mem_readyPlayers.mpr ⟨q, (hoth d hdc).symm.trans hq, hready, hmoney⟩
    · intro hmany d hd
      apply mem_readyPlayers_of_seats (hoth d fun hdc => ?_) hd
      exact hcare hwait hmany (hdc ▸ hd)

theorem Starts.removed (hstep : t.removePlayer c = some t') (hcare : Careful rc t (.left c)) : Starts rc t' := by
  apply h.dropped (removePlayer_dropped hstep)
  intro hwait hmany d hd
  exact removePlayer_seats hstep fun hdc => hcare hwait hmany (hdc ▸ hd)

end

/-! ## Events of timers -/

theorem moveEvent_loud (t : Table n) (c : Fin n) (req : MoveReq) : (t.moveEvent c req).isQuiet = false := by
  unfold moveEvent
  split <;> rfl

theorem onDiceTimeout_event {r : Roll} (h : (t.onDiceTimeout rc r).1.isQuiet = true) :
    (t.onDiceTimeout rc r).1 = .silent := by
  unfold onDiceTimeout at h ⊢
  split
  · rfl
  · rename_i c p hact
    rw [hact] at h
    dsimp only at h
    split
    · rfl
    · rename_i hgam
      rw [if_neg hgam] at h
      split
      · rfl
      · rename_i rsp u hroll
        rw [hroll] at h
        cases h

theorem onMoveTimeout_event (h : (t.onMoveTimeout rc).1.isQuiet = true) :
    (t.onMoveTimeout rc).1 = .silent := by
  unfold onMoveTimeout at h ⊢
  split
  · rename_i c p b hact hboard
    rw [hact, hboard] at h
    dsimp only at h ⊢
    split
    · rfl
    · rename_i hgam
      rw [if_neg hgam] at h
      split
      · rfl
      · rename_i hst
        rw [if_neg hst] at h
        split
        · rfl
        · rename_i hbest
          rw [if_neg hbest] at h
          split
          · rfl
          · rename_i rsp u hmove
            rw [hmove] at h
            dsimp only at h
            rw [moveEvent_loud] at h
            cases h
  · rfl

theorem handleStageTimeout_event {r : Roll} {deal : Deal n}
    (h : (t.handleStageTimeout rc r deal).1.isQuiet = true) :
    (t.handleStageTimeout rc r deal).1 = .silent := by
  unfold handleStageTimeout at h ⊢
  cases hst : t.stage.state with
  | ready =>
    rw [hst] at h
    dsimp only at h ⊢
    rw [startGame_eq hst] at h ⊢
    split
    · rename_i hcan
      rw [if_pos hcan] at h
      cases h
    · rfl
  | dice =>
    rw [hst] at h
    exact onDiceTimeout_event h
  | move =>
    rw [hst] at h
    exact onMoveTimeout_event h
  | _ => rfl

theorem Starts.step (h : Starts rc t) (hinv : TableInv t) (hstep : TableStep rc t e t')
    (hcare : Careful rc t e) : Starts rc t' := by
  have hch := hinv.change hstep
  cases hstep with
  | seat p lost failed step => exact h.seat step hcare
  | exit c step => exact h.removed (exit_removePlayer step) hcare
  | leave c step => exact h.removed step hcare
  | ready c ready step => exact h.ready hinv step hcare
  | offline c =>
    apply h.dropped (offline_dropped t c)
    intro hwait hmany d hd
    exact offline_seats fun hdc => hcare hwait hmany (hdc ▸ hd)
  | timer r deal state generation timers base step =>
    refine h.of_change hch fun hquiet => ?_
    unfold onStageTimer at step
    split at step
    · cases step
      rfl
    · have hevent : _ = e := congrArg Prod.fst step
      rw [← hevent] at hquiet ⊢
      exact handleStageTimeout_event hquiet
  | fastTimer generation timers step =>
    refine h.of_change hch fun hquiet => ?_
    unfold onFastTimer at step
    split at step
    · cases step
      rfl
    · cases step
      cases hquiet
  | rollDice => exact h.of_change hch nofun
  | movePiece =>
    refine h.of_change hch fun hquiet => ?_
    rw [moveEvent_loud] at hquiet
    cases hquiet
  | _ => exact h.of_change hch fun _ => rfl

/-! ## Runs -/

/-- A step in which nobody goes who is one too many. -/
def CarefulStep (rc : RoomConfig n) (t : Table n) (e : TableEvent n) (t' : Table n) : Prop :=
  TableStep rc t e t' ∧ Careful rc t e

/-- As long as nobody goes who is one too many, a table that could start a game has a timer that will
look at it. -/
theorem starts_while_careful (h : Reachable (· = new) (CarefulStep rc) t) : Starts rc t := by
  have hboth : TableInv t ∧ Starts rc t := by
    apply h.invariant (P := fun t => TableInv t ∧ Starts rc t)
    · intro t hnew
      subst hnew
      refine ⟨tableInv_new, fun _ hcan => ?_⟩
      have hnobody : (new (n := n)).readyPlayers rc = [] := by
        rw [readyPlayers_eq]
        exact List.filter_eq_nil_iff.mpr fun _ _ => nofun
      rw [hnobody] at hcan
      cases hcan
    · intro t e t' hstep ht
      exact ⟨ht.1.step hstep.1, ht.2.step ht.1 hstep.1 hstep.2⟩
  exact hboth.2

def drawnTwo : Table 2 := { startedTwo with fastTimers := [] }.settleGame houseRules none .none

def waitingTwo : Table 2 :=
  ({ drawnTwo with timers := [(StageID.sendCard, 2)] ++ [] }.onStageTimer houseRules three plain .result 3).2

/-- After a game of two. -/
theorem starts_while_careful_two :
    canStartGame (waitingTwo.readyPlayers houseRules) = true ∧ waitingTwo.timerOutstanding = true := by
  have hcan : canStartGame (waitingTwo.readyPlayers houseRules) = true := by decide +kernel
  have hone : CarefulStep houseRules new (.seated (guest 7) [] false) oneSeated :=
    ⟨seat_step (by decide +kernel), trivial⟩
  have htwo : CarefulStep houseRules oneSeated (.seated (guest 8) [] false) twoSeated :=
    ⟨seat_step (by decide +kernel), trivial⟩
  have hdrawn : CarefulStep houseRules startedTwo .drawn drawnTwo := by
    refine ⟨.fastTimer (a := []) (b := []) 1 (by decide +kernel) ?_, trivial⟩
    have hgen : startedTwo.gameGeneration = 1 := by decide +kernel
    unfold onFastTimer
    exact if_neg (not_not.mpr hgen)
  have hevent : ({ drawnTwo with timers := [(StageID.sendCard, 2)] ++ [] }.onStageTimer houseRules three plain
      .result 3).1 = .silent := by decide +kernel
  have hwait : CarefulStep houseRules drawnTwo .silent waitingTwo := by
    have hstep := timer_step houseRules (a := [(.sendCard, 2)]) (l := [])
      (show drawnTwo.timers = [(StageID.sendCard, 2)] ++ [(.result, 3)] by decide +kernel)
    rw [hevent] at hstep
    exact ⟨hstep, trivial⟩
  have hrch : Reachable (· = new) (CarefulStep houseRules) waitingTwo :=
    ⟨new, _, rfl, .cons hone (.cons htwo (.cons ⟨startedTwo_step, trivial⟩
      (.cons hdrawn (.single hwait))))⟩
  exact ⟨hcan, starts_while_careful hrch (by decide +kernel) hcan⟩

/-! ## A table that does not start -/

def threeRules : RoomConfig 3 := rulesOfHouse (by decide)

def seatThree (t : Table 3) (uid : Int) : Table 3 := (t.seat threeRules (guest uid) [] false).getD t

def threeSeated : Table 3 := seatThree (seatThree (seatThree new 7) 8) 9

def threeBack : Table 3 :=
  ({ threeSeated with timers := [] ++ [] }.onStageTimer threeRules three plain .ready 1).2

def threeWaiting : Table 3 :=
  ({ threeBack with timers := [] ++ [] }.onStageTimer threeRules three plain .wait 2).2

def twoLeft : Table 3 := (threeWaiting.exit (Fin.last 2)).getD threeWaiting

/-- When the third player has left, the other two wait for ever. -/
theorem startable_table_waits : Possible threeRules twoLeft ∧ ¬ Starts threeRules twoLeft := by
  constructor
  · have hone : TableStep threeRules new (.seated (guest 7) [] false) (seatThree new 7) :=
      seat_step (by decide +kernel)
    have htwo : TableStep threeRules (seatThree new 7) (.seated (guest 8) [] false)
        (seatThree (seatThree new 7) 8) := seat_step (by decide +kernel)
    have hthree : TableStep threeRules (seatThree (seatThree new 7) 8) (.seated (guest 9) [] false)
        threeSeated := seat_step (by decide +kernel)
    have hback := timer_step threeRules (a := []) (l := [])
      (show threeSeated.timers = [(.ready, 1)] by decide +kernel)
    have hwait := timer_step threeRules (a := []) (l := [])
      (show threeBack.timers = [(.wait, 2)] by decide +kernel)
    have hleft : TableStep threeRules threeWaiting (.left (Fin.last 2)) twoLeft := by
      obtain ⟨u, hu⟩ := Option.isSome_iff_exists.mp
        (show (threeWaiting.exit (Fin.last 2)).isSome = true by decide +kernel)
      unfold twoLeft
      rw [hu]
      exact .exit 2 hu
    exact ⟨new, _, rfl, .cons hone (.cons htwo (.cons hthree (.cons hback (.cons hwait (.single hleft)))))⟩
  · intro hstarts
    have htim := hstarts (by decide +kernel) (by decide +kernel)
    exact absurd htim (by decide +kernel)

end Table

end Yola.Ludo
