import Mathlib.Tactic.Ring
import Yola.Ludo.Progress

/-!
# Settlement

The stakes taken at the start of a game are paid out once: to whoever brings all pieces home, or back to
everybody when the time of the game is over.
-/

namespace Yola.Ludo

variable {p p' : Player} {n : Nat} {e : TableEvent n}

open Function Reasoning

def Player.account (p : Player) : Int × ℚ × Bool := (p.uid, p.money, p.isGaming)

theorem Player.account_of_core (h : p'.core = p.core) : p'.account = p.account :=
  eq_of_core account (fun _ => rfl) h

theorem Player.account_rolled (r : Roll) (timeout : Bool) (p : Player) :
    (p.rolled r timeout).account = p.account := by
  have hcore := account_of_core (p.rolled_core r timeout)
  exact hcore

theorem Player.account_moved (value : Int) (timeout : Bool) (p : Player) :
    (p.moved value timeout).account = p.account := by
  have hcore := account_of_core (p.moved_core value timeout)
  exact hcore

theorem SeatChange.account {stage : StageID} (h : SeatChange stage (some p) (some p')) :
    p'.uid = p.uid ∧ p'.money = p.money := by
  cases h with
  | drop drop =>
    cases drop with
    | kept core =>
      exact ⟨Player.eq_of_core Player.uid (fun _ => rfl) core,
        Player.eq_of_core Player.money (fun _ => rfl) core⟩
  | restatus s _ _ core =>
    have huid := Player.eq_of_core Player.uid (fun _ => rfl) core
    have hmoney := Player.eq_of_core Player.money (fun _ => rfl) core
    exact ⟨huid, hmoney⟩

def TableEvent.isSettlement {n : Nat} : TableEvent n → Bool
  | .won _ | .drawn => true
  | _ => false

def TableEvent.isStart {n : Nat} : TableEvent n → Bool
  | .started _ => true
  | _ => false

theorem TableEvent.isStart_of_isQuiet (h : e.isQuiet = true) : e.isStart = false := by
  cases e with
  | started => cases h
  | _ => rfl

theorem TableEvent.isSettlement_of_isQuiet (h : e.isQuiet = true) : e.isSettlement = false := by
  cases e with
  | won | drawn => cases h
  | _ => rfl

namespace Table

variable {n : Nat} {t t₀ t₁ t' u : Table n} {c d : Fin n} {p p' q : Player} {rc : RoomConfig n}
  {e : TableEvent n} {gamers : List (Fin n)} {ls : List (TableEvent n)} {b : Board} {timeout : Bool}

/-! ## Steps that settle nothing -/

theorem Outcome.account {bonus : Prop} (h : Outcome u c q b bonus t') (hq : u.seats c = some q)
    (hp : t.seats c = some p) (hsame : q.account = p.account)
    (hoth : ∀ d, d ≠ c → u.seats d = t.seats d) (d : Fin n) :
    (t'.seats d).map Player.account = (t.seats d).map Player.account := by
  by_cases hd : d = c
  · subst hd
    rw [hp, Option.map_some, ← hsame]
    rcases h.seats_self hq with hself | hself
    · rw [hself]
      rfl
    · rw [hself]
      rfl
  · rw [h.seats_of_ne hd, hoth d hd]

theorem Rolled.account {r : Roll} {dice : Int} (h : Rolled t r c timeout dice t' p b) (d : Fin n) :
    (t'.seats d).map Player.account = (t.seats d).map Player.account :=
  h.outcome.account (update_self ..) h.seat (p.account_rolled r timeout)
    (fun _ hd => update_of_ne hd ..) d

theorem Moves.account {req : MoveReq} {step : Step} {b' : Board} (h : Moves t c req p b step b')
    (hout : Outcome (t.afterPiece c (p.moved req.diceValue timeout) b') c
      (p.moved req.diceValue timeout) b' True t') (d : Fin n) :
    (t'.seats d).map Player.account = (t.seats d).map Player.account :=
  hout.account (update_self ..) h.seat (p.account_moved req.diceValue timeout)
    (fun _ hd => update_of_ne hd ..) d

section

variable (h : (t'.seats c).map Player.account = (t.seats c).map Player.account)

include h

theorem gaming_eq_of_account : t'.gaming c = t.gaming c := by
  have hany (o : Option Player) : o.any Player.isGaming = (o.map Player.account).any (·.2.2) := by
    cases o <;> rfl
  unfold gaming
  rw [hany, h, ← hany]

theorem account_of_map_eq
    (hp : t.seats c = some p) (hp' : t'.seats c = some p') : p'.uid = p.uid ∧ p'.money = p.money := by
  rw [hp, hp', Option.map_some, Option.map_some, Option.some_inj] at h
  exact ⟨congrArg Prod.fst h, congrArg (·.2.1) h⟩

end

theorem Change.account (h : Change rc t e t') (hstart : e.isStart = false)
    (hset : e.isSettlement = false) (hp : t.seats c = some p) (hp' : t'.seats c = some p') :
    p'.uid = p.uid ∧ p'.money = p.money := by
  cases h with
  | aside _ aside =>
    have hchange := aside.seats c
    rw [hp, hp'] at hchange
    exact hchange.account
  | waited =>
    rw [show t.seats c = some p' from hp'] at hp
    cases hp
    exact ⟨rfl, rfl⟩
  | readied _ aside _ enter =>
    have hchange := aside.seats c
    rw [← enter.seats, hp, hp'] at hchange
    exact hchange.account
  | unready _ enter | dealt _ enter => exact account_of_map_eq (by rw [enter.seats]) hp hp'
  | started => cases hstart
  | rolled rolled => exact account_of_map_eq (rolled.account c) hp hp'
  | moved moves outcome => exact account_of_map_eq (moves.account outcome c) hp hp'
  | won | drawn => cases hset
  | cleared _ cleared =>
    obtain ⟨p₀, hp₀, -, -, huid, hmoney⟩ := cleared.seats c p' hp'
    rw [hp] at hp₀
    cases hp₀
    exact ⟨huid, hmoney⟩

theorem Aside.gaming (h : Aside t t') (hgame : t.stage.state.inGame = true) (c : Fin n) :
    t'.gaming c = t.gaming c := by
  rw [Bool.eq_iff_iff, gaming_iff, gaming_iff]
  constructor
  · intro ⟨p', hp', hg⟩
    obtain ⟨p, hp, hpg, -⟩ := h.gamer_of hp' hg
    exact ⟨p, hp, hpg⟩
  · intro ⟨p, hp, hg⟩
    obtain ⟨p', hp', hcore⟩ := h.gamer hgame hp hg
    exact ⟨p', hp', (Player.isGaming_of_core hcore).trans hg⟩

/-- A game goes on with the same players until it is settled. -/
theorem Change.goesOn (h : Change rc t e t') (hgame : t.stage.state.inGame = true)
    (hset : e.isSettlement = false) :
    t'.stage.state.inGame = true ∧ ∀ c, t'.gaming c = t.gaming c := by
  have hnot (s : StageID) (hs : s.inGame = false) : t.stage.state ≠ s := by
    intro hst
    rw [hst, hs] at hgame
    cases hgame
  cases h with
  | aside _ aside =>
    rw [aside.stage]
    exact ⟨hgame, aside.gaming hgame⟩
  | waited stage => exact absurd stage (hnot .wait rfl)
  | readied _ aside stage =>
    rw [aside.stage] at stage
    exact absurd stage (hnot .wait rfl)
  | unready stage => exact absurd stage (hnot .ready rfl)
  | started started => exact absurd started.stage (hnot .ready rfl)
  | dealt _ enter =>
    rw [enter.state]
    exact ⟨rfl, fun c => gaming_eq_of_account (by rw [enter.seats])⟩
  | rolled rolled => exact ⟨rolled.outcome.entered.1, fun c => gaming_eq_of_account (rolled.account c)⟩
  | moved moves outcome =>
    exact ⟨outcome.entered.1, fun c => gaming_eq_of_account (moves.account outcome c)⟩
  | won | drawn => cases hset
  | cleared stage => exact absurd stage (hnot .result rfl)

/-! ## From the stakes to the payout -/

/-- A game goes on whose players have paid their stakes. -/
structure Staked (rc : RoomConfig n) (t₀ : Table n) (gamers : List (Fin n)) (t : Table n) : Prop where
  inv : TableInv t
  inGame : t.stage.state.inGame = true
  chairs : ∀ c, t.gaming c = true ↔ c ∈ gamers
  stakes : ∀ c ∈ gamers, ∃ p₀ p, t₀.seats c = some p₀ ∧ t.seats c = some p ∧ p.uid = p₀.uid ∧
    p.money = p₀.money - rc.baseMoney

theorem startPlayer_account (deal : Deal n) (p : Player) :
    (startPlayer rc deal c p).uid = p.uid ∧ (startPlayer rc deal c p).money = p.money - rc.baseMoney := by
  unfold startPlayer Player.initDicesSequence
  split <;> exact ⟨rfl, rfl⟩

theorem Started.gaming (h : Started rc t gamers t') (hnobody : NobodyGaming t) (c : Fin n) :
    t'.gaming c = true ↔ c ∈ gamers := by
  rw [gaming_iff]
  constructor
  · intro ⟨p, hp, hg⟩
    by_contra hc
    rw [h.others c hc] at hp
    rw [hnobody c p hp] at hg
    cases hg
  · intro hc
    obtain ⟨deal, p, -, -, hp⟩ := h.players c hc
    exact ⟨_, hp, startPlayer_gaming rc deal p⟩

theorem Staked.started (h : TableInv t) (hs : Started rc t gamers t') : Staked rc t gamers t' where
  inv := h.started hs
  inGame := by
    rw [hs.state]
    rfl
  chairs := hs.gaming (h.between (.inr hs.stage))
  stakes c hc := by
    obtain ⟨deal, p, -, hp, hstart⟩ := hs.players c hc
    exact ⟨p, _, hp, hstart, startPlayer_account deal p⟩

section

variable (h : Staked rc t₀ gamers t)

include h

theorem Staked.step (hstep : TableStep rc t e t') (hset : e.isSettlement = false) : Staked rc t₀ gamers t' := by
  have hch := h.inv.change hstep
  obtain ⟨hgame, hgam⟩ := hch.goesOn h.inGame hset
  have hstart : e.isStart = false := by
    cases hch with
    | started started =>
      have hbad := h.inGame
      rw [started.stage] at hbad
      cases hbad
    | aside quiet | readied quiet => exact TableEvent.isStart_of_isQuiet quiet
    | _ => rfl
  refine ⟨h.inv.step hstep, hgame, fun c => by rw [hgam, h.chairs], fun c hc => ?_⟩
  obtain ⟨p₀, p, hp₀, hp, huid, hmoney⟩ := h.stakes c hc
  have hstill : t'.gaming c = true := by rw [hgam, h.chairs]; exact hc
  obtain ⟨p', hp', -⟩ := gaming_iff.mp hstill
  obtain ⟨huid', hmoney'⟩ := hch.account hstart hset hp hp'
  exact ⟨p₀, p', hp₀, hp', huid'.trans huid, hmoney'.trans hmoney⟩

omit h in
theorem Staked.run (h : Staked rc t₀ gamers t₁) (hrun : Run (TableStep rc) t₁ ls t)
    (hset : ∀ e ∈ ls, e.isSettlement = false) : Staked rc t₀ gamers t :=
  hrun.preserves (fun _ e _ he hstep hs => hs.step hstep (hset e he)) h

theorem Staked.losers (hnd : gamers.Nodup) (hc : c ∈ gamers) : t.losers c + 1 = gamers.length := by
  have hperm : ((List.finRange n).filter fun d => t.gaming d && d ≠ c).Perm (gamers.erase c) := by
    apply (List.perm_ext_iff_of_nodup ((List.nodup_finRange n).filter _) (hnd.erase c)).mpr
    intro d
    rw [hnd.mem_erase_iff]
    simp only [List.mem_filter, List.mem_finRange, true_and, Bool.and_eq_true, decide_eq_true_eq,
      h.chairs, and_comm]
  rw [losers_eq, hperm.length_eq, List.length_erase_of_mem hc]
  have hpos := List.length_pos_of_mem hc
  omega

theorem Staked.won {w : Fin n} (hnd : gamers.Nodup) (hstep : TableStep rc t (.won w) t') :
    w ∈ gamers ∧ ∀ c ∈ gamers, ∃ p₀ p, t₀.seats c = some p₀ ∧ t'.seats c = some p ∧ p.uid = p₀.uid ∧
      p.money = if c = w then p₀.money + (gamers.length - 1) * rc.baseMoney * (1 - rc.fee)
        else p₀.money - rc.baseMoney := by
  cases h.inv.change hstep with
  | aside quiet | readied quiet => cases quiet
  | @won _ req timeout _ _ _ _ _ moves settled =>
    have hw : w ∈ gamers := (h.chairs w).mp (gaming_iff.mpr ⟨_, moves.seat, moves.gaming⟩)
    have hlosers : (t.losers w : ℚ) = gamers.length - 1 := by
      rw [← h.losers hnd hw]
      push_cast
      ring
    refine ⟨hw, fun c hc => ?_⟩
    obtain ⟨p₀, p, hp₀, hp, huid, hmoney⟩ := h.stakes c hc
    refine ⟨p₀, payWinner rc t w req.diceValue timeout c p, hp₀, ?_, ?_⟩
    · rw [settled.seats, hp]
      rfl
    · have haccount := p.account_moved req.diceValue timeout
      unfold payWinner
      split
      · refine ⟨(congrArg Prod.fst haccount).trans huid, ?_⟩
        change (p.moved req.diceValue timeout).money + payout rc (t.losers w) = _
        rw [show (p.moved req.diceValue timeout).money = p.money from congrArg (·.2.1) haccount, hmoney,
          payout, hlosers]
        ring
      · exact ⟨huid, hmoney⟩

theorem Staked.drawn (hstep : TableStep rc t .drawn t') :
    ∀ c ∈ gamers, ∃ p₀ p, t₀.seats c = some p₀ ∧ t'.seats c = some p ∧ p.uid = p₀.uid ∧ p.money = p₀.money := by
  cases h.inv.change hstep with
  | aside quiet | readied quiet => cases quiet
  | drawn _ settled =>
    intro c hc
    obtain ⟨p₀, p, hp₀, hp, huid, hmoney⟩ := h.stakes c hc
    obtain ⟨q, hq, hg⟩ := gaming_iff.mp ((h.chairs c).mpr hc)
    rw [hp] at hq
    cases hq
    refine ⟨p₀, p.addMoney rc.baseMoney, hp₀, ?_, huid, ?_⟩
    · rw [settled.seats, hp, Option.map_some, refund, if_pos hg]
    · change p.money + rc.baseMoney = p₀.money
      rw [hmoney]
      ring

end

/-! ## Once at most -/

theorem Change.settles (h : Change rc t e t') (hinv : TableInv t) (hset : e.isSettlement = true) :
    t.stage.state.inGame = true ∧ t'.stage.state.inGame = false := by
  cases h with
  | aside quiet | readied quiet =>
    rw [TableEvent.isSettlement_of_isQuiet quiet] at hset
    cases hset
  | won moves settled =>
    rw [moves.stage, settled.state]
    exact ⟨rfl, rfl⟩
  | drawn outstanding settled =>
    rw [settled.state]
    refine ⟨?_, rfl⟩
    by_contra hgame
    exact hinv.deadline (Bool.not_eq_true _ ▸ hgame) outstanding
  | _ => cases hset

theorem Change.rests (h : Change rc t e t') (hgame : t.stage.state.inGame = false)
    (hstart : e.isStart = false) (hset : e.isSettlement = false) : t'.stage.state.inGame = false := by
  have hnot (s : StageID) (hs : s.inGame = true) : t.stage.state ≠ s := by
    intro hst
    rw [hst, hs] at hgame
    cases hgame
  cases h with
  | aside _ aside =>
    rw [aside.stage]
    exact hgame
  | waited => exact hgame
  | readied _ _ _ enter | unready _ enter =>
    rw [enter.state]
    rfl
  | started => cases hstart
  | dealt stage => exact absurd stage (hnot .sendCard rfl)
  | rolled rolled => exact absurd rolled.stage (hnot .dice rfl)
  | moved moves => exact absurd moves.stage (hnot .move rfl)
  | won | drawn => cases hset
  | cleared _ cleared =>
    rw [cleared.state]
    rfl

theorem TableInv.isSettlement_step (h : TableInv t) (hstep : TableStep rc t e t')
    (hstart : e.isStart = false) :
    e.isSettlement.toNat + t'.stage.state.inGame.toNat ≤ t.stage.state.inGame.toNat := by
  have hch := h.change hstep
  cases hset : e.isSettlement with
  | true =>
    obtain ⟨hbef, hafter⟩ := hch.settles h hset
    rw [hbef, hafter]
    exact Nat.le_refl 1
  | false =>
    cases hgame : t.stage.state.inGame with
    | true =>
      have hone := Bool.toNat_le t'.stage.state.inGame
      rw [Bool.toNat_false, Bool.toNat_true]
      omega
    | false =>
      rw [hch.rests hgame hstart hset]
      exact Nat.le_refl 0

def StakedOrOver (rc : RoomConfig n) (t₀ : Table n) (gamers : List (Fin n)) (t : Table n) : Prop :=
  Staked rc t₀ gamers t ∨ TableInv t ∧ t.stage.state.inGame = false

section

variable (h : StakedOrOver rc t₀ gamers t)

include h

theorem StakedOrOver.inv : TableInv t := by
  rcases h with h | h
  · exact h.inv
  · exact h.1

theorem StakedOrOver.step (hstep : TableStep rc t e t')
    (hstart : e.isStart = false) : StakedOrOver rc t₀ gamers t' := by
  have hch := h.inv.change hstep
  have hinv := h.inv.step hstep
  cases hset : e.isSettlement with
  | true => exact .inr ⟨hinv, (hch.settles h.inv hset).2⟩
  | false =>
    rcases h with h | ⟨-, hgame⟩
    · exact .inl (h.step hstep hset)
    · exact .inr ⟨hinv, hch.rests hgame hstart hset⟩

/-- Money changes only at a settlement, and only that of players of the game. -/
theorem StakedOrOver.account (hstep : TableStep rc t e t')
    (hstart : e.isStart = false) (hp : t.seats c = some p) (hp' : t'.seats c = some p') :
    p'.uid = p.uid ∧ (p'.money ≠ p.money → c ∈ gamers ∧ e.isSettlement = true) := by
  have hch := h.inv.change hstep
  cases hset : e.isSettlement with
  | false =>
    obtain ⟨huid, hmoney⟩ := hch.account hstart hset hp hp'
    exact ⟨huid, absurd hmoney⟩
  | true =>
    have hgame := (hch.settles h.inv hset).1
    rcases h with h | ⟨-, hover⟩
    · cases hch with
      | aside quiet | readied quiet =>
        rw [TableEvent.isSettlement_of_isQuiet quiet] at hset
        cases hset
      | @won w req timeout _ _ _ _ _ moves settled =>
        rw [settled.seats, hp, Option.map_some, Option.some_inj] at hp'
        subst hp'
        have haccount := p.account_moved req.diceValue timeout
        unfold payWinner
        split
        · rename_i hcw
          subst hcw
          refine ⟨congrArg Prod.fst haccount, fun _ => ⟨?_, rfl⟩⟩
          exact (h.chairs c).mp (gaming_iff.mpr ⟨_, moves.seat, moves.gaming⟩)
        · exact ⟨rfl, absurd rfl⟩
      | drawn _ settled =>
        rw [settled.seats, hp, Option.map_some, Option.some_inj] at hp'
        subst hp'
        unfold refund
        split
        · rename_i hg
          exact ⟨rfl, fun _ => ⟨(h.chairs c).mp (gaming_iff.mpr ⟨p, hp, hg⟩), rfl⟩⟩
        · exact ⟨rfl, absurd rfl⟩
      | _ => cases hset
    · rw [hgame] at hover
      cases hover

end

/-- A game that has started is settled once at most.  If somebody wins it they are up by the stakes of
the others less the fee, and the others have lost their stake; if its time is over everybody has what
they had.  Nobody else's money changes, at the start or until the next one. -/
theorem settlement_conserves (hpossible : Possible rc t₀) (hstart : TableStep rc t₀ (.started gamers) t₁) :
    (∀ ls t, Run (TableStep rc) t₁ ls t → (∀ e ∈ ls, e.isStart = false) →
      ls.countP TableEvent.isSettlement ≤ 1) ∧
    (∀ ls t w t', Run (TableStep rc) t₁ ls t → (∀ e ∈ ls, e.isSettlement = false) →
      TableStep rc t (.won w) t' →
        w ∈ gamers ∧ ∀ c ∈ gamers, ∃ p₀ p, t₀.seats c = some p₀ ∧ t'.seats c = some p ∧ p.uid = p₀.uid ∧
          p.money = if c = w then p₀.money + (gamers.length - 1) * rc.baseMoney * (1 - rc.fee)
            else p₀.money - rc.baseMoney) ∧
    (∀ ls t t', Run (TableStep rc) t₁ ls t → (∀ e ∈ ls, e.isSettlement = false) →
      TableStep rc t .drawn t' →
        ∀ c ∈ gamers, ∃ p₀ p, t₀.seats c = some p₀ ∧ t'.seats c = some p ∧ p.uid = p₀.uid ∧
          p.money = p₀.money) ∧
    (∀ c, c ∉ gamers → t₁.seats c = t₀.seats c) ∧
    ∀ ls t e t', Run (TableStep rc) t₁ ls t → (∀ e ∈ ls, e.isStart = false) → e.isStart = false →
      TableStep rc t e t' → ∀ c p p', t.seats c = some p → t'.seats c = some p' →
        p'.uid = p.uid ∧ (p'.money ≠ p.money → c ∈ gamers ∧ e.isSettlement = true) := by
  have hinv := hpossible.inv
  have hstarted : Started rc t₀ gamers t₁ := by
    cases hinv.change hstart with
    | aside quiet | readied quiet => cases quiet
    | started started => exact started
  have hnd : gamers.Nodup := by
    rw [hstarted.ready]
    exact t₀.readyPlayers_nodup rc
  have hstaked := Staked.started hinv hstarted
  refine ⟨?_, ?_, ?_, hstarted.others, ?_⟩
  · intro ls t hrun hsame
    have hcount := hrun.countP_le (P := TableInv) (p := TableEvent.isSettlement)
      (μ := fun t => t.stage.state.inGame.toNat) (hinv.step hstart)
      fun s l u hl hs hstep => ⟨hs.step hstep, hs.isSettlement_step hstep (hsame l hl)⟩
    have hone := Bool.toNat_le t₁.stage.state.inGame
    omega
  · intro ls t w t' hrun huns hwon
    exact (hstaked.run hrun huns).won hnd hwon
  · intro ls t t' hrun huns hdrawn
    exact (hstaked.run hrun huns).drawn hdrawn
  · intro ls t e t' hrun hsame hoth hstep c p p' hp hp'
    have hover : StakedOrOver rc t₀ gamers t :=
      hrun.preserves (fun _ e _ he hstep hs => hs.step hstep (hsame e he)) (.inl hstaked)
    exact hover.account hstep hoth hp hp'

theorem settlement_conserves_two : ∃ t', TableStep houseRules startedTwo .drawn t' ∧
    ∀ c ∈ [0, 1], ∃ p₀ p, twoSeated.seats c = some p₀ ∧ t'.seats c = some p ∧ p.uid = p₀.uid ∧
      p.money = p₀.money := by
  have hgen : startedTwo.gameGeneration = 1 := by decide +kernel
  have hstep : TableStep houseRules startedTwo .drawn
      ({ startedTwo with fastTimers := [] }.settleGame houseRules none .none) := by
    refine .fastTimer (a := []) (b := []) 1 (by decide +kernel) ?_
    unfold onFastTimer
    exact if_neg (not_not.mpr hgen)
  refine ⟨_, hstep, ?_⟩
  exact (settlement_conserves twoSeated_possible startedTwo_step).2.2.1 [] _ _ (.nil _)
    (fun _ h => (List.not_mem_nil h).elim) hstep

end Table

end Yola.Ludo
