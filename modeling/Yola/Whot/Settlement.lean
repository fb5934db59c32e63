import Mathlib.Algebra.Order.BigOperators.Group.List
import Mathlib.Tactic.Ring
import Yola.Whot.Accounting

/-!
# Settlement

The stakes taken at the start are paid out once, when the timer of the last stage of a game comes.  The
winner is found again from the hands.
-/

namespace Yola.Whot

open Reasoning

namespace Table

variable {n : Nat} {t t₀ t₁ t' : Table n} {c d : Fin n} {p : Player} {rc : RoomConfig}
  {e : TableEvent n} {gamers : List (Fin n)} {ls : List (TableEvent n)} {w : Fin n} {lost played : List Card}

def money (t : Table n) (c : Fin n) : ℚ := ((t.seats c).map Player.money).getD 0

def handScore (t : Table n) (c : Fin n) : Int := ((t.seats c).map Player.getHandScore).getD 0

theorem money_eq (hp : t.seats c = some p) : t.money c = p.money := by
  unfold money
  rw [hp]
  rfl

theorem handScore_eq (hp : t.seats c = some p) : t.handScore c = p.getHandScore := by
  unfold handScore
  rw [hp]
  rfl

/-! ## The winner -/

theorem foldl_pickWinner (l : List (Fin n × Player)) (w : Fin n × Player) :
    ∃ v ∈ w :: l, l.foldl pickWinner (some w) = some v ∧
      ∀ x ∈ w :: l, v.2.getHandScore ≤ x.2.getHandScore := by
  induction l generalizing w with
  | nil =>
    refine ⟨w, List.mem_cons_self, rfl, fun x hx => ?_⟩
    rw [List.mem_singleton.mp hx]
  | cons p rest ih =>
    rw [List.foldl_cons]
    unfold pickWinner
    dsimp only
    split
    · rename_i hless
      obtain ⟨v, hv, hfold, hmin⟩ := ih p
      refine ⟨v, List.mem_cons_of_mem _ hv, hfold, fun x hx => ?_⟩
      rcases List.mem_cons.mp hx with rfl | hx
      · exact (hmin p List.mem_cons_self).trans hless.le
      · exact hmin x hx
    · rename_i hmore
      obtain ⟨v, hv, hfold, hmin⟩ := ih w
      refine ⟨v, ?_, hfold, fun x hx => ?_⟩
      · rcases List.mem_cons.mp hv with rfl | hv
        · exact List.mem_cons_self
        · exact List.mem_cons_of_mem _ (List.mem_cons_of_mem _ hv)
      · rcases List.mem_cons.mp hx with rfl | hx
        · exact hmin x List.mem_cons_self
        · rcases List.mem_cons.mp hx with rfl | hx
          · exact (hmin w List.mem_cons_self).trans (not_lt.mp hmore)
          · exact hmin x (List.mem_cons_of_mem _ hx)

theorem exists_winner (hgamers : t.getGamers ≠ []) :
    ∃ w ∈ t.getGamers, t.getGamers.foldl pickWinner none = some w ∧
      ∀ x ∈ t.getGamers, w.2.getHandScore ≤ x.2.getHandScore := by
  cases hlist : t.getGamers with
  | nil => exact absurd hlist hgamers
  | cons p rest => exact foldl_pickWinner rest p

theorem getGamers_uids_nodup (h : DistinctIds t) : (t.getGamers.map (·.2.uid)).Nodup := by
  have hchairs : (t.getGamers.map Prod.fst).Nodup :=
    (List.filter_sublist.map _).nodup t.seated_chairs_nodup
  refine List.Nodup.map_on ?_ hchairs.of_map
  rintro ⟨c, p⟩ hp ⟨d, q⟩ hq huid
  have hpc := (mem_getGamers.mp hp).1
  have hqd := (mem_getGamers.mp hq).1
  obtain rfl := h c d p q hpc hqd huid
  rw [hpc] at hqd
  cases hqd
  rfl

theorem length_losers {w : Fin n × Player} (h : DistinctIds t) (hw : w ∈ t.getGamers) :
    (t.getGamers.filter fun p => p.2.uid ≠ w.2.uid).length + 1 = t.getGamers.length := by
  have hone : t.getGamers.countP (fun p => p.2.uid = w.2.uid) = 1 := by
    have hcnt := List.count_eq_one_of_mem (getGamers_uids_nodup h)
      (List.mem_map.mpr ⟨w, hw, rfl⟩ : w.2.uid ∈ t.getGamers.map (·.2.uid))
    rw [List.count, List.countP_map] at hcnt
    rw [← hcnt]
    congr 1
  have hsplit := List.length_eq_countP_add_countP (fun p : Fin n × Player => decide (p.2.uid = w.2.uid))
    (l := t.getGamers)
  rw [hone] at hsplit
  rw [← List.countP_eq_length_filter]
  simp only [decide_not, decide_eq_true_eq] at hsplit ⊢
  omega

/-! ## The payout -/

/-- What a winner gets of a game of `k`. -/
def payout (rc : RoomConfig) (k : Nat) : ℚ :=
  rc.baseMoney + (k - 1) * rc.baseMoney - (k - 1) * rc.baseMoney * rc.fee

theorem settle_spec (hids : DistinctIds t) (hgamers : t.getGamers ≠ []) (hbase : 0 ≤ rc.baseMoney)
    (hfee : 0 ≤ rc.fee) (hfee' : rc.fee ≤ 1) :
    ∃ w ∈ t.getGamers, (∀ x ∈ t.getGamers, w.2.getHandScore ≤ x.2.getHandScore) ∧
      (t.settle rc).1.map (·.winner.1) = some w.1 ∧
      (t.settle rc).2 = t.modify w.1 (·.addMoney (payout rc t.getGamers.length)) := by
  obtain ⟨w, hw, hfold, hmin⟩ := exists_winner hgamers
  refine ⟨w, hw, hmin, ?_⟩
  have hlosers := length_losers hids hw
  have hval : ¬ (rc.baseMoney < 0 || rc.fee < 0 || 1 < rc.fee) = true := by
    simp only [Bool.or_eq_true, decide_eq_true_eq, not_or, not_lt]
    exact ⟨⟨hbase, hfee⟩, hfee'⟩
  unfold settle
  rw [hfold]
  dsimp only
  unfold settleScores
  rw [if_neg (by rwa [List.length_eq_zero_iff]), if_neg hval]
  refine ⟨rfl, ?_⟩
  dsimp only
  have hcnt : ((t.getGamers.filter fun p => p.2.uid ≠ w.2.uid).length : ℚ) = t.getGamers.length - 1 := by
    rw [← hlosers]
    push_cast
    ring
  rw [hcnt]
  rfl

/-! ## From the stakes to the payout -/

/-- A game goes on whose players have paid their stakes. -/
structure Staked (rc : RoomConfig) (t₀ : Table n) (gamers : List (Fin n)) (t : Table n) : Prop where
  inv : TableInv t
  inGame : t.stage.state.inGame = true
  chairs : ∀ c, t.gaming c = true ↔ c ∈ gamers
  stakes : ∀ c ∈ gamers, t.money c = t₀.money c - rc.baseMoney

theorem money_of_gamer (hc : t.gaming c = true) : t.money c = ((t.gamer c).map Player.money).getD 0 := by
  obtain ⟨p, hp, hg⟩ := gaming_iff.mp hc
  rw [money_eq hp, gamer_eq hp hg]
  rfl

theorem Aside.money (h : Aside t t') (hc : t.gaming c = true) : t'.money c = t.money c := by
  rw [money_of_gamer hc, money_of_gamer ((h.gaming c).trans hc), h.gamer]

theorem money_of_blank (t : Table n) (c : Fin n) : t.money c = ((t.blank c).map Player.money).getD 0 := by
  unfold money blank
  rw [Option.map_map]
  rfl

theorem Staked.started (h : TableInv t) (hst : t.stage.state = .ready)
    (hs : Started rc t gamers t') : Staked rc t gamers t' := by
  refine ⟨.started h.toGameInv hst hs, by rw [hs.state]; rfl,
    fun c => hs.gaming (h.between (by rw [hst]; rfl)).1, fun c hc => ?_⟩
  obtain ⟨p, hp, hblank⟩ := hs.players c hc
  rw [money_of_blank, hblank, money_eq hp]
  rfl

theorem Staked.step (h : Staked rc t₀ gamers t) (hstep : TableStep rc t e t')
    (huns : ∀ w, e ≠ .settled w) : Staked rc t₀ gamers t' := by
  obtain ⟨hinv, hch⟩ := h.inv.step hstep
  have hgame := h.inGame
  cases hch with
  | aside aside =>
    refine ⟨hinv, by rw [aside.stage]; exact hgame, fun c => ?_, fun c hc => ?_⟩
    · rw [aside.gaming]
      exact h.chairs c
    · rw [aside.money ((h.chairs c).mpr hc)]
      exact h.stakes c hc
  | between old =>
    rw [hgame] at old
    cases old
  | started stage =>
    rw [stage] at hgame
    cases hgame
  | dealt => exact ⟨hinv, rfl, h.chairs, h.stakes⟩
  | acted stage acted =>
    refine ⟨hinv, ?_, fun c => ?_, fun c hc => ?_⟩
    · cases acted.outcome with
      | goesOn stage | gameOver stage => rw [stage]; rfl
    · rw [gaming_eq_of_blank (acted.blank c)]
      exact h.chairs c
    · rw [money_of_blank, acted.blank, ← money_of_blank]
      exact h.stakes c hc
  | settled => exact absurd rfl (huns _)

theorem Staked.run (h : Staked rc t₀ gamers t₁) (hrun : Run (TableStep rc) t₁ ls t)
    (huns : ∀ e ∈ ls, ∀ w, e ≠ .settled w) : Staked rc t₀ gamers t :=
  hrun.preserves (fun _ e _ he hstep hs => hs.step hstep (huns e he)) h

theorem gameEnd_money {x : ℚ} (hset : (t.settle rc).2 = t.modify w (·.addMoney x))
    (hc : t.gaming c = true) : (t.gameEnd rc).2.money c = if c = w then t.money c + x else t.money c := by
  obtain ⟨u, haside, hreset⟩ := t.gameEnd_aside rc
  have hkeep : u.reset.money c = u.money c := by
    change (((u.seats c).map Player.reset).map Player.money).getD 0 = _
    rw [Option.map_map]
    rfl
  obtain ⟨p, hp, hg⟩ := gaming_iff.mp hc
  have hseat : (t.settle rc).2.seats c = some (if c = w then p.addMoney x else p) := by
    rw [hset, seats_modify]
    split
    · rename_i hcw
      rw [← hcw, hp]
      rfl
    · exact hp
  have hgam : (t.settle rc).2.gaming c = true := by
    refine gaming_iff.mpr ⟨_, hseat, ?_⟩
    split
    · exact hg
    · exact hg
  rw [hreset, hkeep, haside.money hgam]
  change (t.settle rc).2.money c = _
  rw [money_eq hseat, money_eq hp]
  split <;> rfl

theorem sum_map_sub_const (l : List (Fin n)) (f : Fin n → ℚ) (b : ℚ) :
    (l.map fun c => f c - b).sum = (l.map f).sum - l.length * b := by
  induction l with
  | nil => simp
  | cons c rest ih =>
    rw [List.map_cons, List.sum_cons, ih, List.map_cons, List.sum_cons, List.length_cons]
    push_cast
    ring

/-- All stakes less the fee on those of the losers come back. -/
theorem sum_settled {after : Fin n → ℚ} (hnd : gamers.Nodup) (hw : w ∈ gamers)
    (hafter : ∀ c ∈ gamers, after c =
      if c = w then t.money c - rc.baseMoney + payout rc gamers.length else t.money c - rc.baseMoney) :
    (gamers.map after).sum = (gamers.map t.money).sum - rc.fee * rc.baseMoney * (gamers.length - 1) := by
  rw [List.map_congr_left hafter, List.sum_map_ite_eq, List.count_eq_one_of_mem hnd hw,
    sum_map_sub_const, payout]
  rw [one_nsmul]
  ring

/-! ## Empty hands -/

theorem mem_oneDeck {card : Card} (h : Accounted t played lost) (hcard : card ∈ t.hand c) : card ∈ oneDeck := by
  have hhand : card ∈ t.inHands := Multiset.mem_sum.mpr ⟨c, Finset.mem_univ c, hcard⟩
  have hall : card ∈ (oneDeck : Multiset Card) := by
    rw [← h.cards]
    simp only [Multiset.mem_add, hhand, true_or]
  exact hall

theorem oneDeck_number_pos : ∀ card ∈ oneDeck, 0 < card.tmod 100 := by decide

theorem handScore_pos (h : Accounted t played lost) (hhand : t.hand c ≠ []) : 0 < t.handScore c := by
  have hscore : t.handScore c = ((t.hand c).map (·.tmod 100)).sum := by
    unfold handScore hand
    cases t.seats c <;> rfl
  rw [hscore]
  refine List.sum_pos _ ?_ (by simpa using hhand)
  intro x hx
  obtain ⟨card, hcard, rfl⟩ := List.mem_map.mp hx
  exact oneDeck_number_pos card (mem_oneDeck h hcard)

/-! ## Settlement -/

def isSettled : TableEvent n → Bool
  | .settled _ => true
  | _ => false

theorem TableInv.isSettled_step (h : TableInv t) (hstep : TableStep rc t e t')
    (hsame : ∀ gs, e ≠ .started gs) :
    (isSettled e).toNat + t'.stage.state.inGame.toNat ≤ t.stage.state.inGame.toNat := by
  cases (h.step hstep).2 with
  | aside aside => simp [isSettled, aside.stage]
  | between _ new => simp [isSettled, new]
  | started => exact absurd rfl (hsame _)
  | dealt l stage => rw [stage]; exact Nat.le_refl 1
  | acted stage acted =>
    rw [stage]
    cases acted.outcome with
    | goesOn stage | gameOver stage => rw [stage]; exact Nat.le_refl 1
  | settled l stage settled =>
    have hended := gameEnd_stage { t with timers := l } rc
    rw [settled] at hended
    rw [hended, stage]
    exact Nat.le_refl 1

theorem Staked.empty_hand_wins (h : Staked rc t₀ gamers t)
    (hacct : Accounted t played lost) (hst : t.stage.state = .waitEnd) (hw : w ∈ gamers)
    (hmin : ∀ c ∈ gamers, t.handScore w ≤ t.handScore c) (hc : c ∈ gamers) (hhand : t.hand c = []) : c = w := by
  obtain ⟨last, hoths⟩ := h.inv.gameOver hst
  have hlast : c = last := by
    by_contra hne
    exact hoths c hne ((h.chairs c).mpr hc) hhand
  by_contra hne
  have hpos := handScore_pos hacct
    (hoths w (fun heq => hne (hlast.trans heq.symm)) ((h.chairs w).mpr hw))
  have hzero : t.handScore c = 0 := by
    obtain ⟨p, hp, -⟩ := gaming_iff.mp ((h.chairs c).mpr hc)
    rw [hand_eq hp] at hhand
    rw [handScore_eq hp, Player.getHandScore, hhand]
    rfl
  have hle := hmin c hc
  omega

/-- A game that has started is settled once at most.  When it is, the winner has a lowest score, and it is
whoever has no cards left; the others have lost their stake, and all that is missing is the fee. -/
theorem settlement (hpossible : Possible rc t₀) (hbase : 0 ≤ rc.baseMoney) (hfee : 0 ≤ rc.fee)
    (hfee' : rc.fee ≤ 1) (hstart : TableStep rc t₀ (.started gamers) t₁) :
    (∀ ls t, Run (TableStep rc) t₁ ls t → (∀ e ∈ ls, ∀ gs, e ≠ .started gs) → ls.countP isSettled ≤ 1) ∧
    ∀ ls t winner t', Run (TableStep rc) t₁ ls t → (∀ e ∈ ls, ∀ w, e ≠ .settled w) →
      TableStep rc t (.settled winner) t' →
        (gamers.map t'.money).sum = (gamers.map t₀.money).sum - rc.fee * rc.baseMoney * (gamers.length - 1) ∧
        ∃ w ∈ gamers, winner = some w ∧ (∀ c ∈ gamers, c ≠ w → t'.money c = t₀.money c - rc.baseMoney) ∧
          (∀ c ∈ gamers, t.handScore w ≤ t.handScore c) ∧ ∀ c ∈ gamers, t.hand c = [] → c = w := by
  have hinv := hpossible.inv
  constructor
  · intro ls t hrun hsame
    have hcnt := hrun.countP_le (P := TableInv) (p := isSettled)
      (μ := fun t => t.stage.state.inGame.toNat) (hinv.step hstart).1
      fun s l u hl hs hstep => ⟨(hs.step hstep).1, hs.isSettled_step hstep (hsame l hl)⟩
    have hone := Bool.toNat_le t₁.stage.state.inGame
    omega
  · intro ls t winner t' hrun huns hstep
    obtain ⟨lost, hacct⟩ := (accounted_of_start hpossible hstart).exists_lost hrun huns
    cases (hinv.step hstart).2 with
    | started stage started =>
      have hstaked := (Staked.started hinv stage started).run hrun huns
      have hlength := (getGamers_chairs_perm started.nodup hstaked.chairs).length_eq
      rw [List.length_map] at hlength
      cases (hstaked.inv.step hstep).2 with
      | settled l hst hend =>
        have hmany : t.getGamers ≠ [] := by
          intro hnil
          rw [hnil, List.length_nil] at hlength
          have htwo := started.many
          omega
        obtain ⟨⟨w, p⟩, hw, hmin, hwinner, hset⟩ :=
          settle_spec (t := { t with timers := l }) hstaked.inv.uids hmany hbase hfee hfee'
        obtain ⟨hp, hg⟩ : t.seats w = some p ∧ p.isGaming = true := mem_getGamers.mp hw
        have hin : w ∈ gamers := (hstaked.chairs w).mp (gaming_iff.mpr ⟨p, hp, hg⟩)
        have hafter (c : Fin n) (hc : c ∈ gamers) : t'.money c =
            if c = w then t₀.money c - rc.baseMoney + payout rc gamers.length
            else t₀.money c - rc.baseMoney := by
          have hmoney := gameEnd_money hset ((hstaked.chairs c).mpr hc)
          rw [hend] at hmoney
          rw [← hstaked.stakes c hc, ← hlength]
          exact hmoney
        have hlowest (c : Fin n) (hc : c ∈ gamers) : t.handScore w ≤ t.handScore c := by
          obtain ⟨q, hq, hqg⟩ := gaming_iff.mp ((hstaked.chairs c).mpr hc)
          rw [handScore_eq hp, handScore_eq hq]
          exact hmin (c, q) (mem_getGamers.mpr ⟨hq, hqg⟩)
        refine ⟨sum_settled started.nodup hin hafter, w, hin, ?_, fun c hc hne => ?_, hlowest,
          fun c hc => hstaked.empty_hand_wins hacct hst hin hlowest hc⟩
        · have hevent := congrArg Prod.fst hend
          exact (TableEvent.settled.inj hevent).symm.trans hwinner
        · rw [hafter c hc, if_neg hne]

theorem two_are_settled : ∃ ls t c p winner t', Run (TableStep houseRules) dealtTwo ls t ∧
    (∀ e ∈ ls, ∀ w, e ≠ .settled w) ∧ t.seats c = some p ∧ TableStep houseRules t (.settled winner) t' := by
  obtain ⟨ls, t, c, p, hrun, hdraws, hturn, hpend, hone⟩ := draws_of_two
  have hlast : TableStep houseRules t (.acted c drawRequest) (t.onDrawCard c) :=
    .action c drawRequest (hturn.draw_accepted hpend)
  have hover : t.onDrawCard c = { t with cards := (t.cards.dispatchCards t.drawCount).2 }.updateStage .waitEnd := by
    have hcnt := t.drawCount_pos
    rw [onDrawCard_eq hturn.turn.undealt (by rw [hpend]; exact nofun), if_pos (by omega)]
  have hdone := hrun.append (.single hlast)
  have hposs : Possible houseRules (t.onDrawCard c) :=
    (twoSeated_possible.next dealtTwo_step).run hdone
  obtain ⟨a, b, htim⟩ := List.append_of_mem (hposs.inv.timer (by rw [hover]; nofun))
  have hset : TableStep houseRules (t.onDrawCard c)
      ({ t.onDrawCard c with timers := a ++ b }.gameEnd houseRules).1
      ({ t.onDrawCard c with timers := a ++ b }.gameEnd houseRules).2 := by
    refine .timer ⟨(t.onDrawCard c).cards.cards, 0, 0, 0⟩ htim (.refl _) ?_
    unfold onTimer
    rw [hover]
    rfl
  refine ⟨_, t.onDrawCard c, c, p, _, _, hdone, fun e he => ?_, ?_, hset⟩
  · rcases List.mem_append.mp he with he | he
    · exact not_settled_of_draws hdraws e he
    · rw [List.mem_singleton.mp he]
      exact nofun
  · rw [hover]
    exact hturn.seat

theorem settlement_two : ∃ ls t winner t', Run (TableStep houseRules) dealtTwo ls t ∧
    TableStep houseRules t (.settled winner) t' ∧
    ([0, 1].map t'.money).sum = ([0, 1].map twoSeated.money).sum - 1 / 20 * 10 * (2 - 1) := by
  obtain ⟨ls, t, -, -, winner, t', hrun, huns, -, hset⟩ := two_are_settled
  refine ⟨ls, t, winner, t', hrun, hset, ?_⟩
  refine ((settlement twoSeated_possible ?_ ?_ ?_ dealtTwo_step).2 _ _ _ _ hrun huns hset).1
  · decide +kernel
  · decide +kernel
  · decide +kernel

end Table

end Yola.Whot
