import Yola.Whot.Turns

/-!
# Where the cards are

From the deal on, every card is in a hand, in the deck, at the bottom or on the table, as long as no draw
takes the last card of the deck: such a draw ends the game before the player gets what was drawn.  Every
action uses up something of what hands and deck hold, so a game has only so many actions.
-/

namespace Yola.Whot

open Reasoning

namespace Table

variable {n : Nat} {t t₀ t₁ t' : Table n} {c : Fin n} {rc : RoomConfig} {e : TableEvent n}
  {gamers : List (Fin n)} {ls : List (TableEvent n)} {lost : List Card}

/-! ## Hands -/

theorem sum_hand (hidle : Idle t) (chairs : List (Fin n)) :
    ((chairs.filterMap fun c => ((t.seats c).filter Player.isGaming).map (c, ·)).flatMap
      (·.2.cards) : Multiset Card) = (chairs.map fun c => (t.hand c : Multiset Card)).sum := by
  induction chairs with
  | nil => rfl
  | cons c rest ih =>
    rw [List.map_cons, List.sum_cons, ← ih]
    by_cases hc : t.gaming c = true
    · obtain ⟨p, hp, hg⟩ := gaming_iff.mp hc
      rw [List.filterMap_cons_some (b := (c, p)) (by simp [hp, Option.filter, hg]), List.flatMap_cons,
        hand_eq hp, Multiset.coe_add]
    · rw [Bool.not_eq_true] at hc
      have hnone : (t.seats c).filter Player.isGaming = none := by
        unfold gaming at hc
        cases hp : t.seats c with
        | none => rfl
        | some =>
          rw [hp, Option.any_some] at hc
          simp [Option.filter, hc]
      rw [List.filterMap_cons_none (by rw [hnone]; rfl), hidle c hc, Multiset.coe_nil, zero_add]

theorem inHands_eq (hidle : Idle t) : t.inHands = (t.getGamers.flatMap (·.2.cards) : Multiset Card) := by
  rw [getGamers_eq, sum_hand hidle]
  exact Fin.sum_univ_def _

theorem Aside.inHands (h : Aside t t') (hidle : Idle t) : t'.inHands = t.inHands := by
  unfold Table.inHands
  refine Finset.sum_congr rfl fun c _ => ?_
  by_cases hc : t.gaming c = true
  · rw [h.hand hc]
  · rw [Bool.not_eq_true] at hc
    rw [hidle c hc, h.idle hidle c ((h.gaming c).trans hc)]

/-! ## Every card -/

def playedIn (ls : List (TableEvent n)) : List Card :=
  ls.flatMap fun
    | .acted _ req => playedBy req
    | _ => []

/-- The cards a step loses. -/
def lostIn (t : Table n) : TableEvent n → List Card
  | .acted _ req => t.lostBy req
  | _ => []

structure Accounted (t : Table n) (played lost : List Card) : Prop where
  inv : TableInv t
  inGame : t.stage.state.inGame = true
  cards : t.inHands + t.undealt + t.cards.bottom + played + lost = oneDeck

theorem Accounted.started (h : TableInv t) (hst : t.stage.state = .ready)
    (hs : Started rc t gamers t') : Accounted t' [] [] := by
  refine ⟨.started h.toGameInv hst hs, by rw [hs.state]; rfl, ?_⟩
  rw [hs.cards, Multiset.coe_nil, add_zero, add_zero]
  exact Multiset.coe_eq_coe.mpr h.deck

theorem Accounted.step {played : List Card} (h : Accounted t played lost) (hstep : TableStep rc t e t')
    (huns : ∀ w, e ≠ .settled w) :
    Accounted t' (played ++ playedIn [e]) (lost ++ t.lostIn e) := by
  obtain ⟨hinv, hch⟩ := h.inv.step hstep
  have hgame := h.inGame
  have hsame (hst : t'.stage.state.inGame = true) (hhands : t'.inHands = t.inHands)
      (hcards : t'.cards = t.cards) : Accounted t' (played ++ []) (lost ++ []) := by
    refine ⟨hinv, hst, ?_⟩
    rw [hhands, undealt, hcards, List.append_nil, List.append_nil]
    exact h.cards
  cases hch with
  | aside aside => exact hsame (by rw [aside.stage]; exact hgame) (aside.inHands h.inv.idle) aside.cards
  | between old =>
    rw [hgame] at old
    cases old
  | started stage =>
    rw [stage] at hgame
    cases hgame
  | dealt => exact hsame rfl rfl rfl
  | @acted _ _ req stage acted =>
    refine ⟨hinv, ?_, ?_⟩
    · cases acted.outcome with
      | goesOn stage | gameOver stage => rw [stage]; rfl
    · rw [← h.cards, acted.bottom, playedIn, List.flatMap_singleton, ← Multiset.coe_add,
        ← Multiset.coe_add]
      calc t'.inHands + t'.undealt + t.cards.bottom + (played + playedBy req) + (lost + t.lostBy req)
          = t'.inHands + t'.undealt + playedBy req + t.lostBy req + t.cards.bottom + played + lost := by
            abel
        _ = t.inHands + t.undealt + t.cards.bottom + played + lost := by rw [acted.cards]
  | settled => exact absurd rfl (huns _)

def Supplied (t : Table n) (e : TableEvent n) : Prop :=
  ∀ c req, e = .acted c req → req.action = .drawCard → t.drawCount < t.undealt.length

theorem lostIn_eq_nil (h : TableInv t) (hstep : TableStep rc t e t') : t.lostIn e = [] ↔ Supplied t e := by
  unfold Supplied
  cases (h.step hstep).2 with
  | @acted _ c req stage acted =>
    have hundealt := (h.playing stage).undealt
    change t.lostBy req = [] ↔ _
    unfold lostBy
    constructor
    · rintro hnil _ _ he hact
      cases he
      by_contra hshort
      rw [if_pos ⟨hact, Nat.le_of_not_lt hshort⟩] at hnil
      exact hundealt hnil
    · intro hsupp
      rw [if_neg]
      rintro ⟨hact, hshort⟩
      exact absurd hshort (Nat.not_le_of_lt (hsupp c req rfl hact))
  | aside | between | started | dealt | settled => simp [lostIn]

def SuppliedStep (rc : RoomConfig) (t : Table n) (e : TableEvent n) (t' : Table n) : Prop :=
  TableStep rc t e t' ∧ Supplied t e

theorem playedIn_append (ls : List (TableEvent n)) (e : TableEvent n) :
    playedIn (ls ++ [e]) = playedIn ls ++ playedIn [e] :=
  List.flatMap_append

theorem Accounted.supplied_run (h : Accounted t₁ [] []) (hrun : Run (SuppliedStep rc) t₁ ls t)
    (huns : ∀ e ∈ ls, ∀ w, e ≠ .settled w) : Accounted t (playedIn ls) [] := by
  have hall : (∀ e ∈ ls, ∀ w, e ≠ .settled w) → Accounted t (playedIn ls) [] := by
    refine hrun.history (P := fun done s => (∀ e ∈ done, ∀ w, e ≠ .settled w) →
      Accounted s (playedIn done) []) (fun _ => h) ?_
    intro done s e s' ih hstep hdone
    have hs := ih fun e he => hdone e (List.mem_append_left _ he)
    have hnext := hs.step hstep.1 (hdone e (List.mem_append_right _ List.mem_cons_self))
    rw [(lostIn_eq_nil hs.inv hstep.1).mpr hstep.2, ← playedIn_append] at hnext
    exact hnext
  exact hall huns

/-- A run either takes no more than the deck has to spare, or it has lost cards. -/
theorem Accounted.run (h : Accounted t₁ [] []) (hrun : Run (TableStep rc) t₁ ls t)
    (huns : ∀ e ∈ ls, ∀ w, e ≠ .settled w) :
    Run (SuppliedStep rc) t₁ ls t ∨ ∃ lost, lost ≠ [] ∧ Accounted t (playedIn ls) lost := by
  have hall : (∀ e ∈ ls, ∀ w, e ≠ .settled w) →
      Run (SuppliedStep rc) t₁ ls t ∨ ∃ lost, lost ≠ [] ∧ Accounted t (playedIn ls) lost := by
    refine hrun.history (P := fun done s => (∀ e ∈ done, ∀ w, e ≠ .settled w) →
      Run (SuppliedStep rc) t₁ done s ∨ ∃ lost, lost ≠ [] ∧ Accounted s (playedIn done) lost)
      (fun _ => .inl (.nil _)) ?_
    intro done s e s' ih hstep hdone
    have hbef := fun e he => hdone e (List.mem_append_left _ he)
    have he := hdone e (List.mem_append_right _ List.mem_cons_self)
    rcases ih hbef with hsupp | ⟨lost, hlost, hs⟩
    · have hs := h.supplied_run hsupp hbef
      by_cases hnil : s.lostIn e = []
      · exact .inl (hsupp.append (.single ⟨hstep, (lostIn_eq_nil hs.inv hstep).mp hnil⟩))
      · have hnext := hs.step hstep he
        rw [← playedIn_append] at hnext
        exact .inr ⟨_, hnil, hnext⟩
    · have hnext := hs.step hstep he
      rw [← playedIn_append] at hnext
      exact .inr ⟨_, List.append_ne_nil_of_left_ne_nil hlost _, hnext⟩
  exact hall huns

theorem Accounted.exists_lost (h : Accounted t₁ [] []) (hrun : Run (TableStep rc) t₁ ls t)
    (huns : ∀ e ∈ ls, ∀ w, e ≠ .settled w) : ∃ lost, Accounted t (playedIn ls) lost := by
  rcases h.run hrun huns with hsupp | ⟨lost, -, hacct⟩
  · exact ⟨[], h.supplied_run hsupp huns⟩
  · exact ⟨lost, hacct⟩

def allCards (t : Table n) (ls : List (TableEvent n)) : List Card :=
  t.getGamers.flatMap (·.2.cards) ++ t.undealt ++ t.cards.bottom ++ playedIn ls

theorem Accounted.allCards_append (h : Accounted t (playedIn ls) lost) :
    (t.allCards ls ++ lost).Perm oneDeck := by
  have hcards := h.cards
  rw [inHands_eq h.inv.idle, Multiset.coe_add, Multiset.coe_add, Multiset.coe_add, Multiset.coe_add] at hcards
  exact Multiset.coe_eq_coe.mp hcards

theorem Accounted.perm_iff (h : Accounted t (playedIn ls) lost) :
    (t.allCards ls).Perm oneDeck ↔ lost = [] := by
  have hall := h.allCards_append
  constructor
  · intro hperm
    have hlen := hall.length_eq
    rw [List.length_append, hperm.length_eq] at hlen
    exact List.length_eq_zero_iff.mp (by omega)
  · rintro rfl
    rw [List.append_nil] at hall
    exact hall

theorem accounted_of_start (hposs : Possible rc t₀) (hstart : TableStep rc t₀ (.started gamers) t₁) :
    Accounted t₁ [] [] := by
  cases (hposs.inv.step hstart).2 with
  | started stage started => exact .started hposs.inv stage started

/-- From the deal until the settlement all cards are in the hands of gamers, in the deck, at the bottom or
played, exactly if every accepted draw found more cards in the deck than it took. -/
theorem cards_conserved_iff (hpossible : Possible rc t₀) (hstart : TableStep rc t₀ (.started gamers) t₁)
    (hrun : Run (TableStep rc) t₁ ls t) (hunsettled : ∀ e ∈ ls, ∀ w, e ≠ .settled w) :
    (t.allCards ls).Perm oneDeck ↔ Run (SuppliedStep rc) t₁ ls t := by
  have hdl := accounted_of_start hpossible hstart
  constructor
  · intro hperm
    rcases hdl.run hrun hunsettled with hsupp | ⟨lost, hlost, hacct⟩
    · exact hsupp
    · exact absurd (hacct.perm_iff.mp hperm) hlost
  · intro hsupp
    exact (hdl.supplied_run hsupp hunsettled).perm_iff.mpr rfl

theorem action_step (rc : RoomConfig) (t : Table n) (c : Fin n) (req : ActionReq)
    (h : (t.onPlayerActionReq c req).isSome = true) :
    TableStep rc t (.acted c req) ((t.onPlayerActionReq c req).getD t) := by
  obtain ⟨u, hu⟩ := Option.isSome_iff_exists.mp h
  rw [hu]
  exact .action c req hu

/-- One gamer plays a card, and the other draws one. -/
theorem cards_conserved_iff_played : ∃ ls t, Run (TableStep houseRules) dealtTwo ls t ∧
    ls = [.silent, .acted 0 ⟨.playCard, 103, 0⟩, .acted 1 ⟨.drawCard, 0, 0⟩] ∧ (t.allCards ls).Perm oneDeck := by
  have hplay := action_step houseRules playedTwo 0 ⟨.playCard, 103, 0⟩ (by decide +kernel)
  have hdraw := action_step houseRules ((playedTwo.onPlayerActionReq 0 ⟨.playCard, 103, 0⟩).getD playedTwo) 1
    ⟨.drawCard, 0, 0⟩ (by decide +kernel)
  have hsupp : Run (SuppliedStep houseRules) dealtTwo _ _ := .cons ⟨playedTwo_step, nofun⟩ <|
    .cons ⟨hplay, by rintro _ _ ⟨⟩ ⟨⟩⟩ <| .single ⟨hdraw, fun _ _ _ _ => by decide +kernel⟩
  have hrun := hsupp.mono fun _ _ _ hs => hs.1
  exact ⟨_, _, hrun, rfl, (cards_conserved_iff twoSeated_possible dealtTwo_step hrun (by simp)).mpr hsupp⟩

/-! ## Drawing on and on -/

def drawRequest : ActionReq := ⟨.drawCard, 0, 0⟩

theorem OnTurn.draw_accepted {p : Player} (h : OnTurn t c p) (hpend : t.pending = none) :
    t.onPlayerActionReq c drawRequest = some (t.onDrawCard c) := by
  rw [h.onPlayerActionReq]
  unfold switchAction canDrawCard
  rw [hpend]
  rfl

theorem draw_step (rc : RoomConfig) (h : TableInv t) (hst : t.stage.state = .playing) (hpend : t.pending = none)
    (hmore : 1 < t.undealt.length) :
    ∃ c t', TableStep rc t (.acted c drawRequest) t' ∧ t'.stage.state = .playing ∧ t'.pending = none ∧
      t'.undealt.length + 1 = t.undealt.length := by
  obtain ⟨c, hact, -⟩ := (h.playing hst).active
  obtain ⟨p, hturn⟩ := h.toGameInv.onTurn hst hact
  have hcnt : t.drawCount = 1 := by
    unfold drawCount
    rw [hpend]
  refine ⟨c, _, .action c drawRequest (hturn.draw_accepted hpend), ?_⟩
  rw [onDrawCard_eq hturn.turn.undealt (by rw [hpend]; exact nofun), hcnt,
    if_neg (Nat.not_le_of_lt hmore)]
  refine ⟨rfl, rfl, ?_⟩
  change (t.drawn c).undealt.length + 1 = _
  rw [drawn_undealt, hcnt, List.length_drop]
  omega

theorem draw_run (rc : RoomConfig) (k : Nat) (h : TableInv t) (hst : t.stage.state = .playing)
    (hpend : t.pending = none) (hk : t.undealt.length = k + 1) :
    ∃ ls t', Run (TableStep rc) t ls t' ∧ (∀ e ∈ ls, ∃ c, e = .acted c drawRequest) ∧ TableInv t' ∧
      t'.stage.state = .playing ∧ t'.pending = none ∧ t'.undealt.length = 1 := by
  induction k generalizing t with
  | zero => exact ⟨[], t, .nil t, nofun, h, hst, hpend, hk⟩
  | succ k ih =>
    obtain ⟨c, u, hstep, hustage, hupending, hu⟩ := draw_step rc h hst hpend (by omega)
    obtain ⟨ls, t', hrun, hdraws, hlast⟩ := ih (h.step hstep).1 hustage hupending (by omega)
    refine ⟨_, t', .cons hstep hrun, ?_, hlast⟩
    intro e he
    rcases List.mem_cons.mp he with rfl | he
    · exact ⟨c, rfl⟩
    · exact hdraws e he

theorem draws_of_two : ∃ ls t c p, Run (TableStep houseRules) dealtTwo ls t ∧
    (∀ e ∈ ls, e = .silent ∨ ∃ c, e = .acted c drawRequest) ∧ OnTurn t c p ∧ t.pending = none ∧
    t.undealt.length = 1 := by
  have hplaying : playedTwo.stage.state = .playing := rfl
  obtain ⟨ls, t, hrun, hdraws, hinv, hst, hpend, hone⟩ := draw_run houseRules 42
    playedTwo_possible.inv hplaying (by decide +kernel) (by decide +kernel)
  obtain ⟨c, hact, -⟩ := (hinv.playing hst).active
  obtain ⟨p, hturn⟩ := hinv.toGameInv.onTurn hst hact
  refine ⟨_, t, c, p, .cons playedTwo_step hrun, ?_, hturn, hpend, hone⟩
  intro e he
  rcases List.mem_cons.mp he with rfl | he
  · exact .inl rfl
  · exact .inr (hdraws e he)

theorem not_settled_of_draws (hdraws : ∀ e ∈ ls, e = .silent ∨ ∃ c, e = .acted c drawRequest) :
    ∀ e ∈ ls, ∀ w, e ≠ .settled w := by
  intro e he w hw
  rcases hdraws e he with rfl | ⟨d, rfl⟩ <;> cases hw

/-- They lose it. -/
theorem last_card_lost : ∃ ls t, Possible houseRules twoSeated ∧
    TableStep houseRules twoSeated (.started [0, 1]) dealtTwo ∧
    Run (TableStep houseRules) dealtTwo ls t ∧
    (∀ e ∈ ls, e = .silent ∨ ∃ c, e = .acted c drawRequest) ∧ ¬ (t.allCards ls).Perm oneDeck := by
  obtain ⟨ls, t, c, p, hrun, hdraws, hturn, hpend, hone⟩ := draws_of_two
  have hlast : TableStep houseRules t (.acted c drawRequest) (t.onDrawCard c) :=
    .action c drawRequest (hturn.draw_accepted hpend)
  refine ⟨_, _, twoSeated_possible, dealtTwo_step, hrun.append (.single hlast), ?_, ?_⟩
  · intro e he
    rcases List.mem_append.mp he with he | he
    · exact hdraws e he
    · exact .inr ⟨c, List.mem_singleton.mp he⟩
  · have hdealt := accounted_of_start twoSeated_possible dealtTwo_step
    obtain ⟨lost, hacct⟩ := hdealt.exists_lost hrun (not_settled_of_draws hdraws)
    have hafter := hacct.step hlast nofun
    rw [← playedIn_append] at hafter
    rw [hafter.perm_iff]
    refine List.append_ne_nil_of_right_ne_nil _ ?_
    have hcount := t.drawCount_pos
    change t.lostBy drawRequest ≠ []
    rw [lostBy, if_pos ⟨rfl, by omega⟩]
    exact hturn.turn.undealt

/-! ## How long a game can last -/

/-- A card in a hand is worth two actions, a card in the deck a third one for drawing it, and an effect
that is answered without a card one. -/
def work (t : Table n) : Nat := 2 * t.inHands.card + 3 * t.undealt.length + t.owesWord

theorem Acted.work_lt {played lost : List Card} (h : Acted t c t' played lost) : t'.work < t.work := by
  have hcards := congrArg Multiset.card h.cards
  simp only [Multiset.card_add, Multiset.coe_card] at hcards
  have hprog := h.progress
  unfold work
  omega

/-- What is left to do of a game. -/
def workLeft (t : Table n) : Nat := if t.stage.state.inGame then t.work else 0

def isActed : TableEvent n → Bool
  | .acted _ _ => true
  | _ => false

theorem TableInv.workLeft_step (h : TableInv t) (hstep : TableStep rc t e t')
    (hsame : ∀ gs, e ≠ .started gs) : (isActed e).toNat + t'.workLeft ≤ t.workLeft := by
  unfold workLeft
  cases (h.step hstep).2 with
  | aside aside =>
    have hwork : t'.work = t.work := by
      unfold work owesWord
      rw [aside.inHands h.idle, aside.undealt, aside.pending]
    rw [aside.stage, hwork]
    simp [isActed]
  | between _ new => simp [isActed, new]
  | started => exact absurd rfl (hsame _)
  | dealt l stage =>
    rw [stage]
    change 0 + t.work ≤ t.work
    omega
  | acted stage acted =>
    have hless := acted.work_lt
    rw [stage]
    cases acted.outcome with
    | goesOn stage | gameOver stage =>
      rw [stage]
      change 1 + t'.work ≤ t.work
      omega
  | settled l stage settled =>
    have hended := gameEnd_stage { t with timers := l } rc
    rw [settled] at hended
    rw [hended]
    exact Nat.zero_le _

theorem Started.work_eq (h : Started rc t gamers t') (hinv : TableInv t) (hst : t.stage.state = .ready) :
    t'.work + 5 * gamers.length = 159 := by
  have hdeck : t.cards.cards.length = 54 := hinv.deck.length_eq
  have hcards := congrArg Multiset.card h.cards
  simp only [Multiset.card_add, Multiset.coe_card] at hcards
  have hbot := h.bottom
  have hund := h.undealt
  have howes : t'.owesWord = 0 := by
    unfold owesWord
    rw [h.pending, (hinv.between (by rw [hst]; rfl)).2]
    rfl
  unfold work
  omega

/-- Every accepted action uses up some of the work there is, so from the deal on there are at most
`159 - 5 * k` of them in a game of `k`. -/
theorem game_ends (rc : RoomConfig) :
    (∀ (t : Table n) c req t', Possible rc t → TableStep rc t (.acted c req) t' → t'.work < t.work) ∧
    ∀ (t₀ t₁ t : Table n) gamers ls, Possible rc t₀ → TableStep rc t₀ (.started gamers) t₁ →
      Run (TableStep rc) t₁ ls t → (∀ e ∈ ls, ∀ gs, e ≠ .started gs) →
        ls.countP isActed ≤ 159 - 5 * gamers.length := by
  constructor
  · intro t c req t' hposs hstep
    cases (hposs.inv.step hstep).2 with
    | acted _ acted => exact acted.work_lt
  · intro t₀ t₁ t gamers ls hposs hstart hrun hsame
    have hinv := hposs.inv
    have hcount := hrun.countP_le (P := TableInv) (p := isActed) (μ := workLeft) (hinv.step hstart).1
      fun s l u hl hs hstep => ⟨(hs.step hstep).1, hs.workLeft_step hstep (hsame l hl)⟩
    cases (hinv.step hstart).2 with
    | started stage started =>
      have hwork := started.work_eq hinv stage
      have hleft : t₁.workLeft = t₁.work := by
        unfold workLeft
        rw [started.state]
        rfl
      omega

theorem game_ends_two : ∃ t, TableStep houseRules playedTwo (.acted 0 drawRequest) t ∧
    t.work < playedTwo.work ∧
    List.countP isActed [TableEvent.silent, .acted (0 : Fin 2) drawRequest] ≤ 149 := by
  have hstep := action_step houseRules playedTwo 0 drawRequest (by decide +kernel)
  refine ⟨_, hstep, (game_ends houseRules).1 _ _ _ _ playedTwo_possible hstep, ?_⟩
  exact (game_ends houseRules).2 _ _ _ _ _ twoSeated_possible dealtTwo_step
    (.cons playedTwo_step (.single hstep)) (by simp)

end Table

end Yola.Whot
