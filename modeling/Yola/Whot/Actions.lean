import Mathlib.Tactic.Abel
import Yola.Whot.Deck
import Yola.Whot.Seats

/-!
# What an accepted action does

Every accepted action moves cards between hands, deck and table, passes the turn, and starts a new
instance of the stage.  All that is proved about games later on is read off the description given here.
-/

namespace Yola.Whot.Table

variable {n : Nat} {t t' u : Table n} {c d : Fin n} {p : Player} {card : Card} {f : Player → Player}
  {cards : List Card} {pending : Pending n} {req : ActionReq}

def undealt (t : Table n) : List Card := t.cards.getCards

def inHands (t : Table n) : Multiset Card := ∑ c, (t.hand c : Multiset Card)

section

variable (hp : t.seats c = some p)

include hp

theorem hand_modify_self : (t.modify c f).hand c = (f p).cards := by
  unfold hand
  rw [seats_modify_self, hp]
  rfl

omit hp in
theorem hand_modify_of_ne (h : d ≠ c) : (t.modify c f).hand d = t.hand d := by
  unfold hand
  rw [seats_modify_of_ne f h]

theorem hand_eq : t.hand c = p.cards := by
  unfold hand
  rw [hp]
  rfl

omit hp in
theorem hand_addCards_ne_nil (hd : t.hand d ≠ []) : (t.modify c (·.addCards cards)).hand d ≠ [] := by
  by_cases hdc : d = c
  · subst hdc
    cases hp : t.seats d with
    | none =>
      unfold hand at hd
      rw [hp] at hd
      exact absurd rfl hd
    | some =>
      rw [hand_modify_self hp]
      rw [hand_eq hp] at hd
      intro hnil
      exact hd (List.append_eq_nil_iff.mp (sortCards_eq_nil.mp hnil)).1
  · rw [hand_modify_of_ne hdc]
    exact hd

theorem inHands_modify : (t.modify c f).inHands + p.cards = t.inHands + (f p).cards := by
  unfold inHands
  rw [← Finset.add_sum_erase _ _ (Finset.mem_univ c),
    ← Finset.add_sum_erase (a := c) _ (fun d => (t.hand d : Multiset Card)) (Finset.mem_univ c)]
  have hoths : ∑ d ∈ Finset.univ.erase c, ((t.modify c f).hand d : Multiset Card) =
      ∑ d ∈ Finset.univ.erase c, (t.hand d : Multiset Card) := by
    apply Finset.sum_congr rfl
    intro d hd
    rw [hand_modify_of_ne (Finset.ne_of_mem_erase hd)]
  rw [hoths, hand_modify_self hp, hand_eq hp]
  abel

theorem inHands_addCards : (t.modify c (·.addCards cards)).inHands = t.inHands + cards := by
  have hmodify := inHands_modify (f := (·.addCards cards)) hp
  have hadd : ((p.addCards cards).cards : Multiset Card) = p.cards + cards :=
    Multiset.coe_eq_coe.mpr (sortCards_perm _)
  rw [hadd, add_comm (p.cards : Multiset Card), ← add_assoc] at hmodify
  exact add_right_cancel hmodify

theorem inHands_removeCard (hcard : card ∈ p.cards) :
    (t.modify c (·.removeCard card)).inHands + {card} = t.inHands := by
  have hmodify := inHands_modify (f := (·.removeCard card)) hp
  have hrm : (p.cards : Multiset Card) = (p.removeCard card).cards + {card} := by
    have hperm := (List.perm_cons_erase hcard).trans ((sortCards_perm _).symm.cons card)
    rw [Multiset.coe_eq_coe.mpr hperm, ← Multiset.cons_coe, ← Multiset.singleton_add, add_comm]
    rfl
  rw [hrm, add_comm _ ({card} : Multiset Card), ← add_assoc] at hmodify
  exact add_right_cancel hmodify

end

/-! ## What stays the same -/

structure Frame (t t' : Table n) : Prop where
  blank : ∀ d, t'.blank d = t.blank d
  idle : ∀ d, t.gaming d = false → t'.seats d = t.seats d
  deck : t'.cards.cards = t.cards.cards
  bottom : t'.cards.bottom = t.cards.bottom
  stage : t'.stage = t.stage
  first : t'.first = t.first

namespace Frame

theorem gaming (h : Frame t t') (d : Fin n) : t'.gaming d = t.gaming d := gaming_eq_of_blank (h.blank d)

theorem trans (h : Frame t t') (h' : Frame t' u) : Frame t u where
  blank d := (h'.blank d).trans (h.blank d)
  idle d hd := (h'.idle d ((h.gaming d).trans hd)).trans (h.idle d hd)
  deck := h'.deck.trans h.deck
  bottom := h'.bottom.trans h.bottom
  stage := h'.stage.trans h.stage
  first := h'.first.trans h.first

theorem of_seats (hseats : t'.seats = t.seats) (hdeck : t'.cards.cards = t.cards.cards)
    (hbot : t'.cards.bottom = t.cards.bottom) (hst : t'.stage = t.stage)
    (hfst : t'.first = t.first) : Frame t t' where
  blank d := by unfold Table.blank; rw [hseats]
  idle d _ := by rw [hseats]
  deck := hdeck
  bottom := hbot
  stage := hst
  first := hfst

theorem modify {f : Player → Player} (hf : CardsOnly f) (hc : t.gaming c = true) :
    Frame t (t.modify c f) where
  blank := blank_modify hf c
  idle d hd := by
    apply seats_modify_of_ne
    rintro rfl
    rw [hc] at hd
    cases hd
  deck := rfl
  bottom := rfl
  stage := rfl
  first := rfl

theorem nextPlayer (h : Frame t t') (c : Fin n) : t'.nextPlayer c = t.nextPlayer c := by
  unfold Table.nextPlayer
  congr 1
  funext d
  exact h.gaming d

theorem getNextActiveChair (h : Frame t t') (hc : t.gaming c = true) (hact : t'.active = some c) :
    ∃ d, t'.getNextActiveChair = some d ∧ t.gaming d = true := by
  unfold Table.getNextActiveChair
  rw [hact, Option.bind_some, h.nextPlayer]
  exact nextPlayer_of_gaming hc

end Frame

/-! ## The market -/

/-- What `drawCardByMarket` does: others draw, and it says whether the deck is used up. -/
structure MarketDrawn (t : Table n) (deckEmpty : Bool) (t' : Table n) : Prop where
  frame : Frame t t'
  cards : t'.inHands + t'.undealt = t.inHands + t.undealt
  fewer : t'.undealt.length ≤ t.undealt.length
  hands : ∀ d, t.hand d ≠ [] → t'.hand d ≠ []
  deckEmpty : deckEmpty = t'.cards.isEmpty
  active : t'.active = t.active
  currCard : t'.currCard = t.currCard
  declareSuit : t'.declareSuit = t.declareSuit
  pending : t'.pending = t.pending

theorem inHands_congr (h : t'.seats = t.seats) : t'.inHands = t.inHands := by
  unfold inHands hand
  rw [h]

theorem drawCardByMarket_spec (chairs : List (Fin n)) (t : Table n) :
    MarketDrawn t (drawCardByMarket chairs t).1 (drawCardByMarket chairs t).2 := by
  induction chairs generalizing t with
  | nil =>
    exact ⟨.of_seats rfl rfl rfl rfl rfl, rfl, Nat.le_refl _, fun _ hd => hd, rfl, rfl, rfl, rfl, rfl⟩
  | cons c rest ih =>
    unfold drawCardByMarket
    by_cases hc : t.gaming c = true
    · rw [if_neg (by simp [hc])]
      have happend := t.cards.dispatchCards_append 1
      have hdrop := t.cards.getCards_dispatchCards 1
      have htake := t.cards.dispatchCards_fst 1
      have hdeck : (t.cards.dispatchCards 1).2.cards = t.cards.cards := rfl
      have hbot : (t.cards.dispatchCards 1).2.bottom = t.cards.bottom := rfl
      generalize t.cards.dispatchCards 1 = dealt at happend hdrop htake hdeck hbot ⊢
      obtain ⟨drawn, cards⟩ := dealt
      dsimp only at happend hdrop htake hdeck hbot ⊢
      split
      · rename_i hnone
        -- the deck was empty before
        have hnil : t.cards.getCards = [] := by
          rw [htake, List.length_eq_zero_iff] at hnone
          simpa using hnone
        have hrest : cards.getCards = [] := by rw [hdrop, hnil]; rfl
        refine ⟨.of_seats rfl hdeck hbot rfl rfl, ?_, ?_, fun _ hd => hd, ?_, rfl, rfl, rfl, rfl⟩
        · unfold undealt
          dsimp only
          rw [hrest, hnil]
          rfl
        · unfold undealt
          dsimp only
          rw [hrest]
          exact Nat.zero_le _
        · exact ((GameCards.isEmpty_iff _).mpr hrest).symm
      · obtain ⟨p, hp, -⟩ := gaming_iff.mp hc
        have hrest := ih (({ t with cards := cards }.modify c (·.addCards drawn)).sendMarketDrawCardPush c drawn)
        have hdeal : Frame t { t with cards := cards } := .of_seats rfl hdeck hbot rfl rfl
        have hadd := Frame.modify (cardsOnly_addCards drawn) (hdeal.gaming c |>.trans hc)
        have hfst : Frame t (({ t with cards := cards }.modify c (·.addCards drawn)).sendMarketDrawCardPush
            c drawn) := hdeal.trans (hadd.trans (.of_seats rfl rfl rfl rfl rfl))
        refine ⟨hfst.trans hrest.frame, ?_, ?_, ?_, hrest.deckEmpty, hrest.active, hrest.currCard,
          hrest.declareSuit, hrest.pending⟩
        · rw [hrest.cards]
          have hadd : ({ t with cards := cards }.modify c (·.addCards drawn)).inHands = _ := inHands_addCards hp
          change Table.inHands (modify _ _ _) + cards.getCards = _
          rw [hadd, add_assoc, Multiset.coe_add, happend]
          rfl
        · refine hrest.fewer.trans ?_
          change cards.getCards.length ≤ _
          rw [hdrop, List.length_drop]
          exact Nat.sub_le _ _
        · intro d hd
          exact hrest.hands d (hand_addCards_ne_nil hd)
    · rw [if_pos (by simpa using hc)]
      exact ih t

/-! ## One action -/

structure PendingOk (t : Table n) (pending : Pending n) : Prop where
  target : pending.target = t.active
  effect : pending.effect = .holdOn ∧ pending.quantity = 1 ∨
    pending.effect = .pickTwo ∧ pending.quantity = 2 ∨ pending.effect = .suspend ∨
    pending.effect = .whot ∧ t.currCard = whotCard

def owesWord (t : Table n) : Nat :=
  match t.pending.map Pending.effect with
  | some .suspend | some .whot => 1
  | _ => 0

theorem owesWord_le (t : Table n) : t.owesWord ≤ 1 := by
  unfold owesWord
  split <;> decide

/-- Somebody is to act, and a card is left to draw. -/
structure Turn (t : Table n) : Prop where
  undealt : t.undealt ≠ []
  active : ∃ d, t.active = some d ∧ t.gaming d = true
  pending : ∀ pending, t.pending = some pending → PendingOk t pending

inductive Outcome (t : Table n) (c : Fin n) (t' : Table n) : Prop where
  | goesOn (stage : t'.stage.state = .playing) (turn : Turn t')
      (hands : ∀ d, t.hand d ≠ [] → t'.hand d ≠ [])
  | gameOver (stage : t'.stage.state = .waitEnd) (hands : ∀ d, d ≠ c → t.hand d ≠ [] → t'.hand d ≠ [])

structure Acted (t : Table n) (c : Fin n) (t' : Table n) (played lost : List Card) : Prop where
  blank : ∀ d, t'.blank d = t.blank d
  idle : ∀ d, t.gaming d = false → t'.seats d = t.seats d
  deck : t'.cards.cards = t.cards.cards
  bottom : t'.cards.bottom = t.cards.bottom
  first : t'.first = t.first
  generation : t'.stage.generation = t.stage.generation + 1
  timer : t'.stage.generation ∈ t'.timers
  cards : t'.inHands + t'.undealt + played + lost = t.inHands + t.undealt
  progress : t'.undealt.length + t'.owesWord <
    t.undealt.length + t.owesWord + 2 * (played.length + lost.length)
  outcome : Outcome t c t'

theorem timer_mem_updateStage (t : Table n) (s : StageID) :
    (t.updateStage s).stage.generation ∈ (t.updateStage s).timers :=
  List.mem_append_right _ List.mem_cons_self

section Ends

variable {played lost : List Card} (h : Frame t u)
  (hmoved : u.inHands + u.undealt + played + lost = t.inHands + t.undealt)
  (hprogress : u.undealt.length + u.owesWord <
    t.undealt.length + t.owesWord + 2 * (played.length + lost.length))

include h hmoved hprogress

theorem Frame.acted (hseats : t'.seats = u.seats)
    (hcards : t'.cards = u.cards) (hfst : t'.first = u.first)
    (hgen : t'.stage.generation = u.stage.generation + 1)
    (htim : t'.stage.generation ∈ t'.timers) (hpend : t'.pending = u.pending)
    (houtcome : Outcome t c t') : Acted t c t' played lost where
  blank d := by
    rw [← h.blank d]
    unfold Table.blank
    rw [hseats]
  idle d hd := by rw [hseats, h.idle d hd]
  deck := by rw [hcards, h.deck]
  bottom := by rw [hcards, h.bottom]
  first := by rw [hfst, h.first]
  generation := by rw [hgen, h.stage]
  timer := htim
  cards := by
    unfold undealt
    rw [inHands_congr hseats, hcards]
    exact hmoved
  progress := by
    unfold undealt owesWord
    rw [hcards, hpend]
    exact hprogress
  outcome := houtcome

theorem Frame.acted_passTo {active : Option (Fin n)}
    (hund : u.undealt ≠ []) (hhands : ∀ d, t.hand d ≠ [] → u.hand d ≠ [])
    (hact : ∃ d, active = some d ∧ t.gaming d = true)
    (hpend : ∀ pending, u.pending = some pending → PendingOk { u with active := active } pending) :
    Acted t c (u.passTo active) played lost := by
  refine h.acted hmoved hprogress rfl rfl rfl rfl (timer_mem_updateStage _ _) rfl
    (.goesOn rfl ⟨hund, ?_, ?_⟩ hhands)
  · obtain ⟨d, hd, hgam⟩ := hact
    exact ⟨d, hd, (h.gaming d).trans hgam⟩
  · intro pending hp
    exact ⟨(hpend pending hp).target, (hpend pending hp).effect⟩

theorem Frame.acted_waitEnd (hhands : ∀ d, d ≠ c → t.hand d ≠ [] → u.hand d ≠ []) :
    Acted t c (u.updateStage .waitEnd) played lost :=
  h.acted hmoved hprogress rfl rfl rfl rfl (timer_mem_updateStage _ _) rfl (.gameOver rfl hhands)

end Ends

/-! ## Playing a card -/

theorem effectOf_isSpecialCard (h : isSpecialCard card = true) :
    effectOf card = .holdOn ∨ effectOf card = .pickTwo ∨ effectOf card = .suspend ∨
      effectOf card = .market ∨ effectOf card = .whot ∧ card = whotCard := by
  unfold isSpecialCard isWhotCard at h
  by_cases hwhot : card = whotCard
  · subst hwhot
    exact .inr (.inr (.inr (.inr ⟨by decide, rfl⟩)))
  · simp only [hwhot, decide_false, Bool.false_eq_true, if_false, Bool.and_eq_true,
      decide_eq_true_eq, Bool.or_eq_true] at h
    unfold effectOf
    rcases h.2 with ((hn | hn) | hn) | hn
    · rw [if_pos hn]
      exact .inl rfl
    · rw [hn]
      exact .inr (.inl (by decide))
    · rw [hn]
      exact .inr (.inr (.inl (by decide)))
    · rw [hn]
      exact .inr (.inr (.inr (.inl (by decide))))

theorem effectOf_market (h : effectOf card = .market) : number card = marketCardNumber := by
  unfold effectOf at h
  split at h
  · cases h
  · split at h
    · cases h
    · split at h
      · cases h
      · split at h
        · assumption
        · split at h <;> cases h

theorem pendingOf_ok (hc : t.gaming c = true)
    (hpend : t.pendingOf c card = some pending) (hmkt : pending.effect ≠ .market) :
    (∃ d, pending.target = some d ∧ t.gaming d = true) ∧ (pending.effect = .holdOn ∧ pending.quantity = 1 ∨
        pending.effect = .pickTwo ∧ pending.quantity = 2 ∨ pending.effect = .suspend ∨
        pending.effect = .whot ∧ card = whotCard) := by
  unfold pendingOf at hpend
  split at hpend
  · cases hpend
  · rename_i hspecial
    cases hpend
    dsimp only at hmkt ⊢
    rcases effectOf_isSpecialCard (by simpa using hspecial) with h | h | h | h | ⟨h, hwhot⟩
    · rw [h]
      exact ⟨⟨c, rfl, hc⟩, .inl ⟨rfl, rfl⟩⟩
    · rw [h]
      exact ⟨nextPlayer_of_gaming hc, .inr (.inl ⟨rfl, rfl⟩)⟩
    · rw [h]
      exact ⟨nextPlayer_of_gaming hc, .inr (.inr (.inl rfl))⟩
    · exact absurd h hmkt
    · rw [h]
      exact ⟨⟨c, rfl, hc⟩, .inr (.inr (.inr ⟨rfl, hwhot⟩))⟩

theorem effect_pendingOf (h : t.pendingOf c card = some pending) : pending.effect = effectOf card := by
  unfold pendingOf at h
  split at h
  · cases h
  · cases h
    rfl

theorem layCard_frame (card : Card) (hc : t.gaming c = true) : Frame t (t.layCard c card) := by
  have hrm := Frame.modify (cardsOnly_removeCard card) hc
  exact hrm.trans (.of_seats rfl rfl rfl rfl rfl)

theorem pendingOf_congr (h : t'.nextPlayer c = t.nextPlayer c) :
    t'.pendingOf c card = t.pendingOf c card := by
  unfold pendingOf
  rw [h]

theorem layCard_pending (hc : t.gaming c = true) : (t.layCard c card).pending = t.pendingOf c card :=
  pendingOf_congr ((Frame.modify (cardsOnly_removeCard card) hc).nextPlayer c)

theorem layCard_hand_of_ne (h : d ≠ c) : (t.layCard c card).hand d = t.hand d := hand_modify_of_ne h

theorem layCard_moved (hp : t.seats c = some p) (hcard : card ∈ p.cards) :
    (t.layCard c card).inHands + (t.layCard c card).undealt + [card] + ([] : List Card) =
      t.inHands + t.undealt := by
  have hrm : (t.layCard c card).inHands + {card} = t.inHands := inHands_removeCard hp hcard
  rw [← hrm, Multiset.coe_nil, add_zero, Multiset.coe_singleton]
  exact add_right_comm _ _ _

theorem onPlayCard_acted (hp : t.seats c = some p) (hc : t.gaming c = true) (hcard : card ∈ p.cards)
    (hact : t.active = some c) (hund : t.undealt ≠ []) :
    Acted t c (t.onPlayCard c card) [card] [] := by
  have hlay := layCard_frame card hc
  have hmoved := layCard_moved hp hcard
  have hprogress (u : Table n) (hfewer : u.undealt.length ≤ t.undealt.length) :
      u.undealt.length + u.owesWord <
        t.undealt.length + t.owesWord + 2 * ([card].length + ([] : List Card).length) := by
    have howes := u.owesWord_le
    simp only [List.length_singleton, List.length_nil]
    omega
  have hoths (d : Fin n) (hd : d ≠ c) (hhand : t.hand d ≠ []) : (t.layCard c card).hand d ≠ [] := by
    rw [layCard_hand_of_ne hd]
    exact hhand
  unfold onPlayCard
  dsimp only
  split
  · exact hlay.acted_waitEnd hmoved (hprogress _ (Nat.le_refl _)) hoths
  rename_i hleft
  have hhands (d : Fin n) (hhand : t.hand d ≠ []) : (t.layCard c card).hand d ≠ [] := by
    by_cases hd : d = c
    · subst hd
      obtain ⟨q, hq, -⟩ := gaming_iff.mp ((hlay.gaming d).trans hc)
      rw [hq] at hleft
      rw [hand_eq hq]
      simpa using hleft
    · exact hoths d hd hhand
  split
  · -- the others draw
    have hmkt := drawCardByMarket_spec (chairsAfter c (n - 1)) { t.layCard c card with pending := none }
    have hnone : Frame (t.layCard c card) { t.layCard c card with pending := none } :=
      .of_seats rfl rfl rfl rfl rfl
    have hfr := hlay.trans (hnone.trans hmkt.frame)
    have hcards := congrArg (· + (([card] : List Card) : Multiset Card) + ([] : List Card)) hmkt.cards
    split
    · exact hfr.acted_waitEnd (hcards.trans hmoved) (hprogress _ hmkt.fewer)
        fun d hd hhand => hmkt.hands d (hoths d hd hhand)
    · rename_i hdeck
      have hpend : Table.pending _ = none := hmkt.pending
      unfold passToNext
      rw [hpend]
      refine hfr.acted_passTo (hcards.trans hmoved) (hprogress _ hmkt.fewer) ?_
        (fun d hhand => hmkt.hands d (hhands d hhand))
        (hfr.getNextActiveChair hc (hmkt.active.trans hact)) ?_
      · intro hnil
        rw [hmkt.deckEmpty, GameCards.isEmpty_iff] at hdeck
        exact hdeck hnil
      · intro pending hsome
        rw [hpend] at hsome
        cases hsome
  · rename_i hmkt
    unfold passToNext
    rw [layCard_pending hc] at hmkt ⊢
    cases hpend : t.pendingOf c card with
    | none =>
      refine hlay.acted_passTo hmoved (hprogress _ (Nat.le_refl _)) hund hhands
        (hlay.getNextActiveChair hc hact) ?_
      intro pending hsome
      rw [layCard_pending hc, hpend] at hsome
      cases hsome
    | some pending =>
      have hnot : pending.effect ≠ .market := by
        intro heff
        refine hmkt ⟨by rw [hpend]; exact congrArg some heff, ?_⟩
        apply effectOf_market
        rw [← effect_pendingOf hpend, heff]
      obtain ⟨htgt, heff⟩ := pendingOf_ok hc hpend hnot
      refine hlay.acted_passTo hmoved (hprogress _ (Nat.le_refl _)) hund hhands htgt ?_
      intro pending' hsome
      rw [layCard_pending hc, hpend] at hsome
      cases hsome
      exact ⟨rfl, heff⟩

/-! ## Drawing -/

theorem drawCount_pos (t : Table n) : 0 < t.drawCount := by
  unfold drawCount
  split
  · split
    · assumption
    · decide
  · decide

/-- `onDrawCard` up to where the player gets the cards, if the deck has more of them. -/
def drawn (t : Table n) (c : Fin n) : Table n :=
  ({ t with cards := (t.cards.dispatchCards t.drawCount).2, pending := none }.modify c
    (·.addCards (t.cards.dispatchCards t.drawCount).1)).broadcastPlayerAction c .drawCard
      (t.cards.dispatchCards t.drawCount).1 0

theorem drawn_frame (hc : t.gaming c = true) : Frame t (t.drawn c) := by
  have hnone : Frame t { t with cards := (t.cards.dispatchCards t.drawCount).2, pending := none } :=
    .of_seats rfl rfl rfl rfl rfl
  have hadd := Frame.modify (cardsOnly_addCards (t.cards.dispatchCards t.drawCount).1)
    ((hnone.gaming c).trans hc)
  exact hnone.trans (hadd.trans (.of_seats rfl rfl rfl rfl rfl))

theorem drawn_undealt (t : Table n) (c : Fin n) : (t.drawn c).undealt = t.undealt.drop t.drawCount :=
  t.cards.getCards_dispatchCards t.drawCount

theorem drawn_inHands (hp : t.seats c = some p) :
    (t.drawn c).inHands = t.inHands + t.undealt.take t.drawCount :=
  inHands_addCards (t := { t with cards := (t.cards.dispatchCards t.drawCount).2, pending := none }) hp

theorem onDrawCard_eq (hund : t.undealt ≠ [])
    (htgt : ∀ pending, t.pending = some pending → pending.target = some c) :
    t.onDrawCard c =
      if t.undealt.length ≤ t.drawCount then
        { t with cards := (t.cards.dispatchCards t.drawCount).2 }.updateStage .waitEnd
      else (t.drawn c).passTo (t.drawn c).getNextActiveChair := by
  let dealt := t.cards.dispatchCards t.drawCount
  have hnonempty : dealt.1.length ≠ 0 := by
    rw [GameCards.dispatchCards_fst, List.length_take]
    have hcnt := t.drawCount_pos
    have hlen : 0 < t.cards.getCards.length := List.length_pos_iff.mpr hund
    omega
  have hemp : dealt.2.isEmpty = true ↔ t.undealt.length ≤ t.drawCount := by
    rw [GameCards.isEmpty_iff, GameCards.getCards_dispatchCards, List.drop_eq_nil_iff]
    rfl
  unfold onDrawCard
  dsimp only
  by_cases hlast : t.undealt.length ≤ t.drawCount
  · rw [if_pos (.inr (hemp.mpr hlast)), if_pos hlast]
  · have hgoes : ¬ (dealt.1.length = 0 ∨ dealt.2.isEmpty = true) := by
      rw [hemp]
      exact fun h => h.elim hnonempty hlast
    rw [if_neg hgoes, if_neg hlast]
    -- whatever was pending is answered
    have hclear : (if t.pending.any fun pending => pending.target = some c then
        { t with cards := dealt.2, pending := none } else { t with cards := dealt.2 }) =
        { t with cards := dealt.2, pending := none } := by
      cases hpend : t.pending with
      | none => rfl
      | some pending => rw [if_pos (by simp [htgt pending hpend])]
    rw [hclear]
    rfl

theorem onDrawCard_acted (hp : t.seats c = some p) (hc : t.gaming c = true) (hact : t.active = some c)
    (hund : t.undealt ≠ [])
    (htgt : ∀ pending, t.pending = some pending → pending.target = some c) :
    Acted t c (t.onDrawCard c) [] (if t.undealt.length ≤ t.drawCount then t.undealt else []) := by
  let dealt := t.cards.dispatchCards t.drawCount
  have hdrop := t.cards.getCards_dispatchCards t.drawCount
  have hlen : 0 < t.undealt.length := List.length_pos_iff.mpr hund
  have hcnt := t.drawCount_pos
  rw [onDrawCard_eq hund htgt]
  split
  · rename_i hlast
    have hnil : dealt.2.getCards = [] := by
      rw [hdrop, List.drop_eq_nil_iff]
      exact hlast
    have hfr : Frame t { t with cards := dealt.2 } := .of_seats rfl rfl rfl rfl rfl
    refine hfr.acted_waitEnd ?_ ?_ fun d _ hd => hd
    · change t.inHands + dealt.2.getCards + _ + _ = _
      rw [hnil, Multiset.coe_nil, add_zero, add_zero]
    · change dealt.2.getCards.length + t.owesWord < _
      rw [hnil, List.length_nil]
      omega
  · rename_i hmore
    have hfr := drawn_frame (t := t) hc
    have hleft : (t.drawn c).undealt.length = t.undealt.length - t.drawCount := by
      rw [drawn_undealt, List.length_drop]
    refine hfr.acted_passTo ?_ ?_ ?_ (fun d hd => hand_addCards_ne_nil hd)
      (hfr.getNextActiveChair hc hact) nofun
    · rw [drawn_undealt, drawn_inHands hp, Multiset.coe_nil, add_zero, add_zero, add_assoc,
        Multiset.coe_add, List.take_append_drop]
    · have howes : (t.drawn c).owesWord = 0 := rfl
      rw [hleft, howes]
      omega
    · intro hnil
      rw [hnil, List.length_nil] at hleft
      omega

/-! ## Answering an effect -/

theorem onSkipTurn_acted (hc : t.gaming c = true) (hact : t.active = some c)
    (hund : t.undealt ≠ []) (hpend : t.pending.map Pending.effect = some .suspend) :
    Acted t c (t.onSkipTurn c) [] [] := by
  have hfr : Frame t ({ t with pending := none }.broadcastPlayerAction c .skipTurn [] 0) :=
    .of_seats rfl rfl rfl rfl rfl
  have howes : t.owesWord = 1 := by
    unfold owesWord
    rw [hpend]
  refine hfr.acted_passTo ?_ ?_ hund (fun d hd => hd) (hfr.getNextActiveChair hc hact) nofun
  · rw [Multiset.coe_nil, add_zero, add_zero]
    rfl
  · rw [howes]
    exact Nat.lt_succ_self _

theorem onDeclareSuit_acted {suit : Int} (hc : t.gaming c = true) (hund : t.undealt ≠ [])
    (hpend : t.pending.map Pending.effect = some .whot) :
    Acted t c (t.onDeclareSuit c suit) [] [] := by
  have hfr : Frame t ({ t with currCard := newDeclareWhot suit t.currCard, declareSuit := suit
                               pending := none }.broadcastPlayerAction c .declareSuit [] suit) :=
    .of_seats rfl rfl rfl rfl rfl
  have howes : t.owesWord = 1 := by
    unfold owesWord
    rw [hpend]
  refine hfr.acted_passTo ?_ ?_ hund (fun d hd => hd) ⟨c, rfl, hc⟩ nofun
  · rw [Multiset.coe_nil, add_zero, add_zero]
    rfl
  · rw [howes]
    exact Nat.lt_succ_self _

/-! ## Any action -/

def playedBy (req : ActionReq) : List Card := if req.action = .playCard then [req.outCard] else []

def lostBy (t : Table n) (req : ActionReq) : List Card :=
  if req.action = .drawCard ∧ t.undealt.length ≤ t.drawCount then t.undealt else []

theorem canOutCard_iff {curr : Card} {hand : List Card} :
    t.canOutCard curr hand card = true ↔ card ∈ hand ∧ canPlayCardOn curr card t.pending = true := by
  unfold canOutCard
  rw [List.any_eq_true]
  constructor
  · rintro ⟨x, hx, hboth⟩
    rw [Bool.and_eq_true, decide_eq_true_eq] at hboth
    rw [← hboth.1]
    exact ⟨hx, hboth.1 ▸ hboth.2⟩
  · rintro ⟨hmem, hplay⟩
    exact ⟨card, hmem, by simp [hplay]⟩

/-- Only the active player is listened to, and only while the cards are played. -/
theorem onPlayerActionReq_some (h : t.onPlayerActionReq c req = some t') :
    ∃ p, t.seats c = some p ∧ p.isGaming = true ∧ t.active = some c ∧ t.stage.state = .playing ∧
      t.switchAction c p req = some t' := by
  unfold onPlayerActionReq at h
  split at h
  · cases h
  · rename_i p hp
    split at h
    · cases h
    · rename_i hgamer
      split at h
      · cases h
      · rename_i hst
        simp only [Bool.or_eq_true, Bool.not_eq_true', decide_eq_true_eq, not_or, Bool.not_eq_false,
          ne_eq, Decidable.not_not] at hgamer hst
        exact ⟨p, hp, hgamer.1.1, hgamer.2.symm, hst, h⟩

theorem onPlayerActionReq_acted (hturn : Turn t)
    (hstep : t.onPlayerActionReq c req = some t') : Acted t c t' (playedBy req) (t.lostBy req) := by
  obtain ⟨p, hp, hgam, hact, -, hsw⟩ := onPlayerActionReq_some hstep
  have hc : t.gaming c = true := gaming_iff.mpr ⟨p, hp, hgam⟩
  have htgt (pending : Pending n) (hpend : t.pending = some pending) : pending.target = some c :=
    (hturn.pending pending hpend).target.trans hact
  unfold switchAction at hsw
  unfold playedBy lostBy
  cases haction : req.action <;> rw [haction] at hsw <;> dsimp only at hsw
  case playCard =>
    split at hsw
    · cases hsw
    · rename_i hcan
      cases hsw
      rw [Bool.not_eq_true', Bool.not_eq_false] at hcan
      exact onPlayCard_acted hp hc (canOutCard_iff.mp hcan).1 hact hturn.undealt
  case drawCard =>
    split at hsw
    · cases hsw
    · cases hsw
      simpa using onDrawCard_acted hp hc hact hturn.undealt htgt
  case skipTurn =>
    split at hsw
    · cases hsw
    · rename_i hpend
      cases hsw
      exact onSkipTurn_acted hc hact hturn.undealt (Decidable.not_not.mp hpend)
  case declareSuit =>
    split at hsw
    · cases hsw
    · rename_i hpend
      split at hsw
      · cases hsw
      · cases hsw
        simp only [Bool.or_eq_true, decide_eq_true_eq, not_or, ne_eq, Decidable.not_not] at hpend
        exact onDeclareSuit_acted hc hturn.undealt hpend.1
  case other => cases hsw

end Yola.Whot.Table
