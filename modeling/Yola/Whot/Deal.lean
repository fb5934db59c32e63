import Yola.Whot.Actions

/-!
# The start of a game

Those who are ready pay the stake and get five cards each, one card is turned up, and one of them is to
begin.
-/

namespace Yola.Whot.Table

variable {n : Nat} {t t' u : Table n} {c d : Fin n} {p : Player} {rc : RoomConfig} {chairs : List (Fin n)}

/-! ## Who plays -/

theorem mem_getReadySeats :
    c ∈ t.getReadySeats rc ↔ ∃ p, t.seats c = some p ∧ p.isReady = true ∧ rc.baseMoney ≤ p.money := by
  unfold getReadySeats
  simp only [List.mem_map, List.mem_filter, Bool.and_eq_true, decide_eq_true_eq, Prod.exists,
    exists_eq_right, exists_and_right]
  constructor
  · rintro ⟨p, hp, hready⟩
    exact ⟨p, mem_seated.mp hp, hready⟩
  · rintro ⟨p, hp, hready⟩
    exact ⟨p, mem_seated.mpr hp, hready⟩

theorem seated_chairs_nodup (t : Table n) : (t.seated.map Prod.fst).Nodup := by
  have hsub : (t.seated.map Prod.fst).Sublist (List.finRange n) := by
    unfold seated
    rw [List.map_filterMap]
    have hkeep : (fun c => ((t.seats c).map (c, ·)).map Prod.fst) =
        Option.guard fun c => (t.seats c).isSome := by
      funext c
      cases hc : t.seats c <;> simp [Option.guard, hc]
    rw [hkeep, List.filterMap_eq_filter]
    exact List.filter_sublist
  exact hsub.nodup (List.nodup_finRange n)

theorem getReadySeats_nodup (t : Table n) (rc : RoomConfig) : (t.getReadySeats rc).Nodup :=
  (List.filter_sublist.map _).nodup t.seated_chairs_nodup

def staked (rc : RoomConfig) (p : Player) : Player := (p.setStatus .gaming).intoGaming rc.baseMoney

theorem intoGaming_seats (hnd : chairs.Nodup) :
    (t.intoGaming rc chairs).seats c = if c ∈ chairs then (t.seats c).map (staked rc) else t.seats c := by
  induction chairs generalizing t with
  | nil => rfl
  | cons d rest ih =>
    rw [List.nodup_cons] at hnd
    unfold intoGaming
    rw [List.foldl_cons]
    refine (ih hnd.2).trans ?_
    have hfst : ((t.modify d (staked rc)).sendMatchOk d).seats c =
        if c = d then (t.seats d).map (staked rc) else t.seats c := seats_modify t d c _
    by_cases hc : c = d
    · subst hc
      rw [if_neg hnd.1, if_pos List.mem_cons_self]
      exact hfst.trans (if_pos rfl)
    · rw [if_neg hc] at hfst
      simp only [List.mem_cons, hc, false_or]
      split
      · exact congrArg (Option.map (staked rc)) hfst
      · exact hfst

structure SameTable (t t' : Table n) : Prop where
  cards : t'.cards = t.cards
  pending : t'.pending = t.pending

theorem intoGaming_sameTable (t : Table n) (rc : RoomConfig) (chairs : List (Fin n)) :
    SameTable t (t.intoGaming rc chairs) := by
  induction chairs generalizing t with
  | nil => exact ⟨rfl, rfl⟩
  | cons d rest ih =>
    have hrest := ih ((t.modify d (staked rc)).sendMatchOk d)
    exact ⟨hrest.cards, hrest.pending⟩

/-! ## The cards -/

structure DealtTo (chairs : List (Fin n)) (t t' : Table n) : Prop where
  frame : Frame t t'
  cards : t'.inHands + t'.undealt = t.inHands + t.undealt
  undealt : t'.undealt = t.undealt.drop (5 * chairs.length)
  hands : t'.undealt ≠ [] → ∀ c, t.hand c ≠ [] ∨ c ∈ chairs → t'.hand c ≠ []
  active : t'.active = t.active
  pending : t'.pending = t.pending

theorem deal_dealtTo (hc : t.gaming c = true) : DealtTo [c] t (deal t c) := by
  obtain ⟨p, hp, -⟩ := gaming_iff.mp hc
  have hdeal : Frame t { t with cards := (t.cards.dispatchCards 5).2 } :=
    .of_seats rfl rfl rfl rfl rfl
  have hund : (deal t c).undealt = t.undealt.drop 5 := t.cards.getCards_dispatchCards 5
  have hhands : (deal t c).inHands = t.inHands + t.undealt.take 5 :=
    inHands_addCards (t := { t with cards := (t.cards.dispatchCards 5).2 }) hp
  refine ⟨hdeal.trans (Frame.modify (cardsOnly_addCards _) ((hdeal.gaming c).trans hc)), ?_, hund,
    ?_, rfl, rfl⟩
  · rw [hund, hhands, add_assoc, Multiset.coe_add, List.take_append_drop]
  · intro hleft d hd
    rcases hd with hd | hd
    · exact hand_addCards_ne_nil (t := { t with cards := (t.cards.dispatchCards 5).2 }) hd
    · rw [List.mem_singleton] at hd
      subst hd
      have hhand : (deal t d).hand d = sortCards (p.cards ++ t.undealt.take 5) :=
        hand_modify_self (t := { t with cards := (t.cards.dispatchCards 5).2 }) hp
      rw [hhand, Ne, sortCards_eq_nil, List.append_eq_nil_iff, List.take_eq_nil_iff]
      rintro ⟨-, hnone | hnil⟩
      · cases hnone
      · rw [hund, hnil] at hleft
        exact hleft rfl

theorem foldl_deal_dealtTo (hchairs : ∀ c ∈ chairs, t.gaming c = true) :
    DealtTo chairs t (chairs.foldl deal t) := by
  induction chairs generalizing t with
  | nil =>
    exact ⟨.of_seats rfl rfl rfl rfl rfl, rfl, rfl, fun _ c hc => hc.resolve_right nofun, rfl, rfl⟩
  | cons d rest ih =>
    rw [List.foldl_cons]
    have hfirst := deal_dealtTo (hchairs d List.mem_cons_self)
    have hrest := ih (t := deal t d) fun c hc =>
      (hfirst.frame.gaming c).trans (hchairs c (List.mem_cons_of_mem _ hc))
    refine ⟨hfirst.frame.trans hrest.frame, hrest.cards.trans hfirst.cards, ?_, ?_,
      hrest.active.trans hfirst.active, hrest.pending.trans hfirst.pending⟩
    · rw [hrest.undealt, hfirst.undealt, List.drop_drop, List.length_singleton, List.length_cons]
      congr 1
      omega
    · intro hleft c hc
      apply hrest.hands hleft
      have hbef : (deal t d).undealt ≠ [] := by
        intro hnil
        rw [hrest.undealt, hnil, List.drop_nil] at hleft
        exact hleft rfl
      rcases hc with hc | hc
      · exact .inl (hfirst.hands hbef c (.inl hc))
      · rcases List.mem_cons.mp hc with rfl | hc
        · exact .inl (hfirst.hands hbef c (.inr List.mem_cons_self))
        · exact .inr hc

structure Dispatched (chairs : List (Fin n)) (order : List Card) (t t' : Table n) : Prop where
  blank : ∀ d, t'.blank d = t.blank d
  idle : ∀ d, t.gaming d = false → t'.seats d = t.seats d
  deck : t'.cards.cards.Perm order
  cards : t'.inHands + t'.undealt + t'.cards.bottom = t.inHands + order
  bottom : t'.cards.bottom.length = 1
  undealt : t'.undealt.length + 1 + 5 * chairs.length = order.length
  hands : ∀ c ∈ chairs, t'.hand c ≠ []
  active : t'.active = t.active
  pending : t'.pending = t.pending

theorem dispatchCard_dispatched {order : List Card} (hchairs : ∀ c ∈ chairs, t.gaming c = true)
    (hstep : t.dispatchCard chairs order = some t') : Dispatched chairs order t t' := by
  have hdl := foldl_deal_dealtTo (t := { t with cards := t.cards.shuffle order }) hchairs
  unfold dispatchCard at hstep
  generalize chairs.foldl deal { t with cards := t.cards.shuffle order } = u at hdl hstep
  have hbot := u.cards.setBottom_append
  have hfr := hdl.frame
  dsimp only at hstep
  split at hstep
  · cases hstep
  · rename_i card rest hcard
    cases hstep
    have hone : u.cards.setBottom.1.length ≤ 1 := List.length_take_le _ _
    have hlen : u.cards.setBottom.1.length = 1 := by
      rw [hcard, List.length_cons] at hone ⊢
      omega
    have hleft : u.undealt.length = 1 + u.cards.setBottom.2.getCards.length := by
      rw [← hlen, ← List.length_append]
      exact hbot.length_eq.symm
    have htotal : u.undealt.length = order.length - 5 * chairs.length := by
      rw [hdl.undealt, List.length_drop]
      rfl
    refine ⟨hfr.blank, hfr.idle, ?_, ?_, hlen, ?_, ?_, hdl.active, hdl.pending⟩
    · have hperm := u.cards.setBottom_cards
      rw [hfr.deck] at hperm
      exact hperm
    · have hall : u.inHands + u.undealt = t.inHands + order := hdl.cards
      rw [← hall]
      change u.inHands + u.cards.setBottom.2.getCards + u.cards.setBottom.1 = _
      rw [add_assoc, Multiset.coe_add]
      exact congrArg (u.inHands + ·) (Multiset.coe_eq_coe.mpr (List.perm_append_comm.trans hbot))
    · change u.cards.setBottom.2.getCards.length + 1 + _ = _
      omega
    · intro c hc
      refine hdl.hands ?_ c (.inr hc)
      intro hnil
      rw [hnil, List.length_nil] at hleft
      omega

/-! ## The start as a whole -/

structure Started (rc : RoomConfig) (t : Table n) (gamers : List (Fin n)) (t' : Table n) : Prop where
  nodup : gamers.Nodup
  many : 2 ≤ gamers.length
  players : ∀ c ∈ gamers, ∃ p, t.seats c = some p ∧ t'.blank c = some { staked rc p with cards := [] }
  others : ∀ c, c ∉ gamers → t'.seats c = t.seats c
  deck : t'.cards.cards.Perm t.cards.cards
  cards : t'.inHands + t'.undealt + t'.cards.bottom = t.cards.cards
  bottom : t'.cards.bottom.length = 1
  undealt : t'.undealt.length + 1 + 5 * gamers.length = t.cards.cards.length
  hands : ∀ c ∈ gamers, t'.hand c ≠ []
  active : ∃ c ∈ gamers, t'.active = some c
  pending : t'.pending = t.pending
  state : t'.stage.state = .sendCard
  timer : t'.stage.generation ∈ t'.timers

theorem Started.gaming (h : Started rc t chairs t') (hnone : ∀ c, t.gaming c = false) :
    t'.gaming c = true ↔ c ∈ chairs := by
  constructor
  · intro hc
    by_contra hout
    have hseats := h.others c hout
    unfold Table.gaming at hc
    rw [hseats] at hc
    exact absurd hc (by rw [← Table.gaming, hnone c]; exact Bool.false_ne_true)
  · intro hc
    obtain ⟨p, -, hblank⟩ := h.players c hc
    unfold blank at hblank
    obtain ⟨q, hq, hpl⟩ := Option.map_eq_some_iff.mp hblank
    refine gaming_iff.mpr ⟨q, hq, ?_⟩
    have hstatus := congrArg Player.status hpl
    unfold Player.isGaming
    rw [decide_eq_true_eq]
    exact hstatus

theorem inHands_eq_zero (h : ∀ c, t.hand c = []) : t.inHands = 0 := by
  unfold inHands
  exact Finset.sum_eq_zero fun c _ => by rw [h c]; rfl

theorem onGameStart_started {r : Random} {e : TableEvent n} (hnone : ∀ c, t.gaming c = false)
    (hhands : ∀ c, t.hand c = []) (hord : r.order.Perm t.cards.cards) (hready : t.stage.state = .ready)
    (hstep : t.onGameStart rc r = some (e, t')) :
    e = .silent ∧ t' = t.updateStage .wait ∨ ∃ gamers, e = .started gamers ∧ Started rc t gamers t' := by
  unfold onGameStart at hstep
  rw [if_neg (not_not_intro hready)] at hstep
  dsimp only at hstep
  split at hstep
  · cases hstep
    exact .inl ⟨rfl, rfl⟩
  · rename_i hmany
    obtain ⟨u, hu, htab⟩ := Option.map_eq_some_iff.mp hstep
    cases htab
    refine .inr ⟨_, rfl, ?_⟩
    let gamers := t.getReadySeats rc
    let v := t.intoGaming rc gamers
    have hnd := t.getReadySeats_nodup rc
    have hinto (c : Fin n) : v.seats c = _ := intoGaming_seats hnd
    have hsame := t.intoGaming_sameTable rc gamers
    have hplaying (c : Fin n) (hc : c ∈ gamers) :
        (v.calcBanker gamers r.banker).gaming c = true := by
      obtain ⟨p, hp, -⟩ := mem_getReadySeats.mp hc
      refine gaming_iff.mpr ⟨staked rc p, ?_, rfl⟩
      refine (hinto c).trans ?_
      rw [if_pos hc, hp]
      rfl
    have hdisp := dispatchCard_dispatched hplaying hu
    have hemp : (v.calcBanker gamers r.banker).inHands = 0 := by
      apply inHands_eq_zero
      intro c
      have hold := hhands c
      unfold hand at hold ⊢
      change ((v.seats c).map _).getD [] = []
      rw [hinto c]
      split
      · rw [Option.map_map]
        exact hold
      · exact hold
    refine ⟨hnd, Nat.le_of_not_lt hmany, ?_, ?_, hdisp.deck.trans hord, ?_,
      hdisp.bottom, ?_, hdisp.hands, ?_, hdisp.pending.trans hsame.pending, rfl, ?_⟩
    · intro c hc
      obtain ⟨p, hp, -⟩ := mem_getReadySeats.mp hc
      refine ⟨p, hp, (hdisp.blank c).trans ?_⟩
      change (v.seats c).map _ = _
      rw [hinto c, if_pos hc, hp]
      rfl
    · intro c hc
      have hseats := hinto c
      rw [if_neg hc] at hseats
      refine (hdisp.idle c ?_).trans hseats
      change (v.seats c).any _ = false
      rw [hseats]
      exact hnone c
    · have hcards := hdisp.cards
      rw [hemp, zero_add] at hcards
      exact hcards.trans (Multiset.coe_eq_coe.mpr hord)
    · exact hdisp.undealt.trans hord.length_eq
    · have hpos : 0 < (t.getReadySeats rc).length := by omega
      have hindex := Nat.mod_lt r.banker hpos
      refine ⟨gamers.get ⟨_, hindex⟩, List.get_mem _ _, ?_⟩
      refine hdisp.active.trans ?_
      exact List.getElem?_eq_getElem hindex
    · exact List.mem_append_right _ List.mem_cons_self

end Yola.Whot.Table
