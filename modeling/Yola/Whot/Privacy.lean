import Mathlib.Data.Nat.ModEq
import Yola.Whot.Turns

/-!
# What a player gets to see

Two tables are the same for a viewer if they differ only in the cards that others hold and in those that
are not dealt, both as many.  Everything that is sent to the viewer, up to the result of a game, is then
the same.
-/

namespace Yola.Whot.Table

variable {n : Nat} {t t' u u' : Table n} {v c : Fin n} {rc : RoomConfig}

def inbox (t : Table n) (v : Fin n) : List (Push n) := (t.outbox.filter (·.1 = v)).map Prod.snd

structure SameFor (v : Fin n) (t t' : Table n) : Prop where
  clock : t'.clock = t.clock
  stage : t'.stage = t.stage
  timers : t'.timers = t.timers
  active : t'.active = t.active
  first : t'.first = t.first
  currCard : t'.currCard = t.currCard
  declareSuit : t'.declareSuit = t.declareSuit
  pending : t'.pending = t.pending
  bottom : t'.cards.bottom = t.cards.bottom
  left : t'.undealt.length = t.undealt.length
  blank : ∀ c, t'.blank c = t.blank c
  count : ∀ c, (t'.hand c).length = (t.hand c).length
  own : t'.hand v = t.hand v
  inbox : t'.inbox v = t.inbox v

namespace SameFor

variable (h : SameFor v t t')

include h

theorem seat (c : Fin n) : t.seats c = none ∧ t'.seats c = none ∨
      ∃ p cards, t.seats c = some p ∧ t'.seats c = some { p with cards := cards } ∧
        cards.length = p.cards.length ∧ (c = v → cards = p.cards) := by
  have hblank := h.blank c
  have hcnt := h.count c
  unfold Table.blank at hblank
  cases hp : t.seats c with
  | none =>
    rw [hp, Option.map_none, Option.map_eq_none_iff] at hblank
    exact .inl ⟨rfl, hblank⟩
  | some p =>
    rw [hp] at hblank
    obtain ⟨q, hq, hrest⟩ := Option.map_eq_some_iff.mp hblank
    have hpl : q = { p with cards := q.cards } := by
      have hcards := congrArg (fun r : Player => { r with cards := q.cards }) hrest
      exact hcards
    refine .inr ⟨p, q.cards, rfl, by rw [hq, ← hpl], ?_, ?_⟩
    · rw [hand_eq hq, hand_eq hp] at hcnt
      exact hcnt
    · rintro rfl
      have hown := h.own
      rw [hand_eq hq, hand_eq hp] at hown
      exact hown

theorem seats_self : t'.seats v = t.seats v := by
  rcases h.seat v with ⟨hnone, hnone'⟩ | ⟨p, cards, hp, hp', -, hown⟩
  · rw [hnone, hnone']
  · rw [hp, hp', hown rfl]

theorem gaming (c : Fin n) : t'.gaming c = t.gaming c := gaming_eq_of_blank (h.blank c)

theorem length_getGamers : t'.getGamers.length = t.getGamers.length := getGamers_length_of_blank h.blank

theorem nextPlayer (c : Fin n) : t'.nextPlayer c = t.nextPlayer c := by
  unfold Table.nextPlayer
  congr 1
  funext d
  exact h.gaming d

theorem getCardNum : t'.cards.getCardNum = t.cards.getCardNum := by
  rw [GameCards.getCardNum_eq, GameCards.getCardNum_eq]
  exact h.left

theorem getCanOp : t'.getCanOp v = t.getCanOp v := by
  unfold Table.getCanOp
  rw [h.seats_self, h.length_getGamers, h.active, h.stage, h.currCard, h.pending]

end SameFor

/-! ## Messages -/

inductive Broadcast (n : Nat) where
  | userInfo (c : Fin n)
  | ready (p : Player) (isReady : Bool)
  | hosting (c : Fin n) (isHosting : Bool)
  | userOffline (c : Fin n)
  | userQuit (c : Fin n) (p : Player)
  | matchOk (c : Fin n)
  | sendCard (seats : List (Fin n)) (bottom : List Card) (leftNum : Nat)
  | scene (c : Fin n)
  | active
  | playerAction (c : Fin n) (action : Action) (cs : List Card) (declaredSuit : Int)
  | marketDraw (c : Fin n) (draw : List Card)

def Broadcast.send (rc : RoomConfig) (t : Table n) : Broadcast n → Table n
  | .userInfo c => t.broadcastUserInfo c
  | .ready p isReady => t.broadcastReadyRsp p isReady
  | .hosting c isHosting => t.broadcastHostingRsp c isHosting
  | .userOffline c => t.broadcastUserOffline c
  | .userQuit c p => t.broadcastUserQuitPush c p
  | .matchOk c => t.sendMatchOk c
  | .sendCard seats bottom leftNum => t.dispatchCardPush seats bottom leftNum
  | .scene c => t.sendSceneInfo rc c
  | .active => t.broadcastActivePlayerPush
  | .playerAction c action cs declaredSuit => t.broadcastPlayerAction c action cs declaredSuit
  | .marketDraw c draw => t.sendMarketDrawCardPush c draw

/-- The same to send, as far as the viewer is to know: of what others draw, only how much it is. -/
inductive SamePublic (v : Fin n) : Broadcast n → Broadcast n → Prop where
  | refl (b : Broadcast n) : SamePublic v b b
  | playerAction {c : Fin n} {action : Action} {cs cs' : List Card} (declaredSuit : Int) (other : c ≠ v)
      (length : cs'.length = cs.length) (played : action = .playCard → cs' = cs) :
      SamePublic v (.playerAction c action cs declaredSuit) (.playerAction c action cs' declaredSuit)
  | marketDraw {c : Fin n} {draw draw' : List Card} (other : c ≠ v)
      (length : draw'.length = draw.length) :
      SamePublic v (.marketDraw c draw) (.marketDraw c draw')

def eraseHand (x : Fin n × Player) : Fin n × Player := (x.1, { x.2 with cards := [] })

namespace SameFor

variable {l l' : List (Fin n × Push n)} {p p' : Player} {cards cards' : List Card} {card : Card}

section

variable (h : SameFor v t t')

include h

theorem seated_eraseHand : t'.seated.map eraseHand = t.seated.map eraseHand := by
  have hblank (u : Table n) : u.seated.map eraseHand =
      (List.finRange n).filterMap fun c => (u.blank c).map (c, ·) := by
    unfold seated Table.blank
    rw [List.map_filterMap]
    congr 1
    funext c
    rw [Option.map_map, Option.map_map]
    rfl
  rw [hblank, hblank]
  congr 1
  funext c
  rw [h.blank c]

theorem seated_self : t'.seated.filter (·.1 = v) = t.seated.filter (·.1 = v) := by
  unfold seated
  rw [List.filter_filterMap, List.filter_filterMap]
  congr 1
  funext c
  by_cases hc : c = v
  · rw [hc, h.seats_self]
  · cases t'.seats c <;> cases t.seats c <;> simp [Option.filter, hc]

theorem filter_seated {f f' : Fin n × Player → Push n} (hf : ∀ p, t.seats v = some p → f' (v, p) = f (v, p)) :
    (t'.seated.map fun x => (x.1, f' x)).filter (·.1 = v) =
      (t.seated.map fun x => (x.1, f x)).filter (·.1 = v) := by
  rw [List.filter_map, List.filter_map]
  change (t'.seated.filter (·.1 = v)).map _ = (t.seated.filter (·.1 = v)).map _
  rw [h.seated_self]
  apply List.map_congr_left
  rintro ⟨c, p⟩ hx
  rw [List.mem_filter, decide_eq_true_eq] at hx
  obtain ⟨hseat, rfl⟩ := hx
  rw [hf p (mem_seated.mp hseat)]

theorem push (hl : l'.filter (·.1 = v) = l.filter (·.1 = v)) : SameFor v (t.push l) (t'.push l') := by
  refine { h with inbox := ?_ }
  have honline : (fun d : Fin n × Push n => (t'.seats d.1).any (!·.isOffline)) =
      fun d => (t.seats d.1).any (!·.isOffline) := by
    funext d
    rcases h.seat d.1 with ⟨hnone, hnone'⟩ | ⟨p, cards, hp, hp', -⟩
    · rw [hnone, hnone']
    · rw [hp, hp']
      rfl
  have hinbox := h.inbox
  unfold Table.inbox at hinbox ⊢
  change ((t'.outbox ++ l'.filter _).filter _).map _ = ((t.outbox ++ l.filter _).filter _).map _
  rw [List.filter_append, List.filter_append, List.map_append, List.map_append, hinbox, honline,
    List.filter_comm, hl, List.filter_comm]

theorem push_public (hl : l' = l) : SameFor v (t.push l) (t'.push l') := h.push (by rw [hl])

theorem toAllExcept (msg : Push n) (uid : Int) : t'.toAllExcept msg uid = t.toAllExcept msg uid := by
  have herase (u : Table n) : u.toAllExcept msg uid =
      ((u.seated.map eraseHand).filter fun x => x.2.uid ≠ uid).map fun x => (x.1, msg) := by
    unfold Table.toAllExcept
    rw [List.filter_map, List.map_map]
    rfl
  rw [herase, herase, h.seated_eraseHand]

theorem broadcastUserInfo (c : Fin n) : SameFor v (t.broadcastUserInfo c) (t'.broadcastUserInfo c) := by
  refine h.push_public ?_
  rcases h.seat c with ⟨hnone, hnone'⟩ | ⟨p, cards, hp, hp', -⟩
  · rw [hnone, hnone']
  · have herase (u : Table n) : ((u.seated.filter fun x => x.1 ≠ c).flatMap fun x =>
        [(x.1, userInfo (c, p)), (c, userInfo x)]) =
        ((u.seated.map eraseHand).filter fun x => x.1 ≠ c).flatMap fun x =>
          [(x.1, userInfo (c, p)), (c, userInfo x)] := by
      rw [List.filter_map, List.flatMap_map]
      rfl
    have hothers := (herase t').trans (h.seated_eraseHand ▸ (herase t).symm)
    rw [hp, hp']
    exact congrArg (List.cons (c, userInfo (c, p))) hothers

theorem broadcastHostingRsp (c : Fin n) (hosting : Bool) :
    SameFor v (t.broadcastHostingRsp c hosting) (t'.broadcastHostingRsp c hosting) := by
  refine h.push_public ?_
  rcases h.seat c with ⟨hnone, hnone'⟩ | ⟨p, cards, hp, hp', -⟩
  · rw [hnone, hnone']
  · rw [hp, hp']
    exact h.toAllExcept _ _

theorem broadcastUserOffline (c : Fin n) : SameFor v (t.broadcastUserOffline c) (t'.broadcastUserOffline c) := by
  refine h.push ?_
  rcases h.seat c with ⟨hnone, hnone'⟩ | ⟨p, cards, hp, hp', -⟩
  · rw [hnone, hnone']
  · rw [hp, hp']
    exact h.filter_seated fun _ _ => rfl

theorem sendMatchOk (c : Fin n) : SameFor v (t.sendMatchOk c) (t'.sendMatchOk c) := by
  refine h.push_public ?_
  rcases h.seat c with ⟨hnone, hnone'⟩ | ⟨p, cards, hp, hp', -⟩
  · rw [hnone, hnone']
  · rw [hp, hp']
    rfl

theorem dispatchCardPush (seats : List (Fin n)) (bottom : List Card) (leftNum : Nat) :
    SameFor v (t.dispatchCardPush seats bottom leftNum) (t'.dispatchCardPush seats bottom leftNum) := by
  refine h.push ?_
  rw [List.filter_filterMap, List.filter_filterMap]
  congr 1
  funext c
  by_cases hc : c = v
  · rw [hc, h.seats_self]
  · have hoth (o : Option Player) (f : Player → Push n) :
        (o.bind fun p => if p.isGaming then some (c, f p) else none).filter (·.1 = v) = none := by
      cases o with
      | none => rfl
      | some p => cases hg : p.isGaming <;> simp [Option.filter, hg, hc]
    rw [hoth, hoth]

theorem sceneInfo : t'.sceneInfo rc v = t.sceneInfo rc v := by
  have hpls : t'.getPlayersScene v = t.getPlayersScene v := by
    unfold getPlayersScene seated
    rw [List.map_filterMap, List.map_filterMap]
    congr 1
    funext c
    rw [Option.map_map, Option.map_map]
    rcases h.seat c with ⟨hnone, hnone'⟩ | ⟨p, cards, hp, hp', -, hown⟩
    · rw [hnone, hnone']
      rfl
    · rw [hp, hp', Option.map_some, Option.map_some]
      by_cases hc : c = v
      · subst hc
        rw [hown rfl]
        simp [getScene, h.getCanOp]
      · simp [getScene, hc]
  unfold Table.sceneInfo
  rw [hpls, h.stage, h.clock, h.active, h.first, h.currCard, h.declareSuit, h.getCardNum, h.pending]

theorem sendSceneInfo (c : Fin n) : SameFor v (t.sendSceneInfo rc c) (t'.sendSceneInfo rc c) := by
  refine h.push ?_
  by_cases hc : c = v
  · subst hc
    rw [h.sceneInfo]
  · simp [hc]

theorem broadcastActivePlayerPush : SameFor v t.broadcastActivePlayerPush t'.broadcastActivePlayerPush := by
  refine h.push (h.filter_seated fun p _ => ?_)
  unfold activePush
  rw [h.stage, h.clock, h.active, h.getCardNum, h.pending, h.getCanOp]

end

theorem uid_ne (hids : DistinctIds t) (hc : c ≠ v) {q : Player} (hp : t.seats c = some p)
    (hq : t.seats v = some q) : q.uid ≠ p.uid :=
  fun huid => hc (hids v c q p hq hp huid).symm

theorem broadcastPlayerAction {action : Action} {cs cs' : List Card} {declaredSuit : Int}
    (h : SameFor v t t') (hids : DistinctIds t) (hlen : cs'.length = cs.length)
    (hsame : action = .playCard ∨ c = v → cs' = cs) :
    SameFor v (t.broadcastPlayerAction c action cs declaredSuit)
      (t'.broadcastPlayerAction c action cs' declaredSuit) := by
  refine h.push ?_
  rcases h.seat c with ⟨hnone, hnone'⟩ | ⟨p, cards, hp, hp', hcnt, hown⟩
  · rw [hnone, hnone']
  · rw [hp, hp']
    refine h.filter_seated fun q hq => ?_
    unfold playerActionRsp
    by_cases hc : c = v
    · rw [hsame (.inr hc), hown hc, h.getCardNum, h.pending]
    · have hother := uid_ne hids hc hp hq
      by_cases hplay : action = .playCard
      · simp [hplay, hsame (.inl hplay), hother, h.getCardNum, h.pending, hcnt]
      · simp [hplay, hother, hlen, h.getCardNum, h.pending, hcnt]

theorem sendMarketDrawCardPush {draw draw' : List Card} (h : SameFor v t t') (hids : DistinctIds t)
    (hlen : draw'.length = draw.length) (hsame : c = v → draw' = draw) :
    SameFor v (t.sendMarketDrawCardPush c draw) (t'.sendMarketDrawCardPush c draw') := by
  refine h.push ?_
  rcases h.seat c with ⟨hnone, hnone'⟩ | ⟨p, cards, hp, hp', hcnt, hown⟩
  · rw [hnone, hnone']
  · rw [hp, hp']
    refine h.filter_seated fun q hq => ?_
    unfold marketDrawCardPush
    by_cases hc : c = v
    · rw [hsame hc, hown hc, h.getCardNum]
    · simp [uid_ne hids hc hp hq, hlen, h.getCardNum, hcnt]

theorem send {b b' : Broadcast n} (h : SameFor v t t') (hids : DistinctIds t) (hb : SamePublic v b b') :
    SameFor v (b.send rc t) (b'.send rc t') := by
  cases hb with
  | playerAction declaredSuit other length played =>
    exact h.broadcastPlayerAction hids length fun hcase => hcase.elim played fun hc => absurd hc other
  | marketDraw other length => exact h.sendMarketDrawCardPush hids length fun hc => absurd hc other
  | refl b =>
    cases b with
    | userInfo c => exact h.broadcastUserInfo c
    | ready | userQuit => exact h.push_public (h.toAllExcept _ _)
    | hosting c isHosting => exact h.broadcastHostingRsp c isHosting
    | userOffline c => exact h.broadcastUserOffline c
    | matchOk c => exact h.sendMatchOk c
    | sendCard seats bottom leftNum => exact h.dispatchCardPush seats bottom leftNum
    | scene c => exact h.sendSceneInfo c
    | active => exact h.broadcastActivePlayerPush
    | playerAction => exact h.broadcastPlayerAction hids rfl fun _ => rfl
    | marketDraw => exact h.sendMarketDrawCardPush hids rfl fun _ => rfl

/-! ## Actions -/

variable (h : SameFor v t t')

include h

theorem modify {f f' : Player → Player} (hf : CardsOnly f) (hf' : CardsOnly f')
    (hlen : ∀ p p', t.seats c = some p → t'.seats c = some p' → (f' p').cards.length = (f p).cards.length)
    (hown : c = v → ∀ p, t.seats c = some p → (f' p).cards = (f p).cards) :
    SameFor v (t.modify c f) (t'.modify c f') := by
  have hcnt (d : Fin n) : ((t'.modify c f').hand d).length = ((t.modify c f).hand d).length := by
    by_cases hd : d = c
    · subst hd
      rcases h.seat d with ⟨hnone, hnone'⟩ | ⟨p, cards, hp, hp', -⟩
      · unfold hand
        rw [seats_modify_self, seats_modify_self, hnone, hnone']
        rfl
      · rw [hand_modify_self hp, hand_modify_self hp']
        exact hlen _ _ hp hp'
    · rw [hand_modify_of_ne hd, hand_modify_of_ne hd]
      exact h.count d
  have hsame : (t'.modify c f').hand v = (t.modify c f).hand v := by
    by_cases hc : c = v
    · subst hc
      cases hp : t.seats c with
      | none =>
        unfold hand
        rw [seats_modify_self, seats_modify_self, h.seats_self, hp]
        rfl
      | some p =>
        rw [hand_modify_self hp, hand_modify_self (h.seats_self.trans hp)]
        exact hown rfl p hp
    · rw [hand_modify_of_ne (Ne.symm hc), hand_modify_of_ne (Ne.symm hc)]
      exact h.own
  exact { h with
    blank := fun d => by rw [blank_modify hf', blank_modify hf, h.blank]
    count := hcnt
    own := hsame }

theorem dispatchCards (k : Nat) : SameFor v { t with cards := (t.cards.dispatchCards k).2 }
        { t' with cards := (t'.cards.dispatchCards k).2 } ∧
      (t'.cards.dispatchCards k).1.length = (t.cards.dispatchCards k).1.length := by
  have hleft : t'.cards.getCards.length = t.cards.getCards.length := h.left
  refine ⟨{ h with bottom := h.bottom, left := ?_ }, ?_⟩
  · change (t'.cards.dispatchCards k).2.getCards.length = (t.cards.dispatchCards k).2.getCards.length
    rw [GameCards.getCards_dispatchCards, GameCards.getCards_dispatchCards, List.length_drop,
      List.length_drop, hleft]
  · rw [GameCards.dispatchCards_fst, GameCards.dispatchCards_fst, List.length_take, List.length_take,
      hleft]

theorem isEmpty : t'.cards.isEmpty = t.cards.isEmpty := by
  rw [Bool.eq_iff_iff, GameCards.isEmpty_iff, GameCards.isEmpty_iff, ← List.length_eq_zero_iff,
    ← List.length_eq_zero_iff]
  exact iff_of_eq (congrArg (· = 0) h.left)

theorem addCards (hlen : cards'.length = cards.length) (hown : c = v → cards' = cards) :
    SameFor v (t.modify c (·.addCards cards)) (t'.modify c (·.addCards cards')) := by
  refine h.modify (cardsOnly_addCards _) (cardsOnly_addCards _) ?_ ?_
  · intro p p' hp hp'
    have hcnt := h.count c
    rw [hand_eq hp, hand_eq hp'] at hcnt
    change (sortCards _).length = (sortCards _).length
    rw [sortCards_length, sortCards_length, List.length_append, List.length_append, hcnt, hlen]
  · intro hc p _
    rw [hown hc]

theorem removeCard (hc : c ≠ v)
    (hp : t.seats c = some p) (hp' : t'.seats c = some p') (hcard : card ∈ p.cards)
    (hcard' : card ∈ p'.cards) : SameFor v (t.modify c (·.removeCard card)) (t'.modify c (·.removeCard card)) := by
  refine h.modify (cardsOnly_removeCard _) (cardsOnly_removeCard _) ?_ fun heq => absurd heq hc
  intro q q' hq hq'
  rw [hp] at hq
  rw [hp'] at hq'
  cases hq
  cases hq'
  have hcnt := h.count c
  rw [hand_eq hp, hand_eq hp'] at hcnt
  change (sortCards _).length = (sortCards _).length
  rw [sortCards_length, sortCards_length, List.length_erase_of_mem hcard,
    List.length_erase_of_mem hcard', hcnt]

theorem passTo {active : Option (Fin n)} : SameFor v (t.passTo active) (t'.passTo active) := by
  have hst : SameFor v ({ t with active := active }.updateStage .playing)
      ({ t' with active := active }.updateStage .playing) := by
    refine { h with active := rfl, stage := ?_, timers := ?_ }
    · change Stage.mk _ _ _ _ = Stage.mk _ _ _ _
      rw [h.stage, h.clock]
    · change t'.timers ++ _ = t.timers ++ _
      rw [h.timers, h.stage]
  exact hst.broadcastActivePlayerPush

theorem updateStage (s : StageID) : SameFor v (t.updateStage s) (t'.updateStage s) := by
  refine { h with stage := ?_, timers := ?_ }
  · change Stage.mk _ _ _ _ = Stage.mk _ _ _ _
    rw [h.stage, h.clock]
  · change t'.timers ++ _ = t.timers ++ _
    rw [h.timers, h.stage]

theorem getNextActiveChair : t'.getNextActiveChair = t.getNextActiveChair := by
  unfold Table.getNextActiveChair
  rw [h.active]
  congr 1
  funext c
  exact h.nextPlayer c

theorem passToNext : SameFor v t.passToNext t'.passToNext := by
  unfold Table.passToNext
  rw [h.pending, h.getNextActiveChair]
  exact h.passTo

theorem layCard (hids : DistinctIds t) (hc : c ≠ v)
    (hp : t.seats c = some p) (hp' : t'.seats c = some p') (hcard : card ∈ p.cards)
    (hcard' : card ∈ p'.cards) : SameFor v (t.layCard c card) (t'.layCard c card) := by
  have hrm := h.removeCard hc hp hp' hcard hcard'
  have hlaid : SameFor v ({ t.modify c (·.removeCard card) with
      currCard := card, declareSuit := -1 }.updatePending c card)
      ({ t'.modify c (·.removeCard card) with currCard := card, declareSuit := -1 }.updatePending c card) := by
    exact { hrm with
      currCard := rfl
      declareSuit := rfl
      pending := pendingOf_congr (hrm.nextPlayer c) }
  refine hlaid.broadcastPlayerAction ?_ rfl fun _ => rfl
  exact hids.of_ids fun d => map_uid_of_blank (blank_modify (cardsOnly_removeCard card) c d)

/-- A hand that has got one card is the same only if it is the same card. -/
theorem addCards_inj (hv : t.gaming v = true) (hone : cards.length ≤ 1)
    (hown : (t'.modify v (·.addCards cards')).hand v = (t.modify v (·.addCards cards)).hand v) :
    cards' = cards := by
  obtain ⟨p, hp, -⟩ := gaming_iff.mp hv
  rw [hand_modify_self (h.seats_self.trans hp), hand_modify_self hp] at hown
  have hboth : sortCards (p.cards ++ cards') = sortCards (p.cards ++ cards) := hown
  have hperm := sortCards_perm (p.cards ++ cards')
  rw [hboth] at hperm
  have hcards := (List.perm_append_left_iff _).mp (hperm.symm.trans (sortCards_perm _))
  match cards, hone with
  | [], _ => exact List.perm_nil.mp hcards
  | [card], _ => exact List.perm_singleton.mp hcards

theorem handEmpty (c : Fin n) : (t'.seats c).any (·.cards.length = 0) = (t.seats c).any (·.cards.length = 0) := by
  rcases h.seat c with ⟨hnone, hnone'⟩ | ⟨p, cards, hp, hp', hcnt, -⟩
  · rw [hnone, hnone']
  · rw [hp, hp', Option.any_some, Option.any_some, hcnt]

end SameFor

theorem drawCardByMarket_hand {chairs : List (Fin n)} (hv : v ∉ chairs) (t : Table n) :
    (drawCardByMarket chairs t).2.hand v = t.hand v := by
  induction chairs generalizing t with
  | nil => rfl
  | cons c rest ih =>
    rw [List.mem_cons, not_or] at hv
    unfold drawCardByMarket
    split
    · exact ih hv.2 t
    · dsimp only
      split
      · rfl
      · rw [ih hv.2]
        exact hand_modify_of_ne hv.1

theorem chairsAfter_nodup (c : Fin n) {k : Nat} (hk : k ≤ n) : (chairsAfter c k).Nodup := by
  unfold chairsAfter
  refine List.Nodup.map_on ?_ List.nodup_range
  intro a ha b hb heq
  rw [List.mem_range] at ha hb
  have hmod : (c + 1 + a) % n = (c + 1 + b) % n := congrArg Fin.val heq
  exact Nat.ModEq.eq_of_lt_of_lt (Nat.ModEq.add_left_cancel' _ hmod) (by omega) (by omega)

namespace SameFor

variable (h : SameFor v t t')

include h

variable (hids : DistinctIds t)

include hids

/-- The viewer draws the same card if their hand is the same afterwards. -/
theorem drawCardByMarket {chairs : List (Fin n)} (hnd : chairs.Nodup)
    (hown : (drawCardByMarket chairs t').2.hand v = (drawCardByMarket chairs t).2.hand v) :
    (Table.drawCardByMarket chairs t').1 = (Table.drawCardByMarket chairs t).1 ∧
      SameFor v (Table.drawCardByMarket chairs t).2 (Table.drawCardByMarket chairs t').2 := by
  induction chairs generalizing t t' with
  | nil => exact ⟨h.isEmpty, h⟩
  | cons c rest ih =>
    rw [List.nodup_cons] at hnd
    obtain ⟨hdl, hlen⟩ := h.dispatchCards 1
    unfold Table.drawCardByMarket at hown ⊢
    rw [h.gaming c] at hown ⊢
    split at hown
    · rename_i hc
      rw [if_pos hc, if_pos hc]
      exact ih h hids hnd.2 hown
    · rename_i hc
      rw [if_neg hc, if_neg hc]
      dsimp only at hown ⊢
      rw [hlen] at hown ⊢
      split at hown
      · rename_i hnone
        rw [if_pos hnone, if_pos hnone]
        exact ⟨rfl, hdl⟩
      · rename_i hsome
        rw [if_neg hsome, if_neg hsome]
        have hdraw : c = v → (t'.cards.dispatchCards 1).1 = (t.cards.dispatchCards 1).1 := by
          rintro rfl
          rw [drawCardByMarket_hand hnd.1, drawCardByMarket_hand hnd.1] at hown
          have hgam : t.gaming c = true := by simpa using hc
          exact hdl.addCards_inj hgam (List.length_take_le _ _) hown
        have hadd := hdl.addCards (c := c) hlen hdraw
        have hids' : DistinctIds ({ t with cards := (t.cards.dispatchCards 1).2 }.modify c
            (·.addCards (t.cards.dispatchCards 1).1)) :=
          hids.of_ids fun d => map_uid_of_blank (blank_modify (cardsOnly_addCards _) c d)
        exact ih (hadd.sendMarketDrawCardPush hids' hlen hdraw) hids' hnd.2 hown

theorem onPlayCard {card : Card} {p p' : Player} (hc : c ≠ v)
    (hp : t.seats c = some p) (hp' : t'.seats c = some p') (hcard : card ∈ p.cards)
    (hcard' : card ∈ p'.cards) (hown : (t'.onPlayCard c card).hand v = (t.onPlayCard c card).hand v) :
    SameFor v (t.onPlayCard c card) (t'.onPlayCard c card) := by
  have hlaid := h.layCard hids hc hp hp' hcard hcard'
  have hids' : DistinctIds (t.layCard c card) :=
    hids.of_ids fun d => map_uid_of_blank (blank_modify (cardsOnly_removeCard card) c d)
  unfold Table.onPlayCard at hown ⊢
  dsimp only at hown ⊢
  rw [hlaid.handEmpty c, hlaid.pending] at hown ⊢
  split
  · exact hlaid.updateStage _
  · rename_i hleft
    rw [if_neg hleft, if_neg hleft] at hown
    split
    · rename_i hmkt
      rw [if_pos hmkt, if_pos hmkt] at hown
      have hend (u : Table n) (deckEmpty : Bool) :
          (if deckEmpty = true then u.updateStage .waitEnd else u.passToNext).hand v = u.hand v := by
        cases deckEmpty <;> rfl
      rw [hend, hend] at hown
      have hnone : SameFor v { t.layCard c card with pending := none }
          { t'.layCard c card with pending := none } := { hlaid with pending := rfl }
      obtain ⟨hemp, hdrawn⟩ :=
        hnone.drawCardByMarket hids' (chairsAfter_nodup c (Nat.sub_le n 1)) hown
      rw [hemp]
      split
      · exact hdrawn.updateStage _
      · exact hdrawn.passToNext
    · exact hlaid.passToNext

theorem drew {drawn drawn' : List Card} (hc : c ≠ v) (hlen : drawn'.length = drawn.length) :
    SameFor v ((t.modify c (·.addCards drawn)).broadcastPlayerAction c .drawCard drawn 0)
      ((t'.modify c (·.addCards drawn')).broadcastPlayerAction c .drawCard drawn' 0) := by
  have hids' : DistinctIds (t.modify c (·.addCards drawn)) :=
    hids.of_ids fun d => map_uid_of_blank (blank_modify (cardsOnly_addCards drawn) c d)
  refine (h.addCards hlen fun heq => absurd heq hc).broadcastPlayerAction hids' hlen ?_
  rintro (hplay | heq)
  · cases hplay
  · exact absurd heq hc

theorem onDrawCard (hc : c ≠ v) : SameFor v (t.onDrawCard c) (t'.onDrawCard c) := by
  have hcnt : t'.drawCount = t.drawCount := by
    unfold drawCount
    rw [h.pending]
  obtain ⟨hdl, hlen⟩ := h.dispatchCards t.drawCount
  have hemp := hdl.isEmpty
  unfold Table.onDrawCard
  rw [hcnt]
  dsimp only at hemp ⊢
  rw [hlen, hemp]
  split
  · exact hdl.updateStage _
  · -- a pending effect is answered in both or in none
    by_cases hany : (t.pending.any fun pending => pending.target = some c) = true
    · have hnone : SameFor v
          { t with cards := (t.cards.dispatchCards t.drawCount).2, pending := none }
          { t' with cards := (t'.cards.dispatchCards t.drawCount).2, pending := none } :=
        { hdl with pending := rfl }
      have hdrew := hnone.drew hids hc hlen
      rw [if_pos hany, if_pos (by rw [h.pending]; exact hany), hdrew.getNextActiveChair]
      exact hdrew.passTo
    · have hdrew := hdl.drew hids hc hlen
      rw [if_neg hany, if_neg (by rw [h.pending]; exact hany), hdrew.getNextActiveChair]
      exact hdrew.passTo

theorem onSkipTurn : SameFor v (t.onSkipTurn c) (t'.onSkipTurn c) := by
  have hnone : SameFor v { t with pending := none } { t' with pending := none } := { h with pending := rfl }
  have hsent : SameFor v ({ t with pending := none }.broadcastPlayerAction c .skipTurn [] 0)
      ({ t' with pending := none }.broadcastPlayerAction c .skipTurn [] 0) :=
    hnone.broadcastPlayerAction hids rfl fun _ => rfl
  unfold Table.onSkipTurn
  dsimp only
  rw [hsent.getNextActiveChair]
  exact hsent.passTo

theorem onDeclareSuit {suit : Int} : SameFor v (t.onDeclareSuit c suit) (t'.onDeclareSuit c suit) := by
  have hdeclared : SameFor v
      { t with currCard := newDeclareWhot suit t.currCard, declareSuit := suit, pending := none }
      { t' with currCard := newDeclareWhot suit t'.currCard, declareSuit := suit, pending := none } :=
    { h with currCard := by rw [h.currCard], declareSuit := rfl, pending := rfl }
  exact (hdeclared.broadcastPlayerAction hids rfl fun _ => rfl).passTo

theorem onPlayerActionReq {req : ActionReq} (hc : c ≠ v)
    (hu : t.onPlayerActionReq c req = some u) (hu' : t'.onPlayerActionReq c req = some u')
    (hown : u'.hand v = u.hand v) : SameFor v u u' := by
  obtain ⟨p, hp, -, -, -, hsw⟩ := onPlayerActionReq_some hu
  obtain ⟨p', hp', -, -, -, hsw'⟩ := onPlayerActionReq_some hu'
  unfold switchAction at hsw hsw'
  cases hact : req.action <;> rw [hact] at hsw hsw' <;> dsimp only at hsw hsw'
  case playCard =>
    split at hsw
    · cases hsw
    · rename_i hcan
      split at hsw'
      · cases hsw'
      · rename_i hcan'
        cases hsw
        cases hsw'
        rw [Bool.not_eq_true', Bool.not_eq_false] at hcan hcan'
        exact h.onPlayCard hids hc hp hp' (canOutCard_iff.mp hcan).1 (canOutCard_iff.mp hcan').1 hown
  case drawCard =>
    split at hsw
    · cases hsw
    · split at hsw'
      · cases hsw'
      · cases hsw
        cases hsw'
        exact h.onDrawCard hids hc
  case skipTurn =>
    split at hsw
    · cases hsw
    · split at hsw'
      · cases hsw'
      · cases hsw
        cases hsw'
        exact h.onSkipTurn hids
  case declareSuit =>
    split at hsw
    · cases hsw
    · split at hsw'
      · cases hsw'
      · split at hsw
        · cases hsw
        · split at hsw'
          · cases hsw'
          · cases hsw
            cases hsw'
            exact h.onDeclareSuit hids
  case other => cases hsw

end SameFor

/-! ## Privacy -/

def marketTable (next afterwards : Card) : Table 2 :=
  let order := [114, 102, 103, 104, 105, 101, 107, 108, 110, 111, 112, next, afterwards] ++ oneDeck.drop 13
  let dealt := ({ twoSeated with timers := [] }.onTimer houseRules ⟨order, 0, 0, 0⟩).getD (.silent, twoSeated)
  { dealt.2 with timers := [] }.onSendCardTimeout

theorem marketTable_sameFor : SameFor 1 (marketTable 113 201) (marketTable 201 113) where
  clock := by decide +kernel
  stage := by decide +kernel
  timers := by decide +kernel
  active := by decide +kernel
  first := by decide +kernel
  currCard := by decide +kernel
  declareSuit := by decide +kernel
  pending := by decide +kernel
  bottom := by decide +kernel
  left := by decide +kernel
  blank := by decide +kernel
  count := by decide +kernel
  own := by decide +kernel
  inbox := by decide +kernel

theorem marketTable_ids : DistinctIds (marketTable 113 201) := by
  intro c d p q hp hq huid
  have hids : ∀ c d, ((marketTable 113 201).seats c).map Player.uid =
      ((marketTable 113 201).seats d).map Player.uid → c = d := by decide +kernel
  apply hids
  rw [hp, hq, Option.map_some, Option.map_some, huid]

/-- The card that a market card of another player makes the viewer draw is shown to the viewer. -/
theorem market_draw_shown : ∃ t t' u u' : Table 2, SameFor 1 t t' ∧ DistinctIds t ∧
    t.onPlayerActionReq 0 ⟨.playCard, 114, 0⟩ = some u ∧
    t'.onPlayerActionReq 0 ⟨.playCard, 114, 0⟩ = some u' ∧ u'.inbox 1 ≠ u.inbox 1 := by
  obtain ⟨u, hu⟩ := Option.isSome_iff_exists.mp (show ((marketTable 113 201).onPlayerActionReq 0
    ⟨.playCard, 114, 0⟩).isSome = true by decide +kernel)
  obtain ⟨u', hu'⟩ := Option.isSome_iff_exists.mp (show ((marketTable 201 113).onPlayerActionReq 0
    ⟨.playCard, 114, 0⟩).isSome = true by decide +kernel)
  refine ⟨_, _, u, u', marketTable_sameFor, marketTable_ids, hu, hu', ?_⟩
  have hdiffer : ((marketTable 201 113).onPlayerActionReq 0 ⟨.playCard, 114, 0⟩).map (·.inbox 1) ≠
      ((marketTable 113 201).onPlayerActionReq 0 ⟨.playCard, 114, 0⟩).map (·.inbox 1) := by
    decide +kernel
  rw [hu, hu'] at hdiffer
  exact fun heq => hdiffer (congrArg some heq)

/-- Whatever is sent to a viewer before the result of a game does not depend on the cards of others nor on
those that are not dealt; neither does what an action of another player sends, if the viewer holds the
same cards afterwards. -/
theorem private_cards (rc : RoomConfig) (h : SameFor v t t') (hids : DistinctIds t) :
    t'.sceneInfo rc v = t.sceneInfo rc v ∧
    (∀ b b', SamePublic v b b' → (b'.send rc t').inbox v = (b.send rc t).inbox v) ∧
    ∀ c req u u', c ≠ v → t.onPlayerActionReq c req = some u → t'.onPlayerActionReq c req = some u' →
      u'.hand v = u.hand v → u'.inbox v = u.inbox v ∧ SameFor v u u' := by
  refine ⟨h.sceneInfo, fun b b' hb => (h.send hids hb).inbox, ?_⟩
  intro c req u u' hc hu hu' hown
  have hafter := h.onPlayerActionReq hids hc hu hu' hown
  exact ⟨hafter.inbox, hafter⟩

theorem private_cards_draw : ∃ u u', (marketTable 113 201).onPlayerActionReq 0 ⟨.drawCard, 0, 0⟩ = some u ∧
    (marketTable 201 113).onPlayerActionReq 0 ⟨.drawCard, 0, 0⟩ = some u' ∧ u'.hand 0 ≠ u.hand 0 ∧
    u'.inbox 1 = u.inbox 1 := by
  obtain ⟨u, hu⟩ := Option.isSome_iff_exists.mp (show ((marketTable 113 201).onPlayerActionReq 0
    ⟨.drawCard, 0, 0⟩).isSome = true by decide +kernel)
  obtain ⟨u', hu'⟩ := Option.isSome_iff_exists.mp (show ((marketTable 201 113).onPlayerActionReq 0
    ⟨.drawCard, 0, 0⟩).isSome = true by decide +kernel)
  have hoth : ((marketTable 201 113).onPlayerActionReq 0 ⟨.drawCard, 0, 0⟩).map (·.hand 0) ≠
      ((marketTable 113 201).onPlayerActionReq 0 ⟨.drawCard, 0, 0⟩).map (·.hand 0) := by decide +kernel
  have hown : ((marketTable 201 113).onPlayerActionReq 0 ⟨.drawCard, 0, 0⟩).map (·.hand 1) =
      ((marketTable 113 201).onPlayerActionReq 0 ⟨.drawCard, 0, 0⟩).map (·.hand 1) := by decide +kernel
  rw [hu, hu'] at hoth hown
  exact ⟨u, u', hu, hu', fun heq => hoth (congrArg some heq),
    ((private_cards houseRules marketTable_sameFor marketTable_ids).2.2 0 _ u u' (by decide) hu hu'
      (Option.some.inj hown)).1⟩

end Yola.Whot.Table
