import Yola.Reasoning.Runs
import Yola.Whot.Deal

/-!
# The invariant of a table

Between games nobody has cards.  From the deal to the end of the game at least two players are in it, and
nothing but an action touches what is theirs: spectators may come and go, and players may be flagged as
hosted, offline or leaving.
-/

namespace Yola.Whot

open Function Reasoning

def StageID.inGame : StageID → Bool
  | .sendCard | .playing | .waitEnd => true
  | _ => false

def Player.stake (p : Player) : Option Player :=
  if p.isGaming then some { p with idleCount := 0, isOffline := false, exiting := false } else none

namespace Table

variable {n : Nat} {t t' u : Table n} {c d : Fin n} {p q : Player} {rc : RoomConfig}

def gamer (t : Table n) (c : Fin n) : Option Player := (t.seats c).bind Player.stake

theorem gaming_eq_isSome (t : Table n) (c : Fin n) : t.gaming c = (t.gamer c).isSome := by
  unfold gaming gamer
  cases t.seats c with
  | none => rfl
  | some p => cases hg : p.isGaming <;> simp [Player.stake, hg]

theorem gamer_eq (hp : t.seats c = some p) (hg : p.isGaming = true) :
    t.gamer c = some { p with idleCount := 0, isOffline := false, exiting := false } := by
  unfold gamer
  rw [hp, Option.bind_some, Player.stake, if_pos hg]

theorem hand_eq_of_gamer (hc : t.gaming c = true) : t.hand c = ((t.gamer c).map Player.cards).getD [] := by
  obtain ⟨p, hp, hg⟩ := gaming_iff.mp hc
  rw [gamer_eq hp hg, hand_eq hp]
  rfl

/-- Whoever is not in the game has no cards. -/
def Idle (t : Table n) : Prop := ∀ c, t.gaming c = false → t.hand c = []

def DistinctIds (t : Table n) : Prop :=
  ∀ c d p q, t.seats c = some p → t.seats d = some q → p.uid = q.uid → c = d

theorem DistinctIds.of_ids (h : DistinctIds t)
    (hids : ∀ c, (t'.seats c).map Player.uid = (t.seats c).map Player.uid) : DistinctIds t' := by
  intro a b p q hp hq huid
  have hpa := hids a
  have hqb := hids b
  rw [hp] at hpa
  rw [hq] at hqb
  obtain ⟨p', hp', hpu⟩ := Option.map_eq_some_iff.mp hpa.symm
  obtain ⟨q', hq', hqu⟩ := Option.map_eq_some_iff.mp hqb.symm
  exact h a b p' q' hp' hq' (hpu.trans (huid.trans hqu.symm))

theorem map_uid_of_blank (h : t'.blank c = t.blank c) :
    (t'.seats c).map Player.uid = (t.seats c).map Player.uid := by
  have huid := congrArg (Option.map Player.uid) h
  unfold blank at huid
  rw [Option.map_map, Option.map_map] at huid
  exact huid

/-! ## Things beside the game -/

structure Aside (t t' : Table n) : Prop where
  gamer : ∀ c, t'.gamer c = t.gamer c
  idle : Idle t → Idle t'
  uids : DistinctIds t → DistinctIds t'
  cards : t'.cards = t.cards
  stage : t'.stage = t.stage
  timers : t.stage.generation ∈ t.timers → t.stage.generation ∈ t'.timers
  active : t'.active = t.active
  currCard : t'.currCard = t.currCard
  pending : t'.pending = t.pending

namespace Aside

theorem of_seats (hseats : t'.seats = t.seats) (hcards : t'.cards = t.cards) (hst : t'.stage = t.stage)
    (htim : t.stage.generation ∈ t.timers → t.stage.generation ∈ t'.timers)
    (hact : t'.active = t.active) (hcurr : t'.currCard = t.currCard)
    (hpend : t'.pending = t.pending) : Aside t t' where
  gamer c := by unfold Table.gamer; rw [hseats]
  idle h := by unfold Idle Table.gaming hand at h ⊢; rw [hseats]; exact h
  uids h := by unfold DistinctIds at h ⊢; rw [hseats]; exact h
  cards := hcards
  stage := hst
  timers := htim
  active := hact
  currCard := hcurr
  pending := hpend

theorem refl (t : Table n) : Aside t t := of_seats rfl rfl rfl id rfl rfl rfl

theorem trans (h : Aside t t') (h' : Aside t' u) : Aside t u where
  gamer c := (h'.gamer c).trans (h.gamer c)
  idle := h'.idle ∘ h.idle
  uids := h'.uids ∘ h.uids
  cards := h'.cards.trans h.cards
  stage := h'.stage.trans h.stage
  timers ht := by
    have hnext := h'.timers
    rw [h.stage] at hnext
    exact hnext (h.timers ht)
  active := h'.active.trans h.active
  currCard := h'.currCard.trans h.currCard
  pending := h'.pending.trans h.pending

theorem push (h : Aside t u) (l : List (Fin n × Push n)) : Aside t (u.push l) :=
  h.trans (of_seats rfl rfl rfl id rfl rfl rfl)

theorem gaming (h : Aside t t') (c : Fin n) : t'.gaming c = t.gaming c := by
  rw [gaming_eq_isSome, gaming_eq_isSome, h.gamer]

theorem hand (h : Aside t t') (hc : t.gaming c = true) : t'.hand c = t.hand c := by
  rw [hand_eq_of_gamer hc, hand_eq_of_gamer ((h.gaming c).trans hc), h.gamer]

theorem undealt (h : Aside t t') : t'.undealt = t.undealt := congrArg GameCards.getCards h.cards

theorem length_getGamers (h : Aside t t') : t'.getGamers.length = t.getGamers.length := by
  rw [Table.length_getGamers, Table.length_getGamers]
  congr 1
  funext c
  exact h.gaming c

theorem seat {q : Option Player} (hgamer : q.bind Player.stake = t.gamer c)
    (hidle : t.Idle → q.any Player.isGaming = false → (q.map Player.cards).getD [] = [])
    (huids : ∀ p, q = some p → ∀ d r, d ≠ c → t.seats d = some r → r.uid ≠ p.uid ∨ ¬ t.DistinctIds) :
    Aside t { t with seats := update t.seats c q } where
  gamer d := by
    unfold Table.gamer
    by_cases hd : d = c
    · subst hd
      dsimp only
      rw [update_self, hgamer]
      rfl
    · dsimp only
      rw [update_of_ne hd]
  idle h d hgaming := by
    unfold Table.gaming at hgaming
    unfold Table.hand
    dsimp only at hgaming ⊢
    by_cases hd : d = c
    · subst hd
      rw [update_self] at hgaming ⊢
      exact hidle h hgaming
    · rw [update_of_ne hd] at hgaming ⊢
      exact h d hgaming
  uids h a b p r ha hb huid := by
    dsimp only at ha hb
    by_cases hac : a = c
    · subst hac
      rw [update_self] at ha
      by_contra hab
      rw [update_of_ne (Ne.symm hab)] at hb
      rcases huids p ha b r (Ne.symm hab) hb with hne | hnot
      · exact hne huid.symm
      · exact hnot h
    · rw [update_of_ne hac] at ha
      by_cases hbc : b = c
      · subst hbc
        rw [update_self] at hb
        rcases huids r hb a p hac ha with hne | hnot
        · exact absurd huid hne
        · exact absurd h hnot
      · rw [update_of_ne hbc] at hb
        exact h a b p r ha hb huid
  cards := rfl
  stage := rfl
  timers := id
  active := rfl
  currCard := rfl
  pending := rfl

theorem modify {f : Player → Player} (hstake : ∀ p, t.seats c = some p → (f p).stake = p.stake)
    (hcards : ∀ p, (f p).cards = p.cards) (huid : ∀ p, (f p).uid = p.uid) :
    Aside t (t.modify c f) := by
  cases hp : t.seats c with
  | none =>
    have hsame : t.modify c f = t := by
      unfold Table.modify
      rw [hp, Option.map_none, ← hp, update_eq_self]
    rw [hsame]
    exact .refl t
  | some p =>
    have hgamer : ((t.seats c).map f).bind Player.stake = t.gamer c := by
      unfold Table.gamer
      rw [hp]
      exact hstake p hp
    refine seat hgamer ?_ ?_
    · intro hidle hnot
      rw [hp] at hnot ⊢
      have hgam : t.gaming c = false := by
        rw [gaming_eq_isSome, ← hgamer, hp]
        change (f p).stake.isSome = false
        change (f p).isGaming = false at hnot
        rw [Player.stake, hnot]
        rfl
      have hhand := hidle c hgam
      rw [hand_eq hp] at hhand
      exact (hcards p).trans hhand
    · intro q hq d r hd hr
      rw [hp] at hq
      cases hq
      rw [huid]
      by_cases hsame : r.uid = p.uid
      · exact .inr fun hdist => hd (hdist d c r p hr hp hsame)
      · exact .inl hsame

theorem leave (hc : t.gaming c = false) : Aside t { t with seats := update t.seats c none } := by
  refine seat ?_ (fun _ _ => rfl) nofun
  rw [gaming_eq_isSome, Option.isSome_eq_false_iff, Option.isNone_iff_eq_none] at hc
  exact hc.symm

end Aside

theorem stake_of_not_gaming (h : p.isGaming = false) : p.stake = none := by
  rw [Player.stake, h]
  rfl

theorem removePlayer_aside (h : t.removePlayer c = some t') : Aside t t' := by
  unfold removePlayer at h
  cases hp : t.seats c with
  | none =>
    rw [hp] at h
    cases h
  | some =>
    rw [hp] at h
    dsimp only at h
    split at h
    · cases h
    · rename_i hexit
      cases h
      unfold canExit at hexit
      rw [hp] at hexit
      simp only [Option.any_some, Bool.not_eq_true', Bool.not_eq_false, Bool.and_eq_true] at hexit
      have hc : t.gaming c = false := by
        unfold gaming
        rw [hp]
        simpa using hexit.1
      exact (Aside.leave hc).push _

theorem onExitGame_aside (h : t.onExitGame c = some t') : Aside t t' := by
  unfold onExitGame at h
  split at h
  · cases h
  · split at h
    · cases h
    · exact removePlayer_aside h

theorem getD_onExitGame_aside : Aside t ((t.onExitGame c).getD t) := by
  cases hexit : t.onExitGame c with
  | none => exact .refl t
  | some => exact onExitGame_aside hexit

theorem checkKick_aside (t : Table n) (rc : RoomConfig) : Aside t (t.checkKick rc) := by
  unfold checkKick
  generalize List.finRange n = chairs
  induction chairs generalizing t with
  | nil => exact .refl t
  | cons c rest ih =>
    refine Aside.trans ?_ (ih (kick rc t c))
    unfold kick
    split
    · exact getD_onExitGame_aside
    · exact .refl t

theorem isGaming_checkAutoReady (h : p.isGaming = false) : (checkAutoReady rc p).isGaming = false := by
  unfold checkAutoReady
  split
  · rfl
  · exact h

/-- `seat` takes a free chair, and may then find that a game can start. -/
theorem seat_aside (hnew : ∀ c q, t.seats c = some q → q.uid ≠ p.uid) (h : t.seat rc p = some t') :
    ∃ u, Aside t u ∧ t' = u.checkCanStart rc := by
  unfold seat at h
  split at h
  · cases h
  · rename_i c hfind
    cases h
    have hfree : t.seats c = none := by simpa using List.find?_some hfind
    have hidle : (checkAutoReady rc (p.reset.setStatus .sit)).isGaming = false :=
      isGaming_checkAutoReady rfl
    have hcards : (checkAutoReady rc (p.reset.setStatus .sit)).cards = [] := by
      unfold checkAutoReady
      split <;> rfl
    have huid : (checkAutoReady rc (p.reset.setStatus .sit)).uid = p.uid := by
      unfold checkAutoReady
      split <;> rfl
    have htaken : Aside t { t with
        seats := update t.seats c (some (checkAutoReady rc (p.reset.setStatus .sit))) } := by
      refine .seat ?_ (fun _ _ => hcards) ?_
      · unfold gamer
        rw [hfree]
        exact stake_of_not_gaming hidle
      · intro q hq d r _ hr
        cases hq
        rw [huid]
        exact .inl (hnew d r hr)
    exact ⟨_, (htaken.push _).push _, rfl⟩

theorem onReadyReq_aside {ready : Bool} (h : t.onReadyReq rc c ready = some t') :
    ∃ u, Aside t u ∧ t' = u.checkCanStart rc := by
  unfold onReadyReq at h
  cases hp : t.seats c with
  | none =>
    rw [hp] at h
    cases h
  | some p =>
    rw [hp] at h
    dsimp only at h
    split at h
    · cases h
    · rename_i hgam
      cases h
      have hch : Aside t (t.modify c (·.setStatus (if ready then .ready else .sit))) := by
        refine .modify ?_ (fun _ => rfl) fun _ => rfl
        intro q hq
        rw [hp] at hq
        cases hq
        rw [stake_of_not_gaming (p := p) (by simpa using hgam)]
        apply stake_of_not_gaming
        cases ready <;> rfl
      exact ⟨_, hch.push _, rfl⟩

theorem flags_aside {idleCount : Player → Nat} {isOffline exiting : Player → Bool} :
    Aside t (t.modify c fun p => { p with
      idleCount := idleCount p, isOffline := isOffline p, exiting := exiting p }) :=
  .modify (fun _ _ => rfl) (fun _ => rfl) fun _ => rfl

theorem reEnter_aside : Aside t (t.reEnter rc c) := by
  have hback : Aside t (t.modify c (·.setOffline false)) := flags_aside
  exact ((hback.push _).push _).push _

theorem onHosting_aside {hosting : Bool} : Aside t (t.onHosting c hosting) := Aside.push flags_aside _

theorem onOffline_aside : Aside t (t.onOffline c) := by
  unfold onOffline
  split
  · exact .refl t
  · split
    · exact getD_onExitGame_aside
    · have hgone : Aside t (t.modify c (·.setOffline true)) := flags_aside
      exact hgone.push _

/-! ## The invariant -/

structure GameInv (t : Table n) : Prop where
  deck : t.cards.cards.Perm oneDeck
  idle : Idle t
  uids : DistinctIds t
  between : t.stage.state.inGame = false → (∀ c, t.gaming c = false) ∧ t.pending = none
  many : t.stage.state.inGame = true → 2 ≤ t.getGamers.length
  turn : t.stage.state = .sendCard ∨ t.stage.state = .playing →
    Turn t ∧ ∀ c, t.gaming c = true → t.hand c ≠ []
  gameOver : t.stage.state = .waitEnd → ∃ c, ∀ d, d ≠ c → t.gaming d = true → t.hand d ≠ []

structure TableInv (t : Table n) : Prop extends GameInv t where
  timer : t.stage.state ≠ .wait → t.stage.generation ∈ t.timers

theorem GameInv.playing (h : GameInv t) (hst : t.stage.state = .playing) : Turn t :=
  (h.turn (.inr hst)).1

theorem GameInv.hands_nil (h : GameInv t) (hst : t.stage.state.inGame = false) (c : Fin n) :
    t.hand c = [] :=
  h.idle c ((h.between hst).1 c)

theorem tableInv_new : TableInv (new : Table n) where
  deck := List.Perm.refl oneDeck
  idle _ _ := rfl
  uids _ _ _ _ hp := by cases hp
  between _ := ⟨fun _ => rfl, rfl⟩
  many h := by cases h
  turn h := by rcases h with h | h <;> cases h
  gameOver h := by cases h
  timer h := absurd rfl h

theorem GameInv.of_timers {l : List Nat} (h : GameInv t) : GameInv { t with timers := l } :=
  ⟨h.deck, h.idle, h.uids, h.between, h.many,
    fun hs => ⟨⟨(h.turn hs).1.undealt, (h.turn hs).1.active, fun pending hp =>
      ⟨((h.turn hs).1.pending pending hp).target, ((h.turn hs).1.pending pending hp).effect⟩⟩,
      (h.turn hs).2⟩,
    h.gameOver⟩

theorem Turn.of_eq (h : Turn t) (hcards : t'.cards = t.cards) (hact : t'.active = t.active)
    (hcurr : t'.currCard = t.currCard) (hpend : t'.pending = t.pending)
    (hgam : ∀ c, t'.gaming c = t.gaming c) : Turn t' where
  undealt := by
    unfold Table.undealt
    rw [hcards]
    exact h.undealt
  active := by
    obtain ⟨d, hd, hg⟩ := h.active
    exact ⟨d, hact.trans hd, (hgam d).trans hg⟩
  pending pending hp := by
    have hok := h.pending pending (hpend ▸ hp)
    refine ⟨hok.target.trans hact.symm, ?_⟩
    rw [hcurr]
    exact hok.effect

theorem GameInv.aside (h : GameInv t) (ha : Aside t t') : GameInv t' where
  deck := by rw [ha.cards]; exact h.deck
  idle := ha.idle h.idle
  uids := ha.uids h.uids
  between hs := by
    rw [ha.stage] at hs
    exact ⟨fun c => (ha.gaming c).trans ((h.between hs).1 c), ha.pending.trans (h.between hs).2⟩
  many hs := by
    rw [ha.stage] at hs
    rw [ha.length_getGamers]
    exact h.many hs
  turn hs := by
    rw [ha.stage] at hs
    refine ⟨(h.turn hs).1.of_eq ha.cards ha.active ha.currCard ha.pending ha.gaming, ?_⟩
    intro c hc
    rw [ha.gaming] at hc
    rw [ha.hand hc]
    exact (h.turn hs).2 c hc
  gameOver hs := by
    rw [ha.stage] at hs
    obtain ⟨c, hc⟩ := h.gameOver hs
    refine ⟨c, fun d hd hg => ?_⟩
    rw [ha.gaming] at hg
    rw [ha.hand hg]
    exact hc d hd hg

theorem TableInv.aside (h : TableInv t) (ha : Aside t t') : TableInv t' where
  toGameInv := h.toGameInv.aside ha
  timer hs := by
    rw [ha.stage] at hs ⊢
    exact ha.timers (h.timer hs)

theorem GameInv.updateStage_between {s : StageID} (h : GameInv t) (hold : t.stage.state.inGame = false)
    (hnew : s.inGame = false) : TableInv (t.updateStage s) where
  deck := h.deck
  idle := h.idle
  uids := h.uids
  between _ := h.between hold
  many hs := by
    change s.inGame = true at hs
    rw [hnew] at hs
    cases hs
  turn hs := by
    change s = _ ∨ s = _ at hs
    rcases hs with rfl | rfl <;> cases hnew
  gameOver hs := by
    change s = _ at hs
    subst hs
    cases hnew
  timer _ := timer_mem_updateStage t s

theorem TableInv.checkCanStart (h : TableInv t) : TableInv (t.checkCanStart rc) := by
  unfold Table.checkCanStart
  split
  · exact h
  · rename_i hwait
    simp only [Bool.or_eq_true, decide_eq_true_eq, not_or, ne_eq, Decidable.not_not] at hwait
    exact h.toGameInv.updateStage_between (by rw [hwait.1]; rfl) rfl

theorem TableInv.acted {played lost : List Card} (h : GameInv t) (hst : t.stage.state = .playing)
    (ha : Acted t c t' played lost) : TableInv t' := by
  have hgam (d : Fin n) : t'.gaming d = t.gaming d := gaming_eq_of_blank (ha.blank d)
  have hmany : 2 ≤ t'.getGamers.length := by
    rw [getGamers_length_of_blank ha.blank]
    exact h.many (by rw [hst]; rfl)
  have hhands := (h.turn (.inr hst)).2
  refine ⟨⟨by rw [ha.deck]; exact h.deck, ?_, ?_, ?_, fun _ => hmany, ?_, ?_⟩, ?_⟩
  · intro d hd
    rw [hgam] at hd
    unfold hand
    rw [ha.idle d hd]
    exact h.idle d hd
  · exact h.uids.of_ids fun d => map_uid_of_blank (ha.blank d)
  · intro hs
    cases ha.outcome with
    | goesOn stage | gameOver stage => rw [stage] at hs; cases hs
  · intro hs
    cases ha.outcome with
    | goesOn _ turn hands => exact ⟨turn, fun d hd => hands d (hhands d (hgam d ▸ hd))⟩
    | gameOver stage => rw [stage] at hs; rcases hs with hs | hs <;> cases hs
  · intro hs
    cases ha.outcome with
    | goesOn stage => rw [stage] at hs; cases hs
    | gameOver _ hands => exact ⟨c, fun d hd hg => hands d hd (hhands d (hgam d ▸ hg))⟩
  · exact fun _ => ha.timer

theorem getGamers_chairs_perm {chairs : List (Fin n)} (hnd : chairs.Nodup)
    (hchairs : ∀ c, t.gaming c = true ↔ c ∈ chairs) : (t.getGamers.map Prod.fst).Perm chairs := by
  have hgamers : (t.getGamers.map Prod.fst).Nodup :=
    (List.filter_sublist.map _).nodup t.seated_chairs_nodup
  refine (List.perm_ext_iff_of_nodup hgamers hnd).mpr fun c => ?_
  rw [← hchairs c, gaming_iff, List.mem_map]
  constructor
  · rintro ⟨⟨d, p⟩, hmem, rfl⟩
    exact ⟨p, mem_getGamers.mp hmem⟩
  · rintro ⟨p, hp⟩
    exact ⟨(c, p), mem_getGamers.mpr hp, rfl⟩

theorem TableInv.started {gamers : List (Fin n)} (h : GameInv t) (hready : t.stage.state = .ready)
    (hs : Started rc t gamers t') : TableInv t' := by
  have hbetw := h.between (by rw [hready]; rfl)
  have hgam := fun d => hs.gaming (c := d) hbetw.1
  have hstate := hs.state
  have hgamers := (getGamers_chairs_perm hs.nodup hgam).length_eq
  rw [List.length_map] at hgamers
  refine ⟨⟨hs.deck.trans h.deck, ?_, ?_, ?_, ?_, ?_, ?_⟩, fun _ => hs.timer⟩
  · intro c hc
    have hout : c ∉ gamers := by
      rw [← hgam, hc]
      exact Bool.false_ne_true
    unfold hand
    rw [hs.others c hout]
    exact h.idle c (hbetw.1 c)
  · apply h.uids.of_ids
    intro c
    by_cases hc : c ∈ gamers
    · obtain ⟨p, hp, hblank⟩ := hs.players c hc
      have huid := congrArg (Option.map Player.uid) hblank
      unfold blank at huid
      rw [Option.map_map] at huid
      rw [hp]
      exact huid
    · rw [hs.others c hc]
  · intro hno
    rw [hstate] at hno
    cases hno
  · intro _
    rw [hgamers]
    exact hs.many
  · intro _
    refine ⟨⟨?_, ?_, ?_⟩, fun c hc => hs.hands c ((hgam c).mp hc)⟩
    · intro hnil
      have htotal := hs.undealt
      have hdeck : t.cards.cards.length = 54 := h.deck.length_eq
      rw [hnil, List.length_nil] at htotal
      omega
    · obtain ⟨c, hc, hact⟩ := hs.active
      exact ⟨c, hact, (hgam c).mpr hc⟩
    · intro pending hpend
      rw [hs.pending, hbetw.2] at hpend
      cases hpend
  · intro hno
    rw [hstate] at hno
    cases hno

theorem TableInv.sendCardTimeout (h : GameInv t) (hst : t.stage.state = .sendCard) :
    TableInv t.onSendCardTimeout := by
  have hturn := h.turn (.inl hst)
  refine ⟨⟨h.deck, h.idle, h.uids, nofun, ?_, ?_, nofun⟩, fun _ => timer_mem_updateStage t _⟩
  · intro _
    exact h.many (by rw [hst]; rfl)
  · exact fun _ => ⟨hturn.1.of_eq rfl rfl rfl rfl fun _ => rfl, hturn.2⟩

/-! ## The end of a game -/

theorem settle_ids (t : Table n) (c : Fin n) :
    ((t.settle rc).2.seats c).map Player.uid = (t.seats c).map Player.uid := by
  unfold settle
  split
  · rfl
  · dsimp only
    split
    · rfl
    · rw [seats_modify]
      split
      · rename_i hc
        rw [Option.map_map, hc]
        rfl
      · rfl

theorem settle_cards (t : Table n) : (t.settle rc).2.cards = t.cards := by
  unfold settle
  split
  · rfl
  · dsimp only
    split <;> rfl

theorem gaming_reset (t : Table n) (c : Fin n) : t.reset.gaming c = false := by
  change ((t.seats c).map Player.reset).any Player.isGaming = false
  cases t.seats c <;> rfl

theorem hand_reset (t : Table n) (c : Fin n) : t.reset.hand c = [] := by
  change (((t.seats c).map Player.reset).map Player.cards).getD [] = []
  cases t.seats c <;> rfl

theorem gameEnd_aside (t : Table n) (rc : RoomConfig) :
    ∃ u, Aside (((t.settle rc).2.sendPacketToAll
      (.result ((t.settle rc).1.map SettleObj.result))).updateStage .ended) u ∧
      (t.gameEnd rc).2 = u.reset :=
  ⟨_, checkKick_aside _ rc, rfl⟩

theorem gameEnd_stage (t : Table n) (rc : RoomConfig) : (t.gameEnd rc).2.stage.state = .ended := by
  obtain ⟨u, haside, hreset⟩ := t.gameEnd_aside rc
  rw [hreset]
  exact congrArg Stage.state haside.stage

theorem TableInv.gameEnd (h : GameInv t) (rc : RoomConfig) : TableInv (t.gameEnd rc).2 := by
  have hst := t.gameEnd_stage rc
  obtain ⟨u, haside, hreset⟩ := t.gameEnd_aside rc
  rw [hreset] at hst ⊢
  refine ⟨⟨?_, fun c _ => hand_reset _ c, ?_, fun _ => ⟨gaming_reset _, rfl⟩, ?_, ?_, ?_⟩, ?_⟩
  · have hcards : u.reset.cards = t.cards := haside.cards.trans t.settle_cards
    rw [hcards]
    exact h.deck
  · have hkicked := haside.uids (h.uids.of_ids t.settle_ids)
    refine hkicked.of_ids fun c => ?_
    change ((u.seats c).map Player.reset).map Player.uid = _
    rw [Option.map_map]
    rfl
  · intro hno
    rw [hst] at hno
    cases hno
  · intro hno
    rw [hst] at hno
    rcases hno with hno | hno <;> cases hno
  · intro hno
    rw [hst] at hno
    cases hno
  · intro _
    have hgeneration := haside.timers (timer_mem_updateStage _ _)
    rw [← haside.stage] at hgeneration
    exact hgeneration

theorem map_uid_checkAutoReady {q : Option Player} :
    (q.map (checkAutoReady rc)).map Player.uid = q.map Player.uid := by
  cases q with
  | none => rfl
  | some =>
    unfold checkAutoReady
    simp only [Option.map_some, Option.some.injEq]
    split <;> rfl

theorem TableInv.checkAutoReadyAll (h : TableInv t) (hst : t.stage.state = .wait) :
    TableInv (t.checkAutoReadyAll rc) := by
  have hbetw := h.between (by rw [hst]; rfl)
  have hgam (c : Fin n) : (t.checkAutoReadyAll rc).gaming c = false := by
    have hold := hbetw.1 c
    unfold gaming at hold
    change ((t.seats c).map (checkAutoReady rc)).any Player.isGaming = false
    cases hp : t.seats c with
    | none => rfl
    | some =>
      rw [hp] at hold
      exact isGaming_checkAutoReady hold
  have hno {s : StageID} (hs : t.stage.state = s) (hne : s ≠ .wait) : False := hne (hs ▸ hst)
  refine ⟨⟨h.deck, ?_, h.uids.of_ids fun c => map_uid_checkAutoReady, fun _ => ⟨hgam, hbetw.2⟩,
    ?_, ?_, ?_⟩, h.timer⟩
  · intro c _
    have hold := h.idle c (hbetw.1 c)
    unfold hand at hold
    change (((t.seats c).map (checkAutoReady rc)).map Player.cards).getD [] = []
    cases hp : t.seats c with
    | none => rfl
    | some p =>
      rw [hp] at hold
      have hcards : (checkAutoReady rc p).cards = p.cards := by
        unfold checkAutoReady
        split <;> rfl
      exact hcards.trans hold
  · intro hs
    change t.stage.state.inGame = true at hs
    rw [hst] at hs
    cases hs
  · rintro (hs | hs)
    · exact (hno hs nofun).elim
    · exact (hno hs nofun).elim
  · exact fun hs => (hno hs nofun).elim

theorem TableInv.endTimeout (h : GameInv t) (hst : t.stage.state = .ended) :
    TableInv (t.onEndTimeout rc) := by
  have hwait : TableInv (t.updateStage .wait) := h.updateStage_between (by rw [hst]; rfl) rfl
  have haside := checkKick_aside (t.updateStage .wait) rc
  exact (hwait.aside haside).checkAutoReadyAll (congrArg Stage.state haside.stage)

end Table

end Yola.Whot
