import Yola.Whot.Options

/-!
# Runs of a table

Every step of a table either touches nothing of the game, or starts it, moves it or ends it.  From this
the invariant holds along every run, and the course of a game can be followed step by step.
-/

namespace Yola.Whot

open Reasoning

namespace Table

variable {n : Nat} {t t' u : Table n} {c : Fin n} {rc : RoomConfig} {e : TableEvent n}
  {gamers : List (Fin n)} {ls : List (TableEvent n)} {l : List Nat}

inductive Change (rc : RoomConfig) (t : Table n) : TableEvent n → Table n → Prop where
  | aside {t' : Table n} (aside : Aside t t') : Change rc t .silent t'
  | between {t' : Table n} (old : t.stage.state.inGame = false) (new : t'.stage.state.inGame = false) :
      Change rc t .silent t'
  | started {t' : Table n} {gamers : List (Fin n)} (stage : t.stage.state = .ready)
      (started : Started rc t gamers t') : Change rc t (.started gamers) t'
  | dealt (l : List Nat) (stage : t.stage.state = .sendCard) :
      Change rc t .silent { t with timers := l }.onSendCardTimeout
  | acted {t' : Table n} {c : Fin n} {req : ActionReq} (stage : t.stage.state = .playing)
      (acted : Acted t c t' (playedBy req) (t.lostBy req)) : Change rc t (.acted c req) t'
  | settled {t' : Table n} {winner : Option (Fin n)} (l : List Nat) (stage : t.stage.state = .waitEnd)
      (settled : { t with timers := l }.gameEnd rc = (.settled winner, t')) :
      Change rc t (.settled winner) t'

theorem Started.of_timers (h : Started rc { t with timers := l } gamers t') : Started rc t gamers t' :=
  ⟨h.nodup, h.many, h.players, h.others, h.deck, h.cards, h.bottom, h.undealt, h.hands, h.active,
    h.pending, h.state, h.timer⟩

theorem Acted.of_timers {played lost : List Card}
    (h : Acted { t with timers := l } c t' played lost) : Acted t c t' played lost := by
  refine ⟨h.blank, h.idle, h.deck, h.bottom, h.first, h.generation, h.timer, h.cards, h.progress, ?_⟩
  cases h.outcome with
  | goesOn stage turn hands => exact .goesOn stage turn hands
  | gameOver stage hands => exact .gameOver stage hands

theorem TableInv.canStart (h : TableInv t) (ha : Aside t u) :
    TableInv (u.checkCanStart rc) ∧ Change rc t .silent (u.checkCanStart rc) := by
  refine ⟨(h.aside ha).checkCanStart, ?_⟩
  unfold Table.checkCanStart
  split
  · exact .aside ha
  · rename_i hwait
    simp only [Bool.or_eq_true, decide_eq_true_eq, not_or, ne_eq, Decidable.not_not] at hwait
    refine .between ?_ rfl
    rw [← ha.stage, hwait.1]
    rfl

theorem late_aside {a b : List Nat} {g : Nat} (htim : t.timers = a ++ g :: b)
    (hold : g ≠ t.stage.generation) : Aside t { t with timers := a ++ b } := by
  refine .of_seats rfl rfl rfl ?_ rfl rfl rfl
  intro hmem
  rw [htim] at hmem
  rcases List.mem_append.mp hmem with hmem | hmem
  · exact List.mem_append_left _ hmem
  · exact List.mem_append_right _ ((List.mem_cons.mp hmem).resolve_left (Ne.symm hold))

theorem GameInv.onTimer {r : Random} (h : GameInv t) (hord : r.order.Perm t.cards.cards)
    (hstep : { t with timers := l }.onTimer rc r = some (e, t')) : TableInv t' ∧ Change rc t e t' := by
  let u := { t with timers := l }
  have hpopped : GameInv u := h.of_timers
  unfold Table.onTimer at hstep
  dsimp only at hstep
  cases hst : t.stage.state with
  | wait =>
    rw [hst] at hstep
    cases hstep
    have hwait : TableInv u := ⟨hpopped, fun hne => absurd hst hne⟩
    refine ⟨hwait.checkCanStart, ?_⟩
    unfold checkCanStart
    split
    · exact .between (by rw [hst]; rfl) (by change t.stage.state.inGame = false; rw [hst]; rfl)
    · exact .between (by rw [hst]; rfl) rfl
  | ready =>
    rw [hst] at hstep
    have hbetween := h.between (by rw [hst]; rfl)
    have hhands := h.hands_nil (by rw [hst]; rfl)
    rcases onGameStart_started (t := u) hbetween.1 hhands hord hst hstep with
      ⟨rfl, rfl⟩ | ⟨gamers, rfl, hstarted⟩
    · exact ⟨hpopped.updateStage_between (by change t.stage.state.inGame = false; rw [hst]; rfl) rfl,
        .between (by rw [hst]; rfl) rfl⟩
    · exact ⟨.started hpopped hst hstarted, .started hst hstarted.of_timers⟩
  | sendCard =>
    rw [hst] at hstep
    cases hstep
    exact ⟨.sendCardTimeout hpopped hst, .dealt l hst⟩
  | playing =>
    rw [hst] at hstep
    obtain ⟨d, hd, -⟩ := (hpopped.playing hst).active
    obtain ⟨p, hturn⟩ := hpopped.onTurn hst hd
    obtain ⟨req, u, hreq, hacc⟩ := hturn.makeAutoActionReq r
    dsimp only at hstep
    rw [hturn.onActionTimeout hreq hacc] at hstep
    cases hstep
    have hacted := onPlayerActionReq_acted hturn.turn hacc
    exact ⟨.acted hpopped hst hacted, .acted hst hacted.of_timers⟩
  | waitEnd =>
    rw [hst] at hstep
    have hend : u.gameEnd rc = (e, t') := Option.some.inj hstep
    have hinv := TableInv.gameEnd hpopped rc
    rw [hend] at hinv
    refine ⟨hinv, ?_⟩
    have he : e = .settled _ := (congrArg Prod.fst hend).symm
    subst he
    exact .settled l hst hend
  | ended =>
    rw [hst] at hstep
    cases hstep
    refine ⟨.endTimeout hpopped hst, .between (by rw [hst]; rfl) ?_⟩
    have haside := checkKick_aside (u.updateStage .wait) rc
    have hwait : (u.onEndTimeout rc).stage = _ := haside.stage
    rw [hwait]
    rfl

theorem TableInv.step (h : TableInv t) (hstep : TableStep rc t e t') : TableInv t' ∧ Change rc t e t' := by
  cases hstep with
  | seat p new step =>
    obtain ⟨u, ha, rfl⟩ := seat_aside new step
    exact h.canStart ha
  | exit c step => exact ⟨h.aside (onExitGame_aside step), .aside (onExitGame_aside step)⟩
  | leave c step => exact ⟨h.aside (removePlayer_aside step), .aside (removePlayer_aside step)⟩
  | reEnter => exact ⟨h.aside reEnter_aside, .aside reEnter_aside⟩
  | ready c ready step =>
    obtain ⟨u, ha, rfl⟩ := onReadyReq_aside step
    exact h.canStart ha
  | hosting => exact ⟨h.aside onHosting_aside, .aside onHosting_aside⟩
  | offline => exact ⟨h.aside onOffline_aside, .aside onOffline_aside⟩
  | flags => exact ⟨h.aside flags_aside, .aside flags_aside⟩
  | tick elapsed =>
    have htick : Aside t { t with clock := t.clock + elapsed } := .of_seats rfl rfl rfl id rfl rfl rfl
    exact ⟨h.aside htick, .aside htick⟩
  | action c req step =>
    obtain ⟨-, -, -, -, hst, -⟩ := onPlayerActionReq_some step
    have hacted := onPlayerActionReq_acted (h.playing hst) step
    exact ⟨.acted h.toGameInv hst hacted, .acted hst hacted⟩
  | late g timers old => exact ⟨h.aside (late_aside timers old), .aside (late_aside timers old)⟩
  | timer r timers order step => exact h.toGameInv.onTimer order step

abbrev Possible (rc : RoomConfig) (t : Table n) : Prop := Reachable (· = new) (TableStep rc) t

theorem Possible.inv (h : Possible rc t) : TableInv t := by
  refine Reachable.invariant h ?_ fun s l u hstep hs => (hs.step hstep).1
  rintro _ rfl
  exact tableInv_new

/-! ## A game of two -/

def houseRules : RoomConfig := ⟨true, 0, -1, 10, 1 / 20, 0⟩

def guest (uid : Int) : Player := ⟨uid, 0, 100, .free, 0, 0, [], false, false⟩

def oneSeated : Table 2 := (new.seat houseRules (guest 1)).getD new

def twoSeated : Table 2 := (oneSeated.seat houseRules (guest 2)).getD oneSeated

/-- The cards are not shuffled, and the first of everything is chosen. -/
def plain : Random := ⟨oneDeck, 0, 0, 0⟩

def dealtTwo : Table 2 :=
  (({ twoSeated with timers := [] }.onTimer houseRules plain).getD (.silent, twoSeated)).2

def playedTwo : Table 2 := { dealtTwo with timers := [] }.onSendCardTimeout

theorem seat_step {p : Player} (hnew : ∀ c, (t.seats c).all (·.uid ≠ p.uid) = true)
    (hseat : (t.seat rc p).isSome = true) : TableStep rc t .silent ((t.seat rc p).getD t) := by
  obtain ⟨u, hu⟩ := Option.isSome_iff_exists.mp hseat
  rw [hu]
  refine .seat p (fun c q hq huid => ?_) hu
  have hall := hnew c
  rw [hq, Option.all_some, decide_eq_true_eq] at hall
  exact hall huid

theorem twoSeated_possible : Possible houseRules twoSeated :=
  ⟨new, _, rfl, .cons (seat_step (by decide +kernel) (by decide +kernel))
    (.single (seat_step (by decide +kernel) (by decide +kernel)))⟩

theorem dealtTwo_step : TableStep houseRules twoSeated (.started [0, 1]) dealtTwo := by
  have htim : ({ twoSeated with timers := [] }.onTimer houseRules plain).isSome = true := by
    decide +kernel
  have hevent : (({ twoSeated with timers := [] }.onTimer houseRules plain).getD
      (.silent, twoSeated)).1 = .started [0, 1] := by decide +kernel
  obtain ⟨⟨e, u⟩, hu⟩ := Option.isSome_iff_exists.mp htim
  unfold dealtTwo
  rw [hu] at hevent ⊢
  subst hevent
  exact .timer (a := []) (b := []) plain (by decide +kernel) (by decide +kernel) hu

theorem playedTwo_step : TableStep houseRules dealtTwo .silent playedTwo := by
  refine .timer (a := []) (b := []) plain (by decide +kernel) (by decide +kernel) ?_
  have hst : dealtTwo.stage.state = .sendCard := by decide +kernel
  unfold onTimer
  dsimp only
  rw [hst]
  rfl

theorem playedTwo_possible : Possible houseRules playedTwo :=
  (twoSeated_possible.next dealtTwo_step).next playedTwo_step

/-! ## Turns -/

/-- What the table offers to the player who is to act is what it accepts from them, and nothing is
offered to or accepted from anybody else. -/
theorem options_are_accepted (h : Possible rc t) (hstage : t.stage.state = .playing) (c : Fin n) :
    (t.active = some c →
      (∀ req, (t.onPlayerActionReq c req).isSome = true ↔ ∃ op ∈ t.getCanOp c, op.offers req = true) ∧
      ∀ op ∈ t.getCanOp c, op.action = .drawCard → op.drawCount < t.undealt.length →
        ∀ req t', req.action = .drawCard → t.onPlayerActionReq c req = some t' →
          t'.undealt = t.undealt.drop op.drawCount ∧
            (t'.hand c : Multiset Card) = t.hand c + t.undealt.take op.drawCount ∧
            (t.undealt.take op.drawCount).length = op.drawCount) ∧
    (t.active ≠ some c → t.getCanOp c = [] ∧ ∀ req, t.onPlayerActionReq c req = none) := by
  constructor
  · intro hact
    obtain ⟨p, hturn⟩ := h.inv.toGameInv.onTurn hstage hact
    refine ⟨fun req => hturn.offered_iff_accepted.symm, ?_⟩
    intro op hop hdraw hmore req t' hreq hstep
    rw [hturn.drawCount_of_offered hop hdraw] at hmore ⊢
    obtain ⟨hund, hhand⟩ := hturn.draw hreq hmore hstep
    exact ⟨hund, hhand, List.length_take_of_le hmore.le⟩
  · intro hact
    exact ⟨getCanOp_of_not_active hact, fun req => onPlayerActionReq_of_not_active hact⟩

theorem options_are_accepted_first_turn :
    (playedTwo.onPlayerActionReq 0 ⟨.playCard, 103, 0⟩).isSome = true ∧
      playedTwo.onPlayerActionReq 1 ⟨.drawCard, 0, 0⟩ = none := by
  have hst : playedTwo.stage.state = .playing := rfl
  constructor
  · apply (((options_are_accepted playedTwo_possible hst 0).1 (by decide +kernel)).1 _).mpr
    decide +kernel
  · exact ((options_are_accepted playedTwo_possible hst 1).2 (by decide +kernel)).2 _

/-- In a turn the active player can act, and if they do not, the timer acts for them. -/
theorem never_stalls (h : Possible rc t) (hstage : t.stage.state = .playing) :
    ∃ c p, t.active = some c ∧ t.seats c = some p ∧ p.isGaming = true ∧
      (∀ pending, t.pending = some pending → pending.target = some c ∧ pending.effect ≠ .market) ∧
      t.undealt ≠ [] ∧ t.getCanOp c ≠ [] ∧ t.stage.generation ∈ t.timers ∧
      ∀ r, ∃ req t', t.makeAutoActionReq r c = some req ∧ t.onPlayerActionReq c req = some t' ∧
        t'.stage.generation = t.stage.generation + 1 ∧ t.onTimer rc r = some (.acted c req, t') := by
  have hinv := h.inv
  obtain ⟨c, hact, -⟩ := (hinv.playing hstage).active
  obtain ⟨p, hturn⟩ := hinv.toGameInv.onTurn hstage hact
  obtain ⟨op, hop⟩ := hturn.exists_option
  refine ⟨c, p, hact, hturn.seat, hturn.gaming, ?_, hturn.turn.undealt, List.ne_nil_of_mem hop,
    hinv.timer (by rw [hstage]; decide), ?_⟩
  · intro pending hpend
    have hok := hturn.turn.pending pending hpend
    refine ⟨hok.target.trans hact, fun hmkt => ?_⟩
    rcases hok.effect with ⟨he, -⟩ | ⟨he, -⟩ | he | ⟨he, -⟩ <;> rw [hmkt] at he <;> cases he
  · intro r
    obtain ⟨req, t', hreq, hacc⟩ := hturn.makeAutoActionReq r
    refine ⟨req, t', hreq, hacc, (onPlayerActionReq_acted hturn.turn hacc).generation, ?_⟩
    unfold onTimer
    rw [hstage]
    exact congrArg some (hturn.onActionTimeout hreq hacc)

theorem never_stalls_first_turn : ∃ c req t', playedTwo.active = some c ∧
    playedTwo.onTimer houseRules plain = some (.acted c req, t') := by
  obtain ⟨c, -, hact, -, -, -, -, -, -, htim⟩ :=
    never_stalls playedTwo_possible (show playedTwo.stage.state = .playing from rfl)
  obtain ⟨req, t', -, -, -, hstep⟩ := htim plain
  exact ⟨c, req, t', hact, hstep⟩

end Table

end Yola.Whot
