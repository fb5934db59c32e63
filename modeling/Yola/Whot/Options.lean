import Yola.Whot.Invariant

/-!
# Options

`getCanOp` and `OnPlayerActionReq` look at the pending effect each in its own way.  In a turn of a game
they agree: what is offered is what is accepted, and something is always offered.
-/

namespace Yola.Whot

def ActionOption.offers (op : ActionOption) (req : ActionReq) : Bool :=
  op.action = req.action &&
    match req.action with
    | .playCard => req.outCard ∈ op.cards
    | .declareSuit => req.declareSuit ∈ op.suits
    | .drawCard | .skipTurn => true
    | .other => false

namespace Table

variable {n : Nat} {t t' : Table n} {c : Fin n} {p : Player} {op : ActionOption} {req : ActionReq}
  {currCard : Card} {hand : List Card} {pending : Option (Pending n)}

structure OnTurn (t : Table n) (c : Fin n) (p : Player) : Prop where
  seat : t.seats c = some p
  gaming : p.isGaming = true
  many : 2 ≤ t.getGamers.length
  active : t.active = some c
  stage : t.stage.state = .playing
  turn : Turn t

theorem GameInv.onTurn (h : GameInv t) (hst : t.stage.state = .playing) (hact : t.active = some c) :
    ∃ p, OnTurn t c p := by
  have hturn := h.playing hst
  obtain ⟨d, hd, hg⟩ := hturn.active
  rw [hact] at hd
  cases hd
  obtain ⟨p, hp, hgam⟩ := gaming_iff.mp hg
  exact ⟨p, hp, hgam, h.many (by rw [hst]; rfl), hact, hst, hturn⟩

theorem OnTurn.not_refused (h : OnTurn t c p) :
    ¬ (!p.isGaming || t.getGamers.length ≤ 1 || some c ≠ t.active) = true := by
  have hmany := h.many
  simp only [h.gaming, h.active, Bool.not_true, Bool.false_or, ne_eq, not_true_eq_false, decide_false,
    Bool.or_false, decide_eq_true_eq]
  omega

/-! ## What is offered -/

def answer (pending : Option (Pending n)) : Option ActionOption :=
  match pending with
  | none => some (newDrawOption 1)
  | some pending =>
      match pending.effect with
      | .normal | .holdOn => some (newDrawOption 1)
      | .pickTwo => some (newDrawOption pending.quantity)
      | .suspend => some ⟨.skipTurn, [], 0, []⟩
      | .whot => some ⟨.declareSuit, [], 0, [1, 2, 3, 4, 5]⟩
      | .market => none

def playOptions (currCard : Card) (hand : List Card) (pending : Option (Pending n)) : List ActionOption :=
  match collectPlayCard currCard hand pending with
  | [] => []
  | canOuts => [⟨.playCard, canOuts, 0, []⟩]

theorem mem_playOptions : op ∈ playOptions currCard hand pending ↔
      collectPlayCard currCard hand pending ≠ [] ∧
        op = ⟨.playCard, collectPlayCard currCard hand pending, 0, []⟩ := by
  unfold playOptions
  cases collectPlayCard currCard hand pending with
  | nil | cons => simp

theorem mem_sortOps {ops : List ActionOption} :
    op ∈ (if 1 < ops.length then ops.insertionSort (·.action.num ≤ ·.action.num) else ops) ↔ op ∈ ops := by
  split
  · exact List.mem_insertionSort _
  · exact Iff.rfl

theorem OnTurn.mem_getCanOp (h : OnTurn t c p) :
    op ∈ t.getCanOp c ↔ answer t.pending = some op ∨ op ∈ playOptions t.currCard p.cards t.pending := by
  unfold getCanOp
  rw [h.seat]
  dsimp only
  rw [if_neg h.not_refused, if_neg (not_not_intro h.stage)]
  change op ∈ (match t.pending with
    | none => _
    | some pending => _) ↔ _
  cases hpend : t.pending with
  | none =>
    refine mem_sortOps.trans (List.mem_cons.trans ?_)
    rw [eq_comm (a := op)]
    simp only [answer, Option.some.injEq]
    rfl
  | some pending =>
    dsimp only
    cases heff : pending.effect with
    | normal | holdOn | pickTwo | suspend =>
      refine mem_sortOps.trans (List.mem_cons.trans ?_)
      rw [eq_comm (a := op)]
      simp only [answer, heff, Option.some.injEq]
      rfl
    | whot =>
      have hnone : collectPlayCard t.currCard p.cards (some pending) = [] := by
        unfold collectPlayCard canPlayCardOn
        rw [Option.map_some, heff]
        exact List.filter_false _
      rw [mem_playOptions, hnone]
      simp [answer, heff, eq_comm]
    | market =>
      refine mem_sortOps.trans ?_
      simp only [answer, heff, reduceCtorEq, false_or]
      rfl

/-! ## What is accepted -/

theorem OnTurn.onPlayerActionReq (h : OnTurn t c p) : t.onPlayerActionReq c req = t.switchAction c p req := by
  unfold Table.onPlayerActionReq
  rw [h.seat]
  dsimp only
  rw [if_neg h.not_refused, if_neg (not_not_intro h.stage)]

theorem mem_collectPlayCard {card : Card} : card ∈ collectPlayCard currCard hand pending ↔
      card ∈ hand ∧ canPlayCardOn currCard card pending = true := by
  unfold collectPlayCard
  exact List.mem_filter

theorem exists_playOptions : (∃ op ∈ playOptions currCard hand pending, op.offers req = true) ↔
      req.action = .playCard ∧ req.outCard ∈ collectPlayCard currCard hand pending := by
  simp only [mem_playOptions]
  constructor
  · rintro ⟨op, ⟨-, rfl⟩, hoff⟩
    unfold ActionOption.offers at hoff
    simp only [Bool.and_eq_true, decide_eq_true_eq] at hoff
    have hact : req.action = .playCard := hoff.1.symm
    rw [hact] at hoff
    exact ⟨hact, by simpa using hoff.2⟩
  · rintro ⟨hact, hcard⟩
    refine ⟨_, ⟨List.ne_nil_of_mem hcard, rfl⟩, ?_⟩
    unfold ActionOption.offers
    rw [hact]
    simpa using hcard

theorem mem_suits {suit : Int} :
    suit ∈ [1, 2, 3, 4, 5] ↔ ¬ (suit < suitCircle || suitStart < suit) = true := by
  rw [Bool.or_eq_true, decide_eq_true_eq, decide_eq_true_eq]
  unfold suitCircle suitStart
  simp only [List.mem_cons, List.not_mem_nil, or_false]
  omega

theorem OnTurn.exists_answer (h : OnTurn t c p) :
    (∃ op, answer t.pending = some op ∧ op.offers req = true) ↔
      req.action ≠ .playCard ∧ (t.onPlayerActionReq c req).isSome = true := by
  rw [h.onPlayerActionReq]
  unfold switchAction answer ActionOption.offers canDrawCard
  cases hpend : t.pending with
  | none => cases hact : req.action <;> simp [newDrawOption]
  | some pending =>
    have hok := h.turn.pending pending hpend
    have htgt : pending.target = some c := hok.target.trans h.active
    rcases hok.effect with ⟨heff, -⟩ | ⟨heff, -⟩ | heff | ⟨heff, hcurr⟩
    · cases hact : req.action <;> simp [newDrawOption, heff, htgt]
    · cases hact : req.action <;> simp [newDrawOption, heff, htgt]
    · cases hact : req.action <;> simp [heff, htgt]
    · cases hact : req.action
      case declareSuit =>
        by_cases hsuit : (req.declareSuit < suitCircle || suitStart < req.declareSuit) = true
        · have hout : req.declareSuit ∉ [1, 2, 3, 4, 5] := by rwa [mem_suits, not_not]
          simp [heff, isWhotCard, hcurr, hsuit, hout]
        · have hin : req.declareSuit ∈ [1, 2, 3, 4, 5] := mem_suits.mpr hsuit
          simp [heff, isWhotCard, hcurr, hsuit, hin]
      all_goals simp [heff, htgt]

theorem OnTurn.offered_iff_accepted (h : OnTurn t c p) :
    (∃ op ∈ t.getCanOp c, op.offers req = true) ↔ (t.onPlayerActionReq c req).isSome = true := by
  have hplay : (∃ op ∈ playOptions t.currCard p.cards t.pending, op.offers req = true) ↔
      req.action = .playCard ∧ (t.onPlayerActionReq c req).isSome = true := by
    rw [exists_playOptions, mem_collectPlayCard, ← canOutCard_iff, h.onPlayerActionReq]
    refine and_congr_right fun hact => ?_
    unfold switchAction
    rw [hact]
    cases t.canOutCard t.currCard p.cards req.outCard <;> simp
  simp only [h.mem_getCanOp, or_and_right, exists_or]
  rw [hplay, h.exists_answer]
  constructor
  · rintro (⟨-, hacc⟩ | ⟨-, hacc⟩)
    · exact hacc
    · exact hacc
  · intro hacc
    by_cases hact : req.action = .playCard
    · exact .inr ⟨hact, hacc⟩
    · exact .inl ⟨hact, hacc⟩

theorem OnTurn.drawCount_of_offered (h : OnTurn t c p) (hop : op ∈ t.getCanOp c)
    (hdraw : op.action = .drawCard) : op.drawCount = t.drawCount := by
  rcases h.mem_getCanOp.mp hop with hans | hplay
  · unfold answer at hans
    unfold drawCount
    cases hpend : t.pending with
    | none =>
      rw [hpend] at hans
      cases hans
      rfl
    | some pending =>
      rw [hpend] at hans
      dsimp only at hans ⊢
      rcases (h.turn.pending pending hpend).effect with
        ⟨heff, hqty⟩ | ⟨heff, hqty⟩ | heff | ⟨heff, -⟩
      · rw [heff] at hans
        cases hans
        rw [hqty]
        rfl
      · rw [heff] at hans
        cases hans
        rw [hqty]
        rfl
      · rw [heff] at hans
        cases hans
        cases hdraw
      · rw [heff] at hans
        cases hans
        cases hdraw
  · rw [(mem_playOptions.mp hplay).2] at hdraw
    cases hdraw

theorem OnTurn.draw (h : OnTurn t c p) (hdraw : req.action = .drawCard)
    (hmore : t.drawCount < t.undealt.length) (hstep : t.onPlayerActionReq c req = some t') :
    t'.undealt = t.undealt.drop t.drawCount ∧
      (t'.hand c : Multiset Card) = t.hand c + t.undealt.take t.drawCount := by
  have htgt (pending : Pending n) (hpend : t.pending = some pending) : pending.target = some c :=
    (h.turn.pending pending hpend).target.trans h.active
  rw [h.onPlayerActionReq, switchAction, hdraw] at hstep
  dsimp only at hstep
  split at hstep
  · cases hstep
  · cases hstep
    rw [onDrawCard_eq h.turn.undealt htgt, if_neg (Nat.not_le_of_lt hmore)]
    refine ⟨drawn_undealt t c, ?_⟩
    have hhand : (t.drawn c).hand c = sortCards (p.cards ++ t.undealt.take t.drawCount) :=
      hand_modify_self
        (t := { t with cards := (t.cards.dispatchCards t.drawCount).2, pending := none }) h.seat
    change ((t.drawn c).hand c : Multiset Card) = _
    rw [hhand, hand_eq h.seat, Multiset.coe_add]
    exact Multiset.coe_eq_coe.mpr (sortCards_perm _)

theorem getCanOp_of_not_active (hc : t.active ≠ some c) : t.getCanOp c = [] := by
  unfold getCanOp
  split
  · rfl
  · rw [if_pos]
    simp [Ne.symm hc]

theorem onPlayerActionReq_of_not_active (hc : t.active ≠ some c) : t.onPlayerActionReq c req = none := by
  cases hstep : t.onPlayerActionReq c req with
  | none => rfl
  | some =>
    obtain ⟨-, -, -, hact, -⟩ := onPlayerActionReq_some hstep
    exact absurd hact hc

theorem OnTurn.exists_option (h : OnTurn t c p) : ∃ op, op ∈ t.getCanOp c := by
  have hsome : (answer t.pending).isSome = true := by
    unfold answer
    cases hpend : t.pending with
    | none => rfl
    | some pending =>
      dsimp only
      rcases (h.turn.pending pending hpend).effect with
        ⟨heff, -⟩ | ⟨heff, -⟩ | heff | ⟨heff, -⟩ <;> rw [heff] <;> rfl
  obtain ⟨op, hop⟩ := Option.isSome_iff_exists.mp hsome
  exact ⟨op, h.mem_getCanOp.mpr (.inl hop)⟩

/-! ## Timeouts -/

theorem choose_mem {α : Type} {l : List α} (hl : l ≠ []) (k : Nat) : ∃ a ∈ l, choose l k = some a := by
  have hlt := Nat.mod_lt k (List.length_pos_iff.mpr hl)
  exact ⟨l.get ⟨_, hlt⟩, List.get_mem _ _, List.getElem?_eq_getElem hlt⟩

/-- An option names an action and what there is to choose from. -/
theorem OnTurn.option_cases (h : OnTurn t c p) (hop : op ∈ t.getCanOp c) :
    op.action = .drawCard ∨ op.action = .skipTurn ∨ op.action = .declareSuit ∧ op.suits ≠ [] ∨
      op.action = .playCard ∧ op.cards ≠ [] := by
  rcases h.mem_getCanOp.mp hop with hans | hplay
  · unfold answer at hans
    split at hans
    · cases hans
      exact .inl rfl
    · split at hans
      · cases hans
        exact .inl rfl
      · cases hans
        exact .inl rfl
      · cases hans
        exact .inl rfl
      · cases hans
        exact .inr (.inl rfl)
      · cases hans
        exact .inr (.inr (.inl ⟨rfl, List.cons_ne_nil _ _⟩))
      · cases hans
  · obtain ⟨hcards, rfl⟩ := mem_playOptions.mp hplay
    exact .inr (.inr (.inr ⟨rfl, hcards⟩))

theorem OnTurn.requestOf (h : OnTurn t c p) (hop : op ∈ t.getCanOp c) (r : Random) :
    ∃ req, requestOf r op = some req ∧ op.offers req = true := by
  unfold Table.requestOf ActionOption.offers
  rcases h.option_cases hop with hact | hact | ⟨hact, hsuits⟩ | ⟨hact, hcards⟩
  · rw [hact]
    exact ⟨_, rfl, rfl⟩
  · rw [hact]
    exact ⟨_, rfl, rfl⟩
  · obtain ⟨suit, hsuit, hchoose⟩ := choose_mem hsuits r.choice
    rw [hact, hchoose]
    exact ⟨_, rfl, by simpa using hsuit⟩
  · obtain ⟨card, hcard, hchoose⟩ := choose_mem hcards r.choice
    rw [hact, hchoose]
    exact ⟨_, rfl, by simpa using hcard⟩

theorem OnTurn.makeAutoActionReq (h : OnTurn t c p) (r : Random) :
    ∃ req t', t.makeAutoActionReq r c = some req ∧ t.onPlayerActionReq c req = some t' := by
  obtain ⟨first, hfst⟩ := h.exists_option
  obtain ⟨op, hop, hchoose⟩ := choose_mem (List.ne_nil_of_mem hfst) r.option
  obtain ⟨req, hreq, hoff⟩ := h.requestOf hop r
  obtain ⟨t', ht'⟩ := Option.isSome_iff_exists.mp (h.offered_iff_accepted.mp ⟨op, hop, hoff⟩)
  refine ⟨req, t', ?_, ht'⟩
  unfold Table.makeAutoActionReq
  rw [hchoose, Option.bind_some, hreq]

theorem OnTurn.onActionTimeout {r : Random} (h : OnTurn t c p) (hreq : t.makeAutoActionReq r c = some req)
    (hacc : t.onPlayerActionReq c req = some t') : t.onActionTimeout r = (.acted c req, t') := by
  have hgam : t.gaming c = true := gaming_iff.mpr ⟨p, h.seat, h.gaming⟩
  unfold Table.onActionTimeout
  rw [h.active]
  dsimp only
  rw [hgam, hreq]
  dsimp only
  rw [hacc]
  rfl

end Table

end Yola.Whot
