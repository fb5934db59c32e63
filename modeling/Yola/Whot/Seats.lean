import Mathlib.Algebra.BigOperators.Fin
import Yola.Whot.Game

/-!
# Who sits where

Facts about the chairs of a table that the proofs about a game share: which players are gaming, who comes
next, and what a change of one player does.
-/

namespace Yola.Whot.Table

variable {n : Nat} {t t' : Table n} {c d : Fin n} {p : Player}

/-! ## The next player -/

theorem self_mem_chairsAfter (c : Fin n) : c ∈ chairsAfter c n := by
  refine List.mem_map.mpr ⟨n - 1, List.mem_range.mpr (Nat.sub_lt c.pos Nat.one_pos), ?_⟩
  apply Fin.ext
  have hlt := c.isLt
  have hsum : c.val + 1 + (n - 1) = c.val + n := by omega
  change (c.val + 1 + (n - 1)) % n = c.val
  rw [hsum, Nat.add_mod_right, Nat.mod_eq_of_lt hlt]

theorem gaming_of_nextPlayer (h : t.nextPlayer c = some d) : t.gaming d = true := List.find?_some h

theorem nextPlayer_of_gaming (h : t.gaming c = true) : ∃ d, t.nextPlayer c = some d ∧ t.gaming d = true := by
  have hsome : (t.nextPlayer c).isSome = true :=
    List.find?_isSome.mpr ⟨c, self_mem_chairsAfter c, h⟩
  obtain ⟨d, hd⟩ := Option.isSome_iff_exists.mp hsome
  exact ⟨d, hd, gaming_of_nextPlayer hd⟩

/-! ## Gamers -/

theorem gaming_iff : t.gaming c = true ↔ ∃ p, t.seats c = some p ∧ p.isGaming = true := by
  unfold gaming
  rw [Option.any_eq_true]

theorem mem_seated : (c, p) ∈ t.seated ↔ t.seats c = some p := by
  unfold seated
  simp only [List.mem_filterMap, List.mem_finRange, true_and, Option.map_eq_some_iff, Prod.mk.injEq]
  constructor
  · rintro ⟨c', p', hp, rfl, rfl⟩
    exact hp
  · intro hp
    exact ⟨c, p, hp, rfl, rfl⟩

theorem mem_getGamers : (c, p) ∈ t.getGamers ↔ t.seats c = some p ∧ p.isGaming = true := by
  unfold getGamers
  rw [List.mem_filter, mem_seated]

theorem getGamers_eq (t : Table n) :
    t.getGamers = (List.finRange n).filterMap fun c =>
      ((t.seats c).filter Player.isGaming).map (c, ·) := by
  unfold getGamers seated
  rw [List.filter_filterMap]
  congr 1
  funext c
  cases hp : t.seats c with
  | none => rfl
  | some p => cases hg : p.isGaming <;> simp [Option.filter, hg]

theorem length_getGamers (t : Table n) : t.getGamers.length = (List.finRange n).countP t.gaming := by
  rw [getGamers_eq, List.length_filterMap_eq_countP]
  congr 1
  funext c
  unfold gaming
  cases hp : t.seats c with
  | none => rfl
  | some p => cases hg : p.isGaming <;> simp [hg]

/-! ## Changing one player -/

theorem seats_modify (t : Table n) (c d : Fin n) (f : Player → Player) :
    (t.modify c f).seats d = if d = c then (t.seats c).map f else t.seats d := by
  unfold modify
  exact Function.update_apply _ _ _ _

theorem seats_modify_self (t : Table n) (c : Fin n) (f : Player → Player) :
    (t.modify c f).seats c = (t.seats c).map f := by
  rw [seats_modify, if_pos rfl]

theorem seats_modify_of_ne (f : Player → Player) (h : d ≠ c) : (t.modify c f).seats d = t.seats d := by
  rw [seats_modify, if_neg h]

def blank (t : Table n) (c : Fin n) : Option Player := (t.seats c).map fun p => { p with cards := [] }

def hand (t : Table n) (c : Fin n) : List Card := ((t.seats c).map Player.cards).getD []

/-- A change of the hand alone. -/
def CardsOnly (f : Player → Player) : Prop := ∀ p, ∃ cards, f p = { p with cards := cards }

theorem cardsOnly_addCards (cards : List Card) : CardsOnly (·.addCards cards) := fun _ => ⟨_, rfl⟩

theorem cardsOnly_removeCard (card : Card) : CardsOnly (·.removeCard card) := fun _ => ⟨_, rfl⟩

theorem blank_modify {f : Player → Player} (hf : CardsOnly f) (c d : Fin n) :
    (t.modify c f).blank d = t.blank d := by
  unfold blank
  rw [seats_modify]
  split
  · rename_i hd
    subst hd
    cases hp : t.seats d with
    | none => rfl
    | some p =>
      obtain ⟨cards, hcards⟩ := hf p
      simp [hcards]
  · rfl

theorem gaming_eq_of_blank (h : t'.blank c = t.blank c) : t'.gaming c = t.gaming c := by
  have hgam (u : Table n) : u.gaming c = (u.blank c).any Player.isGaming := by
    unfold gaming blank
    rw [Option.any_map]
    rfl
  rw [hgam, hgam, h]

theorem getGamers_length_of_blank (h : ∀ c, t'.blank c = t.blank c) :
    t'.getGamers.length = t.getGamers.length := by
  rw [length_getGamers, length_getGamers]
  congr 1
  funext c
  exact gaming_eq_of_blank (h c)

end Yola.Whot.Table
