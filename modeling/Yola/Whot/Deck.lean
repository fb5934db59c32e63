import Mathlib.Data.List.GetD
import Yola.Whot.Card

/-!
# Dealing

What leaves the deck and what stays in it.
-/

namespace Yola.Whot

theorem sortCards_perm (cards : List Card) : (sortCards cards).Perm cards := List.perm_insertionSort _ cards

theorem sortCards_length (cards : List Card) : (sortCards cards).length = cards.length :=
  (sortCards_perm cards).length_eq

theorem sortCards_eq_nil {cards : List Card} : sortCards cards = [] ↔ cards = [] := by
  rw [← List.length_eq_zero_iff, sortCards_length, List.length_eq_zero_iff]

theorem drop_perm_of_take_eq {l l' : List Card} {k : Nat} (hperm : l'.Perm l)
    (htake : l'.take k = l.take k) : (l'.drop k).Perm (l.drop k) := by
  have hboth : (l'.take k ++ l'.drop k).Perm (l.take k ++ l.drop k) := by
    rw [List.take_append_drop, List.take_append_drop]
    exact hperm
  rw [htake] at hboth
  exact (List.perm_append_left_iff _).mp hboth

namespace GameCards

variable (g : GameCards) (k : Nat)

theorem dispatchCards_fst : (g.dispatchCards k).1 = g.getCards.take k := rfl

theorem getCards_dispatchCards : (g.dispatchCards k).2.getCards = g.getCards.drop k := by
  unfold dispatchCards getCards
  rw [List.drop_drop]
  rcases Nat.le_total (g.index + k) g.cards.length with h | h
  · rw [Nat.min_eq_left h]
  · rw [Nat.min_eq_right h, List.drop_length, List.drop_eq_nil_of_le h]

theorem dispatchCards_append : (g.dispatchCards k).1 ++ (g.dispatchCards k).2.getCards = g.getCards := by
  rw [dispatchCards_fst, getCards_dispatchCards, List.take_append_drop]

theorem getCardNum_eq : g.getCardNum = g.getCards.length := by
  unfold getCardNum getCards
  rw [List.length_drop]

theorem isEmpty_iff : g.isEmpty = true ↔ g.getCards = [] := by
  unfold isEmpty getCards
  rw [decide_eq_true_eq, List.drop_eq_nil_iff]

theorem raiseBottom_perm : g.raiseBottom.cards.Perm g.cards ∧ g.raiseBottom.index = g.index ∧
    g.raiseBottom.getCards.Perm g.getCards := by
  unfold raiseBottom
  split
  · exact ⟨.refl _, rfl, .refl _⟩
  · rename_i k hk
    have hlt : k < g.getCards.length := (List.findIdx?_eq_some_iff_findIdx_eq.mp hk).1
    unfold getCards at hlt
    rw [List.length_drop] at hlt
    have hfst : g.index < g.cards.length := by omega
    have hsecond : g.index + k < g.cards.length := by omega
    have hswap : ((g.cards.set g.index (g.cards.getD (g.index + k) 0)).set (g.index + k)
        (g.cards.getD g.index 0)).Perm g.cards := by
      rw [List.getD_eq_getElem _ _ hfst, List.getD_eq_getElem _ _ hsecond]
      exact List.set_set_perm hfst hsecond
    refine ⟨hswap, rfl, ?_⟩
    -- what was dealt before is where it was
    have htake : ((g.cards.set g.index (g.cards.getD (g.index + k) 0)).set (g.index + k)
        (g.cards.getD g.index 0)).take g.index = g.cards.take g.index := by
      rw [List.take_set_of_le (by omega), List.take_set_of_le (Nat.le_refl _)]
    exact drop_perm_of_take_eq hswap htake

theorem setBottom_cards : g.setBottom.2.cards.Perm g.cards := g.raiseBottom_perm.1

theorem setBottom_append : (g.setBottom.1 ++ g.setBottom.2.getCards).Perm g.getCards := by
  have hsplit : g.setBottom.1 ++ g.setBottom.2.getCards = g.raiseBottom.getCards :=
    g.raiseBottom.dispatchCards_append 1
  rw [hsplit]
  exact g.raiseBottom_perm.2.2

end GameCards

end Yola.Whot
