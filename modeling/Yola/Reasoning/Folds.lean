import Mathlib.Data.List.Basic
import Mathlib.Data.List.Pairwise

/-!
# Loops over a list

A loop that keeps some state and can reject an element: if it rejects exactly the elements that are
not fine by themselves or do not agree with one that came before, then what it accepts does not depend
on the order of the list.  A loop without an exit: what one element brings about and the others leave
alone holds at its end.
-/

namespace Yola.Reasoning

variable {α σ ε : Type*} {step : σ → α → Except ε σ} {Inv : List α → σ → Prop} {Fine : α → Prop}
  {Agree : α → α → Prop} {s t : σ} {done l l' : List α}

structure Accepting (step : σ → α → Except ε σ) (Inv : List α → σ → Prop) (Fine : α → Prop)
    (Agree : α → α → Prop) : Prop where
  accepts : ∀ done s x, Inv done s → ((∃ s', step s x = .ok s') ↔ Fine x ∧ ∀ y ∈ done, Agree y x)
  keeps : ∀ done s x s', Inv done s → step s x = .ok s' → Inv (done ++ [x]) s'

namespace Accepting

variable (h : Accepting step Inv Fine Agree)

include h

theorem inv (hs : Inv done s) (hok : l.foldlM step s = .ok t) : Inv (done ++ l) t := by
  induction l generalizing done s with
  | nil =>
    cases hok
    rw [List.append_nil]
    exact hs
  | cons x l ih =>
    rw [List.foldlM_cons] at hok
    cases hx : step s x with
    | error =>
      rw [hx] at hok
      cases hok
    | ok s' =>
      rw [hx] at hok
      have hrest := ih (h.keeps done s x s' hs hx) hok
      rw [List.append_assoc] at hrest
      exact hrest

theorem ok_iff (hs : Inv done s) : (∃ t, l.foldlM step s = .ok t) ↔
      (∀ x ∈ l, Fine x ∧ ∀ y ∈ done, Agree y x) ∧ l.Pairwise Agree := by
  induction l generalizing done s with
  | nil => exact ⟨fun _ => ⟨nofun, .nil⟩, fun _ => ⟨s, rfl⟩⟩
  | cons x l ih =>
    rw [List.foldlM_cons, List.pairwise_cons]
    constructor
    · intro ⟨t, hok⟩
      cases hx : step s x with
      | error =>
        rw [hx] at hok
        cases hok
      | ok s' =>
        rw [hx] at hok
        obtain ⟨hrest, hpairs⟩ := (ih (h.keeps done s x s' hs hx)).mp ⟨t, hok⟩
        refine ⟨fun y hy => ?_, fun y hy => ?_, hpairs⟩
        · rcases List.mem_cons.mp hy with rfl | hy
          · exact (h.accepts done s _ hs).mp ⟨s', hx⟩
          · exact ⟨(hrest y hy).1, fun z hz => (hrest y hy).2 z (List.mem_append_left _ hz)⟩
        · exact (hrest y hy).2 x (List.mem_append_right _ (List.mem_singleton.mpr rfl))
    · intro ⟨hall, hfst, hpairs⟩
      obtain ⟨s', hx⟩ := (h.accepts done s x hs).mpr (hall x List.mem_cons_self)
      rw [hx]
      apply (ih (h.keeps done s x s' hs hx)).mpr
      refine ⟨fun y hy => ?_, hpairs⟩
      have hy' := hall y (List.mem_cons_of_mem x hy)
      refine ⟨hy'.1, fun z hz => ?_⟩
      rcases List.mem_append.mp hz with hz | hz
      · exact hy'.2 z hz
      · rw [List.mem_singleton.mp hz]
        exact hfst y hy

/-- The order of the list does not matter for what is accepted. -/
theorem ok_perm (hsymm : ∀ x y, Agree x y → Agree y x) (hs : Inv [] s) (hperm : l.Perm l') :
    (∃ t, l.foldlM step s = .ok t) ↔ ∃ t, l'.foldlM step s = .ok t := by
  rw [h.ok_iff hs, h.ok_iff hs, hperm.pairwise_iff (fun hxy => hsymm _ _ hxy)]
  have hmem (x : α) : x ∈ l ↔ x ∈ l' := hperm.mem_iff
  simp only [hmem]

end Accepting

/-- Two loops that do the same wherever the first condition holds, which the second loop keeps. -/
theorem foldl_congr_inv {f g : σ → α → σ} {I : σ → Prop} (hs : I s) (hkeeps : ∀ s x, I s → I (g s x))
    (h : ∀ s x, I s → x ∈ l → f s x = g s x) : l.foldl f s = l.foldl g s := by
  induction l generalizing s with
  | nil => rfl
  | cons x l ih =>
    rw [List.foldl_cons, List.foldl_cons, h s x hs List.mem_cons_self]
    exact ih (hkeeps s x hs) fun s y hs hy => h s y hs (List.mem_cons_of_mem x hy)

end Yola.Reasoning
