import Mathlib.Logic.Function.Basic

/-!
# Updates of a table

What a table says after one of its entries has been replaced.
-/

namespace Yola.Reasoning

open Function

variable {κ σ τ : Type*} [DecidableEq κ] {f : κ → σ} {k i : κ} {x y : σ}

/-- A part of the entry that stays does so everywhere. -/
theorem update_proj (g : σ → τ) (h : g x = g (f k)) (i : κ) : g (update f k x i) = g (f i) := by
  by_cases hi : i = k
  · rw [hi, update_self, h]
  · rw [update_of_ne hi]

theorem update_cases (h : update f k x i = y) : i = k ∧ x = y ∨ i ≠ k ∧ f i = y := by
  by_cases hi : i = k
  · rw [hi, update_self] at h
    exact .inl ⟨hi, h⟩
  · rw [update_of_ne hi] at h
    exact .inr ⟨hi, h⟩

/-- What holds of the new entry and of all others holds of all. -/
theorem update_forall {P : κ → σ → Prop} (hx : P k x) (h : ∀ i, i ≠ k → P i (f i)) (i : κ) :
    P i (update f k x i) :=
  (forall_update_iff f P).mpr ⟨hx, h⟩ i

end Yola.Reasoning
