import Mathlib.Algebra.BigOperators.Group.List.Basic
import Mathlib.Algebra.Ring.Nat
import Mathlib.Data.List.Basic

/-!
# Threads of a system

The threads of a system are a list, and a step moves one of them or starts another.  An invariant
about threads is a property of each, or a count of those in some place; both change by the thread
that moved alone.
-/

namespace Yola.Reasoning

variable {τ : Type*} {t t' u : τ} {l l' : List τ}

/-- One thread goes from `t` to `t'`, the others stay where they are. -/
inductive Moves (t t' : τ) : List τ → List τ → Prop where
  | intro (before after : List τ) : Moves t t' (before ++ t :: after) (before ++ t' :: after)

namespace Moves

theorem mem (h : Moves t t' l l') : t ∈ l := by
  cases h with
  | intro => exact List.mem_append_right _ List.mem_cons_self

theorem exists_of_mem (h : t ∈ l) (t' : τ) : ∃ l', Moves t t' l l' := by
  obtain ⟨before, after, rfl⟩ := List.append_of_mem h
  exact ⟨_, .intro before after⟩

variable {α : Type*} {p : τ → Bool} {f : τ → Option α} {x y : α} (h : Moves t t' l l')

include h

theorem mem_of_mem (hu : u ∈ l') : u = t' ∨ u ∈ l := by
  cases h with
  | intro =>
    rcases List.mem_append.mp hu with hb | ha
    · exact .inr (List.mem_append_left _ hb)
    · rcases List.mem_cons.mp ha with rfl | ha
      · exact .inl rfl
      · exact .inr (List.mem_append_right _ (List.mem_cons_of_mem _ ha))

/-- The other threads are still there. -/
theorem mem_of_ne (hu : u ∈ l) (hne : u ≠ t) : u ∈ l' := by
  cases h with
  | intro =>
    simp only [List.mem_append, List.mem_cons, hne, false_or] at hu ⊢
    exact hu.imp_right .inr

theorem new_mem : t' ∈ l' := by
  cases h with
  | intro => exact List.mem_append_right _ List.mem_cons_self

theorem forall_mem {P : τ → Prop} (ht : P t') (hl : ∀ u ∈ l, P u) : ∀ u ∈ l', P u := by
  intro u hu
  rcases h.mem_of_mem hu with rfl | hold
  · exact ht
  · exact hl u hold

theorem countP (p : τ → Bool) : l'.countP p + (p t).toNat = l.countP p + (p t').toNat := by
  cases h with
  | intro =>
    simp only [List.countP_append, List.countP_cons]
    cases p t <;> cases p t' <;> simp <;> omega

theorem countP_eq (hp : p t' = p t) : l'.countP p = l.countP p := by
  have hcnt := h.countP p
  rw [hp] at hcnt
  omega

theorem countP_enter (ht : p t = false) (ht' : p t' = true) : l'.countP p = l.countP p + 1 := by
  have hcnt := h.countP p
  rw [ht, ht'] at hcnt
  simpa using hcnt

theorem countP_leave (ht : p t = true) (ht' : p t' = false) : l'.countP p + 1 = l.countP p := by
  have hcnt := h.countP p
  rw [ht, ht'] at hcnt
  simpa using hcnt

/-- What the threads contribute to a list, with the place of the one that moved. -/
theorem filterMap (f : τ → Option α) :
    ∃ a b, l.filterMap f = a ++ (f t).toList ++ b ∧ l'.filterMap f = a ++ (f t').toList ++ b := by
  cases h with
  | intro before after =>
    refine ⟨before.filterMap f, after.filterMap f, ?_, ?_⟩
    · cases hf : f t <;> simp [hf]
    · cases hf : f t' <;> simp [hf]

theorem filterMap_some (ht : f t = some x) (ht' : f t' = some y) :
    ∃ a b, l.filterMap f = a ++ x :: b ∧ l'.filterMap f = a ++ y :: b := by
  obtain ⟨a, b, hold, hnew⟩ := h.filterMap f
  exact ⟨a, b, by simp [hold, ht], by simp [hnew, ht']⟩

theorem filterMap_enter (ht : f t = none) (ht' : f t' = some y) :
    ∃ a b, l.filterMap f = a ++ b ∧ l'.filterMap f = a ++ y :: b := by
  obtain ⟨a, b, hold, hnew⟩ := h.filterMap f
  exact ⟨a, b, by simp [hold, ht], by simp [hnew, ht']⟩

theorem filterMap_leave (ht : f t = some x) (ht' : f t' = none) :
    ∃ a b, l.filterMap f = a ++ x :: b ∧ l'.filterMap f = a ++ b := by
  obtain ⟨a, b, hold, hnew⟩ := h.filterMap f
  exact ⟨a, b, by simp [hold, ht], by simp [hnew, ht']⟩

theorem filterMap_eq (hf : f t' = f t) : l'.filterMap f = l.filterMap f := by
  obtain ⟨a, b, hold, hnew⟩ := h.filterMap f
  rw [hold, hnew, hf]

theorem sum_map (f : τ → Nat) : (l'.map f).sum + f t = (l.map f).sum + f t' := by
  cases h with
  | intro =>
    simp only [List.map_append, List.map_cons, List.sum_append, List.sum_cons]
    omega

theorem sum_map_eq {f : τ → Nat} (hf : f t' = f t) : (l'.map f).sum = (l.map f).sum := by
  have hsum := h.sum_map f
  rw [hf] at hsum
  omega

theorem length_eq : l'.length = l.length := by
  cases h with
  | intro => simp

end Moves

end Yola.Reasoning
