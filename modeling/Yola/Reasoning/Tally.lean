import Mathlib.Data.Int.Cast.Basic
import Mathlib.Logic.Function.Basic
import Yola.Reasoning.Threads

/-!
# Maps of counters

A map from keys to counters in which a missing key reads as zero, and from which an entry is deleted when
its counter would become zero.  It tallies a number for each key when it has an entry for exactly those
keys whose number is not zero, such as the number of threads that hold something under the key.
-/

open Function

namespace Yola.Reasoning

variable {κ : Type*}

abbrev Counters (κ : Type*) := κ → Option Int

namespace Counters

def empty : Counters κ := fun _ => none

def get (m : Counters κ) (k : κ) : Int := (m k).getD 0

def Tallies (m : Counters κ) (n : κ → Nat) : Prop := ∀ k, m k = if n k = 0 then none else some (n k : Int)

variable {m : Counters κ} {n n' : κ → Nat} {k : κ}

theorem tallies_empty (h : ∀ k, n k = 0) : (empty : Counters κ).Tallies n := by
  intro k
  rw [h k, if_pos rfl]
  rfl

theorem Tallies.get_eq (h : m.Tallies n) (k : κ) : m.get k = n k := by
  rw [get, h k]
  by_cases hk : n k = 0
  · rw [if_pos hk, hk]
    rfl
  · rw [if_neg hk]
    rfl

theorem Tallies.congr (h : m.Tallies n) (hn : ∀ k, n' k = n k) : m.Tallies n' := by
  intro k
  rw [hn k]
  exact h k

variable [DecidableEq κ]

def increment (m : Counters κ) (k : κ) : Counters κ := update m k (some (m.get k + 1))

/-- The entry is deleted when it is one. -/
def decrement (m : Counters κ) (k : κ) : Counters κ :=
  if m.get k = 1 then update m k none else update m k (some (m.get k - 1))

theorem Tallies.increment (h : m.Tallies n) (hn : ∀ k', n' k' = n k' + if k' = k then 1 else 0) :
    (m.increment k).Tallies n' := by
  intro k'
  rw [Counters.increment, hn k']
  by_cases hk : k' = k
  · subst hk
    rw [update_self, h.get_eq, if_pos rfl, if_neg (Nat.succ_ne_zero _)]
    rfl
  · rw [update_of_ne hk, if_neg hk]
    exact h k'

theorem Tallies.decrement (h : m.Tallies n) (hn : ∀ k', n k' = n' k' + if k' = k then 1 else 0) :
    (m.decrement k).Tallies n' := by
  have hk := hn k
  rw [if_pos rfl] at hk
  -- The other keys keep their entries in both branches.
  have hoth : ∀ {v k'}, k' ≠ k → update m k v k' = if n' k' = 0 then none else some (n' k' : Int) := by
    intro v k' hne
    have hsame := hn k'
    rw [if_neg hne, Nat.add_zero] at hsame
    rw [update_of_ne hne, ← hsame]
    exact h k'
  intro k'
  rw [Counters.decrement, h.get_eq]
  split
  · by_cases hne : k' = k
    · subst hne
      rw [update_self, if_pos (by omega)]
    · exact hoth hne
  · by_cases hne : k' = k
    · subst hne
      rw [update_self, if_neg (by omega), Option.some_inj]
      omega
    · exact hoth hne

variable {τ : Type*} {t t' : τ} {l l' : List τ} {p : κ → τ → Bool}

theorem Tallies.enter (h : m.Tallies fun k => l.countP (p k)) (hmv : Moves t t' l l')
    (ht : ∀ k', p k' t = false) (ht' : ∀ k', p k' t' = decide (k' = k)) :
    (m.increment k).Tallies fun k => l'.countP (p k) := by
  refine h.increment fun k' => ?_
  by_cases hk : k' = k
  · rw [if_pos hk]
    exact hmv.countP_enter (ht k') (by rw [ht']; exact decide_eq_true hk)
  · rw [if_neg hk]
    exact hmv.countP_eq (by rw [ht', ht, decide_eq_false hk])

theorem Tallies.leave (h : m.Tallies fun k => l.countP (p k)) (hmv : Moves t t' l l')
    (ht : ∀ k', p k' t = decide (k' = k)) (ht' : ∀ k', p k' t' = false) :
    (m.decrement k).Tallies fun k => l'.countP (p k) := by
  refine h.decrement fun k' => ?_
  by_cases hk : k' = k
  · rw [if_pos hk]
    exact (hmv.countP_leave (by rw [ht]; exact decide_eq_true hk) (ht' k')).symm
  · rw [if_neg hk]
    exact (hmv.countP_eq (by rw [ht', ht, decide_eq_false hk])).symm

theorem enter_le {N : Nat} (hl : ∀ k', l.countP (p k') ≤ N) (hroom : l.countP (p k) < N)
    (hmv : Moves t t' l l') (ht : ∀ k', p k' t = false) (ht' : ∀ k', p k' t' = decide (k' = k)) :
    ∀ k', l'.countP (p k') ≤ N := by
  intro k'
  by_cases hk : k' = k
  · rw [hmv.countP_enter (ht k') (by rw [ht']; exact decide_eq_true hk), hk]
    exact hroom
  · rw [hmv.countP_eq (by rw [ht', ht, decide_eq_false hk])]
    exact hl k'

omit [DecidableEq κ] in
theorem leave_le {N : Nat} (hl : ∀ k, l.countP (p k) ≤ N) (hmv : Moves t t' l l')
    (ht' : ∀ k, p k t' = false) (k : κ) : l'.countP (p k) ≤ N := by
  have hcnt := hmv.countP (p k)
  have hold := hl k
  rw [ht', Bool.toNat_false] at hcnt
  omega

omit [DecidableEq κ] in
theorem Tallies.move (h : m.Tallies fun k => l.countP (p k)) (hmv : Moves t t' l l')
    (ht : ∀ k, p k t' = p k t) : m.Tallies fun k => l'.countP (p k) :=
  h.congr fun k => hmv.countP_eq (ht k)

end Counters

end Yola.Reasoning
