import Mathlib.Data.List.Nodup
import Yola.Reasoning.Threads

/-!
# Entries of threads

Each thread has a key of its own, and a table has one entry for each thread that wants one, under the key
of the thread.  The table stays right when a thread comes to want an entry or gives its entry up.
-/

namespace Yola.Reasoning

variable {τ κ α : Type*} {key : τ → κ} {t t' : τ} {l l' : List τ}

theorem nodup_map_snoc (hl : (l.map key).Nodup) (fresh : ∀ u ∈ l, key u ≠ key t) :
    ((l ++ [t]).map key).Nodup := by
  rw [List.map_append, List.nodup_append_comm]
  refine List.nodup_cons.mpr ⟨fun hmem => ?_, hl⟩
  obtain ⟨u, hu, hkey⟩ := List.mem_map.mp hmem
  exact fresh u hu hkey

namespace Moves

theorem nodup_map (h : Moves t t' l l') (hkey : key t' = key t) (hl : (l.map key).Nodup) :
    (l'.map key).Nodup := by
  cases h with
  | intro =>
    rw [List.map_append, List.map_cons, ← hkey] at hl
    rw [List.map_append, List.map_cons]
    exact hl

variable [DecidableEq κ] {entry : τ → Option α} {f : α → κ} {table : List α} {x : α}

/-- Deleting under the key of one thread leaves the entries of the others. -/
theorem filter_others {before after : List τ} (hname : ∀ u x, entry u = some x → f x = key u)
    (hl : ((before ++ t :: after).map key).Nodup) :
    ((before ++ after).filterMap entry).filter (f · ≠ key t) = (before ++ after).filterMap entry := by
  rw [List.map_append, List.map_cons, List.nodup_middle, List.nodup_cons, ← List.map_append] at hl
  apply List.filter_eq_self.mpr
  intro x hx
  obtain ⟨u, hu, hent⟩ := List.mem_filterMap.mp hx
  refine decide_eq_true fun heq => hl.1 ?_
  exact List.mem_map.mpr ⟨u, hu, (hname u x hent).symm.trans heq⟩

theorem perm_enter (h : Moves t t' l l') (hname : ∀ u x, entry u = some x → f x = key u)
    (hl : (l.map key).Nodup) (htab : table.Perm (l.filterMap entry)) (ht : entry t = none)
    (ht' : entry t' = some x) : (x :: table.filter (f · ≠ key t)).Perm (l'.filterMap entry) := by
  cases h with
  | intro =>
    rw [List.filterMap_append, List.filterMap_cons_none ht, ← List.filterMap_append] at htab
    have hold := htab.filter (f · ≠ key t)
    rw [filter_others hname hl, List.filterMap_append] at hold
    rw [List.filterMap_append, List.filterMap_cons_some ht']
    exact (hold.cons x).trans List.perm_middle.symm

theorem perm_leave (h : Moves t t' l l') (hname : ∀ u x, entry u = some x → f x = key u)
    (hl : (l.map key).Nodup) (htab : table.Perm (l.filterMap entry)) (ht : entry t = some x)
    (ht' : entry t' = none) : (table.filter (f · ≠ key t)).Perm (l'.filterMap entry) := by
  cases h with
  | intro =>
    have hold := htab.filter (f · ≠ key t)
    rw [List.filterMap_append, List.filterMap_cons_some ht, List.filter_append,
      List.filter_cons_of_neg (by simp [hname t x ht]), ← List.filter_append, ← List.filterMap_append,
      filter_others hname hl] at hold
    rw [List.filterMap_append, List.filterMap_cons_none ht', ← List.filterMap_append]
    exact hold

end Moves

end Yola.Reasoning
