import Mathlib.Logic.Basic

/-!
# Runs of a labelled transition system

A system is a relation between a state, the label of a step, and the next state.  Everything proved
about whole runs is derived from what one step does by the rules below.
-/

namespace Yola.Reasoning

variable {σ ι : Type*}

inductive Run (step : σ → ι → σ → Prop) : σ → List ι → σ → Prop where
  | nil (s : σ) : Run step s [] s
  | cons {s t u : σ} {l : ι} {ls : List ι} (first : step s l t) (rest : Run step t ls u) :
      Run step s (l :: ls) u

def Reachable (init : σ → Prop) (step : σ → ι → σ → Prop) (s : σ) : Prop :=
  ∃ s₀ ls, init s₀ ∧ Run step s₀ ls s

variable {init : σ → Prop} {step : σ → ι → σ → Prop} {s t u : σ} {l : ι} {ls ls' : List ι}

namespace Run

variable {P : σ → Prop} {μ : σ → Nat}

theorem append (h : Run step s ls t) (h' : Run step t ls' u) : Run step s (ls ++ ls') u := by
  induction h with
  | nil => exact h'
  | cons first _ ih => exact .cons first (ih h')

theorem single (h : step s l t) : Run step s [l] t := .cons h (.nil t)

section

variable (hrun : Run step s ls t)

include hrun

/-- A property that steps with the labels of the run keep holds at its end. -/
theorem preserves (hstep : ∀ s l t, l ∈ ls → step s l t → P s → P t) (hs : P s) : P t := by
  induction hrun with
  | nil => exact hs
  | cons first _ ih =>
    apply ih (fun s l t hl => hstep s l t (List.mem_cons_of_mem _ hl))
    exact hstep _ _ _ List.mem_cons_self first hs

/-- A property of what has happened and of where the system is. -/
theorem history {P : List ι → σ → Prop} (hs : P [] s)
    (hstep : ∀ done s l t, P done s → step s l t → P (done ++ [l]) t) : P ls t := by
  suffices h : ∀ done, P done s → P (done ++ ls) t from h [] hs
  clear hs
  induction hrun with
  | nil =>
    intro done hdone
    rw [List.append_nil]
    exact hdone
  | cons first _ ih =>
    intro done hdone
    have hrest := ih _ (hstep done _ _ _ hdone first)
    rw [List.append_assoc] at hrest
    exact hrest

/-- Steps from states with a property that they keep have labels of a kind. -/
theorem forall_labels {Q : ι → Prop} (hs : P s)
    (hstep : ∀ s l t, step s l t → P s → P t ∧ Q l) : ∀ l ∈ ls, Q l := by
  induction hrun with
  | nil => exact nofun
  | cons first _ ih =>
    obtain ⟨hnext, hfst⟩ := hstep _ _ _ first hs
    intro l hl
    obtain rfl | hl := List.mem_cons.mp hl
    · exact hfst
    · exact ih hnext l hl

/-- A run is no longer than a number that every step makes smaller. -/
theorem length_le (hstep : ∀ s l t, step s l t → μ t < μ s) : ls.length + μ t ≤ μ s := by
  induction hrun with
  | nil => simp
  | cons first =>
    have hfirst := hstep _ _ _ first
    rw [List.length_cons]
    omega

/-- How often something happens is bounded by a number that it makes smaller and that nothing else
makes larger. -/
theorem countP_le {p : ι → Bool} (hs : P s)
    (hstep : ∀ s l t, l ∈ ls → P s → step s l t → P t ∧ (p l).toNat + μ t ≤ μ s) : ls.countP p + μ t ≤ μ s := by
  induction hrun with
  | nil => simp
  | @cons s _ _ l ls first _ ih =>
    obtain ⟨hnext, hless⟩ := hstep _ _ _ List.mem_cons_self hs first
    have hrest := ih hnext fun s l t hl => hstep s l t (List.mem_cons_of_mem _ hl)
    rw [List.countP_cons]
    cases hp : p l
    · rw [hp] at hless
      simp only [Bool.toNat_false, Nat.zero_add] at hless
      simp only [Bool.false_eq_true, if_false]
      omega
    · rw [hp] at hless
      simp only [Bool.toNat_true] at hless
      simp only [if_true]
      omega

/-- A run of steps of one kind is a run of steps of a wider kind. -/
theorem mono {step' : σ → ι → σ → Prop} (hstep : ∀ s l t, step s l t → step' s l t) : Run step' s ls t := by
  induction hrun with
  | nil s => exact .nil s
  | cons first _ ih => exact .cons (hstep _ _ _ first) ih

end

/-- A step of the run, with the run before and after it. -/
theorem split (hrun : Run step s (ls ++ l :: ls') u) :
    ∃ t t', Run step s ls t ∧ step t l t' ∧ Run step t' ls' u := by
  induction ls generalizing s with
  | nil =>
    cases hrun with
    | cons first rest => exact ⟨s, _, .nil s, first, rest⟩
  | cons a ls ih =>
    cases hrun with
    | cons first rest =>
      rcases ih rest with ⟨t, t', hpre, hmid, hpost⟩
      exact ⟨t, t', .cons first hpre, hmid, hpost⟩

end Run

namespace Reachable

variable {P : σ → Prop}

theorem init_state (h : init s) : Reachable init step s := ⟨s, [], h, .nil s⟩

variable (h : Reachable init step s)

include h

theorem next (hstep : step s l t) : Reachable init step t := by
  rcases h with ⟨s₀, ls, hinit, hrun⟩
  exact ⟨s₀, ls ++ [l], hinit, hrun.append (.single hstep)⟩

theorem run (hrun : Run step s ls t) : Reachable init step t := by
  rcases h with ⟨s₀, ls₀, hinit, hrun₀⟩
  exact ⟨s₀, ls₀ ++ ls, hinit, hrun₀.append hrun⟩

theorem mono {step' : σ → ι → σ → Prop} (hstep : ∀ s l t, step s l t → step' s l t) : Reachable init step' s := by
  rcases h with ⟨s₀, ls, hinit, hrun⟩
  exact ⟨s₀, ls, hinit, hrun.mono hstep⟩

/-- What holds initially and is kept by every step holds in every reachable state. -/
theorem invariant (hinit : ∀ s, init s → P s) (hstep : ∀ s l t, step s l t → P s → P t) : P s := by
  rcases h with ⟨s₀, ls, h₀, hrun⟩
  exact hrun.preserves (fun s l t _ => hstep s l t) (hinit s₀ h₀)

/-- The same when a step may use that its source is reachable. -/
theorem invariant_of (hinit : ∀ s, init s → P s)
    (hstep : ∀ s l t, Reachable init step s → step s l t → P s → P t) : P s := by
  have hboth : Reachable init step s ∧ P s := by
    apply h.invariant (P := fun s => Reachable init step s ∧ P s)
    · exact fun s hs => ⟨init_state hs, hinit s hs⟩
    · exact fun s l t hst hs => ⟨hs.1.next hst, hstep s l t hs.1 hst hs.2⟩
  exact hboth.2

end Reachable

end Yola.Reasoning
