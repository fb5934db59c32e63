import Yola.Reasoning.Runs

/-!
# Simulation by a family of small machines

A system may be watched from several sides at once, each with its own small machine that moves when a
step shows it something and rests otherwise.  If every step of the system can be followed by all of
them, so can every run, and each machine has then read exactly what its side was shown.
-/

namespace Yola.Reasoning

variable {σ ι τ ο κ : Type*}

/-- A machine follows what it is shown, and rests when it is shown nothing. -/
def Follows (astep : τ → ο → τ → Prop) : Option ο → τ → τ → Prop
  | none, a, b => b = a
  | some o, a, b => astep a o b

theorem Run.simulate {step : σ → ι → σ → Prop} {astep : τ → ο → τ → Prop}
    {observe : κ → ι → Option ο} {R : σ → (κ → τ) → Prop} {s t : σ} {ls : List ι}
    (hstep : ∀ s l t a, step s l t → R s a → ∃ b, R t b ∧ ∀ k, Follows astep (observe k l) (a k) (b k))
    (hrun : Run step s ls t) {a : κ → τ} (ha : R s a) :
    ∃ b, R t b ∧ ∀ k, Run astep (a k) (ls.filterMap (observe k)) (b k) := by
  induction hrun generalizing a with
  | nil => exact ⟨a, ha, fun k => .nil (a k)⟩
  | @cons s u t l ls first _ ih =>
    obtain ⟨a', ha', hfollows⟩ := hstep s l u a first ha
    obtain ⟨b, hb, hruns⟩ := ih ha'
    refine ⟨b, hb, fun k => ?_⟩
    have hk := hfollows k
    rw [List.filterMap_cons]
    cases hobs : observe k l with
    | none =>
      rw [hobs] at hk
      have hrest := hruns k
      rw [show a' k = a k from hk] at hrest
      exact hrest
    | some =>
      rw [hobs] at hk
      exact .cons hk (hruns k)

end Yola.Reasoning
