import Mathlib.Data.Option.Basic

/-!
# Contexts

A context of the Go standard library, as the chain of calls that made it.  It carries values, and it
is done once one of the cancel functions or deadlines it hangs on has struck.  Which cancel functions
have been called and what time it is belong to the world, so they are arguments.
-/

namespace Yola.Go

inductive Context (ι K V : Type*) where
  | background
  | withValue (parent : Context ι K V) (key : K) (value : V)
  | withCancel (parent : Context ι K V) (id : ι)
  -- `WithTimeout` is `WithDeadline` of the present time and the timeout
  | withDeadline (parent : Context ι K V) (id : ι) (deadline : Nat)
  | withoutCancel (parent : Context ι K V)

namespace Context

variable {ι K V : Type*}

def value [DecidableEq K] : Context ι K V → K → Option V
  | background, _ => none
  | withValue parent key v, k => if k = key then some v else parent.value k
  | withCancel parent _, k => parent.value k
  | withDeadline parent _ _, k => parent.value k
  | withoutCancel parent, k => parent.value k

def done (cancelled : ι → Bool) (now : Nat) : Context ι K V → Bool
  | background => false
  | withValue parent _ _ => parent.done cancelled now
  | withCancel parent id => cancelled id || parent.done cancelled now
  | withDeadline parent id deadline =>
      cancelled id || decide (deadline ≤ now) || parent.done cancelled now
  | withoutCancel _ => false

/-- `Deadline`: the earliest one on the way to the root. -/
def deadline? : Context ι K V → Option Nat
  | background => none
  | withValue parent _ _ | withCancel parent _ => parent.deadline?
  | withDeadline parent _ deadline => some (parent.deadline?.elim deadline (min deadline))
  | withoutCancel _ => none

/-- Both contexts answer every lookup alike. -/
def SameValues [DecidableEq K] (c c' : Context ι K V) : Prop := ∀ key, c.value key = c'.value key

/-- A context of its own: nothing but its own cancel function and its own deadline ends it. -/
def Detached (c : Context ι K V) (id : ι) (deadline : Nat) : Prop :=
  c.deadline? = some deadline ∧
    ∀ cancelled now, c.done cancelled now = (cancelled id || decide (deadline ≤ now))

section Values

variable [DecidableEq K] {c c' d : Context ι K V}

theorem SameValues.symm (h : SameValues c c') : SameValues c' c := fun key => (h key).symm

theorem SameValues.trans (h : SameValues c c') (h' : SameValues c' d) : SameValues c d :=
  fun key => (h key).trans (h' key)

end Values

theorem detached_withDeadline (c : Context ι K V) (id : ι) (deadline : Nat) :
    Detached (c.withoutCancel.withDeadline id deadline) id deadline := by
  refine ⟨rfl, fun cancelled now => ?_⟩
  show (cancelled id || decide (deadline ≤ now) || false) = _
  rw [Bool.or_false]

end Context

end Yola.Go
