import Mathlib.Data.Bool.Basic

/-!
# Admission

`requestAdmission` counts the entries it has let in.  Its state is read and written without the mutex
that guards the count, so an `admit` that has read the state can be overtaken by a `close` before it
counts its entry: the mutex stays held between the two.  Once a stop has looked at the count under the
mutex, nothing is let in any more.
-/

namespace Yola.Node

inductive AdmissionState where
  | pending
  | opened
  | closed
deriving DecidableEq

structure Admission where
  state : AdmissionState
  /-- `mu` is held by an `admit` that has read the state and not counted its entry yet. -/
  locked : Bool
  active : Nat
  /-- The channel `drained`, once it is made, and whether it is closed. -/
  drained : Option Bool
deriving DecidableEq

namespace Admission

def new : Admission := ⟨.pending, false, 0, none⟩

-- a compare-and-swap
def open_ (a : Admission) : Admission := { a with state := if a.state = .pending then .opened else a.state }

def close (a : Admission) : Admission := { a with state := .closed }

def isClosed (a : Admission) : Bool := a.state = .closed

/-- `admit` gets the mutex and finds the admission open. -/
def canAdmit (a : Admission) : Bool := !a.locked && a.state = .opened

def lock (a : Admission) : Admission := { a with locked := true }

/-- The rest of an `admit` that found it open. -/
def enter (a : Admission) : Admission := { a with active := a.active + 1, locked := false }

def done (a : Admission) : Admission :=
  { a with
    active := a.active - 1
    drained := if a.active - 1 = 0 ∧ a.drained.isSome = true then some true else a.drained }

/-- What `stopAndWait` does under the mutex. -/
def watch (a : Admission) : Admission :=
  if a.active = 0 then a else { a with drained := a.drained.or (some false) }

/-- Closed for good: nobody is in and nobody is on the way in. -/
structure Quiet (a : Admission) : Prop where
  closed : a.state = .closed
  unlocked : a.locked = false
  empty : a.active = 0

/-- The admission agrees with the threads: how many are between the two halves of `admit`, and how
many are in. -/
structure Counts (a : Admission) (admitting entered : Nat) : Prop where
  locked : admitting = a.locked.toNat
  active : a.active = entered
  watched : a.drained ≠ none → a.state = .closed ∧ a.locked = false
  drained : a.drained = some true → a.active = 0

/-- Everything that can be done to an admission, with the threads on their way in and those in. -/
inductive Move : Admission → Nat → Nat → Admission → Nat → Nat → Prop where
  | kept (a m n) : Move a m n a m n
  | opened (a : Admission) (m n) : Move a m n a.open_ m n
  | closed (a : Admission) (m n) : Move a m n a.close m n
  | locked (a : Admission) (m n) (free : a.canAdmit = true) : Move a m n a.lock (m + 1) n
  | entered (a : Admission) (m n) : Move a (m + 1) n a.enter m (n + 1)
  | left (a : Admission) (m n) : Move a m (n + 1) a.done m n
  | watched (a : Admission) (m n) (closed : a.state = .closed) (free : a.locked = false) :
      Move a m n a.watch m n

variable {a : Admission} {m n : Nat}

theorem state_open_of_closed (h : a.state = .closed) : a.open_.state = .closed := by
  unfold open_
  rw [if_neg (by rw [h]; decide)]
  exact h

theorem canAdmit_iff : a.canAdmit = true ↔ a.locked = false ∧ a.state = .opened := by
  simp [canAdmit]

theorem Quiet.not_canAdmit (h : a.Quiet) : a.canAdmit = false := by
  simp [canAdmit, h.closed]

theorem Quiet.open_ (h : a.Quiet) : a.open_.Quiet := ⟨state_open_of_closed h.closed, h.unlocked, h.empty⟩

theorem Quiet.close (h : a.Quiet) : a.close.Quiet := ⟨rfl, h.unlocked, h.empty⟩

theorem Quiet.watch (h : a.Quiet) : a.watch.Quiet := by
  unfold Admission.watch
  rw [if_pos h.empty]
  exact h

theorem watch_state : a.watch.state = a.state := by
  unfold watch
  split <;> rfl

namespace Counts

theorem new : Admission.new.Counts 0 0 := ⟨rfl, rfl, by simp [Admission.new], by simp [Admission.new]⟩

variable (h : a.Counts m n)

include h

theorem open_ : a.open_.Counts m n where
  locked := h.locked
  active := h.active
  watched hd := ⟨state_open_of_closed (h.watched hd).1, (h.watched hd).2⟩
  drained := h.drained

theorem close : a.close.Counts m n where
  locked := h.locked
  active := h.active
  watched hd := ⟨rfl, (h.watched hd).2⟩
  drained := h.drained

theorem not_drained_of_opened (hopened : a.state = .opened) : a.drained = none := by
  by_contra hd
  have hcls := (h.watched hd).1
  rw [hopened] at hcls
  cases hcls

theorem lock (hadmits : a.canAdmit = true) : a.lock.Counts (m + 1) n := by
  obtain ⟨hfree, hopened⟩ := canAdmit_iff.mp hadmits
  have hm := h.locked
  rw [hfree] at hm
  have hnone := h.not_drained_of_opened hopened
  refine ⟨by rw [hm]; rfl, h.active, fun hd => absurd hnone hd, fun hd => ?_⟩
  exact h.drained hd

omit h in
-- Whoever holds the mutex found the admission open, so no stop has looked at the count.
theorem enter (h : a.Counts (m + 1) n) : a.enter.Counts m (n + 1) := by
  have hm := h.locked
  have hlock : a.locked = true := by
    by_contra hl
    rw [Bool.not_eq_true] at hl
    rw [hl] at hm
    cases hm
  rw [hlock] at hm
  have hnone : a.drained = none := by
    by_contra hd
    have hfree := (h.watched hd).2
    rw [hlock] at hfree
    cases hfree
  refine ⟨?_, by rw [← h.active]; rfl, fun hd => absurd hnone hd, fun hd => ?_⟩
  · change m = 0
    simpa using hm
  · rw [show a.enter.drained = a.drained from rfl, hnone] at hd
    cases hd

omit h in
theorem done (h : a.Counts m (n + 1)) : a.done.Counts m n := by
  have hact := h.active
  refine ⟨h.locked, by change a.active - 1 = n; omega, fun hd => ?_, fun hd => ?_⟩
  · apply h.watched
    intro hnone
    simp [Admission.done, hnone] at hd
  · by_cases hlast : a.active - 1 = 0 ∧ a.drained.isSome = true
    · exact hlast.1
    · change (if _ then _ else _) = _ at hd
      rw [if_neg hlast] at hd
      have := h.drained hd
      omega

theorem watch (hcls : a.state = .closed) (hfree : a.locked = false) : a.watch.Counts m n := by
  unfold Admission.watch
  split
  · exact h
  · rename_i hbusy
    refine ⟨h.locked, h.active, fun _ => ⟨hcls, hfree⟩, fun hd => h.drained ?_⟩
    cases hdrn : a.drained with
    | none => simp [hdrn] at hd
    | some => simpa [hdrn] using hd

theorem quiet_of_drained (hd : a.drained = some true) : a.Quiet := by
  obtain ⟨hcls, hfree⟩ := h.watched (by rw [hd]; exact Option.some_ne_none _)
  exact ⟨hcls, hfree, h.drained hd⟩

theorem not_admitting (hquiet : a.Quiet) : m = 0 := by
  rw [h.locked, hquiet.unlocked]
  rfl

theorem not_entered (hquiet : a.Quiet) : n = 0 := by
  rw [← h.active, hquiet.empty]

end Counts

namespace Move

variable {a' : Admission} {m' n' : Nat}

theorem same (hm : m' = m) (hn : n' = n) : Move a m n a m' n' := by
  subst hm hn
  exact .kept a m' n'

theorem counts (h : Move a m n a' m' n') (hcnts : a.Counts m n) : a'.Counts m' n' := by
  cases h with
  | kept => exact hcnts
  | opened => exact hcnts.open_
  | closed => exact hcnts.close
  | locked _ _ free => exact hcnts.lock free
  | entered => exact hcnts.enter
  | left => exact hcnts.done
  | watched _ _ closed free => exact hcnts.watch closed free

theorem stays_closed (h : Move a m n a' m' n') (hcls : a.state = .closed) : a'.state = .closed := by
  cases h with
  | opened => exact state_open_of_closed hcls
  | closed => rfl
  | watched => exact watch_state.trans hcls
  | _ => exact hcls

theorem stays_quiet (h : Move a m n a' m' n') (hcnts : a.Counts m n) (hquiet : a.Quiet) : a'.Quiet := by
  cases h with
  | kept => exact hquiet
  | opened => exact hquiet.open_
  | closed => exact hquiet.close
  | locked _ _ free =>
    rw [hquiet.not_canAdmit] at free
    cases free
  | entered => cases hcnts.not_admitting hquiet
  | left => cases hcnts.not_entered hquiet
  | watched => exact hquiet.watch

end Move

end Admission

end Yola.Node
