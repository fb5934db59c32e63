import Mathlib.Algebra.Ring.Int.Defs
import Mathlib.Order.Bounds.Defs
import Yola.Reasoning.Runs

/-!
# Fixed-rate rescheduling

The heap, the timing wheel and the timers of the standard library reschedule a periodic task in the same way:
from the instant it was due, however late its callback has ended or been rejected, to the next one on its grid
that is still to come.  Instants and durations are in nanoseconds.
-/

namespace Yola.Timer

open Reasoning

inductive Scheduler where
  | heap
  | wheel
  | stdlib
deriving DecidableEq

def nextExecution (previous interval now : Int) : Int :=
  let next := previous + interval
  if now < next then next
  else
    let missed := (now - next).tdiv interval + 1
    next + missed * interval

/-- `nextExecution` of each package; their texts are the same. -/
def Scheduler.nextExecution : Scheduler → Int → Int → Int → Int
  | heap | wheel | stdlib => Timer.nextExecution

def executorRetryDelay : Int := 10000000

structure TaskEntry where
  execAt : Int
  interval : Int
  repeated : Bool

namespace TaskEntry

variable (k : Scheduler) (entry : TaskEntry) (now : Int)

/-- `finish` of an entry that is still scheduled; a task that is not repeated goes. -/
def finish : Option TaskEntry :=
  if !entry.repeated then none
  else some { entry with execAt := k.nextExecution entry.execAt entry.interval now }

/-- `handleRejected` of an entry that is still scheduled. -/
def handleRejected : TaskEntry :=
  if entry.repeated then { entry with execAt := k.nextExecution entry.execAt entry.interval now }
  else { entry with execAt := now + executorRetryDelay }

end TaskEntry

/-- The callback has ended or the executor has rejected it; the standard library has no executor. -/
inductive Reschedules (k : Scheduler) : TaskEntry → Int → TaskEntry → Prop where
  | finish {entry entry' now} (h : entry.finish k now = some entry') : Reschedules k entry now entry'
  | handleRejected {entry now} (h : k ≠ .stdlib) : Reschedules k entry now (entry.handleRejected k now)

/-- The instants of a task from one of them on. -/
def grid (previous interval : Int) : Set Int := {t | ∃ n : Int, 1 ≤ n ∧ t = previous + n * interval}

section Next

variable {interval : Int} (previous now : Int)

theorem nextExecution_eq (h : 0 < interval) : ∃ n : Int, 1 ≤ n ∧
    nextExecution previous interval now = previous + n * interval ∧ now < previous + n * interval ∧
    (n = 1 ∨ previous + (n - 1) * interval ≤ now) := by
  unfold nextExecution
  dsimp only
  split
  · rename_i hnext
    exact ⟨1, Int.le_refl 1, by omega, by omega, .inl rfl⟩
  · rename_i hlate
    rw [Int.tdiv_eq_ediv_of_nonneg (by omega)]
    have hdiv := Int.ediv_mul_le (now - (previous + interval)) (Int.ne_of_gt h)
    have hrem := Int.lt_ediv_add_one_mul_self (now - (previous + interval)) h
    have hnonneg : 0 ≤ (now - (previous + interval)) / interval := Int.ediv_nonneg (by omega) (by omega)
    generalize (now - (previous + interval)) / interval = missed at *
    rw [Int.add_mul, Int.one_mul] at hrem
    refine ⟨missed + 2, by omega, ?_, ?_, .inr ?_⟩
    · rw [Int.add_mul, Int.add_mul]
      omega
    · rw [Int.add_mul]
      omega
    · rw [show missed + 2 - 1 = missed + 1 by omega, Int.add_mul]
      omega

theorem nextExecution_isLeast (h : 0 < interval) :
    IsLeast {t ∈ grid previous interval | now < t} (nextExecution previous interval now) := by
  obtain ⟨n, hn, heq, hlt, hfst⟩ := nextExecution_eq previous now h
  rw [heq]
  refine ⟨⟨⟨n, hn, rfl⟩, hlt⟩, ?_⟩
  rintro t ⟨⟨m, hm, rfl⟩, hnow⟩
  -- an instant before is the one before or earlier
  have hle : n ≤ m := by
    by_contra hmn
    have hprevious := Int.mul_le_mul_of_nonneg_right (show m ≤ n - 1 by omega) (Int.le_of_lt h)
    omega
  have hmul := Int.mul_le_mul_of_nonneg_right hle (Int.le_of_lt h)
  omega

end Next

variable {k : Scheduler} {first entry entry' : TaskEntry} {now : Int}

theorem Scheduler.nextExecution_eq (k : Scheduler) : k.nextExecution = Timer.nextExecution := by cases k <;> rfl

theorem Reschedules.eq_of_repeated (h : Reschedules k entry now entry') (hrep : entry.repeated = true) :
    entry' = { entry with execAt := nextExecution entry.execAt entry.interval now } := by
  cases h with
  | finish h =>
    unfold TaskEntry.finish at h
    rw [if_neg (by simp [hrep]), k.nextExecution_eq] at h
    exact (Option.some.inj h).symm
  | handleRejected =>
    unfold TaskEntry.handleRejected
    rw [if_pos hrep, k.nextExecution_eq]

/-- A periodic task on the grid of its first instant. -/
structure OnGrid (first entry : TaskEntry) : Prop where
  repeated : entry.repeated = true
  interval : entry.interval = first.interval
  execAt : first.execAt ≤ entry.execAt
  mod : entry.execAt % first.interval = first.execAt % first.interval

theorem OnGrid.next (h : OnGrid first entry) (hpos : 0 < first.interval) (hs : Reschedules k entry now entry') :
    OnGrid first entry' ∧ entry.execAt < entry'.execAt ∧
      IsLeast {t ∈ grid entry.execAt first.interval | now < t} entry'.execAt := by
  obtain rfl := hs.eq_of_repeated h.repeated
  have hleast := nextExecution_isLeast entry.execAt now hpos
  dsimp only
  rw [h.interval]
  obtain ⟨n, hn, heq⟩ := hleast.1.1
  have hstep := Int.mul_le_mul_of_nonneg_right hn (Int.le_of_lt hpos)
  have hlater := h.execAt
  refine ⟨⟨h.repeated, rfl, by dsimp only; omega, ?_⟩, by omega, hleast⟩
  dsimp only
  rw [heq, Int.add_mul_emod_self_right, h.mod]

theorem mem_grid {previous interval t : Int} (hpos : 0 < interval) (hlt : previous < t)
    (hmod : t % interval = previous % interval) : t ∈ grid previous interval := by
  obtain ⟨n, hn⟩ := Int.dvd_of_emod_eq_zero (Int.emod_eq_emod_iff_emod_sub_eq_zero.mp hmod)
  refine ⟨n, ?_, by rw [Int.mul_comm]; omega⟩
  have hprod : 0 < interval * n := by omega
  exact Int.pos_of_mul_pos_right hprod hpos

/-- A periodic task is next due at the first instant of its grid that is after the last one and still to come,
also after many late callbacks and rejections. -/
theorem fixed_rate_grid (k : Scheduler) :
    (∀ previous interval now, 0 < interval →
      IsLeast {t ∈ grid previous interval | now < t} (k.nextExecution previous interval now)) ∧
    ∀ (first entry next : TaskEntry) (nows : List Int) (now : Int), first.repeated = true → 0 < first.interval →
      Run (Reschedules k) first nows entry → Reschedules k entry now next →
        entry.execAt < next.execAt ∧ now < next.execAt ∧
        next.execAt % first.interval = first.execAt % first.interval ∧
        ∀ t, t % first.interval = first.execAt % first.interval → entry.execAt < t → now < t →
          next.execAt ≤ t := by
  refine ⟨fun previous interval now hpos => ?_, fun first entry next nows now hrep hpos hrun hs => ?_⟩
  · rw [k.nextExecution_eq]
    exact nextExecution_isLeast previous now hpos
  · have hgrid : OnGrid first entry := hrun.preserves (fun _ _ _ _ hs h => (h.next hpos hs).1)
      ⟨hrep, rfl, Int.le_refl _, rfl⟩
    obtain ⟨hnext, hlt, hleast⟩ := hgrid.next hpos hs
    refine ⟨hlt, hleast.1.2, hnext.mod, fun t hmod hlater hnow => hleast.2 ⟨?_, hnow⟩⟩
    exact mem_grid hpos hlater (hmod.trans hgrid.mod.symm)

/-- A callback ends late, and the next one is rejected late. -/
theorem fixed_rate_grid_late : Run (Reschedules .heap) ⟨0, 10, true⟩ [25] ⟨30, 10, true⟩ ∧
    Reschedules .heap ⟨30, 10, true⟩ 47 ⟨50, 10, true⟩ ∧ ∀ t : Int, t % 10 = 0 → 30 < t → 47 < t → 50 ≤ t := by
  have hrun : Run (Reschedules .heap) ⟨0, 10, true⟩ [25] ⟨30, 10, true⟩ := .single (.finish rfl)
  have hs : Reschedules .heap ⟨30, 10, true⟩ 47 ⟨50, 10, true⟩ := .handleRejected nofun
  exact ⟨hrun, hs, ((fixed_rate_grid .heap).2 _ _ _ _ _ rfl (by decide) hrun hs).2.2.2⟩

end Yola.Timer
