import Mathlib.Algebra.BigOperators.Fin
import Mathlib.Algebra.Order.BigOperators.Group.Finset
import Yola.Mailbox.View

/-!
# What always holds of a group

Each mailbox is in order, the counter of pending jobs agrees with what has happened, and the group goes
from one phase of its life to the next.
-/

namespace Yola.Mailbox

open Reasoning

variable {J : Type}

/-! ## The counter -/

section Counter

variable {n : Nat} {es : List (GroupEvent n J)} {e : GroupEvent n J}

def GroupEvent.isAccepted : GroupEvent n J → Bool
  | .accepted _ _ => true
  | _ => false

def GroupEvent.isReturned : GroupEvent n J → Bool
  | .returned _ _ => true
  | _ => false

def GroupEvent.isReported : GroupEvent n J → Bool
  | .reported _ _ => true
  | _ => false

/-- Every event that is counted belongs to one mailbox. -/
theorem countP_eq_sum {p : GroupEvent n J → Bool} {at_ : Fin n → GroupEvent n J → Option J}
    (h : ∀ e, ∑ i, (at_ i e).toList.length = (p e).toNat) (es : List (GroupEvent n J)) :
    es.countP p = ∑ i, (es.filterMap (at_ i)).length := by
  induction es with
  | nil => simp
  | cons e es ih =>
    have hcons (i : Fin n) : ((e :: es).filterMap (at_ i)).length =
        (es.filterMap (at_ i)).length + (at_ i e).toList.length := by
      cases hat : at_ i e <;> simp [hat]
    rw [Finset.sum_congr rfl fun i _ => hcons i, Finset.sum_add_distrib, ← ih, h e, List.countP_cons]
    cases p e <;> rfl

theorem sum_ite_toList (j : Fin n) (job : J) : ∑ i, (if j = i then some job else none).toList.length = 1 := by
  rw [Finset.sum_eq_single j]
  · simp
  · intro i _ hi
    simp [hi.symm]
  · simp

theorem countP_accepted (es : List (GroupEvent n J)) :
    es.countP GroupEvent.isAccepted = ∑ i, (accepted i es).length := by
  apply countP_eq_sum
  intro e
  cases e with
  | accepted j job => exact sum_ite_toList j job
  | _ => simp [GroupEvent.isAccepted]

theorem countP_reported (es : List (GroupEvent n J)) :
    es.countP GroupEvent.isReported = ∑ i, (reported i es).length := by
  apply countP_eq_sum
  intro e
  cases e with
  | reported j job => exact sum_ite_toList j job
  | _ => simp [GroupEvent.isReported]

end Counter

/-! ## Phases -/

inductive StopPhase : Bool → Bool → Bool → Bool → Finisher → Int → Prop where
  | fresh : StopPhase false false false false .idle 0
  | unstarted : StopPhase false true true true .idle 0
  | running (p) : StopPhase true false false false .idle p
  | checking (p) : StopPhase true true false false .checking p
  | waiting {p woken} (asleep : woken = false → p ≠ 0) :
      StopPhase true true false false (.waiting woken) p
  | closing : StopPhase true true false false .closing 0
  | joining : StopPhase true true true false .joining 0
  | ended : StopPhase true true true true .ended 0

namespace StopPhase

variable {started stopped done finished : Bool} {f : Finisher} {p : Int}

theorem report (h : StopPhase started stopped done finished f p) (hp : 0 < p) :
    StopPhase started stopped done finished (if p + -1 = 0 then f.wake else f) (p + -1) := by
  cases h with
  | running | checking =>
    split
    · constructor
    · constructor
  | waiting =>
    split
    · exact .waiting nofun
    · rename_i hne
      exact .waiting fun _ => hne
  | fresh | unstarted | closing | joining | ended => omega

theorem count (h : StopPhase started stopped done finished f p) (hstop : stopped = false)
    (hstarted : started = true) :
    StopPhase started stopped done finished (if p + 1 = 0 then f.wake else f) (p + 1) := by
  cases h with
  | running =>
    split
    · exact .running _
    · exact .running _
  | fresh => cases hstarted
  | _ => cases hstop

theorem idle (h : StopPhase started stopped done finished .checking 0) :
    StopPhase started stopped done finished .closing 0 := by
  cases h with
  | checking => exact .closing

theorem wait (h : StopPhase started stopped done finished .checking p) (hp : p ≠ 0) :
    StopPhase started stopped done finished (.waiting false) p := by
  cases h with
  | checking => exact .waiting fun _ => hp

theorem wake (h : StopPhase started stopped done finished (.waiting true) p) :
    StopPhase started stopped done finished .checking p := by
  cases h with
  | waiting => exact .checking p

theorem closeDone (h : StopPhase started stopped done finished .closing p) :
    StopPhase started stopped true finished .joining p := by
  cases h with
  | closing => exact .joining

theorem join (h : StopPhase started stopped done finished .joining p) :
    StopPhase started stopped done true .ended p := by
  cases h with
  | joining => exact .ended

theorem start (h : StopPhase started false done finished f p) (hstarted : started = false) :
    StopPhase true false done finished f p := by
  cases h with
  | fresh => exact .running 0
  | running => exact .running p

theorem stopFirst (h : StopPhase true false done finished f p) :
    StopPhase true true done finished .checking p := by
  cases h with
  | running => exact .checking p

theorem stopUnstarted (h : StopPhase false false done finished f p) : StopPhase false true true true f p := by
  cases h with
  | fresh => exact .unstarted

variable (h : StopPhase started stopped done finished f p)

include h

theorem settled (hdone : done = true) : stopped = true ∧ p = 0 := by
  cases h with
  | unstarted | joining | ended => exact ⟨rfl, rfl⟩
  | _ => cases hdone

theorem unstarted_pending (hstarted : started = false) : p = 0 := by
  cases h with
  | fresh | unstarted => rfl
  | _ => cases hstarted

theorem finished_of_rest (hstop : stopped = true)
    (hp : p = 0) (hchecking : f ≠ .checking) (hwoken : f ≠ .waiting true) (hcls : f ≠ .closing)
    (hjoining : f = .joining → done ≠ true) : finished = true := by
  cases h with
  | fresh | running => cases hstop
  | unstarted | ended => rfl
  | checking => exact absurd rfl hchecking
  | @waiting _ woken asleep =>
    cases woken with
    | false => exact absurd hp (asleep rfl)
    | true => exact absurd rfl hwoken
  | closing => exact absurd rfl hcls
  | joining => exact absurd rfl (hjoining rfl)

theorem done_of_finished (hfin : finished = true) : done = true := by
  cases h with
  | unstarted | ended => rfl
  | _ => cases hfin

end StopPhase

def Poster.inside {n : Nat} : Poster n J → Bool
  | .locking _ _ _ | .holding _ _ | .leaving => true
  | _ => false

section Life

variable {cfg : GroupConfig} {g g' : Group cfg.mailboxes J} {e : GroupEvent cfg.mailboxes J}

structure LifeInv (cfg : GroupConfig) (g : Group cfg.mailboxes J) : Prop where
  phase : StopPhase g.started g.stopped g.done g.finished g.finisher g.pending
  readers : g.readers = g.posters.countP Poster.inside
  refused : g.stopped = true ∨ g.started = false → g.readers = 0
  workers : g.workers.length = if g.started then cfg.workers else 0
  exited : .exited ∈ g.workers → g.done = true

structure SameLife (g g' : Group cfg.mailboxes J) : Prop where
  started : g'.started = g.started
  stopped : g'.stopped = g.stopped
  done : g'.done = g.done
  finished : g'.finished = g.finished
  finisher : g'.finisher = g.finisher
  pending : g'.pending = g.pending

namespace LifeInv

theorem same (h : LifeInv cfg g) (hsame : SameLife g g')
    (hrds : g'.readers = g'.posters.countP Poster.inside) (hle : g'.readers ≤ g.readers)
    (hwks : g'.workers.length = g.workers.length)
    (hexit : .exited ∈ g'.workers → g.done = true) : LifeInv cfg g' where
  phase := by
    rw [hsame.started, hsame.stopped, hsame.done, hsame.finished, hsame.finisher, hsame.pending]
    exact h.phase
  readers := hrds
  refused hclosed := by
    rw [hsame.stopped, hsame.started] at hclosed
    have := h.refused hclosed
    omega
  workers := by rw [hwks, hsame.started, h.workers]
  exited := by
    rw [hsame.done]
    exact hexit

theorem worker {w w' : Worker cfg.mailboxes J} {ws : List (Worker cfg.mailboxes J)}
    (h : LifeInv cfg g) (hsame : SameLife g g') (hrds : g'.readers = g.readers)
    (hposters : g'.posters = g.posters) (hws : g'.workers = ws) (move : Moves w w' g.workers ws)
    (hexit : w' = .exited → g.done = true) : LifeInv cfg g' := by
  apply h.same hsame
  · rw [hrds, hposters, h.readers]
  · rw [hrds]
  · rw [hws, move.length_eq]
  · intro hmem
    rw [hws] at hmem
    rcases move.mem_of_mem hmem with heq | hold
    · exact hexit heq.symm
    · exact h.exited hold

theorem poster {p p' : Poster cfg.mailboxes J} {ps : List (Poster cfg.mailboxes J)}
    (h : LifeInv cfg g) (hsame : SameLife g g') (hwks : g'.workers = g.workers)
    (hps : g'.posters = ps) (move : Moves p p' g.posters ps)
    (hrds : g'.readers + p.inside.toNat = g.readers + p'.inside.toNat)
    (hinside : p'.inside = true → p.inside = true) : LifeInv cfg g' := by
  have hcnt := move.countP Poster.inside
  have hbef := h.readers
  have hle : p'.inside.toNat ≤ p.inside.toNat := by
    cases hp' : p'.inside with
    | false => simp
    | true => rw [hinside hp']
  apply h.same hsame
  · rw [hps]
    omega
  · omega
  · rw [hwks]
  · rw [hwks]
    exact h.exited

end LifeInv

theorem WorkerStep.life (hstep : WorkerStep cfg g e g') (h : LifeInv cfg g)
    (hpend : e.isReported = true → 0 < g.pending) : LifeInv cfg g' := by
  cases hstep with
  | exit done move =>
    exact h.worker ⟨rfl, rfl, rfl, rfl, rfl, rfl⟩ rfl rfl rfl move fun _ => done
  | report move =>
    have hphase := h.phase.report (hpend rfl)
    refine ⟨hphase, h.readers, h.refused, ?_, fun hmem => ?_⟩
    · exact move.length_eq.trans h.workers
    · rcases move.mem_of_mem hmem with heq | hold
      · cases heq
      · exact h.exited hold
  | _ =>
    have move := ‹Moves _ _ g.workers _›
    exact h.worker ⟨rfl, rfl, rfl, rfl, rfl, rfl⟩ rfl rfl rfl move nofun

theorem TryPostStep.life (hstep : TryPostStep cfg g e g') (h : LifeInv cfg g) : LifeInv cfg g' := by
  have hpos {p p' : Poster cfg.mailboxes J} {ps : List (Poster cfg.mailboxes J)}
      (move : Moves p p' g.posters ps) (hp : p.inside = true) : 0 < g.readers := by
    rw [h.readers]
    exact List.countP_pos_iff.mpr ⟨p, move.mem, hp⟩
  cases hstep with
  | @full i job waits ps free full move =>
    have hlt := hpos move rfl
    have hout : (if waits then Poster.full i job else .returned (some .full)).inside = false := by
      cases waits <;> rfl
    refine h.poster ⟨rfl, rfl, rfl, rfl, rfl, rfl⟩ rfl rfl move ?_ ?_
    · rw [hout]
      exact Nat.sub_add_cancel hlt
    · rw [hout]
      nofun
  | leave move =>
    have hlt := hpos move rfl
    exact h.poster ⟨rfl, rfl, rfl, rfl, rfl, rfl⟩ rfl rfl move (Nat.sub_add_cancel hlt) nofun
  | count move =>
    have hlt := hpos move rfl
    have hopen : ¬ (g.stopped = true ∨ g.started = false) := by
      intro hcls
      have := h.refused hcls
      omega
    simp only [not_or, Bool.not_eq_true, Bool.not_eq_false] at hopen
    refine ⟨h.phase.count hopen.1 hopen.2, ?_, h.refused, h.workers, h.exited⟩
    exact h.readers.trans (move.countP_eq rfl).symm
  | append _ _ move | schedule _ _ move | scheduled _ move =>
    exact h.poster ⟨rfl, rfl, rfl, rfl, rfl, rfl⟩ rfl rfl move rfl fun _ => rfl

theorem FinishStep.life (hstep : FinishStep cfg g e g') (h : LifeInv cfg g) : LifeInv cfg g' := by
  have hph := h.phase
  cases hstep with
  | idle at_ idle =>
    rw [at_, idle] at hph
    refine ⟨?_, h.readers, h.refused, h.workers, h.exited⟩
    rw [idle]
    exact hph.idle
  | wait at_ busy =>
    rw [at_] at hph
    exact ⟨hph.wait busy, h.readers, h.refused, h.workers, h.exited⟩
  | wake at_ =>
    rw [at_] at hph
    exact ⟨hph.wake, h.readers, h.refused, h.workers, h.exited⟩
  | closeDone at_ =>
    rw [at_] at hph
    exact ⟨hph.closeDone, h.readers, h.refused, h.workers, fun _ => rfl⟩
  | join at_ =>
    rw [at_] at hph
    exact ⟨hph.join, h.readers, h.refused, h.workers, h.exited⟩

theorem CallStep.life (hstep : CallStep cfg g e g') (h : LifeInv cfg g) : LifeInv cfg g' := by
  have hph := h.phase
  -- a call that has come outside the critical section
  have hnew (p : Poster cfg.mailboxes J) (hp : p.inside = false) :
      LifeInv cfg (g.setPosters (g.posters ++ [p])) := by
    refine ⟨hph, ?_, h.refused, h.workers, h.exited⟩
    change g.readers = (g.posters ++ [p]).countP _
    rw [List.countP_append, ← h.readers]
    simp [hp]
  cases hstep with
  | start free running first =>
    rw [running, first] at hph
    refine ⟨?_, h.readers, fun _ => free, ?_, fun hmem => ?_⟩
    · rw [running]
      exact hph.start rfl
    · have hworkers := h.workers
      rw [first] at hworkers
      simp [List.eq_nil_of_length_eq_zero hworkers]
    · rcases List.mem_append.mp hmem with hold | hnew
      · exact h.exited hold
      · cases List.eq_of_mem_replicate hnew
  | post =>
    apply hnew
    split <;> rfl
  | tryPost => exact hnew _ rfl
  | enter running started move =>
    refine ⟨hph, ?_, fun hcls => ?_, h.workers, h.exited⟩
    · have hcount := move.countP_enter (p := Poster.inside) rfl rfl
      rw [← h.readers] at hcount
      exact hcount.symm
    · rw [running, started] at hcls
      rcases hcls with hcls | hcls <;> cases hcls
  | stopFirst free running started =>
    rw [running, started] at hph
    refine ⟨?_, h.readers, fun _ => free, h.workers, h.exited⟩
    rw [started]
    exact hph.stopFirst
  | stopUnstarted free running unstarted =>
    rw [running, unstarted] at hph
    refine ⟨?_, h.readers, fun _ => free, h.workers, fun _ => rfl⟩
    rw [unstarted]
    exact hph.stopUnstarted
  | stop | stopAgain | stopFinished | stopCancelled =>
    exact ⟨hph, h.readers, h.refused, h.workers, h.exited⟩
  | _ =>
    have move := ‹Moves _ _ g.posters _›
    exact h.poster ⟨rfl, rfl, rfl, rfl, rfl, rfl⟩ rfl rfl move rfl nofun

end Life

/-! ## Whole runs -/

variable {cfg : GroupConfig} {g g' : Group cfg.mailboxes J} {e : GroupEvent cfg.mailboxes J}
  {es : List (GroupEvent cfg.mailboxes J)} {i : Fin cfg.mailboxes}

/-- The job of the worker has returned, and the counter still counts it. -/
def Worker.reporting {n : Nat} : Worker n J → Bool
  | .draining _ (.reporting _ _) => true
  | _ => false

structure GroupInv (cfg : GroupConfig) (es : List (GroupEvent cfg.mailboxes J))
    (g : Group cfg.mailboxes J) : Prop where
  mailbox : ∀ i, MailboxInv (view i es g)
  life : LifeInv cfg g
  pending : g.pending = es.countP GroupEvent.isAccepted - es.countP GroupEvent.isReported
  reporting : es.countP GroupEvent.isReturned =
    es.countP GroupEvent.isReported + g.workers.countP Worker.reporting

/-- The jobs go through the stages in the order they were accepted, one at a time. -/
theorem MailboxInv.stages (h : MailboxInv (view i es g)) :
    reported i es <+: returned i es ∧ returned i es <+: started i es ∧
      started i es <+: accepted i es ∧ (started i es).length ≤ (returned i es).length + 1 := by
  obtain ⟨q, -, hacc⟩ := h.queued
  refine ⟨⟨_, h.told.symm⟩, ⟨_, h.called.symm⟩, ⟨q, hacc.symm⟩, ?_⟩
  have hcall : started i es = returned i es ++ _ := h.called
  have hsrv := h.served
  have hone := (view i es g).scheduled.toNat_le
  have hle := List.length_filterMap_le DrainStage.called (view i es g).drains
  rw [hcall, List.length_append]
  omega

theorem MailboxInv.reported_isPrefix (h : MailboxInv (view i es g)) : reported i es <+: accepted i es :=
  h.stages.1.trans (h.stages.2.1.trans h.stages.2.2.1)

theorem MailboxInv.reported_le (h : MailboxInv (view i es g)) :
    (reported i es).length + ((view i es g).drains.filterMap DrainStage.unreported).length ≤
      (accepted i es).length := by
  obtain ⟨q, -, hacc⟩ := h.queued
  have hacc : accepted i es = started i es ++ q := hacc
  have hcall : started i es = returned i es ++ _ := h.called
  have htold : returned i es = reported i es ++ _ := h.told
  rw [hacc, hcall, htold]
  simp only [List.length_append]
  omega

theorem GroupInv.pending_pos (h : GroupInv cfg es g) {job : J} {left : Nat}
    (hw : .draining i (.reporting job left) ∈ g.workers) : 0 < g.pending := by
  rw [h.pending, countP_accepted, countP_reported]
  have hlt : ∑ i, (reported i es).length < ∑ i, (accepted i es).length := by
    apply Finset.sum_lt_sum
    · intro k _
      have := (h.mailbox k).reported_le
      omega
    · refine ⟨i, Finset.mem_univ i, ?_⟩
      have hle := (h.mailbox i).reported_le
      have hmem : job ∈ (view i es g).drains.filterMap DrainStage.unreported :=
        List.mem_filterMap.mpr ⟨.reporting job left, List.mem_filterMap.mpr ⟨_, hw, Worker.drains_self⟩, rfl⟩
      have := List.length_pos_of_mem hmem
      omega
  omega

attribute [local simp] GroupEvent.isAccepted GroupEvent.isReported Group.setWorkers Group.setPosters
  Group.setMailbox Group.setStops Group.changePending in
theorem GroupStep.pending (h : GroupStep cfg g e g') :
    g'.pending = g.pending + e.isAccepted.toNat - e.isReported.toNat := by
  cases h with
  | internal step =>
    cases step with
    | worker step =>
      cases step with
      | report => simp [Int.sub_eq_add_neg]
      | _ => simp
    | post step | finish step => cases step <;> simp
  | call step => cases step <;> simp

theorem GroupStep.reporting (h : GroupStep cfg g e g') :
    g'.workers.countP Worker.reporting + e.isReported.toNat =
      g.workers.countP Worker.reporting + e.isReturned.toNat := by
  cases h with
  | internal step =>
    cases step with
    | worker step =>
      cases step with
      | ret move => exact move.countP_enter rfl rfl
      | report move => exact move.countP_leave rfl rfl
      | _ =>
        have move := ‹Moves _ _ g.workers _›
        exact move.countP_eq rfl
    | post step | finish step => cases step <;> rfl
  | call step =>
    cases step with
    | start => simp [Worker.reporting, GroupEvent.isReported, GroupEvent.isReturned]
    | _ => rfl

theorem GroupStep.life (hstep : GroupStep cfg g e g') (h : GroupInv cfg es g) : LifeInv cfg g' := by
  cases hstep with
  | internal step =>
    cases step with
    | worker step =>
      apply step.life h.life
      cases step with
      | report move => exact fun _ => h.pending_pos move.mem
      | _ => nofun
    | post step | finish step => exact step.life h.life
  | call step => exact step.life h.life

namespace GroupInv

theorem new : GroupInv cfg [] (Group.new : Group cfg.mailboxes J) where
  mailbox _ := ⟨rfl, rfl, ⟨[], rfl, rfl⟩, rfl, rfl, nofun⟩
  life := ⟨.fresh, rfl, fun _ => rfl, rfl, nofun⟩
  pending := rfl
  reporting := rfl

theorem step (h : GroupInv cfg es g) (hstep : GroupStep cfg g e g') : GroupInv cfg (es ++ [e]) g' where
  mailbox i := (h.mailbox i).move (hstep.view i)
  life := hstep.life h
  pending := by
    rw [hstep.pending, h.pending, List.countP_append, List.countP_append, List.countP_singleton,
      List.countP_singleton]
    cases e.isAccepted <;> cases e.isReported <;> simp <;> omega
  reporting := by
    have hold := h.reporting
    have hmoved := hstep.reporting
    rw [List.countP_append, List.countP_append, List.countP_singleton, List.countP_singleton]
    cases he : e.isReturned <;> cases he' : e.isReported <;> simp [he, he'] at * <;> omega

theorem run (hrun : Run (GroupStep cfg) Group.new es g) : GroupInv cfg es g :=
  hrun.history new fun _ _ _ _ => step

theorem reported_eq (h : GroupInv cfg es g) (hpend : g.pending = 0) (i : Fin cfg.mailboxes) :
    reported i es = accepted i es := by
  have hsum : ∑ i, (reported i es).length = ∑ i, (accepted i es).length := by
    have hcnt := h.pending
    rw [hpend, countP_accepted, countP_reported] at hcnt
    omega
  have hle (k : Fin cfg.mailboxes) : (reported k es).length ≤ (accepted k es).length := by
    have := (h.mailbox k).reported_le
    omega
  have hlen := (Finset.sum_eq_sum_iff_of_le fun k _ => hle k).mp hsum i (Finset.mem_univ i)
  exact (h.mailbox i).reported_isPrefix.eq_of_length hlen

end GroupInv

end Yola.Mailbox
