import Yola.Node.LifecycleSteps

/-!
# The epoch is given up last

The epoch is unregistered by a cleanup that saw both admissions empty and `Drain` succeed.  An
admission that is closed and empty stays so, whatever the startup still does, hence nothing is let in
behind the back of the cleanup.
-/

namespace Yola.Node

open Go Reasoning

namespace Task

variable {K V : Type}

def requestAdmits : Task K V → Bool
  | requestAdmitting _ => true
  | _ => false

/-- The task has an entry in `requests`. -/
def requestEntered : Task K V → Bool
  | requestChecking | requestFencing | requestHandling | requestLeaving | failing _ .request => true
  | _ => false

def deliveryAdmits : Task K V → Bool
  | deliveryAdmitting _ => true
  | _ => false

/-- The task has an entry in `deliveries`. -/
def deliveryEntered : Task K V → Bool
  | deliveryChecking _ | deliveryCalling _ | deliveryLeaving | failing _ .delivery => true
  | _ => false

end Task

/-- What lets a request, a handler, a delivery or a binding write go ahead. -/
def NodeEvent.admits {K V ρ : Type} : NodeEvent K V ρ → Bool
  | requestAdmitted | handlerCalled | deliveryAdmitted | bindingWritten => true
  | _ => false

/-- How much of the draining a cleanup has behind it. -/
def CleanupPc.stage {K V : Type} : CleanupPc K V → Nat
  | readStartup | waitStartup _ | readRecord | deregister | deregistering _ | stopRequests => 0
  | countRequests | waitRequests => 1
  | drain | draining => 2
  | stopDeliveries => 3
  | countDeliveries | waitDeliveries => 4
  | _ => 5

def CleanupPc.releases {K V : Type} : CleanupPc K V → Bool
  | cancelLease job | readDone job | waitDone job => job.releases
  | unregister _ | unregistering _ => true
  | _ => false

variable {K V ρ : Type} {cfg : LifecycleConfig} {s s' : Server K V ρ} {e : NodeEvent K V ρ}
  {es : List (NodeEvent K V ρ)} {a : Admission}

/-! ## What a step does to the admissions -/

namespace Server

def RequestMove (s s' : Server K V ρ) : Prop :=
  Admission.Move s.requests (s.tasks.countP Task.requestAdmits) (s.tasks.countP Task.requestEntered)
    s'.requests (s'.tasks.countP Task.requestAdmits) (s'.tasks.countP Task.requestEntered)

def DeliveryMove (s s' : Server K V ρ) : Prop :=
  Admission.Move s.deliveries (s.tasks.countP Task.deliveryAdmits)
    (s.tasks.countP Task.deliveryEntered) s'.deliveries (s'.tasks.countP Task.deliveryAdmits)
    (s'.tasks.countP Task.deliveryEntered)

end Server

theorem Admission.Move.kept_or_closed {a' : Admission} {m n m' n' : Nat}
    (h : a' = a ∨ a' = a.close) (hm : m' = m) (hn : n' = n) : Move a m n a' m' n' := by
  subst hm hn
  rcases h with rfl | rfl
  · exact .kept ..
  · exact .closed ..

/-- What a step that is not the cleanup's leaves to it. -/
structure Beside (s : Server K V ρ) (e : NodeEvent K V ρ) (s' : Server K V ρ) : Prop where
  cleanup : ∀ c, s'.cleanup = .running c → s.cleanup = .running c
  drain : ∀ ok, s'.drain = .returned ok → s.drain = .returned ok ∨ e = .drainReturned ok
  held : ∀ ctx, e ≠ .unregisterCalled ctx

/-- What a step of `triggerStop` or `fail` does, whoever has called them. -/
structure Called (s : Server K V ρ) (e : NodeEvent K V ρ) (s' : Server K V ρ) : Prop where
  requests : s'.requests = s.requests ∨ s'.requests = s.requests.close
  deliveries : s'.deliveries = s.deliveries ∨ s'.deliveries = s.deliveries.close
  tasks : s'.tasks = s.tasks
  drain : s'.drain = s.drain
  silent : e.admits = false
  cleanup : ∀ c, s'.cleanup = .running c → s.cleanup = .running c
  held : ∀ ctx, e ≠ .unregisterCalled ctx

theorem Called.beside (h : Called s e s') : Beside s e s' :=
  ⟨h.cleanup, fun _ hok => .inl (h.drain ▸ hok), h.held⟩

theorem TriggerStep.called {base : Ctx K V} {timeout : Nat} {pc pc' : TriggerPc}
    (h : TriggerStep base timeout s pc e s' pc') : Called s e s' := by
  cases h with
  | beginStopping => exact ⟨.inr rfl, .inl rfl, rfl, rfl, rfl, fun _ => id, nofun⟩
  | first => exact ⟨.inl rfl, .inl rfl, rfl, rfl, rfl, by rintro _ ⟨⟩, nofun⟩
  | _ => exact ⟨.inl rfl, .inl rfl, rfl, rfl, rfl, fun _ => id, nofun⟩

theorem FailStep.called {pc pc' : FailPc} (h : FailStep cfg s pc e s' pc') : Called s e s' := by
  cases h with
  | beginStopping => exact ⟨.inr rfl, .inl rfl, rfl, rfl, rfl, fun _ => id, nofun⟩
  | closeDeliveries => exact ⟨.inl rfl, .inr rfl, rfl, rfl, rfl, fun _ => id, nofun⟩
  | trigger step => exact step.called
  | _ => exact ⟨.inl rfl, .inl rfl, rfl, rfl, rfl, fun _ => id, nofun⟩

theorem OutsideStep.beside (h : OutsideStep s e s') : Beside s e s' := by
  cases h with
  | drainReturned => exact ⟨fun _ => id, fun _ => by rintro ⟨⟩; exact .inr rfl, nofun⟩
  | _ => exact ⟨fun _ => id, fun _ => .inl, nofun⟩

theorem StartStep.beside (h : StartStep cfg s e s') : Beside s e s' := by
  cases h with
  | failing at_ step | stopping at_ step => exact { step.called.beside with }
  | _ => exact ⟨fun _ => id, fun _ => .inl, nofun⟩

theorem TaskStep.beside (h : TaskStep cfg s e s') : Beside s e s' := by
  cases h with
  | failing step | stop step => exact { step.called.beside with }
  | deliveryCalled write => exact ⟨fun _ => id, fun _ => .inl, by cases write <;> exact nofun⟩
  | _ => exact ⟨fun _ => id, fun _ => .inl, nofun⟩

theorem OutsideStep.moves (h : OutsideStep s e s') : s.RequestMove s' ∧ s.DeliveryMove s' := by
  cases h <;> exact ⟨.kept .., .kept ..⟩

theorem StartStep.moves (h : StartStep cfg s e s') : s.RequestMove s' ∧ s.DeliveryMove s' := by
  cases h with
  | leaseStarted => exact ⟨.same rfl rfl, .same rfl rfl⟩
  | recordAccepted => exact ⟨.kept .., .opened ..⟩
  | opened => exact ⟨.opened .., .kept ..⟩
  | failing at_ step | stopping at_ step =>
    obtain ⟨hreqs, hdels, htasks, -⟩ := step.called
    exact ⟨.kept_or_closed hreqs (by rw [← htasks]; rfl) (by rw [← htasks]; rfl),
      .kept_or_closed hdels (by rw [← htasks]; rfl) (by rw [← htasks]; rfl)⟩
  | _ => exact ⟨.kept .., .kept ..⟩

section Tasks

variable {t t' : Task K V} {tasks : List (Task K V)} {a : Admission} {p q : Task K V → Bool}
  {l : List (Task K V)}

theorem Admission.Move.of_moves {a' : Admission}
    (h : a' = a ∨ a' = a.close) (hmv : Moves t t' l tasks) (hp : p t' = p t) (hq : q t' = q t) :
    Move a (l.countP p) (l.countP q) a' (tasks.countP p) (tasks.countP q) :=
  .kept_or_closed h (hmv.countP_eq hp) (hmv.countP_eq hq)

theorem Admission.Move.lock_spawn (l : List (Task K V))
    (free : a.canAdmit = true) (hp : p t = true) (hq : q t = false) :
    Move a (l.countP p) (l.countP q) a.lock ((t :: l).countP p) ((t :: l).countP q) := by
  rw [List.countP_cons_of_pos hp, List.countP_cons_of_neg (by rw [hq]; decide)]
  exact .locked _ _ _ free

theorem Admission.Move.lock_moves
    (free : a.canAdmit = true) (hmv : Moves t t' l tasks) (hp : p t = false) (hp' : p t' = true)
    (hq : q t' = q t) : Move a (l.countP p) (l.countP q) a.lock (tasks.countP p) (tasks.countP q) := by
  rw [hmv.countP_enter hp hp', hmv.countP_eq hq]
  exact .locked _ _ _ free

theorem Admission.Move.enter_moves
    (hmv : Moves t t' l tasks) (hp : p t = true) (hp' : p t' = false) (hq : q t = false)
    (hq' : q t' = true) : Move a (l.countP p) (l.countP q) a.enter (tasks.countP p) (tasks.countP q) := by
  rw [← hmv.countP_leave hp hp', hmv.countP_enter hq hq']
  exact .entered ..

theorem Admission.Move.leave_moves
    (hmv : Moves t t' l tasks) (hp : p t' = p t) (hq : q t = true) (hq' : q t' = false) :
    Move a (l.countP p) (l.countP q) a.done (tasks.countP p) (tasks.countP q) := by
  rw [hmv.countP_eq hp, ← hmv.countP_leave hq hq']
  exact .left ..

theorem TaskStep.moves (h : TaskStep cfg s e s') : s.RequestMove s' ∧ s.DeliveryMove s' := by
  unfold Server.RequestMove Server.DeliveryMove
  cases h with
  | stopCalled | disconnectCalled => exact ⟨.same rfl rfl, .same rfl rfl⟩
  | requestLocked free => exact ⟨.lock_spawn s.tasks free rfl rfl, .same rfl rfl⟩
  | deliveryLocked write free => exact ⟨.same rfl rfl, .lock_spawn s.tasks free rfl rfl⟩
  | disconnectLocked tasks valid free moves =>
    exact ⟨.lock_moves free moves rfl rfl rfl, .of_moves (.inl rfl) moves rfl rfl⟩
  | requestAdmitted disconnect tasks moves =>
    cases disconnect <;>
    exact ⟨.enter_moves moves rfl rfl rfl rfl, .of_moves (.inl rfl) moves rfl rfl⟩
  | deliveryAdmitted write tasks moves =>
    exact ⟨.of_moves (.inl rfl) moves rfl rfl, .enter_moves moves rfl rfl rfl rfl⟩
  | requestDone task tasks place free moves =>
    rcases place with rfl | rfl <;>
    exact ⟨.leave_moves moves rfl rfl rfl, .of_moves (.inl rfl) moves rfl rfl⟩
  | deliveryDone tasks free moves =>
    exact ⟨.of_moves (.inl rfl) moves rfl rfl, .leave_moves moves rfl rfl rfl⟩
  | requestFenced task tasks place isOver moves | requestRefused task tasks place moves =>
    rcases place with rfl | rfl <;>
    exact ⟨.of_moves (.inl rfl) moves rfl rfl, .of_moves (.inl rfl) moves rfl rfl⟩
  | stop step moves =>
    exact ⟨.of_moves step.called.requests moves rfl rfl, .of_moves step.called.deliveries moves rfl rfl⟩
  | @failing s' e pc pc' caller tasks step moves =>
    cases caller <;>
    exact ⟨.of_moves step.called.requests moves rfl rfl, .of_moves step.called.deliveries moves rfl rfl⟩
  | failed timeout caller tasks moves =>
    cases caller <;> exact ⟨.of_moves (.inl rfl) moves rfl rfl, .of_moves (.inl rfl) moves rfl rfl⟩
  | renewed | firstRenewal => exact ⟨.kept .., .kept ..⟩
  | monitorEnded cause tasks isOver moves =>
    constructor <;> refine .of_moves (.inl rfl) moves ?_ ?_ <;> split <;> rfl
  | _ =>
    rename_i moves
    exact ⟨.of_moves (.inl rfl) moves rfl rfl, .of_moves (.inl rfl) moves rfl rfl⟩

end Tasks

/-! ## What the cleanup has seen -/

structure CleanupInv (cfg : LifecycleConfig) (es : List (NodeEvent K V ρ)) (s : Server K V ρ)
    (c : Cleanup K V ρ) : Prop where
  requestsClosed : 1 ≤ c.pc.stage → s.requests.state = .closed
  requests : 2 ≤ c.pc.stage → c.requestErr = false → s.requests.Quiet
  drain : 3 ≤ c.pc.stage → c.requestErr = false → c.drainErr = false → cfg.drain = true →
    .drainReturned true ∈ es
  deliveriesClosed : 4 ≤ c.pc.stage → s.deliveries.state = .closed
  deliveries : 5 ≤ c.pc.stage → c.deliveryErr = false → s.deliveries.Quiet
  releasing : c.pc.releases = true → c.drained = true

structure ShutdownInv (cfg : LifecycleConfig) (es : List (NodeEvent K V ρ)) (s : Server K V ρ) :
    Prop where
  requests : s.requests.Counts (s.tasks.countP Task.requestAdmits) (s.tasks.countP Task.requestEntered)
  deliveries : s.deliveries.Counts (s.tasks.countP Task.deliveryAdmits) (s.tasks.countP Task.deliveryEntered)
  drain : ∀ ok, s.drain = .returned ok → .drainReturned ok ∈ es
  cleanup : ∀ c, s.cleanup = .running c → CleanupInv cfg es s c

theorem CleanupStep.moves {c : Cleanup K V ρ} (h : CleanupStep cfg s c e s')
    (hc : CleanupInv cfg es s c) : s.RequestMove s' ∧ s.DeliveryMove s' := by
  cases h with
  | requestsClosed => exact ⟨.closed .., .kept ..⟩
  | requestsCounted pc free =>
    have hclosed := hc.requestsClosed (by rw [pc]; exact Nat.le_refl 1)
    exact ⟨.watched _ _ _ hclosed free, .kept ..⟩
  | deliveriesClosed => exact ⟨.kept .., .closed ..⟩
  | deliveriesCounted pc free =>
    have hclosed := hc.deliveriesClosed (by rw [pc]; exact Nat.le_refl 4)
    exact ⟨.kept .., .watched _ _ _ hclosed free⟩
  | _ => exact ⟨.kept .., .kept ..⟩

theorem NodeStep.moves (h : NodeStep cfg s e s') (hinv : ShutdownInv cfg es s) :
    s.RequestMove s' ∧ s.DeliveryMove s' := by
  cases h with
  | outside h | start h | task h => exact h.moves
  | cleanupBegun => exact ⟨.kept .., .kept ..⟩
  | cleanup at_ h => exact h.moves (hinv.cleanup _ at_)

theorem LeaseJob.next_stage (job : LeaseJob K V) : job.next.stage = 5 := by
  cases job <;> rfl

theorem LeaseJob.next_releases (job : LeaseJob K V) : job.next.releases = false := by
  cases job <;> rfl

namespace CleanupInv

variable {c c' : Cleanup K V ρ}

theorem frame (h : CleanupInv cfg es s c) (hinv : ShutdownInv cfg es s) (hr : s.RequestMove s')
    (hd : s.DeliveryMove s') : CleanupInv cfg (es ++ [e]) s' c where
  requestsClosed hstage := hr.stays_closed (h.requestsClosed hstage)
  requests hstage herr := hr.stays_quiet hinv.requests (h.requests hstage herr)
  drain hstage hr hd hcfg := List.mem_append_left _ (h.drain hstage hr hd hcfg)
  deliveriesClosed hstage := hd.stays_closed (h.deliveriesClosed hstage)
  deliveries hstage herr := hd.stays_quiet hinv.deliveries (h.deliveries hstage herr)
  releasing := h.releasing

theorem within (h : CleanupInv cfg es s c) (hst : c'.pc.stage = c.pc.stage)
    (hreq : c'.requestErr = c.requestErr) (hdrain : c'.drainErr = c.drainErr)
    (hdel : c'.deliveryErr = c.deliveryErr) (hrel : c'.pc.releases = true → c'.drained = true) :
    CleanupInv cfg es s c' := by
  constructor
  · rw [hst]
    exact h.requestsClosed
  · rw [hst, hreq]
    exact h.requests
  · rw [hst, hreq, hdrain]
    exact h.drain
  · rw [hst]
    exact h.deliveriesClosed
  · rw [hst, hdel]
    exact h.deliveries
  · exact hrel

theorem step (h : CleanupStep cfg s c e s') (hinv : ShutdownInv cfg es s)
    (hc : CleanupInv cfg es s c) (hc' : s'.cleanup = .running c') :
    CleanupInv cfg (es ++ [e]) s' c' := by
  obtain ⟨hreq, hdel⟩ := h.moves hc
  have hkept : CleanupInv cfg (es ++ [e]) s' c := hc.frame hinv hreq hdel
  cases h with
  | requestsClosed =>
    cases hc'
    exact ⟨fun _ => rfl, nofun, nofun, nofun, nofun, nofun⟩
  | requestsCounted pc free =>
    cases hc'
    have hclosed := hkept.requestsClosed (by rw [pc]; exact Nat.le_refl 1)
    split
    · rename_i hemp
      refine ⟨fun _ => hclosed, fun _ _ => ?_, nofun, nofun, nofun, nofun⟩
      have hwatch : s.requests.watch = s.requests := if_pos hemp
      rw [Server.setCleanup, hwatch] at hclosed ⊢
      exact ⟨hclosed, free, hemp⟩
    · exact ⟨fun _ => hclosed, nofun, nofun, nofun, nofun, nofun⟩
  | requestsDrained pc drained =>
    cases hc'
    have hclosed := hkept.requestsClosed (by rw [pc]; exact Nat.le_refl 1)
    exact ⟨fun _ => hclosed, fun _ _ => hinv.requests.quiet_of_drained drained, nofun, nofun, nofun,
      nofun⟩
  | requestsLate pc =>
    cases hc'
    have hclosed := hkept.requestsClosed (by rw [pc]; exact Nat.le_refl 1)
    exact ⟨fun _ => hclosed, nofun, nofun, nofun, nofun, nofun⟩
  | drainSkipped pc skip =>
    cases hc'
    have hst : 2 ≤ c.pc.stage := by rw [pc]; exact Nat.le_refl 2
    refine ⟨fun _ => hkept.requestsClosed (by omega), fun _ => hkept.requests hst,
      fun _ hreq _ hcfg => ?_, nofun, nofun, nofun⟩
    rcases skip with herr | hnone
    · cases herr.symm.trans hreq
    · cases hcfg.symm.trans hnone
  | drainOver ok pc returned =>
    cases hc'
    have hst : 2 ≤ c.pc.stage := by rw [pc]; exact Nat.le_refl 2
    refine ⟨fun _ => hkept.requestsClosed (by omega), fun _ => hkept.requests hst,
      fun _ _ hok _ => ?_, nofun, nofun, nofun⟩
    cases ok with
    | true => exact List.mem_append_left _ (hinv.drain true returned)
    | false => cases hok
  | drainLate pc =>
    cases hc'
    have hst : 2 ≤ c.pc.stage := by rw [pc]; exact Nat.le_refl 2
    exact ⟨fun _ => hkept.requestsClosed (by omega), fun _ => hkept.requests hst, nofun, nofun,
      nofun, nofun⟩
  | deliveriesClosed pc =>
    cases hc'
    have hst : 3 ≤ c.pc.stage := by rw [pc]; exact Nat.le_refl 3
    exact ⟨fun _ => hkept.requestsClosed (by omega), fun _ => hkept.requests (by omega),
      fun _ => hkept.drain hst, fun _ => rfl, nofun, nofun⟩
  | deliveriesCounted pc free =>
    cases hc'
    have hst : 4 ≤ c.pc.stage := by rw [pc]; exact Nat.le_refl 4
    have hclosed := hkept.deliveriesClosed hst
    by_cases hemp : s.deliveries.active = 0
    · simp only [if_pos hemp] at hkept hclosed ⊢
      refine ⟨fun _ => hkept.requestsClosed (by omega), fun _ => hkept.requests (by omega),
        fun _ => hkept.drain (by omega), fun _ => hclosed, fun _ _ => ?_, nofun⟩
      have hwatch : s.deliveries.watch = s.deliveries := if_pos hemp
      rw [Server.setCleanup, hwatch] at hclosed ⊢
      exact ⟨hclosed, free, hemp⟩
    · simp only [if_neg hemp] at hkept ⊢
      exact hkept.within (by rw [pc]; rfl) rfl rfl rfl nofun
  | deliveriesDrained pc drained =>
    cases hc'
    have hst : 4 ≤ c.pc.stage := by rw [pc]; exact Nat.le_refl 4
    exact ⟨fun _ => hkept.requestsClosed (by omega), fun _ => hkept.requests (by omega),
      fun _ => hkept.drain (by omega), fun _ => hkept.deliveriesClosed hst,
      fun _ _ => hinv.deliveries.quiet_of_drained drained, nofun⟩
  | deliveriesLate pc =>
    cases hc'
    have hst : 4 ≤ c.pc.stage := by rw [pc]; exact Nat.le_refl 4
    exact ⟨fun _ => hkept.requestsClosed (by omega), fun _ => hkept.requests (by omega),
      fun _ => hkept.drain (by omega), fun _ => hkept.deliveriesClosed hst, nofun, nofun⟩
  | leaseLoaded pc =>
    cases hc'
    refine hkept.within ?_ rfl rfl rfl ?_
    · rw [pc]
      dsimp only
      split <;> rfl
    · dsimp only
      split <;> exact nofun
  | leaseCancelled job pc found | renewalFound job l pc lease found
  | unregisterCalled job l pc =>
    cases hc'
    have hreleases := hkept.releasing
    rw [pc] at hreleases
    exact hkept.within (by rw [pc]; rfl) rfl rfl rfl hreleases
  | neverStarted job l pc | renewalOver job l pc =>
    cases hc'
    have hreleases := hkept.releasing
    rw [pc] at hreleases
    refine hkept.within ?_ rfl rfl rfl ?_
    · rw [pc]
      dsimp only
      split
      · rfl
      · exact job.next_stage
    · dsimp only
      split
      · exact fun _ => hreleases ‹job.releases = true›
      · rw [job.next_releases]
        exact nofun
  | leaseMissing job pc missing | renewalLate job pc expired
  | alreadyReleased job l pc | unregistered job pc | unregisterFailed job pc =>
    cases hc'
    exact hkept.within (by rw [pc]; exact job.next_stage) rfl rfl rfl
      (by rw [show job.next.releases = false from job.next_releases]; exact nofun)
  | identityCleared pc =>
    cases hc'
    refine hkept.within ?_ rfl rfl rfl ?_
    · rw [pc]
      dsimp only
      split <;> rfl
    · dsimp only
      split
      · exact fun _ => ‹c.drained = true ∧ _›.1
      · exact nofun
  | lateChosen ctx pc =>
    cases hc'
    refine hkept.within (by rw [pc]; rfl) rfl rfl rfl fun hreleases => ?_
    by_cases hdrn : c.drained = true
    · exact hdrn
    · rw [if_neg hdrn] at hreleases
      cases hreleases
  | finished => cases hc'
  | _ =>
    cases hc'
    exact hkept.within (by rw [‹c.pc = _›]; rfl) rfl rfl rfl nofun

end CleanupInv

/-! ## Every run -/

-- `Drain` returns to the world outside, and nobody else says that it did.
theorem NodeStep.drain_returned {ok : Bool} (h : NodeStep cfg s e s')
    (hdrain : s'.drain = .returned ok) : s.drain = .returned ok ∨ e = .drainReturned ok := by
  cases h with
  | outside h | start h | task h => exact h.beside.drain ok hdrain
  | cleanupBegun => exact .inl hdrain
  | cleanup at_ h =>
    cases h with
    | drainCalled => cases hdrain
    | _ => exact .inl hdrain

theorem Admission.Quiet.not_mem {p q : Task K V → Bool} {l : List (Task K V)}
    (h : a.Quiet) (hcnts : a.Counts (l.countP p) (l.countP q)) {t : Task K V} (ht : t ∈ l) :
    p t = false ∧ q t = false := by
  have hp := List.countP_eq_zero.mp (hcnts.not_admitting h) t ht
  have hq := List.countP_eq_zero.mp (hcnts.not_entered h) t ht
  exact ⟨by simpa using hp, by simpa using hq⟩

namespace ShutdownInv

theorem init : ShutdownInv cfg [] (newServer K V ρ) where
  requests := .new
  deliveries := .new
  drain ok h := by cases h
  cleanup c h := by cases h

theorem step (h : ShutdownInv cfg es s) (hstep : NodeStep cfg s e s') : ShutdownInv cfg (es ++ [e]) s' := by
  obtain ⟨hreq, hdel⟩ := hstep.moves h
  refine ⟨hreq.counts h.requests, hdel.counts h.deliveries, fun ok hok => ?_, fun c hc => ?_⟩
  · rcases hstep.drain_returned hok with hold | rfl
    · exact List.mem_append_left _ (h.drain ok hold)
    · exact List.mem_append_right _ List.mem_cons_self
  · cases hstep with
    | outside hstep | start hstep | task hstep =>
      exact (h.cleanup c (hstep.beside.cleanup c hc)).frame h hreq hdel
    | cleanupBegun =>
      cases hc
      exact ⟨nofun, nofun, nofun, nofun, nofun, nofun⟩
    | cleanup at_ hstep => exact CleanupInv.step hstep h (h.cleanup _ at_) hc

theorem of_run (h : Run (NodeStep cfg) (newServer K V ρ) es s) : ShutdownInv cfg es s :=
  h.history init fun _ _ _ _ hinv hstep => hinv.step hstep

/-- With both admissions quiet nothing is let in, and they stay quiet. -/
theorem not_admits (h : ShutdownInv cfg es s) (hstep : NodeStep cfg s e s')
    (hreqs : s.requests.Quiet) (hdels : s.deliveries.Quiet) : e.admits = false := by
  have hreq (t : Task K V) (ht : t ∈ s.tasks) := hreqs.not_mem h.requests ht
  have hdel (t : Task K V) (ht : t ∈ s.tasks) := hdels.not_mem h.deliveries ht
  cases hstep with
  | outside hstep => cases hstep <;> rfl
  | start hstep =>
    cases hstep with
    | failing at_ step | stopping at_ step => exact step.called.silent
    | _ => rfl
  | task hstep =>
    cases hstep with
    | requestAdmitted disconnect tasks moves => cases (hreq _ moves.mem).1
    | handlerCalled tasks moves => cases (hreq _ moves.mem).2
    | deliveryAdmitted write tasks moves => cases (hdel _ moves.mem).1
    | deliveryCalled write tasks valid moves => cases (hdel _ moves.mem).2
    | failing step | stop step => exact step.called.silent
    | _ => rfl
  | cleanupBegun => rfl
  | cleanup at_ hstep =>
    cases hstep with
    | leaseCancelled => split <;> rfl
    | _ => rfl

theorem quiet_of_run {es' : List (NodeEvent K V ρ)} (h : ShutdownInv cfg es s)
    (hrun : Run (NodeStep cfg) s es' s') (hreqs : s.requests.Quiet)
    (hdels : s.deliveries.Quiet) : ∀ e ∈ es', e.admits = false := by
  induction hrun generalizing es with
  | nil => exact nofun
  | cons first _ ih =>
    obtain ⟨hreq, hdel⟩ := first.moves h
    have hrest := ih (h.step first) (hreq.stays_quiet h.requests hreqs)
      (hdel.stays_quiet h.deliveries hdels)
    intro e he
    rcases List.mem_cons.mp he with rfl | he
    · exact h.not_admits first hreqs hdels
    · exact hrest e he

end ShutdownInv

/-- Only a cleanup calls `UnregisterNodeEpoch`, to release the lease. -/
theorem unregister_of_step {ctx : Ctx K V} (h : NodeStep cfg s e s') (he : e = .unregisterCalled ctx) :
    ∃ c job, s.cleanup = .running c ∧ c.pc = .unregister job ∧ ctx = c.leaseCtx job := by
  cases h with
  | outside h | start h | task h => exact absurd he (h.beside.held ctx)
  | cleanupBegun => cases he
  | @cleanup _ c _ at_ h =>
    cases h with
    | leaseCancelled => split at he <;> cases he
    | unregisterCalled job l pc =>
      cases he
      exact ⟨c, job, at_, pc, rfl⟩
    | _ => cases he

/-- The node calls `UnregisterNodeEpoch` only when both admissions are closed and empty and `Drain`,
if there is one, has returned without an error; nothing is in flight at that moment, and from the call
on no request, no handler, no delivery and no binding write is let in. -/
theorem epoch_given_up_last {ctx : Ctx K V} {t t' : Server K V ρ} {es' : List (NodeEvent K V ρ)}
    (hbefore : Run (NodeStep cfg) (newServer K V ρ) es t)
    (hcall : NodeStep cfg t (.unregisterCalled ctx) t') (hafter : Run (NodeStep cfg) t' es' s) :
    t.requests.Quiet ∧ t.deliveries.Quiet ∧
      (∀ task ∈ t.tasks, task.requestEntered = false ∧ task.deliveryEntered = false) ∧
      (cfg.drain = true → .drainReturned true ∈ es) ∧ ∀ e ∈ es', e.admits = false := by
  have hinv := ShutdownInv.of_run hbefore
  obtain ⟨c, job, hc, hpc, -⟩ := unregister_of_step hcall rfl
  have hcinv := hinv.cleanup c hc
  have hdrn : c.drained = true := hcinv.releasing (by rw [hpc]; rfl)
  obtain ⟨⟨hreq, hdrain⟩, hdel⟩ :
      (c.requestErr = false ∧ c.drainErr = false) ∧ c.deliveryErr = false := by
    simpa [Cleanup.drained] using hdrn
  have hst : c.pc.stage = 5 := by
    rw [hpc]
    rfl
  have hreqs := hcinv.requests (by omega) hreq
  have hdels := hcinv.deliveries (by omega) hdel
  refine ⟨hreqs, hdels, fun task htask => ?_, hcinv.drain (by omega) hreq hdrain, ?_⟩
  · exact ⟨(hreqs.not_mem hinv.requests htask).2, (hdels.not_mem hinv.deliveries htask).2⟩
  · obtain ⟨hrequestMove, hdeliveryMove⟩ := hcall.moves hinv
    exact (hinv.step hcall).quiet_of_run hafter (hrequestMove.stays_quiet hinv.requests hreqs)
      (hdeliveryMove.stays_quiet hinv.deliveries hdels)

-- The sample node is stopped by a caller without an identity.
theorem epoch_given_up_last_sample : ∃ (es es' : List (NodeEvent Unit String Unit))
    (t t' s : Server Unit String Unit) (ctx : Ctx Unit String),
    Run (NodeStep sampleConfig) (newServer Unit String Unit) es t ∧
    NodeStep sampleConfig t (.unregisterCalled ctx) t' ∧ Run (NodeStep sampleConfig) t' es' s ∧
    t.requests.Quiet ∧ t.deliveries.Quiet ∧ .drainReturned true ∈ es ∧
    ∀ e ∈ es', e.admits = false := by
  obtain ⟨es, t, t', es', s, hbef, hcall, hafter, -⟩ := sample_run .background
  obtain ⟨hreqs, hdels, -, hdrain, hadmits⟩ := epoch_given_up_last hbef hcall hafter
  exact ⟨es, es', t, t', s, _, hbef, hcall, hafter, hreqs, hdels, hdrain rfl, hadmits⟩

end Yola.Node
