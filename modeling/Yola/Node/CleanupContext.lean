import Yola.Node.LifecycleSteps

/-!
# The context of a cleanup

Whoever triggers the cleanup lends it the values of a context.  Neither the cancellation nor the
deadline of that context reaches what the cleanup calls: the budget is the cleanup's own.
-/

namespace Yola.Node

open Go Reasoning

section Observe

variable {K V ρ : Type}

namespace NodeEvent

def handed : NodeEvent K V ρ → Option (Ctx K V)
  | deregisterCalled ctx _ | drainCalled ctx | releaseCalled ctx | unregisterCalled ctx => some ctx
  | _ => none

def trigger : NodeEvent K V ρ → Option (Ctx K V × Nat)
  | cleanupStarted base timeout => some (base, timeout)
  | _ => none

end NodeEvent

/-- The context ends by the server's own cancel functions or at its own deadline, which is that of the
cleanup or a quarter of its timeout away. -/
def OwnBudget (es : List (NodeEvent K V ρ)) (timeout : Nat) (c : Ctx K V) : Prop :=
  ∃ began deadline, .budgetOpened began ∈ es ∧ c.deadline? = some deadline ∧
    (deadline = began + timeout ∨ ∃ t, deadline = min (t + timeout / 4) (began + timeout)) ∧
    ∀ cancelled now, c.done cancelled now = true →
      deadline ≤ now ∨ ∃ id, cancelled id = true ∧ ∀ n, id ≠ .caller n

variable [DecidableEq K]

/-- The context carries the values `Start` was given if it had got in when the cleanup was triggered,
else those of the caller that triggered it; and it has the budget of the cleanup. -/
def KeepsIdentity (es : List (NodeEvent K V ρ)) (c : Ctx K V) : Prop :=
  ∀ before base timeout after, es = before ++ .cleanupStarted base timeout :: after →
    (∀ ctx, .startEntered ctx ∈ before → c.SameValues ctx) ∧
    ((∀ ctx, .startEntered ctx ∉ before) → c.SameValues base) ∧ OwnBudget es timeout c

def TriggerCarries (es : List (NodeEvent K V ρ)) : Prop :=
  ∀ before base timeout after, es = before ++ .cleanupStarted base timeout :: after →
    ∀ ctx, .startEntered ctx ∈ before → base.SameValues ctx

/-- A context the cleanup may hand over. -/
def Handed (es : List (NodeEvent K V ρ)) (base : Ctx K V) (timeout : Nat) (c : Ctx K V) : Prop :=
  c.SameValues base ∧ OwnBudget es timeout c

end Observe

/-! ## The contexts of the cleanup -/

def LeaseJob.lateCtx {K V : Type} : LeaseJob K V → Option (Ctx K V)
  | lateStop ctx | lateRelease ctx => some ctx
  | _ => none

def CleanupPc.lateCtx {K V : Type} : CleanupPc K V → Option (Ctx K V)
  | readLateRecord ctx | lateDeregister ctx | lateDeregistering ctx _ | chooseLate ctx => some ctx
  | cancelLease job | readDone job | waitDone job | unregister job | unregistering job => job.lateCtx
  | _ => none

theorem LeaseJob.next_lateCtx {K V : Type} (job : LeaseJob K V) : job.next.lateCtx = none := by
  cases job <;> rfl

variable {K V ρ : Type} {cfg : LifecycleConfig} {s s' : Server K V ρ} {e : NodeEvent K V ρ}
  {es : List (NodeEvent K V ρ)} {base : Ctx K V} {c : Cleanup K V ρ} {timeout : Nat}

def Budgeted (es : List (NodeEvent K V ρ)) (base : Ctx K V) (timeout : Nat) (id : CancelId)
    (c : Ctx K V) : Prop :=
  ∃ began, .budgetOpened began ∈ es ∧ c = base.withoutCancel.withDeadline id (began + timeout)

theorem Budgeted.append {c : Ctx K V} {id : CancelId}
    (h : Budgeted es base timeout id c) (e : NodeEvent K V ρ) : Budgeted (es ++ [e]) base timeout id c := by
  obtain ⟨began, hbegan, hc⟩ := h
  exact ⟨began, List.mem_append_left _ hbegan, hc⟩

section Values

variable [DecidableEq K] {base c : Ctx K V} {timeout : Nat} {id id' : CancelId}

theorem Handed.append (h : Handed es base timeout c) (e : NodeEvent K V ρ) :
    Handed (es ++ [e]) base timeout c := by
  obtain ⟨hvals, began, deadline, hbegan, hrest⟩ := h
  exact ⟨hvals, began, deadline, List.mem_append_left _ hbegan, hrest⟩

theorem Budgeted.handed (h : Budgeted es base timeout id c) (hid : ∀ n, id ≠ .caller n) :
    Handed es base timeout c := by
  obtain ⟨began, hbegan, rfl⟩ := h
  obtain ⟨hdl, hdone⟩ := Context.detached_withDeadline base id (began + timeout)
  refine ⟨fun _ => rfl, began, began + timeout, hbegan, hdl, .inl rfl, fun cancelled now h => ?_⟩
  rw [hdone, Bool.or_eq_true, decide_eq_true_eq] at h
  rcases h with hcanc | hdue
  · exact .inr ⟨id, hcanc, hid⟩
  · exact .inl hdue

-- `Deregister` gets a quarter of the timeout, within what is left.
theorem Budgeted.handed_quarter (h : Budgeted es base timeout id c) (hid : ∀ n, id ≠ .caller n)
    (hid' : ∀ n, id' ≠ .caller n) (t : Nat) :
    Handed es base timeout (c.withDeadline id' (t + timeout / 4)) := by
  obtain ⟨began, hbegan, rfl⟩ := h
  refine ⟨fun _ => rfl, began, min (t + timeout / 4) (began + timeout), hbegan, rfl, .inr ⟨t, rfl⟩,
    fun cancelled now h => ?_⟩
  rw [Context.done, (Context.detached_withDeadline base id (began + timeout)).2] at h
  simp only [Bool.or_eq_true, decide_eq_true_eq] at h
  rcases h with (hcanc | hdue) | hcanc | hdue
  · exact .inr ⟨id', hcanc, hid'⟩
  · exact .inl (Nat.le_trans (Nat.min_le_left _ _) hdue)
  · exact .inr ⟨id, hcanc, hid⟩
  · exact .inl (Nat.le_trans (Nat.min_le_right _ _) hdue)

end Values

structure Cleanup.Lent (es : List (NodeEvent K V ρ)) (base : Ctx K V) (timeout : Nat)
    (c : Cleanup K V ρ) : Prop where
  detached : c.base = base.withoutCancel
  timeout_eq : c.timeout = timeout
  ctx : Budgeted es base timeout .cleanup c.ctx
  late : ∀ ctx, c.pc.lateCtx = some ctx → Budgeted es base timeout .late ctx

theorem Cleanup.Lent.leaseCtx [DecidableEq K]
    {job : LeaseJob K V} (h : c.Lent es base timeout) (hpc : c.pc.lateCtx = job.lateCtx) :
    Handed es base timeout (c.leaseCtx job) := by
  cases job with
  | stop | release => exact h.ctx.handed nofun
  | lateStop ctx | lateRelease ctx => exact (h.late ctx hpc).handed nofun

/-! ## What a step hands over -/

theorem Server.cleanupBase_eq (s : Server K V ρ) (base : Ctx K V) : s.cleanupBase base = base := by
  unfold cleanupBase
  split <;> rfl

def Outer (s : Server K V ρ) (e : NodeEvent K V ρ) (s' : Server K V ρ) : Prop :=
  e.handed = none ∧ ((e.trigger = none ∧ s'.cleanup = s.cleanup) ∨
    ∃ base timeout, e.trigger = some (base, timeout) ∧ s.cleanup = .idle ∧ s'.cleanup = .spawned base timeout)

theorem TriggerStep.outer {pc pc' : TriggerPc} (h : TriggerStep base timeout s pc e s' pc') : Outer s e s' := by
  cases h with
  | first free idle =>
    refine ⟨rfl, .inr ⟨base, timeout, rfl, idle, ?_⟩⟩
    rw [s.cleanupBase_eq]
  | _ => exact ⟨rfl, .inl ⟨rfl, rfl⟩⟩

theorem FailStep.outer {pc pc' : FailPc} (h : FailStep cfg s pc e s' pc') : Outer s e s' := by
  cases h with
  | trigger step => exact step.outer
  | _ => exact ⟨rfl, .inl ⟨rfl, rfl⟩⟩

theorem StartStep.outer (h : StartStep cfg s e s') : Outer s e s' := by
  cases h with
  | failing at_ step | stopping at_ step => exact step.outer
  | _ => exact ⟨rfl, .inl ⟨rfl, rfl⟩⟩

theorem TaskStep.outer (h : TaskStep cfg s e s') : Outer s e s' := by
  cases h with
  | failing step | stop step => exact step.outer
  | deliveryCalled write => cases write <;> exact ⟨rfl, .inl ⟨rfl, rfl⟩⟩
  | _ => exact ⟨rfl, .inl ⟨rfl, rfl⟩⟩

theorem OutsideStep.outer (h : OutsideStep s e s') : Outer s e s' := by
  cases h <;> exact ⟨rfl, .inl ⟨rfl, rfl⟩⟩

variable [DecidableEq K]

theorem CleanupStep.lends (h : CleanupStep cfg s c e s') (hc : c.Lent es base timeout) :
    e.trigger = none ∧ (∀ ctx, e.handed = some ctx → Handed es base timeout ctx) ∧ (s'.cleanup = .finished ∨
        ∃ c', s'.cleanup = .running c' ∧ c'.Lent (es ++ [e]) base timeout) := by
  have hctx := hc.ctx.append e
  have hlate (ctx : Ctx K V) (hctx : c.pc.lateCtx = some ctx) := (hc.late ctx hctx).append e
  cases h with
  | finished => exact ⟨rfl, nofun, .inl rfl⟩
  | deregisterCalled =>
    refine ⟨rfl, ?_, .inr ⟨_, rfl, hc.detached, hc.timeout_eq, hctx, nofun⟩⟩
    rintro ctx ⟨⟩
    rw [hc.timeout_eq]
    apply hc.ctx.handed_quarter <;> exact nofun
  | drainCalled =>
    refine ⟨rfl, ?_, .inr ⟨_, rfl, hc.detached, hc.timeout_eq, hctx, nofun⟩⟩
    rintro ctx ⟨⟩
    exact hc.ctx.handed nofun
  | leaseCancelled job pc =>
    rw [pc] at hlate
    refine ⟨?_, fun ctx hhanded => ?_, .inr ⟨_, rfl, hc.detached, hc.timeout_eq, hctx, hlate⟩⟩
    · split <;> rfl
    · split at hhanded
      · cases hhanded
        exact hc.leaseCtx (by rw [pc]; rfl)
      · cases hhanded
  | unregisterCalled job l pc =>
    rw [pc] at hlate
    refine ⟨rfl, ?_, .inr ⟨_, rfl, hc.detached, hc.timeout_eq, hctx, hlate⟩⟩
    rintro ctx ⟨⟩
    exact hc.leaseCtx (by rw [pc]; rfl)
  | startupCaughtUp =>
    refine ⟨rfl, nofun, .inr ⟨_, rfl, hc.detached, hc.timeout_eq, hctx, ?_⟩⟩
    rintro ctx ⟨⟩
    rw [hc.detached, hc.timeout_eq]
    exact ⟨s.now, List.mem_append_right _ List.mem_cons_self, rfl⟩
  | lateDeregisterCalled ctx record pc =>
    rw [pc] at hlate
    refine ⟨rfl, ?_, .inr ⟨_, rfl, hc.detached, hc.timeout_eq, hctx, hlate⟩⟩
    rintro ctx' ⟨⟩
    rw [hc.timeout_eq]
    apply (hc.late ctx (by rw [pc]; rfl)).handed_quarter <;> exact nofun
  | lateRecordRead ctx pc | noLateRecord ctx pc | lateDeregistered ctx dctx pc =>
    rw [pc] at hlate
    exact ⟨rfl, nofun, .inr ⟨_, rfl, hc.detached, hc.timeout_eq, hctx, hlate⟩⟩
  | lateChosen ctx pc =>
    rw [pc] at hlate
    refine ⟨rfl, nofun, .inr ⟨_, rfl, hc.detached, hc.timeout_eq, hctx, fun ctx' hctx' => ?_⟩⟩
    apply hlate
    rw [← hctx']
    cases hd : c.drained <;> rfl
  | renewalFound job l pc =>
    rw [pc] at hlate
    exact ⟨rfl, nofun, .inr ⟨_, rfl, hc.detached, hc.timeout_eq, hctx, hlate⟩⟩
  | neverStarted job l pc | renewalOver job l pc =>
    rw [pc] at hlate
    refine ⟨rfl, nofun, .inr ⟨_, rfl, hc.detached, hc.timeout_eq, hctx, fun ctx hctx => ?_⟩⟩
    dsimp only at hctx
    split at hctx
    · exact hlate ctx hctx
    · rw [job.next_lateCtx] at hctx
      cases hctx
  | leaseMissing job pc missing | renewalLate job pc expired
  | alreadyReleased job | unregistered job | unregisterFailed job =>
    refine ⟨rfl, nofun, .inr ⟨_, rfl, hc.detached, hc.timeout_eq, hctx, fun ctx hctx => ?_⟩⟩
    dsimp only at hctx
    rw [job.next_lateCtx] at hctx
    cases hctx
  | requestsCounted | deliveriesCounted | leaseLoaded | identityCleared =>
    refine ⟨rfl, nofun, .inr ⟨_, rfl, hc.detached, hc.timeout_eq, hctx, fun ctx hctx => ?_⟩⟩
    dsimp only at hctx
    split at hctx <;> cases hctx
  | _ => exact ⟨rfl, nofun, .inr ⟨_, rfl, hc.detached, hc.timeout_eq, hctx, nofun⟩⟩

/-! ## Every run -/

def triggers (es : List (NodeEvent K V ρ)) : List (Ctx K V × Nat) := es.filterMap NodeEvent.trigger

structure ContextInv (es : List (NodeEvent K V ρ)) (s : Server K V ρ) : Prop where
  idle : s.cleanup = .idle → triggers es = []
  spawned : ∀ base timeout, s.cleanup = .spawned base timeout → triggers es = [(base, timeout)]
  running : ∀ c, s.cleanup = .running c → ∃ base timeout, triggers es = [(base, timeout)] ∧
    c.Lent es base timeout
  finished : s.cleanup = .finished → ∃ base timeout, triggers es = [(base, timeout)]
  handed : ∀ e ∈ es, ∀ c, e.handed = some c → ∃ base timeout, triggers es = [(base, timeout)] ∧
    Handed es base timeout c

namespace ContextInv

omit [DecidableEq K] in
theorem triggers_append (es : List (NodeEvent K V ρ)) (e : NodeEvent K V ρ) :
    triggers (es ++ [e]) = triggers es ++ e.trigger.toList := by
  rw [triggers, List.filterMap_append]
  cases h : e.trigger <;> simp [triggers, h]

theorem init : ContextInv [] (newServer K V ρ) where
  idle _ := rfl
  spawned base timeout h := by cases h
  running c h := by cases h
  finished h := by cases h
  handed e he := by cases he

theorem outer (h : ContextInv es s) (hstep : Outer s e s') : ContextInv (es ++ [e]) s' := by
  obtain ⟨hhanded, ⟨htrigger, hcleanup⟩ | ⟨base, timeout, htrigger, hidle, hcleanup⟩⟩ := hstep
  · have hsame : triggers (es ++ [e]) = triggers es := by
      rw [triggers_append, htrigger]
      exact List.append_nil _
    refine ⟨fun hi => ?_, fun base timeout hs => ?_, fun c hc => ?_, fun hf => ?_, fun e' he' c hc => ?_⟩
    · rw [hsame]
      exact h.idle (hcleanup.symm.trans hi)
    · rw [hsame]
      exact h.spawned base timeout (hcleanup.symm.trans hs)
    · obtain ⟨base, timeout, htrig, hlent⟩ := h.running c (hcleanup.symm.trans hc)
      exact ⟨base, timeout, hsame.trans htrig, hlent.detached, hlent.timeout_eq,
        hlent.ctx.append e, fun ctx hctx => (hlent.late ctx hctx).append e⟩
    · rw [hsame]
      exact h.finished (hcleanup.symm.trans hf)
    · rcases List.mem_append.mp he' with hold | hnew
      · obtain ⟨base, timeout, htrig, hgiven⟩ := h.handed e' hold c hc
        exact ⟨base, timeout, hsame.trans htrig, hgiven.append e⟩
      · rw [List.mem_singleton.mp hnew, hhanded] at hc
        cases hc
  · -- nothing has been handed over before the trigger
    have hempty := h.idle hidle
    have hnew : triggers (es ++ [e]) = [(base, timeout)] := by
      rw [triggers_append, hempty, htrigger]
      rfl
    refine ⟨fun hi => ?_, fun base' timeout' hs => ?_, fun c hc => ?_, fun hf => ?_, fun e' he' c hc => ?_⟩
    · cases hcleanup.symm.trans hi
    · cases hcleanup.symm.trans hs
      exact hnew
    · cases hcleanup.symm.trans hc
    · cases hcleanup.symm.trans hf
    · rcases List.mem_append.mp he' with hold | hlast
      · obtain ⟨base', timeout', htrig, -⟩ := h.handed e' hold c hc
        cases hempty.symm.trans htrig
      · rw [List.mem_singleton.mp hlast, hhanded] at hc
        cases hc

theorem begun {base : Ctx K V} {timeout : Nat} (h : ContextInv es s)
    (hspawn : s.cleanup = .spawned base timeout) :
    ContextInv (es ++ [.budgetOpened s.now]) { s with cleanup := .running (s.newCleanup base timeout) } := by
  have htrig := h.spawned base timeout hspawn
  have hsame : triggers (es ++ [NodeEvent.budgetOpened s.now]) = [(base, timeout)] := by
    rw [triggers_append, htrig]
    rfl
  refine ⟨nofun, nofun, fun c hc => ?_, nofun, fun e' he' c hc => ?_⟩
  · cases hc
    refine ⟨base, timeout, hsame, rfl, rfl, ⟨s.now, ?_, rfl⟩, nofun⟩
    exact List.mem_append_right _ List.mem_cons_self
  · rcases List.mem_append.mp he' with hold | hlast
    · obtain ⟨base', timeout', htrig', hgiven⟩ := h.handed e' hold c hc
      cases htrig.symm.trans htrig'
      exact ⟨base, timeout, hsame, hgiven.append _⟩
    · rw [List.mem_singleton.mp hlast] at hc
      cases hc

theorem cleanup {c : Cleanup K V ρ} (h : ContextInv es s) (hruns : s.cleanup = .running c)
    (hstep : CleanupStep cfg s c e s') : ContextInv (es ++ [e]) s' := by
  obtain ⟨base, timeout, htrig, hlent⟩ := h.running c hruns
  obtain ⟨htrigger, hhanded, hnext⟩ := hstep.lends hlent
  have hsame : triggers (es ++ [e]) = [(base, timeout)] := by
    rw [triggers_append, htrigger, htrig]
    rfl
  have hgiven (e' : NodeEvent K V ρ) (he' : e' ∈ es ++ [e]) (ctx : Ctx K V)
      (hctx : e'.handed = some ctx) : ∃ base timeout, triggers (es ++ [e]) = [(base, timeout)] ∧
        Handed (es ++ [e]) base timeout ctx := by
    refine ⟨base, timeout, hsame, ?_⟩
    rcases List.mem_append.mp he' with hold | hlast
    · obtain ⟨base', timeout', htrig', hold⟩ := h.handed e' hold ctx hctx
      cases htrig.symm.trans htrig'
      exact hold.append e
    · rw [List.mem_singleton.mp hlast] at hctx
      exact (hhanded ctx hctx).append e
  rcases hnext with hfin | ⟨c', hc', hlent'⟩
  · refine ⟨fun hi => ?_, fun base timeout hs => ?_, fun c hc => ?_, fun _ => ⟨base, timeout, hsame⟩,
      hgiven⟩
    · cases hfin.symm.trans hi
    · cases hfin.symm.trans hs
    · cases hfin.symm.trans hc
  · refine ⟨fun hi => ?_, fun base timeout hs => ?_, fun c hc => ?_, fun hf => ?_, hgiven⟩
    · cases hc'.symm.trans hi
    · cases hc'.symm.trans hs
    · cases hc'.symm.trans hc
      exact ⟨base, timeout, hsame, hlent'⟩
    · cases hc'.symm.trans hf

theorem step (h : ContextInv es s) (hstep : NodeStep cfg s e s') : ContextInv (es ++ [e]) s' := by
  cases hstep with
  | outside hstep | start hstep | task hstep => exact h.outer hstep.outer
  | cleanupBegun base timeout at_ => exact h.begun at_
  | cleanup at_ hstep => exact h.cleanup at_ hstep

theorem of_run (h : Run (NodeStep cfg) (newServer K V ρ) es s) : ContextInv es s :=
  h.history init fun _ _ _ _ hinv hstep => hinv.step hstep

end ContextInv

omit [DecidableEq K] in
theorem triggers_of_split {before after : List (NodeEvent K V ρ)}
    {t : Ctx K V × Nat} (h : triggers (before ++ .cleanupStarted base timeout :: after) = [t]) :
    t = (base, timeout) := by
  have hmem : (base, timeout) ∈ [t] := by
    rw [← h]
    exact List.mem_filterMap.mpr
      ⟨.cleanupStarted base timeout, List.mem_append_right _ List.mem_cons_self, rfl⟩
  exact (List.mem_singleton.mp hmem).symm

/-- Whatever a cleanup hands over keeps the identity of `Start` exactly if the caller that triggered
the cleanup carried it. -/
theorem cleanup_keeps_identity_iff {c : Ctx K V}
    (hrun : Run (NodeStep cfg) (newServer K V ρ) es s) (he : e ∈ es) (hc : e.handed = some c) :
    KeepsIdentity es c ↔ TriggerCarries es := by
  obtain ⟨base, timeout, htrig, hvals, hbudget⟩ := (ContextInv.of_run hrun).handed e he c hc
  constructor
  · intro hkeeps before base' timeout' after heq ctx hent
    cases triggers_of_split (heq ▸ htrig)
    exact hvals.symm.trans ((hkeeps before base timeout after heq).1 ctx hent)
  · intro hcarr before base' timeout' after heq
    cases triggers_of_split (heq ▸ htrig)
    refine ⟨fun ctx hent => ?_, fun _ => hvals, hbudget⟩
    exact hvals.trans (hcarr before base timeout after heq ctx hent)

-- `Stop` with an empty context takes the identity away from `Drain`.
theorem drain_loses_identity : ∃ (es : List (NodeEvent Unit String Unit))
    (s : Server Unit String Unit) (c : Ctx Unit String),
    Run (NodeStep sampleConfig) (newServer Unit String Unit) es s ∧ .drainCalled c ∈ es ∧
    ¬ KeepsIdentity es c := by
  obtain ⟨es, t, -, -, -, hrun, -, -, -, before, after, hsplit, hent, -, hdrain⟩ :=
    sample_run .background
  refine ⟨es, t, sampleCleanupCtx .background, hrun, hdrain, fun hkeeps => ?_⟩
  have hvals := (hkeeps before _ _ after hsplit).1 sampleCtx hent ()
  cases hvals

-- A caller of `Stop` that has the identity passes it on.
theorem cleanup_keeps_identity_iff_sample : ∃ (es : List (NodeEvent Unit String Unit))
    (s : Server Unit String Unit) (c : Ctx Unit String),
    Run (NodeStep sampleConfig) (newServer Unit String Unit) es s ∧ .drainCalled c ∈ es ∧
    (KeepsIdentity es c ↔ TriggerCarries es) := by
  obtain ⟨es, t, -, -, -, hrun, -, -, -, -, -, -, -, -, hdrain⟩ := sample_run sampleCtx
  exact ⟨es, t, _, hrun, hdrain, cleanup_keeps_identity_iff hrun hdrain rfl⟩

end Yola.Node
