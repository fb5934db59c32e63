import Yola.Node.Shutdown

/-!
# What a startup hands over

`Start` claims a lease, publishes an identity and registers, and writes each of them where the cleanup
looks for it.  Everything it has obtained is in one place: with `Start` itself until it is written, and
in the server from then on.
-/

namespace Yola.Node

open Go Reasoning

section Places

variable {K V ρ : Type}

namespace StartPc

def startupDone : StartPc ρ → Option Bool
  | idle => none
  | serving _ | failing _ | stopping _ _ | returned => some true
  | _ => some false

/-- A registration that is not handed over yet. -/
def pending : StartPc ρ → Option ρ
  | registered record => some record
  | _ => none

def unrecorded : StartPc ρ → Bool
  | openRequests | succeeded | failed | serving _ | failing _ | stopping _ _ | returned => false
  | _ => true

def claimedLease : StartPc ρ → Option EpochLease
  | claimed lease _ => lease
  | _ => none

def unclaimed : StartPc ρ → Bool
  | idle | checkApp | prepare | claim | claimed _ _ => true
  | _ => false

def stops : StartPc ρ → Bool
  | failing pc | stopping _ pc => pc ≠ .beginStopping
  | _ => false

end StartPc

def Task.stops : Task K V → Bool
  | stop _ pc | failing pc _ => pc ≠ .beginStopping
  | _ => false

namespace NodeEvent

def registration : NodeEvent K V ρ → Option ρ
  | registered record => some record
  | _ => none

def claims : NodeEvent K V ρ → Bool
  | leaseClaimed => true
  | _ => false

end NodeEvent

def registrations (es : List (NodeEvent K V ρ)) : List ρ := es.filterMap NodeEvent.registration

def RenewalStopped (lease : Option NodeLease) : Prop := ∀ l ∈ lease, l.epoch.cause ≠ none

end Places

theorem RenewalStopped.map {lease : Option NodeLease} {f : NodeLease → NodeLease}
    (h : RenewalStopped lease) (hf : ∀ l, l.epoch.cause ≠ none → (f l).epoch.cause ≠ none) :
    RenewalStopped (lease.map f) := by
  intro l hl
  obtain ⟨l, hold, rfl⟩ := Option.mem_map.mp hl
  exact hf l (h l hold)

theorem EpochLease.valid_cause {l : EpochLease} {now : Nat} (h : l.cause ≠ none) :
    (l.valid now).2.cause ≠ none := by
  rcases l.valid_snd now with heq | heq <;> rw [heq]
  · exact h
  · exact l.cancel_cause_ne_none _

variable {K V ρ : Type} {cfg : LifecycleConfig} {s s' : Server K V ρ} {e : NodeEvent K V ρ}
  {es : List (NodeEvent K V ρ)} {base : Ctx K V} {timeout : Nat} {pc pc' : TriggerPc}

/-! ## What the others leave alone -/

structure Aside (s s' : Server K V ρ) : Prop where
  start : s'.start = s.start
  state : s'.state = s.state
  startupDone : s'.startupDone = s.startupDone
  registration : s'.registration = s.registration
  identity : s'.identity = s.identity
  lease : s'.lease.isSome = s.lease.isSome
  stopped : RenewalStopped s.lease → RenewalStopped s'.lease
  drain : s'.drain = .idle ↔ s.drain = .idle

theorem Aside.map {f : NodeLease → NodeLease} (hstart : s'.start = s.start)
    (hstate : s'.state = s.state) (hdone : s'.startupDone = s.startupDone)
    (hreg : s'.registration = s.registration) (hident : s'.identity = s.identity)
    (hdrain : s'.drain = s.drain) (hls : s'.lease = s.lease.map f)
    (hf : ∀ l, l.epoch.cause ≠ none → (f l).epoch.cause ≠ none) : Aside s s' where
  start := hstart
  state := hstate
  startupDone := hdone
  registration := hreg
  identity := hident
  lease := by rw [hls, Option.isSome_map]
  stopped h := by rw [hls]; exact h.map hf
  drain := by rw [hdrain]

theorem Aside.setTasks (h : Aside s s') (tasks : List (Task K V)) : Aside s (s'.setTasks tasks) :=
  ⟨h.start, h.state, h.startupDone, h.registration, h.identity, h.lease, h.stopped, h.drain⟩

theorem TriggerStep.aside (h : TriggerStep base timeout s pc e s' pc') : Aside s s' := by
  cases h <;> exact ⟨rfl, rfl, rfl, rfl, rfl, rfl, id, .rfl⟩

theorem FailStep.aside {pc pc' : FailPc} (h : FailStep cfg s pc e s' pc') : Aside s s' := by
  cases h with
  | trigger step => exact step.aside
  | _ => exact ⟨rfl, rfl, rfl, rfl, rfl, rfl, id, .rfl⟩

theorem OutsideStep.aside (h : OutsideStep s e s') : Aside s s' := by
  cases h with
  | drainReturned ok running =>
    exact ⟨rfl, rfl, rfl, rfl, rfl, rfl, id, nofun, fun hidle => by cases running.symm.trans hidle⟩
  | _ => exact ⟨rfl, rfl, rfl, rfl, rfl, rfl, id, .rfl⟩

theorem TaskStep.aside (h : TaskStep cfg s e s') : Aside s s' := by
  cases h with
  | stop step | failing step => exact step.aside.setTasks _
  | disconnectFenced tasks isOver moves | deliveryFenced write tasks isOver moves
  | requestFenced =>
    exact .map rfl rfl rfl rfl rfl rfl rfl fun _ => EpochLease.valid_cause
  | ownershipLost cause =>
    exact .map rfl rfl rfl rfl rfl rfl rfl fun l _ => l.epoch.cancel_cause_ne_none cause
  | monitorEnded cause =>
    exact .map rfl rfl rfl rfl rfl rfl rfl fun l _ => l.epoch.cancel_cause_ne_none cause
  | monitorLeft => exact .map rfl rfl rfl rfl rfl rfl rfl fun _ => id
  | renewed l deadline at_ lease =>
    refine .map (f := fun l => { l with epoch := { l.epoch with deadline := deadline } })
      rfl rfl rfl rfl rfl rfl ?_ fun _ => id
    rw [lease]
    rfl
  | _ => exact ⟨rfl, rfl, rfl, rfl, rfl, rfl, id, .rfl⟩

theorem TriggerStep.plain (h : TriggerStep base timeout s pc e s' pc') : e.registration = none ∧ e.claims = false := by
  cases h <;> exact ⟨rfl, rfl⟩

theorem FailStep.plain {pc pc' : FailPc} (h : FailStep cfg s pc e s' pc') :
    e.registration = none ∧ e.claims = false := by
  cases h with
  | trigger step => exact step.plain
  | _ => exact ⟨rfl, rfl⟩

theorem TaskStep.plain (h : TaskStep cfg s e s') : e.registration = none ∧ e.claims = false := by
  cases h with
  | stop step | failing step => exact step.plain
  | deliveryCalled write => cases write <;> exact ⟨rfl, rfl⟩
  | _ => exact ⟨rfl, rfl⟩

theorem TriggerStep.closes (h : TriggerStep base timeout s pc e s' pc')
    (hpc : pc ≠ .beginStopping → s.requests.state = .closed) : s'.requests.state = .closed := by
  cases h with
  | beginStopping => rfl
  | first | again => exact hpc nofun

theorem FailStep.closes {pc pc' : FailPc} (h : FailStep cfg s pc e s' pc')
    (hpc : pc ≠ .beginStopping → s.requests.state = .closed) : s'.requests.state = .closed := by
  cases h with
  | beginStopping => rfl
  | trigger step => exact step.closes fun _ => hpc nofun
  | _ => exact hpc nofun

theorem Task.stops_of_moves {t t' u : Task K V} {l tasks : List (Task K V)} (h : Moves t t' l tasks)
    (ht' : t'.stops = false) (hu : u ∈ tasks) (hstops : u.stops = true) : u ∈ l := by
  rcases h.mem_of_mem hu with rfl | hold
  · cases ht'.symm.trans hstops
  · exact hold

theorem TaskStep.closing (h : TaskStep cfg s e s')
    (hold : ∀ t ∈ s.tasks, t.stops = true → s.requests.state = .closed) :
    s'.requests.state = .closed ∨ s'.cleanup = s.cleanup ∧ ∀ t ∈ s'.tasks, t.stops = true → t ∈ s.tasks := by
  have spawned {t u : Task K V} (ht : t.stops = false) (hu : u ∈ t :: s.tasks)
      (hstops : u.stops = true) : u ∈ s.tasks := by
    rcases List.mem_cons.mp hu with rfl | hold
    · cases ht.symm.trans hstops
    · exact hold
  cases h with
  | stop step moves | failing step moves =>
    refine .inl (step.closes fun hpc => hold _ moves.mem ?_)
    simpa [Task.stops] using hpc
  | stopCalled | disconnectCalled | requestLocked | deliveryLocked =>
    exact .inr ⟨rfl, fun _ => spawned rfl⟩
  | renewed | firstRenewal => exact .inr ⟨rfl, fun _ ht _ => ht⟩
  | failed timeout caller tasks moves =>
    refine .inr ⟨rfl, fun _ => Task.stops_of_moves moves ?_⟩
    cases caller <;> rfl
  | requestAdmitted disconnect tasks moves =>
    refine .inr ⟨rfl, fun _ => Task.stops_of_moves moves ?_⟩
    cases disconnect <;> rfl
  | monitorEnded cause tasks isOver moves =>
    refine .inr ⟨rfl, fun _ => Task.stops_of_moves moves ?_⟩
    split <;> rfl
  | _ =>
    rename_i moves
    exact .inr ⟨rfl, fun _ => Task.stops_of_moves moves rfl⟩

/-! ## The handover -/

structure StartInv (es : List (NodeEvent K V ρ)) (s : Server K V ρ) : Prop where
  startupDone : s.startupDone = s.start.startupDone
  fresh : s.state = .fresh → s.start = .idle
  registrations : registrations es = (s.start.pending.or s.registration).toList
  unrecorded : s.start.unrecorded = true → s.registration = none
  claimed : es.countP NodeEvent.claims = 0 ∨ es.countP NodeEvent.claims = 1 ∧
    (s.start.claimedLease ≠ none ∨ s.start.unclaimed = false ∧ s.lease ≠ none)
  cleaning : s.cleanup ≠ .idle → s.requests.state = .closed
  starting : s.start.stops = true → s.requests.state = .closed
  tasks : ∀ t ∈ s.tasks, t.stops = true → s.requests.state = .closed

namespace StartInv

theorem init : StartInv [] (newServer K V ρ) where
  startupDone := rfl
  fresh _ := rfl
  registrations := rfl
  unrecorded _ := rfl
  claimed := .inl rfl
  cleaning h := absurd rfl h
  starting h := by cases h
  tasks t ht := by cases ht

variable (h : StartInv es s) {pc pc' : StartPc ρ}

include h

theorem event (hreg : e.registration = none) (hclm : e.claims = false) : StartInv (es ++ [e]) s where
  startupDone := h.startupDone
  fresh := h.fresh
  registrations := by
    rw [Node.registrations, List.filterMap_append, List.filterMap_cons_none hreg]
    exact (List.append_nil _).trans h.registrations
  unrecorded := h.unrecorded
  claimed := by
    rw [List.countP_append, List.countP_cons_of_neg (by rw [hclm]; exact Bool.false_ne_true)]
    exact h.claimed
  cleaning := h.cleaning
  starting := h.starting
  tasks := h.tasks

-- `Start` has claimed nothing before it is in `claimed`.
theorem unclaimed_at (hpc : s.start = pc)
    (hclm : pc.claimedLease = none) (huncl : pc.unclaimed = true) : es.countP NodeEvent.claims = 0 := by
  refine h.claimed.resolve_right fun ⟨_, hheld⟩ => ?_
  rw [hpc, hclm, huncl] at hheld
  simp at hheld

theorem keep (hstart : s'.start = s.start) (hstate : s'.state = s.state)
    (hdone : s'.startupDone = s.startupDone) (hreg : s'.registration = s.registration)
    (hls : s'.lease.isSome = s.lease.isSome)
    (hreqs : s.requests.state = .closed → s'.requests.state = .closed)
    (hcleanup : s'.cleanup ≠ .idle → s.cleanup ≠ .idle ∨ s'.requests.state = .closed)
    (htasks : ∀ t ∈ s'.tasks, t.stops = true → t ∈ s.tasks ∨ s'.requests.state = .closed) : StartInv es s' where
  startupDone := by rw [hdone, hstart, h.startupDone]
  fresh := by rw [hstate, hstart]; exact h.fresh
  registrations := by rw [hstart, hreg, h.registrations]
  unrecorded := by rw [hstart, hreg]; exact h.unrecorded
  claimed := by
    rw [hstart, ← Option.isSome_iff_ne_none (o := s'.lease), hls, Option.isSome_iff_ne_none]
    exact h.claimed
  cleaning hc := (hcleanup hc).elim (fun hold => hreqs (h.cleaning hold)) id
  starting hs := by
    rw [hstart] at hs
    exact hreqs (h.starting hs)
  tasks t ht hstops := (htasks t ht hstops).elim (fun hold => hreqs (h.tasks t hold hstops)) id

theorem move (cancelled : CancelId → Bool) (done : Option Bool) (hpc : s.start = pc) (hent : pc ≠ .idle)
    (hdone : done = pc'.startupDone) (hpend : pc'.pending = pc.pending)
    (hunrec : (!pc'.unrecorded || pc.unrecorded) = true) (hclm : pc'.claimedLease = pc.claimedLease)
    (huncl : (!pc'.unclaimed || pc.unclaimed) = true)
    (hstops : pc'.stops = true → s.requests.state = .closed) :
    StartInv es { s with cancelled := cancelled, startupDone := done, start := pc' } where
  startupDone := hdone
  fresh hfresh := absurd (hpc.symm.trans (h.fresh hfresh)) hent
  registrations := by
    change _ = (pc'.pending.or s.registration).toList
    rw [hpend, ← hpc, h.registrations]
  unrecorded hu := by
    apply h.unrecorded
    rw [hpc]
    rw [show pc'.unrecorded = true from hu] at hunrec
    exact hunrec
  claimed := by
    change _ ∨ _ ∧ (pc'.claimedLease ≠ none ∨ pc'.unclaimed = false ∧ s.lease ≠ none)
    rw [hclm, ← hpc]
    refine h.claimed.imp id fun ⟨hone, hheld⟩ => ⟨hone, hheld.imp id fun hstored => ⟨?_, hstored.2⟩⟩
    rw [hpc] at hstored
    rw [hstored.1] at huncl
    simpa using huncl
  cleaning := h.cleaning
  starting := hstops
  tasks := h.tasks

theorem goto (hpc : s.start = pc) (hent : pc ≠ .idle)
    (hdone : pc.startupDone = pc'.startupDone) (hpend : pc'.pending = pc.pending)
    (hunrec : (!pc'.unrecorded || pc.unrecorded) = true) (hclm : pc'.claimedLease = pc.claimedLease)
    (huncl : (!pc'.unclaimed || pc.unclaimed) = true)
    (hstops : pc'.stops = true → s.requests.state = .closed) : StartInv es (s.setStart pc') :=
  h.move s.cancelled s.startupDone hpc hent
    (h.startupDone.trans ((congrArg StartPc.startupDone hpc).trans hdone)) hpend hunrec
    hclm huncl hstops

theorem keep_lease (f : NodeLease → NodeLease) : StartInv es { s with lease := s.lease.map f } :=
  h.keep rfl rfl rfl rfl Option.isSome_map id .inl fun _ ht _ => .inl ht

theorem recorded {record : ρ} (hpc : s.start = .registered record)
    (hpc' : s'.start = .failed ∨ s'.start = .openRequests) (hrec : s'.registration = some record)
    (hstate : s'.state = s.state ∨ s'.state = .started) (hdone : s'.startupDone = s.startupDone)
    (hls : s'.lease = s.lease) (hreqs : s'.requests = s.requests)
    (hcleanup : s'.cleanup = s.cleanup) (htasks : s'.tasks = s.tasks) : StartInv es s' where
  startupDone := by
    rw [hdone, h.startupDone, hpc]
    rcases hpc' with hpc' | hpc' <;> rw [hpc'] <;> rfl
  fresh hfresh := by
    rcases hstate with hsame | hstarted
    · cases hpc.symm.trans (h.fresh (hsame.symm.trans hfresh))
    · cases hstarted.symm.trans hfresh
  registrations := by
    rw [h.registrations, hpc, hrec]
    rcases hpc' with hpc' | hpc' <;> rw [hpc'] <;> rfl
  unrecorded hu := by
    rcases hpc' with hpc' | hpc' <;> rw [hpc'] at hu <;> cases hu
  claimed := by
    have hstored := h.claimed
    rw [hpc] at hstored
    rw [hls]
    rcases hpc' with hpc' | hpc' <;> rw [hpc'] <;> exact hstored
  cleaning := by rw [hcleanup, hreqs]; exact h.cleaning
  starting hs := by
    rcases hpc' with hpc' | hpc' <;> rw [hpc'] at hs <;> cases hs
  tasks := by rw [htasks, hreqs]; exact h.tasks

theorem stopping (ha : Aside s s') (hcls : s'.requests.state = .closed) : StartInv es s' :=
  h.keep ha.start ha.state ha.startupDone ha.registration ha.lease (fun _ => hcls)
    (fun _ => .inr hcls) fun _ _ _ => .inr hcls

theorem start (hstep : StartStep cfg s e s') : StartInv (es ++ [e]) s' := by
  cases hstep with
  | entered ctx free alive fresh =>
    have hpc := h.fresh fresh
    refine .event ?_ rfl rfl
    exact {
      startupDone := rfl
      fresh := nofun
      registrations := by rw [h.registrations, hpc]; rfl
      unrecorded := fun _ => h.unrecorded (by rw [hpc]; rfl)
      claimed := .inl (h.unclaimed_at hpc rfl rfl)
      cleaning := h.cleaning
      starting := nofun
      tasks := h.tasks }
  | claimed l err at_ =>
    exact {
      startupDone := h.startupDone.trans (by rw [at_]; rfl)
      fresh := fun hfresh => by cases at_.symm.trans (h.fresh hfresh)
      registrations := by
        have hregistrations := h.registrations
        rw [at_] at hregistrations
        rw [Node.registrations, List.filterMap_append]
        exact (List.append_nil _).trans hregistrations
      unrecorded := fun _ => h.unrecorded (by rw [at_]; rfl)
      claimed := by
        have hone : (es ++ [NodeEvent.leaseClaimed]).countP NodeEvent.claims = 1 := by
          rw [List.countP_append, h.unclaimed_at at_ rfl rfl]
          rfl
        exact .inr ⟨hone, .inl nofun⟩
      cleaning := h.cleaning
      starting := nofun
      tasks := h.tasks }
  | stored l err at_ =>
    refine .event ?_ rfl rfl
    exact {
      startupDone := h.startupDone.trans (by rw [at_]; rfl)
      fresh := fun hfresh => by cases at_.symm.trans (h.fresh hfresh)
      registrations := by rw [h.registrations, at_]; rfl
      unrecorded := fun _ => h.unrecorded (by rw [at_]; rfl)
      claimed := by
        refine h.claimed.imp id fun ⟨hone, hheld⟩ => ⟨hone, .inr ⟨rfl, ?_⟩⟩
        rw [at_] at hheld
        rcases hheld with hl | ⟨hl, _⟩
        · change l ≠ none at hl
          simpa using hl
        · cases hl
      cleaning := h.cleaning
      starting := nofun
      tasks := h.tasks }
  | published at_ =>
    have hkept : StartInv es { s with identity := true } :=
      h.keep rfl rfl rfl rfl rfl id .inl fun _ ht _ => .inl ht
    exact .event (hkept.goto at_ nofun rfl rfl rfl rfl rfl nofun) rfl rfl
  | leaseStarted l at_ lease =>
    have hkept : StartInv es
        { s with lease := some { l with done := some false }, tasks := .monitoring :: s.tasks } := by
      refine h.keep rfl rfl rfl rfl (by rw [lease]; rfl) id .inl fun t ht hstops => ?_
      rcases List.mem_cons.mp ht with rfl | hold
      · cases hstops
      · exact .inl hold
    exact .event (hkept.goto at_ nofun rfl rfl rfl rfl rfl nofun) rfl rfl
  | leaseOver at_ | leaseInvalid at_ =>
    exact .event ((h.keep_lease _).goto at_ nofun rfl rfl rfl rfl rfl nofun) rfl rfl
  | registered record at_ =>
    have hnone : s.registration = none := h.unrecorded (by rw [at_]; rfl)
    exact {
      startupDone := h.startupDone.trans (by rw [at_]; rfl)
      fresh := fun hfresh => by cases at_.symm.trans (h.fresh hfresh)
      registrations := by
        have hregistrations := h.registrations
        rw [at_, hnone] at hregistrations
        rw [Node.registrations, List.filterMap_append]
        exact congrArg (· ++ [record]) hregistrations
      unrecorded := fun _ => hnone
      claimed := by
        have hstored := h.claimed
        rw [at_] at hstored
        rw [List.countP_append]
        exact hstored
      cleaning := h.cleaning
      starting := nofun
      tasks := h.tasks }
  | recordRefused record at_ =>
    exact .event (h.recorded at_ (.inl rfl) rfl (.inl rfl) rfl rfl rfl rfl rfl) rfl rfl
  | recordExpired record at_ =>
    exact .event ((h.keep_lease _).recorded at_ (.inl rfl) rfl (.inl rfl) rfl rfl rfl rfl rfl) rfl rfl
  | recordAccepted record at_ =>
    exact .event (h.recorded at_ (.inr rfl) rfl (.inr rfl) rfl rfl rfl rfl rfl) rfl rfl
  | opened at_ =>
    have hkept : StartInv es { s with requests := s.requests.open_, lifecycleMu := false } :=
      h.keep rfl rfl rfl rfl rfl Admission.state_open_of_closed .inl fun _ ht _ => .inl ht
    exact .event (hkept.goto at_ nofun rfl rfl rfl rfl rfl nofun) rfl rfl
  | startupOver at_ | startupFailed at_ =>
    exact .event (h.move _ _ at_ nofun rfl rfl rfl rfl rfl nofun) rfl rfl
  | registrationGone at_ =>
    split
    · exact .event (h.goto at_ nofun rfl rfl rfl rfl rfl nofun) rfl rfl
    · exact .event (h.goto at_ nofun rfl rfl rfl rfl rfl nofun) rfl rfl
  | failing at_ step | stopping at_ step =>
    have hcls := step.closes fun hpc => h.starting (by rw [at_]; simpa [StartPc.stops] using hpc)
    exact .event ((h.stopping step.aside hcls).goto (step.aside.start.trans at_) nofun rfl rfl
      rfl rfl rfl fun _ => hcls) step.plain.1 step.plain.2
  | _ =>
    have at_ := ‹s.start = _›
    exact .event (h.goto at_ nofun rfl rfl rfl rfl rfl nofun) rfl rfl

theorem task (hstep : TaskStep cfg s e s')
    (hreqs : s.requests.state = .closed → s'.requests.state = .closed) : StartInv (es ++ [e]) s' := by
  have ha := hstep.aside
  refine .event ?_ hstep.plain.1 hstep.plain.2
  rcases hstep.closing h.tasks with hcls | ⟨hcleanup, htasks⟩
  · exact h.stopping ha hcls
  · exact h.keep ha.start ha.state ha.startupDone ha.registration ha.lease hreqs
      (fun hc => .inl (hcleanup ▸ hc)) fun t ht hstops => .inl (htasks t ht hstops)

theorem outside (hstep : OutsideStep s e s') : StartInv (es ++ [e]) s' := by
  cases hstep <;>
  exact .event (h.keep rfl rfl rfl rfl rfl id .inl fun _ ht _ => .inl ht) rfl rfl

theorem cleanup {c : Cleanup K V ρ} (hc : s.cleanup = .running c)
    (hstep : CleanupStep cfg s c e s') : StartInv (es ++ [e]) s' := by
  have hcls : s.requests.state = .closed := h.cleaning (by rw [hc]; exact nofun)
  have hkept : StartInv es s' := by
    cases hstep with
    | requestsClosed =>
      exact h.keep rfl rfl rfl rfl rfl (fun _ => rfl) (fun _ => .inr rfl) fun _ ht _ => .inl ht
    | requestsCounted =>
      exact h.keep rfl rfl rfl rfl rfl Admission.watch_state.trans
        (fun _ => .inr (Admission.watch_state.trans hcls)) fun _ ht _ => .inl ht
    | leaseCancelled | unregistered =>
      exact h.keep rfl rfl rfl rfl Option.isSome_map id (fun _ => .inr hcls) fun _ ht _ => .inl ht
    | _ => exact h.keep rfl rfl rfl rfl rfl id (fun _ => .inr hcls) fun _ ht _ => .inl ht
  cases hstep with
  | leaseCancelled job => cases job <;> exact hkept.event rfl rfl
  | _ => exact hkept.event rfl rfl

theorem step (hstep : NodeStep cfg s e s')
    (hreqs : s.requests.state = .closed → s'.requests.state = .closed) : StartInv (es ++ [e]) s' := by
  cases hstep with
  | outside hstep => exact h.outside hstep
  | start hstep => exact h.start hstep
  | task hstep => exact h.task hstep hreqs
  | cleanupBegun base timeout at_ =>
    exact .event (h.keep rfl rfl rfl rfl rfl id (fun _ => .inl (by rw [at_]; exact nofun))
      fun _ ht _ => .inl ht) rfl rfl
  | cleanup at_ hstep => exact h.cleanup at_ hstep

end StartInv

end Yola.Node
