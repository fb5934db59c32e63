import Yola.Node.CleanupContext
import Yola.Node.StartupHandover

/-!
# One owner for everything a startup leaves behind

The cleanup looks at what the startup has left twice: once after it has waited for a part of its
budget, and, if the startup was not over by then, once more when it is.  What it found the first time
is still there the second time, so nothing is given up twice; and nothing is handed over behind the
second look, because the startup is over.
-/

namespace Yola.Node

open Go Reasoning

section Places

variable {K V ρ : Type}

def CleanupPc.phase : CleanupPc K V → Nat
  | readStartup | waitStartup _ => 0
  | readRecord => 1
  | deregister => 2
  | deregistering _ | stopRequests | countRequests | waitRequests | drain => 3
  | draining | stopDeliveries | countDeliveries | waitDeliveries | loadLease => 4
  | network | clearIdentity => 5
  | decideLate => 6
  | waitLate => 7
  | readLateRecord _ => 8
  | lateDeregister _ => 9
  | lateDeregistering _ _ | chooseLate _ | clearLateIdentity => 10
  | joinDrain => 11
  | cancelLease job | readDone job | waitDone job | unregister job | unregistering job =>
    match job with
    | .stop => 5
    | .release => 6
    | .lateStop _ | .lateRelease _ => 10

def LeaseJob.late : LeaseJob K V → Bool
  | lateStop _ | lateRelease _ => true
  | _ => false

def Cleanup.Renounced (c : Cleanup K V ρ) : Prop :=
  match c.pc with
  | .readDone job | .waitDone job | .unregister job | .unregistering job =>
    c.startupErr = false ∨ job.late = true
  | .network | .clearIdentity => c.startupErr = false ∧ c.drained = false
  | .decideLate => c.startupErr = false
  | .clearLateIdentity | .joinDrain => True
  | _ => False

namespace NodeEvent

def deregistration : NodeEvent K V ρ → Option ρ
  | deregisterCalled _ record => some record
  | _ => none

def drains : NodeEvent K V ρ → Bool
  | drainCalled _ => true
  | _ => false

theorem plain_of_handed {e : NodeEvent K V ρ} (h : e.handed = none) :
    e.deregistration = none ∧ e.drains = false := by
  cases e with
  | deregisterCalled | drainCalled => cases h
  | _ => exact ⟨rfl, rfl⟩

end NodeEvent

/-- Records `Deregister` was called for. -/
def deregistrations (es : List (NodeEvent K V ρ)) : List ρ := es.filterMap NodeEvent.deregistration

theorem deregistrations_append (es : List (NodeEvent K V ρ)) (e : NodeEvent K V ρ) :
    deregistrations (es ++ [e]) = deregistrations es ++ e.deregistration.toList := by
  rw [deregistrations, List.filterMap_append]
  cases h : e.deregistration <;> simp [deregistrations, h]

/-- `Start` is not on its way: it never got in, or its startup is over. -/
def Server.Settled (s : Server K V ρ) : Prop := s.start.startupDone ≠ some false

end Places

variable {K V ρ : Type} {cfg : LifecycleConfig} {s s' : Server K V ρ} {e : NodeEvent K V ρ}
  {es : List (NodeEvent K V ρ)} {c c' : Cleanup K V ρ}

/-! ## What can still change behind a cleanup -/

structure Later (s s' : Server K V ρ) : Prop where
  settled : s.Settled → s'.Settled
  registration : s.Settled → s'.registration = s.registration
  recorded : s.registration ≠ none → s'.registration = s.registration
  identity : s.Settled → s'.identity = s.identity
  lease : s.Settled → s'.lease.isSome = s.lease.isSome
  stopped : s.Settled → RenewalStopped s.lease → RenewalStopped s'.lease
  drain : s'.drain = .idle ↔ s.drain = .idle

namespace Later

variable {pc : StartPc ρ}

theorem of_aside (h : Aside s s') : Later s s' where
  settled hs := by unfold Server.Settled; rw [h.start]; exact hs
  registration _ := h.registration
  recorded _ := h.registration
  identity _ := h.identity
  lease _ := h.lease
  stopped _ := h.stopped
  drain := h.drain

theorem trans {t : Server K V ρ} (h : Later s t) (h' : Later t s') : Later s s' where
  settled hs := h'.settled (h.settled hs)
  registration hs := (h'.registration (h.settled hs)).trans (h.registration hs)
  recorded hr := (h'.recorded (by rw [h.recorded hr]; exact hr)).trans (h.recorded hr)
  identity hs := (h'.identity (h.settled hs)).trans (h.identity hs)
  lease hs := (h'.lease (h.settled hs)).trans (h.lease hs)
  stopped hs hl := h'.stopped (h.settled hs) (h.stopped hs hl)
  drain := h'.drain.trans h.drain

theorem goto {pc' : StartPc ρ} (hpc : s.start = pc) (hdone : pc'.startupDone = pc.startupDone) :
    Later s (s.setStart pc') where
  settled hs := by
    change pc'.startupDone ≠ _
    rw [hdone, ← hpc]
    exact hs
  registration _ := rfl
  recorded _ := rfl
  identity _ := rfl
  lease _ := rfl
  stopped _ := id
  drain := .rfl

theorem starting (hpc : s.start = pc) (hdone : pc.startupDone = some false)
    (hrecorded : s.registration ≠ none → s'.registration = s.registration)
    (hdrain : s'.drain = s.drain) : Later s s' := by
  have hstart : ¬ s.Settled := fun hs => hs (by rw [hpc]; exact hdone)
  exact ⟨fun hs => absurd hs hstart, fun hs => absurd hs hstart, hrecorded,
    fun hs => absurd hs hstart, fun hs => absurd hs hstart, fun hs => absurd hs hstart,
    by rw [hdrain]⟩

end Later

theorem StartStep.later (h : StartStep cfg s e s') (hinv : StartInv es s)
    (hcls : s.requests.state = .closed) : Later s s' := by
  -- a record is written once
  have recorded {record : ρ} (at_ : s.start = .registered record) (hnew : s.registration ≠ none) :
      s'.registration = s.registration := absurd (hinv.unrecorded (by rw [at_]; rfl)) hnew
  cases h with
  | entered ctx free alive =>
    rw [Admission.isClosed, hcls] at alive
    cases alive
  | stored l err at_ | published at_ | leaseStarted l at_ | leaseOver at_ | leaseInvalid at_
  | opened at_ | startupOver at_ | startupFailed at_ => exact .starting at_ rfl (fun _ => rfl) rfl
  | recordRefused record at_ | recordExpired record at_ | recordAccepted record at_ =>
    exact .starting at_ rfl (recorded at_) rfl
  | registrationGone at_ =>
    split <;> exact .goto at_ rfl
  | failing at_ step | stopping at_ step =>
    exact (Later.of_aside step.aside).trans (.goto (step.aside.start.trans at_) rfl)
  | _ =>
    have at_ := ‹s.start = _›
    exact .goto at_ rfl

/-! ## What a cleanup has taken over -/

/-- The record the cleanup has deregistered. -/
def Cleanup.deregistered (s : Server K V ρ) (c : Cleanup K V ρ) : Option ρ :=
  if c.pc.phase ≤ 2 then none else if c.pc.phase ≤ 9 then c.record else s.registration

theorem Cleanup.Renounced.place (h : c.Renounced) :
    1 ≤ c.pc.phase ∧ c.startupErr = false ∨ 8 ≤ c.pc.phase := by
  unfold Renounced at h
  cases hpc : c.pc with
  | readDone job | waitDone job | unregister job | unregistering job =>
    rw [hpc] at h
    cases job <;> rcases h with herr | hlate <;> simp_all [CleanupPc.phase, LeaseJob.late]
  | network | clearIdentity =>
    rw [hpc] at h
    exact .inl ⟨by simp [CleanupPc.phase], h.1⟩
  | decideLate =>
    rw [hpc] at h
    exact .inl ⟨by simp [CleanupPc.phase], h⟩
  | clearLateIdentity | joinDrain => exact .inr (by simp [CleanupPc.phase])
  | _ =>
    rw [hpc] at h
    cases h

theorem LeaseJob.next_phase (job : LeaseJob K V) : job.next.phase = (CleanupPc.cancelLease job).phase := by
  cases job <;> rfl

theorem LeaseJob.owed_of_next {job : LeaseJob K V}
    (h : Cleanup.Renounced { c with pc := job.next }) : c.startupErr = false ∨ job.late = true := by
  cases job with
  | stop => exact .inl (And.left h)
  | release => exact .inl h
  | lateStop | lateRelease => exact .inr rfl

structure TakeOver (es : List (NodeEvent K V ρ)) (s : Server K V ρ) (c : Cleanup K V ρ) : Prop where
  settled : 1 ≤ c.pc.phase → c.startupErr = false → s.Settled
  caughtUp : 8 ≤ c.pc.phase → s.Settled
  unread : c.pc.phase ≤ 1 → c.record = none
  found : c.record = none ∨ c.record = s.registration
  record : 2 ≤ c.pc.phase → c.startupErr = false → c.record = s.registration
  lateRecord : c.pc.phase = 9 → c.lateRecord = s.registration
  deregistered : deregistrations es = (c.deregistered s).toList
  identity : 6 ≤ c.pc.phase → c.startupErr = false → s.identity = false
  cleared : 11 ≤ c.pc.phase → s.identity = false
  lease : 5 ≤ c.pc.phase → c.startupErr = false → c.lease = s.lease.isSome
  renounced : c.Renounced → RenewalStopped s.lease
  drain : c.pc.phase ≤ 3 → s.drain = .idle

structure CleanedUp (es : List (NodeEvent K V ρ)) (s : Server K V ρ) : Prop where
  settled : s.Settled
  deregistered : deregistrations es = s.registration.toList
  cleared : s.identity = false
  renounced : RenewalStopped s.lease

def Handled (es : List (NodeEvent K V ρ)) (s : Server K V ρ) : Prop :=
  s.cleanup = .finished ∧ CleanedUp es s ∨ ∃ c, s.cleanup = .running c ∧ TakeOver es s c

namespace TakeOver

variable {job : LeaseJob K V} {pc : CleanupPc K V}

section

variable (h : TakeOver es s c)

include h

-- Where the cleanup relies on the lease, the startup is over.
theorem settled_of_renounced (hc : c.Renounced) : s.Settled := by
  rcases hc.place with ⟨hph, herr⟩ | hph
  · exact h.settled hph herr
  · exact h.caughtUp hph

theorem later (hl : Later s s') : TakeOver es s' c where
  settled hp he := hl.settled (h.settled hp he)
  caughtUp hp := hl.settled (h.caughtUp hp)
  unread := h.unread
  found := by
    rcases h.found with hnone | hsame
    · exact .inl hnone
    · by_cases hr : s.registration = none
      · exact .inl (hsame.trans hr)
      · exact .inr (hsame.trans (hl.recorded hr).symm)
  record hp he := (h.record hp he).trans (hl.registration (h.settled (by omega) he)).symm
  lateRecord hp := (h.lateRecord hp).trans (hl.registration (h.caughtUp (by omega))).symm
  deregistered := by
    rw [h.deregistered]
    unfold Cleanup.deregistered
    split
    · rfl
    · split
      · rfl
      · rw [hl.registration (h.caughtUp (by omega))]
  identity hp he := (hl.identity (h.settled (by omega) he)).trans (h.identity hp he)
  cleared hp := (hl.identity (h.caughtUp (by omega))).trans (h.cleared hp)
  lease hp he := (h.lease hp he).trans (hl.lease (h.settled (by omega) he)).symm
  renounced hc := hl.stopped (h.settled_of_renounced hc) (h.renounced hc)
  drain hp := hl.drain.mpr (h.drain hp)

theorem within (hph : c'.pc.phase = c.pc.phase)
    (herr : c'.startupErr = c.startupErr) (hrec : c'.record = c.record)
    (hlate : c'.lateRecord = c.lateRecord) (hheld : c'.lease = c.lease)
    (hstart : s'.start = s.start) (hreg : s'.registration = s.registration)
    (hident : s'.identity = s.identity) (hls : s'.lease.isSome = s.lease.isSome)
    (hdrain : s'.drain = s.drain) (hren : c'.Renounced → RenewalStopped s'.lease) : TakeOver es s' c' where
  settled := by
    rw [hph, herr, Server.Settled, hstart]
    exact h.settled
  caughtUp := by
    rw [hph, Server.Settled, hstart]
    exact h.caughtUp
  unread := by rw [hph, hrec]; exact h.unread
  found := by rw [hrec, hreg]; exact h.found
  record := by rw [hph, herr, hrec, hreg]; exact h.record
  lateRecord := by rw [hph, hlate, hreg]; exact h.lateRecord
  deregistered := by
    unfold Cleanup.deregistered
    rw [hph, hrec, hreg]
    exact h.deregistered
  identity := by rw [hph, herr, hident]; exact h.identity
  cleared := by rw [hph, hident]; exact h.cleared
  lease := by rw [hph, herr, hheld, hls]; exact h.lease
  renounced := hren
  drain := by rw [hph, hdrain]; exact h.drain

theorem event (he : e.deregistration = none) : TakeOver (es ++ [e]) s c :=
  { h with
    deregistered := by
      rw [deregistrations_append, he, h.deregistered]
      exact List.append_nil _ }

theorem deregistered_early (hpc : c.pc.phase ≤ 2) : deregistrations es = [] := by
  rw [h.deregistered, Cleanup.deregistered, if_pos hpc]
  rfl

theorem deregistered_once (hpc : 3 ≤ c.pc.phase) (hpc' : c.pc.phase ≤ 9) :
    deregistrations es = c.record.toList := by
  rw [h.deregistered, Cleanup.deregistered, if_neg (by omega), if_pos hpc']

theorem deregistered_late (hpc : 10 ≤ c.pc.phase) : deregistrations es = s.registration.toList := by
  rw [h.deregistered, Cleanup.deregistered, if_neg (by omega), if_neg (by omega)]

theorem waited (hpc : c.pc = .readStartup ∨ ∃ ctx, c.pc = .waitStartup ctx)
    (err : Bool) (hset : err = false → s.Settled) :
    TakeOver es s { c with startupErr := err, pc := .readRecord } := by
  have hph : c.pc.phase = 0 := by
    rcases hpc with hpc | ⟨ctx, hpc⟩ <;> rw [hpc] <;> rfl
  exact {
    settled := fun _ => hset
    caughtUp := nofun
    unread := fun _ => h.unread (by omega)
    found := h.found
    record := nofun
    lateRecord := nofun
    deregistered := h.deregistered_early (by omega)
    identity := nofun
    cleared := nofun
    lease := nofun
    renounced := nofun
    drain := fun _ => h.drain (by omega) }

theorem recordRead (hpc : c.pc.phase = 1) :
    TakeOver es s { c with record := s.registration, pc := .deregister } where
  settled _ := h.settled (by omega)
  caughtUp := nofun
  unread := nofun
  found := .inr rfl
  record _ _ := rfl
  lateRecord := nofun
  deregistered := h.deregistered_early (by omega)
  identity := nofun
  cleared := nofun
  lease := nofun
  renounced := nofun
  drain _ := h.drain (by omega)

theorem recordGone (hpc : c.pc.phase = 2) (hpc' : c'.pc.phase = 3)
    (herr : c'.startupErr = c.startupErr) (hrec : c'.record = c.record)
    (hren : ¬ c'.Renounced) (he : e.deregistration = c.record) : TakeOver (es ++ [e]) s c' where
  settled _ := by rw [herr]; exact h.settled (by omega)
  caughtUp _ := by omega
  unread _ := by omega
  found := by rw [hrec]; exact h.found
  record _ := by rw [herr, hrec]; exact h.record (by omega)
  lateRecord _ := by omega
  deregistered := by
    rw [deregistrations_append, h.deregistered_early (by omega), he, Cleanup.deregistered,
      if_neg (by omega), if_pos (by omega), hrec]
    rfl
  identity _ := by omega
  cleared _ := by omega
  lease _ := by omega
  renounced hr := absurd hr hren
  drain _ := h.drain (by omega)

theorem onward {p : Nat} (hpc : c.pc.phase = p) (hpc' : c'.pc.phase = p + 1)
    (hp : 3 ≤ p ∧ p ≤ 8) (herr : c'.startupErr = c.startupErr) (hrec : c'.record = c.record)
    (hstart : s'.start = s.start) (hreg : s'.registration = s.registration)
    (hcaughtUp : c'.pc.phase = 8 → s'.Settled)
    (hlateRecord : c'.pc.phase = 9 → c'.lateRecord = s'.registration)
    (hident : 6 ≤ c'.pc.phase → c'.startupErr = false → s'.identity = false)
    (hls : 5 ≤ c'.pc.phase → c'.startupErr = false → c'.lease = s'.lease.isSome)
    (hren : c'.Renounced → RenewalStopped s'.lease) : TakeOver es s' c' where
  settled _ := by rw [herr, Server.Settled, hstart]; exact h.settled (by omega)
  caughtUp hp := by
    by_cases hfst : c'.pc.phase = 8
    · exact hcaughtUp hfst
    · rw [Server.Settled, hstart]
      exact h.caughtUp (by omega)
  unread _ := by omega
  found := by rw [hrec, hreg]; exact h.found
  record _ := by rw [herr, hrec, hreg]; exact h.record (by omega)
  lateRecord := hlateRecord
  deregistered := by
    rw [h.deregistered_once (by omega) (by omega), Cleanup.deregistered, if_neg (by omega),
      if_pos (by omega), hrec]
  identity := hident
  cleared _ := by omega
  lease := hls
  renounced := hren
  drain _ := by omega

theorem lateRecordGone (hpc : c.pc.phase = 9) (hpc' : c'.pc.phase = 10)
    (herr : c'.startupErr = c.startupErr) (hrec : c'.record = c.record)
    (hheld : c'.lease = c.lease) (hren : ¬ c'.Renounced)
    (he : e.deregistration = if c.record = none then c.lateRecord else none) : TakeOver (es ++ [e]) s c' where
  settled _ := by rw [herr]; exact h.settled (by omega)
  caughtUp _ := h.caughtUp (by omega)
  unread _ := by omega
  found := by rw [hrec]; exact h.found
  record _ := by rw [herr, hrec]; exact h.record (by omega)
  lateRecord _ := by omega
  deregistered := by
    have hnow : c'.deregistered s = s.registration := by
      rw [Cleanup.deregistered, if_neg (by omega), if_neg (by omega)]
    rw [deregistrations_append, h.deregistered_once (by omega) (by omega), he, hnow, h.lateRecord hpc]
    rcases h.found with hnone | hsame
    · simp [hnone]
    · cases hr : s.registration <;> simp [hsame, hr]
  identity _ := by rw [herr]; exact h.identity (by omega)
  cleared _ := by omega
  lease _ := by rw [herr, hheld]; exact h.lease (by omega)
  renounced hr := absurd hr hren
  drain _ := by omega

theorem joining (hpc : 6 ≤ c.pc.phase) (hpc' : c'.pc.phase = 11)
    (herr : c'.startupErr = c.startupErr) (hrec : c'.record = c.record)
    (hheld : c'.lease = c.lease) (hstart : s'.start = s.start)
    (hreg : s'.registration = s.registration) (hls : s'.lease = s.lease)
    (hset : s.Settled) (hdereg : deregistrations es = s.registration.toList)
    (hcleared : s'.identity = false) (hren : RenewalStopped s.lease) : TakeOver es s' c' where
  settled _ _ := by rw [Server.Settled, hstart]; exact hset
  caughtUp _ := by rw [Server.Settled, hstart]; exact hset
  unread _ := by omega
  found := by rw [hrec, hreg]; exact h.found
  record _ := by rw [herr, hrec, hreg]; exact h.record (by omega)
  lateRecord _ := by omega
  deregistered := by
    rw [hdereg, Cleanup.deregistered, if_neg (by omega), if_neg (by omega), hreg]
  identity _ _ := hcleared
  cleared _ := hcleared
  lease _ := by rw [herr, hheld, hls]; exact h.lease (by omega)
  renounced _ := by rw [hls]; exact hren
  drain _ := by omega

theorem leaseOf_eq (hph : 5 ≤ c.pc.phase)
    (hjob : c.startupErr = false ∨ job.late = true) : c.leaseOf s job = s.lease := by
  cases job with
  | stop | release =>
    rcases hjob with herr | hlate
    · rw [Cleanup.leaseOf, h.lease hph herr]
      cases s.lease <;> rfl
    · cases hlate
  | lateStop | lateRelease => rfl

end

theorem running (h : TakeOver es s { c with pc := pc }) :
    ∃ c', (s.setCleanup c pc).cleanup = .running c' ∧ TakeOver es (s.setCleanup c pc) c' :=
  ⟨_, rfl, ⟨h.settled, h.caughtUp, h.unread, h.found, h.record, h.lateRecord, h.deregistered,
    h.identity, h.cleared, h.lease, h.renounced, h.drain⟩⟩

theorem inJob (h : TakeOver es s c)
    (hpc : c.pc = .readDone job ∨ c.pc = .waitDone job ∨ c.pc = .unregister job ∨ c.pc = .unregistering job)
    (hpc' : pc.phase = (CleanupPc.cancelLease job).phase)
    (howed : Cleanup.Renounced { c with pc := pc } → c.startupErr = false ∨ job.late = true) :
    TakeOver es s { c with pc := pc } := by
  have hph : c.pc.phase = (CleanupPc.cancelLease job).phase := by
    rcases hpc with hpc | hpc | hpc | hpc <;> rw [hpc] <;> rfl
  refine h.within (hpc'.trans hph.symm) rfl rfl rfl rfl rfl rfl rfl rfl rfl fun hr => ?_
  apply h.renounced
  unfold Cleanup.Renounced
  rcases hpc with hpc | hpc | hpc | hpc <;> rw [hpc] <;> exact howed hr

theorem jobDone (h : TakeOver es s c) (hpc : c.pc = .readDone job ∨
      c.pc = .waitDone job ∨ c.pc = .unregister job ∨ c.pc = .unregistering job) :
    TakeOver es s { c with pc := job.next } :=
  h.inJob hpc job.next_phase LeaseJob.owed_of_next

theorem goes (h : TakeOver es s { c with pc := pc }) (he : e.deregistration = none) :
    Handled (es ++ [e]) (s.setCleanup c pc) :=
  .inr (running (h.event he))

theorem step (h : TakeOver es s c) (hstep : CleanupStep cfg s c e s') (hinv : StartInv es s) :
    Handled (es ++ [e]) s' := by
  cases hstep with
  | finished pc =>
    have hphase : c.pc.phase = 11 := congrArg _ pc
    refine .inl ⟨rfl, ⟨h.caughtUp (by omega), ?_, h.cleared (by omega), h.renounced ?_⟩⟩
    · rw [deregistrations_append, h.deregistered_late (by omega)]
      exact List.append_nil _
    · unfold Cleanup.Renounced
      rw [pc]
      trivial
  | noStartup pc free missing =>
    refine goes (h.waited (.inl pc) c.startupErr fun _ => ?_) rfl
    rw [Server.Settled, ← hinv.startupDone, missing]
    exact nofun
  | startupOver waitCtx pc isOver =>
    refine goes (h.waited (.inr ⟨_, pc⟩) c.startupErr fun _ => ?_) rfl
    rw [Server.Settled, ← hinv.startupDone, isOver]
    exact nofun
  | startupLate waitCtx pc =>
    exact goes (h.waited (.inr ⟨_, pc⟩) true nofun) rfl
  | recordRead pc =>
    exact goes (h.recordRead (congrArg _ pc)) rfl
  | noRecord pc missing =>
    exact .inr (running (h.recordGone (congrArg _ pc) rfl rfl rfl nofun missing.symm))
  | deregisterCalled record pc found =>
    exact .inr (running (h.recordGone (congrArg _ pc) rfl rfl rfl nofun found.symm))
  | requestsCounted pc =>
    have hphase : c.pc.phase = 3 := congrArg _ pc
    refine goes (h.within ?_ rfl rfl rfl rfl rfl rfl rfl rfl rfl ?_) rfl
    · rw [hphase]; dsimp only; split <;> rfl
    · split <;> exact nofun
  | drainSkipped pc | drainCalled pc =>
    have hphase : c.pc.phase = 3 := congrArg _ pc
    refine goes ?_ rfl
    refine h.onward hphase rfl (by decide) rfl rfl rfl rfl nofun nofun nofun nofun nofun
  | deliveriesCounted pc =>
    have hphase : c.pc.phase = 4 := congrArg _ pc
    refine goes (h.within ?_ rfl rfl rfl rfl rfl rfl rfl rfl rfl ?_) rfl
    · rw [hphase]; dsimp only; split <;> rfl
    · split <;> exact nofun
  | leaseLoaded pc =>
    have hphase : c.pc.phase = 4 := congrArg _ pc
    refine goes ?_ rfl
    split
    · refine h.onward hphase rfl (by decide) rfl rfl rfl rfl nofun nofun nofun (fun _ _ => rfl) nofun
    · rename_i hcalm
      refine h.onward hphase rfl (by decide) rfl rfl rfl rfl nofun nofun nofun (fun _ _ => rfl) ?_
      · exact fun hr => absurd (.inl hr.2) hcalm
  | leaseMissing job pc missing =>
    have hphase := congrArg CleanupPc.phase pc
    refine goes (h.within (job.next_phase.trans hphase.symm) rfl rfl rfl rfl rfl rfl
      rfl rfl rfl fun hr l hl => ?_) rfl
    have hlease := h.leaseOf_eq (by cases job <;> rw [hphase] <;> simp [CleanupPc.phase])
      (LeaseJob.owed_of_next hr)
    cases (missing.symm.trans hlease).trans hl
  | leaseCancelled job pc =>
    have hcanc : RenewalStopped (s.cancelLease .canceled).lease := by
      intro l hl
      obtain ⟨l, -, rfl⟩ := Option.mem_map.mp hl
      exact l.epoch.cancel_cause_ne_none _
    refine goes (h.within (congrArg CleanupPc.phase pc).symm rfl rfl rfl rfl rfl rfl
      rfl Option.isSome_map rfl fun _ => hcanc) ?_
    split <;> rfl
  | neverStarted job l pc =>
    refine goes ?_ rfl
    split
    · exact h.inJob (.inl pc) rfl id
    · exact h.jobDone (.inl pc)
  | renewalFound job l pc =>
    exact goes (h.inJob (.inl pc) rfl id) rfl
  | renewalOver job l pc =>
    refine goes ?_ rfl
    split
    · exact h.inJob (.inr (.inl pc)) rfl id
    · exact h.jobDone (.inr (.inl pc))
  | renewalLate job pc =>
    exact goes (h.jobDone (.inr (.inl pc))) rfl
  | alreadyReleased job l pc =>
    exact goes (h.jobDone (.inr (.inr (.inl pc)))) rfl
  | unregisterCalled job l pc =>
    exact goes (h.inJob (.inr (.inr (.inl pc))) rfl id) rfl
  | unregistered job pc =>
    have hrel : Aside s s.setReleased := .map rfl rfl rfl rfl rfl rfl rfl fun _ => id
    exact goes ((h.later (.of_aside hrel)).jobDone (.inr (.inr (.inr pc)))) rfl
  | unregisterFailed job pc =>
    exact goes (h.jobDone (.inr (.inr (.inr pc)))) rfl
  | networkStopped pc =>
    refine goes (h.within (congrArg CleanupPc.phase pc).symm rfl rfl rfl rfl rfl rfl
      rfl rfl rfl fun hr => h.renounced ?_) rfl
    unfold Cleanup.Renounced
    rw [pc]
    exact hr
  | identityCleared pc =>
    have hphase : c.pc.phase = 5 := congrArg _ pc
    refine goes ?_ rfl
    split
    · refine h.onward hphase rfl (by decide) rfl rfl rfl rfl nofun nofun (fun _ _ => rfl)
        (fun _ => h.lease (by omega)) nofun
    · rename_i hkeeps
      refine h.onward hphase rfl (by decide) rfl rfl rfl rfl nofun nofun (fun _ _ => rfl)
        (fun _ => h.lease (by omega)) fun hr => h.renounced ?_
      · unfold Cleanup.Renounced
        rw [pc]
        refine ⟨hr, ?_⟩
        by_contra hdrn
        exact hkeeps ⟨by simpa using hdrn, hr⟩
  | inTime pc done =>
    have hphase : c.pc.phase = 6 := congrArg _ pc
    have hsettled := h.settled (by omega) done
    refine goes (h.joining (by omega) rfl rfl rfl rfl rfl rfl rfl hsettled ?_
      (h.identity (by omega) done) (h.renounced ?_)) rfl
    · rw [h.deregistered_once (by omega) (by omega), h.record (by omega) done]
    · unfold Cleanup.Renounced
      rw [pc]
      exact done
  | overtaken pc =>
    have hphase : c.pc.phase = 6 := congrArg _ pc
    refine goes (h.onward hphase rfl (by decide) rfl rfl rfl rfl nofun nofun
      (fun _ => h.identity (by omega)) (fun _ => h.lease (by omega)) nofun) rfl
  | startupCaughtUp pc isOver =>
    have hphase : c.pc.phase = 7 := congrArg _ pc
    refine goes (h.onward hphase rfl (by decide) rfl rfl rfl rfl ?_ nofun
      (fun _ => h.identity (by omega)) (fun _ => h.lease (by omega)) nofun) rfl
    · intro _
      rw [Server.Settled, ← hinv.startupDone, isOver]
      exact nofun
  | lateRecordRead ctx pc =>
    have hphase : c.pc.phase = 8 := congrArg _ pc
    refine goes (h.onward hphase rfl (by decide) rfl rfl rfl rfl nofun (fun _ => rfl)
      (fun _ => h.identity (by omega)) (fun _ => h.lease (by omega)) nofun) rfl
  | noLateRecord ctx pc known =>
    refine .inr (running (h.lateRecordGone (congrArg _ pc) rfl rfl rfl rfl nofun ?_))
    split
    · rename_i hnone
      rcases known with hsame | hnone'
      · exact (hsame.trans hnone).symm
      · exact hnone'.symm
    · rfl
  | lateDeregisterCalled ctx record pc found new =>
    have hphase : c.pc.phase = 9 := congrArg _ pc
    refine .inr (running (h.lateRecordGone hphase rfl rfl rfl rfl nofun ?_))
    -- what was read first is still there
    have hnone : c.record = none := by
      refine h.found.resolve_right fun hsame => new ?_
      rw [hsame, h.lateRecord hphase]
    rw [if_pos hnone, found]
    rfl
  | lateChosen ctx pc =>
    have hphase : c.pc.phase = 10 := congrArg _ pc
    refine goes (h.within ?_ rfl rfl rfl rfl rfl rfl rfl rfl rfl nofun) rfl
    rw [hphase]
    dsimp only
    split <;> rfl
  | lateIdentityCleared pc =>
    have hphase : c.pc.phase = 10 := congrArg _ pc
    refine goes (h.joining (by omega) rfl rfl rfl rfl rfl rfl rfl
      (h.caughtUp (by omega)) (h.deregistered_late (by omega)) rfl (h.renounced ?_)) rfl
    unfold Cleanup.Renounced
    rw [pc]
    trivial
  | _ =>
    have pc := ‹c.pc = _›
    have hphase := congrArg CleanupPc.phase pc
    exact goes (h.within hphase.symm rfl rfl rfl rfl rfl rfl rfl rfl rfl nofun) rfl

end TakeOver

theorem StartStep.drain_eq (h : StartStep cfg s e s') : s'.drain = s.drain := by
  cases h with
  | failing at_ step | stopping at_ step => exact step.called.drain
  | _ => rfl

theorem CleanupStep.drains (h : CleanupStep cfg s c e s') :
    e.drains = false ∧ s'.drain = s.drain ∨ c.pc = .drain ∧ s'.drain = .running := by
  cases h with
  | drainCalled pc => exact .inr ⟨pc, rfl⟩
  | leaseCancelled =>
    refine .inl ⟨?_, rfl⟩
    split <;> rfl
  | _ => exact .inl ⟨rfl, rfl⟩

/-! ## Every run -/

structure OwnerInv (es : List (NodeEvent K V ρ)) (s : Server K V ρ) : Prop where
  start : StartInv es s
  undrained : s.drain = .idle → es.countP NodeEvent.drains = 0
  drained : es.countP NodeEvent.drains ≤ 1
  ahead : s.cleanup = .idle ∨ (∃ base timeout, s.cleanup = .spawned base timeout) →
    s.drain = .idle ∧ deregistrations es = []
  running : ∀ c, s.cleanup = .running c → TakeOver es s c
  finished : s.cleanup = .finished → CleanedUp es s

namespace OwnerInv

theorem init : OwnerInv [] (newServer K V ρ) where
  start := .init
  undrained _ := rfl
  drained := Nat.zero_le 1
  ahead _ := ⟨rfl, rfl⟩
  running c h := by cases h
  finished h := by cases h

theorem outer (h : OwnerInv es s) (hstart : StartInv (es ++ [e]) s') (houter : Outer s e s')
    (hdrain : s'.drain = .idle ↔ s.drain = .idle) (hlater : s.cleanup ≠ .idle → Later s s') :
    OwnerInv (es ++ [e]) s' := by
  obtain ⟨hhanded, hcleanup⟩ := houter
  obtain ⟨hdereg, hdrains⟩ := NodeEvent.plain_of_handed hhanded
  have hsame : deregistrations (es ++ [e]) = deregistrations es := by
    rw [deregistrations_append, hdereg]
    exact List.append_nil _
  have hcnt : (es ++ [e]).countP NodeEvent.drains = es.countP NodeEvent.drains := by
    rw [List.countP_append, List.countP_cons_of_neg (by rw [hdrains]; exact Bool.false_ne_true)]
    rfl
  refine ⟨hstart, fun hidle => ?_, ?_, fun hahead => ?_, fun c hc => ?_, fun hf => ?_⟩
  · rw [hcnt]
    exact h.undrained (hdrain.mp hidle)
  · rw [hcnt]
    exact h.drained
  · rw [hdrain, hsame]
    apply h.ahead
    rcases hcleanup with ⟨-, hkept⟩ | ⟨base, timeout, -, hidle, -⟩
    · rwa [hkept] at hahead
    · exact .inl hidle
  · rcases hcleanup with ⟨-, hkept⟩ | ⟨base, timeout, -, -, hspawn⟩
    · rw [hkept] at hc
      exact ((h.running c hc).later (hlater (by rw [hc]; exact nofun))).event hdereg
    · cases hspawn.symm.trans hc
  · rcases hcleanup with ⟨-, hkept⟩ | ⟨base, timeout, -, -, hspawn⟩
    · rw [hkept] at hf
      have hclean := h.finished hf
      have hl := hlater (by rw [hf]; exact nofun)
      refine ⟨hl.settled hclean.settled, ?_, ?_, hl.stopped hclean.settled hclean.renounced⟩
      · rw [hsame, hclean.deregistered, hl.registration hclean.settled]
      · rw [hl.identity hclean.settled, hclean.cleared]
    · cases hspawn.symm.trans hf

theorem begun (h : OwnerInv es s) {base : Ctx K V} {timeout : Nat}
    (hstart : StartInv (es ++ [.budgetOpened s.now])
      { s with cleanup := .running (s.newCleanup base timeout) })
    (hspawn : s.cleanup = .spawned base timeout) :
    OwnerInv (es ++ [.budgetOpened s.now]) { s with cleanup := .running (s.newCleanup base timeout) } := by
  obtain ⟨hidle, hnone⟩ := h.ahead (.inr ⟨base, timeout, hspawn⟩)
  have hcnt : (es ++ [NodeEvent.budgetOpened s.now]).countP NodeEvent.drains =
      es.countP NodeEvent.drains := List.countP_append
  refine ⟨hstart, fun _ => hcnt.trans (h.undrained hidle), hcnt.trans_le h.drained, ?_, ?_, nofun⟩
  · rintro (hc | ⟨_, _, hc⟩) <;> cases hc
  · rintro c ⟨⟩
    refine .event ?_ rfl
    exact {
      settled := nofun
      caughtUp := nofun
      unread := fun _ => rfl
      found := .inl rfl
      record := nofun
      lateRecord := nofun
      deregistered := hnone
      identity := nofun
      cleared := nofun
      lease := nofun
      renounced := nofun
      drain := fun _ => hidle }

theorem cleanup (h : OwnerInv es s) (hstart : StartInv (es ++ [e]) s')
    (hruns : s.cleanup = .running c) (hstep : CleanupStep cfg s c e s') :
    OwnerInv (es ++ [e]) s' := by
  have htaken := h.running c hruns
  have hnext := htaken.step hstep h.start
  have hcnt : (s'.drain = .idle → (es ++ [e]).countP NodeEvent.drains = 0) ∧
      (es ++ [e]).countP NodeEvent.drains ≤ 1 := by
    rw [List.countP_append]
    rcases hstep.drains with ⟨hsilent, hdrain⟩ | ⟨hpc, hdrain⟩
    · rw [List.countP_cons_of_neg (by rw [hsilent]; exact Bool.false_ne_true), hdrain]
      exact ⟨h.undrained, h.drained⟩
    · have hnone := h.undrained (htaken.drain (by rw [hpc]; exact Nat.le_refl 3))
      rw [hnone, hdrain, Nat.zero_add]
      exact ⟨nofun, List.countP_le_length⟩
  refine ⟨hstart, hcnt.1, hcnt.2, ?_, fun c hc => ?_, fun hf => ?_⟩
  · rcases hnext with ⟨hfin, -⟩ | ⟨c', hc', -⟩
    · rw [hfin]
      rintro (hc | ⟨_, _, hc⟩) <;> cases hc
    · rw [hc']
      rintro (hc | ⟨_, _, hc⟩) <;> cases hc
  · rcases hnext with ⟨hfin, -⟩ | ⟨c', hc', htaken'⟩
    · cases hfin.symm.trans hc
    · cases hc'.symm.trans hc
      exact htaken'
  · rcases hnext with ⟨-, hclean⟩ | ⟨c', hc', -⟩
    · exact hclean
    · cases hc'.symm.trans hf

theorem step (h : OwnerInv es s) (hstep : NodeStep cfg s e s')
    (hreqs : s.requests.state = .closed → s'.requests.state = .closed) :
    OwnerInv (es ++ [e]) s' := by
  have hstart := h.start.step hstep hreqs
  cases hstep with
  | outside hstep | task hstep =>
    exact h.outer hstart hstep.outer hstep.aside.drain fun _ => .of_aside hstep.aside
  | start hstep =>
    exact h.outer hstart hstep.outer (by rw [hstep.drain_eq]) fun hc =>
      hstep.later h.start (h.start.cleaning hc)
  | cleanupBegun base timeout at_ => exact h.begun hstart at_
  | cleanup at_ hstep => exact h.cleanup hstart at_ hstep

theorem of_run (hrun : Run (NodeStep cfg) (newServer K V ρ) es s) : ShutdownInv cfg es s ∧ OwnerInv es s := by
  apply hrun.history (P := fun es s => ShutdownInv cfg es s ∧ OwnerInv es s) ⟨.init, init⟩
  intro es s e s' ⟨hshut, howner⟩ hstep
  exact ⟨hshut.step hstep, howner.step hstep (hstep.moves hshut).1.stays_closed⟩

end OwnerInv

-- Once the startup is over, what it has registered and claimed is where the cleanup looks.
theorem StartInv.settled (h : StartInv es s) (hs : s.Settled) :
    Node.registrations es = s.registration.toList ∧ (es.countP NodeEvent.claims = 0 ∨
      es.countP NodeEvent.claims = 1 ∧ s.lease ≠ none) := by
  have hregs := h.registrations
  have hclm := h.claimed
  unfold Server.Settled at hs
  cases hpc : s.start with
  | registered | claimed =>
    rw [hpc] at hs
    exact absurd rfl hs
  | _ =>
    rw [hpc] at hregs hclm
    exact ⟨hregs, hclm.imp id fun ⟨hone, hheld⟩ =>
      ⟨hone, (hheld.resolve_left fun h => h rfl).2⟩⟩

/-- A cleanup that is over ran once and has given up everything the startup obtained, and nothing that
happens afterwards lets a request in. -/
theorem cleanup_leaves_nothing (hrun : Run (NodeStep cfg) (newServer K V ρ) es s)
    (hfinished : s.cleanup = .finished) :
    (triggers es).length = 1 ∧ es.countP NodeEvent.drains ≤ 1 ∧
    deregistrations es = registrations es ∧ (registrations es).length ≤ 1 ∧
    (es.countP NodeEvent.claims = 0 ∨ es.countP NodeEvent.claims = 1 ∧
      ∃ l, s.lease = some l ∧ (l.released = true ∨ l.epoch.cause ≠ none)) ∧
    s.identity = false ∧
    ∀ es' s', Run (NodeStep cfg) s es' s' → s'.requests.state = .closed := by
  obtain ⟨hshut, howner⟩ := OwnerInv.of_run hrun
  have hclean := howner.finished hfinished
  obtain ⟨hregs, hclm⟩ := howner.start.settled hclean.settled
  have hcls := howner.start.cleaning (by rw [hfinished]; exact nofun)
  refine ⟨?_, howner.drained, ?_, ?_, ?_, hclean.cleared, fun es' s' hrun' => ?_⟩
  · classical
    obtain ⟨base, timeout, htrig⟩ := (ContextInv.of_run hrun).finished hfinished
    rw [htrig]
    rfl
  · rw [hclean.deregistered, hregs]
  · rw [hregs]
    cases s.registration <;> simp
  · refine hclm.imp id fun ⟨hone, hheld⟩ => ⟨hone, ?_⟩
    obtain ⟨l, hl⟩ := Option.ne_none_iff_exists'.mp hheld
    exact ⟨l, hl, .inr (hclean.renounced l hl)⟩
  · have hmore := hrun.append hrun'
    refine (OwnerInv.of_run hmore).2.start.cleaning fun hidle => ?_
    classical
    have htrig := (ContextInv.of_run hmore).idle hidle
    obtain ⟨base, timeout, hone⟩ := (ContextInv.of_run hrun).finished hfinished
    rw [triggers, List.filterMap_append, ← triggers, hone] at htrig
    cases htrig

-- The sample node has registered once and claimed once.
theorem cleanup_leaves_nothing_sample : ∃ (es : List (NodeEvent Unit String Unit))
    (s : Server Unit String Unit), Run (NodeStep sampleConfig) (newServer Unit String Unit) es s ∧
    s.cleanup = .finished ∧ .registered () ∈ es ∧ (triggers es).length = 1 ∧
    deregistrations es = registrations es ∧ s.identity = false := by
  obtain ⟨es, t, t', es', s, hbef, hcall, hafter, hfin, before, after, rfl, -, hreg, -⟩ :=
    sample_run .background
  have hrun := hbef.append (.cons hcall hafter)
  obtain ⟨honce, -, hdereg, -, -, hcleared, -⟩ := cleanup_leaves_nothing hrun hfin
  refine ⟨_, s, hrun, hfin, ?_, honce, hdereg, hcleared⟩
  exact List.mem_append_left _ (List.mem_append_left _ hreg)

end Yola.Node
