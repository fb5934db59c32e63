import Yola.Gateway.Lifecycle

/-!
# Admission, handoff and the waits of a shutdown

Admission opens once, behind the switch to `started`, and a `beginShutdown` closes it for good.  The goroutine of
the shutdown leaves a wait only when what it waits for is over, and nothing that is over comes back: with the
startup handed over and admission closed, no authentication, no worker and no broadcaster is added.
-/

namespace Yola.Gateway.Lifecycle

open Reasoning

/-! ## The drain of the sessions -/

namespace Drain

/-- Sessions that have been taken are drained or with a worker, and a worker exits when there are no more. -/
structure Ok (d : Drain) : Prop where
  covers : ∀ i < d.next, i < d.sessions → i ∈ d.drained ∨ .draining i ∈ d.workers
  exited : .exited ∈ d.workers → d.sessions ≤ d.next
  staffed : d.sessions = 0 ∨ d.workers ≠ []

variable {d d' : Drain}

theorem Ok.start (sessions : Nat) : (Drain.start sessions).Ok where
  covers := nofun
  exited h := absurd (List.eq_of_mem_replicate h) nofun
  staffed := by
    rcases Nat.eq_zero_or_pos sessions with rfl | hpos
    · exact .inl rfl
    · refine .inr (List.ne_nil_of_length_pos ?_)
      change 0 < (List.replicate (min shutdownWorkerCount sessions) Drainer.picking).length
      rw [List.length_replicate]
      exact Nat.lt_min.mpr ⟨by decide, hpos⟩

theorem Ok.step (h : d.Ok) (hstep : d.Step d') : d'.Ok := by
  have hstaffed {t t' : Drainer} {workers : List Drainer} (hmv : Moves t t' d.workers workers) :
      workers ≠ [] := List.ne_nil_of_mem hmv.new_mem
  cases hstep with
  | picks more moves =>
    refine ⟨fun i hi hsess => ?_, fun hexit => ?_, .inr (hstaffed moves)⟩
    · rcases Nat.lt_succ_iff_lt_or_eq.mp hi with hi | rfl
      · exact (h.covers i hi hsess).imp_right fun hw => moves.mem_of_ne hw nofun
      · exact .inr moves.new_mem
    · rcases moves.mem_of_mem hexit with heq | hold
      · cases heq
      · exact Nat.le_succ_of_le (h.exited hold)
  | exits all moves =>
    refine ⟨fun i hi hsess => ?_, fun _ => Nat.le_succ_of_le all, .inr (hstaffed moves)⟩
    have hbefore := h.covers i (Nat.lt_of_lt_of_le hsess all) hsess
    exact hbefore.imp_right fun hw => moves.mem_of_ne hw nofun
  | @drains index workers moves =>
    refine ⟨fun i hi hsess => ?_, fun hexit => ?_, .inr (hstaffed moves)⟩
    · rcases h.covers i hi hsess with hdrn | hw
      · exact .inl (List.mem_append_left _ hdrn)
      · by_cases hindex : i = index
        · exact .inl (List.mem_append_right _ (List.mem_singleton.mpr hindex))
        · exact .inr (moves.mem_of_ne hw fun heq => hindex (Drainer.draining.inj heq))
    · rcases moves.mem_of_mem hexit with heq | hold
      · cases heq
      · exact h.exited hold

theorem Ok.complete (h : d.Ok) (hdone : d.Done) : ∀ i < d.sessions, i ∈ d.drained := by
  intro i hi
  have hnext : d.sessions ≤ d.next := by
    rcases h.staffed with hzero | hne
    · omega
    · obtain ⟨w, hw⟩ := List.exists_mem_of_ne_nil _ hne
      rw [hdone w hw] at hw
      exact h.exited hw
  rcases h.covers i (Nat.lt_of_lt_of_le hi hnext) hi with hdrn | hw
  · exact hdrn
  · cases hdone _ hw

theorem Done.no_step (h : d.Done) : ¬ d.Step d' := by
  intro hstep
  cases hstep with
  | picks _ moves | exits _ moves | drains moves => cases h _ moves.mem

end Drain

variable {n : Nat} {s s' : Server}

/-! ## Admission -/

structure Admission (s : Server) : Prop where
  stopping : 0 < s.begun → s.phase = .stopping ∨ s.phase = .stopped
  unopened : s.phase = .new ∨ s.phase = .starting → s.opened = 0
  opening : s.lock = .opening →
    s.opened = 0 ∧ s.begun = 0 ∧ s.switched = true ∧ s.phase = .started
  spawning : s.lock = .spawning → s.begun = 0
  closing : ∀ starter, s.lock = .closing starter → 0 < s.begun
  launching : ∀ starter, s.lock = .launching starter → 0 < s.begun ∧ s.accepting = false
  owned : s.owner ≠ .absent → 0 < s.begun ∧ s.accepting = false
  once : s.opened ≤ 1
  accepting : s.accepting = true →
    s.switched = true ∧ (s.begun = 0 ∨ s.begun = 1 ∧ ∃ starter, s.lock = .closing starter)
  closed : s.opened = 1 → s.accepting = false → 0 < s.begun

namespace Admission

theorem new : Admission .new where
  stopping := nofun
  unopened _ := rfl
  opening := nofun
  spawning := nofun
  closing := nofun
  launching := nofun
  owned h := absurd rfl h
  once := Nat.zero_le 1
  accepting := nofun
  closed := nofun

variable (h : Admission s)

include h

theorem marks (hlock : s.lock = .free) (cancelled own : Bool) (starter : Starter) : Admission { s with
      phase := if s.phase = .stopped then .stopped else .stopping
      cancelled := cancelled, lock := .closing own, starter := starter, begun := s.begun + 1 } :=
  { h with
    stopping := fun _ => by
      dsimp only
      split
      · exact .inr rfl
      · exact .inl rfl
    unopened := by
      dsimp only
      split <;> rintro (hp | hp) <;> cases hp
    opening := nofun
    spawning := nofun
    closing := fun _ _ => Nat.succ_pos _
    launching := nofun
    owned := fun hne => ⟨Nat.succ_pos _, (h.owned hne).2⟩
    accepting := fun hacc => by
      obtain ⟨hswitched, hzero | ⟨-, b, hb⟩⟩ := h.accepting hacc
      · exact ⟨hswitched, .inr ⟨congrArg (· + 1) hzero, own, rfl⟩⟩
      · cases hlock.symm.trans hb
    closed := fun _ _ => Nat.succ_pos _ }

theorem begun_eq_zero (hph : s.phase = .new ∨ s.phase = .starting) : s.begun = 0 := by
  rcases Nat.eq_zero_or_pos s.begun with hzero | hpos
  · exact hzero
  · rcases hph with hp | hp <;> rcases h.stopping hpos with hq | hq <;> cases hp.symm.trans hq

theorem start (hstep : s.StartStep n s') : Admission s' := by
  cases hstep with
  | begins _ _ new =>
    have hbegun := h.begun_eq_zero (.inl new)
    exact { h with
      stopping := fun hpos => absurd hbegun (Nat.ne_of_gt hpos)
      unopened := fun _ => h.unopened (.inl new)
      opening := fun hlock => absurd (new.symm.trans (h.opening hlock).2.2.2) nofun }
  | switches _ lock starting =>
    have hbegun := h.begun_eq_zero (.inr starting)
    have hopened := h.unopened (.inr starting)
    exact { h with
      stopping := fun hpos => absurd hbegun (Nat.ne_of_gt hpos)
      unopened := nofun
      opening := fun _ => ⟨hopened, hbegun, rfl, rfl⟩
      spawning := nofun
      closing := nofun
      launching := nofun
      accepting := fun _ => ⟨rfl, .inl hbegun⟩
      closed := fun hone => absurd (hopened.symm.trans hone) nofun }
  | opens lock =>
    obtain ⟨hopened, hbegun, hswitched, hph⟩ := h.opening lock
    exact { h with
      unopened := by rintro (hp | hp) <;> cases hph.symm.trans hp
      opening := nofun
      spawning := fun _ => hbegun
      closing := nofun
      launching := nofun
      owned := fun hne => absurd hbegun (Nat.ne_of_gt (h.owned hne).1)
      once := Nat.le_of_eq (congrArg (· + 1) hopened)
      accepting := fun _ => ⟨hswitched, .inl hbegun⟩
      closed := nofun }
  | spawns lock =>
    have hbegun := h.spawning lock
    exact { h with
      opening := nofun
      spawning := nofun
      closing := nofun
      launching := nofun
      accepting := fun hacc => ⟨(h.accepting hacc).1, .inl hbegun⟩ }
  | shutsDown _ lock => exact h.marks lock true true .inShutdown
  | _ => exact { h with }

theorem unlocks {own : Bool} (hlock : s.lock = .launching own) (launched : Bool)
    (starter : Starter) (owner : Owner) :
    Admission { s with lock := .free, launched := launched, starter := starter, owner := owner } :=
  { h with
    opening := nofun
    spawning := nofun
    closing := nofun
    launching := nofun
    owned := fun _ => h.launching own hlock
    accepting := fun htrue => absurd ((h.launching own hlock).2.symm.trans htrue) nofun
    closed := fun _ _ => (h.launching own hlock).1 }

theorem beginShutdown (hstep : s.BeginStep s') : Admission s' := by
  cases hstep with
  | marks lock => exact h.marks lock _ false s.starter
  | closes lock =>
    have hpos := h.closing _ lock
    exact { h with
      opening := nofun
      spawning := nofun
      closing := nofun
      launching := fun _ _ => ⟨hpos, rfl⟩
      owned := fun hne => ⟨hpos, rfl⟩
      accepting := nofun
      closed := fun _ _ => hpos }
  | launches lock | launchesOwn lock | again lock | againOwn lock => exact h.unlocks lock _ _ _

theorem step (hstep : Step n s () s') : Admission s' := by
  cases hstep with
  | start hstep => exact h.start hstep
  | beginShutdown hstep => exact h.beginShutdown hstep
  | early hstep =>
    cases hstep <;> exact { h with owned := fun _ => h.owned (by rw [‹s.owner = _›]; nofun) }
  | shutdown hstep =>
    cases hstep with
    | quiesces at_ =>
      obtain ⟨hpos, -⟩ := h.owned (by rw [at_]; nofun)
      exact { h with
        launching := fun _ _ => ⟨hpos, rfl⟩
        owned := fun _ => ⟨hpos, rfl⟩
        accepting := nofun
        closed := fun _ _ => hpos }
    | finishes at_ lock =>
      have howned := h.owned (by rw [at_]; nofun)
      exact { h with
        stopping := fun _ => .inr rfl
        unopened := nofun
        opening := fun hlock => absurd (lock.symm.trans hlock) nofun
        owned := fun _ => howned }
    | _ => exact { h with owned := fun _ => h.owned (by rw [‹s.owner = _›]; nofun) }
  | other hstep => cases hstep <;> exact { h with }

theorem stays_closed (hcls : s.accepting = false) (hpos : 0 < s.begun)
    (hstep : Step n s () s') : s'.accepting = false ∧ 0 < s'.begun := by
  cases hstep with
  | start hstep =>
    cases hstep with
    | opens lock => exact absurd (h.opening lock).2.1 (Nat.ne_of_gt hpos)
    | shutsDown => exact ⟨hcls, Nat.succ_pos _⟩
    | _ => exact ⟨hcls, hpos⟩
  | beginShutdown hstep =>
    cases hstep with
    | marks => exact ⟨hcls, Nat.succ_pos _⟩
    | closes => exact ⟨rfl, hpos⟩
    | _ => exact ⟨hcls, hpos⟩
  | early hstep | other hstep => cases hstep <;> exact ⟨hcls, hpos⟩
  | shutdown hstep =>
    cases hstep with
    | quiesces => exact ⟨rfl, hpos⟩
    | _ => exact ⟨hcls, hpos⟩

end Admission

/-! ## The handoff of the startup -/

namespace Starter

/-- The startup has been handed over, or will be next. -/
def late : Starter → Bool
  | .running | .leaving | .closing | .inShutdown | .joining | .returned => true
  | _ => false

def Within (n : Nat) : Starter → Prop
  | .checking index => index ≤ n
  | .beforeStart index | .recording index _ => index < n
  | _ => True

end Starter

structure Handoff (n : Nat) (s : Server) : Prop where
  absent : s.startup = none → s.starter = .absent
  handed : s.startup = some true → s.starter.late = true
  holding : s.lock = .opening ∨ s.lock = .spawning → s.starter = .holding
  shutting : s.lock = .closing true ∨ s.lock = .launching true → s.starter = .inShutdown
  within : s.starter.Within n
  prepared : s.prepared ≤ n
  stopped : s.stoppedTransports ≤ n

namespace Handoff

theorem out {lock a b : Section} {p : Prop} (ha : lock ≠ a) (hb : lock ≠ b) (h : lock = a ∨ lock = b) : p :=
  (h.elim ha hb).elim

theorem new : Handoff n .new where
  absent _ := rfl
  handed := nofun
  holding := out nofun nofun
  shutting := out nofun nofun
  within := trivial
  prepared := Nat.zero_le n
  stopped := Nat.zero_le n

variable (h : Handoff n s)

include h

theorem moves {starter starter' : Starter} {prepared : Nat} {broadcaster : Broadcaster}
    {worker : Option Worker} (hat : s.starter = starter)
    (hout : starter ≠ .absent ∧ starter ≠ .holding ∧ starter ≠ .inShutdown)
    (hlate : starter.late = true → starter'.late = true) (hwith : starter'.Within n)
    (hprep : prepared ≤ n) : Handoff n { s with
      starter := starter', prepared := prepared, broadcaster := broadcaster, grpcWorker := worker } :=
  { h with
    absent := fun hnone => absurd (hat.symm.trans (h.absent hnone)) hout.1
    handed := fun hdone => hlate (hat ▸ h.handed hdone)
    holding := fun hlock => absurd (hat.symm.trans (h.holding hlock)) hout.2.1
    shutting := fun hlock => absurd (hat.symm.trans (h.shutting hlock)) hout.2.2
    within := hwith
    prepared := hprep }

theorem pending {starter : Starter} (hat : s.starter = starter) (hlate : starter.late = false)
    (hne : starter ≠ .absent) : s.startup ≠ none ∧ s.startup ≠ some true := by
  subst hat
  refine ⟨fun hnone => hne (h.absent hnone), fun hdone => ?_⟩
  cases hlate.symm.trans (h.handed hdone)

theorem start (hstep : s.StartStep n s') : Handoff n s' := by
  cases hstep with
  | begins at_ lock =>
    exact { h with
      absent := nofun
      handed := nofun
      holding := out (by rw [lock]; nofun) (by rw [lock]; nofun)
      shutting := out (by rw [lock]; nofun) (by rw [lock]; nofun)
      within := trivial }
  | validated at_ | resolved at_ | pinged at_ | unprepared at_ | alreadyBroadcasts at_ | aborted at_
  | allPrepared at_ | serves at_ | accepts at_ | grpcFailed at_ | expired at_ | refused at_ =>
    exact h.moves at_ ⟨nofun, nofun, nofun⟩ nofun trivial h.prepared
  | broadcasts at_ =>
    exact h.moves at_ ⟨nofun, nofun, nofun⟩ nofun (Nat.zero_le n) h.prepared
  | ends at_ | joins at_ =>
    exact h.moves at_ ⟨nofun, nofun, nofun⟩ (fun _ => rfl) trivial h.prepared
  | prepares at_ more =>
    exact h.moves at_ ⟨nofun, nofun, nofun⟩ nofun more h.prepared
  | prepared ok at_ =>
    have hwithin := h.within
    rw [at_] at hwithin
    exact h.moves at_ ⟨nofun, nofun, nofun⟩ nofun hwithin h.prepared
  | records at_ =>
    have hwithin := h.within
    rw [at_] at hwithin
    exact h.moves at_ ⟨nofun, nofun, nofun⟩ nofun hwithin hwithin
  | recordsFailed at_ =>
    have hwithin := h.within
    rw [at_] at hwithin
    exact h.moves at_ ⟨nofun, nofun, nofun⟩ nofun trivial hwithin
  | switches at_ =>
    obtain ⟨hsome, hopen⟩ := h.pending at_ rfl nofun
    exact { h with
      absent := fun hnone => absurd hnone hsome
      handed := fun hdone => absurd hdone hopen
      holding := fun _ => rfl
      shutting := out nofun nofun
      within := trivial }
  | opens lock =>
    exact { h with
      holding := fun _ => h.holding (.inl lock)
      shutting := out nofun nofun }
  | spawns lock =>
    obtain ⟨hsome, hopen⟩ := h.pending (h.holding (.inr lock)) rfl nofun
    exact { h with
      absent := fun hnone => absurd hnone hsome
      handed := fun hdone => absurd hdone hopen
      holding := out nofun nofun
      shutting := out nofun nofun
      within := trivial }
  | hands at_ | leaves at_ =>
    exact { h with
      absent := nofun
      handed := fun _ => rfl
      holding := fun hlock => absurd (at_.symm.trans (h.holding hlock)) nofun
      shutting := fun hlock => absurd (at_.symm.trans (h.shutting hlock)) nofun
      within := trivial }
  | shutsDown at_ =>
    exact { h with
      absent := fun hnone => absurd (at_.symm.trans (h.absent hnone)) nofun
      handed := fun _ => rfl
      holding := out nofun nofun
      shutting := fun _ => rfl
      within := trivial }

theorem beginShutdown (hstep : s.BeginStep s') : Handoff n s' := by
  cases hstep with
  | marks | launches | again =>
    exact { h with
      holding := out nofun nofun
      shutting := out nofun nofun }
  | closes lock =>
    exact { h with
      holding := out nofun nofun
      shutting := by
        rintro (hlock | hlock)
        · cases hlock
        · exact h.shutting (.inl (lock.trans (congrArg _ (Section.launching.inj hlock)))) }
  | launchesOwn lock | againOwn lock =>
    have hat := h.shutting (.inr lock)
    exact { h with
      absent := fun hnone => absurd (hat.symm.trans (h.absent hnone)) nofun
      handed := fun _ => rfl
      holding := out nofun nofun
      shutting := out nofun nofun
      within := trivial }

theorem step (hstep : Step n s () s') : Handoff n s' := by
  cases hstep with
  | start hstep => exact h.start hstep
  | beginShutdown hstep => exact h.beginShutdown hstep
  | early hstep =>
    cases hstep with
    | reads => exact { h with stopped := h.prepared }
    | _ => exact { h with }
  | shutdown hstep | other hstep => cases hstep <;> exact { h with }

end Handoff

/-! ## What the goroutine has waited for -/

def Settled (s : Server) : Prop := s.startup = some true ∨ s.startup = none ∧ 0 < s.begun

theorem Settled.mono (h : Settled s) (hstart : s'.startup = s.startup) (hbegun : s.begun ≤ s'.begun) :
    Settled s' := by
  rcases h with hdone | ⟨hnone, hpos⟩
  · exact .inl (hstart.trans hdone)
  · exact .inr ⟨hstart.trans hnone, Nat.lt_of_lt_of_le hpos hbegun⟩

/-- What the goroutine of the shutdown waits for. -/
inductive Milestone where
  | settled
  | authenticated
  | silent
  | drained
  | finished

namespace Milestone

def stage : Milestone → Nat
  | .settled => 2
  | .authenticated => 3
  | .silent => 4
  | .drained => 5
  | .finished => 6

def Holds (s : Server) : Milestone → Prop
  | .settled => Settled s
  | .authenticated => s.authentications = 0
  | .silent => s.broadcaster.active = false
  | .drained => ∃ d, s.drain = some d ∧ d.Done
  | .finished => s.WorkersFinished

theorem two_le_stage (m : Milestone) : 2 ≤ m.stage := by cases m <;> decide

theorem eq_of_stage {m m' : Milestone} (h : m.stage = m'.stage) : m = m' := by
  cases m <;> cases m' <;> first | rfl | exact absurd h (by decide)

end Milestone

def Owner.stage : Owner → Nat
  | .absent => 0
  | .waitingStartup | .readingPrepared | .earlyBroadcaster | .earlyAwaiting | .earlyStops _
  | .earlyStop _ _ | .awaitingStartup => 1
  | .quiescing | .awaitingAuthentications | .stoppingBroadcaster | .awaitingBroadcaster
  | .takingSessions | .draining | .stops _ | .stop _ _ | .stoppingGRPC | .waitingAuthentications => 2
  | .cancellingBroadcaster | .waitingBroadcaster => 3
  | .waitingDrain => 4
  | .waitingWorkers => 5
  | .joining | .joiningEarly | .finishing | .closing | .done => 6

def Server.watched (s : Server) : Nat × Broadcaster × Option Drain × Option Worker × List Worker :=
  (s.authentications, s.broadcaster, s.drain, s.grpcWorker, s.clientWorkers)

def Progress (s : Server) : Prop := ∀ m : Milestone, m.stage ≤ s.owner.stage → m.Holds s

namespace Progress

theorem stays (h : Progress s) (hst : s'.owner.stage = s.owner.stage)
    (hholds : ∀ m : Milestone, m.Holds s → m.Holds s') : Progress s' := by
  intro m hm
  rw [hst] at hm
  exact hholds m (h m hm)

theorem reaches (h : Progress s) (m : Milestone) (hbef : s.owner.stage + 1 = m.stage)
    (hafter : s'.owner.stage = m.stage) (hnew : m.Holds s')
    (hholds : ∀ m : Milestone, m.Holds s → m.Holds s') : Progress s' := by
  intro m' hm'
  rcases Nat.lt_or_eq_of_le (hafter ▸ hm') with hlt | heq
  · exact hholds m' (h m' (by omega))
  · rw [Milestone.eq_of_stage heq]
    exact hnew

/-- Nothing that the goroutine waits for has changed but, at most, the handoff of the startup. -/
theorem holds_congr (hset : Settled s → Settled s') (hwatched : s'.watched = s.watched) (m : Milestone)
    (hm : m.Holds s) : m.Holds s' := by
  simp only [Server.watched, Prod.mk.injEq] at hwatched
  obtain ⟨hauthentications, hbc, hdrain, hgrpc, hclients⟩ := hwatched
  cases m with
  | settled => exact hset hm
  | authenticated => exact hauthentications.trans hm
  | silent => exact (congrArg _ hbc).trans hm
  | drained =>
    obtain ⟨d, hd, hdone⟩ := hm
    exact ⟨d, hdrain.trans hd, hdone⟩
  | finished => exact ⟨hgrpc ▸ hm.1, hclients ▸ hm.2⟩

theorem holds_cancel (hact : s.broadcaster.active = true) (owner : Owner) (m : Milestone) (hm : m.Holds s) :
    m.Holds { s with owner := owner, broadcaster := .cancelled } := by
  cases m with
  | silent => cases hact.symm.trans hm
  | settled | authenticated | drained | finished => exact hm

variable (h : Progress s)

include h

theorem start (hadm : Admission s) (hoff : Handoff n s) (hstep : s.StartStep n s') : Progress s' := by
  have hset (m : Milestone) (hm : m.stage ≤ s.owner.stage) : Settled s :=
    h .settled (Nat.le_trans m.two_le_stage hm)
  have hnot {m : Milestone} (hm : m.stage ≤ s.owner.stage) {starter : Starter} (hat : s.starter = starter)
      (hlate : starter.late = false) : starter = .absent := by
    subst hat
    rcases hset m hm with hdone | ⟨hnone, -⟩
    · cases hlate.symm.trans (hoff.handed hdone)
    · exact hoff.absent hnone
  cases hstep with
  | begins at_ _ new =>
    intro m hm
    have hzero := hadm.begun_eq_zero (.inl new)
    rcases hset m hm with hdone | ⟨-, hpos⟩
    · have hlate := hoff.handed hdone
      rw [at_] at hlate
      cases hlate
    · omega
  | broadcasts at_ | serves at_ => exact fun m hm => absurd (hnot hm at_ rfl) nofun
  | spawns lock => exact fun m hm => absurd (hnot hm (hoff.holding (.inr lock)) rfl) nofun
  | hands | leaves => exact h.stays rfl (holds_congr (fun _ => .inl rfl) rfl)
  | shutsDown =>
    exact h.stays rfl (holds_congr (fun hs => hs.mono rfl (Nat.le_succ _)) rfl)
  | _ => exact h.stays rfl (holds_congr id rfl)

theorem beginShutdown (hadm : Admission s) (hstep : s.BeginStep s') : Progress s' := by
  -- Without a startup the goroutine has nothing to wait for first.
  have hfst (hpos : 0 < s.begun) (m : Milestone) (hm : m.stage ≤ (Server.firstWait s.startup).stage) :
      s.startup = none ∧ m = .settled := by
    cases hstart : s.startup with
    | none =>
      rw [hstart] at hm
      exact ⟨rfl, Milestone.eq_of_stage (Nat.le_antisymm hm m.two_le_stage)⟩
    | some =>
      rw [hstart] at hm
      have hle : 2 ≤ 1 := Nat.le_trans m.two_le_stage hm
      omega
  cases hstep with
  | marks =>
    exact h.stays rfl (holds_congr (fun hs => hs.mono rfl (Nat.le_succ _)) rfl)
  | closes | again | againOwn => exact h.stays rfl (holds_congr id rfl)
  | launches lock | launchesOwn lock =>
    intro m hm
    have hpos := (hadm.launching _ lock).1
    obtain ⟨hnone, rfl⟩ := hfst hpos m hm
    exact .inr ⟨hnone, hpos⟩

theorem early (hstep : s.EarlyStep s') : Progress s' := by
  cases hstep with
  | started at_ done | startedLate at_ done =>
    exact h.reaches .settled (by rw [at_]; rfl) rfl (.inl done) (holds_congr id rfl)
  | cancels at_ active => exact h.stays (by rw [at_]; rfl) (holds_cancel active _)
  | _ => exact h.stays (by rw [‹s.owner = _›]; rfl) (holds_congr id rfl)

theorem shutdown (hstep : s.ShutdownStep n s') : Progress s' := by
  cases hstep with
  | cancels at_ active | cancelsAgain at_ active => exact h.stays (by rw [at_]; rfl) (holds_cancel active _)
  | takes sessions at_ =>
    intro m hm
    obtain rfl : m = .settled := Milestone.eq_of_stage (Nat.le_antisymm hm m.two_le_stage)
    exact h .settled (by rw [at_]; exact hm)
  | noAuthentications at_ wait =>
    exact h.reaches .authenticated (by rw [at_]; rfl) rfl wait (holds_congr id rfl)
  | inactiveAgain at_ inactive =>
    exact h.reaches .silent (by rw [at_]; rfl) rfl inactive (holds_congr id rfl)
  | broadcasterDone at_ done =>
    exact h.reaches .silent (by rw [at_]; rfl) rfl (congrArg Broadcaster.active done) (holds_congr id rfl)
  | drainDone at_ drain done =>
    exact h.reaches .drained (by rw [at_]; rfl) rfl ⟨_, drain, done⟩ (holds_congr id rfl)
  | workersDone at_ wait =>
    exact h.reaches .finished (by rw [at_]; rfl) rfl wait (holds_congr id rfl)
  | joins | joinsEarly => exact h.stays rfl (holds_congr id rfl)
  | _ => exact h.stays (by rw [‹s.owner = _›]; rfl) (holds_congr id rfl)

theorem other (hadm : Admission s) (hstep : s.OtherStep s') : Progress s' := by
  cases hstep with
  | expires | stopReturns => exact h.stays rfl (holds_congr id rfl)
  | admits accepting =>
    intro m hm
    by_cases habs : s.owner = .absent
    · have hle : 2 ≤ s.owner.stage := Nat.le_trans m.two_le_stage hm
      rw [habs] at hle
      exact absurd hle (by decide)
    · cases accepting.symm.trans (hadm.owned habs).2
  | authenticates more =>
    refine h.stays rfl fun m hm => ?_
    cases m with
    | authenticated => cases more.symm.trans hm
    | settled | silent | drained | finished => exact hm
  | broadcasterEnds =>
    refine h.stays rfl fun m hm => ?_
    cases m with
    | silent => rfl
    | settled | authenticated | drained | finished => exact hm
  | grpcEnds running =>
    refine h.stays rfl fun m hm => ?_
    cases m with
    | finished => exact absurd running hm.1
    | settled | authenticated | silent | drained => exact hm
  | clientEnds moves =>
    refine h.stays rfl fun m hm => ?_
    cases m with
    | finished => cases hm.2 _ moves.mem
    | settled | authenticated | silent | drained => exact hm
  | drains drain step =>
    refine h.stays rfl fun m hm => ?_
    cases m with
    | drained =>
      obtain ⟨d, hd, hdone⟩ := hm
      cases drain.symm.trans hd
      exact absurd step hdone.no_step
    | settled | authenticated | silent | finished => exact hm

theorem step (hadm : Admission s) (hoff : Handoff n s) (hstep : Step n s () s') : Progress s' := by
  cases hstep with
  | start hstep => exact h.start hadm hoff hstep
  | beginShutdown hstep => exact h.beginShutdown hadm hstep
  | early hstep => exact h.early hstep
  | shutdown hstep => exact h.shutdown hstep
  | other hstep => exact h.other hadm hstep

end Progress

end Yola.Gateway.Lifecycle
