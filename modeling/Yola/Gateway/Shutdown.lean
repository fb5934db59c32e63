import Mathlib.Data.List.Nodup
import Yola.Gateway.Handoff

/-!
# The shutdown of a gateway

The two stops of client transports call `Stop` in an order fixed by what had been prepared when the first of them
began, and the results that come late are joined.  With what the goroutine has waited for, the shutdown is
complete when `shutdownDone` is closed.
-/

namespace Yola.Gateway.Lifecycle

open Reasoning

variable {n : Nat} {s s' : Server}

/-! ## The calls of `Stop` -/

/-- The stops that have been decided on: none, those of what had been prepared, or all. -/
inductive Plan where
  | none
  | first
  | both

namespace Owner

def plan : Owner → Plan
  | .absent | .waitingStartup | .readingPrepared | .earlyBroadcaster | .earlyAwaiting => .none
  | .earlyStops _ | .earlyStop _ _ | .awaitingStartup | .quiescing | .awaitingAuthentications
  | .stoppingBroadcaster | .awaitingBroadcaster | .takingSessions | .draining => .first
  | _ => .both

def toCall : Owner → List Nat
  | .earlyStops rest | .earlyStop _ rest | .stops rest | .stop _ rest => rest
  | _ => []

def current : Owner → List Nat
  | .earlyStop index _ | .stop index _ => [index]
  | _ => []

/-- It has not read how many transports were prepared. -/
def unread : Owner → Bool
  | .absent | .waitingStartup | .readingPrepared => true
  | _ => false

def joinedLate : Owner → Bool
  | .joiningEarly | .finishing | .closing | .done => true
  | _ => false

def joinedEarly : Owner → Bool
  | .finishing | .closing | .done => true
  | _ => false

end Owner

def Server.planned (n : Nat) (s : Server) : Plan → List Nat
  | .none => []
  | .first => order 0 s.stoppedTransports true
  | .both => order 0 s.stoppedTransports true ++ order s.stoppedTransports n (!s.serving)

/-- What has been called and what is to be called is what is planned, and what has been called has returned or is
waited for. -/
structure Stops (n : Nat) (s : Server) : Prop where
  plan : s.called ++ s.owner.toCall = s.planned n s.owner.plan
  unread : s.owner.unread = true → s.stoppedTransports = 0
  joined : ∀ i ∈ s.called, i ∈ s.returned ∨ i ∈ s.owner.current ∨ i ∈ s.early ∨ i ∈ s.late
  late : s.owner.joinedLate = true → s.late = []
  early : s.owner.joinedEarly = true → s.early = []

namespace Stops

variable {owner owner' : Owner} {lock : Section} {starter : Starter} {launched : Bool}

theorem new : Stops n .new where
  plan := rfl
  unread _ := rfl
  joined := nofun
  late _ := rfl
  early _ := rfl

theorem moves (h : Stops n s) {phase : Phase}
    {accepting : Bool} {broadcaster : Broadcaster} {drain : Option Drain} {closes : Nat}
    (hat : s.owner = owner) (hplan : owner'.plan = owner.plan) (hcall : owner'.toCall = owner.toCall)
    (hcur : owner'.current = owner.current) (hunread : owner'.unread = true → owner.unread = true)
    (hlate : owner'.joinedLate = true → s.late = []) (hearly : owner'.joinedEarly = true → s.early = []) :
    Stops n { s with
      owner := owner', phase := phase, lock := lock, starter := starter, launched := launched
      accepting := accepting, broadcaster := broadcaster, drain := drain, closes := closes } := by
  subst hat
  refine ⟨?_, fun hu => h.unread (hunread hu), ?_, hlate, hearly⟩
  · change s.called ++ owner'.toCall = s.planned n owner'.plan
    rw [hcall, hplan]
    exact h.plan
  · change ∀ i ∈ s.called, i ∈ s.returned ∨ i ∈ owner'.current ∨ _
    rw [hcur]
    exact h.joined

section Loop

variable {index : Nat} {rest : List Nat} {owner' : Owner} (h : Stops n s)
  (hplan : owner'.plan = s.owner.plan)
  (hflags : owner'.unread = false ∧ owner'.joinedLate = false ∧ owner'.joinedEarly = false)

include h hplan hflags

theorem calls (hcall : s.owner.toCall = index :: rest) (hcur : s.owner.current = [])
    (hcall' : owner'.toCall = rest) (hcur' : owner'.current = [index]) :
    Stops n { s with owner := owner', called := s.called ++ [index] } := by
  obtain ⟨hunread, hlate, hearly⟩ := hflags
  refine ⟨?_, fun hu => absurd (hunread.symm.trans hu) nofun, fun i hi => ?_,
    fun hl => absurd (hlate.symm.trans hl) nofun, fun he => absurd (hearly.symm.trans he) nofun⟩
  · have hold := h.plan
    change s.called ++ [index] ++ owner'.toCall = s.planned n owner'.plan
    rw [hcall', hplan, ← hold, hcall, List.append_assoc]
    rfl
  · rcases List.mem_append.mp hi with hi | hi
    · rcases h.joined i hi with hr | hc | hlists
      · exact .inl hr
      · rw [hcur] at hc
        cases hc
      · exact .inr (.inr hlists)
    · refine .inr (.inl ?_)
      change i ∈ owner'.current
      rw [hcur']
      exact hi

theorem leavesCall {early late : List Nat} (hcur : s.owner.current = [index])
    (hcall : owner'.toCall = s.owner.toCall)
    (hres : index ∈ s.returned ∨ index ∈ early ∨ index ∈ late)
    (hkept : ∀ i, i ∈ s.early ∨ i ∈ s.late → i ∈ early ∨ i ∈ late) :
    Stops n { s with owner := owner', early := early, late := late } := by
  obtain ⟨hunread, hlate, hearly⟩ := hflags
  refine ⟨?_, fun hu => absurd (hunread.symm.trans hu) nofun, fun i hi => ?_,
    fun hl => absurd (hlate.symm.trans hl) nofun, fun he => absurd (hearly.symm.trans he) nofun⟩
  · change s.called ++ owner'.toCall = s.planned n owner'.plan
    rw [hcall, hplan]
    exact h.plan
  · rcases h.joined i hi with hr | hc | hlists
    · exact .inl hr
    · rw [hcur] at hc
      rw [List.mem_singleton.mp hc]
      exact hres.imp_right .inr
    · exact .inr (.inr (hkept i hlists))

end Loop

variable (h : Stops n s)

include h

theorem joins {early late : List Nat}
    (hkept : ∀ i, i ∈ s.early ∨ i ∈ s.late → i ∈ s.returned ∨ i ∈ early ∨ i ∈ late)
    (hlate : s.owner.joinedLate = true → late = []) (hearly : s.owner.joinedEarly = true → early = []) :
    Stops n { s with early := early, late := late } := by
  refine { h with joined := fun i hi => ?_, late := hlate, early := hearly }
  rcases h.joined i hi with hr | hc | hlists
  · exact .inl hr
  · exact .inr (.inl hc)
  · exact (hkept i hlists).imp_right .inr

theorem called_nil (hplan : s.owner.plan = .none) (hcall : s.owner.toCall = []) : s.called = [] := by
  have hold := h.plan
  rw [hplan, hcall, List.append_nil] at hold
  exact hold

theorem skips (hat : s.owner = owner) (hunread : owner.unread = true) (hplan : owner.plan = .none)
    (hcall : owner.toCall = []) (hplan' : owner'.plan = .first) (hcall' : owner'.toCall = [])
    (hlate : owner'.joinedLate = false) (hearly : owner'.joinedEarly = false) :
    Stops n { s with owner := owner', lock := lock, starter := starter, launched := launched } := by
  subst hat
  have hnil := h.called_nil hplan hcall
  have hzero := h.unread hunread
  refine ⟨?_, fun _ => hzero, fun i hi => ?_, fun hl => absurd (hlate.symm.trans hl) nofun,
    fun he => absurd (hearly.symm.trans he) nofun⟩
  · simp only [hnil, hcall', hplan', Server.planned, hzero]
    rfl
  · exact absurd (hnil ▸ hi) List.not_mem_nil

theorem beginShutdown (hlaun : s.launched = false → s.owner = .absent)
    (hstep : s.BeginStep s') : Stops n s' := by
  cases hstep with
  | launches _ first | launchesOwn _ first =>
    have hat := hlaun first
    have hfst : Server.firstWait s.startup = .quiescing ∨ Server.firstWait s.startup = .waitingStartup := by
      cases s.startup
      · exact .inl rfl
      · exact .inr rfl
    rcases hfst with hwait | hwait <;> rw [hwait]
    · exact h.skips hat rfl rfl rfl rfl rfl rfl rfl
    · exact h.moves hat rfl rfl rfl (fun _ => rfl) nofun nofun
  | _ => exact { h with }

theorem earlyStep (hstep : s.EarlyStep s') : Stops n s' := by
  cases hstep with
  | started at_ =>
    exact h.skips at_ rfl rfl rfl rfl rfl rfl rfl
  | timesOut at_ => exact h.moves at_ rfl rfl rfl (fun _ => rfl) nofun nofun
  | cancels at_ | stopped at_ | startedLate at_ =>
    exact h.moves at_ rfl rfl rfl nofun nofun nofun
  | reads at_ =>
    have hnil := h.called_nil (by rw [at_]; rfl) (by rw [at_]; rfl)
    refine ⟨?_, nofun, fun i hi => ?_, nofun, nofun⟩
    · change s.called ++ [] = []
      rw [hnil, List.append_nil]
    · change i ∈ s.called at hi
      rw [hnil] at hi
      cases hi
  | inactive at_ | awaited at_ =>
    have hnil := h.called_nil (by rw [at_]; rfl) (by rw [at_]; rfl)
    refine ⟨?_, nofun, fun i hi => ?_, nofun, nofun⟩
    · change s.called ++ Server.order 0 s.stoppedTransports true = _
      rw [hnil]
      rfl
    · change i ∈ s.called at hi
      rw [hnil] at hi
      cases hi
  | calls at_ =>
    exact h.calls (by rw [at_]; rfl) ⟨rfl, rfl, rfl⟩ (by rw [at_]; rfl) (by rw [at_]; rfl) rfl rfl
  | returns at_ result =>
    exact h.leavesCall (by rw [at_]; rfl) ⟨rfl, rfl, rfl⟩ (by rw [at_]; rfl) (by rw [at_]; rfl) (.inl result)
      fun _ => id
  | leaves at_ =>
    exact h.leavesCall (by rw [at_]; rfl) ⟨rfl, rfl, rfl⟩ (by rw [at_]; rfl) (by rw [at_]; rfl)
      (.inr (.inl (List.mem_append_right _ List.mem_cons_self))) fun _ => .imp_left (List.mem_append_left _)

theorem shutdownStep (hstep : s.ShutdownStep n s') : Stops n s' := by
  cases hstep with
  | drained at_ =>
    have hold := h.plan
    refine ⟨?_, nofun, fun i hi => ?_, nofun, nofun⟩
    · rw [at_] at hold
      change s.called ++ [] = Server.order 0 s.stoppedTransports true at hold
      rw [List.append_nil] at hold
      change s.called ++ _ = Server.order 0 s.stoppedTransports true ++ _
      rw [hold]
      rfl
    · have hjoined := h.joined i hi
      rw [at_] at hjoined
      exact hjoined
  | calls at_ =>
    exact h.calls (by rw [at_]; rfl) ⟨rfl, rfl, rfl⟩ (by rw [at_]; rfl) (by rw [at_]; rfl) rfl rfl
  | returns at_ result =>
    exact h.leavesCall (by rw [at_]; rfl) ⟨rfl, rfl, rfl⟩ (by rw [at_]; rfl) (by rw [at_]; rfl) (.inl result)
      fun _ => id
  | leaves at_ =>
    exact h.leavesCall (by rw [at_]; rfl) ⟨rfl, rfl, rfl⟩ (by rw [at_]; rfl) (by rw [at_]; rfl)
      (.inr (.inr (List.mem_append_right _ List.mem_cons_self))) fun _ => .imp_right (List.mem_append_left _)
  | joins at_ late result =>
    refine h.joins (fun i hi => ?_) (fun hl => absurd (late.symm.trans (h.late hl)) nofun) h.early
    rw [late, List.mem_cons] at hi
    rcases hi with he | rfl | hl
    · exact .inr (.inl he)
    · exact .inl result
    · exact .inr (.inr hl)
  | joinsEarly at_ early result =>
    refine h.joins (fun i hi => ?_) h.late (fun he => absurd (early.symm.trans (h.early he)) nofun)
    rw [early, List.mem_cons] at hi
    rcases hi with (rfl | he) | hl
    · exact .inl result
    · exact .inr (.inl he)
    · exact .inr (.inr hl)
  | joined at_ late =>
    exact h.moves at_ rfl rfl rfl nofun (fun _ => late) nofun
  | joinedEarly at_ early =>
    exact h.moves at_ rfl rfl rfl nofun (fun _ => h.late (by rw [at_]; rfl)) (fun _ => early)
  | finishes at_ | closes at_ =>
    exact h.moves at_ rfl rfl rfl nofun (fun _ => h.late (by rw [at_]; rfl))
      (fun _ => h.early (by rw [at_]; rfl))
  | _ =>
    have at_ := ‹s.owner = _›
    exact h.moves at_ rfl rfl rfl nofun nofun nofun

theorem step (hadm : Admission s) (hlaun : s.launched = false → s.owner = .absent)
    (hstep : Step n s () s') : Stops n s' := by
  cases hstep with
  | start hstep =>
    cases hstep with
    | switches _ _ starting =>
      -- Nobody has planned anything yet, so the order does not change.
      have habs : s.owner = .absent := by
        by_contra hne
        exact absurd (hadm.begun_eq_zero (.inr starting)) (Nat.ne_of_gt (hadm.owned hne).1)
      refine { h with plan := ?_ }
      have hold := h.plan
      rw [habs] at hold
      change s.called ++ s.owner.toCall = _
      rw [habs]
      exact hold
    | _ => exact { h with }
  | beginShutdown hstep => exact h.beginShutdown hlaun hstep
  | early hstep => exact h.earlyStep hstep
  | shutdown hstep => exact h.shutdownStep hstep
  | other hstep =>
    cases hstep with
    | stopReturns => exact { h with joined := fun i hi => (h.joined i hi).imp_left (List.mem_append_left _) }
    | _ => exact { h with }

end Stops

theorem order_perm {k : Nat} (hk : k ≤ n) (rollback rollback' : Bool) :
    (Server.order 0 k rollback ++ Server.order k n rollback').Perm (List.range n) := by
  have hpart (first last : Nat) (r : Bool) : (Server.order first last r).Perm (List.range' first (last - first)) := by
    unfold Server.order
    split
    · exact List.reverse_perm _
    · exact List.Perm.refl _
  have hall : List.range' 0 (k - 0) ++ List.range' k (n - k) = List.range n := by
    have happ := @List.range'_append_1 0 k (n - k)
    rw [Nat.zero_add, Nat.add_sub_cancel' hk] at happ
    rw [Nat.sub_zero, happ, List.range_eq_range']
  rw [← hall]
  exact (hpart 0 k rollback).append (hpart k n rollback')

structure Single (s : Server) : Prop where
  unlaunched : s.launched = false → s.owner = .absent
  closed : s.owner = .done → s.closes = 1
  unclosed : s.owner ≠ .done → s.closes = 0
  drains : ∀ d, s.drain = some d → d.Ok

namespace Single

theorem new : Single .new where
  unlaunched _ := rfl
  closed := nofun
  unclosed _ := rfl
  drains := nofun

theorem moves (h : Single s) {owner owner' : Owner} (hat : s.owner = owner) (hat' : s'.owner = owner')
    (hne : owner ≠ .absent ∧ owner ≠ .done) (hne' : owner' ≠ .done) (hlaun : s'.launched = s.launched)
    (hcl : s'.closes = s.closes) (hdrains : ∀ d, s'.drain = some d → d.Ok) : Single s' := by
  subst hat hat'
  refine ⟨fun hfst => ?_, fun hdone => absurd hdone hne', fun _ => hcl.trans (h.unclosed hne.2), hdrains⟩
  exact absurd (h.unlaunched (hlaun.symm.trans hfst)) hne.1

theorem step (h : Single s) (hstep : Step n s () s') : Single s' := by
  cases hstep with
  | start hstep => cases hstep <;> exact { h with }
  | beginShutdown hstep =>
    cases hstep with
    | launches _ first | launchesOwn _ first =>
      have hne : Server.firstWait s.startup ≠ .done := by cases s.startup <;> exact nofun
      have hcloses := h.unclosed (by rw [h.unlaunched first]; exact nofun)
      exact { h with unlaunched := nofun, closed := fun hdone => absurd hdone hne, unclosed := fun _ => hcloses }
    | _ => exact { h with }
  | early hstep =>
    cases hstep with
    | _ =>
      have at_ := ‹s.owner = _›
      exact h.moves at_ rfl ⟨nofun, nofun⟩ nofun rfl rfl h.drains
  | shutdown hstep =>
    cases hstep with
    | takes sessions at_ =>
      refine h.moves at_ rfl ⟨nofun, nofun⟩ nofun rfl rfl ?_
      rintro d ⟨⟩
      exact .start sessions
    | closes at_ =>
      have hcloses := h.unclosed (by rw [at_]; exact nofun)
      exact { h with
        unlaunched := fun hfst => absurd (at_.symm.trans (h.unlaunched hfst)) nofun
        closed := fun _ => congrArg (· + 1) hcloses
        unclosed := fun hne => absurd rfl hne }
    | joins | joinsEarly => exact { h with }
    | _ =>
      have at_ := ‹s.owner = _›
      exact h.moves at_ rfl ⟨nofun, nofun⟩ nofun rfl rfl h.drains
  | other hstep =>
    cases hstep with
    | drains drain step =>
      refine { h with drains := ?_ }
      rintro d ⟨⟩
      exact (h.drains _ drain).step step
    | _ => exact { h with }

end Single

/-! ## Whole runs -/

structure Sound (n : Nat) (s : Server) : Prop where
  admission : Admission s
  handoff : Handoff n s
  progress : Progress s
  stops : Stops n s
  single : Single s

theorem Sound.step (h : Sound n s) (hstep : Step n s () s') : Sound n s' where
  admission := h.admission.step hstep
  handoff := h.handoff.step hstep
  progress := h.progress.step h.admission h.handoff hstep
  stops := h.stops.step h.admission h.single.unlaunched hstep
  single := h.single.step hstep

theorem sound (h : Reachable (· = .new) (Step n) s) : Sound n s := by
  apply h.invariant (P := Sound n)
  · rintro _ rfl
    refine ⟨.new, .new, fun m hm => ?_, .new, .new⟩
    exact absurd (Nat.le_trans m.two_le_stage hm) (by decide)
  · rintro s ⟨⟩ s' hstep hs
    exact hs.step hstep

namespace Sound

theorem called_sublist (h : Sound n s) :
    s.called.Sublist
      (Server.order 0 s.stoppedTransports true ++ Server.order s.stoppedTransports n (!s.serving)) := by
  have hplan := h.stops.plan
  have hle : (s.planned n s.owner.plan).Sublist (s.planned n .both) := by
    cases s.owner.plan with
    | none => exact List.nil_sublist _
    | first => exact List.sublist_append_left _ _
    | both => exact List.Sublist.refl _
  rw [← hplan] at hle
  exact (List.sublist_append_left _ _).trans hle

theorem count_le_one (h : Sound n s) (i : Nat) : s.called.count i ≤ 1 := by
  have hperm := order_perm h.handoff.stopped true (!s.serving)
  have hnd := (hperm.nodup_iff.mpr List.nodup_range).sublist h.called_sublist
  exact List.nodup_iff_count_le_one.mp hnd i

theorem stopped (h : Sound n s) (hdone : s.owner = .done) {i : Nat} (hi : i < n) :
    s.called.count i = 1 ∧ i ∈ s.returned := by
  have hcall : s.called =
      Server.order 0 s.stoppedTransports true ++ Server.order s.stoppedTransports n (!s.serving) := by
    have hplan := h.stops.plan
    rw [hdone] at hplan
    exact (List.append_nil _).symm.trans hplan
  have hperm := order_perm h.handoff.stopped true (!s.serving)
  have hmem : i ∈ s.called := by
    rw [hcall]
    exact hperm.mem_iff.mpr (List.mem_range.mpr hi)
  refine ⟨?_, ?_⟩
  · exact Nat.le_antisymm (h.count_le_one i) (List.count_pos_iff.mpr hmem)
  · have hearly := h.stops.early (by rw [hdone]; rfl)
    have hlate := h.stops.late (by rw [hdone]; rfl)
    have hjoin := h.stops.joined i hmem
    rw [hdone, hearly, hlate] at hjoin
    simpa [Owner.current] using hjoin

end Sound

/-- **Shutdown.**  Admission is open only behind the switch to `started` and before the first `beginShutdown` closes it,
and once closed it stays closed.  `Stop` of a client transport is called at most once, and `shutdownDone` is
closed at most once: when every transport has been stopped once and has returned, no authentication is in
flight, every session is drained, and the broadcaster and all workers have finished. -/
theorem shutdown_complete_and_single (n : Nat) {s : Server} (h : Reachable (· = .new) (Step n) s) :
    (s.accepting = true →
      s.switched = true ∧ (s.begun = 0 ∨ s.begun = 1 ∧ ∃ starter, s.lock = .closing starter)) ∧
    s.opened ≤ 1 ∧
    (s.accepting = false → s.opened = 1 ∨ 0 < s.begun →
      ∀ acts s', Run (Step n) s acts s' → s'.accepting = false) ∧
    (∀ i, s.called.count i ≤ 1) ∧
    s.closes ≤ 1 ∧
    (0 < s.closes → (∀ i < n, s.called.count i = 1 ∧ i ∈ s.returned) ∧ s.authentications = 0 ∧
      (∃ d, s.drain = some d ∧ d.Done ∧ ∀ i < d.sessions, i ∈ d.drained) ∧
      s.broadcaster.active = false ∧
      s.WorkersFinished) := by
  have hsound := sound h
  refine ⟨hsound.admission.accepting, hsound.admission.once, fun hcls hwas acts s' hrun => ?_,
    hsound.count_le_one, ?_, fun hpos => ?_⟩
  · have hbegun : 0 < s.begun := by
      rcases hwas with hopened | hpos
      · exact hsound.admission.closed hopened hcls
      · exact hpos
    have hend := hrun.preserves (P := fun x => Sound n x ∧ x.accepting = false ∧ 0 < x.begun)
      (fun x l y _ hstep ⟨hx, hc, hb⟩ => ⟨hx.step hstep, hx.admission.stays_closed hc hb hstep⟩)
      ⟨hsound, hcls, hbegun⟩
    exact hend.2.1
  · by_cases hdone : s.owner = .done
    · exact Nat.le_of_eq (hsound.single.closed hdone)
    · rw [hsound.single.unclosed hdone]
      exact Nat.zero_le 1
  · have hdone : s.owner = .done := by
      by_contra hne
      exact absurd (hsound.single.unclosed hne) (Nat.ne_of_gt hpos)
    have hholds (m : Milestone) : m.Holds s := hsound.progress m (by rw [hdone]; cases m <;> decide)
    obtain ⟨d, hd, hdrn⟩ := hholds .drained
    exact ⟨fun i hi => hsound.stopped hdone hi, hholds .authenticated,
      ⟨d, hd, hdrn, (hsound.single.drains d hd).complete hdrn⟩, hholds .silent, hholds .finished⟩

/-- A stop finds the second of two transports in its `BeforeStart`, stops the first, whose result comes late, and
then the second. -/
theorem shutdown_complete_and_single_stalled : ∃ s, Reachable (· = .new) (Step 2) s ∧
    s.called = [0, 1] ∧ s.closes = 1 ∧ ∀ i < 2, s.called.count i = 1 ∧ i ∈ s.returned := by
  have h₀ : Reachable (· = .new) (Step 2) .new := .init_state rfl
  have h₁ := h₀.next (.start (.begins rfl rfl rfl))
  have h₂ := h₁.next (.start (.validated rfl))
  have h₃ := h₂.next (.start (.resolved rfl))
  have h₄ := h₃.next (.start (.pinged rfl))
  have h₅ := h₄.next (.start (.broadcasts rfl rfl))
  have h₆ := h₅.next (.start (.prepares rfl Nat.two_pos rfl))
  have h₇ := h₆.next (.start (.prepared true rfl))
  have h₈ := h₇.next (.start (.records rfl rfl))
  have h₉ := h₈.next (.start (.prepares rfl Nat.one_lt_two rfl))
  have h₁₀ := h₉.next (.beginShutdown (.marks rfl))
  have h₁₁ := h₁₀.next (.beginShutdown (.closes rfl))
  have h₁₂ := h₁₁.next (.beginShutdown (.launches rfl rfl))
  have h₁₃ := h₁₂.next (.early (.timesOut rfl))
  have h₁₄ := h₁₃.next (.early (.reads rfl rfl))
  have h₁₅ := h₁₄.next (.early (.cancels rfl rfl))
  have h₁₆ := h₁₅.next (.early (.awaited rfl))
  have h₁₇ := h₁₆.next (.early (.calls rfl))
  have h₁₈ := h₁₇.next (.early (.leaves rfl))
  have h₁₉ := h₁₈.next (.early (.stopped rfl))
  have h₂₀ := h₁₉.next (.start (.prepared true rfl))
  have h₂₁ := h₂₀.next (.start (.records rfl rfl))
  have h₂₂ := h₂₁.next (.start (.aborted rfl rfl))
  have h₂₃ := h₂₂.next (.start (.leaves rfl))
  have h₂₄ := h₂₃.next (.early (.startedLate rfl rfl))
  have h₂₅ := h₂₄.next (.shutdown (.quiesces rfl))
  have h₂₆ := h₂₅.next (.shutdown (.authenticated rfl))
  have h₂₇ := h₂₆.next (.shutdown (.cancels rfl rfl))
  have h₂₈ := h₂₇.next (.shutdown (.awaited rfl))
  have h₂₉ := h₂₈.next (.shutdown (.takes 0 rfl))
  have h₃₀ := h₂₉.next (.shutdown (.drained rfl))
  have h₃₁ := h₃₀.next (.shutdown (.calls rfl))
  have h₃₂ := h₃₁.next (.other (.stopReturns (List.mem_cons_of_mem _ List.mem_cons_self) nofun))
  have h₃₃ := h₃₂.next (.shutdown (.returns rfl List.mem_cons_self))
  have h₃₄ := h₃₃.next (.shutdown (.stopped rfl))
  have h₃₅ := h₃₄.next (.shutdown (.grpcStopped rfl))
  have h₃₆ := h₃₅.next (.shutdown (.noAuthentications rfl rfl))
  have h₃₇ := h₃₆.next (.other (.broadcasterEnds rfl))
  have h₃₈ := h₃₇.next (.shutdown (.inactiveAgain rfl rfl))
  have h₃₉ := h₃₈.next (.shutdown (.drainDone rfl rfl nofun))
  have h₄₀ := h₃₉.next (.shutdown (.workersDone rfl ⟨nofun, nofun⟩))
  have h₄₁ := h₄₀.next (.shutdown (.joined rfl rfl))
  have h₄₂ := h₄₁.next (.other (.stopReturns List.mem_cons_self (by decide)))
  have h₄₃ := h₄₂.next (.shutdown (.joinsEarly rfl rfl (List.mem_cons_of_mem _ List.mem_cons_self)))
  have h₄₄ := h₄₃.next (.shutdown (.joinedEarly rfl rfl))
  have h₄₅ := h₄₄.next (.shutdown (.finishes rfl rfl))
  have h₄₆ := h₄₅.next (.shutdown (.closes rfl))
  obtain ⟨-, -, -, -, -, hdone⟩ := shutdown_complete_and_single 2 h₄₆
  exact ⟨_, h₄₆, rfl, rfl, (hdone Nat.one_pos).1⟩

end Yola.Gateway.Lifecycle
