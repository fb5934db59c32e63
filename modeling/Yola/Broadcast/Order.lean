import Yola.Broadcast.Fanout

/-!
# What a broadcaster offers to a session

The barrier: a batch that has been sent is in the channel, with a worker, or reported, and the coordinator
counts them.  So there are none while it prepares the next message, and the channel has room for the
batches of one message.  The order: what a session has been offered, followed by what it will still be
offered, is what the snapshots that hold it were taken for.
-/

namespace Yola.Broadcast

open Reasoning

variable {Session Message Encoding : Type} {encode : Message → Encoding}

namespace Coordinator

/-- How many batches have been sent and not yet been reported to the coordinator, while it counts them. -/
def expects : Coordinator Session Message → Option Nat
  | .selecting | .resetting _ | .snapshotting _ => some 0
  | .dealing _ started => some started
  | .collecting n => some n
  | .leaving | .waiting | .done => none

def undealt : Coordinator Session Message → List Session
  | .dealing rest _ => rest.flatten
  | _ => []

def current : Coordinator Session Message → List Message
  | .resetting m | .snapshotting m => [m]
  | _ => []

end Coordinator

/-! ## The barrier -/

namespace Broadcaster

variable (b : Broadcaster Session encode)

def outstanding : Nat := b.batches.length + b.workers.countP Worker.busy + b.batchDone

variable {b} {b' : Broadcaster Session encode} {cfg : Config} {w w' : Worker Session}
  {workers : List (Worker Session)}

theorem WorkerStep.coordinator_eq (h : b.WorkerStep cfg w w' b') : b'.coordinator = b.coordinator := by
  cases h <;> rfl

theorem WorkerStep.outstanding_eq (hmv : Moves w w' b.workers workers) (h : b.WorkerStep cfg w w' b') :
    { b' with workers := workers }.outstanding = b.outstanding := by
  cases h with
  | takes hbat =>
    have hcount := hmv.countP_enter (p := Worker.busy) rfl rfl
    simp only [outstanding, hbat, hcount, List.length_cons]
    omega
  | reports =>
    have hcount := hmv.countP_leave (p := Worker.busy) rfl rfl
    simp only [outstanding]
    omega
  | exits | offers | marshals | offered | ends | breaks =>
    have hcount := hmv.countP_eq (p := Worker.busy) rfl
    simp only [outstanding, hcount]

theorem idle_of_outstanding (h : b.outstanding = 0) : ∀ w ∈ b.workers, w.busy = false := by
  have hcnt : b.workers.countP Worker.busy = 0 := by
    unfold outstanding at h
    omega
  intro w hw
  exact Bool.eq_false_iff.mpr (List.countP_eq_zero.mp hcnt w hw)

/-- The coordinator knows how many batches are out, and the channel holds them and the rest. -/
structure Barrier (cfg : Config) (b : Broadcaster Session encode) : Prop where
  counts : ∀ n, b.coordinator.expects = some n → b.outstanding = n
  room : ∀ rest started, b.coordinator = .dealing rest started → started + rest.length ≤ cfg.workers

namespace Barrier

theorem start : Barrier cfg (.start encode cfg : Broadcaster Session encode) where
  counts := by
    rintro n ⟨⟩
    change 0 + (List.replicate cfg.workers Worker.idle).countP Worker.busy + 0 = 0
    rw [Nat.add_zero, Nat.zero_add, List.countP_replicate]
    rfl
  room := nofun

theorem worker (h : Barrier cfg b) (hmv : Moves w w' b.workers workers) (hstep : b.WorkerStep cfg w w' b') :
    Barrier cfg { b' with workers := workers } where
  counts := by
    intro n hn
    change b'.coordinator.expects = some n at hn
    rw [hstep.coordinator_eq] at hn
    rw [hstep.outstanding_eq hmv]
    exact h.counts n hn
  room := by
    intro rest started hat
    exact h.room rest started (hstep.coordinator_eq.symm.trans hat)

theorem gone (hexp : b.coordinator.expects = none) : Barrier cfg b where
  counts := by
    intro n hn
    rw [hexp] at hn
    cases hn
  room := by
    intro rest started hat
    rw [hat] at hexp
    cases hexp

theorem between (hexp : b.coordinator.expects = some 0) (hout : b.outstanding = 0)
    (hroom : ∀ rest started, b.coordinator = .dealing rest started → rest.length ≤ cfg.workers) :
    Barrier cfg b where
  counts := by
    intro n hn
    rw [hexp] at hn
    cases hn
    exact hout
  room := by
    intro rest started hat
    rw [hat] at hexp
    cases hexp
    rw [Nat.zero_add]
    exact hroom rest 0 hat

theorem coordinator (h : Barrier cfg b) (hstep : b.CoordinatorStep cfg b') : Barrier cfg b' := by
  have hout {n : Nat} (hn : b.coordinator.expects = some n) := h.counts n hn
  cases hstep with
  | takes at_ | resets at_ | completes at_ => exact between rfl (hout (by rw [at_]; rfl)) nofun
  | snapshots at_ =>
    refine between rfl (hout (by rw [at_]; rfl)) ?_
    rintro rest started ⟨⟩
    exact length_batches_le
  | @deals batch rest started at_ hroom =>
    have hcounts := hout (n := started) (by rw [at_]; rfl)
    have hle := h.room _ _ at_
    constructor
    · rintro n ⟨⟩
      simp only [outstanding, List.length_append, List.length_singleton] at hcounts ⊢
      omega
    · rintro rest started ⟨⟩
      rw [List.length_cons] at hle
      omega
  | @dealt started at_ =>
    constructor
    · rintro n ⟨⟩
      exact hout (by rw [at_]; rfl)
    · exact nofun
  | @collects n tokens at_ done =>
    have hcounts := hout (n := n + 1) (by rw [at_]; rfl)
    constructor
    · rintro n ⟨⟩
      simp only [outstanding, done] at hcounts ⊢
      omega
    · exact nofun
  | quits | stopsDealing | stopsCollecting | cancels | finishes => exact gone rfl

theorem step (h : Barrier cfg b) (hstep : Step cfg b () b') : Barrier cfg b' := by
  cases hstep with
  | enqueues | stops => exact { h with }
  | coordinator hstep => exact h.coordinator hstep
  | worker hmv hstep => exact h.worker hmv hstep

theorem dealing (h : Barrier cfg b) {batch : List Session} {rest : List (List Session)} {started : Nat}
    (hat : b.coordinator = .dealing (batch :: rest) started) : b.batches.length < cfg.workers := by
  have hcnts := h.counts started (by rw [hat]; rfl)
  have hroom := h.room _ _ hat
  unfold outstanding at hcnts
  rw [List.length_cons] at hroom
  omega

end Barrier

/-! ## The order of what is offered -/

section Order

variable [DecidableEq Session] (b)

def pending (sess : Session) : Nat :=
  b.coordinator.undealt.count sess + b.batches.flatten.count sess +
    (b.workers.map fun w => w.rest.count sess).sum

def offersOf (sess : Session) : List (Option Message) :=
  (b.offers.filter fun offer => offer.1 = sess).map (·.2)

/-- What a session has been offered and will be offered. -/
def owed (sess : Session) : List (Option Message) :=
  b.offersOf sess ++ List.replicate (b.pending sess) b.prepared.message

def due (sess : Session) : List (Option Message) :=
  (b.fanouts.filter fun fanout => sess ∈ fanout.2).map fun fanout => some fanout.1

variable {b} {sess : Session}

theorem owed_congr (hpend : b'.pending sess = b.pending sess)
    (hoff : b'.offers = b.offers) (hprep : b'.prepared.message = b.prepared.message) :
    b'.owed sess = b.owed sess := by
  unfold owed offersOf
  rw [hoff, hpend, hprep]

theorem owed_eq (h : b.pending sess = 0) : b.owed sess = b.offersOf sess := by
  rw [owed, h, List.replicate_zero, List.append_nil]

theorem owed_sublist (hpend : b'.pending sess ≤ b.pending sess)
    (hoff : b'.offers = b.offers) (hprep : b'.prepared.message = b.prepared.message) :
    (b'.owed sess).Sublist (b.owed sess) := by
  unfold owed offersOf
  rw [hoff, hprep]
  exact (List.replicate_sublist_replicate _ |>.mpr hpend).append_left _

theorem pending_of_idle (sess : Session) (hout : b.outstanding = 0) (hund : b.coordinator.undealt = []) :
    b.pending sess = 0 := by
  have hbat : b.batches = [] := by
    unfold outstanding at hout
    exact List.eq_nil_of_length_eq_zero (by omega)
  have hsum : (b.workers.map fun w => w.rest.count sess).sum = 0 := by
    apply List.sum_eq_zero
    intro n hn
    obtain ⟨w, hw, rfl⟩ := List.mem_map.mp hn
    rw [Worker.rest_of_idle (idle_of_outstanding hout w hw), List.count_nil]
  rw [pending, hbat, hund, hsum]
  rfl

/-- The session that a worker comes to gets the message and is no longer pending. -/
theorem owed_offer {x : Session} {rest : List Session}
    (hsum : (workers.map fun w => w.rest.count sess).sum + (x :: rest).count sess =
      (b.workers.map fun w => w.rest.count sess).sum + rest.count sess) :
    { b with offers := b.offers ++ [(x, b.prepared.message)], workers := workers }.owed sess = b.owed sess := by
  by_cases hx : x = sess
  · subst hx
    rw [List.count_cons_self] at hsum
    have hpend : b.pending x = { b with workers := workers }.pending x + 1 := by
      simp only [pending]
      omega
    rw [owed, owed, hpend, List.replicate_succ]
    simp [offersOf, pending]
  · rw [List.count_cons_of_ne hx] at hsum
    have hpend : { b with workers := workers }.pending sess = b.pending sess := by
      simp only [pending]
      omega
    rw [owed, owed, ← hpend]
    simp [offersOf, pending, hx]

theorem WorkerStep.owed (hmv : Moves w w' b.workers workers) (h : b.WorkerStep cfg w w' b') (sess : Session) :
    ({ b' with workers := workers }.owed sess).Sublist (b.owed sess) ∧
      (b'.cancelled = false → { b' with workers := workers }.owed sess = b.owed sess) := by
  have hsum := hmv.sum_map fun w => w.rest.count sess
  cases h with
  | @takes batch rest hbat =>
    have hpend : { b with batches := rest, workers := workers }.pending sess = b.pending sess := by
      change _ + 0 = _ + batch.count sess at hsum
      simp only [pending, hbat, List.flatten_cons, List.count_append]
      omega
    have howed := owed_congr hpend rfl rfl
    exact ⟨howed ▸ List.Sublist.refl _, fun _ => howed⟩
  | @offers x rest live =>
    have howed := owed_offer (hmv.sum_map fun w => w.rest.count sess)
    exact ⟨howed ▸ List.Sublist.refl _, fun _ => howed⟩
  | @breaks rest cancelled =>
    have hpend : { b with workers := workers }.pending sess ≤ b.pending sess := by
      change _ + rest.count sess = _ + 0 at hsum
      simp only [pending]
      omega
    exact ⟨owed_sublist hpend rfl rfl, fun live => absurd (cancelled.symm.trans live) nofun⟩
  | exits | marshals | offered | ends | reports =>
    have hsame := hmv.sum_map_eq (f := fun w => w.rest.count sess) rfl
    have hpend : { b with workers := workers }.pending sess = b.pending sess := by
      simp only [pending, hsame]
    have howed := owed_congr (b := b) hpend rfl rfl
    exact ⟨howed ▸ List.Sublist.refl _, fun _ => howed⟩

structure Offered (b : Broadcaster Session encode) : Prop where
  owed : ∀ sess, (b.owed sess).Sublist (b.due sess)
  complete : b.cancelled = false → ∀ sess, b.owed sess = b.due sess
  view : ∀ m, b.coordinator = .snapshotting m → b.prepared.message = some m

namespace Offered

section

variable (h : Offered b)

include h

theorem of_owed (hfan : b'.fanouts = b.fanouts) (howed : ∀ sess, (b'.owed sess).Sublist (b.owed sess) ∧
      (b'.cancelled = false → b.cancelled = false ∧ b'.owed sess = b.owed sess))
    (hview : ∀ m, b'.coordinator = .snapshotting m → b'.prepared.message = some m) : Offered b' where
  owed := by
    intro sess
    have hdue : b'.due sess = b.due sess := by rw [due, due, hfan]
    rw [hdue]
    exact (howed sess).1.trans (h.owed sess)
  complete := by
    intro live sess
    obtain ⟨hlive, heq⟩ := (howed sess).2 live
    rw [heq, h.complete hlive, due, due, hfan]
  view := hview

theorem same (hfan : b'.fanouts = b.fanouts) (hcanc : b'.cancelled = b.cancelled)
    (howed : ∀ sess, b'.owed sess = b.owed sess)
    (hview : ∀ m, b'.coordinator = .snapshotting m → b'.prepared.message = some m) : Offered b' := by
  refine h.of_owed hfan (fun sess => ⟨howed sess ▸ List.Sublist.refl _, fun live => ?_⟩) hview
  exact ⟨hcanc.symm.trans live, howed sess⟩

theorem worker (hmv : Moves w w' b.workers workers) (hstep : b.WorkerStep cfg w w' b') :
    Offered { b' with workers := workers } := by
  have hkept : b'.fanouts = b.fanouts ∧ b'.cancelled = b.cancelled ∧
      b'.prepared.message = b.prepared.message := by
    cases hstep <;> exact ⟨rfl, rfl, rfl⟩
  obtain ⟨hfan, hcanc, hprep⟩ := hkept
  refine h.of_owed hfan (fun sess => ?_) ?_
  · obtain ⟨hsub, heq⟩ := hstep.owed hmv sess
    exact ⟨hsub, fun live => ⟨hcanc.symm.trans live, heq live⟩⟩
  · intro m hm
    exact hprep.trans (h.view m (hstep.coordinator_eq.symm.trans hm))

/-- A snapshot: each of its sessions is in one batch and due one message more. -/
theorem snapshots {m : Message} {sessions : List Session}
    (hat : b.coordinator = .snapshotting m) (hdist : sessions.Nodup) (hout : b.outstanding = 0) :
    Offered { b with
      coordinator := .dealing (Broadcast.batches cfg.workers sessions) 0
      fanouts := b.fanouts ++ [(m, sessions)] } := by
  let next : Broadcaster Session encode := { b with
    coordinator := .dealing (Broadcast.batches cfg.workers sessions) 0
    fanouts := b.fanouts ++ [(m, sessions)] }
  have howed (sess : Session) :
      next.owed sess = b.owed sess ++ if sess ∈ sessions then [some m] else [] := by
    have hidle := pending_of_idle sess hout (by rw [hat]; rfl)
    have hpend : next.pending sess = sessions.count sess + b.pending sess := by
      simp only [pending, next, hat, Coordinator.undealt, flatten_batches cfg.positive, List.count_nil]
      omega
    rw [owed_eq hidle, Broadcaster.owed, hpend, hidle, hdist.count, Nat.add_zero]
    have hview : next.prepared.message = some m := h.view m hat
    rw [hview]
    split <;> rfl
  have hdue (sess : Session) :
      next.due sess = b.due sess ++ if sess ∈ sessions then [some m] else [] := by
    simp only [due, next, List.filter_append, List.map_append]
    by_cases hmem : sess ∈ sessions <;> simp [hmem]
  constructor
  · intro sess
    change (next.owed sess).Sublist (next.due sess)
    rw [howed, hdue]
    exact (h.owed sess).append_right _
  · intro live sess
    change next.owed sess = next.due sess
    rw [howed, hdue, h.complete live]
  · exact nofun

theorem coordinator (hbarrier : Barrier cfg b) (hstep : b.CoordinatorStep cfg b') : Offered b' := by
  have hout {n : Nat} (hn : b.coordinator.expects = some n) := hbarrier.counts n hn
  cases hstep with
  | takes at_ | dealt at_ | collects at_ | completes at_ | finishes at_ =>
    refine h.same rfl rfl (fun sess => owed_congr ?_ rfl rfl) nofun
    simp only [pending, at_, Coordinator.undealt, List.flatten_nil]
  | resets at_ =>
    have hidle (sess : Session) := pending_of_idle sess (hout (by rw [at_]; rfl)) (by rw [at_]; rfl)
    refine h.same rfl rfl (fun sess => ?_) ?_
    · rw [owed_eq (hidle sess), owed_eq]
      · rfl
      · have hsame := hidle sess
        simp only [pending, at_, Coordinator.undealt] at hsame ⊢
        exact hsame
    · rintro m ⟨⟩
      rfl
  | snapshots at_ hdist => exact h.snapshots at_ hdist (hout (by rw [at_]; rfl))
  | deals at_ =>
    refine h.same rfl rfl (fun sess => owed_congr ?_ rfl rfl) nofun
    simp only [pending, at_, Coordinator.undealt, List.flatten_cons, List.flatten_append, List.count_append,
      List.flatten_nil, List.append_nil]
    omega
  | stopsDealing at_ cancelled | stopsCollecting at_ cancelled | quits at_ cancelled =>
    refine h.of_owed rfl (fun sess => ⟨owed_sublist ?_ rfl rfl, ?_⟩) nofun
    · simp only [pending, Coordinator.undealt, List.count_nil]
      omega
    · exact fun live => absurd (cancelled.symm.trans live) nofun
  | cancels at_ =>
    refine h.of_owed rfl (fun sess => ⟨owed_sublist ?_ rfl rfl, nofun⟩) nofun
    simp only [pending, at_, Coordinator.undealt]
    exact Nat.le_refl _

theorem step (hbarrier : Barrier cfg b) (hstep : Step cfg b () b') : Offered b' := by
  cases hstep with
  | enqueues => exact { h with }
  | stops => exact h.of_owed rfl (fun sess => ⟨List.Sublist.refl _, nofun⟩) h.view
  | coordinator hstep => exact h.coordinator hbarrier hstep
  | worker hmv hstep => exact h.worker hmv hstep

end

theorem start : Offered (.start encode cfg : Broadcaster Session encode) := by
  have hidle (sess : Session) : (.start encode cfg : Broadcaster Session encode).pending sess = 0 :=
    pending_of_idle sess (Barrier.start.counts 0 rfl) rfl
  have howed (sess : Session) : (.start encode cfg : Broadcaster Session encode).owed sess = [] :=
    owed_eq (hidle sess)
  exact ⟨fun sess => howed sess ▸ List.Sublist.refl _, fun _ sess => howed sess, nofun⟩

end Offered

theorem due_sublist (sess : Session) : (b.due sess).Sublist ((b.fanouts.map (·.1)).map some) := by
  rw [List.map_map]
  exact List.filter_sublist.map _

end Order

/-- The messages are fanned out as they were accepted. -/
def Queued (b : Broadcaster Session encode) : Prop :=
  b.fanouts.map (·.1) ++ b.coordinator.current ++ b.pushes = b.accepted

theorem Queued.step (h : Queued b) (hstep : Step cfg b () b') : Queued b' := by
  unfold Queued at h ⊢
  cases hstep with
  | enqueues => simp only [← h, List.append_assoc]
  | stops => exact h
  | worker hmv hstep => cases hstep <;> exact h
  | coordinator hstep =>
    cases hstep with
    | takes at_ pushes =>
      rw [at_, pushes] at h
      simpa [Coordinator.current] using h
    | snapshots at_ =>
      rw [at_] at h
      simpa [Coordinator.current] using h
    | quits at_ | resets at_ | deals at_ | stopsDealing at_ | dealt at_ | collects at_ | stopsCollecting at_
    | completes at_ | cancels at_ | finishes at_ =>
      rw [at_] at h
      exact h

end Broadcaster

open Broadcaster

variable [DecidableEq Session] {b : Broadcaster Session encode} {cfg : Config}

theorem sound (h : Reachable (· = .start encode cfg) (Step cfg) b) :
    Barrier cfg b ∧ Offered b ∧ Queued b := by
  apply h.invariant (P := fun b => Barrier cfg b ∧ Offered b ∧ Queued b)
  · rintro _ rfl
    exact ⟨.start, .start, rfl⟩
  · rintro b ⟨⟩ b' hstep ⟨hbarrier, hoffered, hque⟩
    exact ⟨hbarrier.step hstep, hoffered.step hbarrier hstep, hque.step hstep⟩

/-- **Fan-out.**  The batches of a snapshot are disjoint parts of it, none of them empty, that hold each of its
sessions once, and there are no more of them than workers; so the channel always has room for the next.  What
a session has been offered is, in their order and each at most once, some of the accepted messages: between
two messages of a run that is not ending those of all snapshots that held it.  And `Reset` does not overlap
a send. -/
theorem broadcast_partition_and_order (cfg : Config) :
    (∀ sessions : List Session, sessions.Nodup → (batches cfg.workers sessions).flatten = sessions ∧
      (batches cfg.workers sessions).Pairwise List.Disjoint ∧
      (∀ sess ∈ sessions, (batches cfg.workers sessions).flatten.count sess = 1) ∧
      (∀ batch ∈ batches cfg.workers sessions, batch ≠ []) ∧
      (batches cfg.workers sessions).length ≤ cfg.workers) ∧
    ∀ b : Broadcaster Session encode, Reachable (· = .start encode cfg) (Step cfg) b →
      (∀ batch rest started, b.coordinator = .dealing (batch :: rest) started →
        b.batches.length < cfg.workers) ∧
      (∀ sess, (b.offersOf sess).Sublist (b.accepted.map some)) ∧
      (b.coordinator = .selecting → b.cancelled = false → ∀ sess, b.offersOf sess = b.due sess) ∧
      ∀ m, b.coordinator = .resetting m → ∀ w ∈ b.workers, w.sending = false := by
  refine ⟨fun sessions hdist => ?_, fun b hrch => ?_⟩
  · have hflatten : (batches cfg.workers sessions).flatten = sessions := flatten_batches cfg.positive
    refine ⟨hflatten, ?_, ?_, batches_nonempty, length_batches_le⟩
    · rw [← hflatten] at hdist
      exact (List.nodup_flatten.mp hdist).2
    · intro sess hsess
      rw [hflatten]
      exact List.count_eq_one_of_mem hdist hsess
  · obtain ⟨hbarrier, hoffered, hque⟩ := sound hrch
    refine ⟨fun batch rest started hat => hbarrier.dealing hat, fun sess => ?_, fun hat live sess => ?_,
      fun m hat w hw => ?_⟩
    · calc
        (b.offersOf sess).Sublist (b.owed sess) := List.sublist_append_left _ _
        List.Sublist _ (b.due sess) := hoffered.owed sess
        List.Sublist _ ((b.fanouts.map (·.1)).map some) := due_sublist sess
        List.Sublist _ (b.accepted.map some) := by
          rw [← hque, List.append_assoc]
          exact (List.sublist_append_left _ _).map _
    · have hidle := pending_of_idle sess (hbarrier.counts 0 (by rw [hat]; rfl)) (by rw [hat]; rfl)
      rw [← owed_eq hidle]
      exact hoffered.complete live sess
    · have hidle := idle_of_outstanding (hbarrier.counts 0 (by rw [hat]; rfl)) w hw
      cases hsending : w.sending with
      | false => rfl
      | true => cases hidle.symm.trans (Worker.busy_of_sending hsending)

/-- Two workers share three sessions, and a message reaches the one session there is. -/
theorem broadcast_partition_and_order_sent :
    [1, 2, 3].Nodup ∧ batches 2 [1, 2, 3] = [[1, 2], [3]] ∧ (batches 2 [1, 2, 3]).Pairwise List.Disjoint ∧
      ∃ b : Broadcaster Nat (id : Nat → Nat),
        Reachable (· = .start id ⟨2, 1, Nat.two_pos⟩) (Step ⟨2, 1, Nat.two_pos⟩) b ∧
        b.coordinator = .selecting ∧ b.cancelled = false ∧ b.accepted = [7] ∧ b.offersOf 1 = [some 7] ∧
        b.offersOf 1 = b.due 1 := by
  obtain ⟨hparts, hruns⟩ :=
    @broadcast_partition_and_order Nat Nat Nat (id : Nat → Nat) _ ⟨2, 1, Nat.two_pos⟩
  have h₀ : Reachable (· = .start id ⟨2, 1, Nat.two_pos⟩) (Step ⟨2, 1, Nat.two_pos⟩)
      (.start id ⟨2, 1, Nat.two_pos⟩ : Broadcaster Nat (id : Nat → Nat)) := .init_state rfl
  have h₁ := h₀.next (.enqueues 7 rfl Nat.one_pos)
  have h₂ := h₁.next (.coordinator (.takes rfl rfl))
  have h₃ := h₂.next (.coordinator (.resets rfl))
  have h₄ := h₃.next (.coordinator (.snapshots rfl (List.nodup_singleton 1)))
  have h₅ := h₄.next (.coordinator (.deals rfl Nat.two_pos))
  have h₆ := h₅.next (.coordinator (.dealt rfl))
  have h₇ := h₆.next (.worker (.intro [] [Worker.idle]) (.takes rfl))
  have h₈ := h₇.next (.worker (.intro [] [Worker.idle]) (.offers rfl))
  have h₉ := h₈.next (.worker (.intro [] [Worker.idle]) .offered)
  have h₁₀ := h₉.next (.worker (.intro [] [Worker.idle]) .ends)
  have h₁₁ := h₁₀.next (.worker (.intro [] [Worker.idle]) (.reports Nat.two_pos))
  have h₁₂ := h₁₁.next (.coordinator (.collects rfl rfl))
  have h₁₃ := h₁₂.next (.coordinator (.completes rfl))
  exact ⟨by decide, by decide, (hparts [1, 2, 3] (by decide)).2.1, _, h₁₃, rfl, rfl, rfl, rfl,
    (hruns _ h₁₃).2.2.1 rfl rfl 1⟩

end Yola.Broadcast
