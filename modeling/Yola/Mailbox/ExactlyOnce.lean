import Yola.Mailbox.Invariant

/-!
# Every accepted job runs exactly once

What is accepted is run once and in order, and a stop that returns without an error has seen all of it
finish.  No job is left behind: without further calls the group comes to rest, and at rest every accepted
job has been finished and a stop has been answered.
-/

namespace Yola.Mailbox

open Function Reasoning

variable {J : Type} {cfg : GroupConfig} {g g' : Group cfg.mailboxes J}
  {e : GroupEvent cfg.mailboxes J} {es : List (GroupEvent cfg.mailboxes J)} {i : Fin cfg.mailboxes}
  {k k' : Nat}

/-! ## The group comes to rest -/

def DrainStage.weight (batch : Nat) : DrainStage J → Nat
  | .received => 5
  | .looping left => if left = batch then 4 else 7
  | .calling _ _ => 14
  | .reporting _ _ => 13
  | .relocking _ => 8

def Worker.weight {n : Nat} (batch : Nat) : Worker n J → Nat
  | .idle => 1
  | .draining _ stage => stage.weight batch
  | .exited => 0

def Poster.weight {n : Nat} : Poster n J → Nat
  | .locking _ _ _ => 24
  | .holding _ (.counting _) => 12
  | .holding _ .scheduling => 7
  | .leaving => 1
  | _ => 0

def Finisher.weight : Finisher → Nat
  | .waiting true => 4
  | .checking => 3
  | .closing => 2
  | .joining => 1
  | _ => 0

def backlog {n : Nat} (mailboxes : Fin n → MailboxQueue J) : Nat := ∑ i, (mailboxes i).queue.length

/-- How much is left to do, at most. -/
def potential (cfg : GroupConfig) (g : Group cfg.mailboxes J) : Nat :=
  11 * backlog g.mailboxes + 5 * g.ready.length + (g.workers.map (Worker.weight cfg.batch)).sum +
    (g.posters.map Poster.weight).sum + g.finisher.weight

theorem Finisher.weight_wake (f : Finisher) : f.wake.weight ≤ f.weight + 4 := by
  cases f with
  | waiting woken => cases woken <;> decide
  | _ => exact Nat.le_add_right _ _

theorem weight_changePending (delta : Int) :
    (g.changePending delta).finisher.weight ≤ g.finisher.weight + 4 := by
  unfold Group.changePending
  dsimp only
  split
  · exact g.finisher.weight_wake
  · exact Nat.le_add_right _ _

theorem backlog_update {n : Nat} (mailboxes : Fin n → MailboxQueue J) (i : Fin n) (m : MailboxQueue J) :
    backlog (update mailboxes i m) + (mailboxes i).queue.length =
      backlog mailboxes + m.queue.length := by
  unfold backlog
  rw [← Finset.add_sum_erase _ _ (Finset.mem_univ i),
    ← Finset.add_sum_erase (a := i) _ (fun k => (mailboxes k).queue.length) (Finset.mem_univ i)]
  have hoths : ∑ k ∈ Finset.univ.erase i, (update mailboxes i m k).queue.length =
      ∑ k ∈ Finset.univ.erase i, (mailboxes k).queue.length := by
    apply Finset.sum_congr rfl
    intro k hk
    rw [update_of_ne (Finset.ne_of_mem_erase hk)]
  rw [hoths, update_self]
  omega

theorem potential_lt_of_worker {w w' : Worker cfg.mailboxes J}
    (hmove : Moves w w' g.workers g'.workers) (hposters : g'.posters = g.posters)
    (hbacklog : backlog g'.mailboxes + k = backlog g.mailboxes + k')
    (hlt : 11 * k' + 5 * g'.ready.length + g'.finisher.weight + w'.weight cfg.batch <
      11 * k + 5 * g.ready.length + g.finisher.weight + w.weight cfg.batch) :
    potential cfg g' < potential cfg g := by
  have hsum := hmove.sum_map (Worker.weight cfg.batch)
  unfold potential
  rw [hposters]
  omega

theorem potential_lt_of_poster {p p' : Poster cfg.mailboxes J}
    (hmove : Moves p p' g.posters g'.posters) (hwks : g'.workers = g.workers)
    (hbacklog : backlog g'.mailboxes + k = backlog g.mailboxes + k')
    (hlt : 11 * k' + 5 * g'.ready.length + g'.finisher.weight + p'.weight <
      11 * k + 5 * g.ready.length + g.finisher.weight + p.weight) : potential cfg g' < potential cfg g := by
  have hsum := hmove.sum_map Poster.weight
  unfold potential
  rw [hwks]
  omega

theorem DrainStage.looping_weight (batch left : Nat) :
    4 ≤ (DrainStage.looping left : DrainStage J).weight batch ∧
      (DrainStage.looping left : DrainStage J).weight batch ≤ 7 := by
  simp only [DrainStage.weight]
  split <;> omega

theorem WorkerStep.potential_lt (h : WorkerStep cfg g e g') : potential cfg g' < potential cfg g := by
  have hbatch := cfg.batch_pos
  cases h with
  | @receive i ready ws first move =>
    refine potential_lt_of_worker (k := 0) move rfl rfl ?_
    rw [first]
    change 11 * 0 + 5 * ready.length + g.finisher.weight + 5 < 11 * 0 + 5 * (ready.length + 1) + _ + 1
    omega
  | exit done move | ret move =>
    exact potential_lt_of_worker (k := 0) move rfl rfl (Nat.lt_succ_self _)
  | @lock i ws free move =>
    refine potential_lt_of_worker move rfl (backlog_update ..) ?_
    change _ + (if cfg.batch = cfg.batch then 4 else 7) < _ + 5
    rw [if_pos rfl]
    exact Nat.lt_succ_self _
  | @take i job rest left ws head move =>
    refine potential_lt_of_worker move rfl (backlog_update ..) ?_
    have hstage := (DrainStage.looping_weight (J := J) cfg.batch (left + 1)).1
    rw [head]
    change 11 * rest.length + 5 * g.ready.length + g.finisher.weight + 14 <
      11 * (rest.length + 1) + 5 * g.ready.length + g.finisher.weight +
        (DrainStage.looping (left + 1) : DrainStage J).weight cfg.batch
    omega
  | report move =>
    refine potential_lt_of_worker (k := 0) move rfl rfl ?_
    have hwake := weight_changePending (g := g) (-1)
    change _ + 5 * g.ready.length + (g.changePending (-1)).finisher.weight + 8 < _ + 13
    omega
  | @relock i left ws free move =>
    refine potential_lt_of_worker move rfl (backlog_update ..) ?_
    exact Nat.add_lt_add_left (Nat.lt_succ_of_le (DrainStage.looping_weight (J := J) cfg.batch left).2) _
  | @release i left ws empty move =>
    refine potential_lt_of_worker move rfl (backlog_update ..) ?_
    exact Nat.add_lt_add_left
      (Nat.lt_of_lt_of_le (by decide : 1 < 4) (DrainStage.looping_weight (J := J) cfg.batch left).1) _
  | @resend i ws busy room move =>
    refine potential_lt_of_worker move rfl (backlog_update ..) ?_
    -- a worker that hands the mailbox on has called a job before
    have hstage : (DrainStage.looping 0 : DrainStage J).weight cfg.batch = 7 := if_neg (by omega)
    change 11 * (g.mailboxes i).queue.length + 5 * (g.ready ++ [i]).length + g.finisher.weight + 1 <
      11 * (g.mailboxes i).queue.length + 5 * g.ready.length + g.finisher.weight +
        (DrainStage.looping 0 : DrainStage J).weight cfg.batch
    rw [hstage, List.length_append, List.length_singleton]
    omega

theorem TryPostStep.potential_lt (h : TryPostStep cfg g e g') : potential cfg g' < potential cfg g := by
  cases h with
  | @full i job waits ps free full move =>
    refine potential_lt_of_poster (k := 0) move rfl rfl ?_
    have hout : (if waits then Poster.full i job else .returned (some .full)).weight = 0 := by
      cases waits <;> rfl
    rw [hout]
    exact Nat.lt_add_of_pos_right (by decide : 0 < 24)
  | @append i job waits ps free room move =>
    refine potential_lt_of_poster move rfl (backlog_update ..) ?_
    change 11 * ((g.mailboxes i).queue ++ [job]).length + 5 * g.ready.length + g.finisher.weight + 12 <
      _ + 24
    rw [List.length_append, List.length_singleton]
    omega
  | count move =>
    refine potential_lt_of_poster (k := 0) move rfl rfl ?_
    have hwake := weight_changePending (g := g) 1
    change _ + 5 * g.ready.length + (g.changePending 1).finisher.weight + 7 < _ + 12
    omega
  | @schedule i ps free room move =>
    refine potential_lt_of_poster move rfl (backlog_update ..) ?_
    change 11 * (g.mailboxes i).queue.length + 5 * (g.ready ++ [i]).length + g.finisher.weight + 1 <
      11 * (g.mailboxes i).queue.length + 5 * g.ready.length + g.finisher.weight + 7
    rw [List.length_append, List.length_singleton]
    omega
  | @scheduled i ps scheduled move =>
    refine potential_lt_of_poster move rfl (backlog_update ..) ?_
    exact Nat.add_lt_add_left (by decide : 1 < 7) _
  | leave move => exact potential_lt_of_poster (k := 0) move rfl rfl (Nat.lt_succ_self _)

theorem FinishStep.potential_lt (h : FinishStep cfg g e g') : potential cfg g' < potential cfg g := by
  have hlt {f : Finisher} (hf : f.weight < g.finisher.weight) {done finished : Bool} :
      potential cfg { g with finisher := f, done := done, finished := finished } < potential cfg g :=
    Nat.add_lt_add_left hf _
  cases h with
  | idle at_ | wait at_ | wake at_ | closeDone at_ | join at_ =>
    apply hlt
    rw [at_]
    decide

theorem InternalStep.potential_lt (h : InternalStep cfg g e g') : potential cfg g' < potential cfg g := by
  cases h with
  | worker step | post step | finish step => exact step.potential_lt

/-! ## What holds at rest -/

def AtRest (cfg : GroupConfig) (g : Group cfg.mailboxes J) : Prop := ∀ e g', ¬ InternalStep cfg g e g'

namespace GroupInv

variable {stage : DrainStage J}

theorem room (h : GroupInv cfg es g) (hready : (view i es g).inReady = 0) :
    g.ready.length < cfg.mailboxes := by
  have hnd : g.ready.Nodup := by
    rw [List.nodup_iff_count_le_one]
    intro k
    have hsrv : g.ready.count k + _ = _ := (h.mailbox k).served
    have := (view k es g).scheduled.toNat_le
    omega
  have hcons : (i :: g.ready).Nodup := List.nodup_cons.mpr ⟨List.count_eq_zero.mp hready, hnd⟩
  have hcard := hcons.length_le_card
  rw [Fintype.card_fin, List.length_cons] at hcard
  omega

theorem room_unscheduled (h : GroupInv cfg es g) (hidle : (g.mailboxes i).scheduled = false) :
    g.ready.length < cfg.mailboxes := by
  have hsrv := (h.mailbox i).served
  rw [show (view i es g).scheduled = false from hidle, Bool.toNat_false] at hsrv
  exact h.room (i := i) (by omega)

theorem room_draining (h : GroupInv cfg es g)
    (hmem : stage ∈ (view i es g).drains) : g.ready.length < cfg.mailboxes := by
  obtain ⟨a, b, hdrains⟩ := List.append_of_mem hmem
  exact h.room ((h.mailbox i).draining hdrains).2.2.1

theorem holds_of_mem {stage : PostStage J} (hmem : stage ∈ (view i es g).holds) :
    .holding i stage ∈ g.posters := by
  obtain ⟨p, hp, hholds⟩ := List.mem_filterMap.mp hmem
  cases p with
  | holding j =>
    by_cases hj : j = i
    · subst hj
      rw [Poster.holds_self] at hholds
      cases hholds
      exact hp
    · rw [Poster.holds_of_ne hj] at hholds
      cases hholds
  | _ => cases hholds

theorem not_holding (h : GroupInv cfg es g) (hrest : AtRest cfg g) : (view i es g).holds = [] := by
  rw [List.eq_nil_iff_forall_not_mem]
  intro stage hmem
  have hp := holds_of_mem hmem
  cases stage with
  | counting =>
    obtain ⟨ps, move⟩ := Moves.exists_of_mem hp (.holding i .scheduling)
    exact hrest _ _ (.post (.count move))
  | scheduling =>
    obtain ⟨ps, move⟩ := Moves.exists_of_mem hp .leaving
    cases hsched : (g.mailboxes i).scheduled with
    | true => exact hrest _ _ (.post (.scheduled hsched move))
    | false =>
      exact hrest _ _ (.post (.schedule hsched (h.room_unscheduled hsched) move))

theorem drains_of_mem (hmem : stage ∈ (view i es g).drains) : .draining i stage ∈ g.workers := by
  obtain ⟨w, hw, hdrains⟩ := List.mem_filterMap.mp hmem
  cases w with
  | draining j =>
    by_cases hj : j = i
    · subst hj
      rw [Worker.drains_self] at hdrains
      cases hdrains
      exact hw
    · rw [Worker.drains_of_ne hj] at hdrains
      cases hdrains
  | _ => cases hdrains

variable (h : GroupInv cfg es g)

include h

variable (hrest : AtRest cfg g)

include hrest

theorem not_looping (left : Nat) : .looping left ∉ (view i es g).drains := by
  intro hmem
  have hw := drains_of_mem hmem
  cases hque : (g.mailboxes i).queue with
  | nil =>
    obtain ⟨ws, move⟩ := Moves.exists_of_mem hw .idle
    exact hrest _ _ (.worker (.release hque move))
  | cons job =>
    cases left with
    | zero =>
      obtain ⟨ws, move⟩ := Moves.exists_of_mem hw .idle
      have hbusy : (g.mailboxes i).queue ≠ [] := by
        rw [hque]
        exact List.cons_ne_nil _ _
      exact hrest _ _ (.worker (.resend hbusy (h.room_draining hmem) move))
    | succ left =>
      obtain ⟨ws, move⟩ := Moves.exists_of_mem hw (.draining i (.calling job left))
      exact hrest _ _ (.worker (.take hque move))

theorem unlocked : (g.mailboxes i).locked = false := by
  have hmutex := (h.mailbox i).mutex
  rw [h.not_holding hrest, List.countP_eq_zero.mpr] at hmutex
  · exact Bool.toNat_eq_zero.mp hmutex.symm
  · intro stage hmem
    cases stage with
    | looping left => exact absurd hmem (h.not_looping hrest left)
    | _ => nofun

theorem not_draining : (view i es g).drains = [] := by
  rw [List.eq_nil_iff_forall_not_mem]
  intro stage hmem
  have hw := drains_of_mem hmem
  have hfree := h.unlocked hrest (i := i)
  cases stage with
  | received =>
    obtain ⟨ws, move⟩ := Moves.exists_of_mem hw (.draining i (.looping cfg.batch))
    exact hrest _ _ (.worker (.lock hfree move))
  | looping left => exact h.not_looping hrest left hmem
  | calling job left =>
    obtain ⟨ws, move⟩ := Moves.exists_of_mem hw (.draining i (.reporting job left))
    exact hrest _ _ (.worker (.ret move))
  | reporting job left =>
    obtain ⟨ws, move⟩ := Moves.exists_of_mem hw (.draining i (.relocking left))
    exact hrest _ _ (.worker (.report move))
  | relocking left =>
    obtain ⟨ws, move⟩ := Moves.exists_of_mem hw (.draining i (.looping left))
    exact hrest _ _ (.worker (.relock hfree move))

theorem idle_or_exited {w : Worker cfg.mailboxes J} (hw : w ∈ g.workers) : w = .idle ∨ w = .exited := by
  cases w with
  | idle => exact .inl rfl
  | exited => exact .inr rfl
  | draining i stage =>
    have hmem : stage ∈ (view i es g).drains := List.mem_filterMap.mpr ⟨_, hw, Worker.drains_self⟩
    rw [h.not_draining hrest] at hmem
    cases hmem

theorem reported_eq_of_idle
    (hidle : .idle ∈ g.workers) (i : Fin cfg.mailboxes) : reported i es = accepted i es := by
  have hready : g.ready = [] := by
    cases hready : g.ready with
    | nil => rfl
    | cons j =>
      obtain ⟨ws, move⟩ := Moves.exists_of_mem hidle (.draining j .received)
      exact absurd (.worker (.receive hready move)) (hrest _ _)
  have hmailbox := h.mailbox i
  have hdrains := h.not_draining hrest (i := i)
  have hholds := h.not_holding hrest (i := i)
  have hque : (view i es g).queue = [] := by
    by_contra hne
    rcases hmailbox.waiting hne with hsched | hhold
    · have hserved := hmailbox.served
      rw [hsched, hdrains, show (view i es g).inReady = 0 by simp [view, hready]] at hserved
      cases hserved
    · exact hhold hholds
  obtain ⟨q, hq, hacc⟩ := hmailbox.queued
  rw [hque] at hq
  obtain ⟨rfl, -⟩ := List.append_eq_nil_iff.mp hq.symm
  have hcalled := hmailbox.called
  have htold := hmailbox.told
  rw [hdrains, List.filterMap_nil, List.append_nil] at hcalled htold
  rw [List.append_nil] at hacc
  exact (hacc.trans (hcalled.trans htold)).symm

theorem reported_eq_at_rest (i : Fin cfg.mailboxes) : reported i es = accepted i es := by
  cases hdone : g.done with
  | true => exact h.reported_eq (h.life.phase.settled hdone).2 i
  | false =>
    cases hwks : g.workers with
    | nil =>
      have hlength := h.life.workers
      have hpos := cfg.workers_pos
      cases hstarted : g.started with
      | true =>
        rw [hwks, hstarted, if_pos rfl, List.length_nil] at hlength
        omega
      | false => exact h.reported_eq (h.life.phase.unstarted_pending hstarted) i
    | cons w =>
      have hw : w ∈ g.workers := by
        rw [hwks]
        exact List.mem_cons_self
      rcases h.idle_or_exited hrest hw with rfl | rfl
      · exact h.reported_eq_of_idle hrest hw i
      · rw [h.life.exited hw] at hdone
        cases hdone

theorem finished_at_rest (hstop : g.stopped = true) : g.finished = true := by
  have hpend : g.pending = 0 := by
    rw [h.pending, countP_accepted, countP_reported,
      Finset.sum_congr rfl fun i _ => congrArg List.length (h.reported_eq_at_rest hrest i)]
    exact Int.sub_self _
  refine h.life.phase.finished_of_rest hstop hpend ?_ ?_ ?_ ?_
  · exact fun hat => hrest _ _ (.finish (.idle hat hpend))
  · exact fun hat => hrest _ _ (.finish (.wake hat))
  · exact fun hat => hrest _ _ (.finish (.closeDone hat))
  · intro hat hdone
    apply hrest _ _ (.finish (.join hat _))
    intro w hw
    rcases h.idle_or_exited hrest hw with rfl | rfl
    · obtain ⟨ws, move⟩ := Moves.exists_of_mem hw .exited
      exact absurd (.worker (.exit hdone move)) (hrest _ _)
    · rfl

end GroupInv

/-! ## Nothing is accepted after the end -/

theorem GroupStep.stays_stopped (h : GroupStep cfg g e g') (hstop : g.stopped = true) :
    g'.stopped = true := by
  cases h with
  | internal step =>
    cases step with
    | worker step | post step | finish step => cases step <;> exact hstop
  | call step =>
    cases step with
    | stopFirst | stopUnstarted => rfl
    | _ => exact hstop

theorem GroupStep.not_accepted (h : GroupStep cfg g e g') (hlife : LifeInv cfg g)
    (hstop : g.stopped = true) (i : Fin cfg.mailboxes) : e.acceptedAt i = none := by
  cases h with
  | internal step =>
    cases step with
    | worker step | finish step => cases step <;> rfl
    | post step =>
      cases step with
      | count move =>
        have hnone := hlife.readers
        rw [hlife.refused (.inl hstop), eq_comm, List.countP_eq_zero] at hnone
        exact absurd rfl (hnone _ move.mem)
      | _ => rfl
  | call step => cases step <;> rfl

theorem GroupInv.no_accept {es' : List (GroupEvent cfg.mailboxes J)} (h : GroupInv cfg es g)
    (hstop : g.stopped = true) (hrun : Run (GroupStep cfg) g es' g') (i : Fin cfg.mailboxes) :
    accepted i es' = [] := by
  have hall : GroupInv cfg (es ++ es') g' ∧ g'.stopped = true ∧ accepted i es' = [] := by
    apply hrun.history (P := fun ls s =>
      GroupInv cfg (es ++ ls) s ∧ s.stopped = true ∧ accepted i ls = [])
    · rw [List.append_nil]
      exact ⟨h, hstop, rfl⟩
    · intro done s l t ⟨hinv, hs, hdone⟩ hstep
      refine ⟨?_, hstep.stays_stopped hs, ?_⟩
      · rw [← List.append_assoc]
        exact hinv.step hstep
      · rw [accepted_snoc, hdone, hstep.not_accepted hinv.life hs i]
        rfl
  exact hall.2.2

theorem GroupInv.at_end (h : GroupInv cfg es g) (hfin : g.finished = true) :
    (∀ i, reported i es = accepted i es) ∧
      ∀ es' g', Run (GroupStep cfg) g es' g' → ∀ i, accepted i es' = [] := by
  have hdone := h.life.phase.done_of_finished hfin
  obtain ⟨hstop, hpend⟩ := h.life.phase.settled hdone
  exact ⟨h.reported_eq hpend, fun _ _ hrun => h.no_accept hstop hrun⟩

theorem GroupStep.finished_of_stopReturned (h : GroupStep cfg g (.stopReturned true) g') :
    g.finished = true := by
  cases h with
  | internal step =>
    cases step with
    | worker step | post step | finish step => cases step
  | call step =>
    cases step with
    | stopFinished finished => exact finished

/-- The jobs of a mailbox are run in the order they are accepted, each once and one at a time; the
counter counts the jobs that have not returned and those that a worker has yet to report; the signal means
that all has been done, and so does a stop without an error; and without further calls all gets done. -/
theorem accepted_jobs_run_once (hrun : Run (GroupStep cfg) Group.new es g) :
    (∀ i, reported i es <+: returned i es ∧ returned i es <+: started i es ∧
      started i es <+: accepted i es ∧ (started i es).length ≤ (returned i es).length + 1) ∧
    g.pending = es.countP GroupEvent.isAccepted - es.countP GroupEvent.isReturned +
      g.workers.countP Worker.reporting ∧
    (g.finished = true → (∀ i, reported i es = accepted i es) ∧
      ∀ es' g', Run (GroupStep cfg) g es' g' → ∀ i, accepted i es' = []) ∧
    (∀ before after, es = before ++ .stopReturned true :: after →
      (∀ i, reported i before = accepted i before) ∧ ∀ i, accepted i after = []) ∧
    (∀ es' g', Run (InternalStep cfg) g es' g' → es'.length ≤ potential cfg g) ∧
    (AtRest cfg g → (∀ i, reported i es = accepted i es) ∧ (g.stopped = true → g.finished = true)) := by
  have h := GroupInv.run hrun
  have hcount : g.pending = es.countP GroupEvent.isAccepted - es.countP GroupEvent.isReturned +
      g.workers.countP Worker.reporting := by
    rw [h.pending, h.reporting]
    omega
  refine ⟨fun i => (h.mailbox i).stages, hcount, h.at_end, fun before after hes => ?_,
    fun es' g' hinternal => ?_, fun hrest => ⟨h.reported_eq_at_rest hrest, h.finished_at_rest hrest⟩⟩
  · rw [hes] at hrun
    obtain ⟨t, t', hbef, hstep, hafter⟩ := hrun.split
    have hend := (GroupInv.run hbef).at_end hstep.finished_of_stopReturned
    refine ⟨hend.1, fun i => ?_⟩
    have hnone := hend.2 _ _ (.cons hstep hafter) i
    exact (List.filterMap_cons_none rfl).symm.trans hnone
  · have hlen := hinternal.length_le fun _ _ _ => InternalStep.potential_lt
    omega

def sampleConfig : GroupConfig := ⟨1, 1, 1, 1, by decide, by decide, by decide, by decide⟩

def sampleMailbox : Fin sampleConfig.mailboxes := ⟨0, by decide⟩

/-- A job is accepted and has returned; then its worker reports it and the group is stopped. -/
theorem sample_group_run : ∃ es es', ∃ g g' : Group _ Nat, Run (GroupStep sampleConfig) Group.new es g ∧
    Run (GroupStep sampleConfig) g es' g' ∧ accepted sampleMailbox (es ++ es') = [7] ∧
    ((g.mailboxes sampleMailbox).locked = false ∧ g.pending = 1 ∧ es.countP GroupEvent.isAccepted = 1 ∧
      es.countP GroupEvent.isReturned = 1) ∧ g'.finished = true :=
  ⟨_, _, _, _, .cons (.call (.start rfl rfl rfl)) <| .cons (.call (.tryPost sampleMailbox (some 7))) <|
    .cons (.call (.enter rfl rfl (.intro [] []))) <|
    .cons (.internal (.post (.append rfl (by decide) (.intro [] [])))) <|
    .cons (.internal (.post (.count (.intro [] [])))) <|
    .cons (.internal (.post (.schedule rfl (by decide) (.intro [] [])))) <|
    .cons (.internal (.post (.leave (.intro [] [])))) <|
    .cons (.internal (.worker (.receive rfl (.intro [] [])))) <|
    .cons (.internal (.worker (.lock rfl (.intro [] [])))) <|
    .cons (.internal (.worker (.take rfl (.intro [] [])))) <|
    .cons (.internal (.worker (.ret (.intro [] [])))) <| .nil _,
    .cons (.internal (.worker (.report (.intro [] [])))) <|
    .cons (.internal (.worker (.relock rfl (.intro [] [])))) <|
    .cons (.internal (.worker (.release rfl (.intro [] [])))) <|
    .cons (.call .stop) <|
    .cons (.call (.stopFirst rfl rfl rfl (.intro [] []))) <|
    .cons (.internal (.finish (.idle rfl rfl))) <|
    .cons (.internal (.finish (.closeDone rfl))) <|
    .cons (.internal (.worker (.exit rfl (.intro [] [])))) <|
    .cons (.internal (.finish (.join rfl fun _ hw => List.mem_singleton.mp hw))) <|
    .nil _, rfl, ⟨rfl, rfl, rfl, rfl⟩, rfl⟩

theorem accepted_jobs_run_once_sample : ∃ es, ∃ g : Group _ Nat,
    Run (GroupStep sampleConfig) Group.new es g ∧ g.finished = true ∧ reported sampleMailbox es = [7] := by
  obtain ⟨es, es', g, g', hrun, hrun', hacc, -, hfin⟩ := sample_group_run
  have hend := ((accepted_jobs_run_once (hrun.append hrun')).2.2.1 hfin).1 sampleMailbox
  exact ⟨_, g', hrun.append hrun', hfin, hend.trans hacc⟩

/-- The only job has returned and is still pending. -/
theorem returned_before_reported : ∃ es, ∃ g : Group _ Nat, Run (GroupStep sampleConfig) Group.new es g ∧
    (g.mailboxes sampleMailbox).locked = false ∧ g.pending = 1 ∧ es.countP GroupEvent.isAccepted = 1 ∧
      es.countP GroupEvent.isReturned = 1 := by
  obtain ⟨es, -, g, -, hrun, -, -, hret, -⟩ := sample_group_run
  exact ⟨es, g, hrun, hret⟩

end Yola.Mailbox
