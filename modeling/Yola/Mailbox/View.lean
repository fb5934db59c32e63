import Yola.Mailbox.Group
import Yola.Reasoning.Runs

/-!
# One mailbox of the group

What concerns one mailbox: its queue, who holds it, and what has happened to its jobs.  Every step of
the group is one move of one mailbox or none.
-/

namespace Yola.Mailbox

open Function Reasoning

/-! ## What has happened -/

section History

variable {n : Nat} {J : Type}

def GroupEvent.acceptedAt (i : Fin n) : GroupEvent n J → Option J
  | .accepted j job => if j = i then some job else none
  | _ => none

def GroupEvent.startedAt (i : Fin n) : GroupEvent n J → Option J
  | .started j job => if j = i then some job else none
  | _ => none

def GroupEvent.returnedAt (i : Fin n) : GroupEvent n J → Option J
  | .returned j job => if j = i then some job else none
  | _ => none

def GroupEvent.reportedAt (i : Fin n) : GroupEvent n J → Option J
  | .reported j job => if j = i then some job else none
  | _ => none

def accepted (i : Fin n) (es : List (GroupEvent n J)) : List J := es.filterMap (·.acceptedAt i)

def started (i : Fin n) (es : List (GroupEvent n J)) : List J := es.filterMap (·.startedAt i)

def returned (i : Fin n) (es : List (GroupEvent n J)) : List J := es.filterMap (·.returnedAt i)

/-- Those whose worker has counted them as finished. -/
def reported (i : Fin n) (es : List (GroupEvent n J)) : List J := es.filterMap (·.reportedAt i)

variable {i : Fin n} {es : List (GroupEvent n J)} {e : GroupEvent n J}

@[simp] theorem accepted_snoc : accepted i (es ++ [e]) = accepted i es ++ (e.acceptedAt i).toList := by
  cases h : e.acceptedAt i <;> simp [accepted, h]

@[simp] theorem started_snoc : started i (es ++ [e]) = started i es ++ (e.startedAt i).toList := by
  cases h : e.startedAt i <;> simp [started, h]

@[simp] theorem returned_snoc : returned i (es ++ [e]) = returned i es ++ (e.returnedAt i).toList := by
  cases h : e.returnedAt i <;> simp [returned, h]

@[simp] theorem reported_snoc : reported i (es ++ [e]) = reported i es ++ (e.reportedAt i).toList := by
  cases h : e.reportedAt i <;> simp [reported, h]

end History

variable {J : Type}

def Worker.drains {n : Nat} (i : Fin n) : Worker n J → Option (DrainStage J)
  | .draining j stage => if j = i then some stage else none
  | _ => none

def Poster.holds {n : Nat} (i : Fin n) : Poster n J → Option (PostStage J)
  | .holding j stage => if j = i then some stage else none
  | _ => none

def DrainStage.locks : DrainStage J → Bool
  | .looping _ => true
  | _ => false

def DrainStage.called : DrainStage J → Option J
  | .calling job _ => some job
  | _ => none

def DrainStage.unreported : DrainStage J → Option J
  | .reporting job _ => some job
  | _ => none

def PostStage.uncounted : PostStage J → Option J
  | .counting job => some job
  | .scheduling => none

attribute [simp] DrainStage.locks DrainStage.called DrainStage.unreported PostStage.uncounted

@[ext] structure MailboxView (J : Type) where
  accepted : List J
  started : List J
  returned : List J
  reported : List J
  queue : List J
  scheduled : Bool
  locked : Bool
  inReady : Nat
  /-- The workers that drain the mailbox. -/
  drains : List (DrainStage J)
  /-- The posters that hold its mutex. -/
  holds : List (PostStage J)

def view {n : Nat} (i : Fin n) (es : List (GroupEvent n J)) (g : Group n J) : MailboxView J where
  accepted := accepted i es
  started := started i es
  returned := returned i es
  reported := reported i es
  queue := (g.mailboxes i).queue
  scheduled := (g.mailboxes i).scheduled
  locked := (g.mailboxes i).locked
  inReady := g.ready.count i
  drains := g.workers.filterMap (Worker.drains i)
  holds := g.posters.filterMap (Poster.holds i)

inductive MailboxMove : MailboxView J → MailboxView J → Prop where
  | same (v) : MailboxMove v v
  | append {v : MailboxView J} (job a b) (free : v.locked = false)
      (holds : v.holds = a ++ b) :
      MailboxMove v { v with locked := true, queue := v.queue ++ [job], holds := a ++ .counting job :: b }
  | count {v : MailboxView J} (job a b)
      (holds : v.holds = a ++ .counting job :: b) :
      MailboxMove v { v with accepted := v.accepted ++ [job], holds := a ++ .scheduling :: b }
  | schedule {v : MailboxView J} (a b) (free : v.scheduled = false)
      (holds : v.holds = a ++ .scheduling :: b) :
      MailboxMove v { v with scheduled := true, locked := false, inReady := v.inReady + 1, holds := a ++ b }
  | scheduled {v : MailboxView J} (a b) (scheduled : v.scheduled = true)
      (holds : v.holds = a ++ .scheduling :: b) :
      MailboxMove v { v with locked := false, holds := a ++ b }
  | receive {v : MailboxView J} (m a b) (ready : v.inReady = m + 1)
      (drains : v.drains = a ++ b) :
      MailboxMove v { v with inReady := m, drains := a ++ .received :: b }
  | lock {v : MailboxView J} (stage left a b)
      (free : v.locked = false) (before : stage = .received ∨ stage = .relocking left)
      (drains : v.drains = a ++ stage :: b) :
      MailboxMove v { v with locked := true, drains := a ++ .looping left :: b }
  | take {v : MailboxView J} (job rest left a b)
      (head : v.queue = job :: rest) (drains : v.drains = a ++ .looping (left + 1) :: b) :
      MailboxMove v
        { v with
          started := v.started ++ [job], queue := rest, locked := false
          drains := a ++ .calling job left :: b }
  | ret {v : MailboxView J} (job left a b)
      (drains : v.drains = a ++ .calling job left :: b) :
      MailboxMove v { v with returned := v.returned ++ [job], drains := a ++ .reporting job left :: b }
  | report {v : MailboxView J} (job left a b)
      (drains : v.drains = a ++ .reporting job left :: b) :
      MailboxMove v { v with reported := v.reported ++ [job], drains := a ++ .relocking left :: b }
  | release {v : MailboxView J} (left a b) (empty : v.queue = [])
      (drains : v.drains = a ++ .looping left :: b) :
      MailboxMove v { v with scheduled := false, locked := false, drains := a ++ b }
  | resend {v : MailboxView J} (a b) (drains : v.drains = a ++ .looping 0 :: b) :
      MailboxMove v { v with locked := false, inReady := v.inReady + 1, drains := a ++ b }

/-! ## What always holds of a mailbox -/

/-- At most one worker has the mailbox or is to get it, its mutex is held once, and its jobs go from
stage to stage in the order they came. -/
structure MailboxInv (v : MailboxView J) : Prop where
  served : v.inReady + v.drains.length = v.scheduled.toNat
  mutex : v.drains.countP DrainStage.locks + v.holds.length = v.locked.toNat
  queued : ∃ q, v.queue = q ++ v.holds.filterMap PostStage.uncounted ∧ v.accepted = v.started ++ q
  called : v.started = v.returned ++ v.drains.filterMap DrainStage.called
  told : v.returned = v.reported ++ v.drains.filterMap DrainStage.unreported
  waiting : v.queue ≠ [] → v.scheduled = true ∨ v.holds ≠ []

theorem nil_of_length_middle {α : Type} {a b : List α} {x : α} {k : Nat} {c : Bool}
    (h : k + (a ++ x :: b).length = c.toNat) : a = [] ∧ b = [] ∧ k = 0 ∧ c = true := by
  have hc := c.toNat_le
  simp only [List.length_append, List.length_cons] at h
  refine ⟨List.eq_nil_of_length_eq_zero (by omega), List.eq_nil_of_length_eq_zero (by omega), by omega, ?_⟩
  cases c with
  | false => simp at h
  | true => rfl

namespace MailboxInv

variable {v v' : MailboxView J} {a b : List (DrainStage J)} {c d : List (PostStage J)}
  {stage : DrainStage J} {hold : PostStage J}

variable (h : MailboxInv v)

include h

/-- The worker that drains the mailbox is the only one, and the mailbox is not handed to another. -/
theorem draining (hdrains : v.drains = a ++ stage :: b) : a = [] ∧ b = [] ∧ v.inReady = 0 ∧ v.scheduled = true := by
  have hsrv := h.served
  rw [hdrains] at hsrv
  exact nil_of_length_middle hsrv

theorem holding (hholds : v.holds = c ++ hold :: d) :
    c = [] ∧ d = [] ∧ v.drains.countP DrainStage.locks = 0 ∧ v.locked = true := by
  have hmutex := h.mutex
  rw [hholds] at hmutex
  exact nil_of_length_middle hmutex

theorem unlocked (hfree : v.locked = false) : v.drains.countP DrainStage.locks = 0 ∧ v.holds = [] := by
  have hmutex := h.mutex
  rw [hfree, Bool.toNat_false] at hmutex
  exact ⟨by omega, List.eq_nil_of_length_eq_zero (by omega)⟩

theorem looping (hdrains : v.drains = [stage]) (hlocks : stage.locks = true) : v.holds = [] ∧ v.locked = true := by
  have hmutex := h.mutex
  rw [hdrains, List.countP_cons, if_pos hlocks] at hmutex
  have hle := v.locked.toNat_le
  refine ⟨List.eq_nil_of_length_eq_zero (by simp at hmutex; omega), ?_⟩
  cases hlock : v.locked with
  | false => simp [hlock] at hmutex
  | true => rfl

/-- What the jobs have come to while one worker drains the mailbox. -/
theorem jobs (hdrains : v.drains = [stage]) :
    v.started = v.returned ++ stage.called.toList ∧ v.returned = v.reported ++ stage.unreported.toList := by
  have hcall := h.called
  have htold := h.told
  rw [hdrains] at hcall htold
  cases stage <;> exact ⟨hcall, htold⟩

theorem move (hmove : MailboxMove v v') : MailboxInv v' := by
  obtain ⟨q, hque, hacc⟩ := h.queued
  cases hmove with
  | same => exact h
  | append job a b free holds =>
    obtain ⟨hlocks, hnil⟩ := h.unlocked free
    rw [hnil, List.filterMap_nil, List.append_nil] at hque
    rw [hnil] at holds
    obtain ⟨rfl, rfl⟩ := List.append_eq_nil_iff.mp holds.symm
    exact { h with
      mutex := by simp [hlocks]
      queued := ⟨q, by simp [hque], hacc⟩
      waiting := fun _ => .inr (by simp) }
  | count job a b holds =>
    obtain ⟨rfl, rfl, hlocks, hlock⟩ := h.holding holds
    simp only [holds, List.nil_append, List.filterMap_cons, PostStage.uncounted, List.filterMap_nil] at hque
    exact { h with
      mutex := by simp [hlocks, hlock]
      queued := ⟨q ++ [job], by simp [hque], by simp [hacc]⟩
      waiting := fun _ => .inr (by simp) }
  | schedule a b free holds =>
    obtain ⟨rfl, rfl, hlocks, hlock⟩ := h.holding holds
    have hsrv := h.served
    rw [free, Bool.toNat_false] at hsrv
    exact { h with
      served := by simp only [Bool.toNat_true]; omega
      mutex := by simp [hlocks]
      queued := ⟨q, by simpa [holds, List.filterMap_cons] using hque, hacc⟩
      waiting := fun _ => .inl rfl }
  | scheduled a b scheduled holds =>
    obtain ⟨rfl, rfl, hlocks, hlock⟩ := h.holding holds
    exact { h with
      mutex := by simp [hlocks]
      queued := ⟨q, by simpa [holds, List.filterMap_cons] using hque, hacc⟩
      waiting := fun _ => .inl scheduled }
  | receive m a b ready drains =>
    have hsrv := h.served
    have hle := v.scheduled.toNat_le
    have hnil : v.drains = [] := List.eq_nil_of_length_eq_zero (by omega)
    rw [hnil] at drains
    obtain ⟨rfl, rfl⟩ := List.append_eq_nil_iff.mp drains.symm
    exact { h with
      served := by simp only [hnil, List.length_nil] at hsrv; simpa [ready] using hsrv
      mutex := by simpa [hnil] using h.mutex
      called := by simpa [hnil, List.filterMap_cons] using h.called
      told := by simpa [hnil, List.filterMap_cons] using h.told }
  | lock stage left a b free before drains =>
    obtain ⟨rfl, rfl, -, -⟩ := h.draining drains
    obtain ⟨hcall, htold⟩ := h.jobs drains
    exact { h with
      served := by simpa [drains] using h.served
      mutex := by simp [(h.unlocked free).2]
      called := by rcases before with rfl | rfl <;> exact hcall
      told := by rcases before with rfl | rfl <;> exact htold }
  | take job rest left a b head drains =>
    obtain ⟨rfl, rfl, -, hsched⟩ := h.draining drains
    obtain ⟨hnil, -⟩ := h.looping drains rfl
    obtain ⟨hcall, htold⟩ := h.jobs drains
    rw [hnil, List.filterMap_nil, List.append_nil, head] at hque
    exact {
      served := by simpa [drains] using h.served
      mutex := by simp [hnil]
      queued := ⟨rest, by simp [hnil], by simp [hacc, ← hque]⟩
      called := by simpa using hcall
      told := htold
      waiting := fun _ => .inl hsched }
  | ret job left a b drains | report job left a b drains =>
    obtain ⟨rfl, rfl, -, -⟩ := h.draining drains
    obtain ⟨hcall, htold⟩ := h.jobs drains
    exact { h with
      served := by simpa [drains] using h.served
      mutex := by simpa [drains] using h.mutex
      called := by simpa [List.filterMap_cons] using hcall
      told := by simpa [List.filterMap_cons] using htold }
  | release left a b empty drains =>
    obtain ⟨rfl, rfl, hready, -⟩ := h.draining drains
    obtain ⟨hcall, htold⟩ := h.jobs drains
    exact { h with
      served := by simp [hready]
      mutex := by simp [(h.looping drains rfl).1]
      called := hcall
      told := htold
      waiting := fun hne => absurd empty hne }
  | resend a b drains =>
    obtain ⟨rfl, rfl, hready, hsched⟩ := h.draining drains
    obtain ⟨hcall, htold⟩ := h.jobs drains
    exact { h with
      served := by simp [hready, hsched]
      mutex := by simp [(h.looping drains rfl).1]
      called := hcall
      told := htold
      waiting := fun _ => .inl hsched }

end MailboxInv

/-! ## Every step is a move -/

variable {cfg : GroupConfig} {g g' : Group cfg.mailboxes J} {e : GroupEvent cfg.mailboxes J}
  {es : List (GroupEvent cfg.mailboxes J)} {i j : Fin cfg.mailboxes}

/-- The event is about another mailbox or about none. -/
def GroupEvent.Other (i : Fin cfg.mailboxes) (e : GroupEvent cfg.mailboxes J) : Prop :=
  e.acceptedAt i = none ∧ e.startedAt i = none ∧ e.returnedAt i = none ∧ e.reportedAt i = none

theorem other_silent : (GroupEvent.silent : GroupEvent cfg.mailboxes J).Other i := ⟨rfl, rfl, rfl, rfl⟩

theorem other_accepted {job : J} (h : j ≠ i) : (GroupEvent.accepted j job).Other i :=
  ⟨if_neg h, rfl, rfl, rfl⟩

theorem other_started {job : J} (h : j ≠ i) : (GroupEvent.started j job).Other i := ⟨rfl, if_neg h, rfl, rfl⟩

theorem other_returned {job : J} (h : j ≠ i) : (GroupEvent.returned j job).Other i :=
  ⟨rfl, rfl, if_neg h, rfl⟩

theorem other_reported {job : J} (h : j ≠ i) : (GroupEvent.reported j job).Other i :=
  ⟨rfl, rfl, rfl, if_neg h⟩

theorem Worker.drains_self {stage : DrainStage J} :
    Worker.drains i (.draining i stage) = some stage := if_pos rfl

theorem Worker.drains_of_ne {stage : DrainStage J} (h : j ≠ i) :
    Worker.drains i (.draining j stage) = none := if_neg h

theorem Worker.drains_eq_of_ne {stage stage' : DrainStage J} (h : j ≠ i) :
    Worker.drains i (.draining j stage') = Worker.drains i (.draining j stage) :=
  (drains_of_ne h).trans (drains_of_ne h).symm

theorem Poster.holds_self {stage : PostStage J} : Poster.holds i (.holding i stage) = some stage := if_pos rfl

theorem Poster.holds_of_ne {stage : PostStage J} (h : j ≠ i) :
    Poster.holds i (.holding j stage) = none := if_neg h

structure Untouched (i : Fin cfg.mailboxes) (e : GroupEvent cfg.mailboxes J)
    (g g' : Group cfg.mailboxes J) : Prop where
  event : e.Other i
  mailbox : g'.mailboxes i = g.mailboxes i
  ready : g'.ready.count i = g.ready.count i
  drains : g'.workers.filterMap (Worker.drains i) = g.workers.filterMap (Worker.drains i)
  holds : g'.posters.filterMap (Poster.holds i) = g.posters.filterMap (Poster.holds i)

theorem Untouched.view_eq (h : Untouched i e g g') : view i (es ++ [e]) g' = view i es g := by
  obtain ⟨hacc, hstart, hret, hrep⟩ := h.event
  ext1 <;> simp [view, hacc, hstart, hret, hrep, h.mailbox, h.ready, h.drains, h.holds]

theorem Untouched.move (h : Untouched i e g g') : MailboxMove (view i es g) (view i (es ++ [e]) g') := by
  rw [h.view_eq]
  exact .same _

attribute [simp] GroupEvent.acceptedAt GroupEvent.startedAt GroupEvent.returnedAt GroupEvent.reportedAt

/-- A step is a move of one mailbox if it leaves the others alone. -/
theorem view_move (j : Fin cfg.mailboxes) (hoths : ∀ i, j ≠ i → Untouched i e g g')
    (hmove : MailboxMove (view j es g) (view j (es ++ [e]) g')) (i : Fin cfg.mailboxes) :
    MailboxMove (view i es g) (view i (es ++ [e]) g') := by
  by_cases hj : j = i
  · exact hj ▸ hmove
  · exact (hoths i hj).move

theorem MailboxMove.to {v w w' : MailboxView J} (h : MailboxMove v w) (hw : w' = w) :
    MailboxMove v w' := hw ▸ h

attribute [local simp] Mailbox.view Group.setWorkers Group.setMailbox Group.setPosters
  Group.changePending

theorem WorkerStep.view (h : WorkerStep cfg g e g') :
    ∀ i, MailboxMove (Mailbox.view i es g) (Mailbox.view i (es ++ [e]) g') := by
  cases h with
  | @receive j ready ws first move =>
    obtain ⟨a, b, hold, hnew⟩ := move.filterMap_enter (f := Worker.drains j) rfl Worker.drains_self
    have hready : (Mailbox.view j es g).inReady = ready.count j + 1 := by simp [first]
    apply view_move j _ ((MailboxMove.receive _ a b hready hold).to _)
    · exact fun i hi => ⟨other_silent, rfl, by simp [first, hi],
        move.filterMap_eq (Worker.drains_of_ne hi), rfl⟩
    · ext1 <;> simp [hnew]
  | exit done move =>
    exact fun i => Untouched.move ⟨other_silent, rfl, rfl, move.filterMap_eq rfl, rfl⟩
  | @lock j ws free move =>
    obtain ⟨a, b, hold, hnew⟩ := move.filterMap_some Worker.drains_self Worker.drains_self
    apply view_move j _ ((MailboxMove.lock .received cfg.batch a b free (.inl rfl) hold).to _)
    · exact fun i hi => ⟨other_silent, update_of_ne hi.symm _ _, rfl,
        move.filterMap_eq (Worker.drains_eq_of_ne hi), rfl⟩
    · ext1 <;> simp [hnew]
  | @take j job rest left ws head move =>
    obtain ⟨a, b, hold, hnew⟩ := move.filterMap_some Worker.drains_self Worker.drains_self
    apply view_move j _ ((MailboxMove.take job rest left a b head hold).to _)
    · exact fun i hi => ⟨other_started hi, update_of_ne hi.symm _ _, rfl,
        move.filterMap_eq (Worker.drains_eq_of_ne hi), rfl⟩
    · ext1 <;> simp [hnew]
  | @ret j job left ws move =>
    obtain ⟨a, b, hold, hnew⟩ := move.filterMap_some Worker.drains_self Worker.drains_self
    apply view_move j _ ((MailboxMove.ret job left a b hold).to _)
    · exact fun i hi =>
        ⟨other_returned hi, rfl, rfl, move.filterMap_eq (Worker.drains_eq_of_ne hi), rfl⟩
    · ext1 <;> simp [hnew]
  | @report j job left ws move =>
    obtain ⟨a, b, hold, hnew⟩ := move.filterMap_some Worker.drains_self Worker.drains_self
    apply view_move j _ ((MailboxMove.report job left a b hold).to _)
    · exact fun i hi =>
        ⟨other_reported hi, rfl, rfl, move.filterMap_eq (Worker.drains_eq_of_ne hi), rfl⟩
    · ext1 <;> simp [hnew]
  | @relock j left ws free move =>
    obtain ⟨a, b, hold, hnew⟩ := move.filterMap_some Worker.drains_self Worker.drains_self
    apply view_move j _ ((MailboxMove.lock (.relocking left) left a b free (.inr rfl) hold).to _)
    · exact fun i hi => ⟨other_silent, update_of_ne hi.symm _ _, rfl,
        move.filterMap_eq (Worker.drains_eq_of_ne hi), rfl⟩
    · ext1 <;> simp [hnew]
  | @release j left ws empty move =>
    obtain ⟨a, b, hold, hnew⟩ := move.filterMap_leave (f := Worker.drains j) Worker.drains_self rfl
    apply view_move j _ ((MailboxMove.release left a b empty hold).to _)
    · exact fun i hi => ⟨other_silent, update_of_ne hi.symm _ _, rfl,
        move.filterMap_eq (Worker.drains_of_ne hi).symm, rfl⟩
    · ext1 <;> simp [hnew]
  | @resend j ws busy room move =>
    obtain ⟨a, b, hold, hnew⟩ := move.filterMap_leave (f := Worker.drains j) Worker.drains_self rfl
    apply view_move j _ ((MailboxMove.resend a b hold).to _)
    · exact fun i hi => ⟨other_silent, update_of_ne hi.symm _ _,
        by simp [hi],
        move.filterMap_eq (Worker.drains_of_ne hi).symm, rfl⟩
    · ext1 <;> simp [hnew]

theorem TryPostStep.view (h : TryPostStep cfg g e g') :
    ∀ i, MailboxMove (Mailbox.view i es g) (Mailbox.view i (es ++ [e]) g') := by
  cases h with
  | @full j job waits ps free full move =>
    intro i
    have hp : Poster.holds i (if waits then .full j job else .returned (some .full)) = none := by
      cases waits <;> rfl
    exact Untouched.move ⟨other_silent, rfl, rfl, rfl, move.filterMap_eq hp⟩
  | @append j job waits ps free room move =>
    obtain ⟨a, b, hold, hnew⟩ := move.filterMap_enter (f := Poster.holds j) rfl Poster.holds_self
    apply view_move j _ ((MailboxMove.append job a b free hold).to _)
    · exact fun i hi => ⟨other_silent, update_of_ne hi.symm _ _, rfl, rfl,
        move.filterMap_eq (Poster.holds_of_ne hi)⟩
    · ext1 <;> simp [hnew]
  | @count j job ps move =>
    obtain ⟨a, b, hold, hnew⟩ := move.filterMap_some Poster.holds_self Poster.holds_self
    apply view_move j _ ((MailboxMove.count job a b hold).to _)
    · exact fun i hi => ⟨other_accepted hi, rfl, rfl, rfl,
        move.filterMap_eq ((Poster.holds_of_ne hi).trans (Poster.holds_of_ne hi).symm)⟩
    · ext1 <;> simp [hnew]
  | @schedule j ps free room move =>
    obtain ⟨a, b, hold, hnew⟩ := move.filterMap_leave (f := Poster.holds j) Poster.holds_self rfl
    apply view_move j _ ((MailboxMove.schedule a b free hold).to _)
    · exact fun i hi => ⟨other_silent, update_of_ne hi.symm _ _,
        by simp [hi], rfl,
        move.filterMap_eq (Poster.holds_of_ne hi).symm⟩
    · ext1 <;> simp [hnew]
  | @scheduled j ps scheduled move =>
    obtain ⟨a, b, hold, hnew⟩ := move.filterMap_leave (f := Poster.holds j) Poster.holds_self rfl
    apply view_move j _ ((MailboxMove.scheduled a b scheduled hold).to _)
    · exact fun i hi => ⟨other_silent, update_of_ne hi.symm _ _, rfl, rfl,
        move.filterMap_eq (Poster.holds_of_ne hi).symm⟩
    · ext1 <;> simp [hnew]
  | leave move =>
    exact fun i => Untouched.move ⟨other_silent, rfl, rfl, rfl, move.filterMap_eq rfl⟩

theorem FinishStep.untouched (h : FinishStep cfg g e g') (i : Fin cfg.mailboxes) : Untouched i e g g' := by
  cases h <;> exact ⟨⟨rfl, rfl, rfl, rfl⟩, rfl, rfl, rfl, rfl⟩

theorem CallStep.untouched (h : CallStep cfg g e g') (i : Fin cfg.mailboxes) : Untouched i e g g' := by
  cases h with
  | start =>
    refine ⟨other_silent, rfl, rfl, ?_, rfl⟩
    rw [List.filterMap_append, List.filterMap_replicate_of_none rfl, List.append_nil]
  | post =>
    refine ⟨other_silent, rfl, rfl, rfl, ?_⟩
    change (g.posters ++ [_]).filterMap _ = _
    rw [List.filterMap_append]
    split <;> exact List.append_nil _
  | tryPost =>
    refine ⟨other_silent, rfl, rfl, rfl, ?_⟩
    change (g.posters ++ [_]).filterMap _ = _
    rw [List.filterMap_append]
    exact List.append_nil _
  | stop | stopFirst | stopUnstarted | stopAgain | stopFinished | stopCancelled =>
    exact ⟨⟨rfl, rfl, rfl, rfl⟩, rfl, rfl, rfl, rfl⟩
  | _ =>
    have move := ‹Moves _ _ g.posters _›
    exact ⟨other_silent, rfl, rfl, rfl, move.filterMap_eq rfl⟩

theorem GroupStep.view (h : GroupStep cfg g e g') (i : Fin cfg.mailboxes) :
    MailboxMove (Mailbox.view i es g) (Mailbox.view i (es ++ [e]) g') := by
  cases h with
  | internal step =>
    cases step with
    | worker step | post step => exact step.view i
    | finish step => exact (step.untouched i).move
  | call step => exact (step.untouched i).move

end Yola.Mailbox
