import Yola.Callbacks.Queue

/-!
# What the callback queue promises

Accepted callbacks are started in the order they were accepted in, after the queue was closed at most the one
that had been taken before, and the terminal callbacks run once each after their release.  The invariant says
of the termination that closed the queue where the callbacks that it still has to start are.
-/

namespace Yola.Callbacks

open Function Reasoning

variable {α : Type} {s s' : System α} {w : Worker α} {x : Nat × List α × Bool} {capacity call' : Nat}

namespace Queue

variable {q q' : Queue α}

theorem closeWithTerminals_of_closed (h : q.closed = true) (terminals : Option (Nat × List α)) :
    q.closeWithTerminals terminals = (false, q) := by
  simp [closeWithTerminals, h]

theorem closeWithTerminals_of_open (h : q.closed = false) (terminals : Option (Nat × List α)) :
    q.closeWithTerminals terminals =
      (true, { q with closed := true, tasks := [], terminals := terminals, wakeClosed := true }) := by
  simp [closeWithTerminals, h]

theorem next_callback {a : α} (h : q.next = (.callback a, q')) :
    q.closed = false ∧ ∃ rest, q.tasks = a :: rest ∧ q' = { q with tasks := rest } := by
  unfold next at h
  split at h
  · simp at h
  next hopen =>
  split at h
  · simp at h
  next b rest htasks =>
    cases h
    exact ⟨by simpa using hopen, rest, htasks, rfl⟩

theorem next_empty (h : q.next = (.empty, q')) : q.closed = false ∧ q.tasks = [] ∧ q' = q := by
  unfold next at h
  split at h
  · simp at h
  next hopen =>
  split at h
  next htasks =>
    cases h
    exact ⟨by simpa using hopen, htasks, rfl⟩
  · simp at h

theorem next_closed {terminals : Option (Nat × List α)} (h : q.next = (.closed terminals, q')) :
    q.closed = true ∧ q.terminals = terminals ∧ q' = { q with terminals := none } := by
  unfold next at h
  split at h
  next hcls =>
    cases h
    exact ⟨hcls, rfl, rfl⟩
  · split at h <;> simp at h

end Queue

namespace System

/-- What `SubmitBatch` can do: it refuses and changes nothing, or it appends the whole batch and leaves a
token if the batch has a callback. -/
theorem submitBatch_cases (s : System α) (callbacks : List (Option α)) :
    (∃ e, (s.queue.submitBatch callbacks).1 = some e ∧ s.submitBatch callbacks = s) ∨
      (s.queue.closed = false ∧ s.queue.tasks.length + callbacks.length ≤ s.queue.capacity ∧
        callbacks = (callbacks.filterMap id).map some ∧ (s.queue.submitBatch callbacks).1 = none ∧
        s.submitBatch callbacks = { s with
          queue := { s.queue with
            tasks := s.queue.tasks ++ callbacks.filterMap id
            wake := s.queue.wake || !callbacks.isEmpty }
          accepted := s.accepted ++ callbacks.filterMap id }) := by
  unfold submitBatch Queue.submitBatch
  split
  · exact .inl ⟨_, rfl, by simp⟩
  next hnil =>
  split
  · exact .inl ⟨_, rfl, by simp⟩
  next hopen =>
  split
  · exact .inl ⟨_, rfl, by simp⟩
  next hroom =>
  refine .inr ⟨by simpa using hopen, by omega, ?_, rfl, rfl⟩
  have hsome : none ∉ callbacks := by simpa [Queue.hasNilCallback] using hnil
  clear hnil hroom
  induction callbacks with
  | nil => rfl
  | cons x rest ih =>
    cases x with
    | none => exact absurd List.mem_cons_self hsome
    | some => simpa using ih fun h => hsome (List.mem_cons_of_mem _ h)

theorem submitBatch_keeps (s : System α) (callbacks : List (Option α)) :
    (s.submitBatch callbacks).queue.capacity = s.queue.capacity ∧
      (s.submitBatch callbacks).queue.closed = s.queue.closed ∧
      (s.submitBatch callbacks).queue.terminals = s.queue.terminals := by
  obtain ⟨_, -, hsame⟩ | ⟨-, -, -, -, hacc⟩ := s.submitBatch_cases callbacks
  · rw [hsame]
    exact ⟨rfl, rfl, rfl⟩
  · rw [hacc]
    exact ⟨rfl, rfl, rfl⟩

theorem WorkerStep.keeps (h : s.WorkerStep s') :
    s'.queue.capacity = s.queue.capacity ∧ s'.queue.closed = s.queue.closed := by
  cases h with
  | takes _ next =>
    obtain ⟨-, _, -, rfl⟩ := Queue.next_callback next
    exact ⟨rfl, rfl⟩
  | rests _ next =>
    obtain ⟨-, -, rfl⟩ := Queue.next_empty next
    exact ⟨rfl, rfl⟩
  | stops _ next | closes _ next =>
    obtain ⟨-, -, rfl⟩ := Queue.next_closed next
    exact ⟨rfl, rfl⟩
  | _ => exact ⟨rfl, rfl⟩

end System

/-! ## The termination that closed the queue -/

def Worker.inHand : Worker α → List α
  | .running a => [a]
  | _ => []

def Worker.taken : Worker α → List α
  | .holding a => [a]
  | _ => []

attribute [simp] Worker.inHand Worker.taken

/-- The worker has not met the end of the queue. -/
def Worker.serving : Worker α → Bool
  | .looping | .holding _ | .running _ | .waiting => true
  | _ => false

/-- The call whose terminal callbacks the worker has taken, those that it has still to start, and whether it
is past the gate. -/
def Worker.left : Worker α → Option (Nat × List α × Bool)
  | .gated call rest => some (call, rest, false)
  | .ending call rest | .terminating call rest => some (call, rest, true)
  | _ => none

inductive Left (s : System α) (call : Nat) : List α → Bool → Prop where
  | queued {rest} (h : s.queue.terminals = some (call, rest)) : Left s call rest false
  | held {rest past} (h : s.worker.left = some (call, rest, past)) : Left s call rest past
  | ended (h : s.worker = .ended) : Left s call [] true

variable {t t' u : Termination α} {rest rest' : List α} {past past' : Bool}

theorem Left.congr {call : Nat} (h : Left s call rest past)
    (terminals : s'.queue.terminals = s.queue.terminals) (worker : s'.worker = s.worker) :
    Left s' call rest past := by
  cases h with
  | queued h => exact .queued (terminals.trans h)
  | held h => exact .held (worker ▸ h)
  | ended h => exact .ended (worker.trans h)

structure Remains (t : Termination α) (rest : List α) (past : Bool) : Prop where
  closes : t.closes = true
  release : t.release = .held ∨ t.release = .returned
  split : t.terminals = t.ran ++ rest
  before : past = false → t.ran = []
  after : past = true → t.release = .returned

theorem Remains.settled {r : Release α} (h : Remains t rest past)
    (at_ : t.release = r) (held : r ≠ .held) (returned : r ≠ .returned) : False := by
  obtain hx | hx := h.release
  · exact held (at_.symm.trans hx)
  · exact returned (at_.symm.trans hx)

/-- A call that came after the queue was closed: its release function runs the callbacks itself. -/
def Invoking (t : Termination α) : Prop :=
  match t.release with
  | .held => t.ran = []
  | .invoking rest | .calling rest => t.terminals = t.ran ++ rest
  | .returned => t.ran = t.terminals

/-! ## The invariant -/

structure Flow (s : System α) : Prop where
  bound : s.queue.tasks.length ≤ s.queue.capacity
  order : s.started ++ s.worker.taken <+: s.accepted
  waits : s.queue.closed = false → s.accepted = s.started ++ s.worker.taken ++ s.queue.tasks
  inHand : s.started = s.finished ++ s.worker.inHand
  closed : s.queue.closed = true → s.queue.tasks = [] ∧ s.queue.wakeClosed = true
  wake : s.worker = .waiting → s.queue.tasks ≠ [] → s.queue.wake = true

structure Ends (s : System α) : Prop where
  queued : s.queue.terminals ≠ none → s.queue.closed = true
  taken : s.worker.serving = false → s.queue.terminals = none
  stopped : s.worker.serving = false → s.queue.closed = true
  fresh : ∀ {call t}, s.terminations call = some t → call < s.calls ∧ s.queue.closed = true
  owner : ∀ {call rest past}, Left s call rest past → s.worker ≠ .ended →
    ∃ t, s.terminations call = some t ∧ t.closes = true
  closing : ∀ {call t}, s.terminations call = some t → t.closes = true →
    ∃ rest past, Left s call rest past ∧ Remains t rest past
  invoking : ∀ {call t}, s.terminations call = some t → t.closes = false → Invoking t

namespace Flow

theorem new (capacity : Nat) : Flow (System.new (α := α) capacity) where
  bound := Nat.zero_le _
  order := List.prefix_refl _
  waits _ := rfl
  inHand := rfl
  closed h := Bool.noConfusion h
  wake := nofun

theorem moves (h : Flow s) (w : Worker α) (same : s.worker.inHand = w.inHand ∧ s.worker.taken = w.taken)
    (waiting : w = .waiting → s.queue.tasks = []) (wake : Bool) (terminals : Option (Nat × List α))
    (terminations : Nat → Option (Termination α)) (invoked : List α) :
    Flow { s with
      queue := { s.queue with wake := wake, terminals := terminals }
      worker := w
      terminations := terminations
      invoked := invoked } :=
  { h with
    order := same.2 ▸ h.order
    waits := same.2 ▸ h.waits
    inHand := h.inHand.trans (congrArg _ same.1)
    wake := fun hw hne => absurd (waiting hw) hne }

theorem worker (h : Flow s) (hstep : s.WorkerStep s') : Flow s' := by
  cases hstep with
  | @takes a _ at_ next =>
    obtain ⟨hopen, rest, htasks, rfl⟩ := Queue.next_callback next
    have hall := h.waits hopen
    have hbound := h.bound
    have hin := h.inHand
    rw [htasks] at hall hbound
    rw [at_] at hall hin
    have hsplit : s.accepted = s.started ++ [a] ++ rest := by simpa using hall
    exact
      { bound := Nat.le_of_succ_le hbound
        order := ⟨rest, hsplit.symm⟩
        waits := fun _ => hsplit
        inHand := hin
        closed := fun hcls => absurd (hopen.symm.trans hcls) nofun
        wake := nofun }
  | invokes at_ =>
    have ⟨_, hord, hall, hin, _, _⟩ := h
    rw [at_] at hord hall hin
    exact { h with
      order := by simpa using hord
      waits := by simpa using hall
      inHand := by simpa using hin
      wake := nofun }
  | finishes at_ =>
    have ⟨_, hord, hall, hin, _, _⟩ := h
    rw [at_] at hord hall hin
    exact { h with
      order := hord
      waits := hall
      inHand := by simpa using hin
      wake := nofun }
  | rests at_ next =>
    obtain ⟨-, hnone, rfl⟩ := Queue.next_empty next
    exact h.moves .waiting (by simp [at_]) (fun _ => hnone) _ _ _ _
  | wakes at_ => exact h.moves .looping (by simp [at_]) nofun false _ _ _
  | stops at_ next =>
    obtain ⟨-, -, rfl⟩ := Queue.next_closed next
    exact h.moves .ended (by simp [at_]) nofun _ none _ _
  | closes at_ next =>
    obtain ⟨-, -, rfl⟩ := Queue.next_closed next
    exact h.moves (.gated _ _) (by simp [at_]) nofun _ none _ _
  | opens at_ | goesOn at_ => exact h.moves (.ending _ _) (by simp [at_]) nofun _ _ _ _
  | starts at_ => exact h.moves (.terminating _ _) (by simp [at_]) nofun _ _ _ _
  | ends at_ => exact h.moves .ended (by simp [at_]) nofun _ _ _ _

theorem submitBatch (h : Flow s) (callbacks : List (Option α)) : Flow (s.submitBatch callbacks) := by
  obtain ⟨_, -, hsame⟩ | ⟨hopen, hroom, hall, -, hacc⟩ := s.submitBatch_cases callbacks
  · rwa [hsame]
  · have hlen : (callbacks.filterMap id).length = callbacks.length := by
      conv_rhs => rw [hall]
      simp
    rw [hacc]
    exact
      { bound := by simpa only [List.length_append, hlen] using hroom
        order := h.order.trans (List.prefix_append _ _)
        waits := fun _ => by rw [h.waits hopen, List.append_assoc]
        inHand := h.inHand
        closed := fun hcls => absurd (hopen.symm.trans hcls) nofun
        wake := fun hw hne => by
          -- The worker waits: either something waited already, or the batch brings the token.
          by_cases hold : s.queue.tasks = []
          · have hsome : callbacks ≠ [] := by
              rintro rfl
              simp [hold] at hne
            simp [hsome]
          · simp [h.wake hw hold] }

theorem close (h : Flow s) (terminals : Option (Nat × List α)) (terminations : Nat → Option (Termination α))
    (calls : Nat) :
    Flow { s with
      queue := (s.queue.closeWithTerminals terminals).2
      terminations := terminations
      calls := calls } := by
  by_cases hcls : s.queue.closed = true
  · rw [Queue.closeWithTerminals_of_closed hcls]
    exact { h with }
  · rw [Queue.closeWithTerminals_of_open (by simpa using hcls)]
    exact { h with
      bound := Nat.zero_le _
      waits := fun hopen => Bool.noConfusion hopen
      closed := fun _ => ⟨rfl, rfl⟩
      wake := fun _ hne => absurd rfl hne }

theorem call (h : Flow s) (hstep : s.CallStep s') : Flow s' := by
  cases hstep with
  | submits callbacks => exact h.submitBatch callbacks
  | stops => exact h.close none s.terminations s.calls
  | begins => exact h.close _ _ _
  | releases | invokes | goesOn | returns => exact { h with }

end Flow

/-! ## The terminal callbacks -/

namespace Left

variable {call : Nat}

theorem of_serving (h : Left s call rest past) (serving : s.worker.serving = true) :
    s.queue.terminals = some (call, rest) ∧ past = false := by
  cases h with
  | queued h => exact ⟨h, rfl⟩
  | held h => cases hw : s.worker <;> simp [hw, Worker.serving, Worker.left] at serving h
  | ended h => simp [h, Worker.serving] at serving

theorem of_taken (h : Left s call rest past) (taken : s.queue.terminals = none) (running : s.worker ≠ .ended) :
    s.worker.left = some (call, rest, past) := by
  cases h with
  | queued h => cases taken.symm.trans h
  | held h => exact h
  | ended h => exact absurd h running

end Left

theorem Worker.not_serving (h : w.left = some x) : w.serving = false := by
  cases w <;> first | rfl | cases h

theorem Worker.not_ended (h : w.left = some x) : w ≠ .ended := by
  rintro rfl
  cases h

theorem System.setTermination_cases (s : System α) {call : Nat}
    (h : (s.setTermination call t).terminations call' = some u) :
    call' = call ∧ u = t ∨ call' ≠ call ∧ s.terminations call' = some u := by
  change update s.terminations call (some t) call' = some u at h
  rw [update_apply] at h
  split at h
  next heq => exact .inl ⟨heq, (Option.some.inj h).symm⟩
  next hne => exact .inr ⟨hne, h⟩

@[elab_as_elim]
theorem System.setTermination_forall (s : System α) {P : Nat → Termination α → Prop} {call : Nat} (new : P call t)
    (old : ∀ {call' u}, s.terminations call' = some u → call' ≠ call → P call' u)
    (h : (s.setTermination call t).terminations call' = some u) : P call' u := by
  obtain ⟨rfl, rfl⟩ | ⟨hne, hu⟩ := s.setTermination_cases h
  · exact new
  · exact old hu hne

theorem System.setTermination_self {call : Nat} (h : s.terminations call = some t) :
    s.setTermination call t = s := by
  rw [System.setTermination, ← h, update_eq_self]

namespace Ends

theorem new (capacity : Nat) : Ends (System.new (α := α) capacity) where
  queued h := absurd rfl h
  taken := nofun
  stopped := nofun
  fresh := nofun
  owner h := absurd (h.of_serving rfl).1 nofun
  closing := nofun
  invoking := nofun

variable (h : Ends s)

include h

theorem serves (w : Worker α) (q : Queue α) (serving : s.worker.serving = true)
    (serving' : w.serving = true) (terminals : q.terminals = s.queue.terminals) (closed : q.closed = s.queue.closed)
    (started finished invoked : List α) :
    Ends { s with queue := q, worker := w, started := started, finished := finished, invoked := invoked } where
  queued hne := closed.trans (h.queued (terminals ▸ hne))
  taken hw := absurd (serving'.symm.trans hw) nofun
  stopped hw := absurd (serving'.symm.trans hw) nofun
  fresh ht := ⟨(h.fresh ht).1, closed.trans (h.fresh ht).2⟩
  owner hleft _ := by
    have hqueued := terminals.symm.trans (hleft.of_serving serving').1
    refine h.owner (.queued hqueued) ?_
    rintro hended
    cases hended ▸ serving
  closing ht hcloses := by
    obtain ⟨rest, past, hleft, hrem⟩ := h.closing ht hcloses
    obtain ⟨hqueued, rfl⟩ := hleft.of_serving serving
    exact ⟨rest, false, .queued (terminals.trans hqueued), hrem⟩
  invoking := h.invoking

/-- The callbacks that the worker holds are those of the call that closed the queue. -/
theorem holder {call : Nat} (held : s.worker.left = some (call, rest, past))
    (record : s.terminations call' = some u) (closes : u.closes = true) : call' = call := by
  obtain ⟨_, _, hleft, -⟩ := h.closing record closes
  cases held.symm.trans (hleft.of_taken (h.taken (Worker.not_serving held)) (Worker.not_ended held))
  rfl

theorem advances {call : Nat} (before : s.worker.left = some (call, rest, past))
    (record : s.terminations call = some t)
    (after : w.left = some (call, rest', past') ∨ w = .ended ∧ rest' = [] ∧ past' = true)
    (invoked : List α) (remains : Remains t rest past → Remains t' rest' past') :
    Ends { s.setTermination call t' with worker := w, invoked := invoked } := by
  have htaken := h.taken (Worker.not_serving before)
  have hrem : Remains t' rest' past' := by
    obtain ⟨t₀, ht₀, hcl⟩ := h.owner (.held before) (Worker.not_ended before)
    cases record.symm.trans ht₀
    obtain ⟨rest₀, past₀, hleft, hr⟩ := h.closing record hcl
    cases before.symm.trans (hleft.of_taken htaken (Worker.not_ended before))
    exact remains hr
  exact
    { queued := fun hne => absurd htaken hne
      taken := fun _ => htaken
      stopped := fun _ => h.stopped (Worker.not_serving before)
      fresh := s.setTermination_forall (h.fresh record) fun hu _ => h.fresh hu
      owner := fun hleft hruns => by
        have hheld := hleft.of_taken htaken hruns
        obtain hafter | ⟨hended, -⟩ := after
        · cases hheld.symm.trans hafter
          exact ⟨t', update_self .., hrem.closes⟩
        · exact absurd hended hruns
      closing := by
        refine s.setTermination_forall (fun _ => ⟨rest', past', ?_, hrem⟩) fun hu hne hcl =>
          absurd (h.holder before hu hcl) hne
        obtain hafter | ⟨hended, rfl, rfl⟩ := after
        · exact .held hafter
        · exact .ended hended
      invoking := s.setTermination_forall
        (fun hcl => absurd (hrem.closes.symm.trans hcl) nofun) fun hu _ => h.invoking hu }

theorem worker (hstep : s.WorkerStep s') : Ends s' := by
  cases hstep with
  | takes at_ next =>
    obtain ⟨-, rest, -, rfl⟩ := Queue.next_callback next
    exact h.serves (.holding _) { s.queue with tasks := rest } (by rw [at_]; rfl) rfl rfl rfl _ _ _
  | invokes at_ => exact h.serves (.running _) s.queue (by rw [at_]; rfl) rfl rfl rfl _ _ _
  | finishes at_ => exact h.serves .looping s.queue (by rw [at_]; rfl) rfl rfl rfl _ _ _
  | rests at_ next =>
    obtain ⟨-, -, rfl⟩ := Queue.next_empty next
    exact h.serves .waiting s.queue (by rw [at_]; rfl) rfl rfl rfl _ _ _
  | wakes at_ => exact h.serves .looping { s.queue with wake := false } (by rw [at_]; rfl) rfl rfl rfl _ _ _
  | stops at_ next =>
    obtain ⟨hcls, hnone, rfl⟩ := Queue.next_closed next
    exact
      { queued := fun hne => absurd rfl hne
        taken := fun _ => rfl
        stopped := fun _ => hcls
        fresh := h.fresh
        owner := fun _ hruns => absurd rfl hruns
        closing := fun ht hcl => by
          obtain ⟨_, _, hleft, -⟩ := h.closing ht hcl
          cases hnone.symm.trans (hleft.of_serving (by rw [at_]; rfl)).1
        invoking := h.invoking }
  | @closes call terminals _ at_ next =>
    obtain ⟨hcls, hsome, rfl⟩ := Queue.next_closed next
    exact
      { queued := fun hne => absurd rfl hne
        taken := fun _ => rfl
        stopped := fun _ => hcls
        fresh := h.fresh
        owner := fun hleft hruns => by
          cases hleft.of_taken rfl hruns
          exact h.owner (.queued hsome) (by rw [at_]; nofun)
        closing := fun ht hcl => by
          obtain ⟨_, _, hleft, hrem⟩ := h.closing ht hcl
          obtain ⟨hque, rfl⟩ := hleft.of_serving (by rw [at_]; rfl)
          cases hsome.symm.trans hque
          exact ⟨_, _, .held rfl, hrem⟩
        invoking := h.invoking }
  | @opens call terminals t at_ record released =>
    rw [← System.setTermination_self record]
    refine h.advances (by rw [at_]; rfl) record (.inl rfl) _ fun hr => ?_
    exact { hr with
      before := nofun
      after := fun _ => released }
  | @starts call a rest t at_ record =>
    refine h.advances (by rw [at_]; rfl) record (.inl rfl) _ fun hr => ?_
    exact { hr with
      split := by simpa using hr.split
      before := nofun }
  | goesOn at_ =>
    obtain ⟨t, record, -⟩ := h.owner (.held (by rw [at_]; rfl)) (by rw [at_]; nofun)
    rw [← System.setTermination_self record]
    exact h.advances (by rw [at_]; rfl) record (.inl rfl) _ id
  | ends at_ =>
    obtain ⟨t, record, -⟩ := h.owner (.held (by rw [at_]; rfl)) (by rw [at_]; nofun)
    rw [← System.setTermination_self record]
    exact h.advances (by rw [at_]; rfl) record (.inr ⟨rfl, rfl, rfl⟩) _ id

theorem records {call : Nat} (record : s.terminations call = some t)
    (closes : t'.closes = t.closes) (remains : ∀ {rest past}, Remains t rest past → Remains t' rest past)
    (invoking : t.closes = false → Invoking t → Invoking t') : Ends (s.setTermination call t') where
  queued := h.queued
  taken := h.taken
  stopped := h.stopped
  fresh := s.setTermination_forall (h.fresh record) fun hu _ => h.fresh hu
  owner {call' _ _} hleft hruns := by
    obtain ⟨u, hu, hcl⟩ := h.owner (hleft.congr rfl rfl) hruns
    by_cases hcall : call' = call
    · cases hcall
      cases record.symm.trans hu
      exact ⟨t', update_self .., closes.trans hcl⟩
    · exact ⟨u, (update_of_ne hcall ..).trans hu, hcl⟩
  closing := by
    refine s.setTermination_forall (fun hcl => ?_) fun hu _ hcl => ?_
    · obtain ⟨rest, past, hleft, hrem⟩ := h.closing record (closes.symm.trans hcl)
      exact ⟨rest, past, hleft.congr rfl rfl, remains hrem⟩
    · obtain ⟨rest, past, hleft, hrem⟩ := h.closing hu hcl
      exact ⟨rest, past, hleft.congr rfl rfl, hrem⟩
  invoking := by
    refine s.setTermination_forall (fun hcl => ?_) fun hu _ => h.invoking hu
    have hopen := closes.symm.trans hcl
    exact invoking hopen (h.invoking record hopen)

theorem submitBatch (callbacks : List (Option α)) : Ends (s.submitBatch callbacks) := by
  obtain ⟨-, hcls, hterm⟩ := s.submitBatch_keeps callbacks
  exact
    { queued := fun hne => hcls.trans (h.queued (hterm ▸ hne))
      taken := fun hw => hterm.trans (h.taken hw)
      stopped := fun hw => hcls.trans (h.stopped hw)
      fresh := fun hu => ⟨(h.fresh hu).1, hcls.trans (h.fresh hu).2⟩
      owner := fun hleft => h.owner (hleft.congr hterm.symm rfl)
      closing := fun hu hcl => by
        obtain ⟨rest, past, hleft, hrem⟩ := h.closing hu hcl
        exact ⟨rest, past, hleft.congr hterm rfl, hrem⟩
      invoking := h.invoking }

theorem serving (hopen : s.queue.closed = false) : s.worker.serving = true := by
  by_contra hw
  cases hopen.symm.trans (h.stopped (by simpa using hw))

theorem none_left {call : Nat} (hopen : s.queue.closed = false) : ¬ Left s call rest past := by
  intro hleft
  have hque := h.queued (by rw [(hleft.of_serving (h.serving hopen)).1]; nofun)
  cases hopen.symm.trans hque

theorem stop : Ends s.stop := by
  by_cases hcls : s.queue.closed = true
  · have hsame : s.stop = s := by rw [System.stop, Queue.closeWithTerminals_of_closed hcls]
    rwa [hsame]
  · have hopen : s.queue.closed = false := by simpa using hcls
    rw [System.stop, Queue.closeWithTerminals_of_open hopen]
    exact
      { queued := fun _ => rfl
        taken := fun _ => rfl
        stopped := fun _ => rfl
        fresh := fun hu => ⟨(h.fresh hu).1, rfl⟩
        owner := fun hleft hruns => absurd (.held (hleft.of_taken rfl hruns)) (h.none_left hopen)
        closing := fun hu => absurd (h.fresh hu).2 hcls
        invoking := h.invoking }

theorem beginTermination (terminals : List α) : Ends (s.beginTermination terminals) := by
  by_cases hcls : s.queue.closed = true
  · rw [System.beginTermination, Queue.closeWithTerminals_of_closed hcls]
    exact
      { queued := h.queued
        taken := h.taken
        stopped := h.stopped
        fresh := s.setTermination_forall ⟨Nat.lt_succ_self _, hcls⟩ fun hu _ =>
          ⟨Nat.lt_succ_of_lt (h.fresh hu).1, hcls⟩
        owner := fun hleft hruns => by
          obtain ⟨u, hu, hcl⟩ := h.owner (hleft.congr rfl rfl) hruns
          exact ⟨u, (update_of_ne (Nat.ne_of_lt (h.fresh hu).1) ..).trans hu, hcl⟩
        closing := by
          refine s.setTermination_forall nofun fun hu _ hcl => ?_
          obtain ⟨rest, past, hleft, hrem⟩ := h.closing hu hcl
          exact ⟨rest, past, hleft.congr rfl rfl, hrem⟩
        invoking := s.setTermination_forall (fun _ => (rfl : ([] : List α) = [])) fun hu _ => h.invoking hu }
  · have hopen : s.queue.closed = false := by simpa using hcls
    have hnew {p : Prop} {call call' u} (hu : s.terminations call = some u) (_ : call ≠ call') : p :=
      absurd (h.fresh hu).2 hcls
    rw [System.beginTermination, Queue.closeWithTerminals_of_open hopen]
    exact
      { queued := fun _ => rfl
        taken := fun hw => absurd (h.stopped hw) hcls
        stopped := fun _ => rfl
        fresh := s.setTermination_forall ⟨Nat.lt_succ_self _, rfl⟩ hnew
        owner := fun hleft hruns => by
          cases hleft with
          | queued hq =>
            cases hq
            exact ⟨_, update_self .., rfl⟩
          | held hw => exact absurd (.held hw) (h.none_left hopen)
          | ended hw => exact absurd hw hruns
        closing := s.setTermination_forall
          (fun _ => ⟨terminals, false, .queued rfl, rfl, .inl rfl, rfl, fun _ => rfl, nofun⟩) hnew
        invoking := s.setTermination_forall nofun hnew }

theorem call (hstep : s.CallStep s') : Ends s' := by
  cases hstep with
  | submits callbacks => exact h.submitBatch callbacks
  | stops => exact h.stop
  | begins => exact h.beginTermination _
  | @releases call t record held =>
    refine h.records record rfl (fun hr => ?_) (fun hcl hran => ?_)
    · have hret : (if t.closes then Release.returned else .invoking t.terminals) = .returned :=
        if_pos hr.closes
      exact { hr with
        release := .inr hret
        after := fun _ => hret }
    · simp only [Invoking, held] at hran
      simp [Invoking, hcl, hran]
  | invokes record at_ | goesOn record at_ | returns record at_ =>
    refine h.records record rfl (fun hr => (hr.settled at_ nofun nofun).elim) fun _ hran => ?_
    simp only [Invoking, at_] at hran
    simp [Invoking, hran]

end Ends

/-! ## Everything that the worker has started -/

structure Log (s : System α) : Prop where
  serving : s.worker.serving = true → s.invoked = s.started
  closing : ∀ {call t}, s.terminations call = some t → t.closes = true → s.invoked = s.started ++ t.ran

namespace Log

theorem new (capacity : Nat) : Log (System.new (α := α) capacity) where
  serving _ := rfl
  closing := nofun

theorem worker (h : Log s) (ends : Ends s) (hstep : s.WorkerStep s') : Log s' := by
  cases hstep with
  | invokes at_ =>
    have hserving : s.worker.serving = true := by rw [at_]; rfl
    have heq := h.serving hserving
    refine ⟨fun _ => by rw [heq], fun hu hcl => ?_⟩
    -- The terminal callbacks are still in the queue.
    obtain ⟨_, _, hleft, hrem⟩ := ends.closing hu hcl
    obtain ⟨-, rfl⟩ := hleft.of_serving hserving
    rw [heq, hrem.before rfl, List.append_nil]
  | takes at_ | finishes at_ | rests at_ | wakes at_ =>
    exact { serving := fun _ => h.serving (by rw [at_]; rfl), closing := h.closing }
  | stops | closes | opens | goesOn | ends => exact { serving := nofun, closing := h.closing }
  | @starts call a rest t at_ record =>
    have hheld : s.worker.left = some (call, a :: rest, true) := by rw [at_]; rfl
    refine ⟨nofun, s.setTermination_forall (fun hcl => ?_) fun hu hne hcl =>
      absurd (ends.holder hheld hu hcl) hne⟩
    change s.invoked ++ [a] = s.started ++ (t.ran ++ [a])
    rw [h.closing record hcl, List.append_assoc]

theorem call (h : Log s) (ends : Ends s) (hstep : s.CallStep s') : Log s' := by
  cases hstep with
  | submits | stops => exact { h with }
  | @begins terminals =>
    refine { h with closing := s.setTermination_forall (fun hcl => ?_) fun hu _ => h.closing hu }
    -- The call has closed the queue, so the worker was serving.
    have hopen : s.queue.closed = false := by
      by_contra hcls
      rw [Queue.closeWithTerminals_of_closed (by simpa using hcls)] at hcl
      cases hcl
    exact (h.serving (ends.serving hopen)).trans (List.append_nil _).symm
  | @releases _ t record | @goesOn _ t _ record | @returns _ t record =>
    exact { h with closing := s.setTermination_forall (h.closing (t := t) record) fun hu _ => h.closing hu }
  | invokes record at_ =>
    refine { h with closing := s.setTermination_forall (fun hcl => ?_) fun hu _ => h.closing hu }
    -- The call that closed the queue invokes nothing itself.
    obtain ⟨_, _, -, hrem⟩ := ends.closing record hcl
    exact (hrem.settled at_ nofun nofun).elim

end Log

/-! ## The contract -/

theorem sound (h : Reachable (· = System.new capacity) Step s) : Flow s ∧ Ends s ∧ Log s := by
  apply h.invariant
  · rintro _ rfl
    exact ⟨.new capacity, .new capacity, .new capacity⟩
  · rintro s l t hstep ⟨hflow, hends, hlog⟩
    cases hstep with
    | worker hw => exact ⟨hflow.worker hw, hends.worker hw, hlog.worker hends hw⟩
    | call hc => exact ⟨hflow.call hc, hends.call hc, hlog.call hends hc⟩

theorem Step.capacity_eq (h : Step s () s') : s'.queue.capacity = s.queue.capacity := by
  cases h with
  | worker hw => exact hw.keeps.1
  | call hc =>
    cases hc with
    | submits callbacks => exact (s.submitBatch_keeps callbacks).1
    | stops =>
      simp only [System.stop, Queue.closeWithTerminals]
      split <;> rfl
    | begins =>
      simp only [System.beginTermination, Queue.closeWithTerminals]
      split <;> rfl
    | _ => rfl

theorem capacity_eq (h : Reachable (· = System.new capacity) Step s) : s.queue.capacity = capacity := by
  apply h.invariant
  · rintro _ rfl
    rfl
  · intro s l t hstep hs
    exact hstep.capacity_eq.trans hs

/-- Only `next` takes a callback, and only while the queue is open. -/
theorem Step.closed (h : Step s () s') (hcls : s.queue.closed = true) :
    s'.queue.closed = true ∧ s'.started ++ s'.worker.taken = s.started ++ s.worker.taken := by
  cases h with
  | worker hw =>
    refine ⟨hw.keeps.2.trans hcls, ?_⟩
    cases hw with
    | takes _ next => cases (Queue.next_callback next).1.symm.trans hcls
    | invokes at_ | finishes at_ | rests at_ | wakes at_ | stops at_ | closes at_ | opens at_ | starts at_
    | goesOn at_ | ends at_ => simp [at_, System.setTermination]
  | call hc =>
    cases hc with
    | submits callbacks => exact ⟨(s.submitBatch_keeps callbacks).2.1.trans hcls, rfl⟩
    | stops =>
      rw [System.stop, Queue.closeWithTerminals_of_closed hcls]
      exact ⟨hcls, rfl⟩
    | begins =>
      rw [System.beginTermination, Queue.closeWithTerminals_of_closed hcls]
      exact ⟨hcls, rfl⟩
    | _ => exact ⟨hcls, rfl⟩

namespace Ends

variable {call : Nat}

theorem ran_prefix (h : Ends s) (ht : s.terminations call = some t) : t.ran <+: t.terminals := by
  cases hcl : t.closes
  · have hran := h.invoking ht hcl
    unfold Invoking at hran
    split at hran
    · rw [hran]
      exact List.nil_prefix
    · exact ⟨_, hran.symm⟩
    · exact ⟨_, hran.symm⟩
    · rw [hran]
  · obtain ⟨rest, _, -, hrem⟩ := h.closing ht hcl
    exact ⟨rest, hrem.split.symm⟩

theorem ran_held (h : Ends s) (ht : s.terminations call = some t) (held : t.release = .held) : t.ran = [] := by
  cases hcl : t.closes
  · simpa only [Invoking, held] using h.invoking ht hcl
  · obtain ⟨_, past, -, hrem⟩ := h.closing ht hcl
    cases past
    · exact hrem.before rfl
    · cases held.symm.trans (hrem.after rfl)

theorem ran_after (h : Ends s) (ht : s.terminations call = some t) (hcl : t.closes = true)
    (hran : t.ran ≠ []) : s.worker.inHand = [] ∧ s.worker.taken = [] := by
  obtain ⟨_, past, hleft, hrem⟩ := h.closing ht hcl
  cases hleft with
  | queued => exact absurd (hrem.before rfl) hran
  | held hw => cases hx : s.worker <;> first | exact ⟨rfl, rfl⟩ | simp [hx, Worker.left] at hw
  | ended hw => rw [hw]; exact ⟨rfl, rfl⟩

theorem ran_ended (h : Ends s) (ht : s.terminations call = some t) (hcl : t.closes = true)
    (hended : s.worker = .ended) : t.ran = t.terminals := by
  obtain ⟨_, _, hleft, hrem⟩ := h.closing ht hcl
  cases hleft with
  | queued hq => cases (h.taken (by rw [hended]; rfl)).symm.trans hq
  | held hw =>
    rw [hended] at hw
    cases hw
  | ended => rw [hrem.split, List.append_nil]

end Ends

/-- The contract of the callback queue.  Once it is closed no callback is taken, and at most the one that the
worker has taken before is started. -/
theorem callback_queue_contract (capacity : Nat) (h : Reachable (· = System.new capacity) Step s) :
    (∀ callbacks : List (Option α),
      (∃ e, (s.queue.submitBatch callbacks).1 = some e ∧ s.submitBatch callbacks = s) ∨
      ∃ fns : List α, callbacks = fns.map some ∧ (s.queue.submitBatch callbacks).1 = none ∧
        (s.submitBatch callbacks).queue.tasks = s.queue.tasks ++ fns ∧
        (s.submitBatch callbacks).accepted = s.accepted ++ fns) ∧
    s.queue.tasks.length ≤ capacity ∧
    s.started <+: s.accepted ∧
    (s.queue.closed = true → ∀ s', Reachable (· = s) Step s' →
      s'.started ++ s'.worker.taken = s.started ++ s.worker.taken) ∧
    (∀ call t, s.terminations call = some t → t.ran <+: t.terminals ∧ (t.release = .held → t.ran = []) ∧
      (t.closes = true → s.invoked = s.started ++ t.ran ∧
        (t.ran ≠ [] → s.finished = s.started ∧ s.worker.taken = []) ∧
        (s.worker = .ended → t.ran = t.terminals)) ∧
      (t.closes = false → t.release = .returned → t.ran = t.terminals)) ∧
    (s.worker = .waiting → s.queue.tasks ≠ [] ∨ s.queue.closed = true → s.queue.readable = true) := by
  obtain ⟨hflow, hends, hlog⟩ := sound h
  refine ⟨fun callbacks => ?_, ?_, (List.prefix_append _ _).trans hflow.order, fun hcls s' h' => ?_,
    fun call t ht => ?_, fun hw => ?_⟩
  · obtain href | ⟨-, -, hall, hnone, hacc⟩ := s.submitBatch_cases callbacks
    · exact .inl href
    · exact .inr ⟨callbacks.filterMap id, hall, hnone, by rw [hacc], by rw [hacc]⟩
  · exact capacity_eq h ▸ hflow.bound
  · refine (h'.invariant (P := fun x => x.queue.closed = true ∧
      x.started ++ x.worker.taken = s.started ++ s.worker.taken) ?_ fun x _ y hstep hx => ?_).2
    · rintro _ rfl
      exact ⟨hcls, rfl⟩
    · exact (hstep.closed hx.1).imp_right (·.trans hx.2)
  · refine ⟨hends.ran_prefix ht, hends.ran_held ht,
      fun hcl => ⟨hlog.closing ht hcl, fun hran => ?_, hends.ran_ended ht hcl⟩,
      fun hcl hret => ?_⟩
    · have hin := hflow.inHand
      obtain ⟨hnone, htaken⟩ := hends.ran_after ht hcl hran
      rw [hnone, List.append_nil] at hin
      exact ⟨hin.symm, htaken⟩
    · simpa only [Invoking, hret] using hends.invoking ht hcl
  · rintro (hsome | hcls)
    · simp [Queue.readable, hflow.wake hw hsome]
    · simp [Queue.readable, (hflow.closed hcls).2]

/-- A callback is accepted and taken, a termination closes the queue before it is called, and its callback has
run when the worker has ended. -/
theorem callback_queue_contract_terminated : ∃ s : System Nat,
    Reachable (· = System.new 1) Step s ∧ s.started = [1] ∧ s.worker = .ended ∧
    ∃ t, s.terminations 0 = some t ∧ t.terminals = [2] ∧ t.ran = t.terminals := by
  have h₀ : Reachable (· = System.new 1) Step (System.new (α := Nat) 1) := .init_state rfl
  have h₁ := h₀.next (.call (.submits [some 1]))
  have h₂ := h₁.next (.worker (.takes (a := 1) rfl rfl))
  have h₃ := h₂.next (.call (@System.CallStep.begins _ _ [2] nofun))
  have h₄ := h₃.next (.worker (.invokes rfl))
  have h₅ := h₄.next (.worker (.finishes rfl))
  have h₆ := h₅.next (.worker (.closes rfl rfl))
  have h₇ := h₆.next (.call (@System.CallStep.releases _ _ 0 ⟨[2], true, .held, []⟩ rfl rfl))
  have h₈ := h₇.next (.worker (.opens (t := ⟨[2], true, .returned, []⟩) rfl rfl rfl))
  have h₉ := h₈.next (.worker (.starts (t := ⟨[2], true, .returned, []⟩) rfl rfl))
  have h₁₀ := h₉.next (.worker (.goesOn rfl))
  have h₁₁ := h₁₀.next (.worker (.ends rfl))
  obtain ⟨-, -, -, -, hterm, -⟩ := callback_queue_contract 1 h₁₁
  have hran := ((hterm 0 ⟨[2], true, .returned, [2]⟩ rfl).2.2.1 rfl).2.2 rfl
  exact ⟨_, h₁₁, rfl, rfl, ⟨[2], true, .returned, [2]⟩, rfl, rfl, hran⟩

/-- `Stop` comes between `next` and the call. -/
theorem started_after_close : ∃ s s' : System Nat, Reachable (· = System.new 1) Step s ∧
    s.queue.closed = true ∧ s.started = [] ∧ Step s () s' ∧ s'.started = [1] := by
  have h₀ : Reachable (· = System.new 1) Step (System.new (α := Nat) 1) := .init_state rfl
  have h₁ := h₀.next (.call (.submits [some 1]))
  have h₂ := h₁.next (.worker (.takes (a := 1) rfl rfl))
  exact ⟨_, _, h₂.next (.call .stops), rfl, rfl, .worker (.invokes (a := 1) rfl), rfl⟩

end Yola.Callbacks
