import Yola.Inbound.Dispatcher

/-!
# The authentication barrier and the order of requests

Until authentication has succeeded the read loop handles one message after the other.  Afterwards what it
reads goes through the queue to one goroutine, which ends at its first failure.
-/

namespace Yola.Inbound

open Reasoning

variable {Message Reply : Type} {p : Protocol Message Reply} {capacity : Nat} {stream : List Message}
  {d d' : Dispatcher Message Reply} {m : Message}

def Protocol.requests (p : Protocol Message Reply) (messages : List Message) : List Message :=
  messages.filter fun m => !p.heartbeat m

theorem Protocol.requests_append (l l' : List Message) : p.requests (l ++ l') = p.requests l ++ p.requests l' :=
  List.filter_append ..

theorem Protocol.requests_single (h : p.heartbeat m = false) : p.requests [m] = [m] := by
  simp [requests, h]

theorem Protocol.requests_heartbeat (h : p.heartbeat m = true) : p.requests [m] = [] := by
  simp [requests, h]

theorem Protocol.requests_le (m : Message) : (p.requests [m]).length ≤ 1 := List.length_filter_le ..

/-! ## What the two goroutines have in hand -/

namespace Reader

def hand : Reader Message Reply → List Message
  | .entering m | .handling m => [m]
  | _ => []

def busy : Reader Message Reply → List Message
  | .invoking m | .replying m _ => [m]
  | _ => []

def beat : Reader Message Reply → List Message
  | .beating m | .echoing m _ => [m]
  | _ => []

def isOpen : Reader Message Reply → Bool
  | .leaving | .joining | .stopped => false
  | _ => true

end Reader

namespace Worker

def hand : Worker Message Reply → List Message
  | .checking m => [m]
  | _ => []

def busy : Worker Message Reply → List Message
  | .running m | .replying m _ => [m]
  | _ => []

def isOpen : Worker Message Reply → Bool
  | .failing | .closing | .done => false
  | _ => true

end Worker

/-! ## The order of requests -/

/-- Requests are invoked in the order they arrive in.  As long as nobody has left, all that has arrived or
will arrive is somewhere on its way. -/
structure Ordered (p : Protocol Message Reply) (stream invoked : List Message) (worker : Worker Message Reply)
    (requests : List Message) (reader : Reader Message Reply) (inbound : List Message) : Prop where
  order : p.requests invoked <+: p.requests stream
  queued : worker.isOpen = true → p.requests invoked ++ worker.hand ++ requests <+: p.requests stream
  flow : worker.isOpen = true → reader.isOpen = true →
    p.requests invoked ++ worker.hand ++ requests ++ p.requests (reader.hand ++ inbound) = p.requests stream
  pure : ∀ m ∈ worker.hand ++ requests, p.heartbeat m = false
  sync : worker = .absent → requests = []

namespace Ordered

variable {invoked requests inbound : List Message} {worker : Worker Message Reply} {reader : Reader Message Reply}

variable (h : Ordered p stream invoked worker requests reader inbound)

include h

theorem leaves {reader' : Reader Message Reply}
    (closed : reader'.isOpen = false) : Ordered p stream invoked worker requests reader' inbound :=
  { h with flow := fun _ hopen => absurd (closed.symm.trans hopen) nofun }

theorem quits {worker' : Worker Message Reply}
    (closed : worker'.isOpen = false) (hand : worker'.hand = []) (present : worker' ≠ .absent) :
    Ordered p stream invoked worker' requests reader inbound where
  order := h.order
  queued hopen := absurd (closed.symm.trans hopen) nofun
  flow hopen := absurd (closed.symm.trans hopen) nofun
  pure m hm := h.pure m (List.mem_append_right _ (by simpa [hand] using hm))
  sync habsent := absurd habsent present

end Ordered

theorem Dispatcher.authenticated_eq_false : d.authenticated = false ↔ d.worker = .absent := by
  unfold authenticated
  cases d.worker <;> simp

theorem Dispatcher.authenticated_eq_true : d.authenticated = true ↔ d.worker ≠ .absent := by
  unfold authenticated
  cases d.worker <;> simp

/-- The order in a dispatcher. -/
def Dispatcher.Ordered (p : Protocol Message Reply) (stream : List Message) (d : Dispatcher Message Reply) : Prop :=
  Inbound.Ordered p stream d.invoked d.worker d.requests d.reader d.inbound

namespace Dispatcher.Ordered

theorem reader (h : d.Ordered p stream) (sync : d.reader.busy ≠ [] → d.worker = .absent)
    (hstep : d.ReaderStep p capacity d') : d'.Ordered p stream := by
  unfold Dispatcher.Ordered at h ⊢
  cases hstep with
  | reads at_ inbound =>
    rw [at_, inbound] at h
    exact { h with }
  | fails | refuses | errs | drops | misses | mutes | overflows | cancels | stops => exact h.leaves rfl
  | enters at_ | answers at_ | replies at_ | beaten at_ | echoes at_ =>
    rw [at_] at h
    exact { h with }
  | @invokes m at_ barrier =>
    have habs := authenticated_eq_false.mp barrier
    have hemp := h.sync habs
    rw [at_, habs, hemp] at h
    rw [habs, hemp]
    have hflow := h.flow rfl rfl
    simp only [Worker.hand, Reader.hand, List.append_nil, p.requests_append] at hflow
    rw [← List.append_assoc, ← p.requests_append] at hflow
    exact
      { order := ⟨_, hflow⟩
        queued := fun _ => ⟨_, by simpa [Worker.hand] using hflow⟩
        flow := fun _ _ => by simpa [Worker.hand, Reader.hand] using hflow
        pure := nofun
        sync := fun _ => rfl }
  | authenticates at_ =>
    have habs := sync (by rw [at_]; nofun)
    rw [at_, habs] at h
    exact { h with sync := nofun }
  | @beats m at_ _ heartbeat =>
    have hsame : p.requests (d.invoked ++ [m]) = p.requests d.invoked := by
      rw [p.requests_append, p.requests_heartbeat heartbeat, List.append_nil]
    rw [at_] at h
    exact
      { h with
        order := hsame ▸ h.order
        queued := hsame ▸ h.queued
        flow := fun hw _ => by
          have hflow := h.flow hw rfl
          rw [Reader.hand, p.requests_append, p.requests_heartbeat heartbeat] at hflow
          rw [hsame]
          exact hflow }
  | @enqueues m at_ passed request =>
    rw [at_] at h
    have hflow : d.worker.isOpen = true →
        p.requests d.invoked ++ d.worker.hand ++ (d.requests ++ [m]) ++ p.requests d.inbound = p.requests stream := by
      intro hw
      have hflow := h.flow hw rfl
      rw [Reader.hand, p.requests_append, p.requests_single request] at hflow
      simpa using hflow
    exact
      { order := h.order
        queued := fun hw => ⟨_, hflow hw⟩
        flow := fun hw _ => hflow hw
        pure := fun x hx => by
          rw [← List.append_assoc] at hx
          obtain hold | hnew := List.mem_append.mp hx
          · exact h.pure x hold
          · rw [List.mem_singleton.mp hnew, request]
        sync := fun habs => absurd habs (authenticated_eq_true.mp passed) }

theorem worker (h : d.Ordered p stream) (hstep : d.WorkerStep d') : d'.Ordered p stream := by
  unfold Dispatcher.Ordered at h ⊢
  cases hstep with
  | @takes m rest at_ requests =>
    rw [at_, requests] at h
    exact
      { order := h.order
        queued := fun _ => by simpa [Worker.hand] using h.queued rfl
        flow := fun _ hr => by simpa [Worker.hand] using h.flow rfl hr
        pure := h.pure
        sync := nofun }
  | quits | discards | errs | drops | cancels | ends => exact h.quits rfl rfl nofun
  | @invokes m at_ =>
    rw [at_] at h
    have hsame : p.requests (d.invoked ++ [m]) = p.requests d.invoked ++ [m] := by
      rw [p.requests_append, p.requests_single (h.pure m (by simp [Worker.hand]))]
    have hque := h.queued rfl
    exact
      { order := by
          rw [hsame]
          exact (List.prefix_append _ _).trans hque
        queued := fun _ => by
          rw [hsame]
          simpa [Worker.hand] using hque
        flow := fun _ hr => by
          rw [hsame]
          simpa [Worker.hand] using h.flow rfl hr
        pure := fun x hx => h.pure x (List.mem_append_right _ hx)
        sync := nofun }
  | answers at_ | replies at_ =>
    rw [at_] at h
    exact { h with sync := nofun }

end Dispatcher.Ordered

/-! ## Handling and replying -/

/-- Every request has its reply but the last, which is the one that is being handled unless it has failed. -/
def Pairs (p : Protocol Message Reply) (invoked replied : List Message) (failed : Bool) (busy : List Message) :
    Prop :=
  ∃ rest, p.requests invoked = p.requests replied ++ rest ∧ rest.length ≤ 1 ∧
    (failed = false → rest = p.requests busy)

namespace Pairs

variable {invoked replied busy : List Message} {failed : Bool} {m : Message}

theorem starts (h : Pairs p invoked replied false []) : Pairs p (invoked ++ [m]) replied false [m] := by
  obtain ⟨rest, hrest, -, hbusy⟩ := h
  cases hbusy rfl
  refine ⟨p.requests [m], ?_, p.requests_le m, fun _ => rfl⟩
  rw [p.requests_append, hrest]
  simp [Protocol.requests]

theorem replies (h : Pairs p invoked replied false [m]) : Pairs p invoked (replied ++ [m]) false [] := by
  obtain ⟨rest, hrest, -, hbusy⟩ := h
  cases hbusy rfl
  refine ⟨[], ?_, Nat.zero_le _, fun _ => rfl⟩
  rw [p.requests_append, hrest, List.append_nil]

variable (h : Pairs p invoked replied failed busy)

include h

theorem fails : Pairs p invoked replied true [] := by
  obtain ⟨rest, hrest, hle, -⟩ := h
  exact ⟨rest, hrest, hle, nofun⟩

theorem beats (heartbeat : p.heartbeat m = true) : Pairs p (invoked ++ [m]) replied failed busy := by
  rwa [Pairs, p.requests_append, p.requests_heartbeat heartbeat, List.append_nil]

theorem echoes (heartbeat : p.heartbeat m = true) : Pairs p invoked (replied ++ [m]) failed busy := by
  rwa [Pairs, p.requests_append, p.requests_heartbeat heartbeat, List.append_nil]

end Pairs

structure Paired (p : Protocol Message Reply) (d : Dispatcher Message Reply) : Prop where
  sync : d.reader.busy ≠ [] → d.worker = .absent
  beating : ∀ m ∈ d.reader.beat, p.heartbeat m = true
  pairs : Pairs p d.invoked d.replied d.failed (d.reader.busy ++ d.worker.busy)
  halted : d.failed = true → d.worker.isOpen = false ∨ d.worker = .absent ∧ d.reader.isOpen = false
  joined : d.reader = .stopped → d.worker = .absent ∨ d.worker = .done

namespace Paired

variable (h : Paired p d) {cancelled : Bool}

include h

/-- Nothing has failed as long as the goroutine is there and may invoke, or the read loop does before it. -/
theorem not_failed (worker : d.worker.isOpen = true)
    (reader : d.worker = .absent → d.reader.isOpen = true) : d.failed = false := by
  by_contra hfailed
  obtain hw | ⟨hw, hr⟩ := h.halted (by simpa using hfailed)
  · cases hw.symm.trans worker
  · cases hr.symm.trans (reader hw)

theorem halted_worker (reader : d.reader.isOpen = true) (failed : d.failed = true) : d.worker.isOpen = false := by
  obtain hw | ⟨-, hr⟩ := h.halted failed
  · exact hw
  · cases hr.symm.trans reader

theorem replied {m : Message} {r : Reply} (at_ : d.reader = .replying m r)
    {worker : Worker Message Reply} (idle : worker.busy = []) :
    Paired p { d with reader := .reading, worker := worker, replied := d.replied ++ [m] } := by
  have habs := h.sync (by rw [at_]; nofun)
  have hlive := h.not_failed (by rw [habs]; rfl) (fun _ => by rw [at_]; rfl)
  have hpairs := h.pairs
  rw [at_, habs, hlive] at hpairs
  exact
    { sync := fun hne => absurd rfl hne
      beating := nofun
      pairs := by
        change Pairs p d.invoked (d.replied ++ [m]) d.failed worker.busy
        rw [hlive, idle]
        exact hpairs.replies
      halted := fun hf => absurd (hlive.symm.trans hf) nofun
      joined := nofun }

theorem reads {reader : Reader Message Reply} {inbound requests : List Message}
    (before : d.reader.busy = []) (after : reader.busy = [])
    (beating : ∀ m ∈ reader.beat, p.heartbeat m = true)
    (closed : d.reader.isOpen = false → reader.isOpen = false)
    (joined : reader = .stopped → d.worker = .absent ∨ d.worker = .done) :
    Paired p { d with reader := reader, inbound := inbound, requests := requests, cancelled := cancelled } where
  sync hne := absurd after hne
  beating := beating
  pairs := by
    have hpairs := h.pairs
    rw [before] at hpairs
    change Pairs p d.invoked d.replied d.failed (reader.busy ++ d.worker.busy)
    rwa [after]
  halted hf := (h.halted hf).imp id fun ⟨hw, hr⟩ => ⟨hw, closed hr⟩
  joined := joined

theorem reader (hstep : d.ReaderStep p capacity d') : Paired p d' := by
  cases hstep with
  | reads at_ | enters at_ | enqueues at_ =>
    exact h.reads (by rw [at_]; rfl) rfl nofun (by rw [at_]; nofun) nofun
  | fails at_ | refuses at_ | misses at_ | mutes at_ | overflows at_ | cancels at_ =>
    exact h.reads (by rw [at_]; rfl) rfl nofun (fun _ => rfl) nofun
  | stops at_ joined => exact h.reads (by rw [at_]; rfl) rfl nofun (fun _ => rfl) fun _ => joined
  | beaten at_ =>
    refine h.reads (by rw [at_]; rfl) rfl ?_ (by rw [at_]; nofun) nofun
    have hbeat := h.beating
    rw [at_] at hbeat
    exact hbeat
  | @invokes m at_ barrier =>
    have habsent := Dispatcher.authenticated_eq_false.mp barrier
    have hlive := h.not_failed (by rw [habsent]; rfl) (fun _ => by rw [at_]; rfl)
    have hpairs := h.pairs
    rw [at_, habsent, hlive] at hpairs
    exact
      { sync := fun _ => habsent
        beating := nofun
        pairs := by
          change Pairs p _ d.replied d.failed ([m] ++ d.worker.busy)
          rw [hlive, habsent]
          exact hpairs.starts
        halted := fun hf => absurd (hlive.symm.trans hf) nofun
        joined := nofun }
  | @answers m r at_ =>
    have hpairs := h.pairs
    rw [at_] at hpairs
    exact
      { sync := fun _ => h.sync (by rw [at_]; nofun)
        beating := nofun
        pairs := hpairs
        halted := fun hf => .inl (h.halted_worker (by rw [at_]; rfl) hf)
        joined := nofun }
  | errs at_ | drops at_ =>
    have habsent := h.sync (by rw [at_]; nofun)
    exact
      { sync := fun hne => absurd rfl hne
        beating := nofun
        pairs := by
          change Pairs p d.invoked d.replied true d.worker.busy
          rw [habsent]
          exact h.pairs.fails
        halted := fun _ => .inr ⟨habsent, rfl⟩
        joined := nofun }
  | replies at_ => exact h.replied at_ (by rw [h.sync (by rw [at_]; nofun)]; rfl)
  | authenticates at_ => exact h.replied at_ rfl
  | @beats m at_ _ heartbeat =>
    have hpairs := h.pairs
    rw [at_] at hpairs
    exact
      { sync := fun hne => absurd rfl hne
        beating := fun x hx => by rw [List.mem_singleton.mp hx, heartbeat]
        pairs := hpairs.beats heartbeat
        halted := fun hf => .inl (h.halted_worker (by rw [at_]; rfl) hf)
        joined := nofun }
  | @echoes m r at_ =>
    have hpairs := h.pairs
    have hbeat := h.beating
    rw [at_] at hpairs hbeat
    exact
      { sync := fun hne => absurd rfl hne
        beating := nofun
        pairs := hpairs.echoes (hbeat m List.mem_cons_self)
        halted := fun hf => .inl (h.halted_worker (by rw [at_]; rfl) hf)
        joined := nofun }

/-- While there is a goroutine, the read loop handles nothing but heartbeats. -/
theorem idle (present : d.worker ≠ .absent) : d.reader.busy = [] := by
  by_contra hbusy
  exact present (h.sync hbusy)

theorem works (present : d.worker ≠ .absent) (ended : d.worker ≠ .done)
    {worker : Worker Message Reply} {requests invoked replied : List Message} {failed : Bool}
    (pairs : Pairs p d.invoked d.replied d.failed d.worker.busy → Pairs p invoked replied failed worker.busy)
    (halted : failed = true → worker.isOpen = false) : Paired p { d with
      worker := worker
      requests := requests
      cancelled := cancelled
      invoked := invoked
      replied := replied
      failed := failed } where
  sync hne := absurd (h.sync hne) present
  beating := h.beating
  pairs := by
    have hpairs := h.pairs
    rw [h.idle present] at hpairs
    change Pairs p invoked replied failed (d.reader.busy ++ worker.busy)
    rw [h.idle present]
    exact pairs hpairs
  halted hf := .inl (halted hf)
  joined hr := (h.joined hr).elim (fun hw => absurd hw present) fun hw => absurd hw ended

theorem worker (hstep : d.WorkerStep d') : Paired p d' := by
  have hcls : ∀ {w}, d.worker = w → w ≠ .absent → d.failed = true → w.isOpen = false := by
    rintro w rfl hne hf
    exact (h.halted hf).elim id fun ⟨hw, _⟩ => absurd hw hne
  have hlive : ∀ {w}, d.worker = w → w ≠ .absent → w.isOpen = true → d.failed = false := by
    rintro w rfl hne hopen
    exact h.not_failed hopen fun hw => absurd hw hne
  cases hstep with
  | takes at_ | answers at_ =>
    refine h.works (by rw [at_]; nofun) (by rw [at_]; nofun) ?_ fun hf => absurd (hcls at_ nofun hf) nofun
    rw [at_]
    exact id
  | quits at_ | discards at_ | cancels at_ | ends at_ =>
    refine h.works (by rw [at_]; nofun) (by rw [at_]; nofun) ?_ fun _ => rfl
    rw [at_]
    exact id
  | invokes at_ =>
    refine h.works (by rw [at_]; nofun) (by rw [at_]; nofun) ?_ fun hf => absurd (hcls at_ nofun hf) nofun
    rw [at_, hlive at_ nofun rfl]
    exact Pairs.starts
  | replies at_ =>
    refine h.works (by rw [at_]; nofun) (by rw [at_]; nofun) ?_ fun hf => absurd (hcls at_ nofun hf) nofun
    rw [at_, hlive at_ nofun rfl]
    exact Pairs.replies
  | errs at_ | drops at_ =>
    exact h.works (by rw [at_]; nofun) (by rw [at_]; nofun) Pairs.fails fun _ => rfl

end Paired

/-! ## The barrier -/

structure Barrier (stream : List Message) (d : Dispatcher Message Reply) : Prop where
  stream : d.worker = .absent → d.reader.isOpen = true → d.invoked ++ d.reader.hand ++ d.inbound = stream
  last : ∀ {m}, d.reader.busy = [m] → ∃ before, d.invoked = before ++ [m]

theorem Barrier.reader (h : Barrier stream d) (hstep : d.ReaderStep p capacity d') : Barrier stream d' := by
  cases hstep with
  | reads at_ inbound =>
    refine { stream := fun hw _ => ?_, last := nofun }
    have hall := h.stream hw (by rw [at_]; rfl)
    rw [at_, inbound] at hall
    simpa [Reader.hand] using hall
  | fails | refuses | errs | drops | misses | mutes | overflows | cancels | stops
  | authenticates =>
    exact { stream := nofun, last := nofun }
  | enters at_ | replies at_ | beaten at_ | echoes at_ =>
    refine { stream := fun hw _ => ?_, last := nofun }
    have hall := h.stream hw (by rw [at_]; rfl)
    rwa [at_] at hall
  | answers at_ =>
    have hlast := @h.last
    refine { stream := fun hw _ => ?_, last := ?_ }
    · have hall := h.stream hw (by rw [at_]; rfl)
      rwa [at_] at hall
    · rwa [at_] at hlast
  | @invokes m at_ =>
    refine { stream := fun hw _ => ?_, last := fun hb => ⟨d.invoked, ?_⟩ }
    · have hall := h.stream hw (by rw [at_]; rfl)
      rw [at_] at hall
      simpa [Reader.hand] using hall
    · cases hb
      rfl
  | beats _ passed | enqueues _ passed =>
    have hpresent := Dispatcher.authenticated_eq_true.mp passed
    exact { stream := fun hw => absurd hw hpresent, last := nofun }

theorem Barrier.worker (paired : Paired p d) (hstep : d.WorkerStep d') : Barrier stream d' := by
  have hpresent : d.worker ≠ .absent := by
    intro hw
    cases hstep <;> simp_all
  have hidle := paired.idle hpresent
  cases hstep <;>
  · refine { stream := nofun, last := fun hb => ?_ }
    cases hidle.symm.trans hb

/-! ## The theorem -/

structure Sound (p : Protocol Message Reply) (stream : List Message) (d : Dispatcher Message Reply) : Prop where
  ordered : d.Ordered p stream
  paired : Paired p d
  barrier : Barrier stream d

namespace Sound

theorem new : Sound p stream (.new stream) where
  ordered :=
    { order := List.nil_prefix
      queued := fun _ => List.nil_prefix
      flow := fun _ _ => rfl
      pure := nofun
      sync := fun _ => rfl }
  paired :=
    { sync := fun hne => absurd rfl hne
      beating := nofun
      pairs := ⟨[], rfl, Nat.zero_le _, fun _ => rfl⟩
      halted := nofun
      joined := nofun }
  barrier := { stream := fun _ _ => rfl, last := nofun }

theorem step (h : Sound p stream d) (hstep : Step p capacity d () d') : Sound p stream d' := by
  cases hstep with
  | reader hr => exact ⟨h.ordered.reader h.paired.sync hr, h.paired.reader hr, h.barrier.reader hr⟩
  | worker hw => exact ⟨h.ordered.worker hw, h.paired.worker hw, Barrier.worker h.paired hw⟩
  | cancels => exact ⟨h.ordered, { h.paired with }, { h.barrier with }⟩

/-- After a failure only heartbeats are handled. -/
theorem halts (h : Sound p stream d) (failed : d.failed = true) (hstep : Step p capacity d () d') :
    d'.failed = true ∧ p.requests d'.invoked = p.requests d.invoked := by
  cases hstep with
  | reader hr =>
    cases hr with
    | invokes at_ barrier =>
      have habsent := Dispatcher.authenticated_eq_false.mp barrier
      have hclosed := h.paired.halted_worker (by rw [at_]; rfl) failed
      rw [habsent] at hclosed
      cases hclosed
    | beats _ _ heartbeat =>
      exact ⟨failed, by simp [p.requests_append, p.requests_heartbeat heartbeat]⟩
    | errs | drops => exact ⟨rfl, rfl⟩
    | _ => exact ⟨failed, rfl⟩
  | worker hw =>
    cases hw with
    | invokes at_ =>
      have hlive := h.paired.not_failed (by rw [at_]; rfl) (by rw [at_]; nofun)
      cases hlive.symm.trans failed
    | errs | drops => exact ⟨rfl, rfl⟩
    | _ => exact ⟨failed, rfl⟩
  | cancels => exact ⟨failed, rfl⟩

theorem stays (joined : d.worker = .absent ∨ d.worker = .done) (stopped : d.reader = .stopped)
    (hstep : Step p capacity d () d') :
    (d'.worker = .absent ∨ d'.worker = .done) ∧ d'.reader = .stopped ∧ d'.invoked = d.invoked := by
  cases hstep with
  | reader hr => cases hr <;> simp_all
  | worker hw => cases hw <;> simp_all
  | cancels => exact ⟨joined, stopped, rfl⟩

end Sound

theorem sound (h : Reachable (· = Dispatcher.new stream) (Step p capacity) d) : Sound p stream d := by
  apply h.invariant
  · rintro _ rfl
    exact .new
  · intro d l d' hstep hd
    exact hd.step hstep

/-- While a message is handled before authentication nothing after it has been invoked.  Requests are invoked
in the order of arrival, one at a time, and replied to in that order; none is invoked after one has failed,
and nothing after `Stop`. -/
theorem inbound_barrier_and_order (p : Protocol Message Reply) (capacity : Nat) (stream : List Message)
    (h : Reachable (· = Dispatcher.new stream) (Step p capacity) d) :
    (∀ m, (d.reader = .invoking m ∨ ∃ r, d.reader = .replying m r) →
      ∃ before, d.invoked = before ++ [m] ∧ stream = before ++ m :: d.inbound) ∧
    (p.requests d.replied <+: p.requests d.invoked ∧ p.requests d.invoked <+: p.requests stream ∧
      (p.requests d.invoked).length ≤ (p.requests d.replied).length + 1) ∧
    (d.failed = true → ∀ acts d', Run (Step p capacity) d acts d' →
      p.requests d'.invoked = p.requests d.invoked) ∧
    (d.reader = .stopped → (d.worker = .absent ∨ d.worker = .done) ∧
      ∀ acts d', Run (Step p capacity) d acts d' → d'.invoked = d.invoked) := by
  have hsound := sound h
  refine ⟨fun m hm => ?_, ?_, fun hfailed acts d' hrun => ?_, fun hstop => ?_⟩
  · have hbusy : d.reader.busy = [m] := by obtain hm | ⟨r, hm⟩ := hm <;> rw [hm] <;> rfl
    have hopen : d.reader.isOpen = true ∧ d.reader.hand = [] := by
      obtain hm | ⟨r, hm⟩ := hm <;> rw [hm] <;> exact ⟨rfl, rfl⟩
    obtain ⟨before, hlast⟩ := hsound.barrier.last hbusy
    have hall := hsound.barrier.stream (hsound.paired.sync (by rw [hbusy]; nofun)) hopen.1
    rw [hopen.2, hlast] at hall
    exact ⟨before, hlast, by simpa using hall.symm⟩
  · obtain ⟨rest, hrest, hle, -⟩ := hsound.paired.pairs
    refine ⟨⟨rest, hrest.symm⟩, hsound.ordered.order, ?_⟩
    rw [hrest, List.length_append]
    omega
  · have hend := hrun.preserves
      (P := fun x => Sound p stream x ∧ x.failed = true ∧ p.requests x.invoked = p.requests d.invoked)
      (fun x l y _ hstep ⟨hx, hf, heq⟩ => ?_) ⟨hsound, hfailed, rfl⟩
    · exact hend.2.2
    · obtain ⟨hf', heq'⟩ := hx.halts hf hstep
      exact ⟨hx.step hstep, hf', heq'.trans heq⟩
  · have hjoin := hsound.paired.joined hstop
    refine ⟨hjoin, fun acts d' hrun => ?_⟩
    have hend := hrun.preserves
      (P := fun x => (x.worker = .absent ∨ x.worker = .done) ∧ x.reader = .stopped ∧ x.invoked = d.invoked)
      (fun x l y _ hstep ⟨hj, hs, heq⟩ => ?_) ⟨hjoin, hstop, rfl⟩
    · exact hend.2.2
    · obtain ⟨hj', hs', heq'⟩ := Sound.stays hj hs hstep
      exact ⟨hj', hs', heq'.trans heq⟩

/-- Message 1 is the authentication, which is replied to, and message 2 a request that is being handled. -/
theorem inbound_barrier_and_order_replied : ∃ d : Dispatcher Nat Bool,
    Reachable (· = Dispatcher.new [1, 2]) (Step ⟨fun _ => false, id⟩ 1) d ∧ d.invoked = [1, 2] ∧
      (Protocol.requests (⟨fun _ => false, id⟩ : Protocol Nat Bool) d.replied).length + 1 ≥ 2 := by
  have h₀ : Reachable (· = Dispatcher.new [1, 2]) (Step ⟨fun _ => false, id⟩ 1) (.new [1, 2] : Dispatcher Nat Bool) :=
    .init_state rfl
  have h₁ := h₀.next (.reader (.reads rfl rfl))
  have h₂ := h₁.next (.reader (.enters rfl rfl))
  have h₃ := h₂.next (.reader (.invokes rfl rfl))
  have h₄ := h₃.next (.reader (.answers (r := true) rfl))
  have h₅ := h₄.next (.reader (.authenticates rfl rfl))
  have h₆ := h₅.next (.reader (.reads rfl rfl))
  have h₇ := h₆.next (.reader (.enters rfl rfl))
  have h₈ := h₇.next (.reader (.enqueues rfl rfl rfl (by decide)))
  have h₉ := h₈.next (.worker (.takes rfl rfl))
  have h₁₀ := h₉.next (.worker (.invokes rfl rfl))
  obtain ⟨-, ⟨-, -, hle⟩, -, -⟩ := inbound_barrier_and_order ⟨fun _ => false, id⟩ 1 [1, 2] h₁₀
  exact ⟨_, h₁₀, rfl, hle⟩

end Yola.Inbound
