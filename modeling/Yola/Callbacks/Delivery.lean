import Yola.Callbacks.Client
import Yola.Callbacks.Contract

/-!
# The callbacks of a client follow the order of the server

The read loop submits the pushes in the order they arrive in and ends at the first that the queue refuses,
so what is accepted is the front of all that could be called.  Only the first `shutdownWith` begins a
termination, and it finds the queue open.
-/

namespace Yola.Callbacks

open Function Reasoning

variable {Body : Type} {transport : Transport} {o : ClientOptions} {stream : List (Proto Body)}
  {c c' : Client Body}

def ClientOptions.callback? (o : ClientOptions) (p : Proto Body) : Option (Callback Body) :=
  if p.op = .push then o.pushCallback p else none

def ClientOptions.calls (o : ClientOptions) (stream : List (Proto Body)) : List (Callback Body) :=
  .connect :: stream.filterMap o.callback?

/-! ## Steps of the queue -/

section

variable {α : Type} {s s' : System α}

theorem System.submitBatch_accepted {fns : List α} (h : (s.queue.submitBatch (fns.map some)).1 = none) :
    (s.submitBatch (fns.map some)).accepted = s.accepted ++ fns := by
  simp [System.submitBatch, h]

theorem System.WorkerStep.accepted_eq (h : s.WorkerStep s') : s'.accepted = s.accepted := by
  cases h <;> rfl

theorem System.WorkerStep.record (h : s.WorkerStep s') {call : Nat} {t : Termination α}
    (ht : s.terminations call = some t) :
    ∃ ran, s'.terminations call = some { t with ran := ran } := by
  cases h with
  | @starts call' a rest t' at_ record =>
    by_cases hcall : call = call'
    · cases hcall
      cases record.symm.trans ht
      exact ⟨_, update_self ..⟩
    · exact ⟨t.ran, (update_of_ne hcall ..).trans ht⟩
  | _ => exact ⟨t.ran, ht⟩

end

/-! ## The creation of the client -/

theorem readReply_ok {limit : Nat} {pending pending' rest : List (Proto Body)}
    (h : readReply limit pending stream = .ok (pending', rest)) :
    ∃ pushes reply, pending' = pending ++ pushes ∧ stream = pushes ++ reply :: rest ∧
      (∀ p ∈ pushes, p.op = .push) ∧ reply.op = .authReply := by
  induction stream generalizing pending with
  | nil => simp [readReply] at h
  | cons p stream ih =>
    unfold readReply at h
    split at h
    next hpush =>
      split at h
      · simp at h
      · obtain ⟨pushes, reply, rfl, rfl, hall, hreply⟩ := ih h
        refine ⟨p :: pushes, reply, by simp, rfl, ?_, hreply⟩
        intro q hq
        obtain rfl | hq := List.mem_cons.mp hq
        · exact hpush
        · exact hall q hq
    next hpush =>
      split at h
      · simp at h
      next hop =>
      split at h
      · simp at h
      · simp only [Except.ok.injEq, Prod.mk.injEq] at h
        obtain ⟨rfl, rfl⟩ := h
        exact ⟨[], p, by simp, rfl, nofun, by simpa using hop⟩

/-- All that a created client has accepted and has still to accept is what the server sends. -/
theorem ClientOptions.newClient_some (connect : o.connectFunc = true) (h : o.newClient stream = some c) :
    (∃ callbacks, c.callbacks = (System.new o.callbackQueueSize).submitBatch callbacks) ∧
      c.callbacks.queue.closed = false ∧ c.shutdown = .none ∧
      c.callbacks.accepted ++ c.inbound.filterMap o.callback? = o.calls stream := by
  unfold newClient at h
  split at h
  · simp at h
  next pending rest hreply =>
  split at h
  · simp at h
  dsimp only at h
  split at h
  · simp at h
  next hacc =>
  simp only [Option.some.injEq] at h
  subst h
  obtain ⟨pushes, reply, hpend, rfl, hall, hop⟩ := readReply_ok hreply
  rw [List.nil_append] at hpend
  subst hpend
  have hnone : ((Queue.new o.callbackQueueSize).submitBatch ((o.initialCallbacks pending).map some)).1 = none := by
    simpa using hacc
  have hpushes : pending.filterMap o.pushCallback = pending.filterMap o.callback? :=
    List.filterMap_congr fun p hp => by simp [callback?, hall p hp]
  refine ⟨⟨_, rfl⟩, (System.submitBatch_keeps ..).2.1, rfl, ?_⟩
  dsimp only
  rw [System.submitBatch_accepted hnone]
  simp [System.new, initialCallbacks, calls, connect, hpushes, callback?, hop]

/-! ## The invariant -/

/-- The termination of a client: it has closed the queue and has the terminal callbacks for its cause. -/
structure Begun (o : ClientOptions) (q : System (Callback Body)) (kick : Option Int) (call : Nat)
    (t : Termination (Callback Body)) : Prop where
  record : q.terminations call = some t
  closes : t.closes = true
  terminals : t.terminals = o.terminals kick

def Shutdown.Ok (o : ClientOptions) (q : System (Callback Body)) : Shutdown → Prop
  | .none => q.queue.closed = false
  | .begun kick finishCallbacks =>
    ∃ call t, finishCallbacks = some call ∧ Begun o q kick call t ∧ t.release = .held
  | .finished kick => ∃ call t, Begun o q kick call t

theorem Shutdown.Ok.keeps {q q' : System (Callback Body)} {shutdown : Shutdown} (h : shutdown.Ok o q)
    (closed : q'.queue.closed = q.queue.closed)
    (records : ∀ {call t}, q.terminations call = some t → ∃ ran, q'.terminations call = some { t with ran := ran }) :
    shutdown.Ok o q' := by
  have hbegun : ∀ {kick call t}, Begun o q kick call t → ∃ ran, Begun o q' kick call { t with ran := ran } := by
    intro kick call t hb
    obtain ⟨ran, hran⟩ := records hb.record
    exact ⟨ran, hran, hb.closes, hb.terminals⟩
  cases shutdown with
  | none => exact closed.trans h
  | begun =>
    obtain ⟨call, t, hcall, hb, hheld⟩ := h
    obtain ⟨ran, hb'⟩ := hbegun hb
    exact ⟨call, _, hcall, hb', hheld⟩
  | finished =>
    obtain ⟨call, t, hb⟩ := h
    obtain ⟨ran, hb'⟩ := hbegun hb
    exact ⟨call, _, hb'⟩

structure Faithful (o : ClientOptions) (stream : List (Proto Body)) (c : Client Body) : Prop where
  queue : Reachable (· = System.new o.callbackQueueSize) Step c.callbacks
  order : c.callbacks.accepted <+: o.calls stream
  reading : c.reader = .reading → c.callbacks.accepted ++ c.inbound.filterMap o.callback? = o.calls stream
  shutdown : c.shutdown.Ok o c.callbacks

namespace Faithful

variable {p : Proto Body} {rest : List (Proto Body)}

variable (h : Faithful o stream c)

include h

theorem leaves (reader : Reader) (hreader : reader ≠ .reading)
    (inbound : List (Proto Body)) : Faithful o stream { c with reader := reader, inbound := inbound } :=
  { queue := h.queue
    order := h.order
    reading := fun hr => absurd hr hreader
    shutdown := h.shutdown }

theorem skips (reading : c.reader = .reading)
    (inbound : c.inbound = p :: rest) (none : o.callback? p = none) :
    Faithful o stream { c with inbound := rest } :=
  { h with
    reading := fun _ => by
      have hall := h.reading reading
      rwa [inbound, List.filterMap_cons_none none] at hall
    shutdown := h.shutdown }

theorem submit {callback : Callback Body}
    (reading : c.reader = .reading) (inbound : c.inbound = p :: rest) (some : o.callback? p = some callback) :
    Faithful o stream ({ c with inbound := rest }.submit callback) := by
  have hall := h.reading reading
  rw [inbound, List.filterMap_cons_some some] at hall
  have hque := h.queue.next (.call (.submits [Option.some callback]))
  have hshut : c.shutdown.Ok o (c.callbacks.submitBatch [Option.some callback]) :=
    h.shutdown.keeps (System.submitBatch_keeps ..).2.1 fun {_ t} ht => ⟨t.ran, ht⟩
  by_cases hroom : (c.callbacks.queue.submitBatch [Option.some callback]).1 = none
  · have hacc : (c.callbacks.submitBatch [Option.some callback]).accepted = c.callbacks.accepted ++ [callback] :=
      @System.submitBatch_accepted _ c.callbacks [callback] hroom
    have hnow : (c.callbacks.submitBatch [Option.some callback]).accepted ++ rest.filterMap o.callback? =
        o.calls stream := by
      rw [← hall, hacc]
      simp
    exact
      { queue := hque
        order := ⟨_, hnow⟩
        reading := fun _ => hnow
        shutdown := hshut }
  · have hacc : (c.callbacks.submitBatch [Option.some callback]).accepted = c.callbacks.accepted := by
      simp [System.submitBatch, hroom]
    exact
      { queue := hque
        order := hacc ▸ h.order
        reading := fun hr => by
          change (if _ then _ else _) = _ at hr
          rw [if_neg hroom] at hr
          cases hr
        shutdown := hshut }

theorem shutdownWith (disconnect : o.disconnectFunc = true) (kick : Option Int) :
    Faithful o stream (c.shutdownWith o kick) := by
  unfold Client.shutdownWith
  split
  next hnone =>
    have hopen : c.callbacks.queue.closed = false := by
      have hok := h.shutdown
      rwa [hnone] at hok
    have hne : (o.terminals kick : List (Callback Body)) ≠ [] := by simp [ClientOptions.terminals, disconnect]
    rw [if_neg (by simpa using hne)]
    exact
      { queue := h.queue.next (.call (.begins hne))
        order := h.order
        reading := h.reading
        shutdown := by
          refine ⟨_, _, rfl, ⟨update_self .., ?_, rfl⟩, rfl⟩
          rw [Queue.closeWithTerminals_of_open hopen] }
  · exact h

theorem step (disconnect : o.disconnectFunc = true)
    (hstep : ClientStep transport o c () c') : Faithful o stream c' := by
  cases hstep with
  | pushes reading inbound op handler =>
    exact h.submit reading inbound (by rw [ClientOptions.callback?, if_pos op, handler])
  | @skips p rest reading inbound ignored =>
    refine h.skips reading inbound ?_
    unfold ClientOptions.callback?
    split
    next hop => simpa [Client.Ignored, hop] using ignored
    · rfl
  | misses | fails => exact h.leaves .closing nofun _
  | reads => exact h.leaves (.kicked _) nofun _
  | kicks => exact (h.shutdownWith disconnect _).leaves (Client.afterKick transport) (by cases transport <;> nofun) _
  | ends => exact (h.shutdownWith disconnect _).leaves .stopped nofun _
  | closes => exact h.shutdownWith disconnect none
  | finishes begun =>
    have hok := h.shutdown
    rw [begun] at hok
    obtain ⟨_, _, hcall, -⟩ := hok
    cases hcall
  | @releases kick call t begun record held =>
    have hok := h.shutdown
    rw [begun] at hok
    obtain ⟨call', u, hcall, hu, -⟩ := hok
    cases hcall
    cases record.symm.trans hu.record
    exact
      { queue := h.queue.next (.call (.releases record held))
        order := h.order
        reading := h.reading
        shutdown := ⟨call, _, update_self .., hu.closes, hu.terminals⟩ }
  | works hw =>
    exact
      { queue := h.queue.next (.worker hw)
        order := hw.accepted_eq ▸ h.order
        reading := fun hr => hw.accepted_eq ▸ h.reading hr
        shutdown := h.shutdown.keeps hw.keeps.2 hw.record }

end Faithful

theorem faithful {c₀ : Client Body} (connect : o.connectFunc = true) (disconnect : o.disconnectFunc = true)
    (created : o.newClient stream = some c₀) (h : Reachable (· = c₀) (ClientStep transport o) c) :
    Faithful o stream c := by
  apply h.invariant
  · rintro c rfl
    obtain ⟨⟨callbacks, hcbs⟩, hopen, hnone, hall⟩ := ClientOptions.newClient_some connect created
    have hnew : Reachable (· = System.new o.callbackQueueSize) Step
        (System.new (α := Callback Body) o.callbackQueueSize) := .init_state rfl
    have hque : Reachable (· = System.new o.callbackQueueSize) Step c.callbacks := by
      rw [hcbs]
      exact hnew.next (.call (.submits callbacks))
    exact
      { queue := hque
        order := ⟨_, hall⟩
        reading := fun _ => hall
        shutdown := by rwa [hnone] }
  · intro c l c' hstep hc
    exact hc.step disconnect hstep

/-- The connect callback and the pushes are started in the order of the server; what the shutdown calls
comes after them and only then. -/
theorem client_callbacks_in_order (transport : Transport) (o : ClientOptions) (stream : List (Proto Body))
    {c₀ c : Client Body} (connect : o.connectFunc = true) (kick : o.kickHandler = true)
    (disconnect : o.disconnectFunc = true) (created : o.newClient stream = some c₀)
    (h : Reachable (· = c₀) (ClientStep transport o) c) :
    ∃ delivered ended, c.callbacks.invoked = delivered ++ ended ∧
      delivered <+: .connect :: stream.filterMap o.callback? ∧
      match c.shutdown with
      | .none | .begun _ _ => ended = []
      | .finished kicked => ended <+: (kicked.map .kick).toList ++ [.disconnect] ∧
          (c.callbacks.worker = .ended → ended = (kicked.map .kick).toList ++ [.disconnect]) := by
  have hfaithful := faithful connect disconnect created h
  obtain ⟨hflow, hends, hlog⟩ := sound hfaithful.queue
  have hdel := (List.prefix_append _ _).trans (hflow.order.trans hfaithful.order)
  have hok := hfaithful.shutdown
  cases hx : c.shutdown with
  | none =>
    rw [hx] at hok
    refine ⟨c.callbacks.started, [], ?_, hdel, rfl⟩
    rw [List.append_nil]
    apply hlog.serving
    by_contra hw
    cases Eq.trans (Eq.symm hok) (hends.stopped (by simpa using hw))
  | begun =>
    rw [hx] at hok
    obtain ⟨call, t, -, hb, hheld⟩ := hok
    exact ⟨c.callbacks.started, t.ran, hlog.closing hb.record hb.closes, hdel,
      hends.ran_held hb.record hheld⟩
  | finished kicked =>
    rw [hx] at hok
    obtain ⟨call, t, hb⟩ := hok
    have hterm : t.terminals = (kicked.map Callback.kick).toList ++ [.disconnect] := by
      rw [hb.terminals]
      simp [ClientOptions.terminals, kick, disconnect]
    refine ⟨c.callbacks.started, t.ran, hlog.closing hb.record hb.closes, hdel, ?_⟩
    dsimp only
    rw [← hterm]
    exact ⟨hends.ran_prefix hb.record, hends.ran_ended hb.record hb.closes⟩

def ClientOptions.full (callbackQueueSize : Nat) : ClientOptions :=
  ⟨callbackQueueSize, fun _ => true, true, true, true⟩

/-- A client that has been kicked: its worker has called everything. -/
theorem client_callbacks_in_order_kicked : ∃ c₀ c : Client Unit,
    Reachable (· = c₀) (ClientStep .websocket (.full 2)) c ∧
      c.shutdown = .finished (some 3) ∧ c.callbacks.worker = .ended ∧
      ∃ delivered, c.callbacks.invoked = delivered ++ [.kick 3, .disconnect] ∧
        delivered <+: [.connect, .push 7 ()] := by
  let stream : List (Proto Unit) := [⟨.push, 7, 0, ()⟩, ⟨.authReply, 0, 0, ()⟩, ⟨.kick, 0, 3, ()⟩]
  let c₀ : Client Unit :=
    ⟨(System.new 2).submitBatch [some .connect, some (.push 7 ())], [⟨.kick, 0, 3, ()⟩], .reading, .none⟩
  have created : (ClientOptions.full 2).newClient stream = some c₀ := rfl
  have h₀ : Reachable (· = c₀) (ClientStep .websocket (.full 2)) c₀ := .init_state rfl
  have h₁ := h₀.next (.works (.takes (a := .connect) rfl rfl))
  have h₂ := h₁.next (.works (.invokes rfl))
  have h₃ := h₂.next (.works (.finishes rfl))
  have h₄ := h₃.next (.reads rfl rfl rfl)
  have h₅ := h₄.next (.kicks rfl)
  have h₆ := h₅.next (.works (.closes rfl rfl))
  have h₇ := h₆.next (.releases (t := ⟨[.kick 3, .disconnect], true, .held, []⟩) rfl rfl rfl)
  have h₈ := h₇.next (.works (.opens (t := ⟨[.kick 3, .disconnect], true, .returned, []⟩) rfl rfl rfl))
  have h₉ := h₈.next (.works (.starts (t := ⟨[.kick 3, .disconnect], true, .returned, []⟩) rfl rfl))
  have h₁₀ := h₉.next (.works (.goesOn rfl))
  have h₁₁ := h₁₀.next (.works (.starts (t := ⟨[.kick 3, .disconnect], true, .returned, [.kick 3]⟩) rfl rfl))
  have h₁₂ := h₁₁.next (.works (.goesOn rfl))
  have h₁₃ := h₁₂.next (.works (.ends rfl))
  obtain ⟨delivered, ended, hinvoked, hdel, -, hended⟩ :=
    client_callbacks_in_order .websocket (.full 2) stream rfl rfl rfl created h₁₃
  refine ⟨c₀, _, h₁₃, rfl, rfl, delivered, ?_, hdel⟩
  rw [hinvoked, hended rfl]
  rfl

end Yola.Callbacks
