import Yola.Network.Prepared
import Yola.Reasoning.Ledger
import Yola.Reasoning.Runs

/-!
# The send queue of a WebSocket channel

`SendProto`, `SendPrepared`, `sendHeartbeat`, `CloseWithProto` and `writeLoop` of the WebSocket channel, with a
step for each access to the queue and to `pendingPayloadBytes`.  An enqueue holds `sendMu` until it returns;
`CloseWithProto` holds it for one step and sends its frame outside.  `Close`, `abort`, the end of the context
and the end of the writer mark the channel closed and cancel; both can happen at any time.
-/

namespace Yola.Sending.Websocket

open Network Reasoning

variable {Proto Body : Type}

/-! ## What is enqueued -/

/-- `encoding.Codec` with the functions of the package around it; no body stands for an error. -/
structure Codec (Proto Body : Type) where
  /-- The length of `p.Body`. -/
  size : Proto → Nat
  marshalFrame : Proto → Option Body
  canOptimizeFrames : Bool
  /-- `proto.Marshal`. -/
  marshal : Proto → Option Body
  validateFrameBody : Body → Bool
  heartbeat : Proto

structure Request (Body : Type) where
  payloadBytes : Nat
  heartbeat : Bool
  encode : Option Body

inductive Send (codec : Codec Proto Body) where
  | proto (p : Option Proto)
  | prepared (message : Option (PreparedProto codec.marshal))
  | heartbeat

def enqueueProto (codec : Codec Proto Body) (p : Option Proto) (heartbeat : Bool) : Option (Request Body) :=
  p.map fun p => ⟨codec.size p, heartbeat, codec.marshalFrame p⟩

/-- No request stands for `errNilPayload`. -/
def Send.request {codec : Codec Proto Body} : Send codec → Option (Request Body)
  | .proto p => enqueueProto codec p false
  | .prepared message => do
    let message ← message
    let p ← message.message
    if codec.canOptimizeFrames then
      some ⟨codec.size p, false, message.marshal.1.join.filter codec.validateFrameBody⟩
    else enqueueProto codec (some p) false
  | .heartbeat => enqueueProto codec (some codec.heartbeat) true

/-! ## The channel -/

/-- `outboundFrame`: the last frame is the one with a `done` channel. -/
structure Frame (Body : Type) where
  body : Body
  payloadBytes : Nat
  heartbeat : Bool
  final : Bool

inductive Call (Body : Type) where
  /-- In `enqueueFrame` with the lock, on a channel that is not closed. -/
  | checking (request : Request Body)
  /-- There is room for its frame. -/
  | encoding (request : Request Body)
  | encoded (frame : Frame Body)
  | reserved (frame : Frame Body)
  /-- In `CloseWithProto` after it has marked the channel closed. -/
  | closing (frame : Frame Body)
  | finalReserved (frame : Frame Body)
  /-- The writer is done, or the context of the call. -/
  | finalRefused (frame : Frame Body)
  | waitingFinal
  | returned

namespace Call

def holds : Call Body → Bool
  | .checking _ | .encoding _ | .encoded _ | .reserved _ => true
  | _ => false

/-- It has seen that there is room. -/
def counts : Call Body → Bool
  | .encoding _ | .encoded _ | .reserved _ => true
  | _ => false

/-- It will send the last frame. -/
def closes : Call Body → Bool
  | .closing _ | .finalReserved _ => true
  | _ => false

def reservedBytes : Call Body → Nat
  | .reserved frame | .finalReserved frame | .finalRefused frame => frame.payloadBytes
  | _ => 0

theorem holds_of_counts {call : Call Body} (h : call.counts = true) : call.holds = true := by
  cases call with
  | encoding | encoded | reserved => rfl
  | checking | closing | finalReserved | finalRefused | waitingFinal | returned => cases h

end Call

inductive Writer (Body : Type) where
  | selecting
  | writing (frame : Frame Body)
  | finishing
  /-- `writerDone` is closed. -/
  | done

structure Channel (Body : Type) where
  /-- `outbound`, `pendingPayloadBytes`, the calls, and the frame that the writer has just received. -/
  ledger : Ledger (Frame Body) (Call Body)
  closed : Bool
  /-- The context of the channel has ended. -/
  cancelled : Bool
  queueDropped : Nat
  writer : Writer Body

namespace Channel

def newChannel (sendQueueSize : Nat) : Channel Body where
  ledger := .new sendQueueSize
  closed := false
  cancelled := false
  queueDropped := 0
  writer := .selecting

variable (c : Channel Body)

def Free : Prop := ∀ call ∈ c.ledger.producers, call.holds = false

inductive Proceeds : Call Body → Effect (Frame Body) → Call Body → Prop where
  | room {request} (h : c.ledger.queue.length ≠ c.ledger.capacity) :
      Proceeds (.checking request) .quiet (.encoding request)
  | encodes {request : Request Body} {body} (h : request.encode = some body) :
      Proceeds (.encoding request) .quiet (.encoded ⟨body, request.payloadBytes, request.heartbeat, false⟩)
  | fails {request : Request Body} (h : request.encode = none) :
      Proceeds (.encoding request) .quiet .returned
  | reserves {frame : Frame Body} : Proceeds (.encoded frame) (.adds frame.payloadBytes) (.reserved frame)
  | sends {frame} : Proceeds (.reserved frame) (.sends frame) .returned
  | finalReserves {frame : Frame Body} :
      Proceeds (.closing frame) (.adds frame.payloadBytes) (.finalReserved frame)
  | finalSends {frame} : Proceeds (.finalReserved frame) (.sends frame) .waitingFinal
  | finalStopped {frame} (writerDone : c.writer = .done) :
      Proceeds (.finalReserved frame) .quiet (.finalRefused frame)
  | finalCancelled {frame} : Proceeds (.finalReserved frame) .quiet (.finalRefused frame)
  | finalWithdraws {frame : Frame Body} :
      Proceeds (.finalRefused frame) (.subtracts frame.payloadBytes) .returned
  | finalDone : Proceeds .waitingFinal .quiet .returned

inductive CallStep : Call Body → Call Body → Channel Body → Prop where
  | proceeds {call call' effect ledger} (h : c.Proceeds call effect call')
      (produces : c.ledger.Produces (c.writer = .selecting) call call' effect ledger) :
      CallStep call call' { c with ledger := ledger }
  /-- `ErrSendQueueFull`. -/
  | drops {request ledger}
      (full : c.ledger.queue.length = c.ledger.capacity)
      (produces : c.ledger.Produces (c.writer = .selecting) (.checking request) .returned .quiet ledger) :
      CallStep (.checking request) .returned { c with ledger := ledger, queueDropped := c.queueDropped + 1 }

inductive Step (codec : Codec Proto Body) : Unit → Channel Body → Prop where
  | enqueues (send : Send codec) {request} (h : send.request = some request) (lock : c.Free)
      (isOpen : c.closed = false) :
      Step codec () { c with ledger := c.ledger.arrive (.checking request) }
  | closes (p) {body} (h : codec.marshalFrame p = some body) (lock : c.Free)
      (isOpen : c.closed = false) :
      Step codec () { c with
        ledger := c.ledger.arrive (.closing ⟨body, codec.size p, false, true⟩)
        closed := true }
  | call {call call' c'} (h : c.CallStep call call' c') : Step codec () c'
  | marksClosed (lock : c.Free) : Step codec () { c with closed := true }
  | cancels : Step codec () { c with cancelled := true }
  | receives {frame rest} (writer : c.writer = .selecting)
      (queue : c.ledger.queue = frame :: rest) (free : c.ledger.received = none) :
      Step codec () { c with ledger := { c.ledger with queue := rest, received := some frame } }
  | settles {frame : Frame Body} (writer : c.writer = .selecting) (received : c.ledger.received = some frame) :
      Step codec () { c with
        ledger := { c.ledger with received := none, counter := c.ledger.counter - frame.payloadBytes }
        writer := .writing frame }
  | stops (writer : c.writer = .selecting) (free : c.ledger.received = none) (cancelled : c.cancelled = true) :
      Step codec () { c with writer := .finishing }
  | writes {frame : Frame Body} (writer : c.writer = .writing frame) (more : frame.final = false) :
      Step codec () { c with writer := .selecting }
  /-- The last frame has been written, or a write has failed. -/
  | ends {frame} (writer : c.writer = .writing frame) :
      Step codec () { c with writer := .finishing }
  | finishes (writer : c.writer = .finishing) (closed : c.closed = true) (cancelled : c.cancelled = true) :
      Step codec () { c with writer := .done }

/-! ## The counter -/

variable {c} {c' : Channel Body} {codec : Codec Proto Body} {call call' : Call Body}
  {effect : Effect (Frame Body)}

theorem Proceeds.lawful (h : c.Proceeds call effect call') :
    Ledger.Lawful Frame.payloadBytes Call.reservedBytes call call' effect := by
  cases h with
  | reserves | finalReserves | finalWithdraws | sends | finalSends => exact (Nat.zero_add _).symm
  | room | encodes | fails | finalStopped | finalCancelled | finalDone => rfl

theorem Step.balanced (h : c.Step codec () c')
    (hc : c.ledger.Balanced Frame.payloadBytes Call.reservedBytes) :
    c'.ledger.Balanced Frame.payloadBytes Call.reservedBytes := by
  cases h with
  | enqueues | closes => exact hc.arrive rfl
  | call h =>
    cases h with
    | proceeds h produces => exact hc.produces produces h.lawful
    | drops _ produces => exact hc.produces produces rfl
  | receives _ queue free => exact hc.consumes (.receives queue free)
  | settles _ received => exact hc.consumes (.settles received)
  | marksClosed | cancels | stops | writes | ends | finishes => exact hc

/-! ## The lock -/

/-- Producers are serial: one call holds the lock, on a channel that is not closed, so that nobody is sending
a last frame; and the room it has seen is still there. -/
structure Serial (c : Channel Body) : Prop where
  bounded : c.ledger.queue.length ≤ c.ledger.capacity
  single : c.ledger.producers.countP Call.holds ≤ 1
  isOpen : ∀ call ∈ c.ledger.producers, call.holds = true → c.closed = false
  noCloser : c.closed = false → ∀ call ∈ c.ledger.producers, call.closes = false
  room : ∀ call ∈ c.ledger.producers, call.counts = true → c.ledger.queue.length < c.ledger.capacity

namespace Serial

variable {ledger : Ledger (Frame Body) (Call Body)} {producers : List (Call Body)}

theorem newChannel (sendQueueSize : Nat) : Serial (.newChannel sendQueueSize : Channel Body) where
  bounded := Nat.zero_le _
  single := Nat.zero_le _
  isOpen := nofun
  noCloser _ := nofun
  room := nofun

section

variable (h : Serial c)

include h

/-- A call that gets neither the lock nor a last frame moves, with a queue that grows only if nobody counts on
its room. -/
theorem moves (hmv : Moves call call' c.ledger.producers ledger.producers)
    (hcap : ledger.capacity = c.ledger.capacity) (hbounded : ledger.queue.length ≤ ledger.capacity)
    (hholds : call'.holds = true → call.holds = true) (hcl : call'.closes = true → call.closes = true)
    (hcnts : call'.counts = true → ledger.queue.length < ledger.capacity)
    (hque : ledger.queue.length ≤ c.ledger.queue.length ∨ ∀ u ∈ ledger.producers, u.counts = false) :
    Serial { c with ledger := ledger } where
  bounded := hbounded
  single := by
    have hcount := hmv.countP Call.holds
    have hle : call'.holds.toNat ≤ call.holds.toNat := by
      cases hc' : call'.holds with
      | false => exact Nat.zero_le _
      | true => rw [hholds hc']
    have hsingle := h.single
    change ledger.producers.countP Call.holds ≤ 1
    omega
  isOpen := by
    refine hmv.forall_mem (fun hc' => ?_) h.isOpen
    exact h.isOpen call hmv.mem (hholds hc')
  noCloser := by
    intro hopen
    refine hmv.forall_mem (Bool.eq_false_iff.mpr fun hc' => ?_) (h.noCloser hopen)
    cases (h.noCloser hopen call hmv.mem).symm.trans (hcl hc')
  room := by
    rcases hque with hle | hnone
    · refine hmv.forall_mem hcnts fun u hu hcnts => ?_
      have hroom := h.room u hu hcnts
      change ledger.queue.length < ledger.capacity
      omega
    · intro u hu hcnts
      cases (hnone u hu).symm.trans hcnts

theorem none_counts (hmv : Moves call call' c.ledger.producers producers) (hheld : call.holds = true)
    (hgone : call'.holds = false) : ∀ u ∈ producers, u.counts = false := by
  have hcnt := hmv.countP_leave hheld hgone
  have hzero : producers.countP Call.holds = 0 := by
    have hsingle := h.single
    omega
  intro u hu
  exact Bool.eq_false_iff.mpr fun hcnts =>
    List.countP_eq_zero.mp hzero u hu (Call.holds_of_counts hcnts)

theorem none_counts_of_closes
    (hmv : Moves call call' c.ledger.producers producers) (hcl : call.closes = true)
    (hnone : call'.counts = false) : ∀ u ∈ producers, u.counts = false := by
  refine hmv.forall_mem hnone fun u hu => Bool.eq_false_iff.mpr fun hcnts => ?_
  have hopen := h.isOpen u hu (Call.holds_of_counts hcnts)
  cases (h.noCloser hopen call hmv.mem).symm.trans hcl

theorem keeps (hmv : Moves call call' c.ledger.producers ledger.producers)
    (hcap : ledger.capacity = c.ledger.capacity) (hque : ledger.queue = c.ledger.queue)
    (hholds : call'.holds = true → call.holds = true) (hcl : call'.closes = true → call.closes = true)
    (hcnts : call'.counts = true → c.ledger.queue.length < c.ledger.capacity) :
    Serial { c with ledger := ledger } := by
  apply h.moves hmv hcap _ hholds hcl _ (.inl (by rw [hque]))
  · rw [hque, hcap]
    exact h.bounded
  · rw [hque, hcap]
    exact hcnts

theorem sends {frame : Frame Body} {waiting : Prop}
    (hstep : c.ledger.Produces waiting call call' (.sends frame) ledger)
    (hholds : call'.holds = false) (hcl : call'.closes = false) (hcnts : call'.counts = false)
    (hnone : ∀ u ∈ ledger.producers, u.counts = false) : Serial { c with ledger := ledger } := by
  have hbounded : ledger.queue.length ≤ ledger.capacity := by
    have hold := h.bounded
    cases hstep with
    | sends _ _ room =>
      rw [List.length_append, List.length_singleton]
      exact room
    | hands => exact hold
  refine h.moves hstep.moves hstep.capacity_eq hbounded ?_ ?_ ?_ (.inr hnone)
  · exact fun hc' => absurd (hholds.symm.trans hc') nofun
  · exact fun hc' => absurd (hcl.symm.trans hc') nofun
  · exact fun hc' => absurd (hcnts.symm.trans hc') nofun

theorem callStep (hstep : c.CallStep call call' c') : Serial c' := by
  cases hstep with
  | drops _ produces =>
    have hkept := h.keeps produces.moves produces.capacity_eq (by cases produces; rfl) nofun nofun nofun
    exact { hkept with }
  | @proceeds _ _ _ ledger hproceeds produces =>
    cases hproceeds with
    | @room request hroom =>
      have hbounded := h.bounded
      exact h.keeps produces.moves produces.capacity_eq (by cases produces; rfl) (fun _ => rfl) nofun
        fun _ => by omega
    | encodes | reserves =>
      have hroom := h.room _ produces.moves.mem rfl
      exact h.keeps produces.moves produces.capacity_eq (by cases produces; rfl) (fun _ => rfl) nofun
        fun _ => hroom
    | fails | finalStopped | finalCancelled | finalWithdraws | finalDone =>
      exact h.keeps produces.moves produces.capacity_eq (by cases produces; rfl) nofun nofun nofun
    | finalReserves =>
      exact h.keeps produces.moves produces.capacity_eq (by cases produces; rfl) nofun (fun _ => rfl) nofun
    | sends => exact h.sends produces rfl rfl rfl (h.none_counts produces.moves rfl rfl)
    | finalSends => exact h.sends produces rfl rfl rfl (h.none_counts_of_closes produces.moves rfl rfl)

end

theorem none_holds (hlock : c.Free) : c.ledger.producers.countP Call.holds = 0 := by
  apply List.countP_eq_zero.mpr
  intro u hu
  rw [hlock u hu]
  exact Bool.false_ne_true

theorem of_closed (hbounded : c.ledger.queue.length ≤ c.ledger.capacity) (hlock : c.Free)
    (hcls : c.closed = true) : Serial c where
  bounded := hbounded
  single := by
    rw [none_holds hlock]
    exact Nat.zero_le 1
  isOpen u hu hholds := absurd ((hlock u hu).symm.trans hholds) nofun
  noCloser hopen := absurd (hcls.symm.trans hopen) nofun
  room u hu hcounts := absurd ((hlock u hu).symm.trans (Call.holds_of_counts hcounts)) nofun

theorem step (h : Serial c) (hstep : c.Step codec () c') : Serial c' := by
  cases hstep with
  | call hstep => exact h.callStep hstep
  | enqueues send _ lock isOpen =>
    refine ⟨h.bounded, ?_, fun _ _ _ => isOpen, fun _ => ?_, ?_⟩
    · simp only [Ledger.arrive, List.countP_append, none_holds lock, List.countP_singleton, Call.holds, if_true]
      exact Nat.le_refl 1
    · intro u hu
      rcases List.mem_append.mp hu with hu | hu
      · exact h.noCloser isOpen u hu
      · rw [List.mem_singleton.mp hu]
        rfl
    · intro u hu hcnts
      rcases List.mem_append.mp hu with hu | hu
      · exact h.room u hu hcnts
      · rw [List.mem_singleton.mp hu] at hcnts
        cases hcnts
  | closes p _ lock =>
    refine of_closed h.bounded (fun u hu => ?_) rfl
    rcases List.mem_append.mp hu with hu | hu
    · exact lock u hu
    · rw [List.mem_singleton.mp hu]
      rfl
  | marksClosed lock => exact of_closed h.bounded lock rfl
  | @receives frame rest _ queue _ =>
    have hlen : c.ledger.queue.length = rest.length + 1 := by rw [queue, List.length_cons]
    have hbounded := h.bounded
    refine { h with bounded := ?_, room := fun u hu hcnts => ?_ }
    · change rest.length ≤ c.ledger.capacity
      omega
    · have hroom := h.room u hu hcnts
      change rest.length < c.ledger.capacity
      omega
  | cancels | settles | stops | writes | ends | finishes => exact { h with }

theorem proceeds (h : Serial c) (hmem : call ∈ c.ledger.producers) (hholds : call.holds = true) :
    ∃ call' c', c.CallStep call call' c' := by
  have hmv (call' : Call Body) := Moves.exists_of_mem hmem call'
  cases call with
  | checking request =>
    by_cases hfull : c.ledger.queue.length = c.ledger.capacity
    · obtain ⟨_, hm⟩ := hmv .returned
      exact ⟨_, _, .drops hfull (.quiet hm)⟩
    · obtain ⟨_, hm⟩ := hmv (.encoding request)
      exact ⟨_, _, .proceeds (.room hfull) (.quiet hm)⟩
  | encoding request =>
    cases hencode : request.encode with
    | none =>
      obtain ⟨_, hm⟩ := hmv .returned
      exact ⟨_, _, .proceeds (.fails hencode) (.quiet hm)⟩
    | some body =>
      obtain ⟨_, hm⟩ := hmv (.encoded ⟨body, request.payloadBytes, request.heartbeat, false⟩)
      exact ⟨_, _, .proceeds (.encodes hencode) (.quiet hm)⟩
  | encoded frame =>
    obtain ⟨_, hm⟩ := hmv (.reserved frame)
    exact ⟨_, _, .proceeds .reserves (.adds _ hm)⟩
  | reserved =>
    obtain ⟨_, hm⟩ := hmv .returned
    exact ⟨_, _, .proceeds .sends (.sends _ hm (h.room _ hmem rfl))⟩
  | closing | finalReserved | finalRefused | waitingFinal | returned => cases hholds

end Serial

theorem sound {sendQueueSize : Nat} (h : Reachable (· = newChannel sendQueueSize) (fun c => Step c codec) c) :
    c.ledger.Balanced Frame.payloadBytes Call.reservedBytes ∧ Serial c := by
  apply h.invariant (P := fun c => c.ledger.Balanced Frame.payloadBytes Call.reservedBytes ∧ Serial c)
  · rintro _ rfl
    exact ⟨.new sendQueueSize, .newChannel sendQueueSize⟩
  · rintro c ⟨⟩ c' hstep ⟨hbal, hserial⟩
    exact ⟨hstep.balanced hbal, hserial.step hstep⟩

end Channel

end Yola.Sending.Websocket
