import Yola.Sending.Tcp
import Yola.Sending.Websocket

/-!
# The accounting of sends

Both channels count payload bytes before they enqueue a frame and after they have received it.
-/

namespace Yola.Sending

open Reasoning

/-- **Accounting.**  In any interleaving the counter of either channel is the sum of the sizes of the frames in
the queue, of the calls that have reserved and neither enqueued nor withdrawn, and of the frame that the writer
has received and not yet taken off the counter.  So it is never negative, and zero when there are none.  And an
enqueue on a WebSocket channel never blocks while it holds the send lock. -/
theorem send_accounting {Frame Proto Body : Type} (size : Frame → Nat) (valid : Frame → Bool)
    (codec : Websocket.Codec Proto Body) (queueSize : Nat) :
    (∀ c : Tcp.Channel Frame,
      Reachable (· = .newChannel queueSize) (fun c => c.Step size valid) c →
        c.ledger.counter = c.ledger.total (fun e => size e.proto) (Tcp.Call.reserved size) ∧
        0 ≤ c.ledger.counter ∧
        (c.ledger.queue = [] → (∀ call ∈ c.ledger.producers, call.reserved size = 0) →
          c.ledger.received = none → c.ledger.counter = 0)) ∧
    ∀ c : Websocket.Channel Body,
      Reachable (· = .newChannel queueSize) (fun c => c.Step codec) c →
        (c.ledger.counter = c.ledger.total Websocket.Frame.payloadBytes Websocket.Call.reservedBytes ∧
        0 ≤ c.ledger.counter ∧
        (c.ledger.queue = [] → (∀ call ∈ c.ledger.producers, call.reservedBytes = 0) →
          c.ledger.received = none → c.ledger.counter = 0)) ∧
        ∀ call ∈ c.ledger.producers, call.holds = true → ∃ call' c', c.CallStep call call' c' := by
  constructor
  · intro c hrch
    have hbal := Tcp.Channel.balanced hrch
    exact ⟨hbal, hbal.nonneg, hbal.eq_zero⟩
  · intro c hrch
    obtain ⟨hbal, hserial⟩ := Websocket.Channel.sound hrch
    exact ⟨⟨hbal, hbal.nonneg, hbal.eq_zero⟩, fun _ => hserial.proceeds⟩

def plainCodec : Websocket.Codec Nat Nat where
  size := id
  marshalFrame := some
  canOptimizeFrames := false
  marshal := some
  validateFrameBody _ := true
  heartbeat := 0

/-- A push of five bytes has returned, and the writer has received the frame: the queue is empty, no call is
inside, and the counter is still five. -/
theorem tcp_received : ∃ c : Tcp.Channel Nat,
    Reachable (· = .newChannel 1) (fun c => c.Step id fun _ => true) c ∧ c.ledger.queue = [] ∧
      c.ledger.producers = [.returned] ∧ c.ledger.counter = 5 := by
  have h₀ : Reachable (· = .newChannel 1) (fun c => c.Step id fun _ => true) (.newChannel 1 : Tcp.Channel Nat) :=
    .init_state rfl
  have h₁ := h₀.next (@Tcp.Channel.Step.pushes _ _ _ _ 5 rfl rfl)
  have h₂ := h₁.next (.proceeds .pushReserves (.adds _ (.intro [] [])))
  have h₃ := h₂.next (.proceeds .pushSends (.sends _ (.intro [] []) (by exact Nat.one_pos)))
  have h₄ := h₃.next (.receives rfl rfl rfl)
  exact ⟨_, h₄, rfl, rfl, rfl⟩

theorem websocket_received : ∃ c : Websocket.Channel Nat,
    Reachable (· = .newChannel 1) (fun c => c.Step plainCodec) c ∧ c.ledger.queue = [] ∧
      c.ledger.producers = [.returned] ∧ c.ledger.counter = 5 := by
  have h₀ : Reachable (· = .newChannel 1) (fun c => c.Step plainCodec) (.newChannel 1 : Websocket.Channel Nat) :=
    .init_state rfl
  have h₁ := h₀.next (.enqueues (.proto (some 5)) rfl nofun rfl)
  have h₂ := h₁.next (.call (.proceeds (.room Nat.zero_ne_one) (.quiet (.intro [] []))))
  have h₃ := h₂.next (.call (.proceeds (.encodes rfl) (.quiet (.intro [] []))))
  have h₄ := h₃.next (.call (.proceeds .reserves (.adds _ (.intro [] []))))
  have h₅ := h₄.next (.call (.proceeds .sends (.sends _ (.intro [] []) (by exact Nat.one_pos))))
  have h₆ := h₅.next (.receives rfl rfl rfl)
  exact ⟨_, h₆, rfl, rfl, rfl⟩

/-- There are channels on which something is counted. -/
theorem send_accounting_counted :
    (∃ c : Tcp.Channel Nat, Reachable (· = .newChannel 1) (fun c => c.Step id fun _ => true) c ∧
      c.ledger.counter = 5 ∧ c.ledger.counter = c.ledger.total (fun e => e.proto) (Tcp.Call.reserved id)) ∧
    ∃ c : Websocket.Channel Nat, Reachable (· = .newChannel 1) (fun c => c.Step plainCodec) c ∧
      c.ledger.counter = 5 ∧
      c.ledger.counter = c.ledger.total Websocket.Frame.payloadBytes Websocket.Call.reservedBytes := by
  obtain ⟨htcp, hwebsocket⟩ := send_accounting (id : Nat → Nat) (fun _ => true) plainCodec 1
  obtain ⟨c, hrch, -, -, hcnt⟩ := tcp_received
  obtain ⟨c', hrch', -, -, hcnt'⟩ := websocket_received
  exact ⟨⟨c, hrch, hcnt, (htcp c hrch).1⟩, c', hrch', hcnt', (hwebsocket c' hrch').1.1⟩

/-- Without the frame in the hand of the writer the sum is not the counter, on neither channel. -/
theorem send_accounting_needs_received :
    (¬ ∀ c : Tcp.Channel Nat, Reachable (· = .newChannel 1) (fun c => c.Step id fun _ => true) c →
      c.ledger.counter =
          ((c.ledger.queue.map (·.proto)).sum + (c.ledger.producers.map (Tcp.Call.reserved id)).sum : Nat) ∧
        (c.ledger.queue = [] → (∀ call ∈ c.ledger.producers, call = .returned) → c.ledger.counter = 0)) ∧
    ¬ ∀ c : Websocket.Channel Nat, Reachable (· = .newChannel 1) (fun c => c.Step plainCodec) c →
      c.ledger.counter =
          ((c.ledger.queue.map (·.payloadBytes)).sum +
            (c.ledger.producers.map Websocket.Call.reservedBytes).sum : Nat) ∧
        (c.ledger.queue = [] → (∀ call ∈ c.ledger.producers, call = .returned) → c.ledger.counter = 0) := by
  constructor
  · intro h
    obtain ⟨c, hrch, hque, hcalls, hcnt⟩ := tcp_received
    have hzero := (h c hrch).2 hque (by rw [hcalls]; exact fun _ => List.mem_singleton.mp)
    rw [hcnt] at hzero
    exact absurd hzero (by decide)
  · intro h
    obtain ⟨c, hrch, hque, hcalls, hcnt⟩ := websocket_received
    have hzero := (h c hrch).2 hque (by rw [hcalls]; exact fun _ => List.mem_singleton.mp)
    rw [hcnt] at hzero
    exact absurd hzero (by decide)

end Yola.Sending
