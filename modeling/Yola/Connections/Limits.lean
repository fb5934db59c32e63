import Yola.Connections.Tcp
import Yola.Connections.Websocket

/-!
# Connection limits

What both servers guarantee in every run, and that a stopped server takes nobody in.
-/

namespace Yola.Connections

open Reasoning

variable {IP : Type} [DecidableEq IP]

namespace Tcp

variable {config : Config} {s s' : Server IP} {a : Act}

theorem Server.Accounted.total (h : s.Accounted config) :
    s.conns.length = s.accepted.countP (·.phase = .tracked) := by
  rw [h.conns.length_eq, List.length_filterMap_eq_countP]
  apply List.countP_congr
  intro c _
  simp [Conn.entry, Option.isSome_iff_exists]

variable [Inhabited IP]

theorem accounted (h : Reachable (· = Server.new) (Step config) s) : s.Accounted config := by
  apply h.invariant
  · rintro s rfl
    exact accounted_new config
  · exact fun s a s' hs h => h.step hs

theorem Step.stopped (hs : Step config s a s') (hstop : s.stopped = true) :
    s'.stopped = true ∧ ∀ conn, a ≠ .tracks conn := by
  cases hs with
  | tracks at_ admits => exact absurd (.inl hstop) admits
  | stops => exact ⟨rfl, nofun⟩
  | _ => exact ⟨hstop, nofun⟩

end Tcp

namespace Websocket

variable {config : Config} {s s' : Server IP} {a : Act}

theorem accounted (h : Reachable (· = Server.new) (Step config) s) : s.Accounted config := by
  apply h.invariant
  · rintro s rfl
    exact accounted_new config
  · exact fun s a s' hs h => h.step hs

theorem Step.stopped (hs : Step config s a s') (hstop : s.stopped = true) :
    s'.stopped = true ∧ ∀ connID, a ≠ .reserves connID ∧ a ≠ .commits connID := by
  cases hs with
  | reserves at_ admits => exact absurd (.inl hstop) admits
  | commits at_ running => cases hstop.symm.trans running
  | stops => exact ⟨rfl, fun _ => ⟨nofun, nofun⟩⟩
  | _ => exact ⟨hstop, fun _ => ⟨nofun, nofun⟩⟩

end Websocket

/-- The counters of both servers count what they should, the limits hold, every place is given back once,
and a stopped server takes nobody in. -/
theorem connection_limits [Inhabited IP] (tcp : Tcp.Config) (ws : Websocket.Config) :
    (∀ s : Tcp.Server IP, Reachable (· = .new) (Tcp.Step tcp) s →
      s.conns.length = s.accepted.countP (·.phase = .tracked) ∧
      (s.connectionsPerIP.Tallies fun remoteIP => s.accepted.countP (·.trackedAt remoteIP)) ∧
      s.conns.length ≤ tcp.maxConnLimit ∧
      (∀ remoteIP, s.connectionsPerIP.get remoteIP ≤ tcp.maxConnPerIP) ∧
      (∀ c ∈ s.accepted, c.Regular) ∧
      (s.stopped = true → ∀ acts s', Run (Tcp.Step tcp) s acts s' → ∀ a ∈ acts, ∀ conn, a ≠ .tracks conn)) ∧
    ∀ s : Websocket.Server IP, Reachable (· = .new) (Websocket.Step ws) s →
      s.connCount = s.requests.countP Websocket.Conn.holds ∧
      (s.connectionsPerIP.Tallies fun remoteIP => s.requests.countP (·.holdsAt remoteIP)) ∧
      s.connCount ≤ ws.maxConnLimit ∧
      (∀ remoteIP, s.connectionsPerIP.get remoteIP ≤ ws.maxConnPerIP) ∧
      (∀ c ∈ s.requests, c.Regular) ∧
      (s.stopped = true → ∀ acts s', Run (Websocket.Step ws) s acts s' →
        ∀ a ∈ acts, ∀ connID, a ≠ .reserves connID ∧ a ≠ .commits connID) := by
  constructor
  · intro s h
    have hbooks := Tcp.accounted h
    refine ⟨hbooks.total, hbooks.perIP, hbooks.limit, fun remoteIP => ?_, hbooks.regular, ?_⟩
    · rw [hbooks.perIP.get_eq]
      exact Int.ofNat_le.mpr (hbooks.perIPLimit remoteIP)
    · intro hstop acts s' hrun
      exact hrun.forall_labels hstop fun _ _ _ hs => hs.stopped
  · intro s h
    have hbooks := Websocket.accounted h
    refine ⟨hbooks.total, hbooks.perIP, ?_, fun remoteIP => ?_, hbooks.regular, ?_⟩
    · rw [hbooks.total]
      exact Int.ofNat_le.mpr hbooks.limit
    · rw [hbooks.perIP.get_eq]
      exact Int.ofNat_le.mpr (hbooks.perIPLimit remoteIP)
    · intro hstop acts s' hrun
      exact hrun.forall_labels hstop fun _ _ _ hs => hs.stopped

/-- Both servers have taken in one connection, as many as they may, and are stopped. -/
theorem connection_limits_one : ∃ (s : Tcp.Server Nat) (s' : Websocket.Server Nat),
    (s.stopped = true ∧ s.conns.length = 1 ∧ s.conns.length ≤ 1) ∧
    (s'.stopped = true ∧ s'.connCount = 1 ∧ s'.connCount ≤ (1 : Nat)) := by
  have t₀ : Reachable (· = .new) (Tcp.Step ⟨1, 1⟩) (.new : Tcp.Server Nat) := .init_state rfl
  have t₁ := t₀.next (t := { Tcp.Server.new with accepted := [.accept 5 7] })
    (.accepts fun _ hc => absurd hc List.not_mem_nil)
  have t₂ := t₁.next (.tracks rfl (by decide) (.intro [] []))
  have t₃ := t₂.next .stops
  have w₀ : Reachable (· = .new) (Websocket.Step ⟨1, 1⟩) (.new : Websocket.Server Nat) := .init_state rfl
  have w₁ := w₀.next (t := { Websocket.Server.new with requests := [.arrive 5 7] })
    (.arrives fun _ hc => absurd hc List.not_mem_nil)
  have w₂ := w₁.next (.reserves rfl (by decide) (.intro [] []))
  have w₃ := w₂.next (.upgrades rfl (.intro [] []))
  have w₄ := w₃.next .stops
  obtain ⟨htcp, hws⟩ := @connection_limits Nat _ _ ⟨1, 1⟩ ⟨1, 1⟩
  exact ⟨_, _, ⟨rfl, rfl, (htcp _ t₃).2.2.1⟩, rfl, rfl, (hws _ w₄).2.2.1⟩

end Yola.Connections
