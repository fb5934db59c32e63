import Yola.Reasoning.Entries
import Yola.Reasoning.Runs
import Yola.Reasoning.Tally

/-!
# The connections of a TCP server

`acceptTCP`, `serveAcceptedTCP` with its deferred calls, and the end of the server, as far as they concern
`trackConnection` and `untrackConnection`.  Both are one step, for they hold the lifecycle lock.
-/

namespace Yola.Connections.Tcp

open Reasoning

variable {IP : Type}

inductive Phase where
  | accepted
  | rejected
  | tracked
  /-- It has still to leave the wait group. -/
  | untracked
  | finished
deriving DecidableEq

inductive Dispatch where
  | unstarted
  | running
  | ended
deriving DecidableEq

structure Conn (IP : Type) where
  conn : Nat
  remoteIP : IP
  phase : Phase
  writer : Dispatch
  /-- How often it has been tracked and untracked. -/
  tracks : Nat
  untracks : Nat
deriving DecidableEq

/-- A connection that `Accept` has just returned. -/
def Conn.accept (conn : Nat) (remoteIP : IP) : Conn IP where
  conn := conn
  remoteIP := remoteIP
  phase := .accepted
  writer := .unstarted
  tracks := 0
  untracks := 0

structure Config where
  maxConnLimit : Nat
  maxConnPerIP : Nat

structure Server (IP : Type) where
  stopped : Bool
  /-- The map from connections to addresses. -/
  conns : List (Nat × IP)
  connectionsPerIP : Counters IP
  connWG : Int
  /-- All connections that the listener has accepted. -/
  accepted : List (Conn IP)

namespace Server

variable (s : Server IP)

def new : Server IP where
  stopped := false
  conns := []
  connectionsPerIP := .empty
  connWG := 0
  accepted := []

def refuses (config : Config) (remoteIP : IP) : Prop :=
  s.stopped = true ∨ config.maxConnLimit ≤ s.conns.length ∨
    config.maxConnPerIP ≤ s.connectionsPerIP.get remoteIP

instance (config : Config) (remoteIP : IP) : Decidable (s.refuses config remoteIP) :=
  inferInstanceAs (Decidable (_ ∨ _ ∨ _))

variable [DecidableEq IP]

def track (conn : Nat) (remoteIP : IP) : Server IP :=
  { s with
    conns := (conn, remoteIP) :: s.conns.filter (·.1 ≠ conn)
    connectionsPerIP := s.connectionsPerIP.increment remoteIP
    connWG := s.connWG + 1 }

variable [Inhabited IP]

/-- `untrackConnection`. -/
def untrack (conn : Nat) : Server IP :=
  { s with
    conns := s.conns.filter (·.1 ≠ conn)
    connectionsPerIP := s.connectionsPerIP.decrement ((s.conns.lookup conn).getD default) }

end Server

inductive Act where
  | quiet
  | tracks (conn : Nat)
  | untracks (conn : Nat)
deriving DecidableEq

section Steps

variable [DecidableEq IP] [Inhabited IP]

inductive Step (config : Config) (s : Server IP) : Act → Server IP → Prop where
  | accepts {conn remoteIP} (fresh : ∀ c ∈ s.accepted, c.conn ≠ conn) :
      Step config s .quiet { s with accepted := s.accepted ++ [.accept conn remoteIP] }
  | rejects {c : Conn IP} {accepted} (at_ : c.phase = .accepted)
      (refuses : s.refuses config c.remoteIP) (moves : Moves c { c with phase := .rejected } s.accepted accepted) :
      Step config s .quiet { s with accepted := accepted }
  | tracks {c : Conn IP} {accepted} (at_ : c.phase = .accepted)
      (admits : ¬ s.refuses config c.remoteIP)
      (moves : Moves c { c with phase := .tracked, tracks := c.tracks + 1 } s.accepted accepted) :
      Step config s (.tracks c.conn) { s.track c.conn c.remoteIP with accepted := accepted }
  | starts {c : Conn IP} {accepted} (at_ : c.phase = .tracked) (writer : c.writer = .unstarted)
      (moves : Moves c { c with writer := .running } s.accepted accepted) :
      Step config s .quiet { s with accepted := accepted, connWG := s.connWG + 1 }
  | ends {c : Conn IP} {accepted} (writer : c.writer = .running)
      (moves : Moves c { c with writer := .ended } s.accepted accepted) :
      Step config s .quiet { s with accepted := accepted, connWG := s.connWG - 1 }
  /-- `serveTCP` has returned or panicked. -/
  | untracks {c : Conn IP} {accepted} (at_ : c.phase = .tracked)
      (moves : Moves c { c with phase := .untracked, untracks := c.untracks + 1 } s.accepted accepted) :
      Step config s (.untracks c.conn) { s.untrack c.conn with accepted := accepted }
  | finishes {c : Conn IP} {accepted} (at_ : c.phase = .untracked)
      (moves : Moves c { c with phase := .finished } s.accepted accepted) :
      Step config s .quiet { s with accepted := accepted, connWG := s.connWG - 1 }
  /-- `Stop` and `finishServing`. -/
  | stops : Step config s .quiet { s with stopped := true }

end Steps

variable [DecidableEq IP]

namespace Conn

variable (c : Conn IP)

def trackedAt (remoteIP : IP) : Bool := c.phase = .tracked && remoteIP = c.remoteIP

def entry : Option (Nat × IP) := if c.phase = .tracked then some (c.conn, c.remoteIP) else none

/-- How often the wait group counts the connection. -/
def waits : Nat :=
  (if c.phase = .tracked ∨ c.phase = .untracked then 1 else 0) + if c.writer = .running then 1 else 0

/-- It is tracked and untracked at most once, and as often untracked as tracked in the end. -/
def Regular : Prop :=
  match c.phase with
  | .accepted | .rejected => c.tracks = 0 ∧ c.untracks = 0
  | .tracked => c.tracks = 1 ∧ c.untracks = 0
  | .untracked | .finished => c.tracks = 1 ∧ c.untracks = 1

end Conn

structure Server.Accounted (config : Config) (s : Server IP) : Prop where
  distinct : (s.accepted.map Conn.conn).Nodup
  conns : s.conns.Perm (s.accepted.filterMap Conn.entry)
  perIP : s.connectionsPerIP.Tallies fun remoteIP => s.accepted.countP (·.trackedAt remoteIP)
  limit : s.conns.length ≤ config.maxConnLimit
  perIPLimit : ∀ remoteIP, s.accepted.countP (·.trackedAt remoteIP) ≤ config.maxConnPerIP
  connWG : s.connWG = (s.accepted.map Conn.waits).sum
  regular : ∀ c ∈ s.accepted, c.Regular

theorem accounted_new (config : Config) : (Server.new : Server IP).Accounted config where
  distinct := List.nodup_nil
  conns := .nil
  perIP := Counters.tallies_empty fun _ => rfl
  limit := Nat.zero_le _
  perIPLimit _ := Nat.zero_le _
  connWG := rfl
  regular := nofun

namespace Server.Accounted

variable {config : Config} {s s' : Server IP} {c c' : Conn IP} {accepted : List (Conn IP)} {a : Act}

omit [DecidableEq IP] in
theorem entry_eq_some {e : Nat × IP} : c.entry = some e ↔ c.phase = .tracked ∧ e = (c.conn, c.remoteIP) := by
  unfold Conn.entry
  split
  · rename_i htrk
    rw [Option.some_inj]
    exact ⟨fun h => ⟨htrk, h.symm⟩, fun h => h.2.symm⟩
  · rename_i htrk
    exact ⟨nofun, fun h => absurd h.1 htrk⟩

theorem entry_of_mem (h : s.Accounted config) (hc : c ∈ s.accepted) {remoteIP : IP}
    (he : (c.conn, remoteIP) ∈ s.conns) : c.phase = .tracked ∧ remoteIP = c.remoteIP := by
  obtain ⟨d, hd, hent⟩ := List.mem_filterMap.mp (h.conns.mem_iff.mp he)
  obtain ⟨htrk, heq⟩ := entry_eq_some.mp hent
  obtain ⟨hconn, rfl⟩ := Prod.mk.injEq .. ▸ heq
  -- No other connection is the same.
  obtain rfl := List.inj_on_of_nodup_map h.distinct hc hd hconn
  exact ⟨htrk, rfl⟩

omit [DecidableEq IP] in
theorem conn_of_entry (c : Conn IP) (e : Nat × IP) (he : c.entry = some e) : e.1 = c.conn := by
  obtain ⟨-, rfl⟩ := entry_eq_some.mp he
  rfl

theorem moves (h : s.Accounted config) (hm : Moves c c' s.accepted accepted) (hconn : c'.conn = c.conn)
    (hent : c'.entry = c.entry) (hat : ∀ remoteIP, c'.trackedAt remoteIP = c.trackedAt remoteIP)
    (hreg : c.Regular → c'.Regular) {wg : Int} (hwg : wg + c.waits = s.connWG + c'.waits) :
    ({ s with accepted := accepted, connWG := wg } : Server IP).Accounted config := by
  constructor
  case distinct => exact hm.nodup_map hconn h.distinct
  case conns =>
    rw [hm.filterMap_eq hent]
    exact h.conns
  case perIP => exact h.perIP.move hm hat
  case limit => exact h.limit
  case perIPLimit =>
    intro remoteIP
    rw [hm.countP_eq (hat remoteIP)]
    exact h.perIPLimit remoteIP
  case connWG =>
    have hsum := hm.sum_map Conn.waits
    have hwg' := h.connWG
    simp only at hwg' ⊢
    omega
  case regular => exact hm.forall_mem (hreg (h.regular c hm.mem)) h.regular

theorem tracks (h : s.Accounted config) (at_ : c.phase = .accepted) (admits : ¬ s.refuses config c.remoteIP)
    (hm : Moves c { c with phase := .tracked, tracks := c.tracks + 1 } s.accepted accepted) :
    ({ s.track c.conn c.remoteIP with accepted := accepted } : Server IP).Accounted config := by
  obtain ⟨-, hlimit, hperIP⟩ : ¬ s.stopped = true ∧ ¬ config.maxConnLimit ≤ s.conns.length ∧
      ¬ (config.maxConnPerIP : Int) ≤ s.connectionsPerIP.get c.remoteIP := by
    simpa only [Server.refuses, not_or] using admits
  have hnone : c.entry = none := if_neg (by rw [at_]; nofun)
  have hbef : ∀ remoteIP, c.trackedAt remoteIP = false := fun _ => by simp [Conn.trackedAt, at_]
  have hafter : ∀ remoteIP, Conn.trackedAt { c with phase := .tracked, tracks := c.tracks + 1 } remoteIP =
      decide (remoteIP = c.remoteIP) := fun _ => by simp [Conn.trackedAt]
  constructor
  case distinct => exact hm.nodup_map rfl h.distinct
  case conns => exact hm.perm_enter (f := Prod.fst) conn_of_entry h.distinct h.conns hnone (if_pos rfl)
  case perIP => exact h.perIP.enter hm hbef hafter
  case limit =>
    have hfilter := List.length_filter_le (·.1 ≠ c.conn) s.conns
    change ((c.conn, c.remoteIP) :: s.conns.filter (·.1 ≠ c.conn)).length ≤ _
    rw [List.length_cons]
    omega
  case perIPLimit =>
    rw [h.perIP.get_eq] at hperIP
    exact Counters.enter_le h.perIPLimit (by omega) hm hbef hafter
  case connWG =>
    have hsum := hm.sum_map Conn.waits
    have hwg := h.connWG
    simp only [Conn.waits, at_, Server.track] at hsum hwg ⊢
    simp at hsum
    omega
  case regular =>
    have hreg := h.regular c hm.mem
    simp only [Conn.Regular, at_] at hreg
    exact hm.forall_mem ⟨congrArg Nat.succ hreg.1, hreg.2⟩ h.regular

theorem lookup_eq (h : s.Accounted config) (hc : c ∈ s.accepted) (at_ : c.phase = .tracked) :
    s.conns.lookup c.conn = some c.remoteIP := by
  have hmem : (c.conn, c.remoteIP) ∈ s.conns :=
    h.conns.mem_iff.mpr (List.mem_filterMap.mpr ⟨c, hc, entry_eq_some.mpr ⟨at_, rfl⟩⟩)
  cases hlookup : s.conns.lookup c.conn with
  | none =>
    have hne := List.lookup_eq_none_iff.mp hlookup _ hmem
    simp at hne
  | some remoteIP =>
    obtain ⟨before, after, hsplit, -⟩ := List.lookup_eq_some_iff.mp hlookup
    have he : (c.conn, remoteIP) ∈ s.conns := by
      rw [hsplit]
      exact List.mem_append_right _ List.mem_cons_self
    rw [(h.entry_of_mem hc he).2]

theorem untracks [Inhabited IP] (h : s.Accounted config) (at_ : c.phase = .tracked)
    (hm : Moves c { c with phase := .untracked, untracks := c.untracks + 1 } s.accepted accepted) :
    ({ s.untrack c.conn with accepted := accepted } : Server IP).Accounted config := by
  have hbef : ∀ remoteIP, c.trackedAt remoteIP = decide (remoteIP = c.remoteIP) :=
    fun _ => by simp [Conn.trackedAt, at_]
  have hafter : ∀ remoteIP, Conn.trackedAt { c with phase := .untracked, untracks := c.untracks + 1 } remoteIP =
      false := fun _ => by simp [Conn.trackedAt]
  constructor
  case distinct => exact hm.nodup_map rfl h.distinct
  case conns =>
    exact hm.perm_leave (f := Prod.fst) conn_of_entry h.distinct h.conns (if_pos at_) (if_neg nofun)
  case perIP =>
    change ((s.connectionsPerIP.decrement ((s.conns.lookup c.conn).getD default))).Tallies _
    rw [h.lookup_eq hm.mem at_]
    exact h.perIP.leave hm hbef hafter
  case limit => exact (List.length_filter_le _ _).trans h.limit
  case perIPLimit => exact Counters.leave_le h.perIPLimit hm hafter
  case connWG =>
    have hsum := hm.sum_map Conn.waits
    have hwg := h.connWG
    simp only [Conn.waits, at_, Server.untrack] at hsum hwg ⊢
    simp at hsum
    omega
  case regular =>
    have hreg := h.regular c hm.mem
    simp only [Conn.Regular, at_] at hreg
    exact hm.forall_mem ⟨hreg.1, congrArg Nat.succ hreg.2⟩ h.regular

theorem accepts (h : s.Accounted config) {conn : Nat} {remoteIP : IP} (fresh : ∀ c ∈ s.accepted, c.conn ≠ conn) :
    ({ s with accepted := s.accepted ++ [.accept conn remoteIP] } : Server IP).Accounted config := by
  have hcnt : ∀ ip, (s.accepted ++ [Conn.accept conn remoteIP]).countP (·.trackedAt ip) =
      s.accepted.countP (·.trackedAt ip) := by
    intro ip
    simp [List.countP_append, Conn.trackedAt, Conn.accept]
  constructor
  case distinct => exact nodup_map_snoc h.distinct fresh
  case conns =>
    rw [List.filterMap_append, show List.filterMap Conn.entry [_] = [] from rfl, List.append_nil]
    exact h.conns
  case perIP => exact h.perIP.congr hcnt
  case limit => exact h.limit
  case perIPLimit =>
    intro ip
    rw [hcnt ip]
    exact h.perIPLimit ip
  case connWG =>
    rw [List.map_append, List.sum_append]
    exact h.connWG
  case regular =>
    intro c hc
    obtain hold | hnew := List.mem_append.mp hc
    · exact h.regular c hold
    · rw [List.mem_singleton.mp hnew]
      exact ⟨rfl, rfl⟩

theorem step [Inhabited IP] (h : s.Accounted config) (hs : Step config s a s') : s'.Accounted config := by
  cases hs with
  | @accepts conn remoteIP fresh => exact h.accepts fresh
  | rejects at_ refuses moves =>
    refine h.moves moves rfl ?_ ?_ ?_ ?_
    · simp [Conn.entry, at_]
    · simp [Conn.trackedAt, at_]
    · intro hreg
      simpa [Conn.Regular, at_] using hreg
    · simp [Conn.waits, at_]
  | tracks at_ admits moves => exact h.tracks at_ admits moves
  | starts at_ writer moves =>
    refine h.moves moves rfl rfl (fun _ => rfl) id ?_
    simp [Conn.waits, writer]
    omega
  | ends writer moves =>
    refine h.moves moves rfl rfl (fun _ => rfl) id ?_
    simp [Conn.waits, writer]
  | untracks at_ moves => exact h.untracks at_ moves
  | finishes at_ moves =>
    refine h.moves moves rfl ?_ ?_ ?_ ?_
    · simp [Conn.entry, at_]
    · simp [Conn.trackedAt, at_]
    · intro hreg
      simpa [Conn.Regular, at_] using hreg
    · simp [Conn.waits, at_]
      omega
  | stops => exact { h with }

end Server.Accounted

end Yola.Connections.Tcp
