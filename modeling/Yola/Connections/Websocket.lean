import Yola.Reasoning.Entries
import Yola.Reasoning.Runs
import Yola.Reasoning.Tally

/-!
# The connections of a WebSocket server

`handleConnections` reserves a place before it upgrades a request, and commits the channel afterwards.
`reserveConnection`, `commitConnection` and the locked part of `releaseConnection` are one step each, for
they hold the lifecycle lock.
-/

namespace Yola.Connections.Websocket

open Reasoning

variable {IP : Type}

/-- Where `handleConnections` is.  It leaves with a channel, or without one when the upgrade has failed or
the server does not commit it. -/
inductive Phase where
  | arrived
  | rejected
  | reserved
  | upgraded
  | serving
  | leaving (committed : Bool)
  /-- It has still to leave the wait group. -/
  | released
  | finished
deriving DecidableEq

structure Conn (IP : Type) where
  connID : Nat
  remoteIP : IP
  phase : Phase
  /-- How often it has reserved and released a place. -/
  reserves : Nat
  releases : Nat
deriving DecidableEq

def Conn.arrive (connID : Nat) (remoteIP : IP) : Conn IP where
  connID := connID
  remoteIP := remoteIP
  phase := .arrived
  reserves := 0
  releases := 0

structure Config where
  maxConnLimit : Nat
  maxConnPerIP : Nat

structure Server (IP : Type) where
  stopped : Bool
  connCount : Int
  connectionsPerIP : Counters IP
  /-- The map of channels, which is nil after `closeChannels`. -/
  channels : Option (List Nat)
  connWG : Int
  /-- All requests that have arrived. -/
  requests : List (Conn IP)

namespace Server

variable (s : Server IP)

def new : Server IP where
  stopped := false
  connCount := 0
  connectionsPerIP := .empty
  channels := some []
  connWG := 0
  requests := []

def refuses (config : Config) (remoteIP : IP) : Prop :=
  s.stopped = true ∨ config.maxConnLimit ≤ s.connCount ∨ config.maxConnPerIP ≤ s.connectionsPerIP.get remoteIP

instance (config : Config) (remoteIP : IP) : Decidable (s.refuses config remoteIP) :=
  inferInstanceAs (Decidable (_ ∨ _ ∨ _))

/-- `commitConnection` of a server that is not stopped. -/
def commit (connID : Nat) : Server IP :=
  { s with channels := s.channels.map fun channels => connID :: channels.filter (· ≠ connID) }

variable [DecidableEq IP]

/-- `reserveConnection` that is not refused. -/
def reserve (remoteIP : IP) : Server IP :=
  { s with
    connCount := s.connCount + 1
    connectionsPerIP := s.connectionsPerIP.increment remoteIP
    connWG := s.connWG + 1 }

/-- `releaseConnection` up to its unlock; deleting from a nil map does nothing. -/
def release (remoteIP : IP) (ch : Option Nat) : Server IP :=
  { s with
    channels := s.channels.map fun channels => channels.filter (some · ≠ ch)
    connectionsPerIP := s.connectionsPerIP.decrement remoteIP
    connCount := s.connCount - 1 }

end Server

inductive Act where
  | quiet
  | reserves (connID : Nat)
  | commits (connID : Nat)
  | releases (connID : Nat)
deriving DecidableEq

section Steps

variable [DecidableEq IP]

inductive Step (config : Config) (s : Server IP) : Act → Server IP → Prop where
  | arrives {connID remoteIP} (fresh : ∀ c ∈ s.requests, c.connID ≠ connID) :
      Step config s .quiet { s with requests := s.requests ++ [.arrive connID remoteIP] }
  | rejects {c : Conn IP} {requests} (at_ : c.phase = .arrived)
      (refuses : s.refuses config c.remoteIP) (moves : Moves c { c with phase := .rejected } s.requests requests) :
      Step config s .quiet { s with requests := requests }
  | reserves {c : Conn IP} {requests} (at_ : c.phase = .arrived)
      (admits : ¬ s.refuses config c.remoteIP)
      (moves : Moves c { c with phase := .reserved, reserves := c.reserves + 1 } s.requests requests) :
      Step config s (.reserves c.connID) { s.reserve c.remoteIP with requests := requests }
  | upgradeFails {c : Conn IP} {requests} (at_ : c.phase = .reserved)
      (moves : Moves c { c with phase := .leaving false } s.requests requests) :
      Step config s .quiet { s with requests := requests }
  | upgrades {c : Conn IP} {requests} (at_ : c.phase = .reserved)
      (moves : Moves c { c with phase := .upgraded } s.requests requests) :
      Step config s .quiet { s with requests := requests }
  | commits {c : Conn IP} {requests} (at_ : c.phase = .upgraded) (running : s.stopped = false)
      (moves : Moves c { c with phase := .serving } s.requests requests) :
      Step config s (.commits c.connID) { s.commit c.connID with requests := requests }
  | notCommitted {c : Conn IP} {requests} (at_ : c.phase = .upgraded) (stopped : s.stopped = true)
      (moves : Moves c { c with phase := .leaving false } s.requests requests) :
      Step config s .quiet { s with requests := requests }
  /-- `serveWebsocket` has returned or panicked, and the writer is done. -/
  | ends {c : Conn IP} {requests} (at_ : c.phase = .serving)
      (moves : Moves c { c with phase := .leaving true } s.requests requests) :
      Step config s .quiet { s with requests := requests }
  | releases {c : Conn IP} {committed requests} (at_ : c.phase = .leaving committed)
      (moves : Moves c { c with phase := .released, releases := c.releases + 1 } s.requests requests) :
      Step config s (.releases c.connID)
        { s.release c.remoteIP (if committed then some c.connID else none) with requests := requests }
  | finishes {c : Conn IP} {requests} (at_ : c.phase = .released)
      (moves : Moves c { c with phase := .finished } s.requests requests) :
      Step config s .quiet { s with requests := requests, connWG := s.connWG - 1 }
  /-- `Stop` and `finishServing`. -/
  | stops : Step config s .quiet { s with stopped := true }
  | closeChannels (stopped : s.stopped = true) : Step config s .quiet { s with channels := none }

end Steps

namespace Conn

variable (c : Conn IP)

/-- It has a place. -/
def holds : Bool :=
  match c.phase with
  | .reserved | .upgraded | .serving | .leaving _ => true
  | _ => false

def waits : Bool := c.holds || c.phase = .released

def channel : Option Nat := if c.phase = .serving ∨ c.phase = .leaving true then some c.connID else none

/-- It reserves and releases a place at most once, and as often releases as reserves one in the end. -/
def Regular : Prop :=
  match c.phase with
  | .arrived | .rejected => c.reserves = 0 ∧ c.releases = 0
  | .reserved | .upgraded | .serving | .leaving _ => c.reserves = 1 ∧ c.releases = 0
  | .released | .finished => c.reserves = 1 ∧ c.releases = 1

variable [DecidableEq IP]

def holdsAt (remoteIP : IP) : Bool := c.holds && remoteIP = c.remoteIP

end Conn

variable [DecidableEq IP]

structure Server.Accounted (config : Config) (s : Server IP) : Prop where
  distinct : (s.requests.map Conn.connID).Nodup
  total : s.connCount = s.requests.countP Conn.holds
  perIP : s.connectionsPerIP.Tallies fun remoteIP => s.requests.countP (·.holdsAt remoteIP)
  limit : s.requests.countP Conn.holds ≤ config.maxConnLimit
  perIPLimit : ∀ remoteIP, s.requests.countP (·.holdsAt remoteIP) ≤ config.maxConnPerIP
  channels : ∀ channels, s.channels = some channels → channels.Perm (s.requests.filterMap Conn.channel)
  committing : s.stopped = false → s.channels ≠ none
  connWG : s.connWG = s.requests.countP Conn.waits
  regular : ∀ c ∈ s.requests, c.Regular

theorem accounted_new (config : Config) : (Server.new : Server IP).Accounted config where
  distinct := List.nodup_nil
  total := rfl
  perIP := Counters.tallies_empty fun _ => rfl
  limit := Nat.zero_le _
  perIPLimit _ := Nat.zero_le _
  channels := by
    rintro _ ⟨⟩
    exact .nil
  committing := nofun
  connWG := rfl
  regular := nofun

namespace Server.Accounted

variable {config : Config} {s s' : Server IP} {c c' : Conn IP} {requests : List (Conn IP)} {a : Act}

theorem moves (h : s.Accounted config) (hm : Moves c c' s.requests requests) (hconn : c'.connID = c.connID)
    (hholds : c'.holds = c.holds) (hip : c'.remoteIP = c.remoteIP) (hchannel : c'.channel = c.channel)
    (hreg : c.Regular → c'.Regular) {wg : Int} (hwg : wg + c.waits.toNat = s.connWG + c'.waits.toNat) :
    ({ s with requests := requests, connWG := wg } : Server IP).Accounted config := by
  have hat : ∀ remoteIP, c'.holdsAt remoteIP = c.holdsAt remoteIP := by
    intro remoteIP
    rw [Conn.holdsAt, hholds, hip]
    rfl
  constructor
  case distinct => exact hm.nodup_map hconn h.distinct
  case total =>
    rw [hm.countP_eq hholds]
    exact h.total
  case perIP => exact h.perIP.move hm hat
  case limit =>
    rw [hm.countP_eq hholds]
    exact h.limit
  case perIPLimit =>
    intro remoteIP
    rw [hm.countP_eq (hat remoteIP)]
    exact h.perIPLimit remoteIP
  case channels =>
    rw [hm.filterMap_eq hchannel]
    exact h.channels
  case committing => exact h.committing
  case connWG =>
    have hcnt := hm.countP Conn.waits
    have hwg' := h.connWG
    simp only at hwg' ⊢
    omega
  case regular => exact hm.forall_mem (hreg (h.regular c hm.mem)) h.regular

theorem reserves (h : s.Accounted config) (at_ : c.phase = .arrived) (admits : ¬ s.refuses config c.remoteIP)
    (hm : Moves c { c with phase := .reserved, reserves := c.reserves + 1 } s.requests requests) :
    ({ s.reserve c.remoteIP with requests := requests } : Server IP).Accounted config := by
  obtain ⟨-, hlimit, hperIP⟩ : ¬ s.stopped = true ∧ ¬ (config.maxConnLimit : Int) ≤ s.connCount ∧
      ¬ (config.maxConnPerIP : Int) ≤ s.connectionsPerIP.get c.remoteIP := by
    simpa only [Server.refuses, not_or] using admits
  have hholds := hm.countP_enter (p := Conn.holds) (by simp [Conn.holds, at_]) rfl
  have hbef : ∀ remoteIP, c.holdsAt remoteIP = false := fun _ => by simp [Conn.holdsAt, Conn.holds, at_]
  have hafter : ∀ remoteIP, Conn.holdsAt { c with phase := .reserved, reserves := c.reserves + 1 } remoteIP =
      decide (remoteIP = c.remoteIP) := fun _ => by simp [Conn.holdsAt, Conn.holds]
  have htotal := h.total
  constructor
  case distinct => exact hm.nodup_map rfl h.distinct
  case total =>
    change s.connCount + 1 = (requests.countP _ : Int)
    omega
  case perIP => exact h.perIP.enter hm hbef hafter
  case limit =>
    change requests.countP _ ≤ _
    omega
  case perIPLimit =>
    rw [h.perIP.get_eq] at hperIP
    exact Counters.enter_le h.perIPLimit (by omega) hm hbef hafter
  case channels =>
    change ∀ channels, s.channels = some channels → channels.Perm (requests.filterMap Conn.channel)
    rw [hm.filterMap_eq (by simp [Conn.channel, at_])]
    exact h.channels
  case committing => exact h.committing
  case connWG =>
    have hcnt := hm.countP_enter (p := Conn.waits) (by simp [Conn.waits, Conn.holds, at_]) rfl
    have hwg := h.connWG
    change s.connWG + 1 = (requests.countP _ : Int)
    omega
  case regular =>
    have hreg := h.regular c hm.mem
    simp only [Conn.Regular, at_] at hreg
    exact hm.forall_mem ⟨congrArg Nat.succ hreg.1, hreg.2⟩ h.regular

omit [DecidableEq IP] in
theorem connID_of_channel (c : Conn IP) (connID : Nat) (h : c.channel = some connID) : connID = c.connID := by
  unfold Conn.channel at h
  split at h
  · exact (Option.some_inj.mp h).symm
  · cases h

variable (h : s.Accounted config)

include h

theorem commits (at_ : c.phase = .upgraded) (running : s.stopped = false)
    (hm : Moves c { c with phase := .serving } s.requests requests) :
    ({ s.commit c.connID with requests := requests } : Server IP).Accounted config := by
  have hholds : Conn.holds { c with phase := .serving } = c.holds := by simp [Conn.holds, at_]
  have hat : ∀ remoteIP, Conn.holdsAt { c with phase := .serving } remoteIP = c.holdsAt remoteIP :=
    fun _ => by simp [Conn.holdsAt, hholds]
  constructor
  case distinct => exact hm.nodup_map rfl h.distinct
  case total => exact h.total.trans (congrArg _ (hm.countP_eq hholds).symm)
  case perIP => exact h.perIP.move hm hat
  case limit => exact (hm.countP_eq hholds).trans_le h.limit
  case perIPLimit => exact fun remoteIP => (hm.countP_eq (hat remoteIP)).trans_le (h.perIPLimit remoteIP)
  case channels =>
    intro channels hchs
    obtain ⟨channels', hold, rfl⟩ := Option.map_eq_some_iff.mp hchs
    exact hm.perm_enter (f := id) connID_of_channel h.distinct (h.channels channels' hold)
      (if_neg (by simp [at_])) (if_pos (.inl rfl))
  case committing =>
    intro _ hnone
    exact h.committing running (Option.map_eq_none_iff.mp hnone)
  case connWG => exact h.connWG.trans (congrArg _ (hm.countP_eq (by simp [Conn.waits, hholds, at_])).symm)
  case regular =>
    have hreg := h.regular c hm.mem
    simp only [Conn.Regular, at_] at hreg
    exact hm.forall_mem hreg h.regular

theorem releases {committed : Bool} (at_ : c.phase = .leaving committed)
    (hm : Moves c { c with phase := .released, releases := c.releases + 1 } s.requests requests) :
    ({ s.release c.remoteIP (if committed then some c.connID else none) with requests := requests } :
      Server IP).Accounted config := by
  have hholds := hm.countP_leave (p := Conn.holds) (by simp [Conn.holds, at_]) rfl
  have hbef : ∀ remoteIP, c.holdsAt remoteIP = decide (remoteIP = c.remoteIP) :=
    fun _ => by simp [Conn.holdsAt, Conn.holds, at_]
  have hafter : ∀ remoteIP, Conn.holdsAt { c with phase := .released, releases := c.releases + 1 } remoteIP = false :=
    fun _ => rfl
  have htotal := h.total
  have hlimit := h.limit
  constructor
  case distinct => exact hm.nodup_map rfl h.distinct
  case total =>
    change s.connCount - 1 = (requests.countP _ : Int)
    omega
  case perIP => exact h.perIP.leave hm hbef hafter
  case limit =>
    change requests.countP _ ≤ _
    omega
  case perIPLimit => exact Counters.leave_le h.perIPLimit hm hafter
  case channels =>
    intro channels hchs
    obtain ⟨channels', hold, rfl⟩ := Option.map_eq_some_iff.mp hchs
    have hperm := h.channels channels' hold
    have hnone : Conn.channel { c with phase := .released, releases := c.releases + 1 } = none := if_neg nofun
    change (channels'.filter (some · ≠ if committed then some c.connID else none)).Perm
      (requests.filterMap Conn.channel)
    cases committed with
    | false =>
      -- Without a channel nothing is deleted.
      rw [hm.filterMap_eq (hnone.trans (if_neg (by simp [at_])).symm)]
      simpa using hperm
    | true =>
      simpa using hm.perm_leave (f := id) connID_of_channel h.distinct hperm (if_pos (.inr at_)) hnone
  case committing =>
    intro hruns hnone
    exact h.committing hruns (Option.map_eq_none_iff.mp hnone)
  case connWG =>
    exact h.connWG.trans (congrArg _ (hm.countP_eq (by simp [Conn.waits, Conn.holds, at_])).symm)
  case regular =>
    have hregular := h.regular c hm.mem
    simp only [Conn.Regular, at_] at hregular
    exact hm.forall_mem ⟨hregular.1, congrArg Nat.succ hregular.2⟩ h.regular

theorem arrives {connID : Nat} {remoteIP : IP} (fresh : ∀ c ∈ s.requests, c.connID ≠ connID) :
    ({ s with requests := s.requests ++ [.arrive connID remoteIP] } : Server IP).Accounted config := by
  have hcnt : ∀ {p : Conn IP → Bool}, p (.arrive connID remoteIP) = false →
      (s.requests ++ [Conn.arrive connID remoteIP]).countP p = s.requests.countP p := by
    intro p hp
    rw [List.countP_append, List.countP_singleton, hp]
    rfl
  constructor
  case distinct => exact nodup_map_snoc h.distinct fresh
  case total => exact h.total.trans (congrArg _ (hcnt rfl).symm)
  case perIP => exact h.perIP.congr fun _ => hcnt rfl
  case limit => exact (hcnt rfl).trans_le h.limit
  case perIPLimit => exact fun ip => (hcnt rfl).trans_le (h.perIPLimit ip)
  case channels =>
    rw [List.filterMap_append, show List.filterMap Conn.channel [_] = [] from rfl, List.append_nil]
    exact h.channels
  case committing => exact h.committing
  case connWG => exact h.connWG.trans (congrArg _ (hcnt rfl).symm)
  case regular =>
    intro c hc
    obtain hold | hnew := List.mem_append.mp hc
    · exact h.regular c hold
    · rw [List.mem_singleton.mp hnew]
      exact ⟨rfl, rfl⟩

theorem step (hs : Step config s a s') : s'.Accounted config := by
  cases hs with
  | arrives fresh => exact h.arrives fresh
  | rejects at_ refuses moves | upgradeFails at_ moves | upgrades at_ moves | notCommitted at_ stopped moves
  | ends at_ moves =>
    refine h.moves moves rfl ?_ rfl ?_ ?_ ?_
    · simp [Conn.holds, at_]
    · simp [Conn.channel, at_]
    · simp [Conn.Regular, at_]
    · simp [Conn.waits, Conn.holds, at_]
  | reserves at_ admits moves => exact h.reserves at_ admits moves
  | commits at_ running moves => exact h.commits at_ running moves
  | releases at_ moves => exact h.releases at_ moves
  | finishes at_ moves =>
    refine h.moves moves rfl ?_ rfl ?_ ?_ ?_
    · simp [Conn.holds, at_]
    · simp [Conn.channel, at_]
    · simp [Conn.Regular, at_]
    · simp [Conn.waits, Conn.holds, at_]
  | stops => exact { h with committing := nofun }
  | closeChannels stopped =>
    refine { h with channels := nofun, committing := fun hruns => ?_ }
    cases stopped.symm.trans hruns

end Server.Accounted

end Yola.Connections.Websocket
