import Mathlib.Data.List.Basic
import Yola.Reasoning.Runs

/-!
# The heartbeat of a client

The atomic `State` of a heartbeat, and the goroutines of a client that use it: `heartbeatLoop`, `writeLoop`
and `readLoop`, with the peer between the last two.  A load and a compare-and-swap are steps of their own,
and so are the start and the end of a write, between which the peer can have got the frame.
-/

namespace Yola.Heartbeat

inductive Value where
  | idle
  | queued
  | writing
  | outstanding
deriving DecidableEq

inductive TickResult where
  | queue
  | pending
  | timeout
deriving DecidableEq

namespace Value

def compareAndSwap (old new v : Value) : Value × Bool := if v = old then (new, true) else (v, false)

def cancelQueue : Value → Value × Bool := compareAndSwap .queued .idle

def beginWrite : Value → Value × Bool := compareAndSwap .queued .writing

/-- The check of `FinishWrite` after a swap that has failed. -/
def finished (v : Value) : Bool := v = .idle || v = .queued

def awaitsReply (v : Value) : Bool := v = .writing || v = .outstanding

end Value

inductive Frame where
  | heartbeat
  | request
deriving DecidableEq

inductive Ticker where
  | waiting
  | loading
  | swapping (loaded : Value)
  | sending
  | cancelling
  | timedOut
  | stopped
deriving DecidableEq

/-- Where `writeLoop` is.  Of a heartbeat that is being written it is known whether the peer has all of it. -/
inductive Writer where
  | waiting
  | request
  | beginning
  | writing (sent : Bool)
  | finishing
  | reloading
  | stopped
deriving DecidableEq

inductive Reader where
  | waiting
  | replying
  | swapping (loaded : Value)
  | stopped
deriving DecidableEq

structure Client where
  value : Value
  ticker : Ticker
  outbound : List Frame
  writer : Writer
  reader : Reader
  /-- Heartbeat frames on their way to the peer. -/
  wire : Nat
  /-- Heartbeat replies on their way back. -/
  replies : Nat
  /-- Heartbeat frames whose write has returned. -/
  written : Nat
  /-- Heartbeat replies that `Reply` has confirmed. -/
  replied : Nat

/-- What a method of the heartbeat returns. -/
inductive Label where
  | quiet
  | tick (r : TickResult)
  | beginWrite (ok : Bool)
  | finishWrite (ok : Bool)
  | reply (ok : Bool)
deriving DecidableEq

namespace Client

def new : Client where
  value := .idle
  ticker := .waiting
  outbound := []
  writer := .waiting
  reader := .waiting
  wire := 0
  replies := 0
  written := 0
  replied := 0

inductive TickStep (s : Client) : Label → Client → Prop where
  | fires (at_ : s.ticker = .waiting) : TickStep s .quiet { s with ticker := .loading }
  | loads (at_ : s.ticker = .loading) (idle : s.value = .idle ∨ s.value = .outstanding) :
      TickStep s .quiet { s with ticker := .swapping s.value }
  | pending (at_ : s.ticker = .loading) (unwritten : s.value = .queued ∨ s.value = .writing) :
      TickStep s (.tick .pending) { s with ticker := .waiting }
  | retries {v} (at_ : s.ticker = .swapping v) (changed : s.value ≠ v) :
      TickStep s .quiet { s with ticker := .loading }
  | queues (at_ : s.ticker = .swapping .idle) (same : s.value = .idle) :
      TickStep s (.tick .queue) { s with value := .queued, ticker := .sending }
  | timesOut (at_ : s.ticker = .swapping .outstanding) (same : s.value = .outstanding) :
      TickStep s (.tick .timeout) { s with value := .idle, ticker := .timedOut }
  | sends (at_ : s.ticker = .sending) :
      TickStep s .quiet { s with ticker := .waiting, outbound := s.outbound ++ [.heartbeat] }
  /-- The queue is full, or the client is closed. -/
  | sendFails (at_ : s.ticker = .sending) : TickStep s .quiet { s with ticker := .cancelling }
  | cancels (at_ : s.ticker = .cancelling) :
      TickStep s .quiet { s with value := s.value.cancelQueue.1, ticker := .stopped }
  | stops (at_ : s.ticker = .waiting) : TickStep s .quiet { s with ticker := .stopped }

inductive WriteStep (s : Client) : Label → Client → Prop where
  | takesRequest {rest} (at_ : s.writer = .waiting) (first : s.outbound = .request :: rest) :
      WriteStep s .quiet { s with outbound := rest, writer := .request }
  | writesRequest (at_ : s.writer = .request) : WriteStep s .quiet { s with writer := .waiting }
  | takes {rest} (at_ : s.writer = .waiting) (first : s.outbound = .heartbeat :: rest) :
      WriteStep s .quiet { s with outbound := rest, writer := .beginning }
  | begins (at_ : s.writer = .beginning) :
      WriteStep s (.beginWrite s.value.beginWrite.2)
        { s with
          value := s.value.beginWrite.1
          writer := if s.value.beginWrite.2 then .writing false else .stopped }
  | arrives (at_ : s.writer = .writing false) :
      WriteStep s .quiet { s with writer := .writing true, wire := s.wire + 1 }
  | writes (at_ : s.writer = .writing true) :
      WriteStep s .quiet { s with writer := .finishing, written := s.written + 1 }
  | fails {sent} (at_ : s.writer = .writing sent ∨ s.writer = .request) :
      WriteStep s .quiet { s with writer := .stopped }
  | finishes (at_ : s.writer = .finishing) (same : s.value = .writing) :
      WriteStep s (.finishWrite true) { s with value := .outstanding, writer := .waiting }
  | overtaken (at_ : s.writer = .finishing) (changed : s.value ≠ .writing) :
      WriteStep s .quiet { s with writer := .reloading }
  | reloads (at_ : s.writer = .reloading) :
      WriteStep s (.finishWrite s.value.finished)
        { s with writer := if s.value.finished then .waiting else .stopped }
  | stops (at_ : s.writer = .waiting) : WriteStep s .quiet { s with writer := .stopped }

inductive ReadStep (s : Client) : Label → Client → Prop where
  | reads (at_ : s.reader = .waiting) (arrived : 0 < s.replies) :
      ReadStep s .quiet { s with replies := s.replies - 1, reader := .replying }
  | unexpected (at_ : s.reader = .replying) (nothing : s.value.awaitsReply = false) :
      ReadStep s (.reply false) { s with reader := .stopped }
  | loads (at_ : s.reader = .replying) (awaits : s.value.awaitsReply = true) :
      ReadStep s .quiet { s with reader := .swapping s.value }
  | retries {v} (at_ : s.reader = .swapping v) (changed : s.value ≠ v) :
      ReadStep s .quiet { s with reader := .replying }
  | confirms {v} (at_ : s.reader = .swapping v) (same : s.value = v) :
      ReadStep s (.reply true) { s with value := .idle, reader := .waiting, replied := s.replied + 1 }
  | stops (at_ : s.reader = .waiting) : ReadStep s .quiet { s with reader := .stopped }

inductive Step (s : Client) : Label → Client → Prop where
  | ticker {l s'} (h : s.TickStep l s') : Step s l s'
  | writer {l s'} (h : s.WriteStep l s') : Step s l s'
  | reader {l s'} (h : s.ReadStep l s') : Step s l s'
  /-- `send` of a request. -/
  | request : Step s .quiet { s with outbound := s.outbound ++ [.request] }
  /-- The peer answers a heartbeat. -/
  | answers (arrived : 0 < s.wire) :
      Step s .quiet { s with wire := s.wire - 1, replies := s.replies + 1 }

end Client

end Yola.Heartbeat
