import Mathlib.Data.List.Nodup
import Mathlib.Data.List.Flatten
import Yola.Network.Prepared
import Yola.Reasoning.Runs
import Yola.Reasoning.Threads

/-!
# The broadcaster of a gateway

`broadcaster` of the package `gateway`: `enqueue`, the coordinator, which takes one push after the other
and deals the sessions to the workers in batches, and `stop`.  A run of the broadcaster ends when its
context does; its channels belong to the run.
-/

namespace Yola.Broadcast

open Network Reasoning

/-! ## The batches of one fan-out -/

section Batches

variable {Session : Type}

/-- The loop over the offsets; its fuel is the number of sessions. -/
def slices (batchSize : Nat) (sessions : List Session) : Nat → Nat → List (List Session)
  | 0, _ => []
  | fuel + 1, offset =>
    if offset < sessions.length then
      (sessions.take (min (offset + batchSize) sessions.length)).drop offset ::
        slices batchSize sessions fuel (offset + batchSize)
    else []

def batches (workers : Nat) (sessions : List Session) : List (List Session) :=
  let batchCount := min workers sessions.length
  if batchCount = 0 then []
  else slices ((sessions.length + batchCount - 1) / batchCount) sessions sessions.length 0

variable {batchSize : Nat} {sessions : List Session} {fuel offset count : Nat}

theorem slice_eq (offset : Nat) :
    (sessions.take (min (offset + batchSize) sessions.length)).drop offset =
      (sessions.drop offset).take batchSize := by
  rw [List.take_eq_take_min.symm, List.drop_take, Nat.add_sub_cancel_left]

theorem flatten_slices (hsize : 0 < batchSize) (henough : sessions.length ≤ offset + fuel) :
    (slices batchSize sessions fuel offset).flatten = sessions.drop offset := by
  induction fuel generalizing offset with
  | zero => exact (List.drop_eq_nil_of_le henough).symm
  | succ fuel ih =>
    rw [slices]
    split
    case isTrue h =>
      rw [List.flatten_cons, slice_eq, ih (by omega), ← List.drop_drop, List.take_append_drop]
    case isFalse h => exact (List.drop_eq_nil_of_le (Nat.le_of_not_lt h)).symm

theorem slices_nonempty (hsize : 0 < batchSize) : ∀ batch ∈ slices batchSize sessions fuel offset, batch ≠ [] := by
  induction fuel generalizing offset with
  | zero => exact nofun
  | succ fuel ih =>
    rw [slices]
    split
    case isTrue h =>
      intro batch hbatch
      obtain rfl | hbatch := List.mem_cons.mp hbatch
      · have hlen : 0 < ((sessions.drop offset).take batchSize).length := by
          rw [List.length_take, List.length_drop]
          omega
        rw [slice_eq]
        exact List.ne_nil_of_length_pos hlen
      · exact ih batch hbatch
    case isFalse => exact nofun

theorem length_slices_le (hcovers : sessions.length ≤ offset + count * batchSize) :
    (slices batchSize sessions fuel offset).length ≤ count := by
  induction fuel generalizing offset count with
  | zero => exact Nat.zero_le _
  | succ fuel ih =>
    rw [slices]
    split
    case isTrue h =>
      cases count with
      | zero => omega
      | succ =>
        rw [Nat.succ_mul] at hcovers
        exact Nat.succ_le_succ (ih (by omega))
    case isFalse => exact Nat.zero_le _

theorem le_count_mul_size (n : Nat) (hcnt : 0 < count) : n ≤ count * ((n + count - 1) / count) := by
  have hdiv := Nat.div_add_mod (n + count - 1) count
  have hmod := Nat.mod_lt (n + count - 1) hcnt
  omega

theorem size_pos {n : Nat} (hcnt : 0 < count) (hle : count ≤ n) : 0 < (n + count - 1) / count :=
  Nat.div_pos (by omega) hcnt

variable {workers : Nat}

theorem flatten_batches (hwks : 0 < workers) : (batches workers sessions).flatten = sessions := by
  simp only [batches]
  split
  case isTrue h =>
    have hnil : sessions = [] := List.eq_nil_of_length_eq_zero (by omega)
    rw [hnil]
    rfl
  case isFalse h =>
    rw [flatten_slices (size_pos (by omega) (by omega)) (by omega), List.drop_zero]

theorem batches_nonempty : ∀ batch ∈ batches workers sessions, batch ≠ [] := by
  simp only [batches]
  split
  case isTrue => exact nofun
  case isFalse h => exact slices_nonempty (size_pos (by omega) (by omega))

theorem length_batches_le : (batches workers sessions).length ≤ workers := by
  simp only [batches]
  split
  case isTrue => exact Nat.zero_le _
  case isFalse h =>
    have hcnt : 0 < min workers sessions.length := by omega
    have hcovers := le_count_mul_size sessions.length hcnt
    rw [← Nat.zero_add (_ * _)] at hcovers
    exact Nat.le_trans (length_slices_le hcovers) (Nat.min_le_left _ _)

end Batches

/-! ## The broadcaster -/

structure Config where
  workers : Nat
  queueCapacity : Nat
  /-- `BroadcastWorkers` refuses other numbers. -/
  positive : 0 < workers

inductive Coordinator (Session Message : Type) where
  | selecting
  /-- In `Reset`. -/
  | resetting (m : Message)
  | snapshotting (m : Message)
  /-- Has sent some batches and has others to send. -/
  | dealing (rest : List (List Session)) (started : Nat)
  /-- Has to receive a number of times from `batchDone`. -/
  | collecting (n : Nat)
  /-- In `finishRun`, before and after it cancels. -/
  | leaving
  | waiting
  | done

inductive Worker (Session : Type) where
  | idle
  /-- Before the next session of its batch. -/
  | holding (rest : List Session)
  /-- In `sendIfAuthenticated`. -/
  | offering (sess : Session) (rest : List Session)
  | reporting
  | exited

structure Broadcaster (Session : Type) {Message Encoding : Type} (encode : Message → Encoding) where
  coordinator : Coordinator Session Message
  workers : List (Worker Session)
  cancelled : Bool
  pushes : List Message
  batches : List (List Session)
  batchDone : Nat
  prepared : PreparedProto encode
  /-- The messages that `enqueue` has accepted. -/
  accepted : List Message
  /-- The messages that have been fanned out, with the snapshot of each. -/
  fanouts : List (Message × List Session)
  /-- The calls of `sendIfAuthenticated`: the session and the message of the view at the call. -/
  offers : List (Session × Option Message)

variable {Session Message Encoding : Type} {encode : Message → Encoding}

namespace Worker

variable {w : Worker Session}

/-- Has received a batch and not reported it yet. -/
def busy : Worker Session → Bool
  | .idle => false
  | .holding _ | .offering _ _ | .reporting => true
  | .exited => false

def sending : Worker Session → Bool
  | .offering _ _ => true
  | _ => false

def rest : Worker Session → List Session
  | .idle => []
  | .holding rest | .offering _ rest => rest
  | .reporting | .exited => []

theorem busy_of_sending (h : w.sending = true) : w.busy = true := by
  cases w with
  | offering => rfl
  | idle | holding | reporting | exited => cases h

theorem rest_of_idle (h : w.busy = false) : w.rest = [] := by
  cases w with
  | idle | exited => rfl
  | holding | offering | reporting => cases h

end Worker

namespace Broadcaster

def start (encode : Message → Encoding) (cfg : Config) : Broadcaster Session encode where
  coordinator := .selecting
  workers := List.replicate cfg.workers .idle
  cancelled := false
  pushes := []
  batches := []
  batchDone := 0
  prepared := .zero
  accepted := []
  fanouts := []
  offers := []

variable (cfg : Config) (b : Broadcaster Session encode)

inductive CoordinatorStep : Broadcaster Session encode → Prop where
  | takes {m rest} (at_ : b.coordinator = .selecting) (pushes : b.pushes = m :: rest) :
      CoordinatorStep { b with coordinator := .resetting m, pushes := rest }
  | quits (at_ : b.coordinator = .selecting) (cancelled : b.cancelled = true) :
      CoordinatorStep { b with coordinator := .leaving }
  | resets {m} (at_ : b.coordinator = .resetting m) :
      CoordinatorStep { b with coordinator := .snapshotting m, prepared := .reset m }
  /-- The snapshot holds the values of a map in some order. -/
  | snapshots {m} {sessions : List Session} (at_ : b.coordinator = .snapshotting m)
      (distinct : sessions.Nodup) :
      CoordinatorStep { b with
        coordinator := .dealing (Broadcast.batches cfg.workers sessions) 0
        fanouts := b.fanouts ++ [(m, sessions)] }
  | deals {batch rest started}
      (at_ : b.coordinator = .dealing (batch :: rest) started) (room : b.batches.length < cfg.workers) :
      CoordinatorStep { b with coordinator := .dealing rest (started + 1), batches := b.batches ++ [batch] }
  | stopsDealing {batch rest started}
      (at_ : b.coordinator = .dealing (batch :: rest) started) (cancelled : b.cancelled = true) :
      CoordinatorStep { b with coordinator := .leaving }
  | dealt {started} (at_ : b.coordinator = .dealing [] started) :
      CoordinatorStep { b with coordinator := .collecting started }
  | collects {n tokens} (at_ : b.coordinator = .collecting (n + 1)) (done : b.batchDone = tokens + 1) :
      CoordinatorStep { b with coordinator := .collecting n, batchDone := tokens }
  | stopsCollecting {n} (at_ : b.coordinator = .collecting (n + 1)) (cancelled : b.cancelled = true) :
      CoordinatorStep { b with coordinator := .leaving }
  | completes (at_ : b.coordinator = .collecting 0) : CoordinatorStep { b with coordinator := .selecting }
  | cancels (at_ : b.coordinator = .leaving) :
      CoordinatorStep { b with coordinator := .waiting, cancelled := true }
  | finishes (at_ : b.coordinator = .waiting) (joined : ∀ w ∈ b.workers, w = .exited) :
      CoordinatorStep { b with coordinator := .done }

/-- The steps of a worker: the worker before and after, and the new state but for the list of workers. -/
inductive WorkerStep : Worker Session → Worker Session → Broadcaster Session encode → Prop where
  | takes {batch rest} (batches : b.batches = batch :: rest) :
      WorkerStep .idle (.holding batch) { b with batches := rest }
  | exits (cancelled : b.cancelled = true) : WorkerStep .idle .exited b
  | offers {sess rest} (live : b.cancelled = false) :
      WorkerStep (.holding (sess :: rest)) (.offering sess rest)
        { b with offers := b.offers ++ [(sess, b.prepared.message)] }
  /-- The connection marshals the view; others use its message. -/
  | marshals {sess rest} :
      WorkerStep (.offering sess rest) (.offering sess rest) { b with prepared := b.prepared.marshal.2 }
  | offered {sess rest} : WorkerStep (.offering sess rest) (.holding rest) b
  | ends : WorkerStep (.holding []) .reporting b
  | breaks {rest} (cancelled : b.cancelled = true) : WorkerStep (.holding rest) .reporting b
  | reports (room : b.batchDone < cfg.workers) :
      WorkerStep .reporting .idle { b with batchDone := b.batchDone + 1 }

end Broadcaster

inductive Step (cfg : Config) (b : Broadcaster Session encode) : Unit → Broadcaster Session encode → Prop where
  /-- `enqueue` when it accepts the message. -/
  | enqueues (m : Message) (live : b.cancelled = false) (room : b.pushes.length < cfg.queueCapacity) :
      Step cfg b () { b with pushes := b.pushes ++ [m], accepted := b.accepted ++ [m] }
  | stops : Step cfg b () { b with cancelled := true }
  | coordinator {b' : Broadcaster Session encode} (h : b.CoordinatorStep cfg b') : Step cfg b () b'
  | worker {w w' : Worker Session} {b' : Broadcaster Session encode} {workers : List (Worker Session)}
      (moves : Moves w w' b.workers workers) (h : b.WorkerStep cfg w w' b') :
      Step cfg b () { b' with workers := workers }

end Yola.Broadcast
