import Yola.Gateway.Opened
import Yola.Reasoning.Simulation

/-!
# The life of a binding

What the binding of one connection goes through, as a small machine: it is asked for once, returned
or not, rejected by the commit or committed, detached by one owner, and unbound by that owner.  The
gateways follow one such machine for each connection.  At every moment at most one goroutine carries
the binding of a session, and the machine is where that goroutine, or the session, says it is.
-/

namespace Yola.Gateway

open Text Redis Locate Locate.Redis Reasoning

/-! ## The machine -/

inductive Life where
  | fresh
  | calling
  | failed
  | returned (b : GateBinding)
  | rejected (b : GateBinding)
  | committed (b : GateBinding)
  | detached (owner : Owner) (b : GateBinding)
  | released (owner : Owner) (b : GateBinding)
  | skipped (b : GateBinding)
deriving DecidableEq

inductive LifeEvent where
  | called
  | failed
  | returned (b : GateBinding)
  | rejected (b : GateBinding)
  | committed (b : GateBinding)
  | detached (owner : Owner) (b : GateBinding)
  | unbound (owner : Owner) (b : GateBinding)
  | skipped (b : GateBinding)
deriving DecidableEq

inductive LifeStep : Life → LifeEvent → Life → Prop where
  | called : LifeStep .fresh .called .calling
  | failed : LifeStep .calling .failed .failed
  | returned (b) : LifeStep .calling (.returned b) (.returned b)
  | rejected (b) : LifeStep (.returned b) (.rejected b) (.rejected b)
  | withdrawn (b) :
      LifeStep (.rejected b) (.unbound .authenticate b) (.released .authenticate b)
  | committed (b) : LifeStep (.returned b) (.committed b) (.committed b)
  | detached (owner b) (teardown : owner ≠ .authenticate) :
      LifeStep (.committed b) (.detached owner b) (.detached owner b)
  | unbound (owner b) (teardown : owner ≠ .authenticate) :
      LifeStep (.detached owner b) (.unbound owner b) (.released owner b)
  | skipped (b) : LifeStep (.detached .drain b) (.skipped b) (.skipped b)

def Life.trace : Life → List LifeEvent
  | fresh => []
  | calling => [.called]
  | failed => [.called, .failed]
  | returned b => [.called, .returned b]
  | rejected b => [.called, .returned b, .rejected b]
  | committed b => [.called, .returned b, .committed b]
  | detached owner b => [.called, .returned b, .committed b, .detached owner b]
  | released .authenticate b => [.called, .returned b, .rejected b, .unbound .authenticate b]
  | released owner b =>
      [.called, .returned b, .committed b, .detached owner b, .unbound owner b]
  | skipped b => [.called, .returned b, .committed b, .detached .drain b, .skipped b]

theorem LifeStep.trace_eq {l l' : Life} {e : LifeEvent} (h : LifeStep l e l') :
    l'.trace = l.trace ++ [e] := by
  cases h with
  | unbound owner b teardown =>
    cases owner with
    | authenticate => exact absurd rfl teardown
    | _ => rfl
  | _ => rfl

-- The machine has no loops, so where it is tells everything that happened.
theorem Life.trace_of_run {l l' : Life} {es : List LifeEvent} (h : Run LifeStep l es l') :
    l'.trace = l.trace ++ es := by
  induction h with
  | nil => rw [List.append_nil]
  | cons first _ ih =>
    rw [ih, first.trace_eq, List.append_assoc]
    rfl

namespace Life

/-- States in which a goroutine has the binding in hand. -/
def carried : Life → Bool
  | calling | returned _ | rejected _ | detached _ _ => true
  | _ => false

/-- What the session itself holds. -/
def held : Life → GateBinding
  | committed b => b
  | _ => noBinding

def binding? : Life → Option GateBinding
  | returned b | rejected b | committed b | detached _ b | released _ b | skipped b => some b
  | _ => none

end Life

/-! ## What the gateways show of it -/

section Observe

variable {γ κ : Type} [DecidableEq κ] (cfg : GatewayConfig γ κ) (k : κ)

/-- A binding is recognised by its token, whoever issues the call. -/
def GatewayConfig.observe : Event κ → Option LifeEvent
  | .bindCalled k' => if k' = k then some .called else none
  | .bindReturned k' b => if k' = k then some (.returned b) else none
  | .bindFailed k' => if k' = k then some .failed else none
  | .committed k' b => if k' = k then some (.committed b) else none
  | .rejected k' b => if k' = k then some (.rejected b) else none
  | .detached k' owner b =>
      if k' = k ∧ validGateBinding b = true then some (.detached owner b) else none
  | .unbindIssued owner b =>
      if b.bindingToken = cfg.token k then some (.unbound owner b) else none
  | .unbindSkipped b => if b.bindingToken = cfg.token k then some (.skipped b) else none
  | .renewalStored _ | .silent => none

end Observe

def Goroutine.carries {κ : Type} : Goroutine κ → Option (κ × Life)
  | authBegun k | authAccepted k | authIdentified k _ | authAdmitted k _ => some (k, .fresh)
  | authBinding k _ _ _ => some (k, .calling)
  | authBound k _ lease => some (k, .returned lease.binding)
  | authRejected k lease => some (k, .rejected lease.binding)
  | closeDetached job k b =>
      if validGateBinding b = true then some (k, .detached job.owner b) else none
  | kickDetached k b | kickRemoved k b => some (k, .detached .kick b)
  | _ => none

def GatewayConfig.Owned {γ κ : Type} (cfg : GatewayConfig γ κ) (k : κ) (b : GateBinding) : Prop :=
  validGateBinding b = true ∧ b.bindingToken = cfg.token k

def Goroutine.Wf {γ κ : Type} (cfg : GatewayConfig γ κ) : Goroutine κ → Prop
  | authIdentified k b | authAdmitted k b => b.bindingToken = cfg.token k
  | authBinding k b _ replies =>
      b.bindingToken = cfg.token k ∧
        ∀ lease previous, .ok (lease, previous) ∈ replies → cfg.Owned k lease.binding
  | kickFound _ target => validGateBinding target = true
  | _ => True

structure Linked {γ κ : Type} (cfg : GatewayConfig γ κ) (s : Gateways γ κ) (lives : κ → Life) :
    Prop where
  view : ∀ n k l, (s.goroutine n).carries = some (k, l) → lives k = l
  alone : ∀ n m k l l', (s.goroutine n).carries = some (k, l) → (s.goroutine m).carries = some (k, l') → n = m
  carried : ∀ k, (lives k).carried = true → ∃ n, (s.goroutine n).carries = some (k, lives k)
  binding : ∀ k, (s.session k).binding = (lives k).held
  attempted : ∀ k, (s.session k).authAttempted = false →
    lives k = .fresh ∧ ∀ n l, (s.goroutine n).carries ≠ some (k, l)
  owned : ∀ k b, (lives k).binding? = some b → cfg.Owned k b
  wf : ∀ n, (s.goroutine n).Wf cfg
  bindIssued : ∀ k b ttl, .bind b ttl ∈ s.world.issued → b.bindingToken = cfg.token k → lives k ≠ .fresh
  unbindIssued : ∀ k b, .unbind b ∈ s.world.issued → b.bindingToken = cfg.token k →
    ∃ owner, lives k = .released owner b

end Yola.Gateway
