import Yola.Text.Utf8
import Mathlib.Tactic.NormNum

/-!
# The identities a locator works with

A gateway binding names one authenticated client connection.  Strings are byte strings, as Go has
them; only a user id is required to be UTF-8.
-/

namespace Yola.Locate

open Text

variable {name : Bytes}

def maxUIDBytes : Nat := 128

inductive LocateError where
  | gateNotFound
  | gateConflict
  | invalidGateBinding
  | invalidGateTTL
  | invalidGateLease
  | nodeNotFound
  | nodeConflict
  | invalidNodeBinding
  | nodeEpochNotFound
  | nodeEpochConflict
  | invalidNodeEpoch
deriving DecidableEq

structure GateBinding where
  serviceName : Bytes
  uid : Bytes
  gateID : Bytes
  gateEndpoint : Bytes
  connID : Bytes
  bindingToken : Bytes
deriving DecidableEq

def validUID (uid : Bytes) : Bool :=
  decide (0 < uid.length) && decide (uid.length ≤ maxUIDBytes) && validString uid

def serviceNameByte (c : UInt8) : Bool :=
  -- letters, digits, '.', '_' and '-'
  (97 ≤ c && c ≤ 122) || (65 ≤ c && c ≤ 90) || (48 ≤ c && c ≤ 57) || c == 46 || c == 95 || c == 45

def validServiceName (name : Bytes) : Bool :=
  !(decide (name.length = 0) || decide (128 < name.length)) && name.all serviceNameByte

def validGateBinding (binding : GateBinding) : Bool :=
  validUID binding.uid && validServiceName binding.serviceName && decide (binding.gateID ≠ []) &&
    decide (binding.gateEndpoint ≠ []) && decide (binding.connID ≠ []) &&
    decide (binding.bindingToken ≠ [])

def validNodeLocation (serviceName uid nodeID : Bytes) : Bool :=
  validUID uid && validServiceName serviceName && decide (nodeID ≠ [])

theorem validUID_iff {uid : Bytes} :
    validUID uid = true ↔ uid ≠ [] ∧ uid.length ≤ maxUIDBytes ∧ validString uid = true := by
  simp [validUID, List.length_pos_iff, and_assoc]

theorem validServiceName_iff : validServiceName name = true ↔
      name ≠ [] ∧ name.length ≤ 128 ∧ ∀ c ∈ name, serviceNameByte c = true := by
  simp [validServiceName, List.length_eq_zero_iff, and_assoc]

theorem validGateBinding_iff {b : GateBinding} :
    validGateBinding b = true ↔
      validUID b.uid = true ∧ validServiceName b.serviceName = true ∧ b.gateID ≠ [] ∧
        b.gateEndpoint ≠ [] ∧ b.connID ≠ [] ∧ b.bindingToken ≠ [] := by
  simp only [validGateBinding, Bool.and_eq_true, decide_eq_true_eq, and_assoc]

-- Service names stay clear of the NUL byte that separates them from a user id in keys.
theorem zero_notMem_serviceName (h : validServiceName name = true) : (0 : UInt8) ∉ name := by
  intro hmem
  have hbyte := (validServiceName_iff.mp h).2.2 0 hmem
  exact absurd hbyte (by decide)

/-- A `time.Duration`, in nanoseconds. -/
structure Duration where
  ns : Int
  lower : -2 ^ 63 ≤ ns
  upper : ns < 2 ^ 63

namespace Duration

variable {d : Duration}

-- Arithmetic on durations wraps around.
def wrap (n : Int) : Duration where
  ns := n.bmod (2 ^ 64)
  lower := by have := Int.le_bmod (x := n) (m := 2 ^ 64) (by norm_num); norm_num at this ⊢; omega
  upper := by have := Int.bmod_lt (x := n) (m := 2 ^ 64) (by norm_num); norm_num at this ⊢; omega

def millisecond : Int := 1000000

def second : Int := 1000 * millisecond

-- The quotient is truncated towards zero.
def milliseconds (d : Duration) : Int := d.ns.tdiv millisecond

def ofMillis (ms : Int) : Duration := wrap (ms * millisecond)

theorem wrap_ns {n : Int} (hlo : -2 ^ 63 ≤ n) (hhi : n < 2 ^ 63) : (wrap n).ns = n := by
  apply Int.bmod_eq_of_le <;> norm_num <;> omega

theorem milliseconds_eq_ediv (h : 0 ≤ d.ns) : d.milliseconds = d.ns / millisecond := Int.tdiv_eq_ediv_of_nonneg h

theorem one_le_milliseconds (h : millisecond ≤ d.ns) : 1 ≤ d.milliseconds := by
  have hms : millisecond = 1000000 := rfl
  rw [milliseconds_eq_ediv (by omega), hms]
  omega

-- A whole number of milliseconds taken from a duration fits one again.
theorem ofMillis_milliseconds (h : 0 ≤ d.ns) : (ofMillis d.milliseconds).ns = d.milliseconds * millisecond := by
  have hupper := d.upper
  have hms : millisecond = 1000000 := rfl
  apply wrap_ns <;> rw [milliseconds_eq_ediv h, hms] <;> norm_num at hupper ⊢ <;> omega

theorem milliseconds_ofMillis_milliseconds (h : 0 ≤ d.ns) :
    (ofMillis d.milliseconds).milliseconds = d.milliseconds := by
  rw [milliseconds, ofMillis_milliseconds h]
  exact Int.mul_tdiv_cancel _ (by decide)

end Duration

structure GateLease where
  binding : GateBinding
  ttl : Duration

end Yola.Locate
