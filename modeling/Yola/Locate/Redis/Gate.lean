import Yola.Locate.Redis.GateEffects
import Yola.Text.JsonEncode

/-!
# Gate bindings in Redis

A user's gate key holds the JSON of one binding.  Binding replaces whatever valid binding is there;
renewing and unbinding compare the whole stored string with the caller's own encoding.
-/

namespace Yola.Locate.Redis

open Text Yola.Redis Lua

def maxTTLMillis : Int := (2 ^ 63 - 1) / Duration.millisecond

/-! ## The stored form -/

def bindingNames : List Bytes :=
  [utf8 "service_name", utf8 "uid", utf8 "gate_id", utf8 "gate_endpoint", utf8 "conn_id",
    utf8 "binding_token"]

def bindingMembers (b : GateBinding) : List (Bytes × Bytes) :=
  [(utf8 "service_name", b.serviceName), (utf8 "uid", b.uid), (utf8 "gate_id", b.gateID),
    (utf8 "gate_endpoint", b.gateEndpoint), (utf8 "conn_id", b.connID),
    (utf8 "binding_token", b.bindingToken)]

/-- `json.Marshal`; a struct of strings always has an encoding. -/
def marshalBinding (b : GateBinding) : Bytes := marshalStrings (bindingMembers b)

def bindingOf (fields : Bytes → Bytes) : GateBinding where
  serviceName := fields (utf8 "service_name")
  uid := fields (utf8 "uid")
  gateID := fields (utf8 "gate_id")
  gateEndpoint := fields (utf8 "gate_endpoint")
  connID := fields (utf8 "conn_id")
  bindingToken := fields (utf8 "binding_token")

def unmarshalBinding (raw : Bytes) : Option GateBinding := (unmarshalStrings bindingNames raw).map bindingOf

def decodeBinding (raw serviceName uid : Bytes) : Except CallError GateBinding :=
  match unmarshalBinding raw with
  | none => .error .decodeStoredValue
  | some binding =>
      if binding.serviceName ≠ serviceName ∨ binding.uid ≠ uid ∨ !validGateBinding binding then
        .error (.locate .invalidGateBinding)
      else .ok binding

/-! ## Replies -/

def decodeLease (values : List Reply) (serviceName uid : Bytes) : Except CallError GateLease :=
  match values with
  | [_, .bulk raw, ttl] =>
      match ttl with
      | .int ttlMillis =>
          if ttlMillis ≤ 0 ∨ maxTTLMillis < ttlMillis then .error (.locate .invalidGateLease)
          else
            match decodeBinding raw serviceName uid with
            | .error e => .error e
            | .ok binding => .ok ⟨binding, .ofMillis ttlMillis⟩
      | _ => .error (.locate .invalidGateLease)
  -- a wrong length, or a second element that is not a string
  | _ => .error .invalidScriptResult

def decodeBindGateResult (values : List Reply) (serviceName uid : Bytes) :
    Except CallError (GateLease × Option GateBinding) :=
  if values.length ≠ 3 ∧ values.length ≠ 4 then .error .invalidScriptResult
  else
    match decodeLease (values.take 3) serviceName uid with
    | .error e => .error e
    | .ok lease =>
        match values.drop 3 with
        | [] => .ok (lease, none)
        | .bulk previousRaw :: _ =>
            match decodeBinding previousRaw serviceName uid with
            | .error e => .error e
            | .ok previous => .ok (lease, some previous)
        | _ => .error .invalidScriptResult

def decodeLeaseResult (values : List Reply) (serviceName uid : Bytes) : Except CallError GateLease :=
  let status := scriptStatus values
  if status = statusOK then decodeLease values serviceName uid
  else if status = statusMissing then .error (.locate .gateNotFound)
  else if status = statusConflict then .error (.locate .gateConflict)
  else if status = statusBadLease then .error (.locate .invalidGateLease)
  else .error .invalidScriptResult

def leaseMilliseconds (ttl : Duration) : Except CallError Int :=
  if ttl.milliseconds ≤ 0 then .error (.locate .invalidGateTTL) else .ok ttl.milliseconds

/-! ## Calls -/

-- The statuses `BindGate` and `UnbindGate` tell apart.
def bindGateReply (values : List Reply) (serviceName uid : Bytes) :
    Except CallError (GateLease × Option GateBinding) :=
  let status := scriptStatus values
  if status = statusOK then decodeBindGateResult values serviceName uid
  else if status = statusBadLease then .error (.locate .invalidGateLease)
  else if status = statusInvalid then .error (.locate .invalidGateBinding)
  else .error .invalidScriptResult

def unbindGateReply (values : List Reply) : Except CallError Unit :=
  let status := scriptStatus values
  if ackIdempotentUnbind status then .ok ()
  else if status = statusBadLease then .error (.locate .invalidGateLease)
  else .error .invalidScriptResult

def bindingKey (b : GateBinding) : Bytes := gateKey b.serviceName b.uid

variable (decode : Decode) (now : Nat)

def bindGateWith (script : String) (candidate : GateBinding) (ttl : Duration) :
    Call (GateLease × Option GateBinding) :=
  if !validGateBinding candidate then .fail (.locate .invalidGateBinding)
  else
    match leaseMilliseconds ttl with
    | .error e => .fail e
    | .ok ttlMillis =>
        (runScript decode now script [bindingKey candidate]
          [formatInt ttlMillis, marshalBinding candidate, candidate.serviceName,
            candidate.uid]).andThen fun values =>
              bindGateReply values candidate.serviceName candidate.uid

def bindGate : GateBinding → Duration → Call (GateLease × Option GateBinding) :=
  bindGateWith decode now bindGateScript

def closedBindGate : GateBinding → Duration → Call (GateLease × Option GateBinding) :=
  bindGateWith decode now closedBindGateScript

def locateGate (serviceName uid : Bytes) : Call GateLease :=
  if !validServiceName serviceName || !validUID uid then .fail (.locate .invalidGateBinding)
  else
    (runScript decode now locateGateScript [gateKey serviceName uid] []).andThen fun values =>
      decodeLeaseResult values serviceName uid

def renewGateLease (expected : GateBinding) (ttl : Duration) : Call GateLease :=
  if !validGateBinding expected then .fail (.locate .invalidGateBinding)
  else
    match leaseMilliseconds ttl with
    | .error e => .fail e
    | .ok ttlMillis =>
        (runScript decode now renewGateLeaseScript [bindingKey expected]
          [marshalBinding expected, formatInt ttlMillis]).andThen fun values =>
            decodeLeaseResult values expected.serviceName expected.uid

def unbindGate (expected : GateBinding) : Call Unit :=
  if !validGateBinding expected then .fail (.locate .invalidGateBinding)
  else
    (runScript decode now unbindGateScript [bindingKey expected]
      [marshalBinding expected]).andThen unbindGateReply

end Yola.Locate.Redis
