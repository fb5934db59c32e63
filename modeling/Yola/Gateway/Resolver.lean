import Yola.Text.Utf8

/-!
# Resolution and choice of node connections

A gateway resolves the instances that discovery knows for a service into addresses, and remembers
which node id is behind which host.  A request for one node is sent over the connection of that node
or not at all; others go to whichever connection the selector likes.
-/

namespace Yola.Gateway

open Text

/-- `registry.ServiceInstance`; its version is read by nobody here. -/
structure ServiceInstance where
  id : Bytes
  name : Bytes
  metadata : Bytes → Option Bytes
  endpoints : List Bytes

/-- `fmt.Errorf`: the format, with that of a wrapped error in its place, and its arguments. -/
structure FormatError where
  format : String
  args : List Bytes
deriving DecidableEq

/-- The errors of `grpcendpoint.Host` that its caller tells apart. -/
inductive EndpointError where
  | invalidEndpoint
  | transportSecurity
deriving DecidableEq

def stickyMetadataKey : Bytes := utf8 "sticky"

/-- `instance.IsSticky`, with the error as `resolveBackendInstance` wraps it. -/
def isSticky (serviceName : Bytes) (metadata : Bytes → Option Bytes) : Except FormatError Bool :=
  match metadata stickyMetadataKey with
  | none => .ok false
  | some value =>
      if value = utf8 "true" then .ok true
      else if value = utf8 "false" then .ok false
      else
        .error ⟨"gateway: node service %q: instance: invalid sticky metadata %q", [serviceName, value]⟩

structure BackendIdentities where
  hostByNodeID : Bytes → Option Bytes
  nodeIDByHost : Bytes → Option Bytes

def BackendIdentities.add (i : BackendIdentities) (serviceName nodeID host : Bytes) :
    Except FormatError BackendIdentities :=
  if nodeID = [] then .ok i
  else if (i.hostByNodeID nodeID).any (· ≠ host) then
    .error
      ⟨"gateway: node service %q has duplicate NodeID %q with different endpoints",
        [serviceName, nodeID]⟩
  else if (i.nodeIDByHost host).any (· ≠ nodeID) then
    .error
      ⟨"gateway: node service %q endpoint %q belongs to multiple NodeIDs", [serviceName, host]⟩
  else
    .ok ⟨Function.update i.hostByNodeID nodeID (some host), Function.update i.nodeIDByHost host (some nodeID)⟩

/-- `resolver.Address`, with the instance among its attributes. -/
structure Address where
  addr : Bytes
  attributes : Option ServiceInstance

structure BackendSnapshot where
  available : Bool
  sticky : Bool
  hostByNodeID : Bytes → Option Bytes

/-- The variables of the loop in `resolveBackendInstances`. -/
structure Resolving where
  seen : Bytes → Bool
  addresses : List Address
  identities : BackendIdentities
  sticky : Bool
  found : Bool

section Resolve

/- `grpcendpoint.Host`: the host of an endpoint, for a secure transport or not. -/
variable (hostOf : Bytes → Bool → Except EndpointError Bytes) (serviceName : Bytes) (secure : Bool)

def resolveBackendInstance (service : ServiceInstance) : Except FormatError (Bool × Bytes) :=
  match isSticky serviceName service.metadata with
  | .error err => .error err
  | .ok sticky =>
      match service.endpoints with
      | [endpoint] =>
          match hostOf endpoint secure with
          | .error .invalidEndpoint =>
              .error ⟨"gateway: node service %q has no gRPC endpoint", [serviceName]⟩
          | .error .transportSecurity =>
              .error
                ⟨"gateway: node service %q has no %s endpoint for configured transport",
                  [serviceName, utf8 (if secure then "grpcs://" else "grpc://")]⟩
          | .ok host =>
              if sticky = true ∧ service.id = [] then
                .error ⟨"gateway: sticky node service %q has an empty NodeID", [serviceName]⟩
              else .ok (sticky, host)
      | _ => .error ⟨"gateway: node service %q must have exactly one gRPC endpoint", [serviceName]⟩

def resolveNext (r : Resolving) : Option ServiceInstance → Except FormatError Resolving
  | none => .ok r
  | some service =>
      if service.name ≠ serviceName then .ok r
      else
        match resolveBackendInstance hostOf serviceName secure service with
        | .error err => .error err
        | .ok (currentSticky, host) =>
            if r.found && r.sticky != currentSticky then
              .error ⟨"gateway: node service %q has conflicting sticky metadata", [serviceName]⟩
            else
              match r.identities.add serviceName service.id host with
              | .error err => .error err
              | .ok identities =>
                  if r.seen host then
                    .ok { r with identities := identities, sticky := currentSticky, found := true }
                  else
                    .ok {
                      seen := Function.update r.seen host true
                      addresses := r.addresses ++ [⟨host, some service⟩]
                      identities := identities
                      sticky := currentSticky
                      found := true }

def newResolving : Resolving where
  seen _ := false
  addresses := []
  identities := ⟨fun _ => none, fun _ => none⟩
  sticky := false
  found := false

def Resolving.snapshot (r : Resolving) : BackendSnapshot where
  available := 0 < r.addresses.length
  sticky := r.sticky
  hostByNodeID := r.identities.hostByNodeID

def resolveBackendInstances (instances : List (Option ServiceInstance)) :
    Except FormatError (BackendSnapshot × List Address) :=
  match instances.foldlM (resolveNext hostOf serviceName secure) newResolving with
  | .error err => .error err
  | .ok r => .ok (r.snapshot, r.addresses)

end Resolve

/-! ## The balancer -/

inductive PickError where
  | noSubConnAvailable
  | selector
deriving DecidableEq

/-- `backendPicker`: the connections of the selector, and those of the node ids. -/
structure BackendPicker (C : Type) where
  nodes : List (C × Address)
  exact : Bytes → Option C

variable {C : Type}

def addExact (exact : Bytes → Option C) (ready : C × Address) : Bytes → Option C :=
  match ready.2.attributes with
  | some service =>
      if service.id ≠ [] then Function.update exact service.id (some ready.1) else exact
  | none => exact

/-- `Build`, over the ready connections in whatever order the map yields them. -/
def buildPicker (readySCs : List (C × Address)) : Option (BackendPicker C) :=
  if readySCs.length = 0 then none
  else some ⟨readySCs, readySCs.foldl addExact fun _ => none⟩

/-- `Pick`, for the node id in the context of the call; `none` is the picker that always fails. -/
def pick (select : List (C × Address) → Except PickError C) (nodeID : Bytes) :
    Option (BackendPicker C) → Except PickError C
  | none => .error .noSubConnAvailable
  | some p =>
      if nodeID ≠ [] then
        match p.exact nodeID with
        | none => .error .noSubConnAvailable
        | some conn => .ok conn
      else select p.nodes

end Yola.Gateway
