import Yola.Gateway.StickyRouting
import Yola.Locate.Locator

/-!
# The state of a backend

The snapshot that created a backend fixes its sticky mode.  A discovery snapshot that is refused, empty or not
taken by the client makes the backend unavailable and keeps the mode; a request then finds the backend
unavailable instead of a service without node lookups.
-/

namespace Yola.Gateway

open Text Locate

/-- What the resolver tells `resolver.ClientConn`; an error of `UpdateState` is passed on as it came. -/
inductive ClientCall (ε : Type) where
  | updateState (addresses : List Address)
  | reportError (err : FormatError ⊕ ε)

/-- `backendState`, with what the client has been told. -/
structure BackendState (ε : Type) where
  snapshot : Option BackendSnapshot
  calls : List (ClientCall ε)

/-- A discovery snapshot and, for the call of `UpdateState` with its addresses, what the client answers. -/
structure Discovery (ε : Type) where
  instances : List (Option ServiceInstance)
  answer : Option ε

variable {ε : Type}

namespace BackendState

def load (s : BackendState ε) : BackendSnapshot := s.snapshot.getD ⟨false, false, fun _ => none⟩

def mode (s : BackendState ε) : Bool × Bool :=
  match s.snapshot with
  | none => (false, false)
  | some snapshot => (snapshot.sticky, true)

def store (s : BackendState ε) (snapshot : BackendSnapshot) : BackendState ε :=
  { s with snapshot := some snapshot }

def markUnavailable (s : BackendState ε) : BackendState ε :=
  match s.snapshot with
  | none => s
  | some snapshot => s.store ⟨false, snapshot.sticky, fun _ => none⟩

def tell (s : BackendState ε) (call : ClientCall ε) : BackendState ε := { s with calls := s.calls ++ [call] }

def reject (s : BackendState ε) (err : FormatError ⊕ ε) : BackendState ε :=
  (s.markUnavailable.tell (.updateState [])).tell (.reportError err)

end BackendState

section Update

variable (hostOf : Bytes → Bool → Except EndpointError Bytes) (serviceName : Bytes) (secure : Bool)

def formatBool (b : Bool) : Bytes := utf8 (if b then "true" else "false")

def BackendState.update (s : BackendState ε) (x : Discovery ε) : BackendState ε :=
  match resolveBackendInstances hostOf serviceName secure x.instances with
  | .error err => s.reject (.inl err)
  | .ok (snapshot, addresses) =>
      let (sticky, initialized) := s.mode
      if initialized && snapshot.available && snapshot.sticky != sticky then
        s.reject (.inl
          ⟨"gateway: node service %q changed sticky mode from %t to %t; restart Gateway to apply",
            [serviceName, formatBool sticky, formatBool snapshot.sticky]⟩)
      else if addresses.length = 0 then s.markUnavailable.tell (.updateState [])
      else
        match x.answer with
        | some err => (s.tell (.updateState addresses)).reject (.inr err)
        | none => (s.tell (.updateState addresses)).store snapshot

/-- The state with which `connectBackend` creates a backend. -/
def connectBackend (instances : List (Option ServiceInstance)) : Except FormatError (BackendState ε) :=
  match resolveBackendInstances hostOf serviceName secure instances with
  | .error err => .error err
  | .ok (snapshot, _) =>
      if snapshot.available then .ok ⟨some snapshot, []⟩
      else .error ⟨"gateway: node service %q is unavailable", [serviceName]⟩

end Update

/-- `resolveNode` behind `get`: whether the locator is asked, for the answer that it gives, and the node id of the
route; the error of the locator that is not one of its own is `none`. -/
def resolveNode (snapshot : BackendSnapshot) (serviceName uid : Bytes)
    (located : Except (Option LocateError) Bytes) : Bool × Except (FormatError ⊕ Option LocateError) Bytes :=
  if !snapshot.available then
    (false, .error (.inl ⟨"gateway: node service %q is unavailable", [serviceName]⟩))
  else if !snapshot.sticky then (false, .ok [])
  else
    (true, match located with
      | .error (some .nodeNotFound) => .ok []
      | .error err => .error (.inr err)
      | .ok nodeID =>
          if !validNodeLocation serviceName uid nodeID then .error (.inr (some .invalidNodeBinding))
          else if (snapshot.hostByNodeID nodeID).isNone then
            .error (.inl ⟨"gateway: node %q is unavailable", [nodeID]⟩)
          else .ok nodeID)

/-! ## The mode is pinned -/

section Pinned

variable (hostOf : Bytes → Bool → Except EndpointError Bytes) (serviceName : Bytes) (secure : Bool)

/-- A backend of the mode accepts the discovery snapshot, and it is not empty. -/
structure Accepts (sticky : Bool) (x : Discovery ε) (snapshot : BackendSnapshot) : Prop where
  resolves : ∃ addresses,
    resolveBackendInstances hostOf serviceName secure x.instances = .ok (snapshot, addresses)
  nonempty : snapshot.available = true
  mode : snapshot.sticky = sticky
  taken : x.answer = none

structure Pinned (sticky : Bool) (last : Discovery ε) (snapshot : BackendSnapshot) : Prop where
  mode : snapshot.sticky = sticky
  available : snapshot.available = true ↔ ∃ t, Accepts hostOf serviceName secure sticky last t
  accepted : ∀ t, Accepts hostOf serviceName secure sticky last t → snapshot = t

variable {hostOf serviceName secure} {sticky : Bool} {x : Discovery ε} {s : BackendState ε}
  {snapshot t : BackendSnapshot} {addresses : List Address}

theorem resolved_available
    (h : resolveBackendInstances hostOf serviceName secure x.instances = .ok (snapshot, addresses)) :
    snapshot.available = true ↔ addresses.length ≠ 0 := by
  unfold resolveBackendInstances at h
  split at h
  · cases h
  · cases h
    simp [Resolving.snapshot, List.length_pos_iff]

theorem Accepts.eq (h : Accepts hostOf serviceName secure sticky x t)
    (hr : resolveBackendInstances hostOf serviceName secure x.instances = .ok (snapshot, addresses)) :
    t = snapshot := by
  obtain ⟨_, hresolves⟩ := h.resolves
  cases hresolves.symm.trans hr
  rfl

theorem Accepts.pinned (h : Accepts hostOf serviceName secure sticky x t) :
    Pinned hostOf serviceName secure sticky x t where
  mode := h.mode
  available := ⟨fun _ => ⟨t, h⟩, fun _ => h.nonempty⟩
  accepted u hu := by
    obtain ⟨_, hr⟩ := hu.resolves
    exact h.eq hr

theorem BackendState.markUnavailable_snapshot (hs : s.snapshot = some snapshot) :
    s.markUnavailable.snapshot = some ⟨false, snapshot.sticky, fun _ => none⟩ := by
  unfold markUnavailable
  rw [hs]
  rfl

/-- Whatever is not accepted leaves the mode and nothing else. -/
theorem Pinned.refused (h : ∀ t, ¬ Accepts hostOf serviceName secure sticky x t) :
    Pinned hostOf serviceName secure sticky x ⟨false, sticky, fun _ => none⟩ where
  mode := rfl
  available := ⟨nofun, fun ⟨t, ht⟩ => absurd ht (h t)⟩
  accepted t ht := absurd ht (h t)

theorem update_pinned (hs : s.snapshot = some snapshot) (x : Discovery ε) :
    ∃ t, (BackendState.update hostOf serviceName secure s x).snapshot = some t ∧
      Pinned hostOf serviceName secure snapshot.sticky x t := by
  have hgone := BackendState.markUnavailable_snapshot hs
  unfold BackendState.update
  split
  next err hr =>
    refine ⟨_, hgone, .refused fun t ht => ?_⟩
    obtain ⟨_, hresolves⟩ := ht.resolves
    cases hresolves.symm.trans hr
  next new addresses hr =>
    simp only [BackendState.mode, hs, Bool.true_and, Bool.and_eq_true, bne_iff_ne]
    split
    next hconf =>
      refine ⟨_, hgone, .refused fun t ht => hconf.2 ?_⟩
      rw [← ht.eq hr, ht.mode]
    next hagree =>
    split
    next hemp =>
      refine ⟨_, hgone, .refused fun t ht => (resolved_available hr).mp ?_ hemp⟩
      rw [← ht.eq hr, ht.nonempty]
    next hsome =>
    have havail := (resolved_available hr).mpr hsome
    split
    next err herr =>
      refine ⟨_, BackendState.markUnavailable_snapshot hs, .refused fun t ht => ?_⟩
      cases ht.taken.symm.trans herr
    next htaken =>
      refine ⟨new, rfl, Accepts.pinned ⟨⟨addresses, hr⟩, havail, ?_, htaken⟩⟩
      by_contra hne
      exact hagree ⟨havail, hne⟩

theorem updates_pinned (xs : List (Discovery ε)) {last : Discovery ε} (hs : s.snapshot = some snapshot)
    (h : Pinned hostOf serviceName secure sticky last snapshot) :
    ∃ t, (xs.foldl (BackendState.update hostOf serviceName secure) s).snapshot = some t ∧
      Pinned hostOf serviceName secure sticky (xs.getLastD last) t := by
  induction xs generalizing s snapshot last with
  | nil => exact ⟨snapshot, hs, h⟩
  | cons x xs ih =>
    obtain ⟨t, ht, hpinned⟩ := @update_pinned ε hostOf serviceName secure s snapshot hs x
    rw [h.mode] at hpinned
    rw [List.getLastD_cons]
    exact ih ht hpinned

/-- The mode of a backend is that of the discovery snapshot that created it, whatever comes later. -/
theorem sticky_mode_pinned (first : List (Option ServiceInstance))
    (hs : connectBackend hostOf serviceName secure first = .ok s) (xs : List (Discovery ε)) :
    ∃ t, (xs.foldl (BackendState.update hostOf serviceName secure) s).snapshot = some t ∧
      t.sticky = s.load.sticky ∧
      (t.available = true ↔
        ∃ a, Accepts hostOf serviceName secure s.load.sticky (xs.getLastD ⟨first, none⟩) a) ∧
      (∀ a, Accepts hostOf serviceName secure s.load.sticky (xs.getLastD ⟨first, none⟩) a →
        t.hostByNodeID = a.hostByNodeID) ∧
      (s.load.sticky = true → ∀ uid located nodeID,
        resolveNode t serviceName uid located ≠ (false, .ok nodeID)) := by
  unfold connectBackend at hs
  split at hs
  · cases hs
  next snapshot addresses hr =>
  split at hs
  next havail =>
    cases hs
    have hfst : Accepts (ε := ε) hostOf serviceName secure snapshot.sticky ⟨first, none⟩ snapshot :=
      ⟨⟨addresses, hr⟩, havail, rfl, rfl⟩
    obtain ⟨t, ht, hpinned⟩ := updates_pinned xs (s := ⟨some snapshot, []⟩) rfl hfst.pinned
    refine ⟨t, ht, hpinned.mode, hpinned.available, fun a ha => congrArg _ (hpinned.accepted a ha), ?_⟩
    intro hstk uid located nodeID hroute
    unfold resolveNode at hroute
    rw [hpinned.mode.trans hstk] at hroute
    split at hroute <;> cases hroute
  · cases hs

end Pinned

def sampleService : ServiceInstance :=
  ⟨utf8 "a", utf8 "game", fun _ => some (utf8 "true"), [utf8 "grpc://a"]⟩

/-- An outage of a sticky service. -/
theorem sticky_mode_pinned_outage : ∃ s t : BackendState Unit,
    connectBackend (fun endpoint _ => .ok endpoint) (utf8 "game") false [some sampleService] = .ok s ∧
    s.load.sticky = true ∧
      BackendState.update (fun endpoint _ => .ok endpoint) (utf8 "game") false s ⟨[], none⟩ = t ∧
    t.load.sticky = true ∧ ∀ uid located nodeID,
      resolveNode t.load (utf8 "game") uid located ≠ (false, .ok nodeID) := by
  obtain ⟨s, hs, hstk⟩ : ∃ s : BackendState Unit, connectBackend (fun endpoint _ => .ok endpoint)
      (utf8 "game") false [some sampleService] = .ok s ∧ s.load.sticky = true := ⟨_, rfl, rfl⟩
  obtain ⟨t, ht, hmode, -, -, hroute⟩ :=
    sticky_mode_pinned [some sampleService] hs [⟨[], none⟩]
  refine ⟨s, _, hs, hstk, rfl, ?_⟩
  rw [List.foldl_cons, List.foldl_nil] at ht
  rw [BackendState.load, ht]
  exact ⟨hmode.trans hstk, hroute hstk⟩

/-! ## The addresses of the client -/

section InStep

/-- The addresses that the client was told last. -/
def told (calls : List (ClientCall ε)) : List Address :=
  calls.foldl (fun old call => match call with
    | .updateState addresses => addresses
    | .reportError _ => old) []

/-- The client has the addresses of the snapshot in force, or none. -/
def InStep (hostOf : Bytes → Bool → Except EndpointError Bytes) (serviceName : Bytes) (secure sticky : Bool)
    (s : BackendState ε) : Prop :=
  ∃ snapshot, s.snapshot = some snapshot ∧ snapshot.sticky = sticky ∧ (told s.calls = [] ∨ ∃ instances,
    resolveBackendInstances hostOf serviceName secure instances = .ok (snapshot, told s.calls))

variable {hostOf : Bytes → Bool → Except EndpointError Bytes} {serviceName : Bytes} {secure sticky : Bool}
  {s : BackendState ε} {snapshot : BackendSnapshot}

namespace InStep

theorem emptied (hs : s.snapshot = some snapshot) :
    InStep hostOf serviceName secure snapshot.sticky (s.markUnavailable.tell (.updateState [])) :=
  ⟨_, BackendState.markUnavailable_snapshot hs, rfl, .inl (by simp [told, BackendState.tell])⟩

theorem rejected (hs : s.snapshot = some snapshot) (err : FormatError ⊕ ε) :
    InStep hostOf serviceName secure snapshot.sticky (s.reject err) :=
  ⟨_, BackendState.markUnavailable_snapshot hs, rfl,
    .inl (by simp [told, BackendState.reject, BackendState.tell])⟩

theorem update (h : InStep hostOf serviceName secure sticky s) (x : Discovery ε) :
    InStep hostOf serviceName secure sticky (BackendState.update hostOf serviceName secure s x) := by
  obtain ⟨snapshot, hs, rfl, -⟩ := h
  unfold BackendState.update
  split
  next err _ => exact rejected hs _
  next new addresses hr =>
  simp only [BackendState.mode, hs, Bool.true_and, Bool.and_eq_true, bne_iff_ne]
  split
  next => exact rejected hs _
  next hagree =>
  split
  next => exact emptied hs
  next hsome =>
  split
  next err _ =>
    -- the client has been told of the addresses before it refuses them
    exact rejected (s := s.tell (.updateState addresses)) hs _
  next =>
    have htold : told ((s.tell (.updateState addresses)).store new).calls = addresses := by
      simp [told, BackendState.tell, BackendState.store]
    refine ⟨new, rfl, ?_, .inr ⟨x.instances, by rw [htold, hr]⟩⟩
    by_contra hne
    exact hagree ⟨(resolved_available hr).mpr hsome, hne⟩

end InStep

/-- A pick for a node of a sticky service reaches the host that the snapshot in force has for the node, and
nothing if it has none, whatever discovery and the client have said before. -/
theorem picks_follow_snapshot (first : List (Option ServiceInstance))
    (hs : connectBackend hostOf serviceName secure first = .ok s) (hstk : s.load.sticky = true)
    (xs : List (Discovery ε)) {C : Type} (ready : List (C × Address)) (hnd : (ready.map Prod.fst).Nodup)
    (hready : ∀ x ∈ ready, x.2 ∈ told (xs.foldl (BackendState.update hostOf serviceName secure) s).calls)
    {nodeID : Bytes} (hne : nodeID ≠ []) :
    let t := (xs.foldl (BackendState.update hostOf serviceName secure) s).load
    (∀ host, t.hostByNodeID nodeID = some host → PicksOwn nodeID host ready) ∧
      (t.hostByNodeID nodeID = none →
        ∀ select, pick select nodeID (buildPicker ready) = .error .noSubConnAvailable) := by
  have hfirst : InStep hostOf serviceName secure true s := by
    unfold connectBackend at hs
    split at hs
    · cases hs
    · split at hs <;> cases hs
      exact ⟨_, rfl, hstk, .inl rfl⟩
  obtain ⟨snapshot, hsnap, hmode, htold⟩ := List.foldlRecOn xs _ hfirst fun s h x _ => h.update x
  have howns (x : C × Address) (hx : x ∈ ready) :
      owns nodeID x = true ↔ snapshot.hostByNodeID nodeID = some x.2.addr := by
    obtain hnil | ⟨instances, hr⟩ := htold
    · exact absurd (hready x hx) (by simp [hnil])
    · obtain ⟨r, h, rfl, haddr⟩ := resolveBackendInstances_ok hr
      exact Iff.trans (by simp [owns, Option.any_eq_true])
        (attached_iff h hmode (haddr ▸ hready x hx)).symm
  simp only [BackendState.load, hsnap, Option.getD_some]
  refine ⟨fun host hhost => picksOwn_of_owns hne hnd fun x hx => ?_, fun hnone select => ?_⟩
  · rw [howns x hx, hhost, Option.some_inj, eq_comm]
  · have hfind : ready.reverse.find? (owns nodeID) = none := by
      refine List.find?_eq_none.mpr fun x hx hown => ?_
      cases hnone.symm.trans ((howns x (List.mem_reverse.mp hx)).mp hown)
    rw [pick_eq select hne, hfind]

end InStep

/-- Node `b` comes back on another host, and node `a` does not. -/
theorem picks_follow_snapshot_restart : ∃ s t : BackendState Unit,
    connectBackend (fun endpoint _ => .ok endpoint) (utf8 "game") false
      [sampleNode "a" "h1", sampleNode "b" "h2"] = .ok s ∧
    BackendState.update (fun endpoint _ => .ok endpoint) (utf8 "game") false s
      ⟨[sampleNode "b" "h3"], none⟩ = t ∧ (told t.calls).length = 1 ∧
    PicksOwn (utf8 "b") (utf8 "h3") ((told t.calls).map ((), ·)) ∧ ∀ select,
      pick select (utf8 "a") (buildPicker ((told t.calls).map ((), ·))) = .error .noSubConnAvailable := by
  obtain ⟨s, hs, hstk, hlen, hb, ha⟩ : ∃ s : BackendState Unit,
      connectBackend (fun endpoint _ => .ok endpoint) (utf8 "game") false
        [sampleNode "a" "h1", sampleNode "b" "h2"] = .ok s ∧ s.load.sticky = true ∧
      let t := BackendState.update (fun endpoint _ => .ok endpoint) (utf8 "game") false s
        ⟨[sampleNode "b" "h3"], none⟩
      (told t.calls).length = 1 ∧ t.load.hostByNodeID (utf8 "b") = some (utf8 "h3") ∧
        t.load.hostByNodeID (utf8 "a") = none :=
    ⟨_, rfl, rfl, rfl, by decide, by decide⟩
  refine ⟨s, _, hs, rfl, hlen, ?_⟩
  have hpick (nodeID : Bytes) (hne : nodeID ≠ []) :=
    picks_follow_snapshot _ hs hstk [⟨[sampleNode "b" "h3"], none⟩] ((told _).map ((), ·)) (by
      obtain ⟨a, ha⟩ := List.length_eq_one_iff.mp hlen
      rw [ha]
      exact List.nodup_singleton _) (by
      intro x hx
      obtain ⟨a, ha, rfl⟩ := List.mem_map.mp hx
      exact ha) hne
  exact ⟨(hpick _ (by decide)).1 _ hb, (hpick _ (by decide)).2 ha⟩

end Yola.Gateway
