import Mathlib.Data.List.Induction
import Mathlib.Data.List.Nodup
import Yola.Gateway.Resolver
import Yola.Reasoning.Folds

/-!
# Sticky routing hits the node it names

The loop over the instances rejects an instance that is not fine by itself and one that disagrees with
an earlier one: about stickiness, about the host of a node id or about the node id of a host.  Nothing
else depends on the order, and what was accepted ties every node id to one host and back.
-/

namespace Yola.Gateway

open Function Text Reasoning

/-- An instance of the service and what it resolves to. -/
structure Listing where
  service : ServiceInstance
  sticky : Bool
  host : Bytes

/-- Two listings of one service. -/
structure Listing.Agrees (a b : Listing) : Prop where
  sticky : a.sticky = b.sticky
  ids : a.service.id ≠ [] → b.service.id ≠ [] → (a.service.id = b.service.id ↔ a.host = b.host)

theorem Listing.Agrees.symm {a b : Listing} (h : a.Agrees b) : b.Agrees a := by
  refine ⟨h.sticky.symm, fun hb ha => ?_⟩
  rw [eq_comm, h.ids ha hb, eq_comm]

/-! ## One turn of the loop -/

section Turn

variable (hostOf : Bytes → Bool → Except EndpointError Bytes) (serviceName : Bytes) (secure : Bool)

/-- What the loop makes of an element by itself: it is refused, passed over, or a listing. -/
def listing : Option ServiceInstance → Except FormatError (Option Listing)
  | none => .ok none
  | some service =>
      if service.name ≠ serviceName then .ok none
      else
        (resolveBackendInstance hostOf serviceName secure service).map fun x => some ⟨service, x.1, x.2⟩

def listings (l : List (Option ServiceInstance)) : List Listing :=
  l.filterMap fun x => (listing hostOf serviceName secure x).toOption.join

variable {hostOf serviceName secure} {x : Option ServiceInstance} {e : Listing} {r r' : Resolving}

theorem mem_listings {l : List (Option ServiceInstance)} :
    e ∈ listings hostOf serviceName secure l ↔ ∃ x ∈ l, listing hostOf serviceName secure x = .ok (some e) := by
  unfold listings
  rw [List.mem_filterMap]
  refine exists_congr fun x => and_congr_right fun _ => ?_
  cases listing hostOf serviceName secure x <;> simp [Except.toOption]

def BackendIdentities.bind (i : BackendIdentities) (nodeID host : Bytes) : BackendIdentities :=
  if nodeID = [] then i
  else ⟨update i.hostByNodeID nodeID (some host), update i.nodeIDByHost host (some nodeID)⟩

def Resolving.extend (r : Resolving) (e : Listing) : Resolving where
  seen := if r.seen e.host then r.seen else update r.seen e.host true
  addresses := if r.seen e.host then r.addresses else r.addresses ++ [⟨e.host, some e.service⟩]
  identities := r.identities.bind e.service.id e.host
  sticky := e.sticky
  found := true

/-- The listing does not contradict what the loop knows. -/
structure Resolving.Fits (r : Resolving) (e : Listing) : Prop where
  sticky : r.found = true → r.sticky = e.sticky
  host : e.service.id ≠ [] → ∀ host, r.identities.hostByNodeID e.service.id = some host → host = e.host
  node : e.service.id ≠ [] → ∀ nodeID, r.identities.nodeIDByHost e.host = some nodeID → nodeID = e.service.id

theorem add_ok_iff {i i' : BackendIdentities} {nodeID host : Bytes} :
    i.add serviceName nodeID host = .ok i' ↔ i' = i.bind nodeID host ∧
      (nodeID ≠ [] → ∀ host', i.hostByNodeID nodeID = some host' → host' = host) ∧
      (nodeID ≠ [] → ∀ nodeID', i.nodeIDByHost host = some nodeID' → nodeID' = nodeID) := by
  unfold BackendIdentities.add BackendIdentities.bind
  split_ifs with hnil hhost hnode
  · simp [hnil, eq_comm]
  · simp only [Option.any_eq_true, decide_eq_true_eq] at hhost
    obtain ⟨host', hsome, hne⟩ := hhost
    exact ⟨nofun, fun h => absurd (h.2.1 hnil host' hsome) hne⟩
  · simp only [Option.any_eq_true, decide_eq_true_eq] at hnode
    obtain ⟨nodeID', hsome, hne⟩ := hnode
    exact ⟨nofun, fun h => absurd (h.2.2 hnil nodeID' hsome) hne⟩
  · simp only [Option.any_eq_true, decide_eq_true_eq, not_exists, not_and, not_not] at hhost hnode
    rw [Except.ok.injEq, eq_comm]
    exact ⟨fun h => ⟨h, fun _ => hhost, fun _ => hnode⟩, And.left⟩

/-- An element is refused or passed over by itself, or it is a listing and accepted if it fits. -/
theorem resolveNext_cases (hostOf : Bytes → Bool → Except EndpointError Bytes) (serviceName : Bytes) (secure : Bool)
    (r : Resolving) (x : Option ServiceInstance) :
    (∃ err, listing hostOf serviceName secure x = .error err ∧
      resolveNext hostOf serviceName secure r x = .error err) ∨
    (listing hostOf serviceName secure x = .ok none ∧ resolveNext hostOf serviceName secure r x = .ok r) ∨
    ∃ e, listing hostOf serviceName secure x = .ok (some e) ∧
      ∀ r', resolveNext hostOf serviceName secure r x = .ok r' ↔ r' = r.extend e ∧ r.Fits e := by
  unfold resolveNext listing
  cases x with
  | none => exact .inr (.inl ⟨rfl, rfl⟩)
  | some service =>
    dsimp only
    split
    · exact .inr (.inl ⟨rfl, rfl⟩)
    · cases resolveBackendInstance hostOf serviceName secure service with
      | error err => exact .inl ⟨err, rfl, rfl⟩
      | ok resolved =>
        refine .inr (.inr ⟨_, rfl, fun r' => ?_⟩)
        dsimp only
        split
        · rename_i hconf
          simp only [Bool.and_eq_true, bne_iff_ne] at hconf
          exact ⟨nofun, fun h => absurd (h.2.sticky hconf.1) hconf.2⟩
        · rename_i hstk
          simp only [Bool.and_eq_true, bne_iff_ne, not_and, not_not] at hstk
          cases hadd : r.identities.add serviceName service.id resolved.2 with
          | error =>
            refine ⟨nofun, fun h => ?_⟩
            cases hadd.symm.trans (add_ok_iff.mpr ⟨rfl, h.2.host, h.2.node⟩)
          | ok =>
            obtain ⟨rfl, hhost, hnode⟩ := add_ok_iff.mp hadd
            have hextend : r.extend ⟨service, resolved.1, resolved.2⟩ = r' ↔
                r' = r.extend ⟨service, resolved.1, resolved.2⟩ ∧ r.Fits ⟨service, resolved.1, resolved.2⟩ :=
              ⟨fun h => ⟨h.symm, hstk, hhost, hnode⟩, fun h => h.1.symm⟩
            rw [← hextend]
            unfold Resolving.extend
            dsimp only
            split <;> rw [Except.ok.injEq]

end Turn

/-! ## The whole loop -/

/-- Some listing has this node id and host. -/
def Bears (done : List Listing) (nodeID host : Bytes) : Prop :=
  nodeID ≠ [] ∧ ∃ e ∈ done, e.service.id = nodeID ∧ e.host = host

structure ResolvingInv (done : List Listing) (r : Resolving) : Prop where
  sticky : ∀ e ∈ done, r.found = true ∧ e.sticky = r.sticky
  found : r.found = true → ∃ e ∈ done, e.sticky = r.sticky
  hostByNodeID : ∀ nodeID host, r.identities.hostByNodeID nodeID = some host ↔ Bears done nodeID host
  nodeIDByHost : ∀ nodeID host, r.identities.nodeIDByHost host = some nodeID ↔ Bears done nodeID host
  seen : ∀ host, r.seen host = true ↔ host ∈ r.addresses.map Address.addr
  nodup : (r.addresses.map Address.addr).Nodup
  attached : ∀ a ∈ r.addresses, ∃ e ∈ done, a = ⟨e.host, some e.service⟩
  complete : ∀ e ∈ done, e.host ∈ r.addresses.map Address.addr

theorem resolvingInv_new : ResolvingInv [] newResolving where
  sticky := nofun
  found := nofun
  hostByNodeID _ _ := ⟨nofun, fun ⟨_, _, he, _⟩ => nomatch he⟩
  nodeIDByHost _ _ := ⟨nofun, fun ⟨_, _, he, _⟩ => nomatch he⟩
  seen _ := ⟨nofun, nofun⟩
  nodup := .nil
  attached := nofun
  complete := nofun

theorem bears_append {done : List Listing} {e : Listing} {nodeID host : Bytes} :
    Bears (done ++ [e]) nodeID host ↔
      Bears done nodeID host ∨ nodeID ≠ [] ∧ e.service.id = nodeID ∧ e.host = host := by
  unfold Bears
  simp only [List.mem_append, List.mem_singleton, or_and_right, exists_or, exists_eq_left, and_or_left]

namespace ResolvingInv

variable {done : List Listing} {r : Resolving} {e : Listing} {nodeID nodeID' host : Bytes} {a : Address}

variable (h : ResolvingInv done r)

include h

theorem fits_iff : r.Fits e ↔ ∀ a ∈ done, a.Agrees e := by
  constructor
  · intro hfits a ha
    obtain ⟨hfound, hstk⟩ := h.sticky a ha
    refine ⟨hstk.trans (hfits.sticky hfound), fun hid hid' => ⟨fun hsame => ?_, fun hsame => ?_⟩⟩
    · exact hfits.host hid' a.host ((h.hostByNodeID _ _).mpr ⟨hid', a, ha, hsame, rfl⟩)
    · exact hfits.node hid' a.service.id ((h.nodeIDByHost _ _).mpr ⟨hid, a, ha, rfl, hsame⟩)
  · intro hagree
    refine ⟨fun hfound => ?_, fun hid host hhost => ?_, fun hid nodeID hnode => ?_⟩
    · obtain ⟨a, ha, hstk⟩ := h.found hfound
      exact hstk.symm.trans (hagree a ha).sticky
    · obtain ⟨-, a, ha, hsame, rfl⟩ := (h.hostByNodeID _ _).mp hhost
      exact ((hagree a ha).ids (hsame ▸ hid) hid).mp hsame
    · obtain ⟨hne, a, ha, rfl, hsame⟩ := (h.nodeIDByHost _ _).mp hnode
      exact ((hagree a ha).ids hne hid).mpr hsame

theorem mem_extend : host ∈ (r.extend e).addresses.map Address.addr ↔
    host ∈ r.addresses.map Address.addr ∨ host = e.host := by
  unfold Resolving.extend
  dsimp only
  split
  · rename_i hseen
    refine (or_iff_left_of_imp ?_).symm
    rintro rfl
    exact (h.seen _).mp hseen
  · simp

theorem extend (hfits : r.Fits e) : ResolvingInv (done ++ [e]) (r.extend e) where
  sticky := by
    rw [List.forall_mem_append, List.forall_mem_singleton]
    exact ⟨fun a ha => ⟨rfl, (h.sticky a ha).2.trans (hfits.sticky (h.sticky a ha).1)⟩, rfl, rfl⟩
  found _ := ⟨e, List.mem_append_right _ (List.mem_singleton_self e), rfl⟩
  hostByNodeID nodeID host := by
    rw [bears_append, ← h.hostByNodeID]
    have hhost := hfits.host
    unfold Resolving.extend BackendIdentities.bind
    dsimp only
    split
    · grind
    · dsimp only
      rw [update_apply]
      grind
  nodeIDByHost nodeID host := by
    rw [bears_append, ← h.nodeIDByHost]
    have hnode := hfits.node
    unfold Resolving.extend BackendIdentities.bind
    dsimp only
    split
    · grind
    · dsimp only
      rw [update_apply]
      grind
  seen host := by
    rw [h.mem_extend, ← h.seen]
    unfold Resolving.extend
    dsimp only
    split
    · grind
    · rw [update_apply]
      grind
  nodup := by
    unfold Resolving.extend
    dsimp only
    split
    · exact h.nodup
    · rename_i hseen
      rw [List.map_append]
      refine List.nodup_append.mpr ⟨h.nodup, List.pairwise_singleton _ _, ?_⟩
      rintro host hold _ hnew rfl
      rw [List.mem_singleton.mp hnew, ← h.seen] at hold
      exact hseen hold
  attached a ha := by
    have hnew : a ∈ r.addresses ∨ a = ⟨e.host, some e.service⟩ := by
      unfold Resolving.extend at ha
      dsimp only at ha
      split at ha
      · exact .inl ha
      · exact (List.mem_append.mp ha).imp id List.mem_singleton.mp
    rcases hnew with hold | rfl
    · obtain ⟨b, hb, hattached⟩ := h.attached a hold
      exact ⟨b, List.mem_append_left _ hb, hattached⟩
    · exact ⟨e, List.mem_append_right _ (List.mem_singleton_self e), rfl⟩
  complete := by
    rw [List.forall_mem_append, List.forall_mem_singleton]
    exact ⟨fun a ha => h.mem_extend.mpr (.inl (h.complete a ha)), h.mem_extend.mpr (.inr rfl)⟩

theorem injective (hn : r.identities.hostByNodeID nodeID = some host)
    (hn' : r.identities.hostByNodeID nodeID' = some host) : nodeID = nodeID' := by
  rw [h.hostByNodeID, ← h.nodeIDByHost] at hn hn'
  exact Option.some.inj (hn.symm.trans hn')

theorem mem_addresses_iff : host ∈ r.addresses.map Address.addr ↔ ∃ e ∈ done, e.host = host := by
  constructor
  · intro hmem
    obtain ⟨a, ha, rfl⟩ := List.mem_map.mp hmem
    obtain ⟨e, he, rfl⟩ := h.attached a ha
    exact ⟨e, he, rfl⟩
  · rintro ⟨e, he, rfl⟩
    exact h.complete e he

theorem one_address (hn : r.identities.hostByNodeID nodeID = some host) :
    ∃ a ∈ r.addresses, r.addresses.filter (·.addr = host) = [a] ∧ a.addr = host := by
  obtain ⟨-, e, he, -, rfl⟩ := (h.hostByNodeID _ _).mp hn
  obtain ⟨a, ha, hhost⟩ := List.mem_map.mp (h.complete e he)
  rw [← hhost]
  refine ⟨a, ha, ?_, rfl⟩
  obtain ⟨before, after, hsplit⟩ := List.append_of_mem ha
  have hnd := h.nodup
  rw [hsplit, List.map_append, List.map_cons, List.nodup_middle, List.nodup_cons,
    List.mem_append, List.mem_map, List.mem_map] at hnd
  rw [hsplit, List.filter_append, List.filter_cons_of_pos (by simp)]
  rw [List.filter_eq_nil_iff.mpr, List.filter_eq_nil_iff.mpr, List.nil_append]
  · intro b hb heq
    exact hnd.1 (.inr ⟨b, hb, of_decide_eq_true heq⟩)
  · intro b hb heq
    exact hnd.1 (.inl ⟨b, hb, of_decide_eq_true heq⟩)

end ResolvingInv

/-! ## Connections -/

section Connections

variable {C : Type}

/-- The connection's address belongs to the node. -/
def owns (nodeID : Bytes) (x : C × Address) : Bool := nodeID ≠ [] && x.2.attributes.any (·.id = nodeID)

theorem addExact_apply (m : Bytes → Option C) (x : C × Address) (nodeID : Bytes) :
    addExact m x nodeID = if owns nodeID x then some x.1 else m nodeID := by
  unfold addExact owns
  cases x.2.attributes with
  | none => simp
  | some service =>
    dsimp only
    split
    · rw [update_apply]
      grind
    · grind

/-- The connection of a node is the last that its address belongs to. -/
theorem foldl_addExact (ready : List (C × Address)) (nodeID : Bytes) :
    ready.foldl addExact (fun _ => none) nodeID = (ready.reverse.find? (owns nodeID)).map Prod.fst := by
  induction ready using List.reverseRecOn with
  | nil => rfl
  | append_singleton ready x ih =>
    rw [List.foldl_append, List.foldl_cons, List.foldl_nil, addExact_apply, ih, List.reverse_concat,
      List.find?_cons]
    cases owns nodeID x <;> rfl

theorem pick_eq (select : List (C × Address) → Except PickError C) {nodeID : Bytes} (hne : nodeID ≠ [])
    (ready : List (C × Address)) : pick select nodeID (buildPicker ready) =
      match ready.reverse.find? (owns nodeID) with
      | none => .error .noSubConnAvailable
      | some x => .ok x.1 := by
  unfold buildPicker
  split
  · rename_i hemp
    obtain rfl := List.length_eq_zero_iff.mp hemp
    rfl
  · unfold pick
    dsimp only
    rw [if_pos hne, foldl_addExact]
    cases ready.reverse.find? (owns nodeID) <;> rfl

/-- For ready connections to these addresses a pick for the node gives its own connection, and fails
only if there is none. -/
def PicksOwn (nodeID host : Bytes) (ready : List (C × Address)) : Prop :=
  ∀ select : List (C × Address) → Except PickError C,
    (∀ conn, pick select nodeID (buildPicker ready) = .ok conn →
      ∃ a, (conn, a) ∈ ready ∧ a.addr = host ∧ ∀ a', (conn, a') ∈ ready → a' = a) ∧
    ∀ err, pick select nodeID (buildPicker ready) = .error err →
      err = .noSubConnAvailable ∧ ∀ conn a, (conn, a) ∈ ready → a.addr ≠ host

theorem picksOwn_of_owns {nodeID host : Bytes} {ready : List (C × Address)} (hne : nodeID ≠ [])
    (hnd : (ready.map Prod.fst).Nodup) (howns : ∀ x ∈ ready, owns nodeID x = true ↔ x.2.addr = host) :
    PicksOwn nodeID host ready := by
  intro select
  rw [pick_eq select hne]
  cases hfind : ready.reverse.find? (owns nodeID) with
  | none =>
    refine ⟨nofun, ?_⟩
    rintro _ ⟨⟩
    refine ⟨rfl, fun conn a ha hhost => ?_⟩
    exact List.find?_eq_none.mp hfind _ (List.mem_reverse.mpr ha) ((howns _ ha).mpr hhost)
  | some x =>
    have hx := List.mem_reverse.mp (List.mem_of_find?_eq_some hfind)
    refine ⟨?_, nofun⟩
    rintro _ ⟨⟩
    refine ⟨x.2, hx, (howns x hx).mp (List.find?_some hfind), fun a ha => ?_⟩
    exact congrArg Prod.snd (List.inj_on_of_nodup_map hnd ha hx rfl)

end Connections

/-! ## Accepted lists -/

section Accepted

variable {hostOf : Bytes → Bool → Except EndpointError Bytes} {serviceName : Bytes} {secure : Bool}
  {instances instances' : List (Option ServiceInstance)} {snapshot : BackendSnapshot} {addresses : List Address}

def Fine (hostOf : Bytes → Bool → Except EndpointError Bytes) (serviceName : Bytes) (secure : Bool)
    (x : Option ServiceInstance) : Prop :=
  ∃ o, listing hostOf serviceName secure x = .ok o

def Agree (hostOf : Bytes → Bool → Except EndpointError Bytes) (serviceName : Bytes) (secure : Bool)
    (x y : Option ServiceInstance) : Prop :=
  ∀ a b, listing hostOf serviceName secure x = .ok (some a) → listing hostOf serviceName secure y = .ok (some b) →
    a.Agrees b

theorem resolving_accepting (hostOf : Bytes → Bool → Except EndpointError Bytes)
    (serviceName : Bytes) (secure : Bool) :
    Accepting (resolveNext hostOf serviceName secure)
      (fun done => ResolvingInv (listings hostOf serviceName secure done))
      (Fine hostOf serviceName secure) (Agree hostOf serviceName secure) where
  accepts done r x h := by
    obtain ⟨err, hlist, hnext⟩ | ⟨hlist, hnext⟩ | ⟨e, hlist, hnext⟩ :=
      resolveNext_cases hostOf serviceName secure r x
    · rw [hnext]
      refine ⟨nofun, fun ⟨⟨o, hfine⟩, _⟩ => ?_⟩
      cases hlist.symm.trans hfine
    · rw [hnext]
      refine ⟨fun _ => ⟨⟨_, hlist⟩, fun y _ a b _ hb => ?_⟩, fun _ => ⟨r, rfl⟩⟩
      cases hlist.symm.trans hb
    · have hagree : (∀ a ∈ listings hostOf serviceName secure done, a.Agrees e) ↔
          ∀ y ∈ done, Agree hostOf serviceName secure y x := by
        refine ⟨fun hall y hy a b ha hb => ?_, fun hall a ha => ?_⟩
        · cases hlist.symm.trans hb
          exact hall a (mem_listings.mpr ⟨y, hy, ha⟩)
        · obtain ⟨y, hy, ha⟩ := mem_listings.mp ha
          exact hall y hy a e ha hlist
      simp only [hnext, exists_eq_left, ← hagree, ← h.fits_iff, iff_and_self]
      exact fun _ => ⟨_, hlist⟩
  keeps done r x r' h hok := by
    obtain ⟨err, hlist, hnext⟩ | ⟨hlist, hnext⟩ | ⟨e, hlist, hnext⟩ :=
      resolveNext_cases hostOf serviceName secure r x
    · cases hnext.symm.trans hok
    · cases hnext.symm.trans hok
      have hsame : listings hostOf serviceName secure (done ++ [x]) = listings hostOf serviceName secure done := by
        simp [listings, hlist, Except.toOption]
      rw [hsame]
      exact h
    · obtain ⟨rfl, hfits⟩ := (hnext r').mp hok
      have hmore : listings hostOf serviceName secure (done ++ [x]) =
          listings hostOf serviceName secure done ++ [e] := by
        simp [listings, hlist, Except.toOption]
      rw [hmore]
      exact h.extend hfits

theorem resolveBackendInstances_ok
    (h : resolveBackendInstances hostOf serviceName secure instances = .ok (snapshot, addresses)) :
    ∃ r, ResolvingInv (listings hostOf serviceName secure instances) r ∧ snapshot = r.snapshot ∧
      addresses = r.addresses := by
  unfold resolveBackendInstances at h
  split at h
  · cases h
  · rename_i r hfold
    cases h
    have hnew : ResolvingInv (listings hostOf serviceName secure []) newResolving := resolvingInv_new
    exact ⟨r, (resolving_accepting hostOf serviceName secure).inv hnew hfold, rfl, rfl⟩

theorem resolveBackendInstances_perm (hperm : instances.Perm instances') :
    (∃ result, resolveBackendInstances hostOf serviceName secure instances = .ok result) ↔
      ∃ result, resolveBackendInstances hostOf serviceName secure instances' = .ok result := by
  have hsymm (x y : Option ServiceInstance) (h : Agree hostOf serviceName secure x y) :
      Agree hostOf serviceName secure y x := fun a b ha hb => (h b a hb ha).symm
  have hfold (l : List (Option ServiceInstance)) :
      (∃ result, resolveBackendInstances hostOf serviceName secure l = .ok result) ↔
        ∃ r, l.foldlM (resolveNext hostOf serviceName secure) newResolving = .ok r := by
    unfold resolveBackendInstances
    cases l.foldlM (resolveNext hostOf serviceName secure) newResolving <;> simp
  rw [hfold, hfold]
  exact (resolving_accepting hostOf serviceName secure).ok_perm hsymm resolvingInv_new hperm

theorem id_ne_nil {e : Listing} (he : e ∈ listings hostOf serviceName secure instances) (h : e.sticky = true) :
    e.service.id ≠ [] := by
  obtain ⟨x, -, hx⟩ := mem_listings.mp he
  intro hid
  unfold listing at hx
  split at hx
  · cases hx
  · split at hx
    · cases hx
    · rename_i service hname
      unfold resolveBackendInstance at hx
      split at hx
      · cases hx
      · split at hx
        · split at hx
          · cases hx
          · cases hx
          · split at hx
            · cases hx
            · rename_i hstk
              cases hx
              exact hstk ⟨h, hid⟩
        · cases hx

/-- In a sticky service a node id is behind a host if it is that of the instance attached to it. -/
theorem attached_iff {r : Resolving} {a : Address} {nodeID : Bytes}
    (h : ResolvingInv (listings hostOf serviceName secure instances) r)
    (hstk : r.sticky = true) (ha : a ∈ r.addresses) :
    r.identities.hostByNodeID nodeID = some a.addr ↔
      nodeID ≠ [] ∧ ∃ service, a.attributes = some service ∧ service.id = nodeID := by
  obtain ⟨e, he, rfl⟩ := h.attached a ha
  have hid := id_ne_nil he ((h.sticky e he).2.trans hstk)
  have hown : r.identities.hostByNodeID e.service.id = some e.host :=
    (h.hostByNodeID _ _).mpr ⟨hid, e, he, rfl, rfl⟩
  constructor
  · intro hn
    obtain rfl := h.injective hn hown
    exact ⟨hid, e.service, rfl, rfl⟩
  · rintro ⟨-, service, ⟨⟩, rfl⟩
    exact hown

/-- What instances resolve to does not depend on their order, no host belongs to two nodes, and in sticky mode a
pick for a node takes a connection to its address or none. -/
theorem sticky_routing (hperm : instances.Perm instances') :
    ((∃ result, resolveBackendInstances hostOf serviceName secure instances = .ok result) ↔
      ∃ result, resolveBackendInstances hostOf serviceName secure instances' = .ok result) ∧
    ∀ snapshot addresses,
      resolveBackendInstances hostOf serviceName secure instances = .ok (snapshot, addresses) →
        (∀ snapshot' addresses',
          resolveBackendInstances hostOf serviceName secure instances' = .ok (snapshot', addresses') →
            snapshot'.hostByNodeID = snapshot.hostByNodeID ∧
              ∀ host, host ∈ addresses'.map Address.addr ↔ host ∈ addresses.map Address.addr) ∧
        (∀ nodeID nodeID' host, snapshot.hostByNodeID nodeID = some host →
          snapshot.hostByNodeID nodeID' = some host → nodeID = nodeID') ∧
        (snapshot.sticky = true → ∀ nodeID host, snapshot.hostByNodeID nodeID = some host →
          (∃ a service, addresses.filter (·.addr = host) = [a] ∧ a.attributes = some service ∧
            service.id = nodeID) ∧
          ∀ (C : Type) (ready : List (C × Address)), (ready.map Prod.fst).Nodup →
            (∀ x ∈ ready, x.2 ∈ addresses) → PicksOwn nodeID host ready) := by
  refine ⟨resolveBackendInstances_perm hperm, fun snapshot addresses hok => ?_⟩
  obtain ⟨r, h, rfl, rfl⟩ := resolveBackendInstances_ok hok
  refine ⟨fun snapshot' addresses' hok' => ?_, fun nodeID nodeID' host => h.injective,
    fun hstk nodeID host hn => ⟨?_, fun C ready hnd hready => ?_⟩⟩
  · obtain ⟨r', h', rfl, rfl⟩ := resolveBackendInstances_ok hok'
    have hmem (e : Listing) : e ∈ listings hostOf serviceName secure instances' ↔
        e ∈ listings hostOf serviceName secure instances := (hperm.filterMap _).mem_iff.symm
    refine ⟨funext fun nodeID => Option.ext fun host => ?_, fun host => ?_⟩
    · exact (h'.hostByNodeID _ _).trans (by simp only [h.hostByNodeID, Bears, hmem, Resolving.snapshot])
    · simp only [h.mem_addresses_iff, h'.mem_addresses_iff, hmem]
  · obtain ⟨a, ha, hone, rfl⟩ := h.one_address hn
    obtain ⟨-, service, hattr, hid⟩ := (attached_iff h hstk ha).mp hn
    exact ⟨a, service, hone, hattr, hid⟩
  · apply picksOwn_of_owns ((h.hostByNodeID _ _).mp hn).1 hnd
    intro x hx
    have howns : owns nodeID x = true ↔ r.identities.hostByNodeID nodeID = some x.2.addr := by
      rw [attached_iff h hstk (hready x hx)]
      simp [owns, Option.any_eq_true]
    -- the node id has one host
    refine howns.trans ⟨fun hown => ?_, fun haddr => haddr ▸ hn⟩
    have hsame : some host = some x.2.addr := hn.symm.trans hown
    exact (Option.some.inj hsame).symm

end Accepted

def sampleNode (nodeID host : String) : Option ServiceInstance :=
  some ⟨utf8 nodeID, utf8 "game", fun key => if key = stickyMetadataKey then some (utf8 "true") else none,
    [utf8 host]⟩

def sampleInstances : List (Option ServiceInstance) :=
  [sampleNode "a" "h1", none, sampleNode "b" "h2", some ⟨[], [], fun _ => none, []⟩, sampleNode "a" "h1"]

theorem sticky_routing_reversed :
    ∃ snapshot addresses, resolveBackendInstances (fun endpoint _ => .ok endpoint) (utf8 "game") false
        sampleInstances.reverse = .ok (snapshot, addresses) ∧
      snapshot.sticky = true ∧ snapshot.hostByNodeID (utf8 "b") = some (utf8 "h2") ∧
      addresses.length = 2 ∧ PicksOwn (utf8 "b") (utf8 "h2") (addresses.zipIdx.map Prod.swap) := by
  obtain ⟨snapshot, addresses, hok, hstk, hhost, hlen, hnd⟩ :
      ∃ snapshot addresses, resolveBackendInstances (fun endpoint _ => .ok endpoint) (utf8 "game") false
          sampleInstances.reverse = .ok (snapshot, addresses) ∧ snapshot.sticky = true ∧
        snapshot.hostByNodeID (utf8 "b") = some (utf8 "h2") ∧ addresses.length = 2 ∧
        ((addresses.zipIdx.map Prod.swap).map Prod.fst).Nodup :=
    ⟨_, _, rfl, rfl, by decide, rfl, by decide⟩
  have hrouting := (sticky_routing sampleInstances.reverse_perm).2 snapshot addresses hok
  refine ⟨snapshot, addresses, hok, hstk, hhost, hlen, ?_⟩
  apply (hrouting.2.2 hstk _ _ hhost).2 Nat _ hnd
  intro x hx
  obtain ⟨y, hy, rfl⟩ := List.mem_map.mp hx
  exact List.fst_mem_of_mem_zipIdx hy

end Yola.Gateway
