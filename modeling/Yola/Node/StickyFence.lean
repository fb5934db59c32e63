import Yola.Node.Dispatch

/-!
# The fence of sticky requests

A handler runs for a request with a node claim behind three reads in this order: the identity of the
process, the user's binding in the store, and the lease.  What the first two showed may be out of date
when the handler starts; the lease was valid after both, and a valid lease excludes every other
process with the node id.
-/

namespace Yola.Node

open Function Text Redis Locate Locate.Redis Reasoning

variable {ι : Type} {cfg : DispatchConfig ι} {s s' : Dispatch ι} {es : List (DispatchEvent ι)}
  {e : DispatchEvent ι} {i : ι} {k : Nat} {rpc : Rpc} {pc : HandlingPc} {claim : StickyClaim}
  {identity : NodeIdentity} {c c' : Cluster ι}

namespace Rpc

def Unclaimed (rpc : Rpc) : Prop :=
  ∃ claim binding command, rpc = .forward claim binding command ∧ claim.nodeID = [] ∧ claim.epoch = []

/-- The request carries the identity of process `i`. -/
def Claims (cfg : DispatchConfig ι) (i : ι) (rpc : Rpc) : Prop :=
  ∃ claim binding command, rpc = .forward claim binding command ∧ claim.nodeID ≠ [] ∧
    claim.epoch ≠ [] ∧ claim.nodeID = (cfg.nodeIdentity i).nodeID ∧ claim.epoch = (cfg.nodeIdentity i).epoch

-- A process without a locator has no epoch.
theorem Claims.stateful (h : rpc.Claims cfg i) : cfg.stateful i = true := by
  rcases h with ⟨claim, binding, command, -, -, hep, -, hsame⟩
  by_contra hstateless
  exact hep (hsame.trans (if_neg hstateless))

end Rpc

/-! ## The checks -/

theorem fenceStickyClaim_half (identity : NodeIdentity) (h : ¬ (claim.nodeID = [] ↔ claim.epoch = [])) :
    fenceStickyClaim claim identity = .error (.status .invalidArgument "invalid node claim") := by
  unfold fenceStickyClaim
  rw [if_pos]
  by_cases hn : claim.nodeID = [] <;> by_cases he : claim.epoch = [] <;> simp_all

theorem fenceStickyClaim_absent
    (h : fenceStickyClaim claim identity = .ok false) : claim.nodeID = [] ∧ claim.epoch = [] := by
  unfold fenceStickyClaim at h
  split at h
  · cases h
  · rename_i hpair
    split at h
    · rename_i hn
      refine ⟨hn, ?_⟩
      simpa [hn] using hpair
    · repeat (split at h <;> try cases h)

theorem fenceStickyClaim_present (h : fenceStickyClaim claim identity = .ok true) :
    claim.nodeID ≠ [] ∧ claim.epoch ≠ [] ∧ claim.nodeID = identity.nodeID ∧ claim.epoch = identity.epoch := by
  unfold fenceStickyClaim at h
  split at h
  · cases h
  · rename_i hpair
    split at h
    · cases h
    · rename_i hn
      split at h
      · cases h
      · rename_i hid
        split at h
        · cases h
        · rename_i hep
          simp at hid hep
          refine ⟨hn, ?_, hid.symm, hep⟩
          intro he
          simp [hn, he] at hpair

theorem checkRoute_ok {published : Option NodeIdentity} (h : checkRoute published rpc = .ok identity) :
    published = some identity ∧ rpc.binding.serviceName = identity.serviceName := by
  unfold checkRoute routeIdentity at h
  split at h
  · cases h
  · dsimp only at h
    split at h
    · cases h
    · rename_i hsvc
      cases published with
      | none => exact absurd (.inl rfl) hsvc
      | some =>
        cases h
        simp [currentIdentity] at hsvc
        exact ⟨rfl, hsvc.2.symm⟩

section Leases

variable [DecidableEq ι] {c : Cluster ι}

theorem Cluster.set_lease {j : ι} {p : EpochProcess}
    (hp : (c.process j).lease ≠ none → p.lease ≠ none) (h : (c.process i).lease ≠ none) :
    ((c.set j p).process i).lease ≠ none := by
  by_cases hij : i = j
  · subst hij
    rw [Cluster.set_process_self]
    exact hp h
  · rw [Cluster.set_process_of_ne _ _ hij]
    exact h

theorem EpochStep.lease_ne_none {epochs : EpochConfig ι} {c' : Cluster ι} {a : EpochAction ι}
    (h : EpochStep epochs c a c') (hl : (c.process i).lease ≠ none) : (c'.process i).lease ≠ none := by
  cases h with
  | elapse | evict | elsewhere | claimServedLate | renewServedLate | releaseServed => exact hl
  | claimBegin | claimServed | claimFailed | renewChecked | renewStarted | renewIssued | renewServed
  | renewReplied | renewFailed | renewAccepted => exact Cluster.set_lease id hl
  | _ => exact Cluster.set_lease (fun _ => Option.some_ne_none _) hl

theorem DispatchConfig.checkEpoch_step (cfg : DispatchConfig ι) (c : Cluster ι) (i : ι) :
    (cfg.checkEpoch c i).2 = c ∨ EpochStep cfg.epochs c (.validCalled i) (cfg.checkEpoch c i).2 := by
  unfold checkEpoch
  cases hl : (c.process i).lease with
  | none => exact .inl rfl
  | some l => exact .inr (.validCalled c i l hl)

theorem DispatchConfig.valid_of_checkEpoch (h : (cfg.checkEpoch c i).1 = none)
    (hl : (c.process i).lease ≠ none) : ∃ l, cfg.epochs.Valid c i l := by
  unfold checkEpoch at h
  cases hls : (c.process i).lease with
  | none => exact absurd hls hl
  | some l =>
    rw [hls] at h
    exact ⟨l, hls, h⟩

end Leases

/-! ## What a handling has behind it -/

/-- A process with a locator has stored its lease. -/
def DispatchConfig.Holds (cfg : DispatchConfig ι) (c : Cluster ι) (i : ι) : Prop :=
  cfg.stateful i = true → (c.process i).lease ≠ none

structure Routed (cfg : DispatchConfig ι) (c : Cluster ι) (i : ι) (rpc : Rpc)
    (identity : NodeIdentity) : Prop where
  identity_eq : identity = cfg.nodeIdentity i
  service : rpc.binding.serviceName = cfg.epochs.serviceName
  holds : cfg.Holds c i

def Progress (cfg : DispatchConfig ι) (es : List (DispatchEvent ι)) (c : Cluster ι) (i : ι) (k : Nat)
    (rpc : Rpc) : HandlingPc → Prop
  | .arrived | .admitted => .arrived i k rpc ∈ es
  | .identified identity | .routed identity | .leased identity =>
    .arrived i k rpc ∈ es ∧ Routed cfg c i rpc identity
  | .locating identity replies =>
    .arrived i k rpc ∈ es ∧ Routed cfg c i rpc identity ∧ rpc.Claims cfg i ∧
      ∀ nodeID, .ok nodeID ∈ replies → [.arrived i k rpc, .located i k rpc (.ok nodeID)].Sublist es
  | .located identity =>
    Routed cfg c i rpc identity ∧ rpc.Claims cfg i ∧
      [.arrived i k rpc, .located i k rpc (.ok cfg.epochs.nodeID)].Sublist es
  | .fenced =>
    rpc.binding.serviceName = cfg.epochs.serviceName ∧ (rpc.Unclaimed ∨ rpc.Claims cfg i ∧
      [.arrived i k rpc, .located i k rpc (.ok cfg.epochs.nodeID), .fencePassed i k rpc].Sublist es)
  | .handling | .returned _ => True

theorem Routed.later (h : Routed cfg c i rpc identity)
    (hc : (c.process i).lease ≠ none → (c'.process i).lease ≠ none) : Routed cfg c' i rpc identity where
  identity_eq := h.identity_eq
  service := h.service
  holds hs := hc (h.holds hs)

theorem Progress.later (h : Progress cfg es c i k rpc pc)
    (hc : (c.process i).lease ≠ none → (c'.process i).lease ≠ none) (e : DispatchEvent ι) :
    Progress cfg (es ++ [e]) c' i k rpc pc := by
  have hgrow : es.Sublist (es ++ [e]) := List.sublist_append_left es [e]
  cases pc with
  | arrived | admitted => exact hgrow.mem h
  | identified | routed | leased => exact ⟨hgrow.mem h.1, h.2.later hc⟩
  | locating =>
    rcases h with ⟨harr, hrouted, hclm, hread⟩
    exact ⟨hgrow.mem harr, hrouted.later hc, hclm,
      fun nodeID hreply => (hread nodeID hreply).trans hgrow⟩
  | located =>
    rcases h with ⟨hrouted, hclm, hread⟩
    exact ⟨hrouted.later hc, hclm, hread.trans hgrow⟩
  | fenced =>
    rcases h with ⟨hsvc, huncl | ⟨hclm, hread⟩⟩
    · exact ⟨hsvc, .inl huncl⟩
    · exact ⟨hsvc, .inr ⟨hclm, hread.trans hgrow⟩⟩
  | handling | returned => trivial

structure DispatchInv (cfg : DispatchConfig ι) (es : List (DispatchEvent ι)) (s : Dispatch ι) :
    Prop where
  cluster : ClusterInv cfg.epochs s.cluster
  identity : ∀ i identity, s.identity i = some identity →
    identity = cfg.nodeIdentity i ∧ cfg.Holds s.cluster i
  handling : ∀ i k rpc pc, s.handling (i, k) = some (rpc, pc) → Progress cfg es s.cluster i k rpc pc

namespace DispatchInv

theorem init (h : cfg.Init s) : DispatchInv cfg [] s where
  cluster := .of_init h.1
  identity i identity hi := by
    rw [h.2.1 i] at hi
    cases hi
  handling i k rpc pc hpc := by
    rw [h.2.2 (i, k)] at hpc
    cases hpc

/-- Leases, store and time change; nothing that a handling has seen does. -/
theorem drift (h : DispatchInv cfg es s) {c : Cluster ι} (hc : ClusterInv cfg.epochs c)
    (hl : ∀ i, (s.cluster.process i).lease ≠ none → (c.process i).lease ≠ none)
    (e : DispatchEvent ι) : DispatchInv cfg (es ++ [e]) { s with cluster := c } where
  cluster := hc
  identity i identity hi :=
    ⟨(h.identity i identity hi).1, fun hs => hl i ((h.identity i identity hi).2 hs)⟩
  handling i k rpc pc hpc := (h.handling i k rpc pc hpc).later (hl i) e

theorem event (h : DispatchInv cfg es s) (e : DispatchEvent ι) : DispatchInv cfg (es ++ [e]) s :=
  h.drift h.cluster (fun _ => id) e

variable [DecidableEq ι]

section

variable (h : DispatchInv cfg es s)

include h

theorem checkEpoch (i : ι) (e : DispatchEvent ι) :
    DispatchInv cfg (es ++ [e]) { s with cluster := (cfg.checkEpoch s.cluster i).2 } := by
  rcases cfg.checkEpoch_step s.cluster i with hsame | hstep
  · rw [hsame]
    exact h.event e
  · exact h.drift (h.cluster.step hstep) (fun _ => hstep.lease_ne_none) e

theorem goto (hpc : Progress cfg es s.cluster i k rpc pc) : DispatchInv cfg es (s.goto i k rpc pc) where
  cluster := h.cluster
  identity := h.identity
  handling j m rpc' pc' hj := by
    change update s.handling (i, k) (some (rpc, pc)) (j, m) = _ at hj
    by_cases heq : (j, m) = (i, k)
    · rw [heq, update_self] at hj
      cases hj
      cases heq
      exact hpc
    · rw [update_of_ne heq] at hj
      exact h.handling j m rpc' pc' hj

theorem publish (i : ι) {published : Option NodeIdentity} (hp : ∀ identity, published = some identity →
      identity = cfg.nodeIdentity i ∧ cfg.Holds s.cluster i) :
    DispatchInv cfg es { s with identity := update s.identity i published } where
  cluster := h.cluster
  identity j identity hj := by
    change update s.identity i published j = _ at hj
    by_cases hij : j = i
    · subst hij
      rw [update_self] at hj
      exact hp identity hj
    · rw [update_of_ne hij] at hj
      exact h.identity j identity hj
  handling := h.handling

theorem surrounding (hstep : SurroundingStep cfg s s') (e : DispatchEvent ι) : DispatchInv cfg (es ++ [e]) s' := by
  cases hstep with
  | cluster c a step => exact h.drift (h.cluster.step step) (fun _ => step.lease_ne_none) e
  | published i claimed =>
    apply (h.event e).publish
    rintro identity ⟨⟩
    exact ⟨rfl, claimed⟩
  | cleared =>
    apply (h.event e).publish
    intro identity hnone
    cases hnone

theorem handled (hat : s.handling (i, k) = some (rpc, pc))
    (hstep : HandlingStep cfg s i k rpc pc e s') : DispatchInv cfg (es ++ [e]) s' := by
  have hold := h.handling i k rpc pc hat
  have hnow := (h.event e).handling i k rpc pc hat
  have hchk := (h.checkEpoch i e).handling i k rpc pc hat
  cases hstep with
  | draining | misrouted | claimRefused | locatorMissing | locateLost | locateFailed | rebound
  | unimplemented | forwardHandled | disconnectHandled | disconnectIgnored | handlerReturned =>
    exact (h.event _).goto trivial
  | forwardAdmitted => exact (h.event _).goto hnow
  | identified _ identity place found =>
    obtain ⟨hpub, hsvc⟩ := checkRoute_ok found
    obtain ⟨hident, hholds⟩ := h.identity i identity hpub
    have harr : DispatchEvent.arrived i k rpc ∈ es ++ [.silent] := by
      rcases place with rfl | ⟨-, rfl⟩ <;> exact hnow
    refine (h.event _).goto ⟨harr, hident, ?_, hholds⟩
    rw [hsvc, hident]
    rfl
  | epochInvalid => exact (h.checkEpoch i _).goto trivial
  | routed | leased => exact (h.checkEpoch i _).goto hchk
  | claimAbsent claim binding command identity forward absent =>
    exact (h.event _).goto
      ⟨hnow.2.service, .inl ⟨claim, binding, command, forward, fenceStickyClaim_absent absent⟩⟩
  | locateCalled claim binding command identity forward claimed =>
    obtain ⟨harr, hrouted⟩ := hnow
    obtain ⟨hnode, hep, hnodeID, hsame⟩ := fenceStickyClaim_present claimed
    rw [hrouted.identity_eq] at hnodeID hsame
    have hclm : rpc.Claims cfg i :=
      ⟨claim, binding, command, forward, hnode, hep, hnodeID, hsame⟩
    refine (h.event _).goto ⟨harr, hrouted, hclm, ?_⟩
    intro nodeID hnil
    cases hnil
  | locateServed =>
    obtain ⟨harr, hrouted, hclm, hread⟩ := hnow
    refine (h.event _).goto ⟨harr, hrouted, hclm, fun nodeID hreply => ?_⟩
    rcases List.mem_cons.mp hreply with hnew | hearlier
    · rw [← hnew]
      exact (List.singleton_sublist.mpr hold.1).append (List.Sublist.refl [_])
    · exact hread nodeID hearlier
  | bound identity replies reply =>
    obtain ⟨-, hrouted, hclm, hread⟩ := hnow
    have hlocated := hread identity.nodeID reply
    rw [hrouted.identity_eq] at hlocated
    exact (h.event _).goto ⟨hrouted, hclm, hlocated⟩
  | fencePassed =>
    obtain ⟨hrouted, hclm, hread⟩ := hold
    exact (h.checkEpoch i _).goto ⟨hrouted.service, .inr ⟨hclm, hread.append (List.Sublist.refl [_])⟩⟩

theorem step (hstep : DispatchStep cfg s e s') : DispatchInv cfg (es ++ [e]) s' := by
  cases hstep with
  | surrounding hstep => exact h.surrounding hstep _
  | arrived =>
    exact (h.event _).goto (List.mem_append_right es (List.mem_singleton.mpr rfl))
  | handling at_ hstep => exact h.handled at_ hstep

end

theorem of_run {s₀ : Dispatch ι} (hinit : cfg.Init s₀) (hrun : Run (DispatchStep cfg) s₀ es s) :
    DispatchInv cfg es s :=
  hrun.history (init hinit) fun _ _ _ _ hinv hstep => hinv.step hstep

end DispatchInv

/-! ## What the labels say about the states -/

section Labels

variable [DecidableEq ι]

theorem DispatchStep.called (h : DispatchStep cfg s (.handlerCalled i k rpc) s') :
    s.handling (i, k) = some (rpc, .fenced) ∨ ∃ binding identity, rpc = .disconnect binding ∧
      s.handling (i, k) = some (rpc, .leased identity) := by
  cases h with
  | handling at_ h =>
    cases h with
    | forwardHandled => exact .inl at_
    | disconnectHandled binding identity disconnect =>
      exact .inr ⟨binding, identity, disconnect, at_⟩

theorem DispatchStep.read {reply : Except CallError Bytes}
    (h : DispatchStep cfg s (.located i k rpc reply) s') :
    cfg.locate s.cluster rpc.binding = reply := by
  cases h with
  | handling at_ h =>
    cases h
    rfl

theorem DispatchStep.passed (h : DispatchStep cfg s (.fencePassed i k rpc) s')
    (hinv : DispatchInv cfg es s) : ∃ l, cfg.epochs.Valid s.cluster i l := by
  cases h with
  | handling at_ h =>
    cases h with
    | fencePassed identity valid =>
      obtain ⟨hrouted, hclm, -⟩ := hinv.handling _ _ _ _ at_
      exact DispatchConfig.valid_of_checkEpoch valid (hrouted.holds hclm.stateful)

end Labels

/-! ## The fence -/

section Fence

variable [DecidableEq ι] {c : Cluster ι} {l : EpochLease} {pc' : HandlingPc}

/-- In this run the handling arrived, then the store named this node for the user, and then the lease
was valid. -/
def DispatchConfig.PassedFence (cfg : DispatchConfig ι) (s₀ : Dispatch ι)
    (es : List (DispatchEvent ι)) (s : Dispatch ι) (i : ι) (k : Nat) (rpc : Rpc) : Prop :=
  ∃ before t t' between u u' after,
    es = before ++ .located i k rpc (.ok cfg.epochs.nodeID) :: (between ++ .fencePassed i k rpc :: after) ∧
    .arrived i k rpc ∈ before ∧ Run (DispatchStep cfg) s₀ before t ∧
    cfg.locate t.cluster rpc.binding = .ok cfg.epochs.nodeID ∧
    DispatchStep cfg t (.located i k rpc (.ok cfg.epochs.nodeID)) t' ∧
    Run (DispatchStep cfg) t' between u ∧ (∃ l, cfg.epochs.Valid u.cluster i l) ∧
    DispatchStep cfg u (.fencePassed i k rpc) u' ∧ Run (DispatchStep cfg) u' after s

theorem passedFence_of_sublist {s₀ : Dispatch ι} (hinit : cfg.Init s₀) (hrun : Run (DispatchStep cfg) s₀ es s)
    (h : [.arrived i k rpc, .located i k rpc (.ok cfg.epochs.nodeID),
      .fencePassed i k rpc].Sublist es) : cfg.PassedFence s₀ es s i k rpc := by
  rcases List.cons_sublist_iff.mp h with ⟨r₁, r₂, rfl, harr, hrest⟩
  rcases List.cons_sublist_iff.mp hrest with ⟨r₃, r₄, rfl, hloc, hlast⟩
  rcases List.append_of_mem hloc with ⟨a, b, rfl⟩
  rcases List.append_of_mem (List.singleton_sublist.mp hlast) with ⟨c, after, rfl⟩
  have hsplit : r₁ ++ ((a ++ .located i k rpc (.ok cfg.epochs.nodeID) :: b) ++
      (c ++ .fencePassed i k rpc :: after)) =
      (r₁ ++ a) ++ .located i k rpc (.ok cfg.epochs.nodeID) ::
        ((b ++ c) ++ .fencePassed i k rpc :: after) := by
    simp only [List.append_assoc, List.cons_append]
  rw [hsplit] at hrun ⊢
  rcases hrun.split with ⟨t, t', hbef, hread, hrest⟩
  rcases hrest.split with ⟨u, u', hbetw, hpass, hafter⟩
  have hinv := DispatchInv.of_run hinit (hbef.append (.cons hread hbetw))
  exact ⟨_, t, t', _, u, u', after, rfl, List.mem_append_left a harr, hbef, hread.read, hread,
    hbetw, hpass.passed hinv, hpass, hafter⟩

/-- A handler runs for the service of the node only; for a request with a claim, which is whole, only
behind the fence; and no two processes can pass the fence from one state. -/
theorem sticky_request_fencing {s₀ : Dispatch ι} (hinit : cfg.Init s₀)
    (hrun : Run (DispatchStep cfg) s₀ es s) :
    (∀ i k rpc s', DispatchStep cfg s (.handlerCalled i k rpc) s' →
      rpc.binding.serviceName = cfg.epochs.serviceName ∧
      ∀ claim binding command, rpc = .forward claim binding command →
        claim.nodeID ≠ [] ∨ claim.epoch ≠ [] →
          claim.nodeID = (cfg.nodeIdentity i).nodeID ∧ claim.epoch = (cfg.nodeIdentity i).epoch ∧
            cfg.PassedFence s₀ es s i k rpc) ∧
    (∀ claim identity, ¬ (claim.nodeID = [] ↔ claim.epoch = []) →
      fenceStickyClaim claim identity = .error (.status .invalidArgument "invalid node claim") ∧
      ∀ i k binding command s',
        ¬ DispatchStep cfg s (.handlerCalled i k (.forward claim binding command)) s') ∧
    ∀ i j k k' rpc rpc' s₁ s₂, DispatchStep cfg s (.fencePassed i k rpc) s₁ →
      DispatchStep cfg s (.fencePassed j k' rpc') s₂ → i = j := by
  have hinv := DispatchInv.of_run hinit hrun
  have hforward {i : ι} {k : Nat} {claim : StickyClaim} {binding : GateBinding} {command : Int}
      {s' : Dispatch ι}
      (hcall : DispatchStep cfg s (.handlerCalled i k (.forward claim binding command)) s') :
      Progress cfg es s.cluster i k (.forward claim binding command) .fenced := by
    rcases hcall.called with hat | ⟨_, _, hdisc, -⟩
    · exact hinv.handling _ _ _ _ hat
    · cases hdisc
  refine ⟨fun i k rpc s' hcall => ⟨?_, ?_⟩, fun claim identity hhalf => ⟨?_, ?_⟩, ?_⟩
  · rcases hcall.called with hat | ⟨_, _, -, hat⟩
    · exact (hinv.handling _ _ _ _ hat).1
    · exact (hinv.handling _ _ _ _ hat).2.service
  · rintro claim binding command rfl hcarr
    rcases (hforward hcall).2 with ⟨_, _, _, ⟨⟩, hnode, hep⟩ | ⟨⟨_, _, _, ⟨⟩, hclaim⟩, hread⟩
    · rcases hcarr with hn | he
      · exact absurd hnode hn
      · exact absurd hep he
    · exact ⟨hclaim.2.2.1, hclaim.2.2.2, passedFence_of_sublist hinit hrun hread⟩
  · exact fenceStickyClaim_half identity hhalf
  · intro i k binding command s' hcall
    rcases (hforward hcall).2 with ⟨_, _, _, ⟨⟩, hnode, hep⟩ | ⟨⟨_, _, _, ⟨⟩, hn, he, -⟩, -⟩
    · exact hhalf (by simp [hnode, hep])
    · exact hhalf (by simp [hn, he])
  · intro i j k k' rpc rpc' s₁ s₂ hi hj
    rcases hi.passed hinv with ⟨l, hl⟩
    rcases hj.passed hinv with ⟨l', hl'⟩
    exact hinv.cluster.valid_unique hl hl'

/-! ## A request that passes -/

omit [DecidableEq ι] in
theorem EpochConfig.Valid.setDb {epochs : EpochConfig ι}
    (h : epochs.Valid c i l) (db : Db) : epochs.Valid { c with db := db } i l := h

theorem DispatchConfig.checkEpoch_of_valid (h : cfg.epochs.Valid c i l) : cfg.checkEpoch c i = (none, c) := by
  rcases (l.valid_eq_none_iff _).mp h.2 with ⟨-, hlt⟩
  have hsame : (l.valid (cfg.epochs.now c i)).2 = l := by
    unfold EpochLease.valid
    rw [if_pos hlt]
  unfold checkEpoch
  rw [h.1]
  dsimp only
  rw [h.2, hsame, ← h.1]
  unfold Cluster.set
  rw [update_eq_self]

theorem Dispatch.goto_goto (s : Dispatch ι) (pc pc' : HandlingPc) :
    (s.goto i k rpc pc).goto i k rpc pc' = s.goto i k rpc pc' := by
  unfold Dispatch.goto
  rw [update_idem]

theorem HandlingStep.hop
    (h : HandlingStep cfg (s.goto i k rpc pc) i k rpc pc e ((s.goto i k rpc pc).goto i k rpc pc')) :
    DispatchStep cfg (s.goto i k rpc pc) e (s.goto i k rpc pc') := by
  rw [Dispatch.goto_goto] at h
  exact .handling (update_self ..) h

theorem HandlingStep.hopChecked (hkept : cfg.checkEpoch s.cluster i = (none, s.cluster))
    (h : HandlingStep cfg (s.goto i k rpc pc) i k rpc pc e
      ({ s.goto i k rpc pc with cluster := (cfg.checkEpoch s.cluster i).2 }.goto i k rpc pc')) :
    DispatchStep cfg (s.goto i k rpc pc) e (s.goto i k rpc pc') := by
  rw [hkept] at h
  exact h.hop

/-- A request with the identity of the process, for a user bound to it, gets to its handler while the
lease is valid. -/
theorem fence_lets_through {claim : StickyClaim} {binding : GateBinding} {command : Int}
    (hnew : s.handling (i, k) = none) (hsf : cfg.stateful i = true)
    (hroute : checkRoute (s.identity i) (.forward claim binding command) = .ok (cfg.nodeIdentity i))
    (hclaim : fenceStickyClaim claim (cfg.nodeIdentity i) = .ok true)
    (hval : cfg.epochs.Valid s.cluster i l) (hbnd : cfg.locate s.cluster binding = .ok cfg.epochs.nodeID)
    (hhandler : cfg.handlers i command = true) : ∃ es t t', Run (DispatchStep cfg) s es t ∧
      DispatchStep cfg t (.handlerCalled i k (.forward claim binding command)) t' := by
  have hchk := DispatchConfig.checkEpoch_of_valid hval
  have hfree : (cfg.checkEpoch s.cluster i).1 = none := by rw [hchk]
  generalize hrpc : Rpc.forward claim binding command = rpc at hroute ⊢
  have hloc : cfg.locate s.cluster rpc.binding = .ok cfg.epochs.nodeID := by
    rw [← hrpc]
    exact hbnd
  -- one state for each place of the handling
  let at_ (pc : HandlingPc) : Dispatch ι := s.goto i k rpc pc
  let identity := cfg.nodeIdentity i
  have harr : DispatchStep cfg s (.arrived i k rpc) (at_ .arrived) := .arrived s i k rpc hnew
  have hadmitted : DispatchStep cfg (at_ .arrived) .silent (at_ .admitted) :=
    HandlingStep.hop (.forwardAdmitted claim binding command hrpc.symm)
  have hident : DispatchStep cfg (at_ .admitted) .silent (at_ (.identified identity)) :=
    HandlingStep.hop (.identified .admitted identity (.inl rfl) hroute)
  have hrouted : DispatchStep cfg (at_ (.identified identity)) .silent (at_ (.routed identity)) :=
    HandlingStep.hopChecked hchk (.routed identity hfree)
  have hleased : DispatchStep cfg (at_ (.routed identity)) .silent (at_ (.leased identity)) :=
    HandlingStep.hopChecked hchk (.leased identity)
  have hcall : DispatchStep cfg (at_ (.leased identity)) .silent (at_ (.locating identity [])) :=
    HandlingStep.hop (.locateCalled claim binding command identity hrpc.symm hclaim hsf)
  have hsrv : DispatchStep cfg (at_ (.locating identity [])) _
      (at_ (.locating identity [cfg.locate s.cluster rpc.binding])) :=
    HandlingStep.hop (.locateServed identity [])
  rw [hloc] at hsrv
  have hbnd : DispatchStep cfg (at_ (.locating identity [.ok identity.nodeID])) .silent
      (at_ (.located identity)) :=
    HandlingStep.hop (.bound identity [.ok identity.nodeID] (List.mem_singleton.mpr rfl))
  have hpassed : DispatchStep cfg (at_ (.located identity)) (.fencePassed i k rpc) (at_ .fenced) :=
    HandlingStep.hopChecked hchk (.fencePassed identity hfree)
  refine ⟨_, at_ .fenced, at_ .handling, .cons harr (.cons hadmitted (.cons hident
    (.cons hrouted (.cons hleased (.cons hcall (.cons hsrv (.cons hbnd (.single hpassed)))))))), ?_⟩
  exact HandlingStep.hop (.forwardHandled claim binding command hrpc.symm hhandler)

-- What the leases and the store do is something that happens around the handlings.
theorem surrounding_run {c' : Cluster ι} {as : List (EpochAction ι)}
    (h : Run (EpochStep cfg.epochs) c as c') (hsf : ∀ i, cfg.stateful i = true)
    (identity : ι → Option NodeIdentity) (handling : ι × Nat → Option (Rpc × HandlingPc)) :
    ∃ es, Run (DispatchStep cfg) ⟨c, identity, handling⟩ es ⟨c', identity, handling⟩ := by
  induction h with
  | nil => exact ⟨[], .nil _⟩
  | cons first rest ih =>
    rcases ih with ⟨es, hrun⟩
    exact ⟨_, .cons (.surrounding (.cluster _ _ _ first fun i _ => hsf i)) hrun⟩

end Fence

/-- The two processes, one of which has claimed the node id, with a user that is bound to it. -/
def pairDispatch : DispatchConfig Bool := ⟨pairConfig, fun _ => true, fun _ _ => true, fun _ => true⟩

def pairUser : GateBinding where
  serviceName := utf8 "game"
  uid := utf8 "u1"
  gateID := utf8 "g1"
  gateEndpoint := utf8 "10.0.0.1:9000"
  connID := utf8 "c1"
  bindingToken := utf8 "t1"

def pairBound : Cluster Bool :=
  { pairHeld with
    db := pairHeld.db.put (nodeKey (utf8 "game") (utf8 "u1")) (some ⟨utf8 "n1", none⟩) }

theorem pairBound_locate : pairDispatch.locate pairBound pairUser = .ok (utf8 "n1") := by
  have hget : pairBound.db.get (pairConfig.millis pairBound) (nodeKey (utf8 "game") (utf8 "u1")) =
      some (utf8 "n1") := by
    unfold pairBound Db.get
    rw [Db.find_put_self]
    rfl
  exact congrArg Prod.fst (locateNode_of_get _ (by decide) (by decide) hget (by decide))

theorem pairBound_valid : pairConfig.Valid pairBound true ⟨7 + epochTTLNanos, none⟩ :=
  EpochConfig.Valid.setDb pairHeld_valid _

def pairPublished : Dispatch Bool where
  cluster := pairBound
  identity := update (fun _ => none) true (some (pairDispatch.nodeIdentity true))
  handling _ := none

theorem pairPublished_run : ∃ es, Run (DispatchStep pairDispatch)
    ⟨pairStart, fun _ => none, fun _ => none⟩ es pairPublished := by
  have hbnd : EpochStep pairConfig pairHeld .elsewhere pairBound :=
    .elsewhere pairHeld _ (update_of_ne (nodeKey_ne_nodeEpochKey _ _ _ _).symm ..)
  have hcluster : Run (EpochStep pairDispatch.epochs) pairStart _ pairBound :=
    pairHeld_run.append (.single hbnd)
  rcases surrounding_run hcluster (fun _ => rfl) (fun _ => none) (fun _ => none) with ⟨es, hrun⟩
  refine ⟨_, hrun.append (.single (.surrounding (.published _ true fun _ => ?_)))⟩
  change (pairBound.process true).lease ≠ none
  rw [pairBound_valid.1]
  exact Option.some_ne_none _

theorem pairPublished_calls : ∃ es s s', Run (DispatchStep pairDispatch) pairPublished es s ∧
    DispatchStep pairDispatch s (.handlerCalled true 0 (.forward ⟨utf8 "n1", [1]⟩ pairUser 7)) s' := by
  have hroute : checkRoute (pairPublished.identity true) (.forward ⟨utf8 "n1", [1]⟩ pairUser 7) =
      .ok (pairDispatch.nodeIdentity true) := by
    change checkRoute (update (fun _ => none) true _ true) _ = _
    rw [update_self]
    decide
  have hclaim : fenceStickyClaim ⟨utf8 "n1", [1]⟩ (pairDispatch.nodeIdentity true) = .ok true := by
    decide
  exact fence_lets_through rfl rfl hroute hclaim pairBound_valid pairBound_locate rfl

/-- The bound user's request passes the fence. -/
theorem sticky_request_fencing_bound : ∃ (es : List (DispatchEvent Bool)) (s s' : Dispatch Bool),
    Run (DispatchStep pairDispatch) ⟨pairStart, fun _ => none, fun _ => none⟩ es s ∧
    DispatchStep pairDispatch s (.handlerCalled true 0 (.forward ⟨utf8 "n1", [1]⟩ pairUser 7)) s' ∧
    pairDispatch.PassedFence ⟨pairStart, fun _ => none, fun _ => none⟩ es s true 0
      (.forward ⟨utf8 "n1", [1]⟩ pairUser 7) := by
  rcases pairPublished_run with ⟨es, hbef⟩
  rcases pairPublished_calls with ⟨es', s, s', hrun, hcall⟩
  have hinit : pairDispatch.Init ⟨pairStart, fun _ => none, fun _ => none⟩ :=
    ⟨pairStart_init, fun _ => rfl, fun _ => rfl⟩
  have hfenced := (sticky_request_fencing hinit (hbef.append hrun)).1 true 0 _ s' hcall
  refine ⟨_, s, s', hbef.append hrun, hcall, ?_⟩
  exact (hfenced.2 _ _ _ rfl (.inl (by decide))).2.2

end Yola.Node
