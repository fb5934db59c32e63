import Yola.Locate.Redis.NodeFencing
import Yola.Node.Epoch

/-!
# One valid epoch at a time

A lease that has not been cancelled is backed by the store: its deadline has come, or the key holds
its epoch and expires no earlier.  The same holds of the deadline a confirmed but not yet stored
renewal is about to set.  Two leases cannot both be backed by one key.
-/

namespace Yola.Node

open Text Redis Locate Locate.Redis Reasoning

variable {ι : Type} {cfg : EpochConfig ι} {s s' : Cluster ι} {i j : ι} {l : EpochLease}

def EpochConfig.Backs (cfg : EpochConfig ι) (i : ι) (t : Nat) (db : Db) (deadline : Nat) : Prop :=
  Backed (cfg.clocks i) cfg.key (cfg.epoch i) t db deadline

/-- An epoch under the key was written with the common time to live, now at the latest. -/
def EpochConfig.EntryBound (cfg : EpochConfig ι) (t : Nat) (db : Db) : Prop :=
  ∀ i e, db cfg.key = some e → e.value = cfg.epoch i →
    ∃ expiry, e.expireAt = some expiry ∧ expiry ≤ (t + cfg.serverClock) / nanosPerMilli + epochTTLMillis

/-! ## What the three store calls do to a backed deadline -/

theorem milliseconds_defaultNodeEpochTTL :
    defaultNodeEpochTTL.milliseconds.toNat = epochTTLMillis := by decide

section Store

variable (cfg s i)

/-- Registering changes nothing, or takes a key the server does not see. -/
theorem register_write :
    ((cfg.register s i).1 ≠ .ok () ∧ (cfg.register s i).2 = s.db) ∨
      s.db.get (cfg.millis s) cfg.key = none ∧
        (cfg.register s i).2 cfg.key = some ⟨cfg.epoch i, some (cfg.millis s + epochTTLMillis)⟩ := by
  have heff := registerNodeEpoch_effect (cfg.millis s) s.db cfg.serviceName cfg.nodeID
    (cfg.epoch i) defaultNodeEpochTTL
  unfold EpochConfig.register
  generalize (registerNodeEpoch _ _ _ _ _ s.db).1 = r at heff ⊢
  generalize (registerNodeEpoch _ _ _ _ _ s.db).2 = db at heff ⊢
  cases heff with
  | refused => exact Or.inl ⟨by simp, rfl⟩
  | registered _ _ _ _ hfree =>
    refine Or.inr ⟨hfree, ?_⟩
    rw [milliseconds_defaultNodeEpochTTL]
    exact Db.put_self _

theorem renew_write :
    ((cfg.renew s i).1 ≠ .ok () ∧ (cfg.renew s i).2 = s.db) ∨
      s.db.get (cfg.millis s) cfg.key = some (cfg.epoch i) ∧
        (cfg.renew s i).2 cfg.key = some ⟨cfg.epoch i, some (cfg.millis s + epochTTLMillis)⟩ := by
  have heff := renewNodeEpoch_effect cfg.decode (cfg.millis s) s.db cfg.serviceName cfg.nodeID
    (cfg.epoch i) defaultNodeEpochTTL
  unfold EpochConfig.renew
  generalize (renewNodeEpoch _ _ _ _ _ _ s.db).1 = r at heff ⊢
  generalize (renewNodeEpoch _ _ _ _ _ _ s.db).2 = db at heff ⊢
  cases heff with
  | refused => exact Or.inl ⟨by simp, rfl⟩
  | epochRenewed _ _ _ _ hep =>
    refine Or.inr ⟨hep, ?_⟩
    rcases Db.get_eq_some.mp hep with ⟨e, hfind, hval⟩
    rw [milliseconds_defaultNodeEpochTTL, Db.pexpire_of_find hfind, hval]
    exact Db.put_self _

theorem unregister_write :
    (cfg.unregister s i).2 = s.db ∨
      s.db.get (cfg.millis s) cfg.key = some (cfg.epoch i) ∧ (cfg.unregister s i).2 cfg.key = none := by
  have heff := unregisterNodeEpoch_effect cfg.decode (cfg.millis s) s.db cfg.serviceName cfg.nodeID
    (cfg.epoch i)
  unfold EpochConfig.unregister
  generalize (unregisterNodeEpoch _ _ _ _ _ s.db).1 = r at heff
  generalize (unregisterNodeEpoch _ _ _ _ _ s.db).2 = db at heff ⊢
  cases heff with
  | refused | unregisterIdle => exact Or.inl rfl
  | unregistered _ _ _ hep =>
    refine Or.inr ⟨hep, ?_⟩
    rcases Db.get_eq_some.mp hep with ⟨e, hfind, -⟩
    rw [Db.del_of_find hfind]
    exact Db.put_self _

end Store

section Backing

variable {t : Nat} {db db' : Db} {deadline : Nat}

/-- Writing one's epoch under a key that nobody else is seen to hold costs no one a deadline. -/
theorem EpochConfig.Backs.of_write (h : cfg.Backs j t db deadline) (hbnd : cfg.EntryBound t db)
    (hvisible : ∀ v, db.get ((cfg.clocks i).serverAt t) cfg.key = some v → v = cfg.epoch i)
    (hkey : db' cfg.key = some ⟨cfg.epoch i, some ((cfg.clocks i).serverAt t + epochTTLMillis)⟩) :
    cfg.Backs j t db' deadline := by
  by_cases hij : cfg.epoch j = cfg.epoch i
  · have hij := cfg.distinct hij
    subst hij
    apply Backed.of_later_expiry h hkey
    intro old hold
    rcases hbnd j _ hold rfl with ⟨expiry, hexp, hle⟩
    cases hexp
    exact hle
  · exact Or.inl (Backed.due_of_get_ne h fun hget => hij (hvisible _ hget))

/-- Removing one's epoch costs only oneself the deadline. -/
theorem EpochConfig.Backs.of_drop (h : cfg.Backs j t db deadline) (hij : j ≠ i)
    (hget : db.get ((cfg.clocks i).serverAt t) cfg.key = some (cfg.epoch i)) :
    cfg.Backs j t db' deadline := by
  refine Or.inl (Backed.due_of_get_ne h ?_)
  change db.get ((cfg.clocks i).serverAt t) cfg.key ≠ _
  rw [hget]
  exact fun heq => hij (cfg.distinct (Option.some.inj heq)).symm

theorem EpochConfig.EntryBound.later {t' : Nat} (h : cfg.EntryBound t db) (hle : t ≤ t') :
    cfg.EntryBound t' db := by
  intro i e hkey hval
  rcases h i e hkey hval with ⟨expiry, hexp, hbnd⟩
  have hmono := (cfg.clocks i).serverAt_mono hle
  exact ⟨expiry, hexp, Nat.le_trans hbnd (Nat.add_le_add_right hmono _)⟩

theorem EpochConfig.EntryBound.of_write {expiry : Nat} (hkey : db cfg.key = some ⟨cfg.epoch i, some expiry⟩)
    (hle : expiry ≤ (t + cfg.serverClock) / nanosPerMilli + epochTTLMillis) :
    cfg.EntryBound t db := by
  intro j e hent _
  rw [hkey] at hent
  cases hent
  exact ⟨expiry, rfl, hle⟩

end Backing

/-! ## The invariant of one process -/

def Renewal.Confirmed (r : Renewal) (started : Nat) : Prop :=
  match r with
  | .calling since _ replies => since = started ∧ .ok () ∈ replies
  | .replied since | .accepted since => since = started
  | _ => False

def Renewal.begun : Renewal → Option Nat
  | .started since | .calling since _ _ | .replied since | .accepted since => some since
  | _ => none

structure ProcessInv (cfg : EpochConfig ι) (i : ι) (t : Nat) (db : Db) (p : EpochProcess) :
    Prop where
  claim : ∀ started replies, p.claim = .calling started replies →
    started ≤ (cfg.clocks i).clientAt t ∧ (.ok () ∈ replies → cfg.Backs i t db (started + epochTTLNanos))
  unclaimed : p.claim ≠ .returned → p.lease = none
  unleased : p.lease = none → ∀ k, p.renewals k = .idle
  lease : ∀ l, p.lease = some l → l.cause = none → cfg.Backs i t db l.deadline
  renewal : ∀ l k started, p.lease = some l → l.cause = none → (p.renewals k).Confirmed started →
    cfg.Backs i t db (started + epochTTLNanos)
  begun : ∀ k started, (p.renewals k).begun = some started → started ≤ (cfg.clocks i).clientAt t
  releasing : p.releasing = true → ∃ l, p.lease = some l ∧ l.cause ≠ none

namespace ProcessInv

variable {t t' : Nat} {db db' : Db} {p : EpochProcess} {k : Nat} {l : EpochLease}

theorem mono (h : ProcessInv cfg i t db p) (hle : t ≤ t')
    (hbacks : ∀ d, cfg.Backs i t db d → cfg.Backs i t' db' d) : ProcessInv cfg i t' db' p where
  claim started replies hc := by
    rcases h.claim started replies hc with ⟨hstart, hok⟩
    exact ⟨Nat.le_trans hstart (Nat.add_le_add_right hle _), fun hmem => hbacks _ (hok hmem)⟩
  unclaimed := h.unclaimed
  unleased := h.unleased
  lease l hl hcause := hbacks _ (h.lease l hl hcause)
  renewal l k started hl hcause hr := hbacks _ (h.renewal l k started hl hcause hr)
  begun k started hb := Nat.le_trans (h.begun k started hb) (Nat.add_le_add_right hle _)
  releasing := h.releasing

-- A process that gives its epoch up no longer relies on the key.
theorem of_releasing (h : ProcessInv cfg i t db p) (hrel : p.releasing = true) :
    ProcessInv cfg i t db' p := by
  rcases h.releasing hrel with ⟨l, hl, hcause⟩
  refine { h with claim := ?_, lease := ?_, renewal := ?_ }
  · intro started replies hc
    cases hl.symm.trans (h.unclaimed (by simp [hc]))
  · intro l' hl' hcause'
    cases hl.symm.trans hl'
    exact absurd hcause' hcause
  · intro l' k started hl' hcause' _
    cases hl.symm.trans hl'
    exact absurd hcause' hcause

variable {r r' : Renewal}

variable (h : ProcessInv cfg i t db p)

include h

theorem setRenewal (hl : p.lease = some l) (hconf : ∀ started, r.Confirmed started → l.cause = none →
      cfg.Backs i t db (started + epochTTLNanos))
    (hbegun : ∀ started, r.begun = some started → started ≤ (cfg.clocks i).clientAt t) :
    ProcessInv cfg i t db (p.setRenewal k r) := by
  refine { h with unleased := ?_, renewal := ?_, begun := ?_ }
  · intro hnone
    cases hl.symm.trans hnone
  · intro l' k' started hl' hcause hr
    cases hl.symm.trans hl'
    by_cases hk : k' = k
    · subst hk
      rw [EpochProcess.setRenewal_self] at hr
      exact hconf started hr hcause
    · rw [EpochProcess.setRenewal_of_ne _ _ hk] at hr
      exact h.renewal l k' started hl hcause hr
  · intro k' started hb
    by_cases hk : k' = k
    · subst hk
      rw [EpochProcess.setRenewal_self] at hb
      exact hbegun started hb
    · rw [EpochProcess.setRenewal_of_ne _ _ hk] at hb
      exact h.begun k' started hb

-- A process has a lease as soon as one of its renewals is under way.
theorem lease_of_renewal (hk : p.renewals k ≠ .idle) : ∃ l, p.lease = some l := by
  cases hl : p.lease with
  | none => exact absurd (h.unleased hl k) hk
  | some l => exact ⟨l, rfl⟩

/-- A renewal under way may come to a point that says no more of the store than the one before. -/
theorem moveRenewal (hk : p.renewals k = r) (hr : r ≠ .idle)
    (hconf : ∀ started, r'.Confirmed started → r.Confirmed started)
    (hbegun : ∀ started, r'.begun = some started → r.begun = some started) :
    ProcessInv cfg i t db (p.setRenewal k r') := by
  subst hk
  rcases h.lease_of_renewal hr with ⟨l, hl⟩
  exact h.setRenewal hl (fun started hst hcause => h.renewal l k started hl hcause (hconf started hst))
    fun started hst => h.begun k started (hbegun started hst)

theorem returnRenewal (hk : p.renewals k ≠ .idle) : ProcessInv cfg i t db (p.setRenewal k .returned) :=
  h.moveRenewal rfl hk (fun _ hst => hst.elim) fun _ hst => by cases hst

/-- A lease in use can be replaced by one that is cancelled or has a backed deadline. -/
theorem setLease (hl : p.lease = some l) {l' : EpochLease} (hcause : l'.cause = none → l.cause = none)
    (hdl : l'.cause = none → cfg.Backs i t db l'.deadline) :
    ProcessInv cfg i t db { p with lease := some l' } where
  claim := h.claim
  unclaimed hc := by cases hl.symm.trans (h.unclaimed hc)
  unleased hnone := by cases hnone
  lease l'' hl'' hcause' := by
    cases hl''
    exact hdl hcause'
  renewal l'' k started hl'' hcause' hr := by
    cases hl''
    exact h.renewal l k started hl (hcause hcause') hr
  begun := h.begun
  releasing hrel := by
    rcases h.releasing hrel with ⟨l₀, hl₀, hcause₀⟩
    cases hl.symm.trans hl₀
    exact ⟨l', rfl, fun hnone => hcause₀ (hcause hnone)⟩

theorem cancel (hl : p.lease = some l) (cause : Cause) :
    ProcessInv cfg i t db { p with lease := some (l.cancel cause) } :=
  h.setLease hl (fun hnone => absurd hnone (l.cancel_cause_ne_none cause))
    (fun hnone => absurd hnone (l.cancel_cause_ne_none cause))

end ProcessInv

/-! ## The invariant of the cluster -/

structure ClusterInv (cfg : EpochConfig ι) (s : Cluster ι) : Prop where
  process : ∀ i, ProcessInv cfg i s.t s.db (s.process i)
  entry : cfg.EntryBound s.t s.db

theorem ClusterInv.of_init (h : cfg.Init s) : ClusterInv cfg s where
  process i := by
    rw [h.1 i]
    constructor
    · intro started replies hc; cases hc
    · exact fun _ => rfl
    · exact fun _ _ => rfl
    · intro l hl; cases hl
    · intro l k started hl; cases hl
    · intro k started hb; cases hb
    · intro hrel; cases hrel
  entry i e hkey hvalue := absurd hvalue (h.2 i e hkey)

namespace ClusterInv

variable {p : EpochProcess} {db : Db} {started : Nat} {replies : List (Except CallError Unit)}

theorem set [DecidableEq ι] (h : ClusterInv cfg s) (hp : ProcessInv cfg i s.t s.db p) :
    ClusterInv cfg (s.set i p) where
  process j := by
    by_cases hj : j = i
    · subst hj
      rw [Cluster.set_process_self]
      exact hp
    · rw [Cluster.set_process_of_ne _ _ hj]
      exact h.process j
  entry := h.entry

theorem elsewhere (h : ClusterInv cfg s) (hsame : db cfg.key = s.db cfg.key) :
    ClusterInv cfg { s with db := db } where
  process j := (h.process j).mono (le_refl _) fun _ hd => Backed.of_key_eq hd hsame
  entry j e he := h.entry j e (by rw [← hsame]; exact he)

theorem write (h : ClusterInv cfg s)
    (hvisible : ∀ v, s.db.get (cfg.millis s) cfg.key = some v → v = cfg.epoch i)
    (hkey : db cfg.key = some ⟨cfg.epoch i, some (cfg.millis s + epochTTLMillis)⟩) :
    ClusterInv cfg { s with db := db } where
  process j := (h.process j).mono (le_refl _) fun _ hd => hd.of_write h.entry hvisible hkey
  entry := .of_write hkey (le_refl _)

theorem register (h : ClusterInv cfg s) (i : ι) : ClusterInv cfg { s with db := (cfg.register s i).2 } := by
  rcases register_write cfg s i with ⟨-, hsame⟩ | ⟨hfree, hkey⟩
  · exact h.elsewhere (by rw [hsame])
  · refine h.write (fun v hv => ?_) hkey
    cases hfree.symm.trans hv

theorem renew (h : ClusterInv cfg s) (i : ι) : ClusterInv cfg { s with db := (cfg.renew s i).2 } := by
  rcases renew_write cfg s i with ⟨-, hsame⟩ | ⟨hheld, hkey⟩
  · exact h.elsewhere (by rw [hsame])
  · refine h.write (fun v hv => ?_) hkey
    cases hheld.symm.trans hv
    rfl

theorem unregister [DecidableEq ι] (h : ClusterInv cfg s) (hrel : (s.process i).releasing = true) :
    ClusterInv cfg { s with db := (cfg.unregister s i).2 } := by
  rcases unregister_write cfg s i with hsame | ⟨hheld, hnone⟩
  · rw [hsame]
    exact h
  · refine ⟨fun j => ?_, fun j e he => ?_⟩
    · by_cases hj : j = i
      · subst hj
        exact (h.process j).of_releasing hrel
      · exact (h.process j).mono (le_refl _) fun d hd => hd.of_drop hj hheld
    · cases hnone.symm.trans he

theorem claimBegin [DecidableEq ι] (h : ClusterInv cfg s) (hidle : (s.process i).claim = .idle) :
    ClusterInv cfg (s.set i { s.process i with claim := .calling (cfg.now s i) [] }) := by
  have hp := h.process i
  refine h.set { hp with claim := ?_, unclaimed := ?_ }
  · intro started replies hc
    cases hc
    exact ⟨le_refl _, fun hmem => by cases hmem⟩
  · exact fun _ => hp.unclaimed (by simp [hidle])

theorem claimServed [DecidableEq ι] (h : ClusterInv cfg s)
    (hcall : (s.process i).claim = .calling started replies) :
    ClusterInv cfg ({ s with db := (cfg.register s i).2 }.set i
      { s.process i with claim := .calling started ((cfg.register s i).1 :: replies) }) := by
  have hp := (h.register i).process i
  have hclaim := hp.claim started replies hcall
  refine (h.register i).set { hp with claim := ?_, unclaimed := ?_ }
  · intro started' replies' hc
    cases hc
    refine ⟨hclaim.1, fun hmem => ?_⟩
    -- the confirmation is the one just produced, or an earlier one
    rcases List.mem_cons.mp hmem with hnew | hold
    · rcases register_write cfg s i with ⟨hne, -⟩ | ⟨-, hkey⟩
      · exact absurd hnew.symm hne
      · exact Backed.of_write hclaim.1 hkey
    · exact hclaim.2 hold
  · exact fun _ => hp.unclaimed (by simp [hcall])

theorem claimConfirmed [DecidableEq ι] (h : ClusterInv cfg s)
    (hcall : (s.process i).claim = .calling started replies) (hok : .ok () ∈ replies) :
    ClusterInv cfg (s.set i { s.process i with
      claim := .returned, lease := some ⟨started + epochTTLNanos, none⟩ }) := by
  have hp := h.process i
  have hnone : (s.process i).lease = none := hp.unclaimed (by simp [hcall])
  refine h.set { hp with
    claim := ?_, unclaimed := ?_, unleased := ?_, lease := ?_, renewal := ?_, releasing := ?_ }
  · intro _ _ hc; cases hc
  · exact fun hr => absurd rfl hr
  · intro hl; cases hl
  · intro l hl _
    cases hl
    exact (hp.claim started replies hcall).2 hok
  · intro l k st _ _ hr
    change ((s.process i).renewals k).Confirmed st at hr
    rw [hp.unleased hnone k] at hr
    exact hr.elim
  · intro hrel
    rcases hp.releasing hrel with ⟨l, hl, -⟩
    cases hnone.symm.trans hl

theorem renewServed [DecidableEq ι] (h : ClusterInv cfg s) {k limit : Nat}
    (hcall : (s.process i).renewals k = .calling started limit replies) :
    ClusterInv cfg ({ s with db := (cfg.renew s i).2 }.set i
      ((s.process i).setRenewal k (.calling started limit ((cfg.renew s i).1 :: replies)))) := by
  have hp := (h.renew i).process i
  rcases hp.lease_of_renewal (k := k) (by simp [hcall]) with ⟨l, hl⟩
  have hbegun := hp.begun k started (congrArg Renewal.begun hcall)
  refine (h.renew i).set (hp.setRenewal hl ?_ ?_)
  · rintro started' ⟨rfl, hmem⟩ hcause
    rcases List.mem_cons.mp hmem with hnew | hold
    · rcases renew_write cfg s i with ⟨hne, -⟩ | ⟨-, hkey⟩
      · exact absurd hnew.symm hne
      · exact Backed.of_write hbegun hkey
    · exact hp.renewal l k started hl hcause (by rw [hcall]; exact ⟨rfl, hold⟩)
  · intro started' hb
    cases hb
    exact hbegun

end ClusterInv

theorem ClusterInv.step [DecidableEq ι] {a : EpochAction ι} (h : ClusterInv cfg s)
    (hstep : EpochStep cfg s a s') : ClusterInv cfg s' := by
  cases hstep with
  | elapse ns =>
    have hle : s.t ≤ s.t + ns := Nat.le_add_right _ _
    exact ⟨fun j => (h.process j).mono hle fun d hd => Backed.later hd hle, h.entry.later hle⟩
  | evict key =>
    refine ⟨fun j => (h.process j).mono (le_refl _) fun d hd => Backed.evict hd key, ?_⟩
    intro j e he hval
    refine h.entry j e ?_ hval
    exact Db.evict_some he
  | elsewhere db hsame => exact h.elsewhere hsame
  | claimBegin i hidle => exact h.claimBegin hidle
  | claimServed i started replies hcall => exact h.claimServed hcall
  | claimServedLate i => exact h.register i
  | claimConfirmed i started replies hcall hok => exact h.claimConfirmed hcall hok
  | claimFailed i =>
    have hp := h.process i
    refine h.set { hp with claim := ?_, unclaimed := ?_ }
    · intro _ _ hc; cases hc
    · exact fun hr => absurd rfl hr
  | validCalled i l hl =>
    have hp := h.process i
    rcases l.valid_snd (cfg.now s i) with hsame | hcancel
    · rw [hsame]
      exact h.set (hp.setLease hl id (hp.lease l hl))
    · rw [hcancel]
      exact h.set (hp.cancel hl .expired)
  | cancelled i l cause hl => exact h.set ((h.process i).cancel hl cause)
  | renewChecked i k l hidle hl =>
    refine h.set ((h.process i).setRenewal hl ?_ ?_)
    · exact fun _ hr => hr.elim
    · intro _ hb; cases hb
  | renewStarted i k hchk =>
    rcases (h.process i).lease_of_renewal (k := k) (by simp [hchk]) with ⟨l, hl⟩
    refine h.set ((h.process i).setRenewal hl ?_ ?_)
    · exact fun _ hr => hr.elim
    · intro _ hb
      cases hb
      exact le_refl _
  | renewIssued i k started l hbegun hl =>
    refine h.set ((h.process i).moveRenewal hbegun (by simp) ?_ fun _ => id)
    rintro _ ⟨-, hmem⟩
    cases hmem
  | renewServed i k started limit replies hcall => exact h.renewServed hcall
  | renewServedLate i => exact h.renew i
  | renewReplied i k started limit replies hcall hok =>
    exact h.set ((h.process i).moveRenewal hcall (by simp) (fun _ hst => ⟨hst, hok⟩) fun _ => id)
  | renewRejected i k started limit replies err l hcall herr hlost hl =>
    exact h.set (((h.process i).returnRenewal (by simp [hcall])).cancel hl (.ownershipLost err))
  | renewFailed i k hunderWay =>
    refine h.set ((h.process i).returnRenewal fun hidle => ?_)
    rw [hidle] at hunderWay
    cases hunderWay
  | renewAccepted i k started l hreplied hl =>
    exact h.set ((h.process i).moveRenewal hreplied (by simp) (fun _ => id) fun _ => id)
  | renewStored i k started l hacc hl =>
    have hp := h.process i
    refine h.set ((hp.returnRenewal (by simp [hacc])).setLease hl id ?_)
    exact fun hcause => hp.renewal l k started hl hcause (by rw [hacc]; rfl)
  | releaseBegin i l hl =>
    have hcancel := (h.process i).cancel hl .canceled
    exact h.set { hcancel with releasing := fun _ => ⟨_, rfl, l.cancel_cause_ne_none _⟩ }
  | releaseServed i hrel => exact h.unregister hrel

def EpochConfig.Valid (cfg : EpochConfig ι) (s : Cluster ι) (i : ι) (l : EpochLease) : Prop :=
  (s.process i).lease = some l ∧ (l.valid (cfg.now s i)).1 = none

/-- Until the deadline of a valid lease the key holds its epoch. -/
theorem ClusterInv.find_of_valid (h : ClusterInv cfg s) (hval : cfg.Valid s i l) :
    ∃ expiry, s.db.find (cfg.millis s) cfg.key = some ⟨cfg.epoch i, some expiry⟩ ∧
      l.deadline + cfg.serverClock ≤ (expiry + 1) * nanosPerMilli + cfg.clientClock i := by
  rcases (l.valid_eq_none_iff _).mp hval.2 with ⟨hcause, hlt⟩
  exact Backed.find_of_lt ((h.process i).lease l hval.1 hcause) hlt

theorem ClusterInv.valid_unique (h : ClusterInv cfg s) {l' : EpochLease} (hi : cfg.Valid s i l)
    (hj : cfg.Valid s j l') : i = j := by
  rcases h.find_of_valid hi with ⟨x, hx, -⟩
  rcases h.find_of_valid hj with ⟨y, hy, -⟩
  rw [hx, Option.some.injEq, Entry.mk.injEq] at hy
  exact cfg.distinct hy.1

/-- In every reachable state a valid lease is the one whose epoch the key holds, and the key cannot
be gone at any instant before the lease's deadline; so no two leases are valid at once. -/
theorem epoch_mutual_exclusion [DecidableEq ι] (cfg : EpochConfig ι) (s : Cluster ι)
    (hreach : Reachable cfg.Init (EpochStep cfg) s) :
    (∀ i j l l', cfg.Valid s i l → cfg.Valid s j l' → i = j) ∧
      ∀ i l, cfg.Valid s i l →
        ∃ e, s.db.find (cfg.millis s) cfg.key = some e ∧ e.value = cfg.epoch i ∧
          ∀ t, e.live ((t + cfg.serverClock) / nanosPerMilli) = false →
            l.deadline ≤ t + cfg.clientClock i := by
  have hinv : ClusterInv cfg s :=
    hreach.invariant (fun _ => ClusterInv.of_init) fun _ _ _ hstep h => h.step hstep
  refine ⟨?_, ?_⟩
  · intro i j l l' hi hj
    exact hinv.valid_unique hi hj
  · intro i l hi
    rcases hinv.find_of_valid hi with ⟨expiry, hfind, hle⟩
    refine ⟨_, hfind, rfl, fun t hdead => ?_⟩
    rw [Db.live_some, decide_eq_false_iff_not] at hdead
    have hpast : (expiry + 1) * nanosPerMilli ≤ t + cfg.serverClock :=
      (Nat.le_div_iff_mul_le (by decide)).mp (by omega)
    omega

def pairConfig : EpochConfig Bool where
  serviceName := utf8 "game"
  nodeID := utf8 "n1"
  epoch b := if b then [1] else [2]
  distinct := by intro a b; cases a <;> cases b <;> simp
  clientClock b := if b then 7 else 0
  serverClock := 5
  decode := fun _ => none

def pairStart : Cluster Bool := ⟨0, fun _ => none, fun _ => ⟨.idle, none, fun _ => .idle, false⟩⟩

def pairCalling : Cluster Bool := pairStart.set true { pairStart.process true with claim := .calling 7 [] }

theorem pairCalling_registers : (pairConfig.register pairCalling true).1 = .ok () := by
  have hls : ValidEpochLease (utf8 "game") (utf8 "n1") [1] defaultNodeEpochTTL :=
    ⟨by decide, by decide, by decide, by decide⟩
  exact congrArg Prod.fst (registerNodeEpoch_eq pairCalling.db hls)

def pairServed : Cluster Bool :=
  { pairCalling with db := (pairConfig.register pairCalling true).2 }.set true
    { pairCalling.process true with claim := .calling 7 [.ok ()] }

def pairHeld : Cluster Bool :=
  pairServed.set true { pairServed.process true with
    claim := .returned, lease := some ⟨7 + epochTTLNanos, none⟩ }

theorem pairStart_init : pairConfig.Init pairStart := ⟨fun _ => rfl, fun _ _ he => by cases he⟩

theorem pairHeld_run : Run (EpochStep pairConfig) pairStart
    [.claimBegin true, .claimServed true, .claimConfirmed true] pairHeld := by
  have hbegin : EpochStep pairConfig pairStart (.claimBegin true) pairCalling :=
    .claimBegin pairStart true rfl
  have hsrv : EpochStep pairConfig pairCalling (.claimServed true) pairServed := by
    have hstep : EpochStep pairConfig pairCalling (.claimServed true) _ :=
      .claimServed pairCalling true 7 [] (congrArg EpochProcess.claim (Cluster.set_process_self ..))
    rwa [pairCalling_registers] at hstep
  have hconf : EpochStep pairConfig pairServed (.claimConfirmed true) pairHeld :=
    .claimConfirmed pairServed true 7 [.ok ()]
      (congrArg EpochProcess.claim (Cluster.set_process_self ..)) (by simp)
  exact .cons hbegin (.cons hsrv (.single hconf))

theorem pairHeld_valid : pairConfig.Valid pairHeld true ⟨7 + epochTTLNanos, none⟩ :=
  ⟨congrArg EpochProcess.lease (Cluster.set_process_self ..),
    (EpochLease.valid_eq_none_iff _ _).mpr ⟨rfl, by decide⟩⟩

/-- One of the two claims the id and holds the valid lease. -/
theorem epoch_mutual_exclusion_claimed :
    pairConfig.Valid pairHeld true ⟨7 + epochTTLNanos, none⟩ ∧ (∀ l, ¬ pairConfig.Valid pairHeld false l) ∧
      ∃ e, pairHeld.db.find (pairConfig.millis pairHeld) pairConfig.key = some e ∧ e.value = [1] := by
  have hexcl := epoch_mutual_exclusion pairConfig pairHeld ⟨_, _, pairStart_init, pairHeld_run⟩
  have hval := pairHeld_valid
  refine ⟨hval, fun l hl => ?_, ?_⟩
  · exact absurd (hexcl.1 _ _ _ _ hval hl) (by decide)
  · rcases hexcl.2 _ _ hval with ⟨e, hfind, hvalue, -⟩
    exact ⟨e, hfind, hvalue⟩

end Yola.Node
