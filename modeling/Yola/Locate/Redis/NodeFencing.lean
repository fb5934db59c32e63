import Yola.Locate.Redis.Node
import Yola.Reasoning.Runs

/-!
# Fencing of node processes

Any number of processes call the locator in any order while time passes and keys expire.  A call of a
process whose epoch is not the registered one finds every guard closed, and nothing but a
registration on a free id ever makes an epoch the registered one.
-/

namespace Yola.Locate.Redis

open Text Yola.Redis Reasoning

inductive NodeCall where
  | registerNodeEpoch (serviceName nodeID epoch : Bytes) (ttl : Duration)
  | renewNodeEpoch (serviceName nodeID epoch : Bytes) (ttl : Duration)
  | unregisterNodeEpoch (serviceName nodeID epoch : Bytes)
  | bindNode (serviceName uid nodeID epoch : Bytes)
  | renewNode (serviceName uid nodeID epoch : Bytes)
  | unbindNode (serviceName uid nodeID epoch : Bytes)

structure NodeProcess where
  serviceName : Bytes
  nodeID : Bytes
  epoch : Bytes

namespace NodeCall

def process : NodeCall → NodeProcess
  | registerNodeEpoch s n e _ | renewNodeEpoch s n e _ | unregisterNodeEpoch s n e
  | bindNode s _ n e | renewNode s _ n e | unbindNode s _ n e => ⟨s, n, e⟩

/-- The calls that write a user's binding. -/
def writesBinding : NodeCall → Bool
  | bindNode .. | renewNode .. | unbindNode .. => true
  | _ => false

def invoke (decode : Decode) (now : Nat) : NodeCall → Call Unit
  | registerNodeEpoch s n e ttl => Redis.registerNodeEpoch now s n e ttl
  | renewNodeEpoch s n e ttl => Redis.renewNodeEpoch decode now s n e ttl
  | unregisterNodeEpoch s n e => Redis.unregisterNodeEpoch decode now s n e
  | bindNode s u n e => Redis.bindNode decode now s u n e
  | renewNode s u n e => Redis.renewNode decode now s u n e
  | unbindNode s u n e => Redis.unbindNode decode now s u n e

end NodeCall

/-- Everything a call can do: the guards it passed, its result and the database it leaves. -/
inductive NodeEffect (now : Nat) (db : Db) : NodeCall → Except CallError Unit → Db → Prop where
  | refused (c err) : NodeEffect now db c (.error err) db
  | unregisterIdle (s n e) : NodeEffect now db (.unregisterNodeEpoch s n e) (.ok ()) db
  | unbindIdle (s u n e) (epoch : db.get now (nodeEpochKey s n) = some e) :
      NodeEffect now db (.unbindNode s u n e) (.ok ()) db
  | registered (s n e) (ttl : Duration) (free : db.get now (nodeEpochKey s n) = none) :
      NodeEffect now db (.registerNodeEpoch s n e ttl) (.ok ())
        (db.psetex now (nodeEpochKey s n) ttl.milliseconds.toNat e)
  | epochRenewed (s n e) (ttl : Duration)
      (epoch : db.get now (nodeEpochKey s n) = some e) :
      NodeEffect now db (.renewNodeEpoch s n e ttl) (.ok ())
        (db.pexpire now (nodeEpochKey s n) ttl.milliseconds.toNat).2
  | unregistered (s n e) (epoch : db.get now (nodeEpochKey s n) = some e) :
      NodeEffect now db (.unregisterNodeEpoch s n e) (.ok ()) (db.del now (nodeEpochKey s n)).2
  | bound (s u n e) (epoch : db.get now (nodeEpochKey s n) = some e) :
      NodeEffect now db (.bindNode s u n e) (.ok ()) (db.psetex now (nodeKey s u) nodeBindingMillis n)
  | renewed (s u n e) (epoch : db.get now (nodeEpochKey s n) = some e)
      (binding : db.get now (nodeKey s u) = some n) :
      NodeEffect now db (.renewNode s u n e) (.ok ()) (db.pexpire now (nodeKey s u) nodeBindingMillis).2
  | unbound (s u n e) (epoch : db.get now (nodeEpochKey s n) = some e)
      (binding : db.get now (nodeKey s u) = some n) :
      NodeEffect now db (.unbindNode s u n e) (.ok ()) (db.del now (nodeKey s u)).2

section Effects

variable (decode : Decode) (now : Nat) (db : Db)

theorem registerNodeEpoch_effect (s n e : Bytes) (ttl : Duration) :
    NodeEffect now db (.registerNodeEpoch s n e ttl) (registerNodeEpoch now s n e ttl db).1
      (registerNodeEpoch now s n e ttl db).2 := by
  by_cases h : ValidEpochLease s n e ttl
  · rw [registerNodeEpoch_eq db h]
    cases hget : db.get now (nodeEpochKey s n) with
    | none => exact .registered s n e ttl hget
    | some => exact .refused _ _
  · rw [registerNodeEpoch, nodeEpochLeaseMilliseconds_error h]
    exact .refused _ _

theorem renewNodeEpoch_effect (s n e : Bytes) (ttl : Duration) :
    NodeEffect now db (.renewNodeEpoch s n e ttl) (renewNodeEpoch decode now s n e ttl db).1
      (renewNodeEpoch decode now s n e ttl db).2 := by
  by_cases h : ValidEpochLease s n e ttl
  · rw [renewNodeEpoch_eq db h]
    by_cases hget : db.get now (nodeEpochKey s n) = some e
    · rw [fence_pass hget]
      exact .epochRenewed s n e ttl hget
    · rcases fence_stop hget _ _ _ with hstop | hstop <;> rw [hstop] <;> exact .refused _ _
  · rw [renewNodeEpoch, nodeEpochLeaseMilliseconds_error h]
    exact .refused _ _

theorem unregisterNodeEpoch_effect (s n e : Bytes) :
    NodeEffect now db (.unregisterNodeEpoch s n e) (unregisterNodeEpoch decode now s n e db).1
      (unregisterNodeEpoch decode now s n e db).2 := by
  by_cases h : validServiceName s = true ∧ n ≠ [] ∧ e ≠ []
  · rw [unregisterNodeEpoch_eq db h.1 h.2.1 h.2.2]
    by_cases hget : db.get now (nodeEpochKey s n) = some e
    · rw [fence_pass hget]
      exact .unregistered s n e hget
    · rcases fence_stop hget _ _ _ with hstop | hstop <;> rw [hstop] <;> exact .unregisterIdle s n e
  · rw [unregisterNodeEpoch, if_pos]
    · exact .refused _ _
    · by_contra hcon
      exact h (by simpa [and_assoc] using hcon)

-- The three binding calls check the same arguments before they run their script.
theorem bindNode_effect (s u n e : Bytes) :
    NodeEffect now db (.bindNode s u n e) (bindNode decode now s u n e db).1
      (bindNode decode now s u n e db).2 := by
  by_cases hloc : validNodeLocation s u n = true
  · by_cases he : e = []
    · rw [bindNode, hloc, if_neg (by decide), if_pos he]
      exact .refused _ _
    · rw [bindNode_eq db hloc he]
      by_cases hget : db.get now (nodeEpochKey s n) = some e
      · rw [fence_pass hget]
        exact .bound s u n e hget
      · rcases fence_stop hget _ _ _ with hstop | hstop <;> rw [hstop] <;> exact .refused _ _
  · rw [bindNode, if_pos (by simp [hloc])]
    exact .refused _ _

theorem renewNode_effect (s u n e : Bytes) :
    NodeEffect now db (.renewNode s u n e) (renewNode decode now s u n e db).1
      (renewNode decode now s u n e db).2 := by
  by_cases hloc : validNodeLocation s u n = true
  · by_cases he : e = []
    · rw [renewNode, hloc, if_neg (by decide), if_pos he]
      exact .refused _ _
    · rw [renewNode_eq db hloc he]
      by_cases hget : db.get now (nodeEpochKey s n) = some e
      · rw [fence_pass hget]
        by_cases hcur : db.get now (nodeKey s u) = some n
        · rw [fence_pass hcur]
          exact .renewed s u n e hget hcur
        · rcases fence_stop hcur _ _ _ with hstop | hstop <;> rw [hstop] <;> exact .refused _ _
      · rcases fence_stop hget _ _ _ with hstop | hstop <;> rw [hstop] <;> exact .refused _ _
  · rw [renewNode, if_pos (by simp [hloc])]
    exact .refused _ _

theorem unbindNode_effect (s u n e : Bytes) :
    NodeEffect now db (.unbindNode s u n e) (unbindNode decode now s u n e db).1
      (unbindNode decode now s u n e db).2 := by
  by_cases hloc : validNodeLocation s u n = true
  · by_cases he : e = []
    · rw [unbindNode, hloc, if_neg (by decide), if_pos he]
      exact .refused _ _
    · rw [unbindNode_eq db hloc he]
      by_cases hget : db.get now (nodeEpochKey s n) = some e
      · rw [fence_pass hget]
        by_cases hcur : db.get now (nodeKey s u) = some n
        · rw [if_pos hcur]
          exact .unbound s u n e hget hcur
        · rw [if_neg hcur]
          exact .unbindIdle s u n e hget
      · rcases fence_stop hget _ _ _ with hstop | hstop <;> rw [hstop] <;> exact .refused _ _
  · rw [unbindNode, if_pos (by simp [hloc])]
    exact .refused _ _

theorem invoke_effect (c : NodeCall) :
    NodeEffect now db c (c.invoke decode now db).1 (c.invoke decode now db).2 := by
  cases c with
  | registerNodeEpoch s n e ttl => exact registerNodeEpoch_effect now db s n e ttl
  | renewNodeEpoch s n e ttl => exact renewNodeEpoch_effect decode now db s n e ttl
  | unregisterNodeEpoch s n e => exact unregisterNodeEpoch_effect decode now db s n e
  | bindNode s u n e => exact bindNode_effect decode now db s u n e
  | renewNode s u n e => exact renewNode_effect decode now db s u n e
  | unbindNode s u n e => exact unbindNode_effect decode now db s u n e

end Effects

/-! ## Runs -/

/-- The epoch registered for a node id. -/
def Store.registered (st : Store) (serviceName nodeID : Bytes) : Option Bytes :=
  st.db.get st.now (nodeEpochKey serviceName nodeID)

inductive NodeEvent where
  | call (c : NodeCall)
  | elapse (ms : Nat)
  | evict (key : Bytes)

def NodeEvent.step (decode : Decode) (st : Store) (ev : NodeEvent) (st' : Store) : Prop :=
  match ev with
  | call c => st' = { st with db := (c.invoke decode st.now st.db).2 }
  | elapse ms => st' = { st with now := st.now + ms }
  | evict key => st' = { st with db := st.db.evict st.now key }

def Reclaims (decode : Decode) (p : NodeProcess) (st : Store) (events : List NodeEvent) : Prop :=
  ∃ pre ttl post mid,
    events = pre ++ .call (.registerNodeEpoch p.serviceName p.nodeID p.epoch ttl) :: post ∧
      Run (NodeEvent.step decode) st pre mid ∧ mid.registered p.serviceName p.nodeID = none

section Runs

variable {decode : Decode} {st st' : Store} {p : NodeProcess} {ev : NodeEvent} {now : Nat} {db : Db}
  {c : NodeCall} {n : Bytes}

/-- Only a registration on a free id gives a node id an epoch it did not have. -/
theorem epoch_of_effect {db' : Db} {r : Except CallError Unit}
    {s v : Bytes} (heff : NodeEffect now db c r db') (hget : db'.get now (nodeEpochKey s n) = some v) :
    db.get now (nodeEpochKey s n) = some v ∨
      (∃ ttl, c = .registerNodeEpoch s n v ttl) ∧ db.get now (nodeEpochKey s n) = none := by
  have hkey : ∀ s' u', nodeEpochKey s n ≠ nodeKey s' u' := fun s' u' =>
    (nodeKey_ne_nodeEpochKey s' u' s n).symm
  cases heff with
  | refused | unregisterIdle | unbindIdle => exact Or.inl hget
  | epochRenewed | renewed => exact Or.inl (by rwa [Db.get_pexpire] at hget)
  | bound s' u' => exact Or.inl (by rwa [Db.psetex, Db.get_put_of_ne _ (hkey s' u')] at hget)
  | unbound s' u' n' e' _ hbind =>
    rcases Db.get_eq_some.mp hbind with ⟨entry, hfind, -⟩
    rw [Db.del_of_find hfind, Db.get_put_of_ne _ (hkey s' u')] at hget
    exact Or.inl hget
  | unregistered s' n' e' hep =>
    rcases Db.get_eq_some.mp hep with ⟨entry, hfind, -⟩
    rw [Db.del_of_find hfind] at hget
    by_cases hk : nodeEpochKey s n = nodeEpochKey s' n'
    · rw [hk, Db.get_put_none] at hget
      cases hget
    · rw [Db.get_put_of_ne _ hk] at hget
      exact Or.inl hget
  | registered s' n' e' ttl hfree =>
    by_cases hk : nodeEpochKey s n = nodeEpochKey s' n'
    · rcases nodeLocationKey_inj hk with ⟨rfl, rfl⟩
      have hv := Db.get_put_some hget
      exact Or.inr ⟨⟨ttl, by rw [hv]⟩, hfree⟩
    · rw [Db.psetex, Db.get_put_of_ne _ hk] at hget
      exact Or.inl hget

theorem registered_of_step (hstep : NodeEvent.step decode st ev st')
    (h : st'.registered p.serviceName p.nodeID = some p.epoch) :
    st.registered p.serviceName p.nodeID = some p.epoch ∨
      (∃ ttl, ev = .call (.registerNodeEpoch p.serviceName p.nodeID p.epoch ttl)) ∧
        st.registered p.serviceName p.nodeID = none := by
  cases ev with
  | call c =>
    subst hstep
    rcases epoch_of_effect (invoke_effect decode st.now st.db c) h with hold | ⟨⟨ttl, hc⟩, hfree⟩
    · exact Or.inl hold
    · exact Or.inr ⟨⟨ttl, by rw [hc]⟩, hfree⟩
  | elapse ms =>
    subst hstep
    exact Or.inl (Db.get_mono (Nat.le_add_right st.now ms) h)
  | evict =>
    subst hstep
    refine Or.inl ?_
    rwa [Store.registered, Db.get, Db.find_evict (le_refl _)] at h

/-- A process that is not registered and never registers on a free id is not registered at the end
of the run either. -/
theorem not_registered_of_run {events : List NodeEvent} (hrun : Run (NodeEvent.step decode) st events st')
    (hst : st.registered p.serviceName p.nodeID ≠ some p.epoch)
    (hno : ¬ Reclaims decode p st events) :
    st'.registered p.serviceName p.nodeID ≠ some p.epoch := by
  induction hrun with
  | nil => exact hst
  | @cons s t u l ls first rest ih =>
    apply ih
    · intro ht
      rcases registered_of_step first ht with hold | ⟨⟨ttl, hl⟩, hfree⟩
      · exact hst hold
      · exact hno ⟨[], ttl, ls, s, by rw [hl]; rfl, .nil s, hfree⟩
    · rintro ⟨pre, ttl, post, mid, hsplit, hpre, hfree⟩
      exact hno ⟨l :: pre, ttl, post, mid, by rw [hsplit]; rfl, .cons first hpre, hfree⟩

variable (decode)

/-- A call for a process that is not the registered one writes nothing, unless it registers on a free
id; only the idempotent unregistration reports success. -/
theorem stale_call (hstale : db.get now (nodeEpochKey c.process.serviceName c.process.nodeID) ≠
      some c.process.epoch)
    (hheld : ∀ s n e ttl, c = .registerNodeEpoch s n e ttl → db.get now (nodeEpochKey s n) ≠ none) :
    (c.invoke decode now db).2 = db ∧
      ((∃ err, (c.invoke decode now db).1 = .error err) ∨ ∃ s n e, c = .unregisterNodeEpoch s n e) := by
  have heff := invoke_effect decode now db c
  generalize (c.invoke decode now db).1 = r at heff ⊢
  generalize (c.invoke decode now db).2 = db' at heff ⊢
  cases heff with
  | refused _ err => exact ⟨rfl, Or.inl ⟨err, rfl⟩⟩
  | unregisterIdle s n e => exact ⟨rfl, Or.inr ⟨s, n, e, rfl⟩⟩
  | registered s n e ttl hfree => exact absurd hfree (hheld s n e ttl rfl)
  | unbindIdle s u n e hep | epochRenewed s n e ttl hep | unregistered s n e hep
  | bound s u n e hep | renewed s u n e hep | unbound s u n e hep =>
    exact absurd hep hstale

theorem renewNode_get (now : Nat) (db : Db) (s u n e key : Bytes) :
    (renewNode decode now s u n e db).2.get now key = db.get now key := by
  have heff := renewNode_effect decode now db s u n e
  generalize (renewNode decode now s u n e db).1 = r at heff
  generalize (renewNode decode now s u n e db).2 = db' at heff ⊢
  cases heff with
  | refused => rfl
  | renewed => exact Db.get_pexpire

theorem unbindNode_changes {s u e key : Bytes} (h : (unbindNode decode now s u n e db).2 key ≠ db key) :
    key = nodeKey s u ∧ db.get now key = some n ∧ (unbindNode decode now s u n e db).2 key = none := by
  have heff := unbindNode_effect decode now db s u n e
  generalize (unbindNode decode now s u n e db).1 = r at heff
  generalize (unbindNode decode now s u n e db).2 = db' at heff h ⊢
  cases heff with
  | refused | unbindIdle => exact absurd rfl h
  | unbound _ _ _ _ _ hbind =>
    rcases Db.get_eq_some.mp hbind with ⟨entry, hfind, -⟩
    rw [Db.del_of_find hfind] at h ⊢
    by_cases hk : key = nodeKey s u
    · subst hk
      exact ⟨rfl, hbind, Db.put_self _⟩
    · exact absurd (Db.put_of_ne _ hk) h

end Runs

/-- Node fencing.  Calls with an epoch other than the registered one change nothing and do not
succeed; renewing moves no binding; unbinding removes only the caller's own; and once another epoch
has taken a node id over, no call of the old process has an effect, whatever happens in between,
unless it registers anew on an id that has become free. -/
theorem node_binding_fencing (decode : Decode) :
    (∀ (now : Nat) (db : Db) (c : NodeCall), c.writesBinding = true →
      db.get now (nodeEpochKey c.process.serviceName c.process.nodeID) ≠ some c.process.epoch →
        (c.invoke decode now db).2 = db ∧ ∃ err, (c.invoke decode now db).1 = .error err) ∧
    (∀ (now later : Nat) (db : Db) (s u n e key v : Bytes), now ≤ later →
      (renewNode decode now s u n e db).2.get now key = db.get now key ∧
        ((renewNode decode now s u n e db).2.get later key = some v → db.get now key = some v)) ∧
    (∀ (now : Nat) (db : Db) (s u n e key : Bytes),
      (unbindNode decode now s u n e db).2 key ≠ db key →
        key = nodeKey s u ∧ db.get now key = some n ∧ (unbindNode decode now s u n e db).2 key = none) ∧
    (∀ (now : Nat) (db : Db) (s n e : Bytes), db.get now (nodeEpochKey s n) ≠ some e →
      (unregisterNodeEpoch decode now s n e db).2 = db) ∧
    (∀ (p : NodeProcess) (newEpoch : Bytes) (st mid : Store) (events : List NodeEvent)
      (c : NodeCall), st.registered p.serviceName p.nodeID = some newEpoch → newEpoch ≠ p.epoch →
      Run (NodeEvent.step decode) st events mid → c.process = p →
      ¬ Reclaims decode p st (events ++ [.call c]) →
        (c.invoke decode mid.now mid.db).2 = mid.db ∧
          ((∃ err, (c.invoke decode mid.now mid.db).1 = .error err) ∨
            ∃ s n e, c = .unregisterNodeEpoch s n e)) := by
  refine ⟨?_, ?_, ?_, ?_, ?_⟩
  · intro now db c hwrites hstale
    have hcall := stale_call decode hstale (fun s n e ttl hc => by rw [hc] at hwrites; cases hwrites)
    refine ⟨hcall.1, hcall.2.resolve_right ?_⟩
    rintro ⟨s, n, e, rfl⟩
    cases hwrites
  · intro now later db s u n e key v hle
    refine ⟨renewNode_get decode now db s u n e key, fun hlater => ?_⟩
    rw [← renewNode_get decode now db s u n e key]
    exact Db.get_mono hle hlater
  · intro now db s u n e key h
    exact unbindNode_changes decode h
  · intro now db s n e hstale
    exact (stale_call decode (c := .unregisterNodeEpoch s n e) hstale (fun _ _ _ _ hc => by cases hc)).1
  · intro p newEpoch st mid events c hnew hne hrun hc hno
    have hmid : mid.registered p.serviceName p.nodeID ≠ some p.epoch := by
      apply not_registered_of_run hrun
      · rw [hnew]
        exact fun heq => hne (Option.some.inj heq)
      · rintro ⟨pre, ttl, post, m, hsplit, hpre, hfree⟩
        exact hno ⟨pre, ttl, post ++ [.call c], m, by rw [hsplit]; simp, hpre, hfree⟩
    subst hc
    apply stale_call decode hmid
    rintro s n e ttl rfl hfree
    exact hno ⟨events, ttl, [], mid, rfl, hrun, hfree⟩

def takenOver : Db :=
  Db.psetex (Db.psetex (fun _ => none) 0 (nodeEpochKey (utf8 "game") (utf8 "n1")) 30000 (utf8 "new"))
    0 (nodeKey (utf8 "game") (utf8 "u1")) nodeBindingMillis (utf8 "n1")

theorem takenOver_epoch :
    takenOver.get 0 (nodeEpochKey (utf8 "game") (utf8 "n1")) = some (utf8 "new") := by
  have hkey := (nodeKey_ne_nodeEpochKey (utf8 "game") (utf8 "u1") (utf8 "game") (utf8 "n1")).symm
  rw [takenOver, Db.psetex, Db.get_put_of_ne _ hkey, Db.get, Db.find_psetex_self]
  rfl

theorem takenOver_stale :
    takenOver.get 0 (nodeEpochKey (utf8 "game") (utf8 "n1")) ≠ some (utf8 "old") := by
  rw [takenOver_epoch]
  decide

theorem takenOver_unbind :
    (unbindNode (fun _ => none) 0 (utf8 "game") (utf8 "u1") (utf8 "n1") (utf8 "new") takenOver).2
      (nodeKey (utf8 "game") (utf8 "u1")) ≠ takenOver (nodeKey (utf8 "game") (utf8 "u1")) := by
  have hfind : takenOver.find 0 (nodeKey (utf8 "game") (utf8 "u1")) = some ⟨utf8 "n1", _⟩ :=
    Db.find_psetex_self
  rw [unbindNode_eq takenOver (by decide) (by decide), fence_pass takenOver_epoch,
    if_pos (Db.get_eq_some.mpr ⟨_, hfind, rfl⟩), Db.del_of_find hfind,
    (Db.find_some_iff.mp hfind).1]
  simp only [Db.put_self]
  exact (Option.some_ne_none _).symm

theorem node_binding_fencing_takenOver :
    ((bindNode (fun _ => none) 0 (utf8 "game") (utf8 "u1") (utf8 "n1") (utf8 "old") takenOver).2 =
        takenOver) ∧
      ((renewNode (fun _ => none) 0 (utf8 "game") (utf8 "u1") (utf8 "n1") (utf8 "new") takenOver).2.get
        0 (nodeKey (utf8 "game") (utf8 "u1")) =
          takenOver.get 0 (nodeKey (utf8 "game") (utf8 "u1"))) ∧
      takenOver.get 0 (nodeKey (utf8 "game") (utf8 "u1")) = some (utf8 "n1") ∧
      (unregisterNodeEpoch (fun _ => none) 0 (utf8 "game") (utf8 "n1") (utf8 "old") takenOver).2 =
        takenOver ∧
      (renewNodeEpoch (fun _ => none) 0 (utf8 "game") (utf8 "n1") (utf8 "old")
        (.wrap Duration.second) takenOver).2 = takenOver := by
  have hfence := node_binding_fencing (fun _ => none)
  refine ⟨?_, ?_, ?_, ?_, ?_⟩
  · exact (hfence.1 0 takenOver (.bindNode (utf8 "game") (utf8 "u1") (utf8 "n1") (utf8 "old")) rfl
      takenOver_stale).1
  · exact (hfence.2.1 0 0 takenOver _ _ _ _ _ [] (le_refl 0)).1
  · exact (hfence.2.2.1 0 takenOver _ _ _ _ _ takenOver_unbind).2.1
  · exact hfence.2.2.2.1 0 takenOver _ _ _ takenOver_stale
  · refine (hfence.2.2.2.2 ⟨utf8 "game", utf8 "n1", utf8 "old"⟩ (utf8 "new") ⟨0, takenOver⟩
      ⟨0, takenOver⟩ [] (.renewNodeEpoch (utf8 "game") (utf8 "n1") (utf8 "old")
        (.wrap Duration.second)) takenOver_epoch (by decide) (.nil _) rfl ?_).1
    rintro ⟨pre, ttl, post, mid, hsplit, -, -⟩
    cases pre with
    | nil => cases hsplit
    | cons _ pre => cases pre <;> cases hsplit

end Yola.Locate.Redis
