import Yola.Locate.Redis.GateTakeover
import Yola.Reasoning.Runs

/-!
# Fencing of gate bindings

From a successful bind on, as long as nobody binds the user again, nobody unbinds this very binding
and its lease does not run out, the key holds this binding: late calls of other connections compare
their own encoding with it and change nothing.  The bind script is read with its block closed.
-/

namespace Yola.Locate.Redis

open Text Yola.Redis Reasoning

inductive GateCall where
  | bindGate (candidate : GateBinding) (ttl : Duration)
  | locateGate (serviceName uid : Bytes)
  | renewGateLease (expected : GateBinding) (ttl : Duration)
  | unbindGate (expected : GateBinding)

/-- The database a call leaves. -/
def GateCall.apply (decode : Decode) (now : Nat) (db : Db) : GateCall → Db
  | bindGate c ttl => (closedBindGate decode now c ttl db).2
  | locateGate s u => (Redis.locateGate decode now s u db).2
  | renewGateLease b ttl => (Redis.renewGateLease decode now b ttl db).2
  | unbindGate b => (Redis.unbindGate decode now b db).2

def GateCall.Utf8 : GateCall → Prop
  | bindGate c _ => Utf8Binding c
  | renewGateLease b _ | unbindGate b => Utf8Binding b
  | locateGate _ _ => True

inductive GateEvent where
  | call (c : GateCall)
  | elapse (ms : Nat)
  | evict (key : Bytes)

def GateEvent.Utf8 : GateEvent → Prop
  | call c => c.Utf8
  | _ => True

def GateEvent.step (decode : Decode) (st : Store) (ev : GateEvent) (st' : Store) : Prop :=
  match ev with
  | call c => st' = { st with db := c.apply decode st.now st.db }
  | elapse ms => st' = { st with now := st.now + ms }
  | evict key => st' = { st with db := st.db.evict st.now key }

def LeaseOver (st : Store) (key : Bytes) : Prop :=
  ∃ e expiry, st.db key = some e ∧ e.expireAt = some expiry ∧ expiry ≤ st.now

/-- The event is a successful bind for the user of `c`, or an unbind of `c` itself. -/
def Supersedes (decode : Decode) (c : GateBinding) (st : Store) : GateEvent → Prop
  | .call (.bindGate b ttl) =>
      b.serviceName = c.serviceName ∧ b.uid = c.uid ∧
        ∃ r, (closedBindGate decode st.now b ttl st.db).1 = .ok r
  | .call (.unbindGate b) => b = c
  | _ => False

def Undisturbed (decode : Decode) (c : GateBinding) (st : Store) (ev : GateEvent) (st' : Store) :
    Prop :=
  GateEvent.step decode st ev st' ∧ ¬ Supersedes decode c st ev ∧ ¬ LeaseOver st' (bindingKey c)

def Bound (c : GateBinding) (st : Store) : Prop :=
  ∃ expiry, st.db (bindingKey c) = some ⟨marshalBinding c, some expiry⟩ ∧ st.now < expiry ∧
    (expiry : Int) ≤ st.now + maxTTLMillis

section Steps

variable {decode : Decode} {c b : GateBinding} {st st' : Store} {ttl : Duration}

theorem Bound.view (h : Bound c st) :
    ∃ expiry, gateView st.db st.now (bindingKey c) = .held (marshalBinding c) (expiry - st.now) ∧
      st.now < expiry ∧ (expiry : Int) ≤ st.now + maxTTLMillis := by
  rcases h with ⟨expiry, hkey, hlt, hmax⟩
  refine ⟨expiry, gateView_held_iff.mpr ⟨expiry, Db.find_some_iff.mpr ⟨hkey, ?_⟩, hlt, rfl⟩, hlt, hmax⟩
  rw [Db.live_some, decide_eq_true_eq]
  omega

theorem Bound.of_key_eq (h : Bound c st) {db : Db} (hdb : db (bindingKey c) = st.db (bindingKey c)) :
    Bound c { st with db := db } := by
  rcases h with ⟨expiry, hkey, hlt, hmax⟩
  exact ⟨expiry, hdb.trans hkey, hlt, hmax⟩

-- A write of `c` with a lease the code accepts.
theorem Bound.of_write {db : Db} {ms : Nat} (hms : LeaseMillis ttl ms)
    (hkey : db (bindingKey c) = some ⟨marshalBinding c, some (st.now + (ms + 1))⟩) :
    Bound c { st with db := db } := by
  have hmax := leaseMillis_le_max hms
  exact ⟨_, hkey, by change st.now < _; omega, by push_cast at hmax ⊢; omega⟩

-- Keys of valid bindings tell users apart.
theorem same_user (hb : validGateBinding b = true) (hc : validGateBinding c = true)
    (hkey : bindingKey b = bindingKey c) : b.serviceName = c.serviceName ∧ b.uid = c.uid :=
  gateKey_inj (validGateBinding_iff.mp hb).2.1 (validGateBinding_iff.mp hc).2.1 hkey

theorem bindGate_keeps (hc : validGateBinding c = true) (h : Bound c st)
    (hno : ¬ Supersedes decode c st (.call (.bindGate b ttl))) :
    Bound c { st with db := (closedBindGate decode st.now b ttl st.db).2 } := by
  apply h.of_key_eq
  rcases closedBindGate_effect decode st.now st.db b ttl with
    ⟨-, hdb⟩ | ⟨hb, ms, hms, hdb, hres⟩
  · rw [hdb]
  · rw [hdb]
    by_cases hkey : bindingKey b = bindingKey c
    · -- the same user: a write would mean success, because `c` decodes
      rcases same_user hb hc hkey with ⟨hs, hu⟩
      exfalso
      rcases hres with ⟨previous, hok⟩ | ⟨e, current, left, -, hview, herr⟩
      · exact hno ⟨hs, hu, _, hok⟩
      · rcases h.view with ⟨expiry, hview', -, -⟩
        rw [hkey, hview', GateView.held.injEq] at hview
        rw [← hview.1, hs, hu, decodeBinding_marshal hc] at herr
        cases herr
    · exact Db.put_of_ne _ (Ne.symm hkey)

theorem renewGateLease_keeps (h : Bound c st) :
    Bound c { st with db := (renewGateLease decode st.now b ttl st.db).2 } := by
  rcases renewGateLease_effect decode st.now st.db b ttl with
    ⟨-, hdb⟩ | ⟨-, ms, left, hms, hview, heq⟩
  · exact h.of_key_eq (by rw [hdb])
  · rw [heq]
    rcases gateView_held_iff.mp hview with ⟨expiry, hfind, -, -⟩
    rw [Db.pexpire_of_find hfind]
    by_cases hkey : bindingKey b = bindingKey c
    · rcases h with ⟨expiry', hent, -, -⟩
      rw [hkey, Db.find_some_iff, hent, Option.some.injEq, Entry.mk.injEq] at hfind
      rw [hkey, ← hfind.1.1]
      exact Bound.of_write hms (Db.put_self _)
    · exact h.of_key_eq (Db.put_of_ne _ (Ne.symm hkey))

theorem unbindGate_keeps (hc : Utf8Binding c) (hb : Utf8Binding b) (h : Bound c st)
    (hne : b ≠ c) : Bound c { st with db := (unbindGate decode st.now b st.db).2 } := by
  apply h.of_key_eq
  rcases unbindGate_effect decode st.now st.db b with hdb | ⟨-, left, hview, heq⟩
  · rw [hdb]
  · rw [heq]
    rcases gateView_held_iff.mp hview with ⟨expiry, hfind, -, -⟩
    rw [Db.del_of_find hfind]
    by_cases hkey : bindingKey b = bindingKey c
    · -- the same string would be the same binding
      rcases h with ⟨expiry', hent, -, -⟩
      rw [hkey, Db.find_some_iff, hent, Option.some.injEq, Entry.mk.injEq] at hfind
      exact absurd (marshalBinding_inj hb hc hfind.1.1.symm) hne
    · exact Db.put_of_ne _ (Ne.symm hkey)

theorem Bound.step {ev : GateEvent} (hc : validGateBinding c = true) (hutf8 : Utf8Binding c)
    (hev : ev.Utf8) (hstep : Undisturbed decode c st ev st') (h : Bound c st) : Bound c st' := by
  rcases hstep with ⟨hstep, hno, hls⟩
  cases ev with
  | call call =>
    subst hstep
    cases call with
    | bindGate => exact bindGate_keeps hc h hno
    | locateGate => exact h.of_key_eq (by rw [GateCall.apply, locateGate_db])
    | renewGateLease => exact renewGateLease_keeps h
    | unbindGate => exact unbindGate_keeps hutf8 hev h hno
  | elapse =>
    subst hstep
    rcases h with ⟨expiry, hkey, hlt, hmax⟩
    refine ⟨expiry, hkey, ?_, by push_cast; omega⟩
    by_contra hover
    exact hls ⟨_, expiry, hkey, rfl, by omega⟩
  | evict key =>
    subst hstep
    apply h.of_key_eq
    by_cases hk : bindingKey c = key
    · rcases h.view with ⟨expiry, hview, -, -⟩
      rcases gateView_held_iff.mp hview with ⟨expiry', hfind, -, -⟩
      rw [← hk, Db.evict_of_find hfind]
    · exact Db.evict_of_ne hk

theorem Bound.of_bind {r : GateLease × Option GateBinding}
    (hbind : (closedBindGate decode st.now c ttl st.db).1 = .ok r) :
    validGateBinding c = true ∧ Bound c { st with db := (closedBindGate decode st.now c ttl st.db).2 } := by
  rcases closedBindGate_effect decode st.now st.db c ttl with ⟨⟨e, herr⟩, -⟩ | ⟨hc, ms, hms, hdb, -⟩
  · rw [herr] at hbind
    cases hbind
  · refine ⟨hc, ?_⟩
    rw [hdb]
    exact Bound.of_write hms (Db.put_self _)

/-! ## What the calls of others and a lookup see -/

theorem renewGateLease_conflict (hc : Utf8Binding c) (hb : Utf8Binding b) (h : Bound c st)
    (hkey : bindingKey b = bindingKey c) (hne : b ≠ c) :
    (renewGateLease decode st.now b ttl st.db).2 = st.db ∧
      (∃ e, (renewGateLease decode st.now b ttl st.db).1 = .error e) ∧
      (validGateBinding b = true → Duration.millisecond ≤ ttl.ns →
        (renewGateLease decode st.now b ttl st.db).1 = .error (.locate .gateConflict)) := by
  have hstring : marshalBinding c ≠ marshalBinding b := fun heq =>
    hne (marshalBinding_inj hc hb heq).symm
  rcases h.view with ⟨expiry, hview, -, -⟩
  refine ⟨?_, ?_, ?_⟩
  · rcases renewGateLease_effect decode st.now st.db b ttl with
      ⟨-, hdb⟩ | ⟨-, ms, left, hms, hview', -⟩
    · exact hdb
    · rw [hkey, hview, GateView.held.injEq] at hview'
      exact absurd hview'.1 hstring
  · rcases renewGateLease_effect decode st.now st.db b ttl with
      ⟨herr, -⟩ | ⟨-, ms, left, hms, hview', -⟩
    · exact herr
    · rw [hkey, hview, GateView.held.injEq] at hview'
      exact absurd hview'.1 hstring
  · intro hval httl
    rcases exists_leaseMillis httl with ⟨ms, hms⟩
    rw [renewGateLease_eq decode st.now st.db hval hms, hkey, hview, GateView.fold, if_neg hstring]

theorem unbindGate_noop (hc : Utf8Binding c) (hb : Utf8Binding b) (h : Bound c st)
    (hkey : bindingKey b = bindingKey c) (hne : b ≠ c) :
    (unbindGate decode st.now b st.db).2 = st.db ∧
      (validGateBinding b = true → (unbindGate decode st.now b st.db).1 = .ok ()) := by
  have hstring : marshalBinding c ≠ marshalBinding b := fun heq =>
    hne (marshalBinding_inj hc hb heq).symm
  rcases h.view with ⟨expiry, hview, -, -⟩
  refine ⟨?_, ?_⟩
  · rcases unbindGate_effect decode st.now st.db b with hdb | ⟨-, left, hview', -⟩
    · exact hdb
    · rw [hkey, hview, GateView.held.injEq] at hview'
      exact absurd hview'.1 hstring
  · intro hval
    rw [unbindGate_eq decode st.now st.db hval, hkey, hview, GateView.fold, if_neg hstring]

theorem locateGate_bound (hval : validGateBinding c = true) (hc : Utf8Binding c) (h : Bound c st) :
    ∃ lease, (locateGate decode st.now c.serviceName c.uid st.db).1 = .ok lease ∧ lease.binding = c := by
  rcases validGateBinding_iff.mp hval with ⟨huid, hsvc, -⟩
  rcases h.view with ⟨expiry, hview, hlt, hmax⟩
  have hlease := decodeLease_marshal hval (Nat.sub_pos_of_lt hlt) (by push_cast [Nat.le_of_lt hlt]; omega)
  rw [locateGate_eq decode st.now st.db hsvc huid]
  rw [show gateView st.db st.now (gateKey c.serviceName c.uid) = _ from hview, GateView.fold, hlease]
  exact ⟨_, rfl, readBack_eq_self hc⟩

end Steps

/-- Gate fencing.  After a successful bind of `c`, through any run in which the binding is neither
superseded nor expired, calls that bear another binding of the same user leave every key and expiry
as they are, renewing reports a conflict and unbinding succeeds, and the user is located at `c`. -/
theorem gate_binding_fencing (decode : Decode) (st mid : Store) (c : GateBinding) (ttl : Duration)
    (r : GateLease × Option GateBinding) (events : List GateEvent) (hc : Utf8Binding c)
    (hbind : (closedBindGate decode st.now c ttl st.db).1 = .ok r)
    (hrun : Run (Undisturbed decode c)
      { st with db := (closedBindGate decode st.now c ttl st.db).2 } events mid)
    (hutf8 : ∀ ev ∈ events, ev.Utf8) :
    (∀ (b : GateBinding) (ttl' : Duration), Utf8Binding b → b.serviceName = c.serviceName →
      b.uid = c.uid → b ≠ c →
      ((renewGateLease decode mid.now b ttl' mid.db).2 = mid.db ∧
        (∃ e, (renewGateLease decode mid.now b ttl' mid.db).1 = .error e) ∧
        (validGateBinding b = true → Duration.millisecond ≤ ttl'.ns →
          (renewGateLease decode mid.now b ttl' mid.db).1 = .error (.locate .gateConflict))) ∧
      (unbindGate decode mid.now b mid.db).2 = mid.db ∧
      (validGateBinding b = true → (unbindGate decode mid.now b mid.db).1 = .ok ())) ∧
    ∃ lease, (locateGate decode mid.now c.serviceName c.uid mid.db).1 = .ok lease ∧ lease.binding = c := by
  rcases Bound.of_bind hbind with ⟨hval, hstart⟩
  have hmid : Bound c mid := by
    apply hrun.preserves _ hstart
    intro s ev t hmem hstep hbnd
    exact hbnd.step hval hc (hutf8 ev hmem) hstep
  refine ⟨?_, locateGate_bound hval hc hmid⟩
  intro b ttl' hb hs hu hne
  have hkey : bindingKey b = bindingKey c := by rw [bindingKey, hs, hu, bindingKey]
  exact ⟨renewGateLease_conflict hc hb hmid hkey hne, unbindGate_noop hc hb hmid hkey hne⟩

def loggedIn : Db := boundDb (fun _ => none) 0 sampleBinding 999

theorem loggedIn_eq :
    closedBindGate (fun _ => none) 0 sampleBinding (.wrap Duration.second) (fun _ => none) =
      (.ok (grantedLease sampleBinding 999, none), loggedIn) := by
  have hms : LeaseMillis (.wrap Duration.second) 999 := by
    unfold LeaseMillis
    decide
  exact closedBindGate_eq (fun _ => none) 0 (fun _ => none) sampleBinding_valid hms

theorem loggedIn_key :
    loggedIn (bindingKey sampleBinding) = some ⟨marshalBinding sampleBinding, some 1000⟩ := by
  rw [loggedIn, boundDb, Db.psetex, Db.put_self]

def staleBinding : GateBinding :=
  { sampleBinding with connID := utf8 "c0", bindingToken := utf8 "t0" }

theorem loggedIn_undisturbed :
    Undisturbed (fun _ => none) sampleBinding ⟨0, loggedIn⟩ (.elapse 5) ⟨5, loggedIn⟩ := by
  refine ⟨rfl, id, ?_⟩
  rintro ⟨e, expiry, hent, hexp, hle⟩
  have hkey := loggedIn_key
  rw [show loggedIn (bindingKey sampleBinding) = some e from hent, Option.some.injEq] at hkey
  subst hkey
  cases hexp
  exact absurd hle (by decide)

theorem gate_binding_fencing_loggedIn :
    (renewGateLease (fun _ => none) 5 staleBinding (.wrap Duration.second) loggedIn).1 =
        .error (.locate .gateConflict) ∧
      (unbindGate (fun _ => none) 5 staleBinding loggedIn).2 = loggedIn ∧
      ∃ lease, (locateGate (fun _ => none) 5 (utf8 "game") (utf8 "u1") loggedIn).1 = .ok lease ∧
        lease.binding = sampleBinding := by
  have hfence := gate_binding_fencing (fun _ => none) ⟨0, fun _ => none⟩ ⟨5, loggedIn⟩
    sampleBinding (.wrap Duration.second) _ [.elapse 5]
    (by refine ⟨?_, ?_, ?_, ?_, ?_, ?_⟩ <;> decide) (congrArg Prod.fst loggedIn_eq)
    (by
      rw [loggedIn_eq]
      exact .single loggedIn_undisturbed)
    (by
      intro ev hev
      rw [List.mem_singleton] at hev
      subst hev
      trivial)
  have hstale := hfence.1 staleBinding (.wrap Duration.second)
    (by refine ⟨?_, ?_, ?_, ?_, ?_, ?_⟩ <;> decide) rfl rfl (by decide)
  exact ⟨hstale.1.2.2 (by decide) (by decide), hstale.2.1, hfence.2⟩

end Yola.Locate.Redis
