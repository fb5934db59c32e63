import Yola.Locate.Redis.NodeScripts

/-!
# Node epochs and node bindings in Redis

A node process registers its epoch under its node id; every write of a binding carries that epoch.
-/

namespace Yola.Locate.Redis

open Text Yola.Redis Lua

def nodeBindingTTL : Duration := .wrap (6 * 3600 * Duration.second)

def decodeNodeEpochResult (values : List Reply) : Except CallError Unit :=
  let status := scriptStatus values
  if status = statusOK then .ok ()
  else if status = statusMissing then .error (.locate .nodeEpochNotFound)
  else if status = statusConflict then .error (.locate .nodeEpochConflict)
  else .error .invalidScriptResult

def nodeEpochLeaseMilliseconds (serviceName nodeID epoch : Bytes) (ttl : Duration) : Except CallError Int :=
  if !validServiceName serviceName || nodeID = [] || epoch = [] || ttl.ns < Duration.millisecond then
    .error (.locate .invalidNodeEpoch)
  else .ok ttl.milliseconds

section Calls

variable (decode : Decode) (now : Nat)

def bindNode (serviceName uid nodeID epoch : Bytes) : Call Unit :=
  if !validNodeLocation serviceName uid nodeID then .fail (.locate .invalidNodeBinding)
  else if epoch = [] then .fail (.locate .invalidNodeEpoch)
  else
    (runScript decode now bindNodeScript [nodeEpochKey serviceName nodeID, nodeKey serviceName uid]
      [epoch, nodeID, formatInt nodeBindingTTL.milliseconds]).andThen decodeNodeEpochResult

def locateNode (serviceName uid : Bytes) : Call Bytes :=
  if !validServiceName serviceName || !validUID uid then .fail (.locate .invalidNodeBinding)
  else fun db =>
    match db.get now (nodeKey serviceName uid) with
    | none => (.error (.locate .nodeNotFound), db)
    | some nodeID =>
        if !validNodeLocation serviceName uid nodeID then (.error (.locate .invalidNodeBinding), db)
        else (.ok nodeID, db)

def renewNode (serviceName uid nodeID epoch : Bytes) : Call Unit :=
  if !validNodeLocation serviceName uid nodeID then .fail (.locate .invalidNodeBinding)
  else if epoch = [] then .fail (.locate .invalidNodeEpoch)
  else
    (runScript decode now renewNodeScript [nodeEpochKey serviceName nodeID, nodeKey serviceName uid]
      [epoch, nodeID, formatInt nodeBindingTTL.milliseconds]).andThen fun values =>
        if scriptStatus values = statusNodeMissing then .error (.locate .nodeNotFound)
        else if scriptStatus values = statusNodeConflict then .error (.locate .nodeConflict)
        else decodeNodeEpochResult values

def unbindNode (serviceName uid nodeID epoch : Bytes) : Call Unit :=
  if !validNodeLocation serviceName uid nodeID then .fail (.locate .invalidNodeBinding)
  else if epoch = [] then .fail (.locate .invalidNodeEpoch)
  else
    (runScript decode now unbindNodeScript [nodeEpochKey serviceName nodeID, nodeKey serviceName uid]
      [epoch, nodeID]).andThen decodeNodeEpochResult

def registerNodeEpoch (serviceName nodeID epoch : Bytes) (ttl : Duration) : Call Unit :=
  match nodeEpochLeaseMilliseconds serviceName nodeID epoch ttl with
  | .error e => .fail e
  | .ok ttlMillis => fun db =>
      match db.setnx now (nodeEpochKey serviceName nodeID) epoch
        (Duration.ofMillis ttlMillis).milliseconds.toNat with
      | (false, db') => (.error (.locate .nodeEpochConflict), db')
      | (true, db') => (.ok (), db')

def renewNodeEpoch (serviceName nodeID epoch : Bytes) (ttl : Duration) : Call Unit :=
  match nodeEpochLeaseMilliseconds serviceName nodeID epoch ttl with
  | .error e => .fail e
  | .ok ttlMillis =>
      (runScript decode now renewNodeEpochScript [nodeEpochKey serviceName nodeID]
        [epoch, formatInt ttlMillis]).andThen decodeNodeEpochResult

def unregisterNodeEpoch (serviceName nodeID epoch : Bytes) : Call Unit :=
  if !validServiceName serviceName || nodeID = [] || epoch = [] then
    .fail (.locate .invalidNodeEpoch)
  else
    (runScript decode now deleteIfValueMatchesScript [nodeEpochKey serviceName nodeID]
      [epoch]).andThen fun values =>
        if ackIdempotentUnbind (scriptStatus values) then .ok () else .error .invalidScriptResult

end Calls

/-! ## What each call does -/

def nodeBindingMillis : Nat := 21600000

theorem parseNat_nodeBindingTTL : parseNat (formatInt nodeBindingTTL.milliseconds) = some (21599999 + 1) :=
  parseNat_formatInt (by decide)

theorem andThen_guarded {α : Type} {script : Call (List Reply)} {db db' : Db} {e : Bytes}
    {stored : Option Bytes} {status : Int}
    (hrun : script db = fence stored e (.ok [.int 0], db) (.ok [.int (-1)], db) (.ok [.int status], db'))
    (f : List Reply → Except CallError α) :
    script.andThen f db = fence stored e (f [.int 0], db) (f [.int (-1)], db) (f [.int status], db') := by
  cases stored with
  | none => exact Call.andThen_ok hrun f
  | some c =>
    by_cases hc : c = e
    · rw [fence_pass (congrArg some hc)] at hrun ⊢
      exact Call.andThen_ok hrun f
    · rw [fence_conflict hc] at hrun ⊢
      exact Call.andThen_ok hrun f

variable {decode : Decode} {now : Nat} {s u n e : Bytes} {ttl : Duration} (db : Db)

section

variable (hloc : validNodeLocation s u n = true)

include hloc

theorem bindNode_eq (he : e ≠ []) : bindNode decode now s u n e db =
      fence (db.get now (nodeEpochKey s n)) e (.error (.locate .nodeEpochNotFound), db)
        (.error (.locate .nodeEpochConflict), db) (.ok (), db.psetex now (nodeKey s u) nodeBindingMillis n) := by
  have hrun := runScript_guarded decode now db (by decide) compile_bindNodeScript
    (nodeEpochKey s n) e _ _ (exec_bindNodeBody decode now db _ (nodeKey s u) e n _ _ parseNat_nodeBindingTTL)
  rw [bindNode, hloc, if_neg (by decide), if_neg he, andThen_guarded hrun]
  rfl

theorem unbindNode_eq (he : e ≠ []) : unbindNode decode now s u n e db =
      fence (db.get now (nodeEpochKey s n)) e (.error (.locate .nodeEpochNotFound), db)
        (.error (.locate .nodeEpochConflict), db)
        (.ok (), if db.get now (nodeKey s u) = some n then (db.del now (nodeKey s u)).2 else db) := by
  have hrun := runScript_guarded decode now db (by decide) compile_unbindNodeScript
    (nodeEpochKey s n) e _ _ (exec_unbindNodeBody decode now db _ (nodeKey s u) e n)
  rw [unbindNode, hloc, if_neg (by decide), if_neg he, andThen_guarded hrun]
  rfl

theorem renewNode_eq (he : e ≠ []) : renewNode decode now s u n e db =
      fence (db.get now (nodeEpochKey s n)) e (.error (.locate .nodeEpochNotFound), db)
        (.error (.locate .nodeEpochConflict), db)
        (fence (db.get now (nodeKey s u)) n (.error (.locate .nodeNotFound), db)
          (.error (.locate .nodeConflict), db) (.ok (), (db.pexpire now (nodeKey s u) nodeBindingMillis).2)) := by
  have hbody := exec_renewNodeBody decode now db (nodeEpochKey s n) (nodeKey s u) e n _ _
    parseNat_nodeBindingTTL
  rw [renewNode, hloc, if_neg (by decide), if_neg he]
  -- three outcomes past the epoch's guard: no binding, another node's, this node's
  cases hcur : db.get now (nodeKey s u) with
  | none =>
    rw [hcur] at hbody
    rw [andThen_guarded (runScript_guarded decode now db (by decide) compile_renewNodeScript
      (nodeEpochKey s n) e _ _ hbody)]
    rfl
  | some c =>
    rw [hcur] at hbody
    by_cases hc : c = n
    · rw [fence_pass (congrArg some hc)] at hbody ⊢
      rw [andThen_guarded (runScript_guarded decode now db (by decide) compile_renewNodeScript
        (nodeEpochKey s n) e _ _ hbody)]
      rfl
    · rw [fence_conflict hc] at hbody ⊢
      rw [andThen_guarded (runScript_guarded decode now db (by decide) compile_renewNodeScript
        (nodeEpochKey s n) e _ _ hbody)]
      rfl

end

theorem unregisterNodeEpoch_eq (hs : validServiceName s = true) (hn : n ≠ []) (he : e ≠ []) :
    unregisterNodeEpoch decode now s n e db =
      fence (db.get now (nodeEpochKey s n)) e (.ok (), db) (.ok (), db)
        (.ok (), (db.del now (nodeEpochKey s n)).2) := by
  have hrun := runScript_guarded decode now db (by decide) compile_deleteIfValueMatchesScript
    (nodeEpochKey s n) e _ _ (exec_deleteBody decode now db _ e)
  rw [unregisterNodeEpoch, if_neg (by simp [hs, hn, he]), andThen_guarded hrun]
  rfl

/-- The arguments `RegisterNodeEpoch` and `RenewNodeEpoch` accept. -/
def ValidEpochLease (s n e : Bytes) (ttl : Duration) : Prop :=
  validServiceName s = true ∧ n ≠ [] ∧ e ≠ [] ∧ Duration.millisecond ≤ ttl.ns

theorem locateNode_of_get (hs : validServiceName s = true) (hu : validUID u = true)
    (hget : db.get now (nodeKey s u) = some n) (hn : validNodeLocation s u n = true) :
    locateNode now s u db = (.ok n, db) := by
  unfold locateNode
  rw [if_neg (by simp [hs, hu]), hget]
  simp [hn]

theorem nodeEpochLeaseMilliseconds_ok (h : ValidEpochLease s n e ttl) :
    nodeEpochLeaseMilliseconds s n e ttl = .ok ttl.milliseconds := by
  rcases h with ⟨hs, hn, he, httl⟩
  rw [nodeEpochLeaseMilliseconds, if_neg]
  simp only [hs, hn, he, Bool.or_eq_true, decide_eq_true_eq]
  simpa using httl

theorem nodeEpochLeaseMilliseconds_error (h : ¬ ValidEpochLease s n e ttl) :
    nodeEpochLeaseMilliseconds s n e ttl = .error (.locate .invalidNodeEpoch) := by
  rw [nodeEpochLeaseMilliseconds, if_pos]
  by_contra hcon
  apply h
  simpa [ValidEpochLease, not_lt, and_assoc] using hcon

theorem registerNodeEpoch_eq (h : ValidEpochLease s n e ttl) :
    registerNodeEpoch now s n e ttl db =
      match db.get now (nodeEpochKey s n) with
      | none => (.ok (), db.psetex now (nodeEpochKey s n) ttl.milliseconds.toNat e)
      | some _ => (.error (.locate .nodeEpochConflict), db) := by
  have hns : 0 ≤ ttl.ns := le_trans (by decide) h.2.2.2
  simp only [registerNodeEpoch, nodeEpochLeaseMilliseconds_ok h, Db.setnx, Db.get,
    Duration.milliseconds_ofMillis_milliseconds hns]
  cases db.find now (nodeEpochKey s n) <;> rfl

theorem renewNodeEpoch_eq (h : ValidEpochLease s n e ttl) :
    renewNodeEpoch decode now s n e ttl db =
      fence (db.get now (nodeEpochKey s n)) e (.error (.locate .nodeEpochNotFound), db)
        (.error (.locate .nodeEpochConflict), db)
        (.ok (), (db.pexpire now (nodeEpochKey s n) ttl.milliseconds.toNat).2) := by
  have hms := Duration.one_le_milliseconds h.2.2.2
  obtain ⟨m, hm⟩ : ∃ m, ttl.milliseconds.toNat = m + 1 := ⟨ttl.milliseconds.toNat - 1, by omega⟩
  have hparse : parseNat (formatInt ttl.milliseconds) = some (m + 1) := by
    rw [parseNat_formatInt (by omega), hm]
  have hrun := runScript_guarded decode now db (by decide) compile_renewNodeEpochScript
    (nodeEpochKey s n) e _ _ (exec_renewEpochBody decode now db _ e _ _ hparse)
  simp only [renewNodeEpoch, nodeEpochLeaseMilliseconds_ok h]
  rw [andThen_guarded hrun, hm]
  rfl

end Yola.Locate.Redis
