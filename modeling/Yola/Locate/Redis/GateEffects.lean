import Yola.Locate.Redis.GateScripts

/-!
# What the gate scripts do

Each script is executed symbolically once; the rest of the development only uses the equations at
the end, which say what the script replies and what it writes for each thing its key can be.
-/

namespace Yola.Locate.Redis

open Text Yola.Redis Lua

inductive GateView where
  | missing
  | badLease
  | held (current : Bytes) (ttl : Nat)

-- In its last millisecond a key is still there with no time left.
def gateView (db : Db) (now : Nat) (key : Bytes) : GateView :=
  match db.find now key with
  | none => .missing
  | some ⟨_, none⟩ => .badLease
  | some ⟨current, some expiry⟩ =>
      if now < expiry then .held current (expiry - now) else .badLease

def GateView.fold {α : Type} (missing badLease : α) (held : Bytes → Nat → α) : GateView → α
  | .missing => missing
  | .badLease => badLease
  | .held current ttl => held current ttl

theorem GateView.fold_congr {α : Type} {missing badLease : α} {f g : Bytes → Nat → α}
    (h : ∀ c ttl, f c ttl = g c ttl) (v : GateView) :
    v.fold missing badLease f = v.fold missing badLease g := by
  cases v with
  | held c ttl => exact h c ttl
  | _ => rfl

theorem gateView_held_iff {db : Db} {now ttl : Nat} {key current : Bytes} :
    gateView db now key = .held current ttl ↔
      ∃ expiry, db.find now key = some ⟨current, some expiry⟩ ∧ now < expiry ∧ ttl = expiry - now := by
  unfold gateView
  constructor
  · intro h
    split at h
    · cases h
    · cases h
    · rename_i c expiry hfind
      by_cases hlt : now < expiry
      · rw [if_pos hlt] at h
        cases h
        exact ⟨expiry, hfind, hlt, rfl⟩
      · rw [if_neg hlt] at h
        cases h
  · rintro ⟨expiry, hfind, hlt, rfl⟩
    rw [hfind]
    exact if_pos hlt

def isString : Value → Bool
  | .str _ => true
  | _ => false

def isText : Value → Bool
  | .str s => s ≠ []
  | _ => false

/-- What `valid_binding` asks of a decoded value. -/
def luaAccepts (serviceName uid : Bytes) : Value → Bool
  | .table _ fields =>
      let member name := Value.field fields (utf8 name)
      (member "service_name").rawEq (.str serviceName) && (member "uid").rawEq (.str uid) &&
        isText (member "gate_id") && isText (member "gate_endpoint") && isText (member "conn_id") &&
        isText (member "binding_token")
  | _ => false

/-- `valid_binding`: the string decodes and the value passes. -/
def luaValidBinding (decode : Decode) (serviceName uid raw : Bytes) : Bool :=
  (decode raw).any (luaAccepts serviceName uid)

theorem typeName_string (v : Value) : (utf8 v.typeName == utf8 "string") = isString v := by
  cases v <;> simp only [Value.typeName, isString] <;> decide

theorem isString_and_nonEmpty (v : Value) :
    (isString v && !v.rawEq (.str (utf8 ""))) = isText v := by
  cases v with
  | str s => cases s <;> rfl
  | _ => rfl

attribute [local simp] bind_apply exec_cond keyAt argAt call status first bindNames bulkValue
  Value.get Value.truthy Value.compare Db.get gateView GateView.fold getTTL rejectBadLease

section ValidBinding

variable (decode : Decode) (now : Nat) (db : Db) (k ms candidate serviceName uid raw : Bytes)
  (items : List Value) (fields : List (Bytes × Value))

def judging : Env :=
  ("ok", .bool true) :: ("binding", .table items fields) :: ("raw", .str raw) ::
    globals [k] [ms, candidate, serviceName, uid]

-- Each conjunct with its value.
def bindingTests : List (Expr × Bool) :=
  let value name := Value.field fields (utf8 name)
  [(.binop .eq (member "service_name") (argAt 3), (value "service_name").rawEq (.str serviceName)),
   (.binop .eq (member "uid") (argAt 4), (value "uid").rawEq (.str uid)),
   (typeIs (member "gate_id") "string", isString (value "gate_id")),
   (nonEmpty (member "gate_id"), !(value "gate_id").rawEq (.str (utf8 ""))),
   (typeIs (member "gate_endpoint") "string", isString (value "gate_endpoint")),
   (nonEmpty (member "gate_endpoint"), !(value "gate_endpoint").rawEq (.str (utf8 ""))),
   (typeIs (member "conn_id") "string", isString (value "conn_id")),
   (nonEmpty (member "conn_id"), !(value "conn_id").rawEq (.str (utf8 ""))),
   (typeIs (member "binding_token") "string", isString (value "binding_token")),
   (nonEmpty (member "binding_token"), !(value "binding_token").rawEq (.str (utf8 "")))]

theorem bindingTests_all :
    (bindingTests serviceName uid fields).all Prod.snd =
      luaAccepts serviceName uid (.table items fields) := by
  simp only [bindingTests, luaAccepts, List.all_cons, List.all_nil, ← isString_and_nonEmpty,
    Bool.and_true, Bool.and_assoc]

theorem member_tests (name : String) (n : Nat) :
    evalExpr (host decode now) (n + 2) (judging k ms candidate serviceName uid raw items fields)
      (member name) db = (.ok [Value.field fields (utf8 name)], db) := by
  simp [member, judging, lookup]

theorem bindingTests_test :
    ∀ p ∈ bindingTests serviceName uid fields,
      Tests (host decode now) (judging k ms candidate serviceName uid raw items fields) db p.1 p.2 := by
  have hmember := member_tests decode now db k ms candidate serviceName uid raw items fields
  have htypeFn : lookup (judging k ms candidate serviceName uid raw items fields) "type" = .type := by
    simp [judging, globals, lookup]
  have hargv : lookup (judging k ms candidate serviceName uid raw items fields) "ARGV" =
      .table [.str ms, .str candidate, .str serviceName, .str uid] [] := by
    simp [judging, globals, lookup]
  generalize judging k ms candidate serviceName uid raw items fields = env at hmember htypeFn hargv ⊢
  have htype : ∀ name, Tests (host decode now) env db (typeIs (member name) "string")
      (isString (Value.field fields (utf8 name))) := by
    intro name n
    simp [typeIs, hmember, htypeFn, Value.rawEq, typeName_string]
  have hnonEmpty : ∀ name, Tests (host decode now) env db (nonEmpty (member name))
      (!(Value.field fields (utf8 name)).rawEq (.str (utf8 ""))) := by
    intro name n
    simp [nonEmpty, hmember]
  have hsvc : Tests (host decode now) env db (.binop .eq (member "service_name") (argAt 3))
      ((Value.field fields (utf8 "service_name")).rawEq (.str serviceName)) := by
    intro n
    simp [hmember, hargv]
  have huid : Tests (host decode now) env db (.binop .eq (member "uid") (argAt 4))
      ((Value.field fields (utf8 "uid")).rawEq (.str uid)) := by
    intro n
    simp [hmember, hargv]
  simp only [bindingTests, List.forall_mem_cons, List.not_mem_nil, false_implies, implies_true, and_true]
  exact ⟨hsvc, huid, htype _, hnonEmpty _, htype _, hnonEmpty _, htype _, hnonEmpty _, htype _,
    hnonEmpty _⟩

-- The scope after `pcall(cjson.decode, raw)`.
def decoded (k ms candidate serviceName uid raw : Bytes) : Option Value → Env
  | some v => ("ok", .bool true) :: ("binding", v) :: ("raw", .str raw) ::
      globals [k] [ms, candidate, serviceName, uid]
  | none => ("ok", .bool false) :: ("binding", .nil) :: ("raw", .str raw) ::
      globals [k] [ms, candidate, serviceName, uid]

theorem exec_decodeRaw (n : Nat) (rest : Block) :
    exec (host decode now) (n + 10)
      (("raw", .str raw) :: globals [k] [ms, candidate, serviceName, uid]) (decodeRaw :: rest) db =
      exec (host decode now) (n + 9) (decoded k ms candidate serviceName uid raw (decode raw)) rest db := by
  cases hdec : decode raw <;>
    simp [decodeRaw, globals, lookup, Value.field, callValue_pcall, host_decode, hdec, decoded]

theorem evalExpr_isTable (n : Nat) (result : Option Value) :
    evalExpr (host decode now) (n + 10) (decoded k ms candidate serviceName uid raw result) isTable
      db = (.ok [.bool (match result with | some (.table _ _) => true | _ => false)], db) := by
  rcases result with _ | v
  · simp [isTable, decoded, lookup]
  · cases v <;>
      simp [isTable, decoded, lookup, typeIs, globals, Value.rawEq, Value.typeName] <;> decide

theorem evalExpr_binding (n : Nat) :
    evalExpr (host decode now) (n + 10 + memberChecks.length)
      (decoded k ms candidate serviceName uid raw (decode raw)) (conj isTable memberChecks) db =
      (.ok [.bool (luaValidBinding decode serviceName uid raw)], db) := by
  have htab := evalExpr_isTable decode now db k ms candidate serviceName uid raw n
  unfold luaValidBinding
  rcases decode raw with _ | v
  · exact conj_fails _ (htab none)
  · cases v with
    | table items fields =>
      rw [Option.any_some, ← bindingTests_all serviceName uid items]
      exact conj_tests (bindingTests_test decode now db k ms candidate serviceName uid raw items fields)
        (htab (some (.table items fields)))
    | _ => exact conj_fails _ (htab _)

theorem callValue_validBinding (n : Nat) :
    callValue (host decode now) (n + 30)
      (.closure ["raw"] validBindingBody (globals [k] [ms, candidate, serviceName, uid]))
      [.str raw] db = (.ok [.bool (luaValidBinding decode serviceName uid raw)], db) := by
  have hraw := exec_decodeRaw decode now db k ms candidate serviceName uid raw (n + 19)
    [.ret [conj isTable memberChecks]]
  have hjudged := evalExpr_binding decode now db k ms candidate serviceName uid raw (n + 6)
  have hret : exec (host decode now) (n + 19 + 9) (decoded k ms candidate serviceName uid raw (decode raw))
      [.ret [conj isTable memberChecks]] db =
      (.ok (some [.bool (luaValidBinding decode serviceName uid raw)]), db) := by
    rw [show n + 19 + 9 = n + 6 + 10 + memberChecks.length + 1 + 1 from rfl, exec_ret, bind_apply,
      evalArgs_one, hjudged]
    rfl
  rw [callValue_closure, bind_apply]
  simp only [bindNames, List.cons_append, List.nil_append, validBindingBody]
  rw [show n + 29 = n + 19 + 10 from rfl, hraw, hret]
  rfl

end ValidBinding

variable (decode : Decode) (now : Nat) (db : Db)

/-- The opening of a script that works on a held key. -/
theorem exec_leased (rest : Block) (k : Bytes) (argv : List Bytes) :
    exec (host decode now) scriptFuel (globals [k] argv) (leased rest) db =
      (gateView db now k).fold (.ok (some [.table [.num 0] []]), db) (.ok (some [.table [.num (-2)] []]), db)
        (fun c ttl => exec (host decode now) 96
          (("ttl", .num ttl) :: ("current", .str c) :: globals [k] argv) rest db) := by
  -- one case for each thing the key can be
  cases hfind : db.find now k with
  | none =>
    simp [leased, getCurrent, scriptFuel, globals, lookup, Value.field, hfind]
  | some e =>
    rcases e with ⟨c, _ | expiry⟩
    · simp [leased, getCurrent, scriptFuel, globals, lookup, Value.field, Db.pttl, hfind]
    · by_cases hlt : now < expiry
      · have hpos : ¬ ((expiry : Int) - now ≤ 0) := by omega
        have hcast : ((expiry - now : Nat) : Int) = expiry - now := by omega
        simp [leased, getCurrent, scriptFuel, globals, lookup, Value.field, Db.pttl, hfind, hlt, hcast,
          hpos]
      · have hneg : (expiry : Int) - now ≤ 0 := by omega
        simp [leased, getCurrent, scriptFuel, globals, lookup, Value.field, Db.pttl, hfind, hlt, hneg]

variable (k ms candidate serviceName uid : Bytes) (m : Nat)

def binding (current : Value) : Env :=
  ("current", current) ::
    ("valid_binding", .closure ["raw"] validBindingBody
      (globals [k] [ms, candidate, serviceName, uid])) ::
    globals [k] [ms, candidate, serviceName, uid]

theorem exec_bindGateBlock :
    exec (host decode now) scriptFuel (globals [k] [ms, candidate, serviceName, uid]) bindGateBlock db =
      exec (host decode now) 98 (binding k ms candidate serviceName uid (bulkValue (db.get now k)))
        (checkCurrent :: storeCandidate) db := by
  simp [bindGateBlock, getCurrent, scriptFuel, globals, lookup, Value.field, binding]

theorem exec_storeCandidate_missing (hms : parseNat ms = some (m + 1)) :
    exec (host decode now) 97 (binding k ms candidate serviceName uid (.bool false)) storeCandidate
      db = (.ok (some [.table [.num 1, .str candidate, .num (m + 1 : Nat)] []]),
        db.psetex now k (m + 1) candidate) := by
  simp [storeCandidate, binding, globals, lookup, Value.field, redisCall_psetex _ _ _ _ _ _ hms,
    Db.pttl_psetex_self]

theorem exec_storeCandidate_held (c : Bytes) (hms : parseNat ms = some (m + 1)) :
    exec (host decode now) 97 (binding k ms candidate serviceName uid (.str c)) storeCandidate db =
      (.ok (some [.table [.num 1, .str candidate, .num (m + 1 : Nat), .str c] []]),
        db.psetex now k (m + 1) candidate) := by
  simp [storeCandidate, binding, globals, lookup, Value.field, redisCall_psetex _ _ _ _ _ _ hms,
    Db.pttl_psetex_self]

theorem exec_checkCurrent :
    exec (host decode now) 98 (binding k ms candidate serviceName uid (bulkValue (db.get now k)))
      (checkCurrent :: storeCandidate) db =
      (gateView db now k).fold
        (exec (host decode now) 97 (binding k ms candidate serviceName uid (.bool false)) storeCandidate db)
        (.ok (some [.table [.num (-2)] []]), db)
        (fun c _ => if luaValidBinding decode serviceName uid c = true then
            exec (host decode now) 97 (binding k ms candidate serviceName uid (.str c)) storeCandidate db
          else (.ok (some [.table [.num (-3)] []]), db)) := by
  have hcur : ∀ v, lookup (binding k ms candidate serviceName uid v) "current" = v := by
    intro v
    simp [binding, lookup]
  have hval : ∀ v t, lookup (("ttl", t) :: binding k ms candidate serviceName uid v)
      "valid_binding" = .closure ["raw"] validBindingBody
        (globals [k] [ms, candidate, serviceName, uid]) := by
    intro v t
    simp [binding, lookup]
  have hcur' : ∀ v t, lookup (("ttl", t) :: binding k ms candidate serviceName uid v)
      "current" = v := by
    intro v t
    simp [binding, lookup]
  have hredis : ∀ v, lookup (binding k ms candidate serviceName uid v) "redis" =
      .table [] [(utf8 "call", .host "redis.call")] := by
    intro v
    simp [binding, globals, lookup]
  have hkeys : ∀ v, lookup (binding k ms candidate serviceName uid v) "KEYS" =
      .table [.str k] [] := by
    intro v
    simp [binding, globals, lookup]
  have httl : ∀ v t, lookup (("ttl", t) :: binding k ms candidate serviceName uid v) "ttl" = t := by
    intro v t
    simp [lookup]
  have hjudge := fun c n => callValue_validBinding decode now db k ms candidate serviceName uid c n
  cases hfind : db.find now k with
  | none =>
    simp [checkCurrent, hfind, hcur]
  | some e =>
    rcases e with ⟨c, _ | expiry⟩
    · simp [checkCurrent, Value.field, Db.pttl, hfind, hcur, hredis, hkeys, httl]
    · by_cases hlt : now < expiry
      · have hpos : ¬ ((expiry : Int) - now ≤ 0) := by omega
        cases hok : luaValidBinding decode serviceName uid c <;>
          simp [checkCurrent, Value.field, Db.pttl, hfind, hcur, hcur', hredis, hkeys, httl,
            hval, hjudge, hlt, hpos, hok, -callValue_closure]
      · have hneg : (expiry : Int) - now ≤ 0 := by omega
        simp [checkCurrent, Value.field, Db.pttl, hfind, hcur, hredis, hkeys, httl, hlt, hneg]

/-- The bind script as the tests intend it. -/
theorem runScript_bindGate (hms : parseNat ms = some (m + 1)) :
    runScript decode now closedBindGateScript [k] [ms, candidate, serviceName, uid] db =
      (gateView db now k).fold
        (.ok [.int 1, .bulk candidate, .int (m + 1 : Nat)], db.psetex now k (m + 1) candidate)
        (.ok [.int (-2)], db)
        (fun c _ => if luaValidBinding decode serviceName uid c = true then
            (.ok [.int 1, .bulk candidate, .int (m + 1 : Nat), .bulk c], db.psetex now k (m + 1) candidate)
          else (.ok [.int (-3)], db)) := by
  have hexec := exec_checkCurrent decode now db k ms candidate serviceName uid
  rw [← exec_bindGateBlock] at hexec
  cases hview : gateView db now k with
  | missing =>
    rw [hview, GateView.fold, exec_storeCandidate_missing decode now db k ms candidate serviceName
      uid m hms] at hexec
    exact runScript_of_exec compile_closedBindGateScript hexec
  | badLease =>
    rw [hview, GateView.fold] at hexec
    exact runScript_of_exec compile_closedBindGateScript hexec
  | held c =>
    rw [hview, GateView.fold] at hexec
    rw [GateView.fold]
    by_cases hok : luaValidBinding decode serviceName uid c = true
    · rw [if_pos hok, exec_storeCandidate_held decode now db k ms candidate serviceName uid m c
        hms] at hexec
      rw [if_pos hok]
      exact runScript_of_exec compile_closedBindGateScript hexec
    · rw [if_neg hok] at hexec
      rw [if_neg hok]
      exact runScript_of_exec compile_closedBindGateScript hexec

/-- A script over a held key, from what it does once the key is known to be held. -/
theorem runScript_leased {script : String} {rest : Block} (argv : List Bytes)
    (hcomp : compile script = some (leased rest)) (outcome : Bytes → Nat → List Value × Db)
    (hrest : ∀ c ttl, gateView db now k = .held c ttl →
      exec (host decode now) 96 (("ttl", .num ttl) :: ("current", .str c) :: globals [k] argv) rest
        db = (.ok (some [.table (outcome c ttl).1 []]), (outcome c ttl).2)) :
    runScript decode now script [k] argv db =
      (gateView db now k).fold (.ok [.int 0], db) (.ok [.int (-2)], db)
        (fun c ttl => (.ok (arrayItems (outcome c ttl).1), (outcome c ttl).2)) := by
  have hexec := exec_leased decode now db rest k argv
  cases hview : gateView db now k with
  | missing | badLease =>
    rw [hview, GateView.fold] at hexec
    exact runScript_of_exec hcomp hexec
  | held c ttl =>
    rw [hview, GateView.fold, hrest c ttl hview] at hexec
    exact runScript_of_exec hcomp hexec

theorem runScript_locateGate :
    runScript decode now locateGateScript [k] [] db =
      (gateView db now k).fold (.ok [.int 0], db) (.ok [.int (-2)], db)
        (fun c ttl => (.ok [.int 1, .bulk c, .int ttl], db)) := by
  apply runScript_leased decode now db k [] compile_locateGateScript
    (fun c ttl => ([.num 1, .str c, .num ttl], db))
  intro c ttl _
  simp [locateGateBody, lookup]

variable (raw : Bytes)

theorem exec_renewGateBody {c : Bytes} {ttl : Nat} (hms : parseNat ms = some (m + 1)) :
    exec (host decode now) 96 (("ttl", .num ttl) :: ("current", .str c) :: globals [k] [raw, ms])
      renewGateBody db =
      if c = raw then
        (.ok (some [.table [.num 1, .str c, .num ((db.pexpire now k (m + 1)).2.pttl now k)] []]),
          (db.pexpire now k (m + 1)).2)
      else (.ok (some [.table [.num (-1)] []]), db) := by
  by_cases hc : c = raw <;>
    simp [renewGateBody, rejectConflict, globals, lookup, Value.field, Value.rawEq, hc,
      redisCall_pexpire _ _ _ _ _ hms]

theorem exec_unbindGateBody {c : Bytes} {ttl : Nat} :
    exec (host decode now) 96 (("ttl", .num ttl) :: ("current", .str c) :: globals [k] [raw])
      unbindGateBody db =
      if c = raw then (.ok (some [.table [.num 1] []]), (db.del now k).2)
      else (.ok (some [.table [.num (-1)] []]), db) := by
  by_cases hc : c = raw <;>
    simp [unbindGateBody, rejectConflict, globals, lookup, Value.field, Value.rawEq, hc]

theorem runScript_renewGate (hms : parseNat ms = some (m + 1)) :
    runScript decode now renewGateLeaseScript [k] [raw, ms] db =
      (gateView db now k).fold (.ok [.int 0], db) (.ok [.int (-2)], db)
        (fun c _ => if c = raw then
            (.ok [.int 1, .bulk c, .int (m + 1 : Nat)], (db.pexpire now k (m + 1)).2)
          else (.ok [.int (-1)], db)) := by
  have hrun := runScript_leased decode now db k [raw, ms] compile_renewGateLeaseScript
    (fun c _ => if c = raw then ([.num 1, .str c, .num (m + 1 : Nat)], (db.pexpire now k (m + 1)).2)
      else ([.num (-1)], db)) (by
    intro c ttl hview
    rcases gateView_held_iff.mp hview with ⟨expiry, hfind, -, -⟩
    rw [exec_renewGateBody decode now db k ms m raw hms, Db.pttl_pexpire hfind]
    by_cases hc : c = raw <;> simp only [hc, if_true, if_false])
  refine hrun.trans (GateView.fold_congr (fun c ttl => ?_) _)
  by_cases hc : c = raw
  · simp only [if_pos hc]
    rfl
  · simp only [if_neg hc]
    rfl

theorem runScript_unbindGate :
    runScript decode now unbindGateScript [k] [raw] db =
      (gateView db now k).fold (.ok [.int 0], db) (.ok [.int (-2)], db)
        (fun c _ => if c = raw then (.ok [.int 1], (db.del now k).2) else (.ok [.int (-1)], db)) := by
  have hrun := runScript_leased decode now db k [raw] compile_unbindGateScript
    (fun c _ => if c = raw then ([.num 1], (db.del now k).2) else ([.num (-1)], db)) (by
    intro c ttl _
    rw [exec_unbindGateBody decode now db k raw]
    by_cases hc : c = raw <;> simp only [hc, if_true, if_false])
  refine hrun.trans (GateView.fold_congr (fun c ttl => ?_) _)
  by_cases hc : c = raw
  · simp only [if_pos hc]
    rfl
  · simp only [if_neg hc]
    rfl

end Yola.Locate.Redis
