import Yola.Locate.Redis.Locator

/-!
# The node scripts

The binding of a user to a node is written, refreshed and removed by scripts that first compare the
caller's epoch with the registered one; the epoch itself is refreshed and removed the same way.
-/

namespace Yola.Locate.Redis

open Text Yola.Redis Lua

def bindNodeScript : String := r#"
local epoch = redis.call("GET", KEYS[1])
if not epoch then return {0} end
if epoch ~= ARGV[1] then return {-1} end
redis.call("PSETEX", KEYS[2], ARGV[3], ARGV[2])
return {1}
"#

def unbindNodeScript : String := r#"
local epoch = redis.call("GET", KEYS[1])
if not epoch then return {0} end
if epoch ~= ARGV[1] then return {-1} end
if redis.call("GET", KEYS[2]) == ARGV[2] then
  redis.call("DEL", KEYS[2])
end
return {1}
"#

def deleteIfValueMatchesScript : String := r#"
local current = redis.call("GET", KEYS[1])
if not current then return {0} end
if current ~= ARGV[1] then return {-1} end
redis.call("DEL", KEYS[1])
return {1}
"#

def renewNodeScript : String := r#"
local epoch = redis.call("GET", KEYS[1])
if not epoch then return {0} end
if epoch ~= ARGV[1] then return {-1} end
local current = redis.call("GET", KEYS[2])
if not current then return {-5} end
if current ~= ARGV[2] then return {-6} end
redis.call("PEXPIRE", KEYS[2], ARGV[3])
return {1}
"#

def renewNodeEpochScript : String := r#"
local current = redis.call("GET", KEYS[1])
if not current then return {0} end
if current ~= ARGV[1] then return {-1} end
redis.call("PEXPIRE", KEYS[1], ARGV[2])
return {1}
"#

/-! ## The scripts compiled -/

-- Every script opens with the value of its first key compared with the first argument.
def guarded (x : String) (rest : Block) : Block :=
  .declare [x] [call [.str "GET", keyAt 1]] ::
  .cond (.not (.name x)) (status (.num 0)) [] ::
  .cond (.binop .ne (.name x) (argAt 1)) (status (.neg (.num 1))) [] :: rest

def bindNodeBody : Block :=
  .call (call [.str "PSETEX", keyAt 2, argAt 3, argAt 2]) :: status (.num 1)

def unbindNodeBody : Block :=
  .cond (.binop .eq (call [.str "GET", keyAt 2]) (argAt 2)) [.call (call [.str "DEL", keyAt 2])] [] ::
  status (.num 1)

def deleteBody : Block := .call (call [.str "DEL", keyAt 1]) :: status (.num 1)

def renewNodeBody : Block :=
  .declare ["current"] [call [.str "GET", keyAt 2]] ::
  .cond (.not (.name "current")) (status (.neg (.num 5))) [] ::
  .cond (.binop .ne (.name "current") (argAt 2)) (status (.neg (.num 6))) [] ::
  .call (call [.str "PEXPIRE", keyAt 2, argAt 3]) :: status (.num 1)

def renewEpochBody : Block :=
  .call (call [.str "PEXPIRE", keyAt 1, argAt 2]) :: status (.num 1)

section Compile

set_option maxRecDepth 8000

theorem compile_bindNodeScript : compile bindNodeScript = some (guarded "epoch" bindNodeBody) :=
  (compile_ofList _).trans rfl

theorem compile_unbindNodeScript :
    compile unbindNodeScript = some (guarded "epoch" unbindNodeBody) :=
  (compile_ofList _).trans rfl

theorem compile_deleteIfValueMatchesScript :
    compile deleteIfValueMatchesScript = some (guarded "current" deleteBody) :=
  (compile_ofList _).trans rfl

theorem compile_renewNodeScript : compile renewNodeScript = some (guarded "epoch" renewNodeBody) :=
  (compile_ofList _).trans rfl

theorem compile_renewNodeEpochScript :
    compile renewNodeEpochScript = some (guarded "current" renewEpochBody) :=
  (compile_ofList _).trans rfl

end Compile

/-- The three ways through a guard: nothing stored, the expected value stored, another one. -/
def fence {α : Type} (stored : Option Bytes) (expected : Bytes) (missing conflict pass : α) : α :=
  match stored with
  | none => missing
  | some c => if c = expected then pass else conflict

variable {stored : Option Bytes} {e : Bytes}

theorem fence_pass {α : Type} (h : stored = some e)
    (missing conflict pass : α) : fence stored e missing conflict pass = pass := by
  rw [h, fence, if_pos rfl]

theorem fence_conflict {α : Type} {c : Bytes} (h : c ≠ e) (missing conflict pass : α) :
    fence (some c) e missing conflict pass = conflict := by
  rw [fence, if_neg h]

/-- A caller whose value is not the stored one gets past no guard. -/
theorem fence_stop {α : Type} (h : stored ≠ some e) (missing conflict pass : α) :
    fence stored e missing conflict pass = missing ∨ fence stored e missing conflict pass = conflict := by
  cases stored with
  | none => exact Or.inl rfl
  | some =>
    exact Or.inr (fence_conflict (fun hc => h (congrArg some hc)) ..)

attribute [local simp] bind_apply exec_cond keyAt argAt call status globals lookup first bindNames
  bulkValue Value.get Value.field Value.truthy Value.rawEq

variable (decode : Decode) (now : Nat) (db : Db) {x : String}

theorem exec_guarded (hx : x ≠ "ARGV") (rest : Block) (k e : Bytes) (keys argv : List Bytes) :
    exec (host decode now) scriptFuel (globals (k :: keys) (e :: argv)) (guarded x rest) db =
      fence (db.get now k) e (.ok (some [.table [.num 0] []]), db) (.ok (some [.table [.num (-1)] []]), db)
        (exec (host decode now) 97 ((x, .str e) :: globals (k :: keys) (e :: argv)) rest db) := by
  cases hget : db.get now k with
  | none =>
    simp [guarded, scriptFuel, hget, fence]
  | some c =>
    by_cases hc : c = e <;>
      simp [guarded, scriptFuel, hget, hc, hx, fence]

/-- The reply of a guarded script and the database it leaves, from what the part after the guard
does once the guard has passed. -/
theorem runScript_guarded {script : String} {rest : Block} (hx : x ≠ "ARGV")
    (hcomp : compile script = some (guarded x rest)) (k e : Bytes) (keys argv : List Bytes)
    {status : Int} {db' : Db}
    (hrest : exec (host decode now) 97 ((x, .str e) :: globals (k :: keys) (e :: argv)) rest db =
      (.ok (some [.table [.num status] []]), db')) : runScript decode now script (k :: keys) (e :: argv) db =
      fence (db.get now k) e (.ok [.int 0], db) (.ok [.int (-1)], db) (.ok [.int status], db') := by
  have hexec := exec_guarded decode now db hx rest k e keys argv
  rw [hrest] at hexec
  cases hget : db.get now k with
  | none =>
    rw [hget] at hexec
    exact runScript_of_exec hcomp hexec
  | some c =>
    rw [hget] at hexec
    by_cases hc : c = e
    · rw [fence_pass (congrArg some hc)] at hexec ⊢
      exact runScript_of_exec hcomp hexec
    · rw [fence_conflict hc] at hexec ⊢
      exact runScript_of_exec hcomp hexec

variable (k₁ k₂ e v ms : Bytes) (n : Nat)

theorem exec_bindNodeBody (hms : parseNat ms = some (n + 1)) :
    exec (host decode now) 97 (("epoch", .str e) :: globals [k₁, k₂] [e, v, ms]) bindNodeBody db =
      (.ok (some [.table [.num 1] []]), db.psetex now k₂ (n + 1) v) := by
  simp [bindNodeBody, redisCall_psetex _ _ _ _ _ _ hms]

theorem exec_unbindNodeBody :
    exec (host decode now) 97 (("epoch", .str e) :: globals [k₁, k₂] [e, v]) unbindNodeBody db =
      (.ok (some [.table [.num 1] []]),
        if db.get now k₂ = some v then (db.del now k₂).2 else db) := by
  cases hget : db.get now k₂ with
  | none =>
    simp [unbindNodeBody, hget]
  | some c =>
    by_cases hc : c = v <;>
      simp [unbindNodeBody, hget, hc]

theorem exec_deleteBody :
    exec (host decode now) 97 (("current", .str e) :: globals [k₁] [e]) deleteBody db =
      (.ok (some [.table [.num 1] []]), (db.del now k₁).2) := by
  simp [deleteBody]

theorem exec_renewNodeBody (hms : parseNat ms = some (n + 1)) :
    exec (host decode now) 97 (("epoch", .str e) :: globals [k₁, k₂] [e, v, ms]) renewNodeBody db =
      fence (db.get now k₂) v (.ok (some [.table [.num (-5)] []]), db)
        (.ok (some [.table [.num (-6)] []]), db)
        (.ok (some [.table [.num 1] []]), (db.pexpire now k₂ (n + 1)).2) := by
  cases hget : db.get now k₂ with
  | none =>
    simp [renewNodeBody, hget, fence]
  | some c =>
    by_cases hc : c = v <;>
      simp [renewNodeBody, hget, hc, redisCall_pexpire _ _ _ _ _ hms, fence]

theorem exec_renewEpochBody (hms : parseNat ms = some (n + 1)) :
    exec (host decode now) 97 (("current", .str e) :: globals [k₁] [e, ms]) renewEpochBody db =
      (.ok (some [.table [.num 1] []]), (db.pexpire now k₁ (n + 1)).2) := by
  simp [renewEpochBody, redisCall_pexpire _ _ _ _ _ hms]

end Yola.Locate.Redis
