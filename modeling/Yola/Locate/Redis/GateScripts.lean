import Yola.Locate.Redis.NodeScripts

/-!
# The gate scripts

The script that binds a gateway is kept here twice: as it stands in the source, and with the block
of its first `if current` closed before the write.  The first does not compile.
-/

namespace Yola.Locate.Redis

open Text Yola.Redis Lua

def bindGateScript : String := r#"
local function valid_binding(raw)
  local ok, binding = pcall(cjson.decode, raw)
  return ok and type(binding) == "table" and
    binding.service_name == ARGV[3] and binding.uid == ARGV[4] and
    type(binding.gate_id) == "string" and binding.gate_id ~= "" and
    type(binding.gate_endpoint) == "string" and binding.gate_endpoint ~= "" and
    type(binding.conn_id) == "string" and binding.conn_id ~= "" and
    type(binding.binding_token) == "string" and binding.binding_token ~= ""
end

local current = redis.call("GET", KEYS[1])
if current then
  local ttl = redis.call("PTTL", KEYS[1])
  if ttl <= 0 then return {-2} end
  if not valid_binding(current) then return {-3} end
redis.call("PSETEX", KEYS[1], ARGV[1], ARGV[2])
local ttl = redis.call("PTTL", KEYS[1])
if current then return {1, ARGV[2], ttl, current} end
return {1, ARGV[2], ttl}
"#

/-- The same text with one more `end` before the write. -/
def closedBindGateScript : String := r#"
local function valid_binding(raw)
  local ok, binding = pcall(cjson.decode, raw)
  return ok and type(binding) == "table" and
    binding.service_name == ARGV[3] and binding.uid == ARGV[4] and
    type(binding.gate_id) == "string" and binding.gate_id ~= "" and
    type(binding.gate_endpoint) == "string" and binding.gate_endpoint ~= "" and
    type(binding.conn_id) == "string" and binding.conn_id ~= "" and
    type(binding.binding_token) == "string" and binding.binding_token ~= ""
end

local current = redis.call("GET", KEYS[1])
if current then
  local ttl = redis.call("PTTL", KEYS[1])
  if ttl <= 0 then return {-2} end
  if not valid_binding(current) then return {-3} end
end
redis.call("PSETEX", KEYS[1], ARGV[1], ARGV[2])
local ttl = redis.call("PTTL", KEYS[1])
if current then return {1, ARGV[2], ttl, current} end
return {1, ARGV[2], ttl}
"#

def locateGateScript : String := r#"
local current = redis.call("GET", KEYS[1])
if not current then return {0} end
local ttl = redis.call("PTTL", KEYS[1])
if ttl <= 0 then return {-2} end
return {1, current, ttl}
"#

def renewGateLeaseScript : String := r#"
local current = redis.call("GET", KEYS[1])
if not current then return {0} end
local ttl = redis.call("PTTL", KEYS[1])
if ttl <= 0 then return {-2} end
if current ~= ARGV[1] then return {-1} end
redis.call("PEXPIRE", KEYS[1], ARGV[2])
return {1, current, redis.call("PTTL", KEYS[1])}
"#

def unbindGateScript : String := r#"
local current = redis.call("GET", KEYS[1])
if not current then return {0} end
local ttl = redis.call("PTTL", KEYS[1])
if ttl <= 0 then return {-2} end
if current ~= ARGV[1] then return {-1} end
redis.call("DEL", KEYS[1])
return {1}
"#

/-! ## The scripts compiled -/

def member (name : String) : Expr := .index (.name "binding") (.str name)

def typeIs (e : Expr) (name : String) : Expr := .binop .eq (.call (.name "type") [e]) (.str name)

def nonEmpty (e : Expr) : Expr := .binop .ne e (.str "")

def decodeRaw : Stat :=
  .declare ["ok", "binding"]
    [.call (.name "pcall") [.index (.name "cjson") (.str "decode"), .name "raw"]]

def isTable : Expr := .binop .and (.name "ok") (typeIs (.name "binding") "table")

def memberChecks : List Expr :=
  [.binop .eq (member "service_name") (argAt 3), .binop .eq (member "uid") (argAt 4),
   typeIs (member "gate_id") "string", nonEmpty (member "gate_id"),
   typeIs (member "gate_endpoint") "string", nonEmpty (member "gate_endpoint"),
   typeIs (member "conn_id") "string", nonEmpty (member "conn_id"),
   typeIs (member "binding_token") "string", nonEmpty (member "binding_token")]

def validBindingBody : Block := [decodeRaw, .ret [conj isTable memberChecks]]

def getCurrent : Stat := .declare ["current"] [call [.str "GET", keyAt 1]]

def getTTL : Stat := .declare ["ttl"] [call [.str "PTTL", keyAt 1]]

def rejectBadLease : Stat := .cond (.binop .le (.name "ttl") (.num 0)) (status (.neg (.num 2))) []

def checkCurrent : Stat :=
  .cond (.name "current")
    [getTTL, rejectBadLease,
     .cond (.not (.call (.name "valid_binding") [.name "current"])) (status (.neg (.num 3))) []] []

def storeCandidate : Block :=
  [.call (call [.str "PSETEX", keyAt 1, argAt 1, argAt 2]),
   getTTL,
   .cond (.name "current") [.ret [.table [.num 1, argAt 2, .name "ttl", .name "current"]]] [],
   .ret [.table [.num 1, argAt 2, .name "ttl"]]]

def bindGateBlock : Block :=
  .function "valid_binding" ["raw"] validBindingBody :: getCurrent :: checkCurrent :: storeCandidate

-- The three other scripts open alike: the key must be there and must have time left.
def leased (rest : Block) : Block :=
  getCurrent :: .cond (.not (.name "current")) (status (.num 0)) [] :: getTTL :: rejectBadLease :: rest

def rejectConflict : Stat :=
  .cond (.binop .ne (.name "current") (argAt 1)) (status (.neg (.num 1))) []

def locateGateBody : Block := [.ret [.table [.num 1, .name "current", .name "ttl"]]]

def renewGateBody : Block :=
  [rejectConflict, .call (call [.str "PEXPIRE", keyAt 1, argAt 2]),
   .ret [.table [.num 1, .name "current", call [.str "PTTL", keyAt 1]]]]

def unbindGateBody : Block :=
  rejectConflict :: .call (call [.str "DEL", keyAt 1]) :: status (.num 1)

set_option maxRecDepth 16000

/-- The block opened by `if current` is never closed. -/
theorem compile_bindGateScript : compile bindGateScript = none :=
  (compile_ofList _).trans rfl

theorem compile_closedBindGateScript : compile closedBindGateScript = some bindGateBlock :=
  (compile_ofList _).trans rfl

theorem compile_locateGateScript : compile locateGateScript = some (leased locateGateBody) :=
  (compile_ofList _).trans rfl

theorem compile_renewGateLeaseScript : compile renewGateLeaseScript = some (leased renewGateBody) :=
  (compile_ofList _).trans rfl

theorem compile_unbindGateScript : compile unbindGateScript = some (leased unbindGateBody) :=
  (compile_ofList _).trans rfl

end Yola.Locate.Redis
