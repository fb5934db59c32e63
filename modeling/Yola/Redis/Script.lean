import Yola.Lua.Eval
import Yola.Redis.Database
import Yola.Text.Decimal

/-!
# Scripts the server runs

`EVAL` compiles the text, runs it as one atomic step at one reading of the clock, and converts the
value it returns.  A text that does not compile is refused before anything runs; an error raised
later keeps the writes made so far.
-/

namespace Yola.Redis

open Text Lua

inductive Command where
  | get
  | pttl
  | psetex
  | pexpire
  | del
deriving DecidableEq

def commandOf (name : Bytes) : Option Command :=
  if name = utf8 "GET" then some .get
  else if name = utf8 "PTTL" then some .pttl
  else if name = utf8 "PSETEX" then some .psetex
  else if name = utf8 "PEXPIRE" then some .pexpire
  else if name = utf8 "DEL" then some .del
  else none

@[simp] theorem commandOf_get : commandOf (utf8 "GET") = some .get := rfl
@[simp] theorem commandOf_pttl : commandOf (utf8 "PTTL") = some .pttl := rfl
@[simp] theorem commandOf_psetex : commandOf (utf8 "PSETEX") = some .psetex := rfl
@[simp] theorem commandOf_pexpire : commandOf (utf8 "PEXPIRE") = some .pexpire := rfl
@[simp] theorem commandOf_del : commandOf (utf8 "DEL") = some .del := rfl

-- A nil bulk reply reaches the script as `false`.
def bulkValue : Option Bytes → Value
  | none => .bool false
  | some s => .str s

def flagValue (b : Bool) : Value := .num (if b then 1 else 0)

def statusOk : Value := .table [] [(utf8 "ok", .str (utf8 "OK"))]

/-- `redis.call` at clock `now`; a command that fails raises an error in the script. -/
def redisCall (now : Nat) : List Value → Eval Db (List Value)
  | .str name :: args => fun db =>
      match commandOf name, args with
      | some .get, [.str key] => (.ok [bulkValue (db.get now key)], db)
      | some .pttl, [.str key] => (.ok [.num (db.pttl now key)], db)
      | some .psetex, [.str key, .str ms, .str value] =>
          match parseNat ms with
          | some (n + 1) => (.ok [statusOk], db.psetex now key (n + 1) value)
          | _ => (.error .raised, db)
      | some .pexpire, [.str key, .str ms] =>
          match parseNat ms with
          | some (n + 1) =>
              (.ok [flagValue (db.pexpire now key (n + 1)).1], (db.pexpire now key (n + 1)).2)
          | _ => (.error .raised, db)
      | some .del, [.str key] => (.ok [flagValue (db.del now key).1], (db.del now key).2)
      | _, _ => (.error .raised, db)
  | _ => throw .raised

section Calls

variable (now : Nat) (key value ms : Bytes) (db : Db) (n : Nat)

@[simp] theorem redisCall_get :
    redisCall now [.str (utf8 "GET"), .str key] db = (.ok [bulkValue (db.get now key)], db) := rfl

@[simp] theorem redisCall_pttl :
    redisCall now [.str (utf8 "PTTL"), .str key] db = (.ok [.num (db.pttl now key)], db) := rfl

theorem redisCall_psetex (h : parseNat ms = some (n + 1)) :
    redisCall now [.str (utf8 "PSETEX"), .str key, .str ms, .str value] db =
      (.ok [statusOk], db.psetex now key (n + 1) value) := by
  change (match parseNat ms with
    | some (n + 1) => (.ok [statusOk], db.psetex now key (n + 1) value)
    | _ => (.error .raised, db) : Except Error (List Value) × Db) = _
  rw [h]

theorem redisCall_pexpire (h : parseNat ms = some (n + 1)) :
    redisCall now [.str (utf8 "PEXPIRE"), .str key, .str ms] db =
      (.ok [flagValue (db.pexpire now key (n + 1)).1], (db.pexpire now key (n + 1)).2) := by
  change (match parseNat ms with
    | some (n + 1) =>
        (.ok [flagValue (db.pexpire now key (n + 1)).1], (db.pexpire now key (n + 1)).2)
    | _ => (.error .raised, db) : Except Error (List Value) × Db) = _
  rw [h]

@[simp] theorem redisCall_del :
    redisCall now [.str (utf8 "DEL"), .str key] db =
      (.ok [flagValue (db.del now key).1], (db.del now key).2) := rfl

end Calls

/-- What `cjson.decode` makes of a string; `none` is an error it raises. -/
abbrev Decode := Bytes → Option Value

def host (decode : Decode) (now : Nat) : Host Db
  | "redis.call", args => redisCall now args
  | "cjson.decode", [.str s] =>
      match decode s with
      | some v => pure [v]
      | none => throw .raised
  | _, _ => throw .raised

@[simp] theorem host_call (decode : Decode) (now : Nat) (args : List Value) :
    host decode now "redis.call" args = redisCall now args := rfl

theorem host_decode (decode : Decode) (now : Nat) (s : Bytes) :
    host decode now "cjson.decode" [.str s] =
      match decode s with
      | some v => pure [v]
      | none => throw .raised := rfl

def globals (keys argv : List Bytes) : Env :=
  [("redis", .table [] [(utf8 "call", .host "redis.call")]),
   ("cjson", .table [] [(utf8 "decode", .host "cjson.decode")]),
   ("pcall", .pcall), ("type", .type),
   ("KEYS", .table (keys.map .str) []), ("ARGV", .table (argv.map .str) [])]

/-! Shapes that compiled scripts are made of. -/

def keyAt (n : Nat) : Expr := .index (.name "KEYS") (.num n)

def argAt (n : Nat) : Expr := .index (.name "ARGV") (.num n)

def call (args : List Expr) : Expr := .call (.index (.name "redis") (.str "call")) args

def status (e : Expr) : Block := [.ret [.table [e]]]

inductive Reply where
  | int (n : Int)
  | bulk (s : Bytes)
  | nil
  | other
deriving DecidableEq

-- Nested arrays are only told apart from scalars.
def replyOf : Value → Reply
  | .num n => .int n
  | .str s => .bulk s
  | .bool true => .int 1
  | .bool false => .nil
  | .table _ _ => .other
  | _ => .nil

inductive ScriptError where
  | compile
  | raised
  | outOfFuel
  | notArray
deriving DecidableEq

/-- An array reply stops at its first nil. -/
def arrayItems (items : List Value) : List Reply :=
  (items.takeWhile fun v => match v with | .nil => false | _ => true).map replyOf

def arrayReply (result : Option (List Value)) : Except ScriptError (List Reply) :=
  match first (result.getD []) with
  | .table items [] => .ok (arrayItems items)
  | _ => .error .notArray

def scriptFuel : Nat := 100

def runBlock (decode : Decode) (now : Nat) (block : Block) (keys argv : List Bytes) (db : Db) :
    Except ScriptError (List Reply) × Db :=
  match exec (host decode now) scriptFuel (globals keys argv) block db with
  | (.ok result, db') => (arrayReply result, db')
  | (.error .raised, db') => (.error .raised, db')
  | (.error .outOfFuel, db') => (.error .outOfFuel, db')

def eval (decode : Decode) (now : Nat) (script : String) (keys argv : List Bytes) (db : Db) :
    Except ScriptError (List Reply) × Db :=
  match compile script with
  | none => (.error .compile, db)
  | some block => runBlock decode now block keys argv db

theorem eval_of_exec {decode : Decode} {now : Nat} {script : String} {keys argv : List Bytes} {db db' : Db}
    {block : Block} {items : List Value} (hcomp : compile script = some block)
    (hexec : exec (host decode now) scriptFuel (globals keys argv) block db =
      (.ok (some [.table items []]), db')) :
    eval decode now script keys argv db = (.ok (arrayItems items), db') := by
  rw [eval, hcomp]
  dsimp only
  rw [runBlock, hexec]
  rfl

end Yola.Redis
