import Yola.Locate.Locator
import Yola.Redis.Script
import Yola.Text.Base64

/-!
# What the Redis locator's calls share

Script statuses, their decoding, the errors a call can end with, and the keys.  A call is a function
from the database at one clock reading to its result and the database it leaves; a transport failure
is a property of the run a call is part of, not of the call.
-/

namespace Yola.Locate.Redis

open Text Yola.Redis

variable {keyPrefix s' : Bytes}

def statusOK : Int := 1
def statusMissing : Int := 0
def statusConflict : Int := -1
def statusBadLease : Int := -2
def statusInvalid : Int := -3
def statusMalformed : Int := -4
def statusNodeMissing : Int := -5
def statusNodeConflict : Int := -6

inductive CallError where
  | locate (e : LocateError)
  | decodeStoredValue
  | invalidScriptResult
  | server (e : ScriptError)
deriving DecidableEq

/-- The sentinel a caller finds with `errors.Is`; a decoding failure wraps one. -/
def CallError.sentinel : CallError → Option LocateError
  | locate e => some e
  | decodeStoredValue => some .invalidGateBinding
  | invalidScriptResult | server _ => none

structure Store where
  now : Nat
  db : Db

abbrev Call (α : Type) := Db → Except CallError α × Db

namespace Call

variable {α β : Type} {call : Call α} {db db' : Db}

def fail (e : CallError) : Call α := fun db => (.error e, db)

/-- The reply of a call that came back is decoded; an error of the call is passed on. -/
def andThen (call : Call α) (f : α → Except CallError β) : Call β := fun db =>
  match call db with
  | (.ok a, db') => (f a, db')
  | (.error e, db') => (.error e, db')

theorem andThen_ok {a : α} (h : call db = (.ok a, db'))
    (f : α → Except CallError β) : call.andThen f db = (f a, db') := by
  rw [andThen, h]

theorem andThen_error {e : CallError} (h : call db = (.error e, db')) (f : α → Except CallError β) :
    call.andThen f db = (.error e, db') := by
  rw [andThen, h]

end Call

def runScript (decode : Decode) (now : Nat) (script : String) (keys argv : List Bytes) :
    Call (List Reply) := fun db =>
  match eval decode now script keys argv db with
  | (.ok values, db') => (.ok values, db')
  | (.error e, db') => (.error (.server e), db')

theorem runScript_of_exec {decode : Decode} {now : Nat} {script : String} {keys argv : List Bytes}
    {db db' : Db} {block : Lua.Block} {items : List Lua.Value} (hcomp : Lua.compile script = some block)
    (hexec : Lua.exec (host decode now) scriptFuel (globals keys argv) block db =
      (.ok (some [.table items []]), db')) :
    runScript decode now script keys argv db = (.ok (arrayItems items), db') := by
  rw [runScript, eval_of_exec hcomp hexec]

def scriptStatus (values : List Reply) : Int :=
  match values with
  | .int status :: _ => status
  | _ => statusMalformed

/-- Missing and Conflict both count as success, so that a retry is idempotent. -/
def ackIdempotentUnbind (status : Int) : Bool :=
  status == statusOK || status == statusMissing || status == statusConflict

/-! ## Keys -/

def nodeKeyPrefix : Bytes := utf8 "locate:node:"
def nodeEpochKeyPrefix : Bytes := utf8 "locate:node:epoch:"
def gateKeyPrefix : Bytes := utf8 "locate:gate:"

def nodeLocationKey (keyPrefix serviceName id : Bytes) : Bytes :=
  keyPrefix ++ utf8 "\x7b" ++ rawURLEncode serviceName ++ utf8 "\x7d:" ++ rawURLEncode id

def nodeKey (serviceName uid : Bytes) : Bytes := nodeLocationKey nodeKeyPrefix serviceName uid

def nodeEpochKey (serviceName nodeID : Bytes) : Bytes := nodeLocationKey nodeEpochKeyPrefix serviceName nodeID

def gateKey (serviceName uid : Bytes) : Bytes :=
  gateKeyPrefix ++ utf8 "\x7b" ++ rawURLEncode (serviceName ++ 0 :: uid) ++ utf8 "\x7d"

section Separator

variable {a : UInt8} {xs xs' : Bytes} (ys ys' : Bytes)

theorem takeWhile_ne (hx : a ∉ xs) : (xs ++ a :: ys).takeWhile (· ≠ a) = xs := by
  rw [List.takeWhile_append_of_pos fun c hc => decide_eq_true (ne_of_mem_of_not_mem hc hx)]
  simp

theorem dropWhile_ne (hx : a ∉ xs) : (xs ++ a :: ys).dropWhile (· ≠ a) = a :: ys := by
  rw [List.dropWhile_append_of_pos fun c hc => decide_eq_true (ne_of_mem_of_not_mem hc hx)]
  simp

variable {ys ys'} in
/-- A separator that occurs in neither front part splits a string in one way only. -/
theorem split_at_inj (hx : a ∉ xs) (hx' : a ∉ xs') (h : xs ++ a :: ys = xs' ++ a :: ys') :
    xs = xs' ∧ ys = ys' := by
  have hfront : xs = xs' := by rw [← takeWhile_ne ys hx, h, takeWhile_ne ys' hx']
  subst hfront
  exact ⟨rfl, (List.cons.inj (List.append_cancel_left h)).2⟩

end Separator

theorem nodeLocationKey_inj {s id id' : Bytes}
    (h : nodeLocationKey keyPrefix s id = nodeLocationKey keyPrefix s' id') : s = s' ∧ id = id' := by
  simp only [nodeLocationKey, List.append_assoc, List.append_cancel_left_eq] at h
  change rawURLEncode s ++ 125 :: (58 :: rawURLEncode id) =
    rawURLEncode s' ++ 125 :: (58 :: rawURLEncode id') at h
  obtain ⟨hs, hid⟩ := split_at_inj (brace_notMem_rawURLEncode s) (brace_notMem_rawURLEncode s') h
  exact ⟨rawURLEncode_injective hs, rawURLEncode_injective (List.cons.inj hid).2⟩

theorem key_ne {i : Nat} {k k' : Bytes} {c d : UInt8} (hk : k[i]? = some c) (hk' : k'[i]? = some d)
    (h : c ≠ d) : k ≠ k' := by
  rintro rfl
  exact h (Option.some_inj.mp (hk.symm.trans hk'))

-- The twelfth byte is the brace of one and the "e" of the other.
theorem nodeKey_ne_nodeEpochKey (s u s' n : Bytes) : nodeKey s u ≠ nodeEpochKey s' n :=
  key_ne (i := 12) (c := 123) (d := 101) rfl rfl (by decide)

theorem gateKey_inj {s u u' : Bytes} (hs : validServiceName s = true)
    (hs' : validServiceName s' = true) (h : gateKey s u = gateKey s' u') : s = s' ∧ u = u' := by
  simp only [gateKey, List.append_assoc, List.append_cancel_left_eq, List.append_cancel_right_eq] at h
  exact split_at_inj (zero_notMem_serviceName hs) (zero_notMem_serviceName hs') (rawURLEncode_injective h)

/-- What a cluster hashes of a key: the text in its first pair of braces, if there is any. -/
def hashTag (key : Bytes) : Bytes :=
  match key.dropWhile (· ≠ 123) with
  | [] => key
  | _ :: rest =>
    let tag := rest.takeWhile (· ≠ 125)
    if tag = [] ∨ tag = rest then key else tag

theorem hashTag_braces {pre tag rest : Bytes} (hpre : 123 ∉ pre) (htag : 125 ∉ tag) (hne : tag ≠ []) :
    hashTag (pre ++ 123 :: (tag ++ 125 :: rest)) = tag := by
  unfold hashTag
  rw [dropWhile_ne _ hpre]
  dsimp only
  rw [takeWhile_ne _ htag, if_neg (by simp [hne])]

theorem hashTag_nodeLocationKey {s : Bytes} (id : Bytes) (hpre : 123 ∉ keyPrefix) (hs : s ≠ []) :
    hashTag (nodeLocationKey keyPrefix s id) = rawURLEncode s := by
  have hkey : nodeLocationKey keyPrefix s id =
      keyPrefix ++ 123 :: (rawURLEncode s ++ 125 :: (58 :: rawURLEncode id)) := by
    simp only [nodeLocationKey, List.append_assoc]
    rfl
  rw [hkey]
  refine hashTag_braces hpre (brace_notMem_rawURLEncode s) fun hnil => ?_
  have hlen := rawURLEncode_length s
  rw [hnil, List.length_nil] at hlen
  have hpos := List.length_pos_of_ne_nil hs
  omega

/-- No two locations share a key, and the keys of one service live in one slot. -/
theorem location_keys :
    (∀ s s' u u', validServiceName s = true → validServiceName s' = true →
      gateKey s u = gateKey s' u' → s = s' ∧ u = u') ∧
    (∀ s s' u u', nodeKey s u = nodeKey s' u' → s = s' ∧ u = u') ∧
    (∀ s s' n n', nodeEpochKey s n = nodeEpochKey s' n' → s = s' ∧ n = n') ∧
    (∀ s s' u id, gateKey s u ≠ nodeKey s' id ∧ gateKey s u ≠ nodeEpochKey s' id ∧
      nodeKey s u ≠ nodeEpochKey s' id) ∧
    ∀ s u n, validServiceName s = true →
      hashTag (nodeEpochKey s n) = hashTag (nodeKey s u) ∧ 125 ∉ hashTag (nodeKey s u) := by
  refine ⟨fun s s' u u' => gateKey_inj, fun s s' u u' => nodeLocationKey_inj, fun s s' n n' => nodeLocationKey_inj,
    fun s s' u id => ⟨?_, ?_, nodeKey_ne_nodeEpochKey s u s' id⟩, fun s u n hs => ?_⟩
  · exact key_ne (i := 7) (c := 103) (d := 110) rfl rfl (by decide)
  · exact key_ne (i := 7) (c := 103) (d := 110) rfl rfl (by decide)
  · have hne := (validServiceName_iff.mp hs).1
    have hnode : hashTag (nodeKey s u) = rawURLEncode s := hashTag_nodeLocationKey u (by decide) hne
    have hep : hashTag (nodeEpochKey s n) = rawURLEncode s := hashTag_nodeLocationKey n (by decide) hne
    rw [hnode, hep]
    exact ⟨rfl, brace_notMem_rawURLEncode s⟩

end Yola.Locate.Redis
