import Yola.Text.Utf8
import Mathlib.Logic.Function.Basic

/-!
# Keys with an expiry

A database holds strings under keys, each with the millisecond after which it is gone.  A key past
its expiry is invisible to every command, whether or not the server has removed it yet.
-/

namespace Yola.Redis

open Function Text

structure Entry where
  value : Bytes
  expireAt : Option Nat
deriving DecidableEq

abbrev Db := Bytes → Option Entry

/-- `keyIsExpired` asks for a clock strictly past the expiry. -/
def Entry.live (e : Entry) (now : Nat) : Bool := e.expireAt.all fun t => decide (now ≤ t)

namespace Db

def find (db : Db) (now : Nat) (key : Bytes) : Option Entry := (db key).filter fun e => e.live now

def put (db : Db) (key : Bytes) (e : Option Entry) : Db := update db key e

def get (db : Db) (now : Nat) (key : Bytes) : Option Bytes := (db.find now key).map Entry.value

-- `-2` for a missing key, `-1` for one that never expires.
def pttl (db : Db) (now : Nat) (key : Bytes) : Int :=
  match db.find now key with
  | none => -2
  | some e =>
      match e.expireAt with
      | none => -1
      | some t => (t : Int) - now

def psetex (db : Db) (now : Nat) (key : Bytes) (ms : Nat) (value : Bytes) : Db :=
  db.put key (some ⟨value, some (now + ms)⟩)

/-- `SET key value PX ms NX`. -/
def setnx (db : Db) (now : Nat) (key : Bytes) (value : Bytes) (ms : Nat) : Bool × Db :=
  match db.find now key with
  | none => (true, db.psetex now key ms value)
  | some _ => (false, db)

def pexpire (db : Db) (now : Nat) (key : Bytes) (ms : Nat) : Bool × Db :=
  match db.find now key with
  | none => (false, db)
  | some e => (true, db.put key (some ⟨e.value, some (now + ms)⟩))

def del (db : Db) (now : Nat) (key : Bytes) : Bool × Db :=
  match db.find now key with
  | none => (false, db)
  | some _ => (true, db.put key none)

/-- The server drops a key it finds expired. -/
def evict (db : Db) (now : Nat) (key : Bytes) : Db :=
  match db.find now key with
  | none => db.put key none
  | some _ => db

variable {db : Db} {now later : Nat} {key other : Bytes} {e : Entry} {ms : Nat} {value : Bytes}

theorem find_some_iff : db.find now key = some e ↔ db key = some e ∧ e.live now = true := by
  simp [find, Option.filter_eq_some_iff]

@[simp] theorem put_self (e : Option Entry) : db.put key e key = e := update_self ..

theorem put_of_ne (e : Option Entry) (h : other ≠ key) : db.put key e other = db other :=
  update_of_ne h ..

theorem find_put_self (e : Option Entry) : (db.put key e).find now key = e.filter fun e => e.live now := by
  rw [find, put_self]

theorem find_put_of_ne (e : Option Entry) (h : other ≠ key) :
    (db.put key e).find now other = db.find now other := by
  rw [find, put_of_ne e h, find]

theorem live_some {t : Nat} : (Entry.mk value (some t)).live now = decide (now ≤ t) := rfl

theorem find_psetex_self : (db.psetex now key ms value).find now key = some ⟨value, some (now + ms)⟩ := by
  rw [psetex, find_put_self]
  simp [live_some]

theorem get_eq_none : db.get now key = none ↔ db.find now key = none := by simp [get]

theorem get_eq_some : db.get now key = some value ↔
    ∃ e, db.find now key = some e ∧ e.value = value := by simp [get]

theorem pttl_psetex_self : (db.psetex now key ms value).pttl now key = ms := by
  rw [pttl, find_psetex_self]
  change ((now + ms : Nat) : Int) - now = ms
  omega

/-- Time only takes keys away. -/
theorem find_mono (hle : now ≤ later) (h : db.find later key = some e) : db.find now key = some e := by
  rw [find_some_iff] at h ⊢
  refine ⟨h.1, ?_⟩
  rcases e with ⟨v, _ | t⟩
  · rfl
  · have hlive := h.2
    rw [live_some, decide_eq_true_eq] at hlive ⊢
    omega

theorem get_mono (hle : now ≤ later) (h : db.get later key = some value) : db.get now key = some value := by
  rw [get_eq_some] at h ⊢
  rcases h with ⟨e, hfind, hval⟩
  exact ⟨e, find_mono hle hfind, hval⟩

theorem get_put_of_ne (e : Option Entry) (h : other ≠ key) :
    (db.put key e).get now other = db.get now other := by
  rw [get, find_put_of_ne e h, get]

theorem get_put_none : (db.put key none).get now key = none := by
  rw [get, find_put_self]
  rfl

/-- A written key holds the value written, for as long as it holds anything. -/
theorem get_put_some {v : Bytes} (h : (db.put key (some e)).get now key = some v) : v = e.value := by
  rw [get, find_put_self, Option.map_eq_some_iff] at h
  rcases h with ⟨e', hfilter, hval⟩
  rw [Option.filter_eq_some_iff, Option.some.injEq] at hfilter
  rw [← hval, hfilter.1]

theorem pexpire_of_find (h : db.find now key = some e) :
    db.pexpire now key ms = (true, db.put key (some ⟨e.value, some (now + ms)⟩)) := by
  rw [pexpire, h]

theorem pttl_pexpire (h : db.find now key = some e) : (db.pexpire now key ms).2.pttl now key = ms := by
  rw [pexpire_of_find h]
  exact pttl_psetex_self

theorem del_of_find (h : db.find now key = some e) : db.del now key = (true, db.put key none) := by
  rw [del, h]

-- `PEXPIRE` moves an expiry, never a value.
theorem get_pexpire : (db.pexpire now key ms).2.get now other = db.get now other := by
  cases hfind : db.find now key with
  | none => rw [pexpire, hfind]
  | some =>
    rw [pexpire_of_find hfind]
    by_cases hk : other = key
    · subst hk
      rw [get, find_put_self, get, hfind]
      simp [live_some]
    · exact get_put_of_ne _ hk

theorem evict_of_ne (h : other ≠ key) : db.evict now key other = db other := by
  unfold evict
  cases db.find now key with
  | none => exact put_of_ne _ h
  | some => rfl

theorem evict_of_find (h : db.find now key = some e) : db.evict now key = db := by
  rw [evict, h]

theorem evict_some (h : db.evict now key other = some e) : db other = some e := by
  by_cases hk : other = key
  · subst hk
    unfold evict at h
    cases hfind : db.find now other with
    | none =>
      rw [hfind] at h
      change db.put other none other = some e at h
      rw [put_self] at h
      cases h
    | some => rwa [hfind] at h
  · rwa [evict_of_ne hk] at h

/-- Dropping an expired key is invisible from then on. -/
theorem find_evict (hle : now ≤ later) : (db.evict now key).find later other = db.find later other := by
  unfold evict
  split
  · rename_i hnone
    by_cases hk : other = key
    · subst hk
      rw [find_put_self]
      cases hl : db.find later other with
      | none => rfl
      | some => rw [find_mono hle hl] at hnone; cases hnone
    · exact find_put_of_ne _ hk
  · rfl

end Db

end Yola.Redis
