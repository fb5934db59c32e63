import Yola.Redis.Database

/-!
# A local deadline and the key behind it

A client that wrote a key with a time to live keeps a deadline on its own clock.  Its clock and the
server's run at the same rate with a constant offset; the server counts in milliseconds.  While the
deadline has not come, the key must still be there: that relation is what a lease rests on, and it
is all these lemmas are about.
-/

namespace Yola.Redis

open Text

def nanosPerMilli : Nat := 1000000

/-- The offsets of a client's clock and of the server's clock, in nanoseconds. -/
structure Clocks where
  client : Nat
  server : Nat

namespace Clocks

variable (clk : Clocks)

/-- What the client's clock shows at instant `t`. -/
def clientAt (t : Nat) : Nat := t + clk.client

/-- The server's millisecond clock at instant `t`. -/
def serverAt (t : Nat) : Nat := (t + clk.server) / nanosPerMilli

-- The server's clock is rounded down to the millisecond.
theorem lt_serverAt_succ (t : Nat) : t + clk.server < (clk.serverAt t + 1) * nanosPerMilli := by
  rw [Nat.mul_comm]
  exact Nat.lt_mul_div_succ _ (by decide)

theorem serverAt_mono {t t' : Nat} (h : t ≤ t') : clk.serverAt t ≤ clk.serverAt t' :=
  Nat.div_le_div_right (by omega)

-- The open end of the last millisecond makes up for the rounding of the server's clock.
theorem write_within {t started ms : Nat} (hstart : started ≤ clk.clientAt t) :
    started + ms * nanosPerMilli + clk.server ≤ (clk.serverAt t + ms + 1) * nanosPerMilli + clk.client := by
  have hround := clk.lt_serverAt_succ t
  unfold clientAt at hstart
  rw [Nat.add_right_comm _ ms 1, Nat.add_mul]
  omega

end Clocks

/-- The client's deadline has come, or the key holds the value and will not expire before. -/
def Backed (clk : Clocks) (key value : Bytes) (t : Nat) (db : Db) (deadline : Nat) : Prop :=
  deadline ≤ clk.clientAt t ∨
    ∃ expiry, db key = some ⟨value, some expiry⟩ ∧
      deadline + clk.server ≤ (expiry + 1) * nanosPerMilli + clk.client

namespace Backed

variable {clk : Clocks} {key value : Bytes} {t t' : Nat} {db db' : Db} {deadline ms : Nat}

section

variable (h : Backed clk key value t db deadline)

include h

theorem of_key_eq (hdb : db' key = db key) : Backed clk key value t db' deadline := by
  rcases h with hdue | ⟨expiry, hkey, hle⟩
  · exact Or.inl hdue
  · exact Or.inr ⟨expiry, by rw [hdb, hkey], hle⟩

theorem later (hle : t ≤ t') : Backed clk key value t' db deadline := by
  rcases h with hdue | hkey
  · exact Or.inl (Nat.le_trans hdue (Nat.add_le_add_right hle _))
  · exact Or.inr hkey

/-- A deadline that has not come is backed by a key the server can see. -/
theorem find_of_lt (hlt : clk.clientAt t < deadline) :
    ∃ expiry, db.find (clk.serverAt t) key = some ⟨value, some expiry⟩ ∧
      deadline + clk.server ≤ (expiry + 1) * nanosPerMilli + clk.client := by
  rcases h with hdue | ⟨expiry, hkey, hle⟩
  · omega
  · refine ⟨expiry, Db.find_some_iff.mpr ⟨hkey, ?_⟩, hle⟩
    rw [Db.live_some, decide_eq_true_eq]
    -- otherwise the server's clock is past the expiry, and the client's past the deadline
    by_contra hdead
    have hserver : (expiry + 1) * nanosPerMilli ≤ t + clk.server :=
      (Nat.le_div_iff_mul_le (by decide)).mp (by unfold Clocks.serverAt at hdead; omega)
    unfold Clocks.clientAt at hlt
    omega

/-- If the server sees no such key, the deadline has come. -/
theorem due_of_get_ne (hget : db.get (clk.serverAt t) key ≠ some value) : deadline ≤ clk.clientAt t := by
  by_contra hlt
  rcases h.find_of_lt (by omega) with ⟨expiry, hfind, -⟩
  exact hget (Db.get_eq_some.mpr ⟨_, hfind, rfl⟩)

/-- If the key holds something else, the deadline has come. -/
theorem due_of_value_ne {e : Entry}
    (hkey : db key = some e) (hne : e.value ≠ value) : deadline ≤ clk.clientAt t := by
  rcases h with hdue | ⟨expiry, hheld, -⟩
  · exact hdue
  · rw [hheld] at hkey
    cases hkey
    exact absurd rfl hne

theorem evict (other : Bytes) : Backed clk key value t (db.evict (clk.serverAt t) other) deadline := by
  by_cases hk : key = other
  · subst hk
    unfold Db.evict
    split
    · rename_i hnone
      refine Or.inl (h.due_of_get_ne ?_)
      rw [Db.get_eq_none.mpr hnone]
      exact (Option.some_ne_none _).symm
    · exact h
  · apply h.of_key_eq
    exact Db.evict_of_ne hk

end

/-- A write made after `started` with the full time to live backs `started` plus that time. -/
theorem of_write {started : Nat} (hstart : started ≤ clk.clientAt t)
    (hkey : db key = some ⟨value, some (clk.serverAt t + ms)⟩) :
    Backed clk key value t db (started + ms * nanosPerMilli) :=
  Or.inr ⟨_, hkey, clk.write_within hstart⟩

/-- A later expiry of the same key backs what the earlier one did. -/
theorem of_later_expiry (h : Backed clk key value t db deadline) {expiry : Nat}
    (hkey : db' key = some ⟨value, some expiry⟩)
    (hle : ∀ old, db key = some ⟨value, some old⟩ → old ≤ expiry) :
    Backed clk key value t db' deadline := by
  rcases h with hdue | ⟨old, hold, hold'⟩
  · exact Or.inl hdue
  · refine Or.inr ⟨expiry, hkey, ?_⟩
    have hmul : (old + 1) * nanosPerMilli ≤ (expiry + 1) * nanosPerMilli :=
      Nat.mul_le_mul_right _ (Nat.succ_le_succ (hle old hold))
    omega

end Backed

end Yola.Redis
