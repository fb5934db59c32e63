import Yola.Gateway.System

/-!
# What backs a local deadline

The string of a binding is in the store only if its session asked for it, and then it was given the
common lease.  A deadline that a session counts from the start of a call is sound as long as the key
backs it, a later bind has displaced the binding, or the gateway itself has asked to remove it.
-/

namespace Yola.Gateway

open Text Redis Locate Locate.Redis

def Displaced (grants : List Grant) (b : GateBinding) : Prop :=
  ∃ newer older b' expiry, grants = newer ++ .bound b' expiry :: older ∧ b' ≠ b ∧
    b'.serviceName = b.serviceName ∧ b'.uid = b.uid ∧ ∃ expiry, .bound b expiry ∈ older

theorem Displaced.cons {grants : List Grant} {b : GateBinding} (h : Displaced grants b)
    (g : Grant) : Displaced (g :: grants) b := by
  rcases h with ⟨newer, older, b', expiry, rfl, h⟩
  exact ⟨g :: newer, older, b', expiry, rfl, h⟩

section

variable {γ κ : Type} (cfg : GatewayConfig γ κ)

/-- An entry with the string of session `k`, under its key and with a full lease at most. -/
def GatewayConfig.Leased (w : World) (key : Bytes) (e : Entry) (k : κ) : Prop :=
  ∃ b ttl, .bind b ttl ∈ w.issued ∧ b.bindingToken = cfg.token k ∧ validGateBinding b = true ∧
    key = bindingKey b ∧ e.value = marshalBinding b ∧
    ∀ ms, LeaseMillis ttl ms → ∃ expiry, e.expireAt = some expiry ∧ expiry ≤ cfg.store.millis w + (ms + 1)

structure StoreInv (w : World) : Prop where
  binds : ∀ b ttl, .bind b ttl ∈ w.issued →
    ∃ k, b.bindingToken = cfg.token k ∧ ttl = cfg.leaseTTL (cfg.home k)
  once : ∀ b b' ttl ttl', .bind b ttl ∈ w.issued → .bind b' ttl' ∈ w.issued →
    b.bindingToken = b'.bindingToken → b = b'
  renews : ∀ b ttl, .renew b ttl ∈ w.issued → ∃ b₀, .bind b₀ ttl ∈ w.issued ∧ b = readBack b₀
  unbinds : ∀ b, .unbind b ∈ w.issued → ∃ b₀ ttl, .bind b₀ ttl ∈ w.issued ∧ b = readBack b₀
  entries : ∀ serviceName uid e b k, w.db (gateKey serviceName uid) = some e →
    e.value = marshalBinding b → b.bindingToken = cfg.token k → cfg.Leased w (gateKey serviceName uid) e k

inductive Effect (w : World) : World → Prop where
  | kept : Effect w w
  | bound (b ttl ms) (issued : .bind b ttl ∈ w.issued)
      (valid : validGateBinding b = true) (lease : LeaseMillis ttl ms) :
      Effect w { w with
        db := w.db.put (bindingKey b) (some ⟨marshalBinding b, some (cfg.store.millis w + (ms + 1))⟩)
        grants := .bound (readBack b) (cfg.store.millis w + (ms + 1)) :: w.grants }
  | renewed (b ttl ms) (issued : .bind b ttl ∈ w.issued)
      (valid : validGateBinding b = true) (lease : LeaseMillis ttl ms) (e : Entry)
      (held : w.db (bindingKey b) = some e) (value : e.value = marshalBinding b) :
      Effect w { w with
        db := w.db.put (bindingKey b) (some ⟨marshalBinding b, some (cfg.store.millis w + (ms + 1))⟩)
        grants := .renewed (readBack b) (cfg.store.millis w + (ms + 1)) :: w.grants }
  | unbound (b ttl) (issued : .bind b ttl ∈ w.issued)
      (valid : validGateBinding b = true) (asked : .unbind (readBack b) ∈ w.issued) (e : Entry)
      (held : w.db (bindingKey b) = some e) (value : e.value = marshalBinding b) :
      Effect w { w with db := w.db.put (bindingKey b) none }

/-- The deadline is not later than the instant at which a key with this expiry is gone. -/
def GatewayConfig.Within (g : γ) (deadline expiry : Nat) : Prop :=
  deadline + cfg.store.serverClock ≤ (expiry + 1) * nanosPerMilli + cfg.clientClock g

/-- The store has held the binding of session `k`. -/
def GatewayConfig.Known (w : World) (k : κ) (b : GateBinding) : Prop :=
  ∃ b₀ ttl, .bind b₀ ttl ∈ w.issued ∧ b₀.bindingToken = cfg.token k ∧
    validGateBinding b₀ = true ∧ b = readBack b₀ ∧ ∃ expiry, .bound b expiry ∈ w.grants

/-- The deadline is backed by the key, unless the binding was displaced or is being removed. -/
def GatewayConfig.Held (w : World) (k : κ) (b : GateBinding) (deadline : Nat) : Prop :=
  Backed (cfg.clocks (cfg.home k)) (bindingKey b) (marshalBinding b) w.t w.db deadline ∨
    Displaced w.grants (readBack b) ∨ .unbind (readBack b) ∈ w.issued

/-- The deadline of session `k` for a binding is within what the store granted, and held by it. -/
def GatewayConfig.Sound (w : World) (k : κ) (b : GateBinding) (deadline : Nat) : Prop :=
  ∃ b₀ ttl, .bind b₀ ttl ∈ w.issued ∧ b₀.bindingToken = cfg.token k ∧
    validGateBinding b₀ = true ∧ b = readBack b₀ ∧ (∃ expiry, .bound b expiry ∈ w.grants) ∧
    (∃ g ∈ w.grants, g.binding = b ∧ cfg.Within (cfg.home k) deadline g.expiry) ∧
    cfg.Held w k b₀ deadline

end

variable {γ κ : Type} {cfg : GatewayConfig γ κ} {w w' : World} {k : κ} {b b' : GateBinding}
  {deadline : Nat} {ttl : Duration} {ms : Nat} {lease : GateLease}

theorem GatewayConfig.Sound.known (h : cfg.Sound w k b deadline) : cfg.Known w k b := by
  rcases h with ⟨b₀, ttl, hiss, htok, hval, hb, hbnd, -⟩
  exact ⟨b₀, ttl, hiss, htok, hval, hb, hbnd⟩

-- One string belongs to one session: the token survives the encoding.
theorem session_of_marshal_eq {k' : κ} (hb : b.bindingToken = cfg.token k)
    (hb' : b'.bindingToken = cfg.token k') (h : marshalBinding b = marshalBinding b') : k = k' := by
  have hread := unmarshalBinding_marshal b
  rw [h, unmarshalBinding_marshal b', Option.some.injEq] at hread
  have htok : toValid b'.bindingToken = toValid b.bindingToken :=
    congrArg GateBinding.bindingToken hread
  rw [hb, hb', toValid_eq_self (cfg.token_utf8 k), toValid_eq_self (cfg.token_utf8 k')] at htok
  exact cfg.distinct htok.symm

theorem readBack_token (hb : b.bindingToken = cfg.token k) : (readBack b).bindingToken = cfg.token k := by
  change toValid b.bindingToken = cfg.token k
  rw [hb, toValid_eq_self (cfg.token_utf8 k)]

theorem leaseMillis_toNat (h : LeaseMillis ttl ms) : ttl.milliseconds.toNat = ms + 1 := by
  unfold LeaseMillis at h
  omega

theorem leaseMillis_unique {ms' : Nat} (h : LeaseMillis ttl ms) (h' : LeaseMillis ttl ms') : ms = ms' := by
  unfold LeaseMillis at h h'
  omega

namespace StoreInv

variable {ttl : Duration}

theorem serve_bind (hiss : .bind b ttl ∈ w.issued) : Effect cfg w (cfg.store.serve w (.bind b ttl)) := by
  rw [StoreConfig.serve_bind]
  unfold StoreConfig.bindGrants StoreConfig.bind
  cases hstores : cfg.store.reading.stores cfg.store.decode (cfg.store.millis w) w.db b ttl with
  | true =>
    obtain ⟨hval, ms, hms, hdb, -⟩ := BindReading.bindGate_of_stores hstores
    rw [hdb, if_pos rfl, leaseMillis_toNat hms]
    exact .bound b ttl ms hiss hval hms
  | false =>
    obtain ⟨-, hdb⟩ := BindReading.bindGate_of_not_stores hstores
    rw [hdb, if_neg (by decide)]
    exact .kept

variable (hinv : StoreInv cfg w)

include hinv

-- The string under the key of a binding that read back from the store is that of its session.
theorem held_value {e : Entry}
    (hiss : .bind b ttl ∈ w.issued) (hfind : w.db (bindingKey (readBack b)) = some e)
    (hval : e.value = marshalBinding (readBack b)) :
    validGateBinding b = true ∧ bindingKey (readBack b) = bindingKey b ∧ e.value = marshalBinding b := by
  obtain ⟨k, htok, -⟩ := hinv.binds b ttl hiss
  obtain ⟨b₀, ttl₀, hiss₀, htok₀, hval₀, hkey₀, hvalue₀, -⟩ :=
    hinv.entries _ _ e _ k hfind hval (readBack_token htok)
  have hb : b₀ = b := hinv.once _ _ _ _ hiss₀ hiss (htok₀.trans htok.symm)
  subst hb
  exact ⟨hval₀, hkey₀, hvalue₀⟩

theorem serve_renew (hiss : .renew b ttl ∈ w.issued) : Effect cfg w (cfg.store.serve w (.renew b ttl)) := by
  obtain ⟨b₀, hiss₀, rfl⟩ := hinv.renews b ttl hiss
  rw [StoreConfig.serve_renew]
  unfold StoreConfig.renewGrants StoreConfig.renew
  rcases renewGateLease_effect cfg.store.decode (cfg.store.millis w) w.db (readBack b₀) ttl with
    ⟨⟨e, herr⟩, hdb⟩ | ⟨-, ms, left, hms, hview, heq⟩
  · rw [herr, hdb]
    exact .kept
  · obtain ⟨expiry, hfind, -, -⟩ := gateView_held_iff.mp hview
    have hkey := (Db.find_some_iff.mp hfind).1
    obtain ⟨hvalid, hkey₀, hval⟩ := hinv.held_value hiss₀ hkey rfl
    rw [heq, Db.pexpire_of_find hfind, leaseMillis_toNat hms, hval, hkey₀]
    exact .renewed b₀ ttl ms hiss₀ hvalid hms _ (hkey₀ ▸ hkey) hval

theorem serve_unbind (hiss : .unbind b ∈ w.issued) : Effect cfg w (cfg.store.serve w (.unbind b)) := by
  obtain ⟨b₀, ttl, hiss₀, rfl⟩ := hinv.unbinds b hiss
  rw [StoreConfig.serve_unbind]
  unfold StoreConfig.unbind
  rcases unbindGate_effect cfg.store.decode (cfg.store.millis w) w.db (readBack b₀) with
    hdb | ⟨-, left, hview, heq⟩
  · rw [hdb]
    exact .kept
  · obtain ⟨expiry, hfind, -, -⟩ := gateView_held_iff.mp hview
    have hkey := (Db.find_some_iff.mp hfind).1
    obtain ⟨hval, hkey₀, hvalue⟩ := hinv.held_value hiss₀ hkey rfl
    rw [heq, Db.del_of_find hfind, hkey₀]
    exact .unbound b₀ ttl hiss₀ hval hiss _ (hkey₀ ▸ hkey) hvalue

theorem serve_effect {c : StoreCall} (hc : c ∈ w.issued) : Effect cfg w (cfg.store.serve w c) := by
  cases c with
  | bind => exact serve_bind hc
  | renew => exact hinv.serve_renew hc
  | unbind => exact hinv.serve_unbind hc

end StoreInv

/-! ## What stays sound -/

namespace StoreInv

variable {ttl ttl' : Duration}

variable (hinv : StoreInv cfg w)

include hinv

-- The strings of the sessions keep their owner and their lease when one key is written or removed.
theorem put {key : Bytes} {entry : Option Entry} {grants : List Grant}
    (hent : ∀ e b k, entry = some e → e.value = marshalBinding b →
      b.bindingToken = cfg.token k → cfg.Leased w key e k) :
    StoreInv cfg { w with db := w.db.put key entry, grants := grants } := by
  refine ⟨hinv.binds, hinv.once, hinv.renews, hinv.unbinds, fun sn uid e b k hkey hval htok => ?_⟩
  change w.db.put key entry (gateKey sn uid) = some e at hkey
  by_cases hk : gateKey sn uid = key
  · rw [hk, Db.put_self] at hkey
    rw [hk]
    exact hent e b k hkey hval htok
  · rw [Db.put_of_ne _ hk] at hkey
    exact hinv.entries sn uid e b k hkey hval htok

theorem effect (h : Effect cfg w w') : StoreInv cfg w' := by
  cases h with
  | kept => exact hinv
  | bound b₀ ttl ms issued valid lease | renewed b₀ ttl ms issued valid lease =>
    refine hinv.put ?_
    rintro e b k ⟨⟩ hval htok
    obtain ⟨k₀, htok₀, -⟩ := hinv.binds b₀ ttl issued
    have hk : k₀ = k := session_of_marshal_eq htok₀ htok hval
    subst hk
    refine ⟨b₀, ttl, issued, htok₀, valid, rfl, rfl, fun ms' hms' => ⟨_, rfl, ?_⟩⟩
    rw [leaseMillis_unique lease hms']
  | unbound =>
    refine hinv.put ?_
    rintro e b k ⟨⟩

theorem elapse (ns : Nat) : StoreInv cfg { w with t := w.t + ns } := by
  refine ⟨hinv.binds, hinv.once, hinv.renews, hinv.unbinds, fun sn uid e b k hkey hval htok => ?_⟩
  obtain ⟨b₀, ttl, hiss, htok₀, hvalid, hkey₀, hval₀, hexp⟩ :=
    hinv.entries sn uid e b k hkey hval htok
  refine ⟨b₀, ttl, hiss, htok₀, hvalid, hkey₀, hval₀, fun ms hms => ?_⟩
  obtain ⟨expiry, hexpire, hle⟩ := hexp ms hms
  have hmono : cfg.store.millis w ≤ cfg.store.millis { w with t := w.t + ns } :=
    Nat.div_le_div_right (by change w.t + _ ≤ w.t + ns + _; omega)
  exact ⟨expiry, hexpire, by omega⟩

-- Keys may go away, and others than the gate keys may change.
theorem shrink {db : Db} (hdb : ∀ sn uid e, db (gateKey sn uid) = some e → w.db (gateKey sn uid) = some e) :
    StoreInv cfg { w with db := db } :=
  ⟨hinv.binds, hinv.once, hinv.renews, hinv.unbinds, fun sn uid e b k hkey hval htok =>
    hinv.entries sn uid e b k (hdb sn uid e hkey) hval htok⟩

theorem ttl_eq (h : .bind b ttl ∈ w.issued) (h' : .bind b ttl' ∈ w.issued) : ttl = ttl' := by
  obtain ⟨k, htok, rfl⟩ := hinv.binds b ttl h
  obtain ⟨k', htok', rfl⟩ := hinv.binds b ttl' h'
  rw [cfg.distinct (htok.symm.trans htok')]

-- A key that holds the string of a binding expires no later than a lease written now.
theorem expiry_le {ms old : Nat} (hiss : .bind b ttl ∈ w.issued) (hms : LeaseMillis ttl ms)
    (hold : w.db (bindingKey b) = some ⟨marshalBinding b, some old⟩) : old ≤ cfg.store.millis w + (ms + 1) := by
  obtain ⟨k, htok, -⟩ := hinv.binds b ttl hiss
  obtain ⟨b', ttl', hiss', htok', -, -, -, hexp⟩ :=
    hinv.entries _ _ _ b k hold rfl htok
  have hb : b' = b := hinv.once _ _ _ _ hiss' hiss (htok'.trans htok.symm)
  subst hb
  rw [hinv.ttl_eq hiss' hiss] at hexp
  obtain ⟨expiry, hexpire, hle⟩ := hexp ms hms
  cases hexpire
  exact hle

-- Two bindings that were asked for have different strings.
theorem marshal_ne (h : .bind b ttl ∈ w.issued)
    (h' : .bind b' ttl' ∈ w.issued) (hne : b ≠ b') : marshalBinding b ≠ marshalBinding b' := by
  intro heq
  obtain ⟨k, htok, -⟩ := hinv.binds b ttl h
  obtain ⟨k', htok', -⟩ := hinv.binds b' ttl' h'
  have hk : k = k' := session_of_marshal_eq htok htok' heq
  subst hk
  exact hne (hinv.once _ _ _ _ h h' (htok.trans htok'.symm))

-- If both belong to one user, the later bind displaces the earlier binding.
theorem displaces {expiry : Nat} (h : .bind b ttl ∈ w.issued) (h' : .bind b' ttl' ∈ w.issued) (hne : b ≠ b')
    (hval : validGateBinding b = true) (hval' : validGateBinding b' = true)
    (hkey : bindingKey b = bindingKey b') (hbnd : ∃ e, .bound (readBack b) e ∈ w.grants) :
    Displaced (.bound (readBack b') expiry :: w.grants) (readBack b) := by
  obtain ⟨hs, hu, -⟩ := readBack_valid hval
  obtain ⟨hs', hu', -⟩ := readBack_valid hval'
  obtain ⟨hsvc, huid⟩ := gateKey_inj (validGateBinding_iff.mp hval).2.1
    (validGateBinding_iff.mp hval').2.1 hkey
  refine ⟨[], w.grants, readBack b', expiry, rfl, fun heq => ?_, ?_, ?_, hbnd⟩
  · obtain ⟨k, htok, -⟩ := hinv.binds b ttl h
    obtain ⟨k', htok', -⟩ := hinv.binds b' ttl' h'
    have hsame := congrArg GateBinding.bindingToken heq
    rw [readBack_token htok, readBack_token htok'] at hsame
    exact hne (hinv.once _ _ _ _ h h' (by rw [htok, htok', hsame]))
  · rw [hs, hs', hsvc]
  · rw [hu, hu', huid]

end StoreInv

namespace GatewayConfig

theorem Held.put {key : Bytes} {entry : Option Entry} {grants : List Grant} (h : cfg.Held w k b deadline)
    (hgrants : Displaced w.grants (readBack b) → Displaced grants (readBack b))
    (hkey : bindingKey b = key →
      Backed (cfg.clocks (cfg.home k)) (bindingKey b) (marshalBinding b) w.t w.db deadline →
        cfg.Held { w with db := w.db.put key entry, grants := grants } k b deadline) :
    cfg.Held { w with db := w.db.put key entry, grants := grants } k b deadline := by
  rcases h with hback | hdispl | hasked
  · by_cases hk : bindingKey b = key
    · exact hkey hk hback
    · exact .inl (hback.of_key_eq (Db.put_of_ne _ hk))
  · exact .inr (.inl (hgrants hdispl))
  · exact .inr (.inr hasked)

theorem Held.effect {ttl : Duration} (h : cfg.Held w k b deadline) (hinv : StoreInv cfg w)
    (hiss : .bind b ttl ∈ w.issued) (hval : validGateBinding b = true)
    (hbnd : ∃ e, .bound (readBack b) e ∈ w.grants) (heff : Effect cfg w w') :
    cfg.Held w' k b deadline := by
  -- the key holds the string of another session already
  have hoth {b₁ : GateBinding} {ttl₁ : Duration} {e : Entry} (issued : .bind b₁ ttl₁ ∈ w.issued)
      (held : w.db (bindingKey b₁) = some e) (value : e.value = marshalBinding b₁)
      (hkey : bindingKey b = bindingKey b₁) (hb : b ≠ b₁)
      (hback : Backed (cfg.clocks (cfg.home k)) (bindingKey b) (marshalBinding b) w.t w.db deadline) :=
    hback.due_of_value_ne (hkey ▸ held) (value ▸ hinv.marshal_ne issued hiss hb.symm)
  cases heff with
  | kept => exact h
  | bound b₁ ttl₁ ms issued valid lease =>
    refine h.put (·.cons _) fun hkey hback => ?_
    by_cases hb : b = b₁
    · subst hb
      exact .inl (hback.of_later_expiry (Db.put_self _) fun old hold => hinv.expiry_le issued lease hold)
    · exact .inr (.inl (hinv.displaces hiss issued hb hval valid hkey hbnd))
  | renewed b₁ ttl₁ ms issued valid lease e held value =>
    refine h.put (·.cons _) fun hkey hback => ?_
    by_cases hb : b = b₁
    · subst hb
      exact .inl (hback.of_later_expiry (Db.put_self _) fun old hold => hinv.expiry_le issued lease hold)
    · exact .inl (.inl (hoth issued held value hkey hb hback))
  | unbound b₁ ttl₁ issued valid asked e held value =>
    refine h.put id fun hkey hback => ?_
    by_cases hb : b = b₁
    · subst hb
      exact .inr (.inr asked)
    · exact .inl (.inl (hoth issued held value hkey hb hback))

theorem grants_of_effect (heff : Effect cfg w w') {g : Grant} (hg : g ∈ w.grants) : g ∈ w'.grants := by
  cases heff with
  | kept | unbound => exact hg
  | bound | renewed => exact List.mem_cons_of_mem _ hg

theorem time_of_effect (heff : Effect cfg w w') : w'.t = w.t := by
  cases heff <;> rfl

theorem issued_of_effect (heff : Effect cfg w w') : w'.issued = w.issued := by
  cases heff <;> rfl

theorem Known.effect (h : cfg.Known w k b) (heff : Effect cfg w w') : cfg.Known w' k b := by
  rcases h with ⟨b₀, ttl, hiss, htok, hval, hb, e, hbnd⟩
  exact ⟨b₀, ttl, (issued_of_effect heff).symm ▸ hiss, htok, hval, hb, e,
    grants_of_effect heff hbnd⟩

theorem Sound.effect (h : cfg.Sound w k b deadline) (hinv : StoreInv cfg w)
    (heff : Effect cfg w w') : cfg.Sound w' k b deadline := by
  rcases h with ⟨b₀, ttl, hiss, htok, hval, rfl, hbnd, ⟨g, hg, hgb, hwith⟩, hheld⟩
  refine ⟨b₀, ttl, (issued_of_effect heff).symm ▸ hiss, htok, hval, rfl, ?_,
    ⟨g, grants_of_effect heff hg, hgb, hwith⟩,
    hheld.effect hinv hiss hval hbnd heff⟩
  obtain ⟨e, he⟩ := hbnd
  exact ⟨e, grants_of_effect heff he⟩

/-- The world changes without a write to a gate key: time passes, keys go, calls are issued. -/
structure Drifts (w w' : World) : Prop where
  time : w.t ≤ w'.t
  issued : ∀ c ∈ w.issued, c ∈ w'.issued
  grants : w'.grants = w.grants
  backed : ∀ clk : Clocks, clk.server = cfg.store.serverClock → ∀ serviceName uid value deadline,
    Backed clk (gateKey serviceName uid) value w.t w.db deadline →
      Backed clk (gateKey serviceName uid) value w'.t w'.db deadline

theorem Known.drift (h : cfg.Known w k b) (hdrift : cfg.Drifts w w') : cfg.Known w' k b := by
  rcases h with ⟨b₀, ttl, hiss, htok, hval, hb, hbnd⟩
  rw [← hdrift.grants] at hbnd
  exact ⟨b₀, ttl, hdrift.issued _ hiss, htok, hval, hb, hbnd⟩

theorem Sound.drift (h : cfg.Sound w k b deadline) (hdrift : cfg.Drifts w w') :
    cfg.Sound w' k b deadline := by
  rcases h with ⟨b₀, ttl, hiss, htok, hval, rfl, hbnd, hgrant, hheld⟩
  rw [← hdrift.grants] at hbnd hgrant
  refine ⟨b₀, ttl, hdrift.issued _ hiss, htok, hval, rfl, hbnd, hgrant, ?_⟩
  rcases hheld with hback | hdispl | hasked
  · exact .inl (hdrift.backed _ rfl _ _ _ _ hback)
  · rw [← hdrift.grants] at hdispl
    exact .inr (.inl hdispl)
  · exact .inr (.inr (hdrift.issued _ hasked))

end GatewayConfig

/-! ## Calls that are issued -/

theorem drifts_issue (w : World) (c : StoreCall) : cfg.Drifts w (w.issue c) where
  time := Nat.le_refl _
  issued _ h := List.mem_cons_of_mem _ h
  grants := rfl
  backed _ _ _ _ _ _ h := h

namespace StoreInv

variable (hinv : StoreInv cfg w)

include hinv

theorem issue {c : StoreCall} (hbind : ∀ b ttl, c = .bind b ttl → ∃ k, b.bindingToken = cfg.token k ∧
      ttl = cfg.leaseTTL (cfg.home k) ∧
      ∀ b' ttl', .bind b' ttl' ∈ w.issued → b'.bindingToken ≠ b.bindingToken)
    (hrenew : ∀ b ttl, c = .renew b ttl → ∃ b₀, .bind b₀ ttl ∈ w.issued ∧ b = readBack b₀)
    (hunbind : ∀ b, c = .unbind b → ∃ b₀ ttl, .bind b₀ ttl ∈ w.issued ∧ b = readBack b₀) :
    StoreInv cfg (w.issue c) where
  binds b' ttl h := by
    rcases List.mem_cons.mp h with heq | hold
    · obtain ⟨k, htoken, httl, -⟩ := hbind b' ttl heq.symm
      exact ⟨k, htoken, httl⟩
    · exact hinv.binds b' ttl hold
  once b₁ b₂ ttl₁ ttl₂ h₁ h₂ hsame := by
    rcases List.mem_cons.mp h₁ with heq₁ | hold₁ <;> rcases List.mem_cons.mp h₂ with heq₂ | hold₂
    · cases heq₁.trans heq₂.symm
      rfl
    · obtain ⟨-, -, -, hfresh⟩ := hbind b₁ ttl₁ heq₁.symm
      exact absurd hsame.symm (hfresh b₂ ttl₂ hold₂)
    · obtain ⟨-, -, -, hfresh⟩ := hbind b₂ ttl₂ heq₂.symm
      exact absurd hsame (hfresh b₁ ttl₁ hold₁)
    · exact hinv.once b₁ b₂ ttl₁ ttl₂ hold₁ hold₂ hsame
  renews b' ttl h := by
    obtain ⟨b₀, hiss, hb⟩ : ∃ b₀, .bind b₀ ttl ∈ w.issued ∧ b' = readBack b₀ :=
      (List.mem_cons.mp h).elim (fun heq => hrenew b' ttl heq.symm) (hinv.renews b' ttl)
    exact ⟨b₀, List.mem_cons_of_mem _ hiss, hb⟩
  unbinds b' h := by
    obtain ⟨b₀, ttl, hiss, hb⟩ : ∃ b₀ ttl, .bind b₀ ttl ∈ w.issued ∧ b' = readBack b₀ :=
      (List.mem_cons.mp h).elim (fun heq => hunbind b' heq.symm) (hinv.unbinds b')
    exact ⟨b₀, ttl, List.mem_cons_of_mem _ hiss, hb⟩
  entries serviceName uid e b' k hkey hval htoken := by
    obtain ⟨b₀, ttl, hiss, h⟩ := hinv.entries serviceName uid e b' k hkey hval htoken
    exact ⟨b₀, ttl, List.mem_cons_of_mem _ hiss, h⟩

theorem issue_bind (htok : b.bindingToken = cfg.token k)
    (hfresh : ∀ b' ttl, .bind b' ttl ∈ w.issued → b'.bindingToken ≠ cfg.token k) :
    StoreInv cfg (w.issue (.bind b (cfg.leaseTTL (cfg.home k)))) := by
  refine hinv.issue ?_ (by rintro _ _ ⟨⟩) (by rintro _ ⟨⟩)
  rintro b' ttl ⟨⟩
  refine ⟨k, htok, rfl, ?_⟩
  rw [htok]
  exact hfresh

theorem issue_renew (hknown : cfg.Known w k b) : StoreInv cfg (w.issue (.renew b (cfg.leaseTTL (cfg.home k)))) := by
  refine hinv.issue (by rintro _ _ ⟨⟩) ?_ (by rintro _ ⟨⟩)
  rintro b' ttl ⟨⟩
  obtain ⟨b₀, ttl₀, hiss, htok, -, hb, -⟩ := hknown
  obtain ⟨k₀, htok₀, rfl⟩ := hinv.binds b₀ ttl₀ hiss
  rw [cfg.distinct (htok.symm.trans htok₀)]
  exact ⟨b₀, hiss, hb⟩

theorem issue_unbind (hknown : cfg.Known w k b) : StoreInv cfg (w.issue (.unbind b)) := by
  refine hinv.issue (by rintro _ _ ⟨⟩) (by rintro _ _ ⟨⟩) ?_
  rintro b' ⟨⟩
  obtain ⟨b₀, ttl, hiss, -, -, hb, -⟩ := hknown
  exact ⟨b₀, ttl, hiss, hb⟩

end StoreInv

/-! ## Replies -/

theorem addDuration_granted (h : LeaseMillis ttl ms) (t : Nat) :
    addDuration t (grantedLease b ms).ttl = t + (ms + 1) * nanosPerMilli := by
  have hns := leaseMillis_ns h
  have hupper := ttl.upper
  have hms : Duration.millisecond = 1000000 := rfl
  rw [hms] at hns
  have hgranted : (grantedLease b ms).ttl.ns = (ms + 1 : Nat) * Duration.millisecond := by
    apply Duration.wrap_ns <;> rw [hms] <;> omega
  rw [addDuration, hgranted, hms]
  unfold nanosPerMilli
  omega

theorem sound_of_bind_ok {boundAt : Nat} {previous : Option GateBinding} (hiss : .bind b ttl ∈ w.issued)
    (htok : b.bindingToken = cfg.token k) (hstart : boundAt ≤ w.t + cfg.clientClock (cfg.home k))
    (hok : (cfg.store.bind w b ttl).1 = .ok (lease, previous)) :
    cfg.Sound (cfg.store.serve w (.bind b ttl)) k lease.binding (addDuration boundAt lease.ttl) := by
  obtain ⟨hstores, hval, ms, hms, hdb, rfl⟩ := StoreConfig.bind_ok hok
  rw [addDuration_granted hms, StoreConfig.serve_bind, hdb]
  unfold StoreConfig.bindGrants
  rw [if_pos hstores, leaseMillis_toNat hms]
  refine ⟨b, ttl, hiss, htok, hval, rfl, ⟨_, List.mem_cons_self⟩,
    ⟨_, List.mem_cons_self, rfl, ?_⟩, .inl ?_⟩
  · exact (cfg.clocks (cfg.home k)).write_within hstart
  · exact Backed.of_write hstart (Db.put_self _)

theorem sound_of_renew_ok {renewedAt : Nat} (hinv : StoreInv cfg w) (hknown : cfg.Known w k b)
    (hstart : renewedAt ≤ w.t + cfg.clientClock (cfg.home k))
    (hok : (cfg.store.renew w b ttl).1 = .ok lease) :
    cfg.Sound (cfg.store.serve w (.renew b ttl)) k b (addDuration renewedAt lease.ttl) := by
  obtain ⟨b₀, ttl₀, hiss, htok, hval, rfl, expiry₀, hbnd⟩ := hknown
  rw [StoreConfig.serve_renew]
  unfold StoreConfig.renewGrants StoreConfig.renew at *
  rcases renewGateLease_effect cfg.store.decode (cfg.store.millis w) w.db (readBack b₀) ttl with
    ⟨⟨e, herr⟩, -⟩ | ⟨-, ms, left, hms, hview, heq⟩
  · rw [herr] at hok
    cases hok
  · obtain ⟨expiry, hfind, -, -⟩ := gateView_held_iff.mp hview
    obtain ⟨-, hkey, hvalue⟩ := hinv.held_value hiss (Db.find_some_iff.mp hfind).1 rfl
    rw [heq] at hok
    cases hok
    rw [heq, addDuration_granted hms, Db.pexpire_of_find hfind, leaseMillis_toNat hms, hvalue, hkey]
    refine ⟨b₀, ttl₀, hiss, htok, hval, rfl, ⟨_, List.mem_cons_of_mem _ hbnd⟩,
      ⟨_, List.mem_cons_self, rfl, ?_⟩, .inl ?_⟩
    · exact (cfg.clocks (cfg.home k)).write_within hstart
    · exact Backed.of_write hstart (Db.put_self _)

end Yola.Gateway
