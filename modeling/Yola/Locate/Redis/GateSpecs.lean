import Yola.Locate.Redis.GateEncoding

/-!
# What the gate calls do

One equation for each call with arguments it accepts, in terms of what the user's key holds.
-/

namespace Yola.Locate.Redis

open Text Yola.Redis Lua

def LeaseMillis (ttl : Duration) (ms : Nat) : Prop := ttl.milliseconds = (ms + 1 : Nat)

section Leases

variable {ttl : Duration} {ms : Nat}

theorem exists_leaseMillis (h : Duration.millisecond ≤ ttl.ns) : ∃ ms, LeaseMillis ttl ms := by
  have hpos := Duration.one_le_milliseconds h
  exact ⟨(ttl.milliseconds - 1).toNat, by unfold LeaseMillis; omega⟩

theorem leaseMilliseconds_ok (h : LeaseMillis ttl ms) : leaseMilliseconds ttl = .ok (ms + 1 : Nat) := by
  rw [leaseMilliseconds, h, if_neg (by omega)]

-- A call that is not refused has a lease of at least a millisecond.
theorem leaseMilliseconds_cases (ttl : Duration) :
    leaseMilliseconds ttl = .error (.locate .invalidGateTTL) ∨ ∃ ms, LeaseMillis ttl ms := by
  unfold leaseMilliseconds
  by_cases h : ttl.milliseconds ≤ 0
  · exact Or.inl (if_pos h)
  · exact Or.inr ⟨(ttl.milliseconds - 1).toNat, by unfold LeaseMillis; omega⟩

theorem leaseMillis_ns (h : LeaseMillis ttl ms) : (ms + 1 : Nat) * Duration.millisecond ≤ ttl.ns := by
  have hms : Duration.millisecond = 1000000 := rfl
  unfold LeaseMillis Duration.milliseconds at h
  rw [hms] at h ⊢
  by_cases hns : 0 ≤ ttl.ns
  · rw [Int.tdiv_eq_ediv_of_nonneg hns] at h
    omega
  · -- the quotient of a negative duration is not positive
    have hneg : ttl.ns.tdiv 1000000 = -((-ttl.ns) / 1000000) := by
      rw [← Int.tdiv_eq_ediv_of_nonneg (by omega), Int.neg_tdiv, Int.neg_neg]
    omega

theorem leaseMillis_le_max (h : LeaseMillis ttl ms) : ((ms + 1 : Nat) : Int) ≤ maxTTLMillis := by
  have hns := leaseMillis_ns h
  have hupper := ttl.upper
  have hms : Duration.millisecond = 1000000 := rfl
  have hmax : maxTTLMillis = 9223372036854 := by decide
  rw [hms] at hns
  rw [hmax]
  norm_num at hupper
  omega

end Leases

/-! ## Decoding what the scripts reply -/

theorem decodeLease_marshal {b : GateBinding} (hb : validGateBinding b = true) {ttl : Nat}
    (hpos : 0 < ttl) (hmax : (ttl : Int) ≤ maxTTLMillis) :
    decodeLease [.int 1, .bulk (marshalBinding b), .int ttl] b.serviceName b.uid =
      .ok ⟨readBack b, .ofMillis ttl⟩ := by
  unfold decodeLease
  simp only [decodeBinding_marshal hb]
  exact if_neg (by omega)

section Replies

variable {s u raw : Bytes} {ttl : Int} {lease : GateLease}

variable (h : decodeLease [.int 1, .bulk raw, .int ttl] s u = .ok lease)

include h

theorem bindGateReply_missing : bindGateReply [.int 1, .bulk raw, .int ttl] s u = .ok (lease, none) := by
  simp only [bindGateReply, scriptStatus, statusOK, if_true, decodeBindGateResult, List.length_cons,
    List.length_nil, List.take, List.drop, h]
  rfl

theorem bindGateReply_held {current : Bytes} :
    bindGateReply [.int 1, .bulk raw, .int ttl, .bulk current] s u = match decodeBinding current s u with
      | .error e => .error e | .ok previous => .ok (lease, some previous) := by
  simp only [bindGateReply, scriptStatus, statusOK, if_true, decodeBindGateResult, List.length_cons,
    List.length_nil, List.take, List.drop, h]
  rfl

end Replies

variable (decode : Decode) (now : Nat) (db : Db) {b : GateBinding} {ttl : Duration} {ms : Nat}

def grantedLease (b : GateBinding) (ms : Nat) : GateLease := ⟨readBack b, .ofMillis (ms + 1 : Nat)⟩

def boundDb (db : Db) (now : Nat) (b : GateBinding) (ms : Nat) : Db :=
  db.psetex now (bindingKey b) (ms + 1) (marshalBinding b)

theorem parseNat_leaseMillis (h : LeaseMillis ttl ms) :
    parseNat (formatInt ttl.milliseconds) = some (ms + 1) := by
  rw [h, parseNat_formatInt (by omega)]
  rfl

theorem closedBindGate_eq (hb : validGateBinding b = true) (hms : LeaseMillis ttl ms) :
    closedBindGate decode now b ttl db =
      (gateView db now (bindingKey b)).fold (.ok (grantedLease b ms, none), boundDb db now b ms)
        (.error (.locate .invalidGateLease), db)
        (fun current _ =>
          if luaValidBinding decode b.serviceName b.uid current = true then
            (match decodeBinding current b.serviceName b.uid with
              | .error e => .error e
              | .ok previous => .ok (grantedLease b ms, some previous), boundDb db now b ms)
          else (.error (.locate .invalidGateBinding), db)) := by
  have hrun := runScript_bindGate decode now db (bindingKey b) _ (marshalBinding b) b.serviceName
    b.uid ms (parseNat_leaseMillis hms)
  have hlease := decodeLease_marshal hb (Nat.succ_pos ms) (leaseMillis_le_max hms)
  unfold LeaseMillis at hms
  rw [closedBindGate, bindGateWith, hb, if_neg (by decide), leaseMilliseconds_ok hms]
  rw [hms] at hrun
  cases hview : gateView db now (bindingKey b) with
  | missing =>
    rw [hview, GateView.fold] at hrun
    rw [GateView.fold]
    refine (Call.andThen_ok hrun _).trans ?_
    rw [bindGateReply_missing hlease]
    rfl
  | badLease =>
    rw [hview, GateView.fold] at hrun
    exact Call.andThen_ok hrun _
  | held current =>
    rw [hview, GateView.fold] at hrun
    rw [GateView.fold]
    by_cases hok : luaValidBinding decode b.serviceName b.uid current = true
    · rw [if_pos hok] at hrun ⊢
      refine (Call.andThen_ok hrun _).trans ?_
      rw [bindGateReply_held hlease]
      rfl
    · rw [if_neg hok] at hrun ⊢
      exact Call.andThen_ok hrun _

-- The three other calls decode the reply of a script over a held key.
theorem andThen_leased {α : Type} {script : Call (List Reply)} {db : Db} {view : GateView}
    {missing badLease : List Reply} {held : Bytes → Nat → Except CallError (List Reply) × Db}
    (hrun : script db = view.fold (.ok missing, db) (.ok badLease, db) held)
    (f : List Reply → Except CallError α) :
    script.andThen f db = view.fold (f missing, db) (f badLease, db)
      (fun c ttl => Call.andThen (fun _ => held c ttl) f db) := by
  cases view with
  | missing | badLease => exact Call.andThen_ok hrun f
  | held c ttl =>
    change script db = held c ttl at hrun
    change _ = Call.andThen (fun _ => held c ttl) f db
    unfold Call.andThen
    rw [hrun]

theorem locateGate_eq {s u : Bytes} (hs : validServiceName s = true) (hu : validUID u = true) :
    locateGate decode now s u db =
      (gateView db now (gateKey s u)).fold (.error (.locate .gateNotFound), db)
        (.error (.locate .invalidGateLease), db)
        (fun current ttl => (decodeLease [.int 1, .bulk current, .int ttl] s u, db)) := by
  have hrun := runScript_locateGate decode now db (gateKey s u)
  rw [locateGate, hs, hu, if_neg (by decide), andThen_leased hrun]
  rfl

theorem renewGateLease_eq (hb : validGateBinding b = true) (hms : LeaseMillis ttl ms) :
    renewGateLease decode now b ttl db =
      (gateView db now (bindingKey b)).fold (.error (.locate .gateNotFound), db)
        (.error (.locate .invalidGateLease), db)
        (fun current _ =>
          if current = marshalBinding b then
            (.ok (grantedLease b ms), (db.pexpire now (bindingKey b) (ms + 1)).2)
          else (.error (.locate .gateConflict), db)) := by
  have hrun := runScript_renewGate decode now db (bindingKey b) _ ms (marshalBinding b)
    (parseNat_leaseMillis hms)
  have hls := decodeLease_marshal hb (Nat.succ_pos ms) (leaseMillis_le_max hms)
  rw [renewGateLease, hb, if_neg (by decide), leaseMilliseconds_ok hms]
  rw [show ttl.milliseconds = (ms + 1 : Nat) from hms] at hrun
  refine (andThen_leased hrun _).trans (GateView.fold_congr (fun current _ => ?_) _)
  by_cases hc : current = marshalBinding b
  · simp only [if_pos hc]
    rw [hc]
    exact congrArg (fun r => (r, _)) hls
  · simp only [if_neg hc]
    rfl

theorem unbindGate_eq (hb : validGateBinding b = true) :
    unbindGate decode now b db =
      (gateView db now (bindingKey b)).fold (.ok (), db) (.error (.locate .invalidGateLease), db)
        (fun current _ =>
          if current = marshalBinding b then (.ok (), (db.del now (bindingKey b)).2)
          else (.ok (), db)) := by
  have hrun := runScript_unbindGate decode now db (bindingKey b) (marshalBinding b)
  rw [unbindGate, hb, if_neg (by decide)]
  refine (andThen_leased hrun _).trans (GateView.fold_congr (fun current _ => ?_) _)
  by_cases hc : current = marshalBinding b
  · simp only [if_pos hc]
    rfl
  · simp only [if_neg hc]
    rfl

/-! ## Arguments a call refuses -/

-- A refused call ends in an error and leaves the database alone.
def Refused {α : Type} (r : Except CallError α × Db) (db : Db) : Prop := (∃ e, r.1 = .error e) ∧ r.2 = db

theorem bindGateWith_cases (script : String) (b : GateBinding) (ttl : Duration) :
    Refused (bindGateWith decode now script b ttl db) db ∨
      validGateBinding b = true ∧ ∃ ms, LeaseMillis ttl ms := by
  by_cases hb : validGateBinding b = true
  · rcases leaseMilliseconds_cases ttl with herr | hms
    · left
      rw [bindGateWith, hb, if_neg (by decide), herr]
      exact ⟨⟨_, rfl⟩, rfl⟩
    · exact Or.inr ⟨hb, hms⟩
  · left
    rw [bindGateWith, if_pos (by simpa using hb)]
    exact ⟨⟨_, rfl⟩, rfl⟩

theorem renewGateLease_cases (b : GateBinding) (ttl : Duration) :
    Refused (renewGateLease decode now b ttl db) db ∨
      validGateBinding b = true ∧ ∃ ms, LeaseMillis ttl ms := by
  by_cases hb : validGateBinding b = true
  · rcases leaseMilliseconds_cases ttl with herr | hms
    · left
      rw [renewGateLease, hb, if_neg (by decide), herr]
      exact ⟨⟨_, rfl⟩, rfl⟩
    · exact Or.inr ⟨hb, hms⟩
  · left
    rw [renewGateLease, if_pos (by simpa using hb)]
    exact ⟨⟨_, rfl⟩, rfl⟩

theorem unbindGate_cases (b : GateBinding) :
    Refused (unbindGate decode now b db) db ∨ validGateBinding b = true := by
  by_cases hb : validGateBinding b = true
  · exact Or.inr hb
  · left
    rw [unbindGate, if_pos (by simpa using hb)]
    exact ⟨⟨_, rfl⟩, rfl⟩

theorem locateGate_db (s u : Bytes) : (locateGate decode now s u db).2 = db := by
  by_cases hs : validServiceName s = true
  · by_cases hu : validUID u = true
    · rw [locateGate_eq decode now db hs hu]
      cases gateView db now (gateKey s u) <;> rfl
    · rw [locateGate, if_pos (by simp [hu])]
      rfl
  · rw [locateGate, if_pos (by simp [hs])]
    rfl

/-! ## Everything a call can do -/

-- A bind writes when it succeeds, and when only the Go side rejects what the key held.
theorem closedBindGate_effect (b : GateBinding) (ttl : Duration) :
    Refused (closedBindGate decode now b ttl db) db ∨
      validGateBinding b = true ∧ ∃ ms, LeaseMillis ttl ms ∧
        (closedBindGate decode now b ttl db).2 = boundDb db now b ms ∧
        ((∃ previous, (closedBindGate decode now b ttl db).1 = .ok (grantedLease b ms, previous)) ∨
          ∃ e current left, (closedBindGate decode now b ttl db).1 = .error e ∧
            gateView db now (bindingKey b) = .held current left ∧
            decodeBinding current b.serviceName b.uid = .error e) := by
  rcases bindGateWith_cases decode now db closedBindGateScript b ttl with
    href | ⟨hb, ms, hms⟩
  · exact Or.inl href
  · have heq := closedBindGate_eq decode now db hb hms
    cases hview : gateView db now (bindingKey b) with
    | missing =>
      rw [hview, GateView.fold] at heq
      rw [heq]
      exact Or.inr ⟨hb, ms, hms, rfl, Or.inl ⟨none, rfl⟩⟩
    | badLease =>
      rw [hview, GateView.fold] at heq
      rw [heq]
      exact Or.inl ⟨⟨_, rfl⟩, rfl⟩
    | held current left =>
      rw [hview, GateView.fold] at heq
      by_cases hok : luaValidBinding decode b.serviceName b.uid current = true
      · rw [if_pos hok] at heq
        rw [heq]
        refine Or.inr ⟨hb, ms, hms, rfl, ?_⟩
        cases hdec : decodeBinding current b.serviceName b.uid with
        | error e => exact Or.inr ⟨e, current, left, rfl, rfl, hdec⟩
        | ok previous => exact Or.inl ⟨some previous, rfl⟩
      · rw [if_neg hok] at heq
        rw [heq]
        exact Or.inl ⟨⟨_, rfl⟩, rfl⟩

theorem renewGateLease_effect (b : GateBinding) (ttl : Duration) :
    Refused (renewGateLease decode now b ttl db) db ∨
      validGateBinding b = true ∧ ∃ ms left, LeaseMillis ttl ms ∧
        gateView db now (bindingKey b) = .held (marshalBinding b) left ∧
        renewGateLease decode now b ttl db =
          (.ok (grantedLease b ms), (db.pexpire now (bindingKey b) (ms + 1)).2) := by
  rcases renewGateLease_cases decode now db b ttl with
    href | ⟨hb, ms, hms⟩
  · exact Or.inl href
  · have heq := renewGateLease_eq decode now db hb hms
    cases hview : gateView db now (bindingKey b) with
    | missing | badLease =>
      rw [hview, GateView.fold] at heq
      rw [heq]
      exact Or.inl ⟨⟨_, rfl⟩, rfl⟩
    | held current left =>
      rw [hview, GateView.fold] at heq
      by_cases hc : current = marshalBinding b
      · rw [if_pos hc] at heq
        subst hc
        exact Or.inr ⟨hb, ms, left, hms, rfl, heq⟩
      · rw [if_neg hc] at heq
        rw [heq]
        exact Or.inl ⟨⟨_, rfl⟩, rfl⟩

theorem unbindGate_effect (b : GateBinding) :
    (unbindGate decode now b db).2 = db ∨
      validGateBinding b = true ∧
        ∃ left, gateView db now (bindingKey b) = .held (marshalBinding b) left ∧
          unbindGate decode now b db = (.ok (), (db.del now (bindingKey b)).2) := by
  rcases unbindGate_cases decode now db b with href | hb
  · exact Or.inl href.2
  · have heq := unbindGate_eq decode now db hb
    cases hview : gateView db now (bindingKey b) with
    | missing | badLease =>
      rw [hview, GateView.fold] at heq
      rw [heq]
      exact Or.inl rfl
    | held current left =>
      rw [hview, GateView.fold] at heq
      by_cases hc : current = marshalBinding b
      · rw [if_pos hc] at heq
        subst hc
        exact Or.inr ⟨hb, left, rfl, heq⟩
      · rw [if_neg hc] at heq
        rw [heq]
        exact Or.inl rfl

end Yola.Locate.Redis
