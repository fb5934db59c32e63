import Yola.Locate.Redis.GateTakeover

/-!
# Rejecting what the key holds

The script judges the stored string before it writes, and the Go side judges it again afterwards.
The two do not agree: `encoding/json` matches member names without regard to case, so a member the
script never looks at can spoil a field.  Such a string is overwritten and then reported as invalid.
-/

namespace Yola.Locate.Redis

open Text Yola.Redis Lua

variable {m : Bytes × Json} {raw u : Bytes} {b : GateBinding}

/-! ## What the Go side reads -/

def isStringOrNull : Json → Bool
  | .str _ | .null => true
  | _ => false

-- The last string among the members that reach a field; the first value a field has is empty.
def lastString (members : List (Bytes × Json)) (name : Bytes) : Bytes :=
  members.foldl
    (fun value m =>
      match matchField bindingNames m.1, m.2 with
      | some field, .str s => if name = field then s else value
      | _, _ => value) []

/-- The text is an object in which every member that reaches a field, in whatever case it is spelt,
is a string or null; the last strings for service name and user are the expected ones, and those for
the other fields are not empty. -/
def GoReadable (raw serviceName uid : Bytes) : Prop :=
  ∃ members, parseJson raw = some (.obj members) ∧
    (∀ m ∈ members, matchField bindingNames m.1 ≠ none → isStringOrNull m.2 = true) ∧
    lastString members (utf8 "service_name") = serviceName ∧
    lastString members (utf8 "uid") = uid ∧
    lastString members (utf8 "gate_id") ≠ [] ∧ lastString members (utf8 "gate_endpoint") ≠ [] ∧
    lastString members (utf8 "conn_id") ≠ [] ∧ lastString members (utf8 "binding_token") ≠ []

def assign (fields : Bytes → Bytes) (m : Bytes × Json) : Bytes → Bytes := fun name =>
  match matchField bindingNames m.1, m.2 with
  | some field, .str s => if name = field then s else fields name
  | _, _ => fields name

theorem storeMember_readable (fields : Bytes → Bytes)
    (hm : matchField bindingNames m.1 ≠ none → isStringOrNull m.2 = true) :
    storeMember bindingNames fields m = some (assign fields m) := by
  rcases m with ⟨key, value⟩
  cases hmatch : matchField bindingNames key with
  | none =>
    have hassign : assign fields (key, value) = fields := by
      funext name
      simp only [assign, hmatch]
    simp only [storeMember, hmatch, hassign]
  | some field =>
    have hval : isStringOrNull value = true := hm (by simp [hmatch])
    cases value with
    | null =>
      have hassign : assign fields (key, .null) = fields := by
        funext name
        simp only [assign, hmatch]
      simp only [storeMember, hmatch, hassign]
    | str s =>
      have hassign : assign fields (key, .str s) = fun name => if name = field then s else fields name := by
        funext name
        simp only [assign, hmatch]
      simp only [storeMember, hmatch, hassign]
    | _ => simp [isStringOrNull] at hval

theorem storeMember_unreadable (fields : Bytes → Bytes)
    (hm : ¬(matchField bindingNames m.1 ≠ none → isStringOrNull m.2 = true)) :
    storeMember bindingNames fields m = none := by
  rcases m with ⟨key, value⟩
  obtain ⟨hmatch, hval⟩ := Classical.not_imp.mp hm
  obtain ⟨field, hfield⟩ := Option.ne_none_iff_exists'.mp hmatch
  dsimp only at hfield hval
  cases value <;> simp_all [storeMember, isStringOrNull]

theorem foldlM_storeMember (members : List (Bytes × Json)) (fields filled : Bytes → Bytes) :
    members.foldlM (storeMember bindingNames) fields = some filled ↔
      (∀ m ∈ members, matchField bindingNames m.1 ≠ none → isStringOrNull m.2 = true) ∧
        members.foldl assign fields = filled := by
  induction members generalizing fields with
  | nil => simp
  | cons m members ih =>
    rw [List.foldlM_cons, List.forall_mem_cons, List.foldl_cons]
    by_cases hm : matchField bindingNames m.1 ≠ none → isStringOrNull m.2 = true
    · rw [storeMember_readable fields hm, Option.bind_eq_bind, Option.bind_some, ih,
        and_iff_right hm]
    · rw [storeMember_unreadable fields hm]
      constructor
      · intro h
        cases h
      · intro h
        exact absurd h.1.1 hm

theorem foldl_assign (members : List (Bytes × Json)) (fields : Bytes → Bytes) (name : Bytes) :
    members.foldl assign fields name =
      members.foldl
        (fun value m =>
          match matchField bindingNames m.1, m.2 with
          | some field, .str s => if name = field then s else value
          | _, _ => value) (fields name) := by
  induction members generalizing fields with
  | nil => rfl
  | cons m members ih => exact ih (assign fields m)

theorem unmarshalBinding_obj {members : List (Bytes × Json)}
    (hparse : parseJson raw = some (.obj members)) (b : GateBinding) : unmarshalBinding raw = some b ↔
      (∀ m ∈ members, matchField bindingNames m.1 ≠ none → isStringOrNull m.2 = true) ∧
        bindingOf (lastString members) = b := by
  have hfields : members.foldl assign (fun _ => []) = lastString members :=
    funext fun name => foldl_assign members _ name
  unfold unmarshalBinding unmarshalStrings
  rw [hparse]
  simp only [Option.map_eq_some_iff, foldlM_storeMember, hfields]
  constructor
  · rintro ⟨fields, ⟨hall, rfl⟩, hb⟩
    exact ⟨hall, hb⟩
  · rintro ⟨hall, hb⟩
    exact ⟨_, ⟨hall, rfl⟩, hb⟩

-- A text that is no object gives no fields at all, and an empty service name is never valid.
theorem unmarshalBinding_not_obj (hparse : ∀ members, parseJson raw ≠ some (.obj members))
    (h : unmarshalBinding raw = some b) : b.serviceName = [] := by
  unfold unmarshalBinding unmarshalStrings at h
  split at h
  · rename_i members hobj
    exact absurd hobj (hparse members)
  · cases h
    rfl
  · cases h

theorem decodeBinding_ok_iff {s : Bytes} : decodeBinding raw s u = .ok b ↔
      unmarshalBinding raw = some b ∧ b.serviceName = s ∧ b.uid = u ∧ validGateBinding b = true := by
  unfold decodeBinding
  cases unmarshalBinding raw with
  | none => simp
  | some b' =>
    by_cases hbad : b'.serviceName ≠ s ∨ b'.uid ≠ u ∨ !validGateBinding b'
    · simp only [if_pos hbad, Option.some.injEq]
      constructor
      · intro h
        cases h
      · rintro ⟨rfl, rfl, rfl, hval⟩
        simp [hval] at hbad
    · simp only [if_neg hbad, Except.ok.injEq, Option.some.injEq]
      constructor
      · rintro rfl
        simpa using hbad
      · exact And.left

theorem decodeBinding_ok_iff_readable {s : Bytes} (hs : validServiceName s = true) (hu : validUID u = true) :
    (∃ b, decodeBinding raw s u = .ok b) ↔ GoReadable raw s u := by
  constructor
  · rintro ⟨b, hok⟩
    obtain ⟨hread, hbs, hbu, hval⟩ := decodeBinding_ok_iff.mp hok
    by_cases hobj : ∃ members, parseJson raw = some (.obj members)
    · obtain ⟨members, hparse⟩ := hobj
      obtain ⟨hall, rfl⟩ := (unmarshalBinding_obj hparse b).mp hread
      obtain ⟨-, -, hgate, hend, hconn, htok⟩ := validGateBinding_iff.mp hval
      exact ⟨members, hparse, hall, hbs, hbu, hgate, hend, hconn, htok⟩
    · have hemp := unmarshalBinding_not_obj (fun members h => hobj ⟨members, h⟩) hread
      rw [← hbs, hemp] at hs
      exact absurd rfl (validServiceName_iff.mp hs).1
  · rintro ⟨members, hparse, hall, hbs, hbu, hgate, hend, hconn, htok⟩
    refine ⟨bindingOf (lastString members), decodeBinding_ok_iff.mpr
      ⟨(unmarshalBinding_obj hparse _).mpr ⟨hall, rfl⟩, hbs, hbu, validGateBinding_iff.mpr ?_⟩⟩
    refine ⟨?_, ?_, hgate, hend, hconn, htok⟩
    · change validUID (lastString members (utf8 "uid")) = true
      rw [hbu]
      exact hu
    · change validServiceName (lastString members (utf8 "service_name")) = true
      rw [hbs]
      exact hs

-- Either way of rejecting a stored string is reported under the same sentinel.
theorem decodeBinding_error_sentinel {s : Bytes} {e : CallError}
    (h : decodeBinding raw s u = .error e) : e.sentinel = some .invalidGateBinding := by
  unfold decodeBinding at h
  split at h
  · cases h
    rfl
  · split at h <;> cases h
    rfl

/-! ## A rejected bind -/

section Rejection

variable (decode : Decode) (now : Nat) (db : Db) (candidate : GateBinding) (ttl : Duration)

/-- A bind that reports the current binding as invalid has left the database as it was. -/
def KeepsRejected : Prop :=
  ∀ e, (closedBindGate decode now candidate ttl db).1 = .error e →
    e.sentinel = some .invalidGateBinding → (closedBindGate decode now candidate ttl db).2 = db

-- What the Go side rejects is not what the bind has just written.
theorem boundDb_ne_of_rejected {ms left : Nat} {current : Bytes} {e : CallError}
    (hb : validGateBinding candidate = true)
    (hview : gateView db now (bindingKey candidate) = .held current left)
    (hrej : decodeBinding current candidate.serviceName candidate.uid = .error e) :
    boundDb db now candidate ms ≠ db := by
  intro hsame
  obtain ⟨expiry, hfind, -, -⟩ := gateView_held_iff.mp hview
  have hwr : (boundDb db now candidate ms).find now (bindingKey candidate) =
      some ⟨marshalBinding candidate, some (now + (ms + 1))⟩ := Db.find_psetex_self ..
  rw [hsame, hfind] at hwr
  injection hwr with hent
  injection hent with hval _
  rw [hval, decodeBinding_marshal hb] at hrej
  cases hrej

/-- The bind keeps what it rejects exactly if the Go side can read every string that the script lets
it replace. -/
theorem bindGate_keeps_rejected_iff (hb : validGateBinding candidate = true) :
    KeepsRejected decode now db candidate ttl ↔
      (Duration.millisecond ≤ ttl.ns → ∀ current left,
        gateView db now (bindingKey candidate) = .held current left →
        luaValidBinding decode candidate.serviceName candidate.uid current = true →
        GoReadable current candidate.serviceName candidate.uid) := by
  obtain ⟨huid, hsvc, -⟩ := validGateBinding_iff.mp hb
  constructor
  · intro hkeeps httl current left hview hlua
    obtain ⟨ms, hms⟩ := exists_leaseMillis httl
    have heq := closedBindGate_eq decode now db hb hms
    rw [hview, GateView.fold, if_pos hlua] at heq
    rw [← decodeBinding_ok_iff_readable hsvc huid]
    cases hdec : decodeBinding current candidate.serviceName candidate.uid with
    | ok previous => exact ⟨previous, rfl⟩
    | error e =>
      rw [hdec] at heq
      have hsame := hkeeps e (congrArg Prod.fst heq) (decodeBinding_error_sentinel hdec)
      rw [heq] at hsame
      exact absurd hsame (boundDb_ne_of_rejected now db candidate hb hview hdec)
  · intro hreadable e herr _
    rcases bindGateWith_cases decode now db closedBindGateScript candidate ttl with
      href | ⟨-, ms, hms⟩
    · exact href.2
    have heq := closedBindGate_eq decode now db hb hms
    have httl : Duration.millisecond ≤ ttl.ns := by
      have := leaseMillis_ns hms
      have hpos : (0 : Int) ≤ Duration.millisecond := by decide
      calc Duration.millisecond = (1 : Nat) * Duration.millisecond := by rw [Nat.cast_one, one_mul]
        _ ≤ (ms + 1 : Nat) * Duration.millisecond :=
            mul_le_mul_of_nonneg_right (by exact_mod_cast Nat.succ_pos ms) hpos
        _ ≤ ttl.ns := this
    cases hview : gateView db now (bindingKey candidate) with
    | missing =>
      rw [hview, GateView.fold] at heq
      rw [heq] at herr
      cases herr
    | badLease =>
      rw [hview, GateView.fold] at heq
      rw [heq]
    | held current left =>
      rw [hview, GateView.fold] at heq
      by_cases hlua : luaValidBinding decode candidate.serviceName candidate.uid current = true
      · obtain ⟨previous, hok⟩ := (decodeBinding_ok_iff_readable hsvc huid).mpr
          (hreadable httl current left hview hlua)
        rw [if_pos hlua, hok] at heq
        rw [heq] at herr
        cases herr
      · rw [if_neg hlua] at heq
        rw [heq]

end Rejection

/-! ## Strings written by someone else -/

def decodeMember : Bytes × Json → Option (Bytes × Value)
  | (name, .str s) => some (name, .str s)
  | _ => none

/-- `cjson.decode` on an object whose members are strings: each goes under the name it is spelt
with. -/
def decodeStrings : Decode := fun raw =>
  match parseJson raw with
  | some (.obj members) => (members.mapM decodeMember).map (.table [])
  | _ => none

-- A complete binding of the same user, followed by one more member.
def strayMembers : List (Bytes × Bytes) :=
  bindingMembers { sampleBinding with gateID := utf8 "g0" } ++ [(utf8 "UID", utf8 "u2")]

def strayDb : Db := Db.psetex (fun _ => none) 0 (bindingKey sampleBinding) 5000 (marshalStrings strayMembers)

theorem gateView_strayDb :
    gateView strayDb 0 (bindingKey sampleBinding) = .held (marshalStrings strayMembers) 5000 :=
  gateView_held_iff.mpr ⟨_, Db.find_psetex_self .., by decide, rfl⟩

theorem luaValidBinding_stray :
    luaValidBinding decodeStrings sampleBinding.serviceName sampleBinding.uid
      (marshalStrings strayMembers) = true := by
  unfold luaValidBinding decodeStrings
  rw [parseJson_marshal]
  decide

-- The stray member reaches the `uid` field and leaves another user in it.
theorem decodeBinding_stray :
    decodeBinding (marshalStrings strayMembers) sampleBinding.serviceName sampleBinding.uid =
      .error (.locate .invalidGateBinding) := by
  unfold decodeBinding unmarshalBinding unmarshalStrings
  rw [parseJson_marshal]
  rfl

-- The bind reports the stored string as invalid, and has replaced it.
theorem bindGate_overwrites_stray :
    validGateBinding sampleBinding = true ∧
      luaValidBinding decodeStrings sampleBinding.serviceName sampleBinding.uid
        (marshalStrings strayMembers) = true ∧
      decodeBinding (marshalStrings strayMembers) sampleBinding.serviceName sampleBinding.uid =
        .error (.locate .invalidGateBinding) ∧
      ¬ KeepsRejected decodeStrings 0 strayDb sampleBinding (.wrap Duration.second) := by
  refine ⟨sampleBinding_valid, luaValidBinding_stray, decodeBinding_stray, ?_⟩
  intro hkeeps
  have hms : LeaseMillis (.wrap Duration.second) 999 := by
    unfold LeaseMillis
    decide
  have heq := closedBindGate_eq decodeStrings 0 strayDb sampleBinding_valid hms
  rw [gateView_strayDb, GateView.fold, if_pos luaValidBinding_stray, decodeBinding_stray] at heq
  have hsame := hkeeps _ (congrArg Prod.fst heq) rfl
  rw [heq] at hsame
  exact boundDb_ne_of_rejected 0 strayDb sampleBinding sampleBinding_valid gateView_strayDb
    decodeBinding_stray hsame

-- Over a string the program wrote itself the bind is safe.
theorem bindGate_keeps_rejected_iff_rebound :
    validGateBinding sampleBinding = true ∧
      KeepsRejected decodeStrings 0 (boundDb (fun _ => none) 0 sampleBinding 4999) sampleBinding
        (.wrap Duration.second) := by
  refine ⟨sampleBinding_valid, (bindGate_keeps_rejected_iff decodeStrings 0 _ sampleBinding _
    sampleBinding_valid).mpr fun _ current left hview _ => ?_⟩
  obtain ⟨huid, hsvc, -⟩ := validGateBinding_iff.mp sampleBinding_valid
  obtain ⟨expiry, hfind, -, -⟩ := gateView_held_iff.mp hview
  have hwr : (boundDb (fun _ => none) 0 sampleBinding 4999).find 0 (bindingKey sampleBinding) =
      some ⟨marshalBinding sampleBinding, some (0 + (4999 + 1))⟩ := Db.find_psetex_self ..
  rw [hwr] at hfind
  injection hfind with hent
  injection hent with hval _
  rw [← hval, ← decodeBinding_ok_iff_readable hsvc huid]
  exact ⟨_, decodeBinding_marshal sampleBinding_valid⟩

end Yola.Locate.Redis
