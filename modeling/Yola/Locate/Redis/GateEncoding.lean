import Yola.Locate.Redis.Gate

/-!
# The stored form reads back

A marshalled binding decodes to the same binding with invalid UTF-8 replaced; nothing is replaced in
the fields that make the key, and nothing at all when every field is UTF-8.
-/

namespace Yola.Locate.Redis

open Text Yola.Redis

variable {name : Bytes} {b : GateBinding}

-- Bytes below 0x80 are runes by themselves.
theorem validString_of_ascii {s : Bytes} (h : ∀ c ∈ s, c < 0x80) : validString s = true := by
  induction s with
  | nil => rfl
  | cons a rest ih =>
    have hnext : nextRune a rest = (.one a, rest) := if_pos (h a List.mem_cons_self)
    have hrest : validString rest = true := ih fun c hc => h c (List.mem_cons_of_mem _ hc)
    unfold validString at hrest ⊢
    rw [runes_cons, hnext, List.all_cons, hrest]
    rfl

theorem validString_serviceName (h : validServiceName name = true) : validString name = true := by
  apply validString_of_ascii
  intro c hc
  have hbyte := (validServiceName_iff.mp h).2.2 c hc
  simp only [serviceNameByte, Bool.or_eq_true, Bool.and_eq_true, decide_eq_true_eq, beq_iff_eq] at hbyte
  rw [UInt8.lt_iff_toNat_lt]
  simp only [UInt8.le_iff_toNat_le] at hbyte
  rcases hbyte with ((((⟨-, h⟩ | ⟨-, h⟩) | ⟨-, h⟩) | rfl) | rfl) | rfl
  · exact Nat.lt_of_le_of_lt h (by decide)
  · exact Nat.lt_of_le_of_lt h (by decide)
  · exact Nat.lt_of_le_of_lt h (by decide)
  all_goals decide

theorem validString_uid {uid : Bytes} (h : validUID uid = true) : validString uid = true :=
  (validUID_iff.mp h).2.2

def readBack (b : GateBinding) : GateBinding where
  serviceName := toValid b.serviceName
  uid := toValid b.uid
  gateID := toValid b.gateID
  gateEndpoint := toValid b.gateEndpoint
  connID := toValid b.connID
  bindingToken := toValid b.bindingToken

def Utf8Binding (b : GateBinding) : Prop :=
  validString b.serviceName = true ∧ validString b.uid = true ∧ validString b.gateID = true ∧
    validString b.gateEndpoint = true ∧ validString b.connID = true ∧
    validString b.bindingToken = true

theorem readBack_eq_self (h : Utf8Binding b) : readBack b = b := by
  rcases h with ⟨h1, h2, h3, h4, h5, h6⟩
  simp only [readBack, toValid_eq_self h1, toValid_eq_self h2, toValid_eq_self h3,
    toValid_eq_self h4, toValid_eq_self h5, toValid_eq_self h6]

-- A member spelt exactly like a field goes into that field.
theorem storeMember_exact {names : List Bytes} {fields : Bytes → Bytes} {value : Bytes} (h : name ∈ names) :
    storeMember names fields (name, .str value) = some fun f => if f = name then value else fields f := by
  simp only [storeMember, matchField, if_pos h]

theorem unmarshalBinding_marshal (b : GateBinding) :
    unmarshalBinding (marshalBinding b) = some (readBack b) := by
  have hname : ∀ name ∈ bindingNames, toValid name = name := fun name hname =>
    toValid_eq_self (by
      simp only [bindingNames, List.mem_cons, List.not_mem_nil, or_false] at hname
      rcases hname with rfl | rfl | rfl | rfl | rfl | rfl <;> decide)
  have hmem : utf8 "service_name" ∈ bindingNames ∧ utf8 "uid" ∈ bindingNames ∧
      utf8 "gate_id" ∈ bindingNames ∧ utf8 "gate_endpoint" ∈ bindingNames ∧
      utf8 "conn_id" ∈ bindingNames ∧ utf8 "binding_token" ∈ bindingNames := by
    simp [bindingNames]
  rcases hmem with ⟨h1, h2, h3, h4, h5, h6⟩
  simp only [unmarshalBinding, unmarshalStrings, marshalBinding, parseJson_marshal, readMembers,
    bindingMembers, List.map_cons, List.map_nil, hname _ h1, hname _ h2, hname _ h3, hname _ h4,
    hname _ h5, hname _ h6, List.foldlM_cons, List.foldlM_nil, storeMember_exact h1,
    storeMember_exact h2, storeMember_exact h3, storeMember_exact h4, storeMember_exact h5,
    storeMember_exact h6, Option.bind_eq_bind, Option.bind_some, Option.pure_def, Option.map_some,
    Option.some.injEq]
  rfl

theorem marshalBinding_inj {b' : GateBinding} (hb : Utf8Binding b) (hb' : Utf8Binding b')
    (h : marshalBinding b = marshalBinding b') : b = b' := by
  have hread := unmarshalBinding_marshal b
  rw [h, unmarshalBinding_marshal b', readBack_eq_self hb, readBack_eq_self hb', Option.some.injEq] at hread
  exact hread.symm

theorem readBack_valid (h : validGateBinding b = true) :
    (readBack b).serviceName = b.serviceName ∧ (readBack b).uid = b.uid ∧ validGateBinding (readBack b) = true := by
  rcases validGateBinding_iff.mp h with ⟨huid, hsvc, hgate, hend, hconn, htok⟩
  have hs : (readBack b).serviceName = b.serviceName :=
    toValid_eq_self (validString_serviceName hsvc)
  have hu : (readBack b).uid = b.uid := toValid_eq_self (validString_uid huid)
  refine ⟨hs, hu, validGateBinding_iff.mpr ⟨?_, ?_, ?_, ?_, ?_, ?_⟩⟩
  · rw [hu]; exact huid
  · rw [hs]; exact hsvc
  · exact toValid_ne_nil hgate
  · exact toValid_ne_nil hend
  · exact toValid_ne_nil hconn
  · exact toValid_ne_nil htok

theorem decodeBinding_marshal (h : validGateBinding b = true) :
    decodeBinding (marshalBinding b) b.serviceName b.uid = .ok (readBack b) := by
  rcases readBack_valid h with ⟨hs, hu, hval⟩
  unfold decodeBinding
  rw [unmarshalBinding_marshal]
  exact if_neg (by simp [hs, hu, hval])

end Yola.Locate.Redis
