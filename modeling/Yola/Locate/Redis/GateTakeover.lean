import Yola.Locate.Redis.GateSpecs

/-!
# Taking a user's gate over

What `BindGate` is for: the candidate replaces the binding that is there, the caller learns which one
that was, and whoever asks next finds the candidate.  With the text of its script as it stands the
call never gets that far, because the server cannot compile it.
-/

namespace Yola.Locate.Redis

open Text Yola.Redis Lua

variable (decode : Decode) (now : Nat) (db : Db) (candidate : GateBinding) (ttl : Duration)

/-- The user's key is free, or holds a live string that decodes to a valid binding. -/
def HoldsBinding (serviceName uid : Bytes) : Option GateBinding → Prop
  | none => db.find now (gateKey serviceName uid) = none
  | some previous =>
      ∃ raw expiry, db.find now (gateKey serviceName uid) = some ⟨raw, some expiry⟩ ∧
        now < expiry ∧ decodeBinding raw serviceName uid = .ok previous

/-- The bind succeeds, stores the candidate for the lease and returns the previous binding, and the
next lookup finds the candidate. -/
def TakesOver (bind : GateBinding → Duration → Call (GateLease × Option GateBinding))
    (previous : Option GateBinding) : Prop :=
  let lease : GateLease := ⟨candidate, .ofMillis ttl.milliseconds⟩
  (bind candidate ttl db).1 = .ok (lease, previous) ∧
    (bind candidate ttl db).2 =
      db.psetex now (bindingKey candidate) ttl.milliseconds.toNat (marshalBinding candidate) ∧
    (locateGate decode now candidate.serviceName candidate.uid (bind candidate ttl db).2).1 = .ok lease

theorem runScript_bindGateScript (keys argv : List Bytes) :
    runScript decode now bindGateScript keys argv db = (.error (.server .compile), db) := by
  rw [runScript, eval, compile_bindGateScript]

-- Whatever the arguments, the call ends in an error and writes nothing.
theorem bindGate_fails :
    (∃ e, (bindGate decode now candidate ttl db).1 = .error e) ∧
      (bindGate decode now candidate ttl db).2 = db := by
  unfold bindGate bindGateWith
  by_cases hb : validGateBinding candidate = true
  · rw [hb, if_neg (by decide)]
    cases leaseMilliseconds ttl with
    | error e => exact ⟨⟨e, rfl⟩, rfl⟩
    | ok ttlMillis =>
      have hrun := runScript_bindGateScript decode now db [bindingKey candidate]
        [formatInt ttlMillis, marshalBinding candidate, candidate.serviceName, candidate.uid]
      have hcall := Call.andThen_error hrun fun values =>
        bindGateReply values candidate.serviceName candidate.uid
      exact ⟨⟨_, congrArg Prod.fst hcall⟩, congrArg Prod.snd hcall⟩
  · rw [if_pos (by simpa using hb)]
    exact ⟨⟨_, rfl⟩, rfl⟩

/-- `BindGate` takes over no user's gate, whatever the key holds and whoever asks. -/
theorem bindGate_never_takes_over (previous : Option GateBinding) :
    ¬ TakesOver decode now db candidate ttl (bindGate decode now) previous := by
  rintro ⟨hok, -, -⟩
  rcases (bindGate_fails decode now db candidate ttl).1 with ⟨e, herr⟩
  rw [herr] at hok
  cases hok

def sampleBinding : GateBinding where
  serviceName := utf8 "game"
  uid := utf8 "u1"
  gateID := utf8 "g1"
  gateEndpoint := utf8 "10.0.0.1:9000"
  connID := utf8 "c1"
  bindingToken := utf8 "t1"

theorem sampleBinding_valid : validGateBinding sampleBinding = true := by decide

-- A first login: the key is free and the candidate valid, and yet nothing is bound.
theorem bindGate_free_key :
    HoldsBinding 0 (fun _ => none) sampleBinding.serviceName sampleBinding.uid none ∧
      validGateBinding sampleBinding = true ∧
      Duration.millisecond ≤ (Duration.wrap Duration.second).ns ∧
      ¬ TakesOver (fun _ => none) 0 (fun _ => none) sampleBinding (.wrap Duration.second)
        (bindGate (fun _ => none) 0) none := by
  refine ⟨rfl, sampleBinding_valid, by decide, ?_⟩
  rintro ⟨hok, -, -⟩
  rcases (bindGate_fails (fun _ => none) 0 (fun _ => none) sampleBinding
    (.wrap Duration.second)).1 with ⟨e, herr⟩
  rw [herr] at hok
  cases hok

end Yola.Locate.Redis
