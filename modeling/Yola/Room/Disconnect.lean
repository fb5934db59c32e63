import Yola.Room.Exclusive

/-!
# A Ludo disconnect takes effect

When a `Disconnect` has returned, a player whose session is still that connection is off its table or
offline.  Ludo keeps this only in attentive runs: `Disconnect` gives up on a player who is between two
tables, `Offline` does nothing for a spectator during a game, and `Seat` brings an offline player online.
-/

namespace Yola.Room

open Reasoning State

variable {U T K : Type} {n : Nat} {g : Game} {s s' : State U T K n} {r r' p q : Nat} {t : T} {k : K} {uid : U}
  {a : Act U T K} {l : Label U T K} {pc pc₀ : Pc U T K} {caller : Caller U T K} {b : Action U T K}
  {f : Seating T} {off off' : Bool} {session : Option K} {route route' : Route T} {x : Player U T K n}

def Caller.sought : Caller U T K → Option (U × K)
  | .exit _ (.disconnect uid k _) => some (uid, k)
  | _ => none

def Pc.sought : Pc U T K → Option (U × K)
  | .offlineLoop _ uid k _ | .callPlayer _ (.disconnect uid k _) | .call _ _ (.disconnect uid k _) => some (uid, k)
  | .logoutGame _ _ caller | .cancelling _ caller => caller.sought
  | .returned (.disconnected uid k) => some (uid, k)
  | _ => none

def Pc.noticed : Pc U T K → Option (U × K)
  | .callPlayer _ _ => none
  | pc => pc.sought

/-- The player whom a `reconnect` is letting in at a table, with the session and the offline flag that it
is going to restore if that fails. -/
def Pc.held : Pc U T K → Option (Nat × T × Option K × Bool)
  | .reentering p t _ session offline | .reverting p t session offline => some (p, t, session, offline)
  | _ => none

theorem Pc.noticed_of_sought (h : ∀ p b, pc ≠ .callPlayer p b) : pc.noticed = pc.sought := by
  unfold Pc.noticed
  split
  · exact absurd rfl (h _ _)
  · rfl

theorem Pc.job_of_held (h : pc.held = some (q, t, session, off)) : pc.job = some t := by
  cases pc with
  | reentering | reverting =>
    cases h
    rfl
  | _ => cases h

/-- What a `Disconnect` at this point has done about player `q`, who is at `route`. -/
def Pc.Settles (q : Nat) (route : Route T) (offline : Bool) : Pc U T K → Prop
  | .offlineLoop _ _ _ _ => False -- only in Whot
  | .callPlayer p _ => q = p
  | .call p t _ => q = p ∧ route = .table t
  | _ => route ≠ .pending ∧ offline = true

theorem Pc.Settles.mono (h : pc.Settles q route off)
    (hkeeps : (∀ p b, pc ≠ .callPlayer p b) → route ≠ .pending → route' = route ∧ (off = true → off' = true)) :
    pc.Settles q route' off' := by
  cases pc with
  | offlineLoop => cases h
  | callPlayer => exact h
  | call =>
    obtain ⟨rfl, rfl⟩ := h
    exact ⟨rfl, (hkeeps nofun nofun).1⟩
  | _ =>
    obtain ⟨rfl, hoff⟩ := hkeeps nofun h.1
    exact ⟨h.1, hoff h.2⟩

namespace State

def Carries (s : State U T K n) (q : Nat) (k : K) (offline : Bool) : Prop :=
  (s.obj q).session = some k ∧ (s.obj q).isOffline = offline ∨
    ∃ r t, (s.requests r).held = some (q, t, some k, offline)

def Settled (s : State U T K n) (pc : Pc U T K) : Prop :=
  ∀ uid k, pc.sought = some (uid, k) → ∀ q off, (s.obj q).uid = uid → s.Carries q k off →
    (s.obj q).tableID = .detached ∨ pc.Settles q (s.obj q).tableID off

structure Heeded (s : State U T K n) : Prop where
  held : ∀ r q t session off, (s.requests r).held = some (q, t, session, off) →
    (s.obj q).tableID = .table t ∨ (s.obj q).tableID = .detached
  settled : ∀ r, s.Settled (s.requests r)

/-- Steps after which a `Disconnect` of Ludo is not lost.  It does not come upon the player between two
tables, its job runs, and finds the player in the game or a table that lets the player go.  After
`Disconnect` has looked its player up nobody logs in with the connection again, and after it has found the
table the player does not leave for another one. -/
def Attentive (s : State U T K n) (l : Label U T K) : Prop :=
  match l.act with
  | .notices p _ => (s.obj p).tableID ≠ .pending
  | .misses _ _ => False
  | .drops p t _ => (s.obj p).gaming = true ∨ s.stage t ≠ .play
  | .switches p => ∀ r k, (s.obj p).session = some k → (s.requests r).noticed ≠ some ((s.obj p).uid, k)
  | .reconnects p k => ∀ r, (s.requests r).sought ≠ some ((s.obj p).uid, k)
  | .registers _ uid k => ∀ r, (s.requests r).sought ≠ some (uid, k)
  | _ => True

end State

theorem Change.session_cases (h : Change .ludo s r a q x) (hk : x.session = some k) :
    (∃ uid, a = .registers q uid k) ∨ a = .reconnects q k ∨ x.uid = (s.obj q).uid ∧
      ∃ off, s.Carries q k off ∧ (off = true → x.isOffline = true ∨ ∃ f, s.requests r = .seeking q f) := by
  have same : ∀ {y : Player U T K n}, y.session = some k → (s.obj q).session = y.session →
      ((s.obj q).isOffline = true → y.isOffline = true ∨ ∃ f, s.requests r = .seeking q f) →
      ∃ off, s.Carries q k off ∧ (off = true → y.isOffline = true ∨ ∃ f, s.requests r = .seeking q f) :=
    fun hy hsame hoff => ⟨_, .inl ⟨hsame.trans hy, rfl⟩, hoff⟩
  cases h with
  | @registers uid k' act =>
    cases hk
    exact .inl ⟨uid, act⟩
  | reconnects act =>
    cases hk
    exact .inr (.inl act)
  | @reverts t t' session offline _ at_ =>
    have hk' : session = some k := hk
    subst hk'
    exact .inr (.inr ⟨rfl, offline, .inr ⟨r, t, by rw [at_]; rfl⟩, .inl⟩)
  | forgets | loses | losesExits => cases hk
  | sits at_ => exact .inr (.inr ⟨rfl, same hk rfl fun _ => .inr ⟨_, at_⟩⟩)
  | marks => exact .inr (.inr ⟨rfl, same hk rfl fun _ => .inl rfl⟩)
  | _ => exact .inr (.inr ⟨rfl, same hk rfl .inl⟩)

theorem Change.route_cases (h : Change g s r a p x) :
    x.tableID = (s.obj p).tableID ∨ x.tableID = .detached ∨ (∃ f, s.requests r = .seeking p f) ∨
      a = .switches p ∨ p = s.next := by
  cases h with
  | registers _ next => exact .inr (.inr (.inr (.inr next)))
  | sits at_ => exact .inr (.inr (.inl ⟨_, at_⟩))
  | switches act => exact .inr (.inr (.inr (.inl act)))
  | exits | detaches | losesExits => exact .inr (.inl rfl)
  | finalizes | reconnects => cases g <;> exact .inl rfl
  | _ => exact .inl rfl

section Sought

theorem Seating.sought_fails : (f.fails p : Pc U T K).sought = none := by cases f <;> rfl

theorem Caller.sought_succeeds : ∀ {y : U × K}, (caller.succeeds p).sought = some y → caller.sought = some y := by
  intro y h
  cases caller with
  | exit t b =>
    cases b with
    | disconnect => exact h
    | _ => cases h
  | seat => cases Seating.sought_fails.symm.trans h
  | _ => cases h

theorem Caller.settles_succeeds (h : route ≠ .pending ∧ off = true) :
    (caller.succeeds p).Settles q route off := by
  cases caller with
  | exit t b => cases b <;> exact h
  | seat t f => cases f <;> exact h
  | _ => exact h

theorem Caller.sought_fails : ∀ {y : U × K}, (caller.fails p).sought = some y → caller.sought = some y := by
  intro y h
  cases caller with
  | exit | seat => exact h
  | _ => cases h

theorem Caller.settles_fails (h : route ≠ .pending ∧ off = true) : (caller.fails p).Settles q route off := by
  cases caller <;> exact h

theorem Offline.sought_eq [DecidableEq T] {y : Option (U × K)} (h : Offline g s r p t caller pc s')
    (hpc : pc.sought = y) (hclr : caller.sought = y) : (s'.requests r).sought = y := by
  cases h <;> rw [setPc_requests_self]
  · exact hpc
  · exact hclr
  · exact hpc

end Sought

section Held

theorem Seating.held_fails : (f.fails p : Pc U T K).held = none := by cases f <;> rfl

theorem Caller.held_succeeds : (caller.succeeds p).held = none := by
  cases caller with
  | exit t b => cases b <;> rfl
  | seat => exact Seating.held_fails
  | _ => rfl

theorem Caller.held_fails : (caller.fails p).held = none := by cases caller <;> rfl

theorem Reads.held_eq (h : Reads g s pc₀ pc) : pc.held = none := by
  cases h with
  | @givesUp p f => cases f <;> rfl
  | @seatSucceeds p t f =>
    cases f with
    | restore old failed => cases failed <;> rfl
    | _ => rfl
  | @notFound p b | @missed p b => cases b <;> rfl
  | @routeChanged p b =>
    cases b with
    | disconnect uid k again => cases g <;> cases again <;> rfl
    | lose version again => cases again <;> rfl
    | _ => rfl
  | _ => rfl

theorem Offline.held_cases [DecidableEq T] {y : Nat × T × Option K × Bool} (h : Offline g s r p t caller pc s')
    (hy : (s'.requests r).held = some y) : pc.held = some y := by
  cases h with
  | exits =>
    rw [setPc_requests_self] at hy
    cases hy
  | marks | refuses =>
    rw [setPc_requests_self] at hy
    exact hy

variable [DecidableEq U] [DecidableEq T]

/-- `reconnect` begins to let a player in whom it has found at the table. -/
theorem RequestStep.held_cases (hs : RequestStep g s r a s')
    (hheld : (s'.requests r).held = some (q, t, session, off)) :
    (s.requests r).held = some (q, t, session, off) ∨
      s.Located q t ∧ (s.obj q).session = session ∧ (s.obj q).isOffline = off := by
  cases hs with
  | reads hreads =>
    rw [setPc_requests_self, hreads.held_eq] at hheld
    cases hheld
  | seatPushFails _ _ _ _ ho | seatFindsOffline _ _ _ _ ho =>
    cases (ho.held_cases hheld).symm.trans Seating.held_fails
  | drops _ _ _ _ ho | pushFails _ _ _ _ _ ho | loses _ _ _ _ _ ho => cases ho.held_cases hheld
  | reenterPushFails at_ _ _ _ ho =>
    rw [at_]
    exact .inl (ho.held_cases hheld)
  | reconnects at_ free located =>
    rw [setPc_requests_self] at hheld
    cases hheld
    exact .inr ⟨located, rfl, rfl⟩
  | finalizes | cancelsAgain =>
    rw [setPc_requests_self, Caller.held_succeeds] at hheld
    cases hheld
  | cancels =>
    rw [setPc_requests_self, Caller.held_fails] at hheld
    cases hheld
  | _ =>
    rw [setPc_requests_self] at hheld
    cases hheld

end Held

namespace State

theorem Resident.located (h : s.Resident) (ht : (s.obj p).tableID = .table t) : s.Located p t := by
  obtain ⟨c, hc⟩ := h.seated p t ht
  exact ⟨ht, c, (h.chair t c p hc).2, hc⟩

theorem Heeded.not_free (h : s.Heeded) (hheld : (s.requests r).held = some (q, t, session, off))
    {t' : T} (ht : (s.obj q).tableID = .table t') : ¬ s.Free t' := by
  rintro ⟨-, hjobs⟩
  obtain ht' | hdet := h.held r q t session off hheld
  · rw [ht, Route.table.injEq] at ht'
    exact hjobs r (ht' ▸ Pc.job_of_held hheld)
  · cases hdet.symm.trans ht

/-- A player with the connection is the one that the manager has, or detached. -/
theorem Heeded.managed (h : s.Heeded) (hreg : s.Registered) (hc : s.Carries q k off) :
    (s.obj q).tableID = .detached ∨ s.pm (s.obj q).uid = some q := by
  obtain ⟨hk, -⟩ | ⟨r, t, hheld⟩ := hc
  · cases hq : (s.obj q).tableID with
    | pending => exact .inr (hreg.session q k hq hk)
    | detached => exact .inl rfl
    | table t => exact .inr (hreg.seated q t hq)
  · obtain hq | hq := h.held r q t _ off hheld
    · exact .inr (hreg.seated q t hq)
    · exact .inl hq

theorem Settled.follows (h : s.Settled pc₀) (hsgt : ∀ y, pc.sought = some y → pc₀.sought = some y)
    (hset : ∀ q route off, pc₀.Settles q route off → pc.Settles q route off) : s.Settled pc :=
  fun uid k hpc q off huid hc => (h uid k (hsgt _ hpc) q off huid hc).imp_right (hset _ _ _)

theorem Settled.of_none (h : pc.sought = none) : s.Settled pc := by
  intro uid k hpc
  rw [h] at hpc
  cases hpc

theorem Settled.setPc (h : s.Settled pc) {pc' : Pc U T K} (hheld : pc'.held = none) :
    (s.setPc r pc').Settled pc := by
  intro uid k hpc q off huid hc
  refine h uid k hpc q off huid (hc.imp_right ?_)
  rintro ⟨r', t, hr'⟩
  by_cases hr : r' = r
  · rw [hr, setPc_requests_self, hheld] at hr'
    cases hr'
  · rw [setPc_requests_of_ne _ _ hr] at hr'
    exact ⟨r', t, hr'⟩

theorem Heeded.reads (h : s.Heeded) (hres : s.Resident) (hreg : s.Registered)
    (hs : Reads .ludo s (s.requests r) pc) : s.Settled pc := by
  have hset := h.settled r
  generalize s.requests r = pc₀ at hs hset
  cases hs with
  | @disconnectAbsent uid k absent =>
    rintro uid k ⟨⟩ q off rfl hc
    obtain hdet | hpm := h.managed hreg hc
    · exact .inl hdet
    · cases absent.symm.trans hpm
  | @disconnectDetached uid k p _ present detached =>
    rintro uid k ⟨⟩ q off rfl hc
    obtain hdet | hpm := h.managed hreg hc
    · exact .inl hdet
    · rw [present, Option.some_inj] at hpm
      exact .inl (hpm ▸ detached)
  | @disconnectCalls uid k p _ present =>
    rintro uid k ⟨⟩ q off rfl hc
    obtain hdet | hpm := h.managed hreg hc
    · exact .inl hdet
    · rw [present, Option.some_inj] at hpm
      exact .inr hpm.symm
  | @routeChanged p b t free moved =>
    cases b with
    | disconnect uid k =>
      rintro uid k ⟨⟩ q off rfl hc
      obtain hdet | ⟨rfl, ht⟩ := hset _ _ rfl q off rfl hc
      · exact .inl hdet
      · exact absurd (hres.located ht) moved
    | lose version again => cases again <;> exact .of_none rfl
    | _ => exact .of_none rfl
  | @disconnectOld p t uid k again free located other =>
    rintro uid k ⟨⟩ q off rfl hc
    obtain hdet | ⟨rfl, ht⟩ := hset _ _ rfl q off rfl hc
    · exact .inl hdet
    · obtain ⟨hk, -⟩ | ⟨r', t', hheld⟩ := hc
      · exact absurd hk other
      · exact absurd free (h.not_free hheld ht)
  | @notFound p b other | @missed p b t other | @calls p b t other =>
    cases b with
    | disconnect uid k again => exact absurd rfl (other uid k again)
    | _ => exact .of_none rfl
  | @givesUp p f => cases f <;> exact .of_none rfl
  | @seatSucceeds p t f =>
    cases f with
    | restore old failed => cases failed <;> exact .of_none rfl
    | _ => exact .of_none rfl
  | disconnectStale whot => cases whot
  | offlineNowhere | offlineCalls => exact hset.follows (fun _ h => h) nofun
  | persistLost | persistBegins | persistNoSession | persistSession | persistExpired =>
    exact hset.follows (fun _ h => h) fun _ _ _ h => h
  | _ => exact .of_none rfl

theorem Heeded.drops [DecidableEq T] (h : s.Heeded) (hres : s.Resident) {again : Bool}
    (at_ : s.requests r = .call p t (.disconnect uid k again)) (free : s.Free t) (located : s.Located p t)
    (ha : (s.obj p).gaming = true ∨ s.stage t ≠ .play)
    (ho : Offline .ludo s r p t (.exit t (.disconnect uid k again)) (.returned (.disconnected uid k)) s') :
    s'.Settled (s'.requests r) := by
  have hset := h.settled r
  rw [at_] at hset
  rintro uid' k' hsgt q off huid hc
  cases (ho.sought_eq (y := some (uid, k)) rfl rfl).symm.trans hsgt
  have hlatent : ∀ r' t', (s'.requests r').held = some (q, t', some k, off) →
      (s.requests r').held = some (q, t', some k, off) := by
    intro r' t' hheld
    by_cases hr : r' = r
    · subst hr
      cases ho.held_cases hheld
    · rwa [ho.requests_of_ne hr] at hheld
  by_cases hq : q = p
  · subst hq
    -- No reconnect is running at the table.
    obtain ⟨-, rfl⟩ | ⟨r', t', hheld⟩ := hc
    · cases ho with
      | marks =>
        rw [setPc_obj, setPc_requests_self, setPlayer_obj_self]
        exact .inr ⟨by rw [Player.setOffline, located.1]; rintro ⟨⟩, rfl⟩
      | exits =>
        rw [setPc_obj, removeForExit, setPlayer_obj_self]
        exact .inl rfl
      | refuses gaming hrefuses =>
        obtain hexit | hcan := hrefuses
        · exact .inl (hres.exiting q hexit)
        · have hplay := ha.resolve_left (by rw [gaming]; exact Bool.false_ne_true)
          cases hcan.symm.trans (Player.canExit_ludo gaming hplay)
    · exact absurd free (h.not_free (hlatent r' t' hheld) located.1)
  · have hobj := ho.forall_obj (P := fun q x => q ≠ p → x = s.obj q) (fun _ _ => rfl) (absurd rfl) (absurd rfl) q hq
    rw [hobj] at huid
    rw [Carries, hobj] at hc
    have hcarr : s.Carries q k off := hc.imp_right (Exists.imp fun r' => Exists.imp (hlatent r'))
    obtain hdet | ⟨rfl, -⟩ := hset uid k rfl q off huid hcarr
    · exact .inl (hobj ▸ hdet)
    · exact absurd rfl hq

variable [DecidableEq U] [DecidableEq T]

/-- Only a switch brings a player to a table or between two tables who has not been there before. -/
theorem Resident.route_step (h : s.Resident) (hs : RequestStep g s r a s') (hq : (s.obj q).tableID ≠ .pending)
    (ha : a ≠ .switches q) :
    (s'.obj q).tableID = (s.obj q).tableID ∨ (s'.obj q).tableID = .detached := by
  obtain hsame | hdet | ⟨f, hr⟩ | hswitches | hnext := (hs.change q).route_cases
  · exact .inl hsame
  · exact .inr hdet
  · exact absurd (h.pending_of_seeks (r := r) (by rw [hr]; rfl)) hq
  · exact absurd hswitches ha
  · exact absurd (h.fresh q hnext.ge) hq

section

variable (h : s.Heeded)

include h

variable (hres : s.Resident)

include hres

theorem Heeded.held_step (hs : RequestStep g s r a s') :
    ∀ r q t session off, (s'.requests r).held = some (q, t, session, off) →
      (s'.obj q).tableID = .table t ∨ (s'.obj q).tableID = .detached := by
  -- The route in the state before decides.
  have moves : ∀ {q t}, ((s.obj q).tableID = .table t ∨ (s.obj q).tableID = .detached) → a ≠ .switches q →
      (s'.obj q).tableID = .table t ∨ (s'.obj q).tableID = .detached := by
    intro q t hq ha
    obtain hsame | hdet := hres.route_step hs (by obtain hq | hq := hq <;> rw [hq] <;> nofun) ha
    · rw [hsame]
      exact hq
    · exact .inr hdet
  intro r' q t session off hheld
  have hold : ∀ r', (s.requests r').held = some (q, t, session, off) →
      (s'.obj q).tableID = .table t ∨ (s'.obj q).tableID = .detached := by
    intro r' hr'
    refine moves (h.held r' q t session off hr') ?_
    rintro rfl
    obtain ⟨t', hfree, hloc⟩ := hs.switches_inv
    exact h.not_free hr' hloc.1 hfree
  by_cases hr : r' = r
  · subst hr
    obtain hsame | ⟨hloc, -⟩ := hs.held_cases hheld
    · exact hold r' hsame
    · refine moves (.inl hloc.1) ?_
      rintro rfl
      cases hs with
      | switches =>
        rw [setPc_requests_self] at hheld
        cases hheld
  · rw [hs.requests_of_ne hr] at hheld
    exact hold r' hheld

theorem Heeded.carries_cases (hs : RequestStep .ludo s r a s') (hc : s'.Carries q k off) :
    (∃ uid, a = .registers q uid k) ∨ a = .reconnects q k ∨ (s'.obj q).uid = (s.obj q).uid ∧
      ∃ off₀, s.Carries q k off₀ ∧ (off₀ = true → off = true ∨ ∃ f, s.requests r = .seeking q f) := by
  obtain ⟨hk, rfl⟩ | ⟨r', t, hheld⟩ := hc
  · exact (hs.change q).session_cases hk
  · have hcarr : s.Carries q k off ∧ (s.obj q).tableID ≠ .pending := by
      have hold : ∀ r', (s.requests r').held = some (q, t, some k, off) →
          s.Carries q k off ∧ (s.obj q).tableID ≠ .pending := by
        intro r' hr'
        refine ⟨.inr ⟨r', t, hr'⟩, ?_⟩
        obtain hq | hq := h.held r' q t _ off hr' <;> rw [hq] <;> nofun
      by_cases hr : r' = r
      · subst hr
        obtain hsame | ⟨hloc, hk, hoff⟩ := hs.held_cases hheld
        · exact hold r' hsame
        · exact ⟨.inl ⟨hk, hoff⟩, by rw [hloc.1]; nofun⟩
      · rw [hs.requests_of_ne hr] at hheld
        exact hold r' hheld
    exact .inr (.inr ⟨(hs.change q).uid_eq (hres.lt_next hcarr.2).ne, off, hcarr.1, .inl⟩)

omit hres in
/-- In an attentive step the player of a noticed `Disconnect` does not leave for another table. -/
theorem Heeded.not_switches (hs : RequestStep g s r a s') (ha : s.Attentive ⟨some r, a⟩)
    (hc : s.Carries q k off) (hnoticed : (s.requests r').noticed = some ((s.obj q).uid, k)) : a ≠ .switches q := by
  rintro rfl
  obtain ⟨hk, -⟩ | ⟨r'', t, hheld⟩ := hc
  · exact ha r' k hk hnoticed
  · obtain ⟨t', hfree, hloc⟩ := hs.switches_inv
    exact h.not_free hheld hloc.1 hfree

/-- A step keeps what a `Disconnect` has achieved so far. -/
theorem Heeded.settled_step (hs : RequestStep .ludo s r a s')
    (ha : s.Attentive ⟨some r, a⟩) (r' : Nat) : s'.Settled (s.requests r') := by
  intro uid k hsgt q off' huid hcarr
  obtain ⟨uid', rfl⟩ | rfl | ⟨huid', off, hc, hoff⟩ := h.carries_cases hres hs hcarr
  · -- Nobody is created with the connection,
    obtain ⟨-, -, -, -, hobj⟩ := hs.registers_inv
    rw [hobj] at huid
    obtain rfl : uid' = uid := huid
    exact absurd hsgt (ha r')
  · -- or gets it.
    obtain ⟨t, -, hloc⟩ := hs.reconnects_inv
    rw [(hs.change q).uid_eq (hres.lt_next (by rw [hloc.1]; nofun)).ne] at huid
    exact absurd (huid ▸ hsgt) (ha r')
  · rw [huid'] at huid
    obtain hdet | hsettles := h.settled r' uid k hsgt q off huid hc
    · obtain hsame | hdet' := hres.route_step hs (q := q) (by rw [hdet]; nofun) (by
        rintro rfl
        obtain ⟨t, -, hloc⟩ := hs.switches_inv
        cases hdet.symm.trans hloc.1)
      · exact .inl (hsame.trans hdet)
      · exact .inl hdet'
    · by_cases hdet' : (s'.obj q).tableID = .detached
      · exact .inl hdet'
      refine .inr (hsettles.mono fun hcall hpend => ?_)
      have hnoticed : (s.requests r').noticed = some ((s.obj q).uid, k) := by
        rw [Pc.noticed_of_sought hcall, hsgt, huid]
      refine ⟨(hres.route_step hs hpend (h.not_switches hs ha hc hnoticed)).resolve_right hdet',
        fun h₀ => (hoff h₀).resolve_right ?_⟩
      rintro ⟨f, hr⟩
      exact hpend (hres.pending_of_seeks (r := r) (by rw [hr]; rfl))

theorem Heeded.settled_self (hreg : s.Registered)
    (hs : RequestStep .ludo s r a s') (ha : s.Attentive ⟨some r, a⟩) : s'.Settled (s'.requests r) := by
  have hold := h.settled_step hres hs ha r
  cases hs with
  | reads hreads =>
    rw [setPc_requests_self]
    exact (h.reads hres hreg hreads).setPc hreads.held_eq
  | @noticesNowhere p uid k again at_ nowhere =>
    rw [at_] at hold
    rw [setPc_requests_self]
    rintro uid k ⟨⟩ q off huid hc
    obtain hdet | rfl := hold _ _ rfl q off huid hc
    · exact .inl hdet
    · cases hq : (s.obj q).tableID with
      | pending => exact absurd hq ha
      | detached => exact .inl hq
      | table t => exact absurd hq (nowhere t)
  | notices at_ table =>
    rw [at_] at hold
    rw [setPc_requests_self]
    rintro uid k ⟨⟩ q off huid hc
    exact (hold _ _ rfl q off huid hc).imp_right fun hq => ⟨hq, hq ▸ table⟩
  | misses => exact ha.elim
  | drops at_ free located _ ho => exact h.drops hres at_ free located ha ho
  | seatPushFails _ _ _ _ ho | seatFindsOffline _ _ _ _ ho =>
    exact .of_none (ho.sought_eq Seating.sought_fails rfl)
  | pushFails _ _ _ _ _ ho | reenterPushFails _ _ _ _ ho | loses _ _ _ _ _ ho =>
    exact .of_none (ho.sought_eq rfl rfl)
  | saves at_ | unbinds at_ =>
    rw [at_] at hold
    rw [setPc_requests_self]
    exact hold.follows (fun _ h => h) fun _ _ _ h => h
  | finalizes at_ | cancelsAgain at_ =>
    rw [at_] at hold
    rw [setPc_requests_self]
    exact hold.follows (fun _ => Caller.sought_succeeds) fun _ _ _ => Caller.settles_succeeds
  | cancels at_ =>
    rw [at_] at hold
    rw [setPc_requests_self]
    exact hold.follows (fun _ => Caller.sought_fails) fun _ _ _ => Caller.settles_fails
  | marks _ whot => cases whot
  | _ =>
    rw [setPc_requests_self]
    exact .of_none rfl

theorem Heeded.requestStep (hreg : s.Registered)
    (hs : RequestStep .ludo s r a s') (ha : s.Attentive ⟨some r, a⟩) : s'.Heeded where
  held := h.held_step hres hs
  settled r' := by
    by_cases hr : r' = r
    · subst hr
      exact h.settled_self hres hreg hs ha
    · rw [hs.requests_of_ne hr]
      exact h.settled_step hres hs ha r'

end

omit [DecidableEq U] in
theorem Heeded.tableStep (h : s.Heeded) (hs : TableStep g s s') : s'.Heeded where
  held r q t session off hheld := by
    rw [hs.requests_eq] at hheld
    rw [(hs.keeps q).tableID]
    exact h.held r q t session off hheld
  settled r uid k hsgt q off huid hc := by
    rw [hs.requests_eq] at hsgt ⊢
    rw [(hs.keeps q).uid] at huid
    rw [(hs.keeps q).tableID]
    obtain ⟨hk, rfl⟩ | ⟨r', t, hheld⟩ := hc
    · rw [(hs.keeps q).session] at hk
      exact (h.settled r uid k hsgt q _ huid (.inl ⟨hk, rfl⟩)).imp_right fun hset =>
        hset.mono fun _ _ => ⟨rfl, (hs.keeps q).isOffline⟩
    · rw [hs.requests_eq] at hheld
      exact h.settled r uid k hsgt q off huid (.inr ⟨r', t, hheld⟩)

end State

variable [DecidableEq U] [DecidableEq T]

/-- A careful step of Ludo, and it is attentive. -/
def AttentiveStep (s : State U T K n) (l : Label U T K) (s' : State U T K n) : Prop :=
  CarefulStep .ludo s l s' ∧ s.Attentive l

theorem heeded (h : Reachable Initial AttentiveStep s) : s.Heeded := by
  have hinv : s.Heeded ∧ s.Resident ∧ s.Registered := by
    apply h.invariant (P := fun s => s.Heeded ∧ s.Resident ∧ s.Registered)
    · rintro s ⟨uid, rfl⟩
      exact ⟨⟨nofun, nofun⟩, resident_new uid, registered_new uid⟩
    · rintro s l s' ⟨⟨hstep, hcare⟩, hattentive⟩ ⟨hheeded, hres, hreg⟩
      refine ⟨?_, hres.step hcare hstep, hreg.step hres hstep⟩
      cases hstep with
      | request hs => exact hheeded.requestStep hres hreg hs hattentive
      | table hs => exact hheeded.tableStep hs
  exact hinv.1

/-- After a `Disconnect` a player with that session is not on a chair, or offline. -/
theorem ludo_disconnect_heeded (h : Reachable Initial AttentiveStep s)
    (hr : s.requests r = .returned (.disconnected uid k)) (huid : (s.obj p).uid = uid)
    (hsession : (s.obj p).session = some k) :
    (∀ t c, s.seats t c ≠ some (.player p)) ∨ (s.obj p).isOffline = true := by
  have hres := (resident_registered (h.mono fun _ _ _ hs => hs.1)).1
  have hset := (heeded h).settled r
  rw [hr] at hset
  obtain hdet | ⟨-, hoff⟩ := hset uid k rfl p _ huid (.inl ⟨hsession, rfl⟩)
  · refine .inl fun t c hc => ?_
    cases hdet.symm.trans (hres.chair t c p hc).1
  · exact .inr hoff

/-- User 7 logs in, the game begins, and the connection is lost. -/
theorem ludo_disconnect_heeded_gaming : ∃ s : State Nat Unit Nat 1,
    (s.requests 1 = .returned (.disconnected 7 1) ∧ (s.obj 0).uid = 7 ∧ (s.obj 0).session = some 1) ∧
    ((∀ t c, s.seats t c ≠ some (.player 0)) ∨ (s.obj 0).isOffline = true) := by
  have h₀ : Calm AttentiveStep (.new 0 : State Nat Unit Nat 1) := calm_new _ 0
  have h₁ := h₀.next 0 (.login 7 1 true) ⟨⟨.request (.reads .startLogin), trivial⟩, trivial⟩ rfl rfl
  have h₂ := h₁.next 0 (.creating 7 1 true) ⟨⟨.request (.reads (.loginAbsent rfl)), trivial⟩, trivial⟩ rfl rfl
  have hsgt : ∀ r, (State.requests (.setPc (.setPc (.new 0 : State Nat Unit Nat 1) 0 (.login 7 1 true)) 0
      (.creating 7 1 true)) r).sought ≠ some (7, 1) := by
    rintro (_ | r) hr <;> cases hr
  have h₃ := h₂.next 0 (.binding 0) ⟨⟨.request (.registers rfl rfl), trivial⟩, hsgt⟩ rfl rfl
  have h₄ := h₃.next 0 (.seeking 0 .enter) ⟨⟨.request (.reads .bound), trivial⟩, trivial⟩ rfl rfl
  have h₅ := h₄.through 0 (.returned (.loginOk 0))
    ⟨⟨.request (.seats (t := ()) (c := 0) rfl trivial (h₄.free rfl) (firstFree_zero rfl rfl) nofun),
      trivial⟩, trivial⟩ ⟨⟨.request (.reads (.seatSucceeds (.inl rfl))), trivial⟩, trivial⟩ rfl rfl
  have h₆ : Calm AttentiveStep (State.play _ () .play fun _ => true) :=
    ⟨h₅.reachable.next ⟨⟨.table (.plays (h₅.free rfl)), trivial⟩, trivial⟩, h₅.jobs⟩
  -- The table takes its offline flag.
  have h₇ := h₆.next 1 (.disconnect 7 1) ⟨⟨.request (.reads .startDisconnect), trivial⟩, trivial⟩ rfl rfl
  have h₈ := h₇.next 1 (.callPlayer 0 (.disconnect 7 1 false))
    ⟨⟨.request (.reads (.disconnectCalls rfl rfl nofun)), trivial⟩, trivial⟩ rfl rfl
  have h₉ := h₈.next 1 (.call 0 () (.disconnect 7 1 false)) ⟨⟨.request (.notices rfl rfl), trivial⟩, nofun⟩ rfl rfl
  have h₁₀ := h₉.reachable.next ⟨⟨.request (r := 1) (.drops (p := 0) (t := ()) rfl (h₉.free rfl)
    ⟨rfl, 0, rfl, rfl⟩ rfl (.marks rfl)), trivial⟩, .inl rfl⟩
  exact ⟨_, ⟨rfl, rfl, rfl⟩, ludo_disconnect_heeded (r := 1) (p := 0) h₁₀ rfl rfl rfl⟩

/-- Two robots play, and user 7 gets the third chair as a spectator.  When its connection is lost, the
table neither lets the player go nor marks it. -/
theorem ludo_disconnect_lost : ∃ s : State Nat Unit Nat 3, Reachable Initial (Step .ludo) s ∧ s.Quiescent ∧
    s.requests 1 = .returned (.disconnected 7 1) ∧ (s.obj 0).uid = 7 ∧ (s.obj 0).session = some 1 ∧
    (∃ c, s.seats () c = some (.player 0)) ∧ (s.obj 0).isOffline = false := by
  have h₁ := (calm_robotsPlay.loggedIn (t := ()) (c := 2) rfl rfl rfl ⟨rfl, by decide⟩).careless
  have h₂ := h₁.reads 1 (.disconnect 7 1) .startDisconnect rfl
  have h₃ := h₂.reads 1 (.callPlayer 0 (.disconnect 7 1 false)) (.disconnectCalls rfl rfl nofun) rfl
  have h₄ := h₃.next 1 (.call 0 () (.disconnect 7 1 false)) (.request (.notices rfl rfl)) rfl rfl
  have h₅ := h₄.reachable.next (.request (r := 1) (.drops (p := 0) (t := ()) rfl (h₄.free rfl)
    ⟨rfl, 2, rfl, rfl⟩ rfl (.refuses rfl (.inr rfl))))
  refine ⟨_, h₅, ?_, rfl, rfl, rfl, ⟨2, rfl⟩, rfl⟩
  rintro (_ | _ | r)
  · exact .inr ⟨_, rfl⟩
  · exact .inr ⟨_, rfl⟩
  · exact .inl rfl

end Yola.Room
