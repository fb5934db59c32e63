import Yola.GateClient.Pool
import Yola.Reasoning.Updates

/-!
# What the table of connections keeps

An entry of the table counts the acquires that have not been released, and an idle one has a timer whose
firing evicts it.  A timer that was stopped too late finds the entry in use, or used too short a time ago, or
gone.
-/

namespace Yola.GateClient

open Function Reasoning

variable {Host : Type} {idle : Nat} {c c' : Client Host} {timer since : Nat} {host : Host}

namespace Client

variable {timer : Nat} {phase : TimerPhase} {t : Nat}

theorem setPhase_self : (c.setPhase timer phase).timers timer = { c.timers timer with phase := phase } :=
  update_self ..

theorem setPhase_of_ne (h : t ≠ timer) : (c.setPhase timer phase).timers t = c.timers t := update_of_ne h ..

theorem setPhase_entry (t : Nat) : ((c.setPhase timer phase).timers t).entry = (c.timers t).entry :=
  update_proj (f := c.timers) (x := { c.timers timer with phase := phase }) Timer.entry rfl t

theorem setPhase_fired (hph : phase ≠ .fired)
    (h : ((c.setPhase timer phase).timers t).phase = .fired) : (c.setPhase timer phase).timers t = c.timers t := by
  by_cases heq : t = timer
  · rw [heq, setPhase_self] at h
    exact absurd h hph
  · exact setPhase_of_ne heq

end Client

/-! ## The table -/

structure Table (c : Client Host) : Prop where
  made : ∀ {host id}, c.byHost host = some id → id < c.made
  host : ∀ {host id}, c.byHost host = some id → (c.entries id).host = host
  acquired : ∀ {id}, id ∈ c.acquired → id < c.made
  inflight : ∀ {host id}, c.byHost host = some id → (c.entries id).inflight = c.acquired.count id
  gone : c.isNil = true → ∀ host, c.byHost host = none
  closed : c.closing ≠ .none → c.isNil = true ∧ c.cancelled = true
  returned : c.closing = .returned → c.evictions = []

/-- A timer that will call `evict` for the entry, and that was armed when the entry was last used. -/
structure Pending (c : Client Host) (id timer : Nat) : Prop where
  entry : (c.timers timer).entry = id
  phase : (c.timers timer).phase = .armed ∨ (c.timers timer).phase = .fired
  since : (c.entries id).lastUsed ≤ (c.timers timer).since

structure Timers (idle : Nat) (c : Client Host) : Prop where
  pending : ∀ {host id}, c.byHost host = some id → (c.entries id).inflight = 0 →
    ∃ timer, (c.entries id).idleTimer = some timer ∧ Pending c id timer
  owner : ∀ {id timer}, (c.entries id).idleTimer = some timer → timer < c.armed ∧ (c.timers timer).entry = id
  due : ∀ {timer}, (c.timers timer).phase = .fired → (c.timers timer).since + idle ≤ c.now

variable {id : Nat}

theorem Pending.congr (h : Pending c id timer) (timers : c'.timers timer = c.timers timer)
    (entries : (c'.entries id).lastUsed = (c.entries id).lastUsed) : Pending c' id timer :=
  ⟨timers ▸ h.entry, timers ▸ h.phase, by rw [entries, timers]; exact h.since⟩

theorem Table.host_eq (h : Table c) {host' : Host} (hid : c.byHost host = some id)
    (hid' : c.byHost host' = some id) : host = host' :=
  (h.host hid).symm.trans (h.host hid')

theorem Table.inflight_nonneg (h : Table c) (hid : c.byHost host = some id) :
    0 ≤ (c.entries id).inflight := by
  rw [h.inflight hid]
  exact Int.natCast_nonneg _

theorem Timers.fires (h : Timers idle c) (due : (c.timers timer).since + idle ≤ c.now) :
    Timers idle (c.setPhase timer .fired) where
  pending hid hzero := by
    obtain ⟨t, ht, hpend⟩ := h.pending hid hzero
    refine ⟨t, ht, ?_⟩
    by_cases heq : t = timer
    · subst heq
      have hself := @Client.setPhase_self _ c t .fired
      exact ⟨by rw [hself]; exact hpend.entry, by rw [hself]; exact .inr rfl, by rw [hself]; exact hpend.since⟩
    · exact hpend.congr (Client.setPhase_of_ne heq) rfl
  owner ht := ⟨(h.owner ht).1, (Client.setPhase_entry _).trans (h.owner ht).2⟩
  due {t} ht := by
    by_cases heq : t = timer
    · rw [heq, Client.setPhase_self]
      exact due
    · rw [Client.setPhase_of_ne heq] at ht ⊢
      exact h.due ht

/-! ## Steps that are about one entry -/

structure About (id : Nat) (c c' : Client Host) : Prop where
  made : c.made ≤ c'.made
  armed : c.armed ≤ c'.armed
  now : c.now ≤ c'.now
  entries : ∀ i, i ≠ id → c'.entries i = c.entries i
  byHost : ∀ host i, i ≠ id → c'.byHost host = some i → c.byHost host = some i
  acquired : ∀ i, i ≠ id → c'.acquired.count i = c.acquired.count i
  entry : ∀ t, t < c.armed → (c'.timers t).entry = (c.timers t).entry
  timers : ∀ t, t < c.armed → (c.timers t).entry ≠ id → c'.timers t = c.timers t
  fired : ∀ t, (c'.timers t).phase = .fired → c'.timers t = c.timers t
  isNil : c'.isNil = c.isNil
  cancelled : c'.cancelled = c.cancelled
  closing : c'.closing = c.closing
  evictions : c.isNil = true → c'.evictions = c.evictions

namespace About

variable {c'' : Client Host}

theorem refl : About id c c where
  made := Nat.le_refl _
  armed := Nat.le_refl _
  now := Nat.le_refl _
  entries _ _ := rfl
  byHost _ _ _ h := h
  acquired _ _ := rfl
  entry _ _ := rfl
  timers _ _ _ := rfl
  fired _ _ := rfl
  isNil := rfl
  cancelled := rfl
  closing := rfl
  evictions _ := rfl

theorem used {entry : Rpc Host} {acquired : List Nat} (h : About id c c')
    (hcnt : ∀ i, i ≠ id → acquired.count i = c.acquired.count i) :
    About id c { c'.setEntry id entry with acquired := acquired } :=
  { h with
    entries := fun i hi => (update_of_ne hi ..).trans (h.entries i hi)
    acquired := hcnt }

theorem afterFunc {since : Nat} (h : About id c c') (later : c'.now ≤ since) :
    About id c (c'.afterFunc id since) := by
  have hold : ∀ {t}, t < c.armed → (c'.afterFunc id since).timers t = c'.timers t :=
    fun ht => update_of_ne (Nat.ne_of_lt (Nat.lt_of_lt_of_le ht h.armed)) ..
  exact
    { h with
      armed := Nat.le_succ_of_le h.armed
      now := Nat.le_trans h.now later
      entries := fun i hi => (update_of_ne hi ..).trans (h.entries i hi)
      entry := fun t ht => by rw [hold ht]; exact h.entry t ht
      timers := fun t ht hne => (hold ht).trans (h.timers t ht hne)
      fired := fun t ht => by
        obtain ⟨-, heq⟩ | ⟨-, heq⟩ := update_cases (y := (c'.afterFunc id since).timers t) rfl
        · rw [← heq] at ht
          cases ht
        · rw [← heq] at ht ⊢
          exact h.fired t ht }

theorem setPhase {timer : Nat} {phase : TimerPhase} (h : (c.timers timer).entry = id) (hph : phase ≠ .fired) :
    About id c (c.setPhase timer phase) :=
  { (refl : About id c c) with
    entry := fun t _ => Client.setPhase_entry t
    timers := fun _ _ hne => Client.setPhase_of_ne fun heq => hne (heq ▸ h)
    fired := fun _ => Client.setPhase_fired hph }

end About

theorem Table.about (h : Table c) (a : About id c c') (made : id < c'.made)
    (self : ∀ host, c'.byHost host = some id → c.isNil = false ∧ (c'.entries id).host = host ∧
      (c'.entries id).inflight = c'.acquired.count id) : Table c' where
  made {host i} hi := by
    by_cases heq : i = id
    · rwa [heq]
    · exact Nat.lt_of_lt_of_le (h.made (a.byHost host i heq hi)) a.made
  host {host i} hi := by
    by_cases heq : i = id
    · subst heq
      exact (self host hi).2.1
    · rw [a.entries i heq]
      exact h.host (a.byHost host i heq hi)
  acquired {i} hi := by
    by_cases heq : i = id
    · rwa [heq]
    · rw [← List.count_pos_iff, a.acquired i heq, List.count_pos_iff] at hi
      exact Nat.lt_of_lt_of_le (h.acquired hi) a.made
  inflight {host i} hi := by
    by_cases heq : i = id
    · subst heq
      exact (self host hi).2.2
    · rw [a.entries i heq, a.acquired i heq]
      exact h.inflight (a.byHost host i heq hi)
  gone hnil host := by
    rw [a.isNil] at hnil
    refine Option.eq_none_iff_forall_ne_some.mpr fun i hi => ?_
    by_cases heq : i = id
    · subst heq
      cases hnil.symm.trans (self host hi).1
    · cases (h.gone hnil host).symm.trans (a.byHost host i heq hi)
  closed := by
    rw [a.closing, a.isNil, a.cancelled]
    exact h.closed
  returned hr := by
    rw [a.closing] at hr
    rw [a.evictions (h.closed (by rw [hr]; nofun)).1]
    exact h.returned hr

theorem Timers.about (h : Timers idle c) (a : About id c c')
    (pending : ∀ host, c'.byHost host = some id → (c'.entries id).inflight = 0 →
      ∃ timer, (c'.entries id).idleTimer = some timer ∧ Pending c' id timer)
    (owner : ∀ timer, (c'.entries id).idleTimer = some timer → timer < c'.armed ∧ (c'.timers timer).entry = id) :
    Timers idle c' where
  pending {host i} hi hzero := by
    by_cases heq : i = id
    · subst heq
      exact pending host hi hzero
    · have hent := a.entries i heq
      rw [hent] at hzero ⊢
      obtain ⟨t, ht, hp⟩ := h.pending (a.byHost host i heq hi) hzero
      have hsame := a.timers t (h.owner ht).1 (by rwa [hp.entry])
      exact ⟨t, ht, hp.congr hsame (by rw [hent])⟩
  owner {i t} ht := by
    by_cases heq : i = id
    · subst heq
      exact owner t ht
    · rw [a.entries i heq] at ht
      obtain ⟨hlt, hent⟩ := h.owner ht
      exact ⟨Nat.lt_of_lt_of_le hlt a.armed, (a.entry t hlt).trans hent⟩
  due {t} ht := by
    have hsame := a.fired t ht
    rw [hsame] at ht ⊢
    exact Nat.le_trans (h.due ht) a.now

theorem Timers.afterFunc (h : Timers idle c) (a : About id c c') (later : c'.now ≤ since)
    (used : (c'.entries id).lastUsed ≤ since) : Timers idle (c'.afterFunc id since) := by
  have hself : (c'.afterFunc id since).entries id = { c'.entries id with idleTimer := some c'.armed } :=
    update_self ..
  have hnew : (c'.afterFunc id since).timers c'.armed = ⟨id, since, .armed⟩ := update_self ..
  refine h.about (a.afterFunc later) (fun host _ _ => ?_) fun timer ht => ?_
  · refine ⟨c'.armed, by rw [hself], ?_⟩
    exact ⟨by rw [hnew], by rw [hnew]; exact .inl rfl, by rw [hself, hnew]; exact used⟩
  · rw [hself] at ht
    cases ht
    exact ⟨Nat.lt_succ_self _, by rw [hnew]⟩

theorem Table.afterFunc (h : Table c) (id since : Nat) : Table (c.afterFunc id since) := by
  have hhost := update_proj (f := c.entries) (k := id) (x := { c.entries id with idleTimer := some c.armed })
    Rpc.host rfl
  have hinflight := update_proj (f := c.entries) (k := id) (x := { c.entries id with idleTimer := some c.armed })
    Rpc.inflight rfl
  exact
    { h with
      host := fun hi => (hhost _).trans (h.host hi)
      inflight := fun hi => (hinflight _).trans (h.inflight hi) }

/-! ## Acquire -/

theorem Timers.stopTimer_about (h : Timers idle c) (id : Nat) :
    About id c (c.stopTimer (c.entries id).idleTimer) := by
  unfold Client.stopTimer
  split
  · exact .refl
  next timer htim =>
    split
    · exact .setPhase (h.owner htim).2 nofun
    · exact .refl

theorem Client.stopTimer_rest (c : Client Host) (timer : Option Nat) :
    c.stopTimer timer = { c with timers := (c.stopTimer timer).timers } := by
  unfold Client.stopTimer
  split
  · rfl
  · split <;> rfl

theorem Client.cached_cases (c : Client Host) (host : Host) :
    (c.cached host).2 = c ∨ ∃ id, c.isNil = false ∧ c.byHost host = some id ∧
      (c.cached host).2 = { (c.stopTimer (c.entries id).idleTimer).setEntry id
          { c.entries id with inflight := (c.entries id).inflight + 1, idleTimer := none } with
        acquired := c.acquired ++ [id] } := by
  unfold Client.cached
  split
  · exact .inl rfl
  next hopen =>
    split
    · exact .inl rfl
    next id hid =>
      simp only [Bool.or_eq_true, not_or, Bool.not_eq_true] at hopen
      exact .inr ⟨id, hopen.2, hid, rfl⟩

theorem Timers.cached_about (h : Timers idle c) (id : Nat) (entry : Rpc Host) :
    About id c { (c.stopTimer (c.entries id).idleTimer).setEntry id entry with acquired := c.acquired ++ [id] } := by
  refine (h.stopTimer_about id).used fun i hi => ?_
  rw [List.count_append, List.count_singleton, if_neg (by simpa using Ne.symm hi)]
  rfl

theorem Table.acquires (h : Table c) (timers : Timers idle c) (host : Host) : Table (c.cached host).2 := by
  obtain hsame | ⟨id, hnil, hid, hnew⟩ := c.cached_cases host
  · rwa [hsame]
  have habout := timers.cached_about id { c.entries id with inflight := (c.entries id).inflight + 1, idleTimer := none }
  rw [hnew]
  rw [c.stopTimer_rest] at habout ⊢
  refine h.about habout (h.made hid) fun host' hi => ⟨hnil, ?_⟩
  change (update c.entries id _ id).host = host' ∧
    (update c.entries id _ id).inflight = ((c.acquired ++ [id]).count id : Nat)
  rw [update_self, List.count_append, List.count_singleton_self]
  exact ⟨h.host hi, congrArg (· + 1) (h.inflight hid)⟩

theorem Timers.acquires (h : Timers idle c) (table : Table c) (host : Host) : Timers idle (c.cached host).2 := by
  obtain hsame | ⟨id, -, hid, hnew⟩ := c.cached_cases host
  · rwa [hsame]
  rw [hnew]
  refine h.about (h.cached_about id _) (fun host' _ hzero => ?_) fun timer ht => ?_
  · change (update (c.stopTimer _).entries id _ id).inflight = 0 at hzero
    rw [update_self] at hzero
    have hnonneg := table.inflight_nonneg hid
    have hzero' : (c.entries id).inflight + 1 = 0 := hzero
    omega
  · change (update (c.stopTimer _).entries id _ id).idleTimer = some timer at ht
    rw [update_self] at ht
    cases ht

/-! ## Release -/

/-- `release` forgets the acquire; an entry of the table gets one call less. -/
theorem Client.release_cases (c : Client Host) (id since : Nat) :
    (c.isNil = true ∨ c.byHost (c.entries id).host ≠ some id) ∧
      c.release id since = { c with acquired := c.acquired.erase id } ∨
    c.isNil = false ∧ c.byHost (c.entries id).host = some id ∧
      (c.release id since = { c.setEntry id
          { c.entries id with inflight := (c.entries id).inflight - 1, lastUsed := c.now } with
            acquired := c.acquired.erase id } ∧
        (c.entries id).inflight - 1 ≠ 0 ∨
      c.release id since = { c.setEntry id
          { c.entries id with inflight := (c.entries id).inflight - 1, lastUsed := c.now } with
            acquired := c.acquired.erase id }.afterFunc id since) := by
  unfold Client.release
  dsimp only
  split
  next hout => exact .inl ⟨by simpa using hout, rfl⟩
  next hin =>
    simp only [Bool.or_eq_true, decide_eq_true_eq, not_or, not_not, Bool.not_eq_true] at hin
    split
    · exact .inr ⟨hin.1, hin.2, .inr rfl⟩
    next hzero => exact .inr ⟨hin.1, hin.2, .inl ⟨rfl, hzero⟩⟩

theorem Client.released_about (c : Client Host) (id : Nat) (entry : Rpc Host) :
    About id c { c.setEntry id entry with acquired := c.acquired.erase id } :=
  About.refl.used fun _ hi => List.count_erase_of_ne hi

theorem Table.releases (h : Table c) (since : Nat) (held : id ∈ c.acquired) :
    Table (c.release id since) := by
  have hused : c.isNil = false → c.byHost (c.entries id).host = some id →
      Table { c.setEntry id { c.entries id with inflight := (c.entries id).inflight - 1, lastUsed := c.now } with
        acquired := c.acquired.erase id } := by
    intro hnil hid
    refine h.about (c.released_about id _) (h.acquired held) fun host hi => ⟨hnil, ?_⟩
    have hpos := List.count_pos_iff.mpr held
    have hin := h.inflight hid
    change (update c.entries id _ id).host = host ∧
      (update c.entries id _ id).inflight = ((c.acquired.erase id).count id : Nat)
    rw [update_self, List.count_erase_self]
    refine ⟨h.host hi, ?_⟩
    change (c.entries id).inflight - 1 = _
    omega
  obtain ⟨hout, hsame⟩ | ⟨hnil, hid, ⟨hsame, -⟩ | hsame⟩ := c.release_cases id since
  · rw [hsame]
    have habout := c.released_about id (c.entries id)
    rw [Client.setEntry, update_eq_self] at habout
    refine h.about habout (h.acquired held) fun host hi => ?_
    obtain hnil | hnot := hout
    · cases (h.gone hnil host).symm.trans hi
    · exact absurd ((h.host hi).symm ▸ hi) hnot
  · rw [hsame]
    exact hused hnil hid
  · rw [hsame]
    exact (hused hnil hid).afterFunc id since

theorem Timers.releases (h : Timers idle c) (later : c.now ≤ since) :
    Timers idle (c.release id since) := by
  have hself : update c.entries id
      { c.entries id with inflight := (c.entries id).inflight - 1, lastUsed := c.now } id =
      { c.entries id with inflight := (c.entries id).inflight - 1, lastUsed := c.now } := update_self ..
  obtain ⟨-, hsame⟩ | ⟨-, -, ⟨hsame, hzero⟩ | hsame⟩ := c.release_cases id since
  · rw [hsame]
    exact { h with pending := fun hi hz => (h.pending hi hz).imp fun t ⟨ht, hp⟩ => ⟨ht, hp.congr rfl rfl⟩ }
  · rw [hsame]
    refine h.about (c.released_about id _) (fun _ _ hz => ?_) fun _ ht => ?_
    · exact absurd ((congrArg Rpc.inflight hself).symm.trans hz) hzero
    · exact h.owner ((congrArg Rpc.idleTimer hself).symm.trans ht)
  · rw [hsame]
    refine h.afterFunc (c.released_about id _) later ?_
    exact Nat.le_trans (Nat.le_of_eq (congrArg Rpc.lastUsed hself)) later

theorem Client.cached_rest (c : Client Host) (host : Host) :
    (c.cached host).2.byHost = c.byHost ∧ (c.cached host).2.closing = c.closing := by
  obtain hsame | ⟨_, _, _, hnew⟩ := c.cached_cases host
  · rw [hsame]
    exact ⟨rfl, rfl⟩
  · rw [hnew, c.stopTimer_rest]
    exact ⟨rfl, rfl⟩

theorem Client.release_rest (c : Client Host) (id since : Nat) :
    (c.release id since).byHost = c.byHost ∧ (c.release id since).closing = c.closing := by
  obtain ⟨_, hsame⟩ | ⟨_, _, ⟨hsame, _⟩ | hsame⟩ := c.release_cases id since <;> rw [hsame] <;> exact ⟨rfl, rfl⟩

/-- The timer of an idle entry finds nothing that keeps the entry. -/
theorem Timers.not_keeps (h : Timers idle c) (table : Table c)
    (hid : c.byHost host = some id) (zero : (c.entries id).inflight = 0)
    (own : (c.entries id).idleTimer = some timer) (fired : (c.timers timer).phase = .fired) :
    ¬ c.Keeps idle id := by
  obtain ⟨t, ht, hpend⟩ := h.pending hid zero
  cases own.symm.trans ht
  have hdue := h.due fired
  have hsince := hpend.since
  rintro (hnil | hnot | huse | hrecent)
  · cases (table.gone hnil host).symm.trans hid
  · exact hnot ((table.host hid).symm ▸ hid)
  · omega
  · omega

theorem Client.of_not_keeps (h : ¬ c.Keeps idle id) :
    c.isNil = false ∧ c.byHost (c.entries id).host = some id ∧ ¬ 0 < (c.entries id).inflight := by
  simp only [Client.Keeps, not_or, not_not, Bool.not_eq_true] at h
  exact ⟨h.1, h.2.1, h.2.2.1⟩

/-! ## Close -/

theorem Table.empties (h : Table c) (cancelled : c.cancelled = true) : Table c.empty where
  made := nofun
  host := nofun
  acquired := h.acquired
  inflight := nofun
  gone _ _ := rfl
  closed _ := ⟨rfl, cancelled⟩
  returned := nofun

theorem Timers.empties (h : Timers idle c) : Timers idle c.empty := by
  have hkeeps : ∀ t, ((c.empty).timers t).entry = (c.timers t).entry ∧
      (((c.empty).timers t).phase = .fired → (c.empty).timers t = c.timers t) := by
    intro t
    dsimp only [Client.empty]
    split
    · exact ⟨rfl, nofun⟩
    · exact ⟨rfl, fun _ => rfl⟩
  exact
    { pending := nofun
      owner := fun ht => ⟨(h.owner ht).1, (hkeeps _).1.trans (h.owner ht).2⟩
      due := fun {t} ht => by
        have hsame := (hkeeps t).2 ht
        rw [hsame] at ht ⊢
        exact h.due ht }

/-! ## Connect -/

variable [DecidableEq Host]

theorem Client.connected_about (c : Client Host) (host : Host) (entry : Rpc Host) :
    About c.made c { c.setEntry c.made entry with
      byHost := update c.byHost host (some c.made), made := c.made + 1 } :=
  { About.refl.used fun _ _ => rfl with
    made := Nat.le_succ _
    byHost := fun host' i hne hi => by
      obtain ⟨-, heq⟩ | ⟨-, hi⟩ := update_cases hi
      · exact absurd (Option.some.inj heq).symm hne
      · exact hi }

theorem Table.connects (h : Table c) (host : Host) (since : Nat) : Table (c.connect host since) := by
  unfold Client.connect
  split
  · exact h
  next hopen =>
  simp only [Bool.or_eq_true, not_or, Bool.not_eq_true] at hopen
  apply Table.afterFunc
  refine h.about (c.connected_about host _) (Nat.lt_succ_self _) fun host' hi => ⟨hopen.1, ?_⟩
  have hnone : c.made ∉ c.acquired := fun hm => Nat.lt_irrefl _ (h.acquired hm)
  change (update c.entries c.made _ c.made).host = host' ∧
    (update c.entries c.made _ c.made).inflight = (c.acquired.count c.made : Nat)
  rw [update_self, List.count_eq_zero.mpr hnone]
  obtain ⟨heq, -⟩ | ⟨-, hi⟩ := update_cases hi
  · exact ⟨heq.symm, rfl⟩
  · exact absurd (h.made hi) (Nat.lt_irrefl _)

theorem Timers.connects (h : Timers idle c) (host : Host) (later : c.now ≤ since) :
    Timers idle (c.connect host since) := by
  unfold Client.connect
  split
  · exact h
  · refine h.afterFunc (c.connected_about host _) later ?_
    change (update c.entries c.made _ c.made).lastUsed ≤ since
    rw [update_self]
    exact later

/-! ## Evict -/

theorem Client.evicted_about (c : Client Host) (entry : Rpc Host) (hnil : c.isNil = false) :
    About (c.timers timer).entry c { (c.setPhase timer .done).setEntry (c.timers timer).entry entry with
      byHost := update c.byHost (c.entries (c.timers timer).entry).host none
      evictions := c.evictions ++ [(c.timers timer).entry] } := by
  have hdone : About (c.timers timer).entry c (c.setPhase timer .done) := .setPhase rfl nofun
  refine { hdone.used fun _ _ => rfl with byHost := fun host i _ hi => ?_, evictions := fun hx => ?_ }
  · obtain ⟨-, heq⟩ | ⟨-, hi⟩ := update_cases hi
    · cases heq
    · exact hi
  · cases hnil.symm.trans hx

theorem Table.evicted (h : Table c) : update c.byHost (c.entries id).host none host ≠ some id := by
  intro hi
  obtain ⟨-, heq⟩ | ⟨hne, hi⟩ := update_cases hi
  · cases heq
  · exact hne (h.host hi).symm

theorem Table.evicts (h : Table c) (timer : Nat) : Table (c.evict idle timer) := by
  unfold Client.evict
  dsimp only
  split
  · exact { h with }
  next hkeeps =>
    obtain ⟨hnil, hid, -⟩ := Client.of_not_keeps hkeeps
    exact h.about (c.evicted_about _ hnil) (h.made hid) fun host hi => absurd hi h.evicted

theorem Timers.evicts (h : Timers idle c) (table : Table c)
    (fired : (c.timers timer).phase = .fired) : Timers idle (c.evict idle timer) := by
  unfold Client.evict
  dsimp only
  split
  next hkeeps =>
    refine h.about (.setPhase rfl nofun) (fun host hi hzero => ?_) fun t ht => ?_
    · obtain ⟨t, ht, hpend⟩ := h.pending hi hzero
      have hne : t ≠ timer := by
        rintro rfl
        exact h.not_keeps table hi hzero ht fired hkeeps
      exact ⟨t, ht, hpend.congr (Client.setPhase_of_ne hne) rfl⟩
    · exact ⟨(h.owner ht).1, (Client.setPhase_entry _).trans (h.owner ht).2⟩
  next hkeeps =>
    refine h.about (c.evicted_about _ (Client.of_not_keeps hkeeps).1) (fun host hi => absurd hi table.evicted)
      fun t ht => ?_
    change (update c.entries (c.timers timer).entry _ (c.timers timer).entry).idleTimer = some t at ht
    rw [update_self] at ht
    cases ht

/-! ## The steps -/

theorem Table.step (h : Table c) (timers : Timers idle c) (hstep : Step idle c () c') : Table c' := by
  cases hstep with
  | ticks | fires => exact { h with }
  | acquires host => exact h.acquires timers host
  | connects host => exact h.connects host _
  | releases held => exact h.releases _ held
  | evicts => exact h.evicts _
  | finishes running =>
    refine { h with returned := fun hr => ?_ }
    rw [h.returned hr] at running
    exact absurd running (by simp)
  | cancels => exact { h with closed := fun hx => ⟨(h.closed hx).1, rfl⟩ }
  | empties cancelled => exact h.empties cancelled
  | returns emptied waited =>
    exact { h with closed := fun _ => h.closed (by rw [emptied]; nofun), returned := fun _ => waited }

theorem Timers.step (h : Timers idle c) (table : Table c) (hstep : Step idle c () c') : Timers idle c' := by
  cases hstep with
  | ticks later =>
    exact
      { pending := fun hi hz => (h.pending hi hz).imp fun t ⟨ht, hp⟩ => ⟨ht, hp.congr rfl rfl⟩
        owner := h.owner
        due := fun ht => Nat.le_trans (h.due ht) later }
  | fires _ due => exact h.fires due
  | acquires host => exact h.acquires table host
  | connects host later => exact h.connects host later
  | releases _ later => exact h.releases later
  | evicts fired => exact h.evicts table fired
  | finishes | cancels | returns =>
    exact { h with pending := fun hi hz => (h.pending hi hz).imp fun t ⟨ht, hp⟩ => ⟨ht, hp.congr rfl rfl⟩ }
  | empties => exact h.empties

theorem sound [Inhabited Host] (h : Reachable (· = Client.new) (Step idle) c) : Table c ∧ Timers idle c := by
  apply h.invariant
  · rintro _ rfl
    exact
      ⟨{ made := nofun
         host := nofun
         acquired := nofun
         inflight := nofun
         gone := nofun
         closed := fun hx => absurd rfl hx
         returned := nofun },
       { pending := nofun
         owner := nofun
         due := nofun }⟩
  · rintro c l c' hstep ⟨htab, htim⟩
    exact ⟨htab.step htim hstep, htim.step htab hstep⟩

/-- An entry that is in use stays in the table until `Close`. -/
theorem Step.keeps_used (hstep : Step idle c () c') (table : Table c)
    (hid : c.byHost host = some id) (used : id ∈ c.acquired) : c'.byHost host = some id ∨ c'.isNil = true := by
  cases hstep with
  | acquires host' =>
    rw [(c.cached_rest host').1]
    exact .inl hid
  | connects host' =>
    left
    unfold Client.connect
    split
    · exact hid
    next hmissing =>
      have hne : host ≠ host' := by
        rintro rfl
        simp [hid] at hmissing
      exact (update_of_ne hne ..).trans hid
  | releases =>
    rw [(c.release_rest _ _).1]
    exact .inl hid
  | @evicts timer =>
    left
    unfold Client.evict
    dsimp only
    split
    · exact hid
    next hkeeps =>
      have hne : host ≠ (c.entries (c.timers timer).entry).host := by
        rintro rfl
        -- The entry that is evicted is the one of the host, and it is in use.
        obtain ⟨-, hent, hidle⟩ := Client.of_not_keeps hkeeps
        rw [← Option.some.inj (hid.symm.trans hent), table.inflight hid] at hidle
        have hpos := List.count_pos_iff.mpr used
        omega
      exact (update_of_ne hne ..).trans hid
  | empties => exact .inr rfl
  | _ => exact .inl hid

theorem Step.stays_returned (hstep : Step idle c () c') (table : Table c) (returned : c.closing = .returned) :
    c'.closing = .returned := by
  have hnil := (table.closed (by rw [returned]; nofun)).1
  cases hstep with
  | acquires host => exact (c.cached_rest host).2.trans returned
  | connects =>
    unfold Client.connect
    split <;> exact returned
  | releases => exact (c.release_rest _ _).2.trans returned
  | evicts =>
    unfold Client.evict
    dsimp only
    split <;> exact returned
  | empties _ present => cases hnil.symm.trans present
  | returns => rfl
  | _ => exact returned

/-- Every entry stands under its host alone and counts its acquires; one that is in use is neither evicted nor
replaced; the timer of an idle one evicts it; and after `Close` there is nothing left. -/
theorem pool_bookkeeping [Inhabited Host] (idle : Nat) (h : Reachable (· = Client.new) (Step idle) c) :
    (∀ host host' id, c.byHost host = some id → c.byHost host' = some id → host = host') ∧
    (∀ host id, c.byHost host = some id → (c.entries id).inflight = c.acquired.count id) ∧
    (∀ host id, c.byHost host = some id → id ∈ c.acquired →
      ∀ c', Step idle c () c' → c'.byHost host = some id ∨ c'.isNil = true) ∧
    (∀ host id, c.byHost host = some id → (c.entries id).inflight = 0 →
      ∃ timer, (c.timers timer).entry = id ∧
        ((c.timers timer).phase = .armed ∨ (c.timers timer).phase = .fired) ∧
        ((c.timers timer).phase = .fired → (c.evict idle timer).byHost host = none)) ∧
    (c.closing = .returned → ∀ acts c', Run (Step idle) c acts c' →
      (∀ host, c'.byHost host = none) ∧ c'.evictions = [] ∧ ∀ host, (c'.cached host).1 = .unavailable) := by
  obtain ⟨htab, htim⟩ := sound h
  refine ⟨fun _ _ _ => htab.host_eq, fun _ _ => htab.inflight,
    fun _ _ hid hused _ hstep => hstep.keeps_used htab hid hused, fun host id hid hzero => ?_,
    fun hret acts c' hrun => ?_⟩
  · obtain ⟨timer, ht, hpend⟩ := htim.pending hid hzero
    refine ⟨timer, hpend.entry, hpend.phase, fun hfired => ?_⟩
    have hkeeps := htim.not_keeps htab hid hzero ht hfired
    rw [← hpend.entry] at hkeeps
    simp only [Client.evict, if_neg hkeeps]
    rw [hpend.entry, htab.host hid]
    exact update_self ..
  · have hend := hrun.preserves (P := fun x => Table x ∧ Timers idle x ∧ x.closing = .returned)
      (fun x l y _ hstep ⟨hx, ht, hr⟩ => ⟨hx.step ht hstep, ht.step hx hstep, hstep.stays_returned hx hr⟩)
      ⟨htab, htim, hret⟩
    obtain ⟨htab', -, hret'⟩ := hend
    obtain ⟨hnil, hcanc⟩ := htab'.closed (by rw [hret']; nofun)
    refine ⟨htab'.gone hnil, htab'.returned hret', fun host => ?_⟩
    simp [Client.cached, hcanc]

/-- A connection has been made and used once, and its second timer has fired. -/
theorem pool_bookkeeping_fired : ∃ c : Client Nat,
    Reachable (· = Client.new) (Step 5) c ∧ c.byHost 7 = some 0 ∧ (c.timers 1).phase = .fired ∧
      ∃ timer, (c.timers timer).entry = 0 ∧
        ((c.timers timer).phase = .armed ∨ (c.timers timer).phase = .fired) ∧
        ((c.timers timer).phase = .fired → (c.evict 5 timer).byHost 7 = none) := by
  have h₀ : Reachable (· = Client.new) (Step 5) (.new : Client Nat) := .init_state rfl
  have h₁ := h₀.next (.connects 7 (Nat.le_refl 0))
  have h₂ := h₁.next (.acquires 7)
  have h₃ := h₂.next (@Step.releases _ _ _ _ 0 0 List.mem_cons_self (Nat.le_refl 0))
  have h₄ := h₃.next (@Step.ticks _ _ _ _ 5 (Nat.zero_le 5))
  have h₅ := h₄.next (@Step.fires _ _ _ _ 1 rfl (Nat.le_refl 5))
  obtain ⟨-, -, -, hidle, -⟩ := pool_bookkeeping 5 h₅
  exact ⟨_, h₅, rfl, rfl, hidle 7 0 rfl rfl⟩

end Yola.GateClient
