import Yola.Heartbeat.Client

/-!
# The heartbeat does not misfire

Until a tick reports a timeout there is at most one heartbeat between its tick and its reply, and the value
of the state says where.  So no method of the heartbeat finds it in a state that it does not expect, and a
tick that reports a timeout has a written heartbeat to miss the reply of.
-/

namespace Yola.Heartbeat

open Reasoning

@[simp]
def Ticker.queued : Ticker → Nat
  | .sending | .cancelling => 1
  | _ => 0

namespace Writer

@[simp]
def queued : Writer → Nat
  | .beginning => 1
  | _ => 0

/-- A heartbeat that is being written, and that the peer does not have. -/
@[simp]
def unsent : Writer → Nat
  | .writing false => 1
  | _ => 0

/-- The write of a heartbeat has not returned. -/
@[simp]
def inWrite : Writer → Nat
  | .writing _ => 1
  | _ => 0

/-- The heartbeat may still become outstanding. -/
@[simp]
def mayFinish : Writer → Bool
  | .writing _ | .finishing | .stopped => true
  | _ => false

/-- No heartbeat is at the writer. -/
@[simp]
def rests : Writer → Bool
  | .waiting | .request | .stopped => true
  | _ => false

end Writer

@[simp]
def Reader.holds : Reader → Nat
  | .replying | .swapping _ => 1
  | _ => 0

namespace Client

variable {s s' : Client} {l : Label}

/-- The heartbeats that nobody has begun to write. -/
def queued (s : Client) : Nat := s.ticker.queued + s.outbound.count .heartbeat + s.writer.queued

def away (s : Client) : Nat := s.wire + s.replies + s.reader.holds

/-- The heartbeats that are queued or await a reply. -/
def inFlight (s : Client) : Nat := s.queued + s.writer.unsent + s.away

structure Sound (s : Client) : Prop where
  idle : s.value = .idle → s.inFlight = 0
  queued : s.value = .queued → s.queued = 1 ∧ s.inFlight ≤ 1
  writing : s.value = .writing → s.queued = 0 ∧ s.inFlight ≤ 1 ∧ s.writer.mayFinish = true ∧
    (s.writer ≠ .stopped → 0 < s.inFlight)
  outstanding : s.value = .outstanding → s.away = 1 ∧ s.inFlight ≤ 1 ∧ s.writer.rests = true ∧
    s.written = s.replied + 1
  /-- Which replies have come before their writes have returned. -/
  ahead : s.writer ≠ .stopped → s.value.finished = true → s.written + s.writer.inWrite = s.replied
  behind : s.writer ≠ .stopped → s.value = .writing → s.written + s.writer.inWrite = s.replied + 1
  swapping : s.ticker = .swapping .idle → s.value = .idle
  reloading : s.writer = .reloading → s.value.finished = true

structure Follows (s s' : Client) : Prop where
  value : s'.value = s.value
  queued : s'.queued = s.queued
  away : s'.away = s.away
  replied : s'.replied = s.replied
  unsent : s'.writer.unsent ≤ s.writer.unsent
  mayFinish : s.value = .writing → s.writer.mayFinish = true → s'.writer.mayFinish = true
  rests : s.value = .outstanding → s.writer.rests = true → s'.writer.rests = true ∧ s'.written = s.written
  running : s'.writer ≠ .stopped → s.writer ≠ .stopped ∧ s'.writer.unsent = s.writer.unsent ∧
    s'.written + s'.writer.inWrite = s.written + s.writer.inWrite
  swapping : s'.ticker = .swapping .idle → s.value = .idle
  reloading : s'.writer = .reloading → s.value.finished = true

theorem sound_new : Client.new.Sound where
  idle _ := rfl
  queued := nofun
  writing := nofun
  outstanding := nofun
  ahead _ _ := rfl
  behind := nofun
  swapping := nofun
  reloading := nofun

namespace Sound

section

variable (h : s.Sound)

include h

theorem queued_of_pos (hq : 0 < s.queued) : s.value = .queued := by
  cases hv : s.value with
  | idle =>
    have hidle := h.idle hv
    unfold inFlight at hidle
    omega
  | queued => rfl
  | writing =>
    obtain ⟨hno, -⟩ := h.writing hv
    omega
  | outstanding =>
    obtain ⟨haway, hone, -⟩ := h.outstanding hv
    unfold inFlight at hone
    omega

theorem awaitsReply_of_pos (haway : 0 < s.away) : s.value.awaitsReply = true := by
  cases hv : s.value with
  | idle =>
    have hidle := h.idle hv
    unfold inFlight at hidle
    omega
  | queued =>
    obtain ⟨hq, hone⟩ := h.queued hv
    unfold inFlight at hone
    omega
  | writing | outstanding => rfl

theorem writing_of_unsent (hw : s.writer.unsent = 1) : s.value = .writing := by
  cases hv : s.value with
  | idle =>
    have hidle := h.idle hv
    unfold inFlight at hidle
    omega
  | queued =>
    obtain ⟨hq, hone⟩ := h.queued hv
    unfold inFlight at hone
    omega
  | writing => rfl
  | outstanding =>
    obtain ⟨haway, hone, -⟩ := h.outstanding hv
    unfold inFlight at hone
    omega

theorem inFlight_le : s.inFlight ≤ 1 := by
  cases hv : s.value with
  | idle => exact (h.idle hv).symm ▸ Nat.zero_le 1
  | queued => exact (h.queued hv).2
  | writing => exact (h.writing hv).2.1
  | outstanding => exact (h.outstanding hv).2.1

theorem follows (hs : s.Follows s') : s'.Sound := by
  have hfl : s'.inFlight ≤ s.inFlight := by
    have hunsent := hs.unsent
    have hque := hs.queued
    have haway := hs.away
    unfold inFlight
    omega
  constructor <;> rw [hs.value]
  case idle =>
    intro hv
    have hidle := h.idle hv
    omega
  case queued =>
    intro hv
    obtain ⟨hq, hone⟩ := h.queued hv
    exact ⟨hs.queued.trans hq, Nat.le_trans hfl hone⟩
  case writing =>
    intro hv
    obtain ⟨hq, hone, hmay, hpos⟩ := h.writing hv
    refine ⟨hs.queued.trans hq, Nat.le_trans hfl hone, hs.mayFinish hv hmay, fun hw => ?_⟩
    obtain ⟨hw', hunsent, -⟩ := hs.running hw
    rw [inFlight, hs.queued, hs.away, hunsent]
    exact hpos hw'
  case outstanding =>
    intro hv
    obtain ⟨ha, hone, hrests, hcnt⟩ := h.outstanding hv
    obtain ⟨hrests', hwr⟩ := hs.rests hv hrests
    rw [hwr, hs.replied]
    exact ⟨hs.away.trans ha, Nat.le_trans hfl hone, hrests', hcnt⟩
  case ahead =>
    intro hw hv
    obtain ⟨hw', -, hcnt⟩ := hs.running hw
    rw [hcnt, hs.replied]
    exact h.ahead hw' hv
  case behind =>
    intro hw hv
    obtain ⟨hw', -, hcnt⟩ := hs.running hw
    rw [hcnt, hs.replied]
    exact h.behind hw' hv
  case swapping => exact hs.swapping
  case reloading => exact hs.reloading

theorem others (hval : s'.value = s.value) (hwrt : s'.writer = s.writer)
    (hque : s'.queued = s.queued) (haway : s'.away = s.away) (hwr : s'.written = s.written)
    (hreplied : s'.replied = s.replied) (hswap : s'.ticker = .swapping .idle → s.value = .idle) : s'.Sound := by
  apply h.follows
  constructor
  case value => exact hval
  case queued => exact hque
  case away => exact haway
  case replied => exact hreplied
  case swapping => exact hswap
  case unsent => exact Nat.le_of_eq (congrArg Writer.unsent hwrt)
  all_goals rw [hwrt]
  case mayFinish => exact fun _ => id
  case rests => exact fun _ hrests => ⟨hrests, hwr⟩
  case running =>
    rw [hwr]
    exact fun hw => ⟨hw, rfl, rfl⟩
  case reloading => exact h.reloading

theorem stopped (hw : s.writer.queued = 0) : ({ s with writer := .stopped } : Client).Sound := by
  apply h.follows
  constructor
  case queued =>
    rw [Client.queued, Client.queued, hw]
    rfl
  case unsent => exact Nat.zero_le _
  case mayFinish => exact fun _ _ => rfl
  case rests => exact fun _ _ => ⟨rfl, rfl⟩
  case running => exact absurd rfl
  case swapping => exact h.swapping
  case reloading => exact nofun
  all_goals rfl

end

section Values

theorem of_idle (hv : s.value = .idle) (hfl : s.inFlight = 0)
    (hahead : s.writer ≠ .stopped → s.written + s.writer.inWrite = s.replied) : s.Sound := by
  constructor <;> rw [hv]
  case idle => exact fun _ => hfl
  case ahead => exact fun hw _ => hahead hw
  case swapping => exact fun _ => rfl
  case reloading => exact fun _ => rfl
  all_goals exact nofun

theorem of_queued (hv : s.value = .queued) (hq : s.queued = 1) (hfl : s.inFlight ≤ 1)
    (hahead : s.writer ≠ .stopped → s.written + s.writer.inWrite = s.replied)
    (hticker : s.ticker ≠ .swapping .idle) : s.Sound := by
  constructor <;> rw [hv]
  case queued => exact fun _ => ⟨hq, hfl⟩
  case ahead => exact fun hw _ => hahead hw
  case swapping => exact fun ht => absurd ht hticker
  case reloading => exact fun _ => rfl
  all_goals exact nofun

theorem of_writing (hv : s.value = .writing) (hq : s.queued = 0) (hfl : s.inFlight = 1)
    (hmay : s.writer.mayFinish = true)
    (hbeh : s.writer ≠ .stopped → s.written + s.writer.inWrite = s.replied + 1)
    (hticker : s.ticker ≠ .swapping .idle) : s.Sound := by
  constructor <;> rw [hv]
  case writing => exact fun _ => ⟨hq, Nat.le_of_eq hfl, hmay, fun _ => hfl.symm ▸ Nat.one_pos⟩
  case behind => exact fun hw _ => hbeh hw
  case swapping => exact fun ht => absurd ht hticker
  case reloading =>
    intro hw
    rw [hw] at hmay
    cases hmay
  all_goals exact nofun

theorem of_outstanding (hv : s.value = .outstanding) (haway : s.away = 1) (hfl : s.inFlight ≤ 1)
    (hrests : s.writer.rests = true) (hcnt : s.written = s.replied + 1)
    (hticker : s.ticker ≠ .swapping .idle) : s.Sound := by
  constructor <;> rw [hv]
  case outstanding => exact fun _ => ⟨haway, hfl, hrests, hcnt⟩
  case swapping => exact fun ht => absurd ht hticker
  case reloading =>
    intro hw
    rw [hw] at hrests
    cases hrests
  all_goals exact nofun

end Values

variable (h : s.Sound)

include h

theorem ticker_ne (hv : s.value ≠ .idle) : s.ticker ≠ .swapping .idle := fun ht => hv (h.swapping ht)

theorem tickStep (hs : s.TickStep l s') (ht : s'.ticker ≠ .timedOut) : s'.Sound := by
  cases hs with
  | fires at_ | pending at_ | retries at_ | sendFails at_ | stops at_ =>
    refine h.others rfl rfl ?_ rfl rfl rfl nofun
    rw [Client.queued, Client.queued, at_]
    rfl
  | loads at_ =>
    refine h.others rfl rfl ?_ rfl rfl rfl fun hswap => Ticker.swapping.inj hswap
    rw [Client.queued, Client.queued, at_]
    rfl
  | queues at_ same =>
    have hidle := h.idle same
    simp only [inFlight, Client.queued, away, at_, Ticker.queued] at hidle
    refine of_queued rfl ?_ ?_ (fun hw => h.ahead hw (by rw [same]; rfl)) nofun
    all_goals
      simp only [inFlight, Client.queued, away, Ticker.queued]
      omega
  | timesOut => exact absurd rfl ht
  | sends at_ =>
    refine h.others rfl rfl ?_ rfl rfl rfl nofun
    simp only [Client.queued, at_, Ticker.queued, List.count_append, List.count_singleton_self]
    omega
  | cancels at_ =>
    have hqueued := h.queued_of_pos (by simp only [Client.queued, at_, Ticker.queued]; omega)
    obtain ⟨-, hfl⟩ := h.queued hqueued
    simp only [inFlight, Client.queued, away, at_, Ticker.queued] at hfl
    refine of_idle (by rw [hqueued]; rfl) ?_ fun hw => h.ahead hw (by rw [hqueued]; rfl)
    simp only [inFlight, Client.queued, away, Ticker.queued]
    omega

theorem writerFollows {rest : List Frame} {w : Writer} {m : Nat}
    (hque : rest.count .heartbeat + w.queued = s.outbound.count .heartbeat + s.writer.queued)
    (hunsent : w.unsent = s.writer.unsent) (hcnt : m + w.inWrite = s.written + s.writer.inWrite)
    (hruns : s.writer ≠ .stopped)
    (hmay : s.value = .writing → s.writer.mayFinish = true → w.mayFinish = true)
    (hrests : s.value = .outstanding → s.writer.rests = true → w.rests = true ∧ m = s.written)
    (hreloading : w = .reloading → s.value.finished = true) :
    ({ s with outbound := rest, writer := w, written := m } : Client).Sound := by
  apply h.follows
  constructor
  case queued =>
    simp only [Client.queued]
    omega
  case unsent => exact Nat.le_of_eq hunsent
  case mayFinish => exact hmay
  case rests => exact hrests
  case running => exact fun _ => ⟨hruns, hunsent, hcnt⟩
  case swapping => exact h.swapping
  case reloading => exact hreloading
  all_goals rfl

theorem writeStep (hs : s.WriteStep l s') : s'.Sound := by
  cases hs with
  | takesRequest at_ first =>
    apply h.writerFollows (w := .request) (m := s.written) <;> simp [at_, first]
  | writesRequest at_ =>
    apply h.writerFollows (w := .waiting) (m := s.written) <;> simp [at_]
  | takes at_ first =>
    -- The heartbeat is still queued.
    have hqueued := h.queued_of_pos (by rw [Client.queued, first, List.count_cons_self]; omega)
    apply h.writerFollows (w := .beginning) (m := s.written) <;> simp [at_, first, hqueued]
  | begins at_ =>
    have hqueued := h.queued_of_pos (by simp only [Client.queued, at_, Writer.queued]; omega)
    obtain ⟨hone, hfl⟩ := h.queued hqueued
    have hahead := h.ahead (by rw [at_]; nofun) (by rw [hqueued]; rfl)
    simp only [inFlight, Client.queued, away, at_, Writer.queued, Writer.unsent, Writer.inWrite]
      at hone hfl hahead
    have hbegins : s.value.beginWrite = (.writing, true) := by rw [hqueued]; rfl
    simp only [hbegins, if_true]
    refine of_writing rfl ?_ ?_ rfl (fun _ => ?_) (h.ticker_ne (by rw [hqueued]; nofun))
    all_goals
      simp only [inFlight, Client.queued, away, Writer.queued, Writer.unsent, Writer.inWrite]
      omega
  | arrives at_ =>
    have hwriting := h.writing_of_unsent (by rw [at_]; rfl)
    obtain ⟨hno, hfl, -, hpos⟩ := h.writing hwriting
    replace hpos := hpos (by rw [at_]; nofun)
    have hbehind := h.behind (by rw [at_]; nofun) hwriting
    simp only [inFlight, Client.queued, away, at_, Writer.queued, Writer.unsent, Writer.inWrite]
      at hno hfl hpos hbehind
    refine of_writing hwriting ?_ ?_ rfl (fun _ => hbehind) (h.ticker_ne (by rw [hwriting]; nofun))
    all_goals
      simp only [inFlight, Client.queued, away, Writer.queued, Writer.unsent]
      omega
  | writes at_ =>
    apply h.writerFollows (w := .finishing) (m := s.written + 1) <;> simp [at_]
  | fails at_ => exact h.stopped (by obtain at_ | at_ := at_ <;> rw [at_] <;> rfl)
  | finishes at_ same =>
    obtain ⟨hno, hfl, -, hpos⟩ := h.writing same
    replace hpos := hpos (by rw [at_]; nofun)
    have hbehind := h.behind (by rw [at_]; nofun) same
    simp only [inFlight, Client.queued, away, at_, Writer.queued, Writer.unsent, Writer.inWrite]
      at hno hfl hpos hbehind
    refine of_outstanding rfl ?_ ?_ rfl hbehind (h.ticker_ne (by rw [same]; nofun))
    all_goals
      simp only [inFlight, Client.queued, away, Writer.queued, Writer.unsent]
      omega
  | overtaken at_ changed =>
    have hfin : s.value.finished = true := by
      cases hv : s.value with
      | idle | queued => rfl
      | writing => exact absurd hv changed
      | outstanding =>
        obtain ⟨-, -, hrests, -⟩ := h.outstanding hv
        rw [at_] at hrests
        cases hrests
    apply h.writerFollows (w := .reloading) (m := s.written) <;> simp [at_, changed, hfin]
  | reloads at_ =>
    rw [h.reloading at_, if_pos rfl]
    apply h.writerFollows (w := .waiting) (m := s.written) <;> simp [at_]
  | stops at_ => exact h.stopped (by rw [at_]; rfl)

theorem readStep (hs : s.ReadStep l s') : s'.Sound := by
  cases hs with
  | reads at_ =>
    refine h.others rfl rfl rfl ?_ rfl rfl h.swapping
    simp only [away, at_, Reader.holds]
    omega
  | unexpected at_ nothing =>
    have hawaits := h.awaitsReply_of_pos (by simp only [away, at_, Reader.holds]; omega)
    rw [nothing] at hawaits
    cases hawaits
  | loads at_ | retries at_ | stops at_ =>
    refine h.others rfl rfl rfl ?_ rfl rfl h.swapping
    rw [away, away, at_]
    rfl
  | confirms at_ =>
    have haway : 0 < s.away := by
      simp only [away, at_, Reader.holds]
      omega
    have hone := h.inFlight_le
    refine of_idle rfl ?_ fun hw => ?_
    · simp only [inFlight, Client.queued, away, at_, Reader.holds] at hone ⊢
      omega
    · have hawaits := h.awaitsReply_of_pos haway
      cases hv : s.value with
      | idle | queued =>
        rw [hv] at hawaits
        cases hawaits
      | writing => exact h.behind hw hv
      | outstanding =>
        obtain ⟨-, -, hrests, hcnt⟩ := h.outstanding hv
        rw [hcnt]
        generalize s.writer = w at hrests
        cases w with
        | waiting | request | stopped => rfl
        | _ => cases hrests

theorem step (hs : s.Step l s') (ht : s'.ticker ≠ .timedOut) : s'.Sound := by
  cases hs with
  | ticker hs => exact h.tickStep hs ht
  | writer hs => exact h.writeStep hs
  | reader hs => exact h.readStep hs
  | request =>
    refine h.others rfl rfl ?_ rfl rfl rfl h.swapping
    simp [Client.queued]
  | answers =>
    refine h.others rfl rfl rfl ?_ rfl rfl h.swapping
    simp only [away]
    omega

end Sound

theorem Step.timedOut (hs : s.Step l s') (ht : s.ticker = .timedOut) : s'.ticker = .timedOut := by
  cases hs with
  | ticker hs => cases hs <;> simp_all
  | writer hs | reader hs => cases hs <;> exact ht
  | request | answers => exact ht

theorem sound (h : Reachable (· = Client.new) Step s) (ht : s.ticker ≠ .timedOut) : s.Sound := by
  refine h.invariant (P := fun s => s.ticker ≠ .timedOut → s.Sound) ?_ ?_ ht
  · rintro s rfl _
    exact sound_new
  · intro s l s' hs h ht
    exact (h fun ht' => ht (hs.timedOut ht')).step hs ht

/-- No method of the heartbeat fails until a tick has reported a timeout, and one that does so misses the
reply to a heartbeat that has been written. -/
theorem heartbeat_never_misfires (h : Reachable (· = Client.new) Step s) (ht : s.ticker ≠ .timedOut) :
    s.inFlight ≤ 1 ∧ ∀ l s', s.Step l s' → l ≠ .beginWrite false ∧ l ≠ .finishWrite false ∧
      l ≠ .reply false ∧ (l = .tick .timeout → s.replied < s.written) := by
  have hsound := sound h ht
  refine ⟨hsound.inFlight_le, ?_⟩
  intro l s' hs
  cases hs with
  | ticker hs =>
    cases hs with
    | timesOut at_ same =>
      obtain ⟨-, -, -, hcnt⟩ := hsound.outstanding same
      exact ⟨nofun, nofun, nofun, fun _ => by omega⟩
    | _ => exact ⟨nofun, nofun, nofun, nofun⟩
  | writer hs =>
    cases hs with
    | begins at_ =>
      have hqueued := hsound.queued_of_pos (by simp [Client.queued, at_])
      rw [hqueued]
      exact ⟨nofun, nofun, nofun, nofun⟩
    | reloads at_ =>
      rw [hsound.reloading at_]
      exact ⟨nofun, nofun, nofun, nofun⟩
    | _ => exact ⟨nofun, nofun, nofun, nofun⟩
  | reader hs =>
    cases hs with
    | unexpected at_ nothing =>
      have hawaits := hsound.awaitsReply_of_pos (by simp [away, at_])
      rw [nothing] at hawaits
      cases hawaits
    | _ => exact ⟨nofun, nofun, nofun, nofun⟩
  | request | answers => exact ⟨nofun, nofun, nofun, nofun⟩

/-- A heartbeat has been written, and the next tick comes before its reply. -/
theorem heartbeat_never_misfires_outstanding : ∃ s : Client, s.value = .outstanding ∧
    (∃ s', s.Step (.tick .timeout) s') ∧ s.inFlight ≤ 1 ∧
    ∀ l s', s.Step l s' → l ≠ .beginWrite false ∧ l ≠ .finishWrite false ∧ l ≠ .reply false ∧
      (l = .tick .timeout → s.replied < s.written) := by
  have h₀ : Reachable (· = Client.new) Step Client.new := .init_state rfl
  have h₁ := h₀.next (.ticker (.fires rfl))
  have h₂ := h₁.next (.ticker (.loads rfl (.inl rfl)))
  have h₃ := h₂.next (.ticker (.queues rfl rfl))
  have h₄ := h₃.next (.ticker (.sends rfl))
  have h₅ := h₄.next (.writer (.takes rfl rfl))
  have h₆ := h₅.next (.writer (.begins rfl))
  have h₇ := h₆.next (.writer (.arrives rfl))
  have h₈ := h₇.next (.writer (.writes rfl))
  have h₉ := h₈.next (.writer (.finishes rfl rfl))
  have h₁₀ := h₉.next (.ticker (.fires rfl))
  have h₁₁ := h₁₀.next (.ticker (.loads rfl (.inr rfl)))
  exact ⟨_, rfl, ⟨_, .ticker (.timesOut rfl rfl)⟩, heartbeat_never_misfires h₁₁ nofun⟩

end Client

end Yola.Heartbeat
