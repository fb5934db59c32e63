import Mathlib.Algebra.Ring.Int.Defs
import Mathlib.Data.List.Count
import Yola.Reasoning.Updates
import Yola.Requests.Tracker

/-!
# Every request gets one outcome

A request is in the map, in the hands of somebody who is about to send to it, or has its outcome, and in one
of these places only.  `claims` counts them.  A step is about one request, and leaves the places of all others
alone.
-/

namespace Yola.Requests

open Function Reasoning

variable {Body : Type} {transport : Transport} {s s' : State Body} {id : Nat} {seq : Int} {r : Request Body}
  {d : Delivery Body} {i : Nat}

/-! ## Sequence numbers -/

theorem nextSequence_pos {seq : UInt32} {n : Int} (h : (nextSequence seq).2 = some n) : 0 < n ∧ n < 2 ^ 31 := by
  simp only [nextSequence] at h
  split at h
  · simp at h
  next hne =>
  cases h
  have hle : ((seq + 1) &&& 0x7fffffff).toNat ≤ 0x7fffffff := by
    rw [UInt32.toNat_and]
    exact Nat.and_le_right
  have hpos : ((seq + 1) &&& 0x7fffffff).toNat ≠ 0 := fun h0 => hne (UInt32.toNat_inj.mp h0)
  omega

/-! ## Where a request is -/

def State.Stored (s : State Body) (id : Nat) : Prop := s.pending (s.requests id).seq = some id

instance (s : State Body) (id : Nat) : Decidable (s.Stored id) :=
  inferInstanceAs (Decidable (s.pending (s.requests id).seq = some id))

def State.claims (s : State Body) (id : Nat) : Nat :=
  (if s.Stored id then 1 else 0) + s.deliveries.countP (·.request = id) + (s.requests id).outcomes.length

def Request.Fits (r : Request Body) (stored : Prop) (claims : Nat) : Prop :=
  match r.pc with
  | .idle | .drawing | .storing => claims = 0 ∧ r.done = none
  | .sending | .cancelling | .waiting => claims = 1 ∧ r.outcomes = r.done.toList
  | .draining => claims = 1 ∧ r.outcomes = r.done.toList ∧ ¬ stored
  | .returned none => claims ≤ 1 ∧ r.outcomes = r.done.toList ∧ ¬ stored
  | .returned (some o) => claims = 1 ∧ r.outcomes = [o] ∧ r.done = none

structure Tracked (s : State Body) : Prop where
  keyed : ∀ {seq id}, s.pending seq = some id → (s.requests id).seq = seq
  positive : ∀ {id}, (s.requests id).pc = .storing ∨ s.Stored id →
    0 < (s.requests id).seq ∧ (s.requests id).seq < 2 ^ 31
  fits : ∀ id, (s.requests id).Fits (s.Stored id) (s.claims id)
  delivered : ∀ {d r}, d ∈ s.deliveries → d.outcome = .response r → r.seq = (s.requests d.request).seq
  answered : ∀ {id r}, .response r ∈ (s.requests id).outcomes → r.seq = (s.requests id).seq

theorem Request.Fits.claims_le {stored : Prop} {claims : Nat} (h : r.Fits stored claims) : claims ≤ 1 := by
  unfold Fits at h
  split at h <;> omega

structure Apart (s s' : State Body) (id : Nat) : Prop where
  requests : ∀ {i}, i ≠ id → s'.requests i = s.requests i
  pending : ∀ {i}, i ≠ id → ∀ {seq}, s'.pending seq = some i ↔ s.pending seq = some i
  deliveries : ∀ {i}, i ≠ id → s'.deliveries.countP (·.request = i) = s.deliveries.countP (·.request = i)

namespace Apart

variable {i : Nat}

theorem stored (h : Apart s s' id) (hi : i ≠ id) : s'.Stored i ↔ s.Stored i := by
  rw [State.Stored, h.requests hi, h.pending hi]
  rfl

theorem claims (h : Apart s s' id) (hi : i ≠ id) : s'.claims i = s.claims i := by
  simp only [State.claims, h.deliveries hi, h.requests hi, h.stored hi]

end Apart

theorem Tracked.of_apart (h : Tracked s) (apart : Apart s s' id)
    (keyed : ∀ {seq}, s'.pending seq = some id → (s'.requests id).seq = seq)
    (positive : (s'.requests id).pc = .storing ∨ s'.Stored id →
      0 < (s'.requests id).seq ∧ (s'.requests id).seq < 2 ^ 31)
    (fits : (s'.requests id).Fits (s'.Stored id) (s'.claims id))
    (delivered : ∀ {d r}, d ∈ s'.deliveries → d.request = id → d.outcome = .response r →
      r.seq = (s'.requests id).seq)
    (kept : ∀ {d}, d ∈ s'.deliveries → d.request ≠ id → d ∈ s.deliveries)
    (answered : ∀ {r}, .response r ∈ (s'.requests id).outcomes → r.seq = (s'.requests id).seq) :
    Tracked s' where
  keyed {seq i} hi := by
    by_cases heq : i = id
    · cases heq
      exact keyed hi
    · rw [apart.requests heq]
      exact h.keyed ((apart.pending heq).mp hi)
  positive {i} hi := by
    by_cases heq : i = id
    · cases heq
      exact positive hi
    · rw [apart.stored heq] at hi
      rw [apart.requests heq] at hi ⊢
      exact h.positive hi
  fits i := by
    by_cases heq : i = id
    · cases heq
      exact fits
    · rw [apart.requests heq, apart.claims heq, propext (apart.stored heq)]
      exact h.fits i
  delivered {d r} hd ho := by
    by_cases heq : d.request = id
    · rw [heq]
      exact delivered hd heq ho
    · rw [apart.requests heq]
      exact h.delivered (kept hd heq) ho
  answered {i r} hr := by
    by_cases heq : i = id
    · cases heq
      exact answered hr
    · rw [apart.requests heq] at hr ⊢
      exact h.answered hr

/-! ## The steps of a call -/

section

variable {k : Int}

@[simp] theorem State.set_requests_self : (s.set id r).requests id = r := update_self ..

theorem State.set_requests_of_ne (h : i ≠ id) : (s.set id r).requests i = s.requests i := update_of_ne h ..

theorem apart_set : Apart s (s.set id r) id where
  requests := State.set_requests_of_ne
  pending _ := Iff.rfl
  deliveries _ := rfl

theorem pending_of_delete {pending : Int → Option Nat}
    (h : update pending seq none k = some i) : pending k = some i := by
  obtain ⟨-, hnone⟩ | ⟨-, hold⟩ := update_cases h
  · cases hnone
  · exact hold

theorem pending_delete {pending : Int → Option Nat} (h : pending seq = some id)
    (hi : i ≠ id) : update pending seq none k = some i ↔ pending k = some i := by
  by_cases hk : k = seq
  · rw [hk, update_self, h]
    simp [Ne.symm hi]
  · rw [update_of_ne hk]

theorem Tracked.moves (h : Tracked s) (requests : s'.requests = update s.requests id r)
    (seq : r.seq = (s.requests id).seq) (moved : r.pc ≠ .storing)
    (pending : s'.pending = s.pending ∨ s.Stored id ∧ s'.pending = update s.pending (s.requests id).seq none)
    (counts : ∀ {i}, i ≠ id → s'.deliveries.countP (·.request = i) = s.deliveries.countP (·.request = i))
    (delivered : ∀ {d}, d ∈ s'.deliveries → d ∈ s.deliveries ∨
      d.request = id ∧ ∀ {x}, d.outcome = .response x → x.seq = (s.requests id).seq)
    (answered : ∀ {x}, .response x ∈ r.outcomes → x.seq = (s.requests id).seq)
    (fits : r.Fits (s'.Stored id) (s'.claims id)) : Tracked s' := by
  have hself : s'.requests id = r := by rw [requests, update_self]
  have hback : ∀ {k}, s'.pending k = some id → s.pending k = some id := by
    intro k hk
    obtain hp | ⟨-, hp⟩ := pending
    · rwa [hp] at hk
    · exact pending_of_delete (hp ▸ hk)
  have hapart : Apart s s' id :=
    { requests := fun hi => by rw [requests, update_of_ne hi]
      pending := fun {i} hi {k} => by
        obtain hp | ⟨hst, hp⟩ := pending
        · rw [hp]
        · rw [hp]
          exact pending_delete hst hi
      deliveries := counts }
  refine h.of_apart hapart ?_ ?_ (hself ▸ fits) ?_ ?_ ?_
  · intro k hk
    rw [hself, seq]
    exact h.keyed (hback hk)
  · rw [State.Stored, hself, seq]
    rintro (hpc | hst)
    · exact absurd hpc moved
    · exact h.positive (.inr (hback hst))
  · rintro d x hd rfl hx
    rw [hself, seq]
    obtain hold | ⟨-, hnew⟩ := delivered hd
    · exact h.delivered hold hx
    · exact hnew hx
  · intro d hd hne
    obtain hold | ⟨heq, -⟩ := delivered hd
    · exact hold
    · exact absurd heq hne
  · intro x hx
    rw [hself] at hx ⊢
    rw [seq]
    exact answered hx

theorem Tracked.set (h : Tracked s) (seq : r.seq = (s.requests id).seq)
    (outcomes : r.outcomes = (s.requests id).outcomes) (moved : r.pc ≠ .storing)
    (fits : (s.requests id).Fits (s.Stored id) (s.claims id) → r.Fits (s.Stored id) (s.claims id)) :
    Tracked (s.set id r) := by
  have hstored : (s.set id r).Stored id ↔ s.Stored id := by
    rw [State.Stored, State.set_requests_self, seq]
    rfl
  have hclm : (s.set id r).claims id = s.claims id := by
    simp only [State.claims, State.set_requests_self, outcomes, hstored]
    rfl
  refine h.moves rfl seq moved (.inl rfl) (fun _ => rfl) .inl ?_ ?_
  · intro x hx
    exact h.answered (outcomes ▸ hx)
  · rw [hclm, propext hstored]
    exact fits (h.fits id)

end

theorem Tracked.nowhere (h : Tracked s) (claims : s.claims id = 0) :
    (∀ seq, s.pending seq ≠ some id) ∧ (∀ d ∈ s.deliveries, d.request ≠ id) ∧ (s.requests id).outcomes = [] := by
  simp only [State.claims] at claims
  have hcnt : s.deliveries.countP (·.request = id) = 0 := by omega
  refine ⟨fun seq hseq => ?_, ?_, List.eq_nil_of_length_eq_zero (by omega)⟩
  · have hst : s.Stored id := by rw [State.Stored, h.keyed hseq, hseq]
    rw [if_pos hst] at claims
    omega
  · simpa [List.countP_eq_zero] using hcnt

theorem State.claims_of_nowhere (pending : s.pending (s.requests id).seq ≠ some id)
    (deliveries : ∀ d ∈ s.deliveries, d.request ≠ id) (outcomes : (s.requests id).outcomes = []) :
    s.claims id = 0 := by
  have hcnt : s.deliveries.countP (·.request = id) = 0 := by simpa [List.countP_eq_zero] using deliveries
  have hst : ¬ s.Stored id := pending
  simp [State.claims, hst, hcnt, outcomes]

namespace Tracked

theorem draws (h : Tracked s) {seq : Int} (at_ : (s.requests id).pc = .drawing)
    (drawn : (nextSequence s.seq).2 = some seq) :
    Tracked (s.set id { s.requests id with pc := .storing, seq := seq }) := by
  have hfits := h.fits id
  simp only [Request.Fits, at_] at hfits
  obtain ⟨hpend, hdels, houts⟩ := h.nowhere hfits.1
  refine h.of_apart apart_set (fun hk => absurd hk (hpend _)) ?_ ?_ ?_ (fun hd _ => hd) ?_
  · intro _
    rw [State.set_requests_self]
    exact nextSequence_pos drawn
  · rw [State.set_requests_self]
    have hclm : (s.set id { s.requests id with pc := .storing, seq := seq }).claims id = 0 :=
      State.claims_of_nowhere (hpend _) hdels (by rwa [State.set_requests_self])
    exact ⟨hclm, hfits.2⟩
  · rintro d x hd rfl
    exact absurd rfl (hdels d hd)
  · intro x hx
    rw [State.set_requests_self] at hx
    exact absurd (houts ▸ hx) List.not_mem_nil

theorem stores (h : Tracked s) (at_ : (s.requests id).pc = .storing)
    (absent : s.pending (s.requests id).seq = none)
    (hr : s'.requests = update s.requests id { s.requests id with pc := .sending })
    (hp : s'.pending = update s.pending (s.requests id).seq (some id))
    (hd : s'.deliveries = s.deliveries) : Tracked s' := by
  have hfits := h.fits id
  simp only [Request.Fits, at_] at hfits
  obtain ⟨hpend, hdels, houts⟩ := h.nowhere hfits.1
  have hcnt : s.deliveries.countP (·.request = id) = 0 := by simpa [List.countP_eq_zero] using hdels
  have hself : s'.requests id = { s.requests id with pc := .sending } := by rw [hr, update_self]
  have hstored : s'.Stored id := by rw [State.Stored, hself, hp, update_self]
  have hclm : s'.claims id = 1 := by simp [State.claims, hstored, hself, hd, hcnt, houts]
  have hapart : Apart s s' id := by
    refine
      { requests := fun hi => by rw [hr, update_of_ne hi]
        pending := fun {i} hi {k} => ?_
        deliveries := fun _ => by rw [hd] }
    rw [hp]
    by_cases hk : k = (s.requests id).seq
    · rw [hk, update_self, absent]
      simp [Ne.symm hi]
    · rw [update_of_ne hk]
  refine h.of_apart hapart ?_ ?_ ?_ ?_ (fun hm _ => hd ▸ hm) ?_
  · intro k hk
    rw [hself]
    by_contra hne
    rw [hp, update_of_ne (Ne.symm hne)] at hk
    exact hpend k hk
  · intro _
    rw [hself]
    exact h.positive (.inl at_)
  · rw [hself, hclm]
    exact ⟨rfl, by rw [houts, hfits.2]; rfl⟩
  · rintro d x hm rfl
    rw [hd] at hm
    exact absurd rfl (hdels d hm)
  · intro x hx
    rw [hself] at hx
    exact absurd (houts ▸ hx) List.not_mem_nil

end Tracked

theorem Tracked.unstores (h : Tracked s) (stored : s.Stored id) (hr : s'.requests = update s.requests id r)
    (hp : s'.pending = update s.pending (s.requests id).seq none) (hd : s'.deliveries = s.deliveries)
    (seq : r.seq = (s.requests id).seq) (moved : r.pc ≠ .storing)
    (answered : ∀ {x}, .response x ∈ r.outcomes → x.seq = (s.requests id).seq)
    (fits : (s.requests id).outcomes = [] → r.Fits False r.outcomes.length) : Tracked s' := by
  have hle := (h.fits id).claims_le
  simp only [State.claims, if_pos stored] at hle
  have hcnt : s.deliveries.countP (·.request = id) = 0 := by omega
  have hself : s'.requests id = r := by rw [hr, update_self]
  have hgone : ¬ s'.Stored id := by
    rw [State.Stored, hself, seq, hp, update_self]
    nofun
  have hclm : s'.claims id = r.outcomes.length := by simp [State.claims, hgone, hself, hd, hcnt]
  refine h.moves hr seq moved (.inr ⟨stored, hp⟩) (fun _ => by rw [hd]) (fun hm => .inl (hd ▸ hm)) answered ?_
  rw [hclm, eq_false hgone]
  exact fits (List.eq_nil_of_length_eq_zero (by omega))

theorem State.compareAndDelete_of_stored (h : s.Stored id) : s.compareAndDelete (s.requests id).seq id =
    { s with pending := update s.pending (s.requests id).seq none } :=
  if_pos h

theorem Tracked.call (h : Tracked s) (hstep : CallStep transport s id s') : Tracked s' := by
  cases hstep with
  | begins at_ | retries at_ | sends at_ | refuses at_ =>
    refine h.set rfl rfl nofun fun hfits => ?_
    simpa only [Request.Fits, at_] using hfits
  | draws at_ drawn => exact { h.draws at_ drawn with }
  | redraws => exact { h with }
  | stores at_ absent => exact h.stores at_ absent rfl rfl rfl
  | cancels at_ =>
    have hfits := h.fits id
    simp only [Request.Fits, at_] at hfits
    by_cases hst : s.Stored id
    · rw [State.compareAndDelete_of_stored hst]
      refine h.unstores hst rfl rfl rfl rfl nofun h.answered fun hnone => ?_
      simp only [Request.Fits, hnone]
      exact ⟨Nat.zero_le _, hnone ▸ hfits.2, not_false⟩
    · have hsame : s.compareAndDelete (s.requests id).seq id = s := if_neg hst
      rw [hsame]
      refine h.set rfl rfl nofun fun _ => ?_
      exact ⟨Nat.le_of_eq hfits.1, hfits.2, hst⟩
  | receives at_ ready =>
    refine h.set rfl rfl nofun fun hfits => ?_
    obtain hw | hw := at_
    · simp only [Request.Fits, hw, ready] at hfits
      exact ⟨hfits.1, hfits.2, rfl⟩
    · simp only [Request.Fits, hw, ready] at hfits
      exact ⟨hfits.1, hfits.2.1, rfl⟩
  | expires at_ mine =>
    rw [State.compareAndDelete_of_stored mine]
    refine h.unstores mine rfl rfl rfl rfl nofun ?_ fun hnone => ?_
    · intro x hx
      have hx' : Outcome.response x ∈ (s.requests id).outcomes := by simpa using hx
      exact h.answered hx'
    · have hfits := h.fits id
      simp only [Request.Fits, at_, hnone] at hfits
      have hdone : (s.requests id).done = none := by simpa using hfits.2.symm
      simp [Request.Fits, hnone, hdone]
  | drains at_ taken =>
    refine h.set rfl rfl nofun fun hfits => ?_
    simp only [Request.Fits, at_] at hfits
    exact ⟨hfits.1, hfits.2, taken⟩

/-! ## The steps of the others -/

/-- Who has stored something and not returned stays as it is when the request leaves the map. -/
theorem Request.Fits.taken {claims : Nat} (h : r.Fits True claims) (stored : 0 < claims) :
    r.Fits False claims ∧ r.pc ≠ .storing := by
  unfold Fits at h ⊢
  split at h <;> simp_all

theorem Tracked.takes (h : Tracked s) (present : s.pending seq = some id) {o : Outcome Body}
    (answer : ∀ {x}, o = .response x → x.seq = seq) (hr : s'.requests = s.requests)
    (hp : s'.pending = update s.pending seq none) (hd : s'.deliveries = s.deliveries ++ [⟨id, o⟩]) :
    Tracked s' := by
  have hseq := h.keyed present
  subst hseq
  have hst : s.Stored id := present
  have hgone : ¬ s'.Stored id := by
    rw [State.Stored, hr, hp, update_self]
    nofun
  have hclm : s'.claims id = s.claims id := by
    simp only [State.claims, if_pos hst, if_neg hgone, hr, hd, List.countP_append]
    simp
    omega
  have hfits : (s.requests id).Fits False (s.claims id) ∧ (s.requests id).pc ≠ .storing := by
    refine Request.Fits.taken (eq_true hst ▸ h.fits id) ?_
    simp only [State.claims, if_pos hst]
    omega
  refine h.moves (r := s.requests id) (by rw [hr, update_eq_self]) rfl hfits.2 (.inr ⟨hst, hp⟩)
    ?_ ?_ h.answered ?_
  · intro i hi
    simp [hd, Ne.symm hi]
  · intro d hdm
    rw [hd] at hdm
    obtain hold | hnew := List.mem_append.mp hdm
    · exact .inl hold
    · cases List.mem_singleton.mp hnew
      exact .inr ⟨rfl, answer⟩
  · rw [hclm, eq_false hgone]
    exact hfits.1

theorem Request.Fits.receive {stored : Prop} (h : r.Fits stored 1) (none : r.outcomes = [])
    (o : Outcome Body) :
    r.done = Option.none ∧ r.pc ≠ .storing ∧ { r with done := some o, outcomes := [o] }.Fits stored 1 := by
  obtain ⟨pc, seq, done, outcomes⟩ := r
  subst none
  cases pc with
  | idle | drawing | storing => cases h.1
  | sending | cancelling | waiting => exact ⟨by simpa using h.2.symm, nofun, rfl, rfl⟩
  | draining => exact ⟨by simpa using h.2.1.symm, nofun, rfl, rfl, h.2.2⟩
  | returned x =>
    cases x with
    | none => exact ⟨by simpa using h.2.1.symm, nofun, Nat.le_refl _, rfl, h.2.2⟩
    | some => cases h.2.1

theorem Tracked.none_yet (h : Tracked s) (hd : d ∈ s.deliveries) :
    s.claims d.request = 1 ∧ (s.requests d.request).outcomes = [] := by
  have hcnt : 0 < s.deliveries.countP (·.request = d.request) :=
    List.countP_pos_iff.mpr ⟨d, hd, by simp⟩
  have hle := (h.fits d.request).claims_le
  have hclm : s.claims d.request = (if s.Stored d.request then 1 else 0) +
    s.deliveries.countP (·.request = d.request) + (s.requests d.request).outcomes.length := rfl
  exact ⟨by omega, List.eq_nil_of_length_eq_zero (by omega)⟩

theorem Tracked.room (h : Tracked s) (hd : d ∈ s.deliveries) : (s.requests d.request).done = none := by
  obtain ⟨hone, hnone⟩ := h.none_yet hd
  have hfits := h.fits d.request
  rw [hone] at hfits
  exact (hfits.receive hnone d.outcome).1

theorem Tracked.delivers (h : Tracked s) {before after : List (Delivery Body)}
    (mem : s.deliveries = before ++ d :: after) (hr : s'.requests = update s.requests d.request
      { s.requests d.request with
        done := some d.outcome
        outcomes := (s.requests d.request).outcomes ++ [d.outcome] })
    (hp : s'.pending = s.pending) (hd : s'.deliveries = before ++ after) : Tracked s' := by
  have hmem : d ∈ s.deliveries := by rw [mem]; simp
  obtain ⟨hone, hnone⟩ := h.none_yet hmem
  have hfits := h.fits d.request
  rw [hone] at hfits
  obtain ⟨-, hpc, hnew⟩ := hfits.receive hnone d.outcome
  rw [hnone, List.nil_append] at hr
  have hself : s'.requests d.request =
      { s.requests d.request with done := some d.outcome, outcomes := [d.outcome] } := by
    rw [hr, update_self]
  have hstored : s'.Stored d.request ↔ s.Stored d.request := by
    rw [State.Stored, hself, hp]
    rfl
  have hclm : s'.claims d.request = s.claims d.request := by
    simp only [State.claims, hstored, hself, hd, mem, hnone, List.countP_append, List.countP_cons]
    simp
    omega
  refine h.moves hr rfl hpc (.inl hp) ?_ ?_ ?_ ?_
  · intro i hi
    simp [hd, mem, Ne.symm hi]
  · intro d' hd'
    rw [hd] at hd'
    rw [mem]
    obtain hb | ha := List.mem_append.mp hd'
    · exact .inl (List.mem_append_left _ hb)
    · exact .inl (List.mem_append_right _ (List.mem_cons_of_mem _ ha))
  · intro x hx
    exact h.delivered hmem (List.mem_singleton.mp hx).symm
  · rw [hclm, hone, propext hstored]
    exact hnew

theorem Tracked.other (h : Tracked s) (hstep : OtherStep transport s s') : Tracked s' := by
  cases hstep with
  | resolves present => exact h.takes present (by rintro x ⟨⟩; rfl) rfl rfl rfl
  | delivers mem => exact h.delivers mem rfl rfl rfl
  | shuts | marks | closes | ranges | finishes => exact { h with }
  | fails _ _ present => exact h.takes present (by rintro x ⟨⟩) rfl rfl rfl

/-! ## Shutdown -/

structure State.Held (s : State Body) (id : Nat) : Prop where
  waiting : (s.requests id).pc = .waiting
  stored : s.Stored id

theorem State.Held.of (h : s'.Held i) (pc : (s'.requests i).pc = (s.requests i).pc)
    (seq : (s'.requests i).seq = (s.requests i).seq)
    (pending : ∀ {k}, s'.pending k = some i → s.pending k = some i) :
    s.Held i ∧ (s'.requests i).seq = (s.requests i).seq := by
  refine ⟨⟨pc.symm.trans h.waiting, ?_⟩, seq⟩
  rw [State.Stored, ← seq]
  exact pending h.stored

theorem State.compareAndDelete_pending {k : Int}
    (h : (s.compareAndDelete seq id).pending k = some i) : s.pending k = some i := by
  unfold State.compareAndDelete at h
  split at h
  · exact pending_of_delete h
  · exact h

theorem State.set_compareAndDelete_requests :
    ((s.compareAndDelete seq id).set id r).requests = update s.requests id r := by
  unfold State.compareAndDelete
  split <;> rfl

/-- A call that does not begin to wait adds no request that waits in the map. -/
theorem State.Held.of_update (h : s'.Held i)
    (requests : s'.requests = update s.requests id r) (leaves : r.pc ≠ .waiting)
    (pending : ∀ {k}, i ≠ id → s'.pending k = some i → s.pending k = some i) :
    s.Held i ∧ (s'.requests i).seq = (s.requests i).seq := by
  have hi : i ≠ id := by
    rintro rfl
    have hw := h.waiting
    rw [requests, update_self] at hw
    exact leaves hw
  have hsame : s'.requests i = s.requests i := by rw [requests, update_of_ne hi]
  exact h.of (by rw [hsame]) (by rw [hsame]) (pending hi)

theorem CallStep.held (hstep : CallStep transport s id s') (closed : s.closed = true) (h : s'.Held i) :
    s.Held i ∧ (s'.requests i).seq = (s.requests i).seq := by
  cases hstep with
  | begins | draws | retries | refuses | receives | drains => exact h.of_update rfl nofun fun _ hk => hk
  | redraws => exact h.of rfl rfl fun hk => hk
  | stores =>
    refine h.of_update rfl nofun fun {k} hi hk => ?_
    obtain ⟨-, hself⟩ | ⟨-, hold⟩ := update_cases hk
    · exact absurd (Option.some.inj hself).symm hi
    · exact hold
  | sends _ isOpen => cases isOpen.symm.trans closed
  | cancels | expires =>
    exact h.of_update State.set_compareAndDelete_requests nofun fun _ hk => State.compareAndDelete_pending hk

theorem State.set_keeps (s : State Body) (id : Nat) (pc : r.pc = (s.requests id).pc)
    (seq : r.seq = (s.requests id).seq) (i : Nat) :
    ((s.set id r).requests i).pc = (s.requests i).pc ∧ ((s.set id r).requests i).seq = (s.requests i).seq :=
  ⟨update_proj Request.pc pc i, update_proj Request.seq seq i⟩

theorem OtherStep.held (hstep : OtherStep transport s s') (h : s'.Held i) :
    s.Held i ∧ (s'.requests i).seq = (s.requests i).seq := by
  cases hstep with
  | resolves | fails => exact h.of rfl rfl pending_of_delete
  | @delivers d =>
    have hsame := s.set_keeps d.request
      (r := { s.requests d.request with
        done := some d.outcome
        outcomes := (s.requests d.request).outcomes ++ [d.outcome] }) rfl rfl i
    exact h.of hsame.1 hsame.2 fun hk => hk
  | shuts | marks | closes | ranges | finishes => exact h.of rfl rfl fun hk => hk

/-- Senders find the connection closed from `marked` on. -/
def Shutdown.Past : Shutdown → Prop
  | .none | .begun => False
  | _ => True

structure Closing (s : State Body) : Prop where
  closed : s.shutdown.Past → s.closed = true
  snapshot : ∀ {snapshot id}, s.shutdown = .failing snapshot → s.Held id →
    snapshot (s.requests id).seq = some id
  finished : ∀ {id}, s.shutdown = .finished → ¬ s.Held id

theorem CallStep.shutdown_eq (h : CallStep transport s id s') : s'.shutdown = s.shutdown ∧ s'.closed = s.closed := by
  cases h with
  | cancels | expires =>
    simp only [State.set, State.compareAndDelete]
    split <;> exact ⟨rfl, rfl⟩
  | _ => exact ⟨rfl, rfl⟩

namespace Closing

theorem call (h : Closing s) (hstep : CallStep transport s id s') : Closing s' := by
  obtain ⟨hshut, hcls⟩ := hstep.shutdown_eq
  have hpast : ∀ {shutdown : Shutdown}, s'.shutdown = shutdown → shutdown.Past → s.closed = true := by
    intro shutdown hs hp
    exact h.closed (by rw [← hshut, hs]; exact hp)
  exact
    { closed := fun hp => hcls.trans (hpast rfl hp)
      snapshot := fun hs hheld => by
        obtain ⟨hold, hseq⟩ := hstep.held (hpast hs trivial) hheld
        rw [hseq]
        exact h.snapshot (hshut.symm.trans hs) hold
      finished := fun hs hheld =>
        h.finished (hshut.symm.trans hs) (hstep.held (hpast hs trivial) hheld).1 }

theorem other (h : Closing s) (hstep : OtherStep transport s s') : Closing s' := by
  have hheld : ∀ {i}, s'.Held i → s.Held i ∧ (s'.requests i).seq = (s.requests i).seq := hstep.held
  cases hstep with
  | resolves | delivers | fails =>
    exact
      { closed := h.closed
        snapshot := fun hs hi => by
          rw [(hheld hi).2]
          exact h.snapshot hs (hheld hi).1
        finished := fun hs hi => h.finished hs (hheld hi).1 }
  | shuts => exact { closed := False.elim, snapshot := nofun, finished := nofun }
  | marks => exact { closed := fun _ => rfl, snapshot := nofun, finished := nofun }
  | closes =>
    exact
      { closed := fun _ => rfl
        snapshot := fun hs hi => h.snapshot hs (hheld hi).1
        finished := fun hs hi => h.finished hs (hheld hi).1 }
  | ranges at_ =>
    exact
      { closed := fun _ => h.closed (by rw [at_]; trivial)
        snapshot := fun hs hi => by
          cases hs
          exact hi.stored
        finished := nofun }
  | finishes at_ _ visited =>
    exact
      { closed := fun _ => h.closed (by rw [at_]; trivial)
        snapshot := nofun
        finished := fun _ hi => by
          obtain ⟨hold, -⟩ := hheld hi
          exact visited _ _ (h.snapshot at_ hold) hold.stored }

end Closing

/-! ## The theorem -/

theorem sound (h : Reachable (· = State.new) (Step transport) s) : Tracked s ∧ Closing s := by
  apply h.invariant
  · rintro _ rfl
    exact
      ⟨{ keyed := nofun
         positive := by
           rintro id (hpc | hst)
           · cases hpc
           · cases hst
         fits := fun id => ⟨rfl, rfl⟩
         delivered := nofun
         answered := nofun },
       { closed := False.elim
         snapshot := nofun
         finished := nofun }⟩
  · rintro s l t hstep ⟨htrk, hcls⟩
    cases hstep with
    | call hc => exact ⟨htrk.call hc, hcls.call hc⟩
    | other ho => exact ⟨htrk.other ho, hcls.other ho⟩

/-- The numbers of pending requests are positive and differ; a request has at most one outcome; whoever sends
one finds room; a response goes to the request with its number; and when `shutdownWith` has finished, a call
that waits has its outcome or somebody who is about to send it. -/
theorem one_outcome_per_request (transport : Transport) (h : Reachable (· = State.new) (Step transport) s) :
    (∀ seq id, s.pending seq = some id → (s.requests id).seq = seq ∧ 0 < seq ∧ seq < 2 ^ 31) ∧
    (∀ id id', s.Stored id → s.Stored id' → (s.requests id).seq = (s.requests id').seq → id = id') ∧
    (∀ id, (s.requests id).outcomes.length ≤ 1 ∧
      ∀ o, (s.requests id).pc = .returned (some o) → (s.requests id).outcomes = [o]) ∧
    (∀ d ∈ s.deliveries, (s.requests d.request).done = none) ∧
    (∀ id r, .response r ∈ (s.requests id).outcomes → r.seq = (s.requests id).seq) ∧
    (s.shutdown = .finished → ∀ id, (s.requests id).pc = .waiting ∨ (s.requests id).pc = .draining →
      (s.requests id).done.isSome = true ∨ ∃ d ∈ s.deliveries, d.request = id) := by
  obtain ⟨htrk, hcls⟩ := sound h
  refine ⟨fun seq id hid => ?_, fun id id' hid hid' hseq => ?_, fun id => ⟨?_, fun o ho => ?_⟩,
    fun d hd => htrk.room hd, fun id r => htrk.answered, fun hfin id hpc => ?_⟩
  · have hseq := htrk.keyed hid
    subst hseq
    exact ⟨rfl, htrk.positive (.inr hid)⟩
  · rw [State.Stored, hseq, hid'] at hid
    exact (Option.some.inj hid).symm
  · have hle := (htrk.fits id).claims_le
    simp only [State.claims] at hle
    omega
  · have hfits := htrk.fits id
    simp only [Request.Fits, ho] at hfits
    exact hfits.2.1
  · -- The request is not in the map any more, so it is with somebody or has its outcome.
    have hgone : ¬ s.Stored id := by
      obtain hw | hw := hpc
      · exact fun hst => hcls.finished hfin ⟨hw, hst⟩
      · have hfits := htrk.fits id
        simp only [Request.Fits, hw] at hfits
        exact hfits.2.2
    have hfits : s.claims id = 1 ∧ (s.requests id).outcomes = (s.requests id).done.toList := by
      have hfits := htrk.fits id
      obtain hw | hw := hpc
      · simpa only [Request.Fits, hw] using hfits
      · simp only [Request.Fits, hw] at hfits
        exact ⟨hfits.1, hfits.2.1⟩
    obtain ⟨hone, houts⟩ := hfits
    simp only [State.claims, if_neg hgone] at hone
    by_cases hcnt : s.deliveries.countP (·.request = id) = 0
    · left
      rw [hcnt, houts] at hone
      cases hdone : (s.requests id).done with
      | none => simp [hdone] at hone
      | some => rfl
    · right
      obtain ⟨d, hd, hid⟩ := List.countP_pos_iff.mp (Nat.pos_of_ne_zero hcnt)
      exact ⟨d, hd, by simpa using hid⟩

/-- A call waits when the connection is shut down, and has got the failure when that has finished. -/
theorem one_outcome_per_request_failed : ∃ s : State Unit,
    Reachable (· = State.new) (Step .tcp) s ∧ s.shutdown = .finished ∧ (s.requests 0).pc = .waiting ∧
      ((s.requests 0).done.isSome = true ∨ ∃ d ∈ s.deliveries, d.request = 0) := by
  have h₀ : Reachable (· = State.new) (Step .tcp) (.new : State Unit) := .init_state rfl
  have h₁ := h₀.next (.call (@CallStep.begins _ _ _ 0 rfl nofun))
  have h₂ := h₁.next (.call (@CallStep.draws _ _ _ 0 1 rfl rfl))
  have h₃ := h₂.next (.call (@CallStep.stores _ _ _ 0 rfl rfl))
  have h₄ := h₃.next (.call (@CallStep.sends _ _ _ 0 rfl rfl))
  have h₅ := h₄.next (.other (.shuts rfl))
  have h₆ := h₅.next (.other (.marks rfl))
  have h₇ := h₆.next (.other (.ranges rfl))
  have h₈ := h₇.next (.other (@OtherStep.fails _ _ _ _ 1 0 rfl nofun rfl))
  have h₉ := h₈.next (.other (@OtherStep.delivers _ _ _ ⟨0, .failed⟩ [] [] rfl rfl))
  have hvis : ∀ (seq : Int) (id : Nat), update (fun _ => none) 1 (some 0) seq = some id →
      update (update (fun _ => none) 1 (some 0)) 1 none seq ≠ some id := by
    intro seq id _ hid
    rw [update_idem, update_eq_self] at hid
    cases hid
  have h₁₀ := h₉.next (.other (.finishes rfl nofun hvis))
  obtain ⟨-, -, -, -, -, hfin⟩ := one_outcome_per_request .tcp h₁₀
  exact ⟨_, h₁₀, rfl, rfl, hfin rfl 0 (.inl rfl)⟩

end Yola.Requests
