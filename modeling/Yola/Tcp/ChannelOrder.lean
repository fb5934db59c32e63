import Yola.Reasoning.Updates
import Yola.Tcp.Channel

/-!
# The order of frames

Frames get onto the socket in the order in which they were accepted.  Whoever closes the channel with a
last frame waits until nobody else can send, so that the frame is the last one accepted, and if the call
succeeds, the last one written.
-/

namespace Yola.Tcp

open Function Reasoning

variable {ι α ε : Type}

namespace Call

def reading : Call α ε → Bool
  | .pushing _ => true
  | _ => false

/-- Counted by the wait group. -/
def counted : Call α ε → Bool
  | .replying _ | .replied _ _ => true
  | _ => false

def closes : Call α ε → Bool
  | .closing _ | .sendingFinal _ => true
  | _ => false

def maySend (c : Call α ε) : Bool := c.reading || c.counted || c.closes

/-- The last frame it has sent. -/
def awaits : Call α ε → Option α
  | .waitingFinal f | .rechecking f _ => some f
  | _ => none

/-- The last frame it has been told is written. -/
def closedWith : Call α ε → Option α
  | .returned (.closeWithProto f) .ok => some f
  | _ => none

/-- The reply it has sent. -/
def repliedWith : Call α ε → Option α
  | .replied f .sent | .returned (.reply f) .ok => some f
  | _ => none

end Call

inductive Dispatch.Holds : Dispatch ι α ε → List (Event ι α) → Prop where
  | waiting : Holds .waiting []
  | writing (e) : Holds (.writing e) [e]
  | reporting (e err l) : Holds (.reporting e err) l
  | finishing (err l) : Holds (.finishing err) l
  | finished (l) : Holds .finished l

namespace Channel

structure CallOk (s : Channel ι α ε) (i : ι) (c : Call α ε) : Prop where
  reading : i ∈ s.readers ↔ c.reading = true
  counted : i ∈ s.replyWG ↔ c.counted = true
  closes : c.closes = true → s.closed = true ∧ ∀ e ∈ s.accepted, e.final = false
  sending : ∀ f, c = .sendingFinal f → s.replyWG = ∅
  awaits : ∀ f, c.awaits = some f → ⟨f, i, true⟩ ∈ s.accepted
  closedWith : ∀ f, c.closedWith = some f → ⟨f, i, true⟩ ∈ s.written
  repliedWith : ∀ f, c.repliedWith = some f → ⟨f, i, false⟩ ∈ s.accepted

/-- The last frame has been accepted. -/
structure Sealed (s : Channel ι α ε) (e : Event ι α) : Prop where
  closed : s.closed = true
  last : ∃ before, s.accepted = before ++ [e] ∧ ∀ x ∈ before, x.final = false
  quiet : ∀ i, (s.calls i).maySend = false

structure Ok (s : Channel ι α ε) : Prop where
  calls : ∀ i, CallOk s i (s.calls i)
  unique : ∀ i j, (s.calls i).closes = true → (s.calls j).closes = true → i = j
  lock : s.closed = true → s.readers = ∅
  order : ∃ hand, s.writer.Holds hand ∧ s.accepted = s.written ++ hand ++ s.outbound
  sealing : ∀ e ∈ s.accepted, e.final = true → Sealed s e
  reporting : ∀ e err, s.writer = .reporting e err → e.final = true ∧ (err = none → e ∈ s.written)
  done : ∀ i, s.done i = some none → ∃ f, ⟨f, i, true⟩ ∈ s.written

theorem ok_new (capacity : Nat) : Ok (new capacity : Channel ι α ε) where
  calls i := ⟨by simp [new, Call.reading], by simp [new, Call.counted], nofun, nofun, nofun, nofun, nofun⟩
  unique := nofun
  lock := nofun
  order := ⟨[], .waiting, rfl⟩
  sealing := nofun
  reporting := nofun
  done := nofun

variable {s s' : Channel ι α ε} {i j : ι} {c c' : Call α ε} {e : Event ι α} {valid : α → Bool} {f : α}
  {f' : α}

/-! ## Sends -/

theorem Sends.calls (h : Sends s e s') : s'.calls = s.calls := by
  cases h <;> rfl

theorem Sends.accepted (h : Sends s e s') : s'.accepted = s.accepted ++ [e] := by
  cases h <;> rfl

theorem Sends.order (h : Sends s e s') (hs : Ok s) :
    ∃ hand, s'.writer.Holds hand ∧ s'.accepted = s'.written ++ hand ++ s'.outbound := by
  obtain ⟨hand, hholds, hord⟩ := hs.order
  cases h with
  | room =>
    refine ⟨hand, hholds, ?_⟩
    dsimp only
    rw [hord, List.append_assoc]
  | handed hque hwaits =>
    rw [hwaits] at hholds
    cases hholds
    refine ⟨[e], .writing e, ?_⟩
    dsimp only
    rw [hord, hque]
    simp

/-! ## At most one last frame -/

theorem Ok.mem_accepted (hs : Ok s) (he : e ∈ s.written) : e ∈ s.accepted := by
  obtain ⟨hand, -, hord⟩ := hs.order
  rw [hord, List.append_assoc]
  exact List.mem_append_left _ he

theorem Ok.final_unique {e' : Event ι α} (hs : Ok s) (he : e ∈ s.accepted) (he' : e' ∈ s.accepted)
    (hfin : e.final = true) (hfin' : e'.final = true) : e' = e := by
  obtain ⟨before, hacc, hbef⟩ := (hs.sealing e he hfin).last
  rw [hacc] at he'
  rcases List.mem_append.mp he' with hold | hlast
  · rw [hbef e' hold] at hfin'
    cases hfin'
  · exact List.mem_singleton.mp hlast

theorem Ok.no_final_of_maySend (hs : Ok s) (hsend : (s.calls i).maySend = true) :
    ∀ e ∈ s.accepted, e.final = false := by
  intro e he
  by_contra hfin
  have hquiet := (hs.sealing e he (by simpa using hfin)).quiet i
  rw [hsend] at hquiet
  cases hquiet

theorem Ok.no_final_of_open (hs : Ok s) (hopen : s.closed = false) : ∀ e ∈ s.accepted, e.final = false := by
  intro e he
  by_contra hfin
  have hcls := (hs.sealing e he (by simpa using hfin)).closed
  rw [hopen] at hcls
  cases hcls

theorem Ok.no_closer_of_open (hs : Ok s) (hopen : s.closed = false) (j : ι) : (s.calls j).closes = false := by
  by_contra hcl
  have hcls := ((hs.calls j).closes (by simpa using hcl)).1
  rw [hopen] at hcls
  cases hcls

/-! ## The last frame and what is written -/

theorem eq_nil_of_mem {l r before : List (Event ι α)} (h : l ++ r = before ++ [e]) (he : e ∈ l)
    (hbef : e ∉ before) : r = [] := by
  rcases List.eq_nil_or_concat r with hnil | ⟨r, x, rfl⟩
  · exact hnil
  · rw [List.concat_eq_append, ← List.append_assoc] at h
    obtain ⟨rfl, -⟩ := List.append_inj' h rfl
    exact absurd (List.mem_append_left r he) hbef

namespace Ok

theorem written_isPrefix (hs : Ok s) : s.written <+: s.accepted := by
  obtain ⟨hand, -, hord⟩ := hs.order
  exact ⟨hand ++ s.outbound, by rw [hord, List.append_assoc]⟩

theorem closed_with (hs : Ok s) (he : e ∈ s.written) (hfin : e.final = true) :
    ∃ before, s.accepted = before ++ [e] ∧ e ∉ before ∧ s.written = s.accepted := by
  obtain ⟨before, hacc, hbef⟩ := (hs.sealing e (hs.mem_accepted he) hfin).last
  have hnot : e ∉ before := by
    intro hmem
    rw [hbef e hmem] at hfin
    cases hfin
  obtain ⟨rest, hrest⟩ := hs.written_isPrefix
  have hnil := eq_nil_of_mem (hrest.trans hacc) he hnot
  rw [hnil, List.append_nil] at hrest
  exact ⟨before, hacc, hnot, hrest⟩

theorem count_final (hs : Ok s) : s.accepted.countP (·.final) ≤ 1 := by
  by_cases hany : ∃ e ∈ s.accepted, e.final = true
  · obtain ⟨e, he, hfin⟩ := hany
    obtain ⟨before, hacc, hbef⟩ := (hs.sealing e he hfin).last
    have hzero : before.countP (·.final) = 0 := by
      rw [List.countP_eq_zero]
      intro x hx
      rw [hbef x hx]
      exact Bool.false_ne_true
    rw [hacc, List.countP_append, hzero, Nat.zero_add]
    exact List.countP_le_length
  · have hzero : s.accepted.countP (·.final) = 0 := by
      rw [List.countP_eq_zero]
      exact fun x hx hfin => hany ⟨x, hx, hfin⟩
    rw [hzero]
    exact Nat.zero_le 1

theorem before_final {x : Event ι α} {before after : List (Event ι α)} (hs : Ok s)
    (hx : x ∈ s.accepted) (hxfinal : x.final = false) (hacc : s.accepted = before ++ e :: after)
    (hfin : e.final = true) : x ∈ before := by
  have he : e ∈ s.accepted := by
    rw [hacc]
    exact List.mem_append_right _ List.mem_cons_self
  obtain ⟨firsts, hlast, hfirsts⟩ := (hs.sealing e he hfin).last
  have hnot : e ∉ firsts := by
    intro hmem
    rw [hfirsts e hmem] at hfin
    cases hfin
  have hsplit : (before ++ [e]) ++ after = firsts ++ [e] := by
    rw [← hlast, hacc, List.append_assoc]
    rfl
  have hnil := eq_nil_of_mem hsplit (List.mem_append_right _ List.mem_cons_self) hnot
  rw [hacc, hnil] at hx
  rcases List.mem_append.mp hx with hmem | hmem
  · exact hmem
  · rw [List.mem_singleton.mp hmem, hfin] at hxfinal
    cases hxfinal

end Ok

/-! ## Steps of the writer -/

namespace Ok

variable {err : Option ε}

variable (hs : Ok s)

include hs

theorem dispatch {outbound written : List (Event ι α)} {writer : Dispatch ι α ε}
    {done : ι → Option (Option ε)} (hwr : ∀ e ∈ s.written, e ∈ written)
    (hord : ∃ hand, writer.Holds hand ∧ s.accepted = written ++ hand ++ outbound)
    (hreporting : ∀ e err, writer = .reporting e err → e.final = true ∧ (err = none → e ∈ written))
    (hdone : ∀ i, done i = some none → ∃ f, ⟨f, i, true⟩ ∈ written) :
    Ok { s with outbound := outbound, writer := writer, written := written, done := done, writerErr := err } where
  calls i := { hs.calls i with closedWith := fun f hf => hwr _ ((hs.calls i).closedWith f hf) }
  unique := hs.unique
  lock := hs.lock
  order := hord
  sealing e he hfin := { hs.sealing e he hfin with }
  reporting := hreporting
  done := hdone

theorem shut (hlock : s.readers = ∅) (stopped : Bool) : Ok { s with closed := true, stopped := stopped } :=
  { hs with
    calls := fun i => { hs.calls i with closes := fun h => ⟨rfl, ((hs.calls i).closes h).2⟩ }
    lock := fun _ => hlock
    sealing := fun e he hfin => { hs.sealing e he hfin with closed := rfl } }

theorem takes {rest : List (Event ι α)} (hwrt : s.writer = .waiting)
    (hque : s.outbound = e :: rest) : Ok { s with outbound := rest, writer := .writing e } := by
  obtain ⟨hand, hholds, hord⟩ := hs.order
  rw [hwrt] at hholds
  cases hholds
  refine hs.dispatch (fun _ h => h) ⟨[e], .writing e, ?_⟩ nofun hs.done
  rw [hord, hque]
  simp

theorem quits : Ok { s with writer := .finishing err } := by
  obtain ⟨hand, -, hord⟩ := hs.order
  exact hs.dispatch (fun _ h => h) ⟨hand, .finishing err hand, hord⟩ nofun hs.done

theorem writes (hwrt : s.writer = .writing e) : Ok { s with
      written := s.written ++ [e]
      writer := if e.final then .reporting e none else .waiting } := by
  obtain ⟨hand, hholds, hord⟩ := hs.order
  rw [hwrt] at hholds
  cases hholds
  have hord' : s.accepted = s.written ++ [e] ++ [] ++ s.outbound := by
    rw [List.append_nil]
    exact hord
  refine hs.dispatch (fun _ h => List.mem_append_left _ h) ⟨[], ?_, hord'⟩ ?_ ?_
  · split
    · exact .reporting e none []
    · exact .waiting
  · intro x err hx
    split at hx
    · rename_i hfin
      cases hx
      exact ⟨hfin, fun _ => List.mem_append_right _ List.mem_cons_self⟩
    · cases hx
  · intro i hi
    obtain ⟨f, hf⟩ := hs.done i hi
    exact ⟨f, List.mem_append_left _ hf⟩

theorem fails {err : ε} :
    Ok { s with writer := if e.final then .reporting e (some err) else .finishing (some err) } := by
  obtain ⟨hand, -, hord⟩ := hs.order
  refine hs.dispatch (fun _ h => h) ⟨hand, ?_, hord⟩ ?_ hs.done
  · split
    · exact .reporting e (some err) hand
    · exact .finishing (some err) hand
  · intro x err' hx
    split at hx
    · rename_i hfin
      cases hx
      exact ⟨hfin, nofun⟩
    · cases hx

theorem finishes (hlock : s.readers = ∅) : Ok { s.stopLocked with writerErr := err, writer := .finished } := by
  obtain ⟨hand, -, hord⟩ := hs.order
  exact (hs.shut hlock true).dispatch (fun _ h => h) ⟨hand, .finished hand, hord⟩ nofun hs.done

/-- A frame is accepted; the last one, once the channel is closed and nobody else can send. -/
theorem sent (h : Sends s e s') (hnone : ∀ x ∈ s.accepted, x.final = false)
    (hfin : e.final = true → s.closed = true ∧ ∀ j, (s.calls j).maySend = false) : Ok s' := by
  have hord := h.order hs
  have hcalls (j : ι) : CallOk { s with accepted := s.accepted ++ [e] } j (s.calls j) :=
    { hs.calls j with
      closes := fun hcl => by
        refine ⟨((hs.calls j).closes hcl).1, List.forall_mem_append.mpr ⟨hnone, ?_⟩⟩
        rw [List.forall_mem_singleton, Bool.eq_false_iff]
        intro he
        have hquiet := (hfin he).2 j
        rw [Call.maySend, hcl, Bool.or_true] at hquiet
        cases hquiet
      awaits := fun f hf => List.mem_append_left _ ((hs.calls j).awaits f hf)
      repliedWith := fun f hf => List.mem_append_left _ ((hs.calls j).repliedWith f hf) }
  have hsealing : ∀ x ∈ s.accepted ++ [e], x.final = true →
      Sealed { s with accepted := s.accepted ++ [e] } x := by
    refine List.forall_mem_append.mpr ⟨fun x hx hx' => ?_, List.forall_mem_singleton.mpr fun he => ?_⟩
    · cases (hnone x hx).symm.trans hx'
    · exact ⟨(hfin he).1, ⟨s.accepted, rfl, hnone⟩, (hfin he).2⟩
  cases h with
  | room =>
    exact ⟨fun j => { hcalls j with }, hs.unique, hs.lock, hord, fun x hx hx' => { hsealing x hx hx' with },
      hs.reporting, hs.done⟩
  | handed =>
    exact ⟨fun j => { hcalls j with }, hs.unique, hs.lock, hord, fun x hx hx' => { hsealing x hx hx' with },
      nofun, hs.done⟩

end Ok

/-! ## Calls that only wait -/

section

variable (h : Waits valid s i c c')

include h

theorem Waits.reading : c'.reading = c.reading := by
  cases h <;> rfl

theorem Waits.counted : c'.counted = c.counted := by
  cases h <;> rfl

theorem Waits.closes (hcl : c'.closes = true) : c.closes = true := by
  cases h with
  | repliesDone => rfl
  | _ => cases hcl

theorem Waits.awaits (hf : c'.awaits = some f) : c.awaits = some f := by
  cases h with
  | finalCancelled | finalStopped => exact hf
  | _ => cases hf

theorem Waits.sending (hf : c' = .sendingFinal f) : s.replyWG = ∅ := by
  cases h with
  | repliesDone wait => exact wait
  | _ => cases hf

end

theorem closedWith_ofDone {err : Option ε}
    (h : (Call.returned (.closeWithProto f') (ofDone err)).closedWith = some f) : f' = f ∧ err = none := by
  cases err with
  | none =>
    cases h
    exact ⟨rfl, rfl⟩
  | some => cases h

theorem closedWith_writerError : (Call.returned (.closeWithProto f') s.writerError).closedWith = none := by
  unfold writerError
  split <;> rfl

/-- A call is told that its last frame is written by the writer alone. -/
theorem Waits.closedWith (h : Waits valid s i c c') (hf : c'.closedWith = some f) :
    s.done i = some none ∧ c.awaits = some f := by
  cases h with
  | finalDone result | recheckDone result =>
    obtain ⟨rfl, rfl⟩ := closedWith_ofDone hf
    exact ⟨result, rfl⟩
  | sendStopped | recheckStopped =>
    rw [closedWith_writerError] at hf
    cases hf
  | _ => cases hf

theorem Waits.repliedWith (h : Waits valid s i c c') : c'.repliedWith = none := by
  cases h <;> rfl

/-! ## One call moves -/

variable [DecidableEq ι]

theorem setCall_self (s : Channel ι α ε) (i : ι) (c : Call α ε) : (s.setCall i c).calls i = c :=
  update_self ..

theorem Sends.setCall (h : Sends s e s') (i : ι) (c : Call α ε) :
    Sends (s.setCall i c) e (s'.setCall i c) := by
  cases h with
  | room h => exact .room h
  | handed h waits => exact .handed h waits

namespace Ok

variable {r : Outcome ε} {s₁ : Channel ι α ε}

variable (hs : Ok s)

include hs

theorem moved {R W : Finset ι} (hR : ∀ j, j ≠ i → (j ∈ R ↔ j ∈ s.readers))
    (hW : ∀ j, j ≠ i → (j ∈ W ↔ j ∈ s.replyWG)) (hcnts : s.closed = true → s.replyWG = ∅ → W = ∅)
    (hlock : s.closed = true → R = ∅) (hcall : CallOk { s.setCall i c with readers := R, replyWG := W } i c)
    (hcl : c.closes = true → (s.calls i).closes = true ∨ ∀ j, (s.calls j).closes = false)
    (hmay : c.maySend = true → (s.calls i).maySend = true ∨ ∀ e ∈ s.accepted, e.final = false) :
    Ok { s.setCall i c with readers := R, replyWG := W } := by
  -- only the call that moved can have come to close the channel
  have hclosers : ∀ j, ((s.setCall i c).calls j).closes = true →
      (s.calls j).closes = true ∨ j = i ∧ ∀ k, (s.calls k).closes = false :=
    update_forall (P := fun j c => Call.closes c = true → (s.calls j).closes = true ∨ j = i ∧ _)
      (fun h => (hcl h).imp_right (⟨rfl, ·⟩)) fun j _ => .inl
  refine ⟨update_forall (P := CallOk _) hcall fun j hj => ?_, fun j k hj hk => ?_, hlock, hs.order,
    fun e he hfin => ?_, hs.reporting, hs.done⟩
  · have hold := hs.calls j
    exact { hold with
      reading := (hR j hj).trans hold.reading
      counted := (hW j hj).trans hold.counted
      sending := fun f hf => hcnts (hold.closes (by rw [hf]; rfl)).1 (hold.sending f hf) }
  · rcases hclosers j hj with hj' | ⟨rfl, hnone⟩ <;> rcases hclosers k hk with hk' | ⟨rfl, hnone'⟩
    · exact hs.unique j k hj' hk'
    · cases (hnone' j).symm.trans hj'
    · cases (hnone k).symm.trans hk'
    · rfl
  · -- the last frame stays the last one as long as nobody comes to send
    have hsealed := hs.sealing e he hfin
    refine { hsealed with
      quiet := update_forall (P := fun _ c => Call.maySend c = false) ?_ fun j _ => hsealed.quiet j }
    by_contra hsend
    rcases hmay (by simpa using hsend) with hold | hnone
    · cases (hsealed.quiet i).symm.trans hold
    · cases (hnone e he).symm.trans hfin

theorem called (hcall : CallOk (s.setCall i c) i c)
    (hcl : c.closes = true → (s.calls i).closes = true ∨ ∀ j, (s.calls j).closes = false)
    (hmay : c.maySend = true → (s.calls i).maySend = true ∨ ∀ e ∈ s.accepted, e.final = false) :
    Ok (s.setCall i c) :=
  hs.moved (fun _ _ => .rfl) (fun _ _ => .rfl) (fun _ h => h) hs.lock hcall hcl hmay

theorem waits (h : Waits valid s i (s.calls i) c) : Ok (s.setCall i c) := by
  have hold := hs.calls i
  refine hs.called ?_ (fun hcl => .inl (h.closes hcl)) fun hsend => .inl ?_
  · refine ⟨?_, ?_, fun hcl => hold.closes (h.closes hcl), fun f hf => h.sending hf,
      fun f hf => hold.awaits f (h.awaits hf), fun f hf => ?_, fun f hf => ?_⟩
    · rw [h.reading]
      exact hold.reading
    · rw [h.counted]
      exact hold.counted
    · obtain ⟨hdone, hawaits⟩ := h.closedWith hf
      obtain ⟨f', hwr⟩ := hs.done i hdone
      have hsame := hs.final_unique (hs.mem_accepted hwr) (hold.awaits f hawaits) rfl rfl
      rw [hsame]
      exact hwr
    · rw [h.repliedWith] at hf
      cases hf
  · unfold Call.maySend at hsend ⊢
    rw [h.reading, h.counted] at hsend
    rw [Bool.or_eq_true] at hsend ⊢
    exact hsend.imp_right h.closes

theorem pushBegins (hidle : s.calls i = .idle) (hopen : s.closed = false) :
    Ok { s.setCall i (.pushing f) with readers := insert i s.readers } := by
  have hold := hs.calls i
  rw [hidle] at hold
  refine hs.moved (fun j hj => by simp [hj]) (fun _ _ => .rfl) (fun _ h => h)
    (fun hcls => absurd (hopen.symm.trans hcls) Bool.false_ne_true) ?_ nofun
    fun _ => .inr (hs.no_final_of_open hopen)
  exact ⟨iff_of_true (Finset.mem_insert_self i _) rfl, hold.counted, nofun, nofun, nofun, nofun, nofun⟩

theorem pushed (hcall : s.calls i = .pushing f) :
    Ok { s.setCall i (.returned (.push f) r) with readers := s.readers.erase i } := by
  have hold := hs.calls i
  rw [hcall] at hold
  refine hs.moved (fun j hj => by simp [hj]) (fun _ _ => .rfl) (fun _ h => h) (fun hcls => ?_)
    ⟨iff_of_false (Finset.notMem_erase i _) nofun, hold.counted, nofun, nofun, nofun, nofun, nofun⟩ nofun nofun
  rw [hs.lock hcls]
  exact Finset.erase_empty i

theorem pushSends (hcall : s.calls i = .pushing f) (hsends : Sends s ⟨f, i, false⟩ s₁) :
    Ok { s₁.setCall i (.returned (.push f) .ok) with readers := s.readers.erase i } := by
  have hsent := hs.sent hsends (hs.no_final_of_maySend (i := i) (by rw [hcall]; rfl)) nofun
  cases hsends <;> exact hsent.pushed hcall

theorem replyBegins (hidle : s.calls i = .idle) (hopen : s.closed = false) :
    Ok { s.setCall i (.replying f) with replyWG := insert i s.replyWG } := by
  have hold := hs.calls i
  rw [hidle] at hold
  refine hs.moved (fun _ _ => .rfl) (fun j hj => by simp [hj])
    (fun hcls => absurd (hopen.symm.trans hcls) Bool.false_ne_true) hs.lock ?_ nofun
    fun _ => .inr (hs.no_final_of_open hopen)
  exact ⟨hold.reading, iff_of_true (Finset.mem_insert_self i _) rfl, nofun, nofun, nofun, nofun, nofun⟩

theorem replySends (hcall : s.calls i = .replying f)
    (hsends : Sends s ⟨f, i, false⟩ s₁) : Ok (s₁.setCall i (.replied f .sent)) := by
  have hsent := hs.sent hsends (hs.no_final_of_maySend (i := i) (by rw [hcall]; rfl)) nofun
  rw [← hsends.calls] at hcall
  have hold := hsent.calls i
  rw [hcall] at hold
  refine hsent.called ⟨hold.reading, hold.counted, nofun, nofun, nofun, nofun, ?_⟩ nofun
    fun _ => .inl (by rw [hcall]; rfl)
  rintro f' ⟨⟩
  change _ ∈ s₁.accepted
  rw [hsends.accepted]
  exact List.mem_append_right _ List.mem_cons_self

theorem replyDone {how : Leave} (hcall : s.calls i = .replied f how) :
    Ok { s.setCall i (afterReply f how) with replyWG := s.replyWG.erase i } := by
  have hold := hs.calls i
  rw [hcall] at hold
  have hgone : i ∈ s.replyWG.erase i ↔ false = true := iff_of_false (Finset.notMem_erase i _) nofun
  have hcnts (_ : s.closed = true) (hemp : s.replyWG = ∅) : s.replyWG.erase i = ∅ := by
    rw [hemp]
    exact Finset.erase_empty i
  cases how with
  | sent =>
    refine hs.moved (fun _ _ => .rfl) (fun j hj => by simp [hj]) hcnts hs.lock
      ⟨hold.reading, hgone, nofun, nofun, nofun, nofun, ?_⟩ nofun nofun
    rintro f' ⟨⟩
    exact hold.repliedWith f rfl
  | cancelled | released =>
    exact hs.moved (fun _ _ => .rfl) (fun j hj => by simp [hj]) hcnts hs.lock
      ⟨hold.reading, hgone, nofun, nofun, nofun, nofun, nofun⟩ nofun nofun

theorem closeBegins (hidle : s.calls i = .idle) (hlock : s.readers = ∅)
    (hopen : s.closed = false) : Ok { s.setCall i (.closing f) with closed := true } := by
  have hshut := hs.shut hlock s.stopped
  have hold := hshut.calls i
  change CallOk _ i (s.calls i) at hold
  rw [hidle] at hold
  have hnone := hs.no_final_of_open hopen
  exact hshut.called ⟨hold.reading, hold.counted, fun _ => ⟨rfl, hnone⟩, nofun, nofun, nofun, nofun⟩
    (fun _ => .inr (hs.no_closer_of_open hopen)) fun _ => .inr hnone

/-- The caller leaves, its frame is accepted, and it comes back to wait for it. -/
theorem closeSends (hcall : s.calls i = .sendingFinal f)
    (hsends : Sends s ⟨f, i, true⟩ s₁) : Ok (s₁.setCall i (.waitingFinal f)) := by
  have hold := hs.calls i
  rw [hcall] at hold
  obtain ⟨hcls, hnone⟩ := hold.closes rfl
  have hidle : Ok (s.setCall i .idle) :=
    hs.called ⟨hold.reading, hold.counted, nofun, nofun, nofun, nofun, nofun⟩ nofun nofun
  -- nobody holds the lock, nobody is counted, and nobody else closes the channel
  have hquiet : ∀ j, ((s.setCall i .idle).calls j).maySend = false := by
    refine update_forall (P := fun _ c => Call.maySend c = false) rfl fun j hj => ?_
    have hoth := hs.calls j
    rw [Call.maySend, Bool.or_eq_false_iff, Bool.or_eq_false_iff]
    simp only [Bool.eq_false_iff]
    refine ⟨⟨fun h => ?_, fun h => ?_⟩, fun h => hj (hs.unique j i h (by rw [hcall]; rfl))⟩
    · exact Finset.notMem_empty j (hs.lock hcls ▸ hoth.reading.mpr h)
    · exact Finset.notMem_empty j (hold.sending f rfl ▸ hoth.counted.mpr h)
  have hsent := hidle.sent (hsends.setCall i .idle) hnone fun _ => ⟨hcls, hquiet⟩
  have hgone := hsent.calls i
  rw [setCall_self] at hgone
  have hback : Ok ((s₁.setCall i .idle).setCall i (.waitingFinal f)) := by
    refine hsent.called ⟨hgone.reading, hgone.counted, nofun, nofun, ?_, nofun, nofun⟩ nofun nofun
    rintro f' ⟨⟩
    change _ ∈ s₁.accepted
    rw [hsends.accepted]
    exact List.mem_append_right _ List.mem_cons_self
  rwa [setCall, setCall, update_idem] at hback

theorem stops {op : Op α} (hlock : s.readers = ∅) (hcounted : (s.calls i).counted = false)
    (hop : (Call.returned op r).closedWith = none ∧ (Call.returned op r).repliedWith = none) :
    Ok (s.stopLocked.setCall i (.returned op r)) := by
  have hshut := hs.shut hlock true
  have hold := hshut.calls i
  refine hshut.called ⟨?_, ?_, nofun, nofun, nofun, fun f hf => ?_, fun f hf => ?_⟩ nofun nofun
  · change i ∈ s.readers ↔ _
    rw [hlock]
    exact iff_of_false (Finset.notMem_empty i) nofun
  · change i ∈ s.replyWG ↔ _
    rw [(hs.calls i).counted, hcounted]
    exact Iff.rfl
  · rw [hop.1] at hf
    cases hf
  · rw [hop.2] at hf
    cases hf

theorem reports {err : Option ε} (hwrt : s.writer = .reporting e err) :
    Ok { s with done := update s.done e.call (some err), writer := .finishing err } := by
  obtain ⟨hand, -, hord⟩ := hs.order
  obtain ⟨hfin, hwr⟩ := hs.reporting e err hwrt
  refine hs.dispatch (fun _ h => h) ⟨hand, .finishing err hand, hord⟩ nofun ?_
  intro i hi
  by_cases hcall : i = e.call
  · rw [hcall, update_self] at hi
    refine ⟨e.frame, ?_⟩
    rw [hcall, ← hfin]
    exact hwr (Option.some.inj hi)
  · rw [update_of_ne hcall] at hi
    exact hs.done i hi

theorem step {l : Unit} (h : Step valid s l s') : Ok s' := by
  cases h with
  | waits h => exact hs.waits h
  | pushBegins _ idle isOpen => exact hs.pushBegins idle isOpen
  | pushSends call sends => exact hs.pushSends call sends
  | pushFull call => exact hs.pushed call
  | replyBegins _ idle _ isOpen => exact hs.replyBegins idle isOpen
  | replySends call sends => exact hs.replySends call sends
  | replyDone call => exact hs.replyDone call
  | closeBegins _ idle lock isOpen => exact hs.closeBegins idle lock isOpen
  | closeSends call sends => exact hs.closeSends call sends
  | abandons call lock => exact hs.stops lock (by rw [call]; rfl) ⟨rfl, rfl⟩
  | close idle lock => exact hs.stops lock (by rw [idle]; rfl) ⟨rfl, rfl⟩
  | takes writer queue => exact hs.takes writer queue
  | stops => exact hs.quits
  | writes writer => exact hs.writes writer
  | fails => exact hs.fails
  | reports writer => exact hs.reports writer
  | finishes writer lock => exact hs.finishes lock

theorem run {ls : List Unit} (hrun : Run (Step valid) s ls s') : Ok s' :=
  hrun.preserves (fun _ _ _ _ hstep h => h.step hstep) hs

end Ok

/-! ## What has been written -/

theorem Step.written {l : Unit} (h : Step valid s l s') : s.written <+: s'.written := by
  cases h with
  | pushSends _ sends | replySends _ sends | closeSends _ sends =>
    cases sends <;> exact List.prefix_rfl
  | writes => exact List.prefix_append ..
  | _ => exact List.prefix_rfl

theorem written_of_run {ls : List Unit} (hrun : Run (Step valid) s ls s') : s.written <+: s'.written :=
  hrun.preserves (P := fun t => s.written <+: t.written) (fun _ _ _ _ hstep h => h.trans hstep.written)
    List.prefix_rfl

namespace Ok

theorem nothing_after {ls : List Unit} (hs : Ok s) (he : e ∈ s.written) (hfin : e.final = true)
    (hrun : Run (Step valid) s ls s') : s'.accepted = s.accepted ∧ s'.written = s.written := by
  have hgrows := written_of_run hrun
  obtain ⟨before, hacc, -, hwr⟩ := hs.closed_with he hfin
  obtain ⟨before', hacc', hnot', hwr'⟩ :=
    (hs.run hrun).closed_with (hgrows.mem he) hfin
  obtain ⟨rest, hrest⟩ := hgrows
  have hnil : rest = [] := eq_nil_of_mem (by rw [hrest, hwr', hacc']) he hnot'
  rw [hnil, List.append_nil] at hrest
  exact ⟨by rw [← hwr', ← hwr, hrest], hrest.symm⟩

end Ok

/-- The frames on the socket are the first of those accepted, in their order.  When `closeWithProto`
returns without an error, all that was accepted is written, its own frame last, and nothing is accepted
or written any more; at most one call gets a last frame into the queue; and a reply that returns without
an error got its frame into the queue before any last frame. -/
theorem channel_order (valid : α → Bool) (s : Channel ι α ε)
    (h : Reachable (fun s => ∃ capacity, s = new capacity) (Step valid) s) :
    s.written <+: s.accepted ∧
    (∀ i f, s.calls i = .returned (.closeWithProto f) .ok →
      ∃ before, s.accepted = before ++ [⟨f, i, true⟩] ∧ s.written = s.accepted ∧
        ∀ ls s', Run (Step valid) s ls s' → s'.accepted = s.accepted ∧ s'.written = s.written) ∧
    s.accepted.countP (·.final) ≤ 1 ∧
    (∀ i f, s.calls i = .returned (.reply f) .ok →
      ⟨f, i, false⟩ ∈ s.accepted ∧ ∀ before e after,
        s.accepted = before ++ e :: after → e.final = true → ⟨f, i, false⟩ ∈ before) := by
  have hs : Ok s := by
    apply h.invariant
    · rintro s ⟨capacity, rfl⟩
      exact ok_new capacity
    · exact fun s l t hstep hs => hs.step hstep
  refine ⟨hs.written_isPrefix, fun i f hcall => ?_, hs.count_final, fun i f hcall => ?_⟩
  · have hwr := (hs.calls i).closedWith f (by rw [hcall]; rfl)
    obtain ⟨before, hacc, -, hall⟩ := hs.closed_with hwr rfl
    exact ⟨before, hacc, hall, fun ls s' hrun => hs.nothing_after hwr rfl hrun⟩
  · have hsent := (hs.calls i).repliedWith f (by rw [hcall]; rfl)
    exact ⟨hsent, fun before e after hsplit hfin => hs.before_final hsent rfl hsplit hfin⟩

/-- A reply and then a last frame through a queue of one. -/
theorem reply_then_close : ∃ s : Channel Nat Nat Unit,
    Reachable (fun s => ∃ capacity, s = new capacity) (Step fun _ => true) s ∧
    s.calls 0 = .returned (.reply 7) .ok ∧ s.calls 1 = .returned (.closeWithProto 9) .ok ∧
    s.written = [⟨7, 0, false⟩, ⟨9, 1, true⟩] := by
  have h₀ : Reachable (fun s : Channel Nat Nat Unit => ∃ capacity, s = new capacity) (Step fun _ => true)
      (new 1) := .init_state ⟨1, rfl⟩
  have h₁ := h₀.next (.replyBegins (i := 0) (f := 7) rfl rfl rfl rfl)
  have h₂ := h₁.next (.replySends (i := 0) rfl (.room (by decide)))
  have h₃ := h₂.next (.replyDone (i := 0) rfl)
  have h₄ := h₃.next (.closeBegins (i := 1) (f := 9) rfl rfl rfl rfl)
  have h₅ := h₄.next (.takes rfl rfl)
  have h₆ := h₅.next (.waits (i := 1) (.repliesDone (f := 9) (by decide)))
  have h₇ := h₆.next (.closeSends (i := 1) rfl (.room (by decide)))
  have h₈ := h₇.next (.writes rfl)
  have h₉ := h₈.next (.takes rfl rfl)
  have h₁₀ := h₉.next (.writes rfl)
  have h₁₁ := h₁₀.next (.reports rfl)
  have h₁₂ := h₁₁.next (.waits (i := 1) (.finalDone (f := 9) rfl))
  exact ⟨_, h₁₂, rfl, rfl, rfl⟩

theorem channel_order_reply_then_close : ∃ s : Channel Nat Nat Unit,
    s.calls 1 = .returned (.closeWithProto 9) .ok ∧
    ∃ before, s.accepted = before ++ [⟨9, 1, true⟩] ∧ s.written = s.accepted ∧ ⟨7, 0, false⟩ ∈ before := by
  obtain ⟨s, hrch, hreply, hclose, -⟩ := reply_then_close
  obtain ⟨-, hcl, -, hrep⟩ := channel_order (fun _ => true) s hrch
  obtain ⟨before, hacc, hwr, -⟩ := hcl 1 9 hclose
  exact ⟨s, hclose, before, hacc, hwr, (hrep 0 7 hreply).2 before _ [] hacc rfl⟩

end Channel

end Yola.Tcp
