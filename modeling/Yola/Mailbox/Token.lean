import Yola.Mailbox.ExactlyOnce

/-!
# One token for a mailbox with work

A mailbox that has been scheduled holds one token, in the channel `ready` or with a worker.  While nobody holds
the lock of the mailbox it is scheduled if it has a job.
-/

namespace Yola.Mailbox

open Reasoning

variable {J : Type} {cfg : GroupConfig} {g : Group cfg.mailboxes J} {es : List (GroupEvent cfg.mailboxes J)}

def Group.drainers {n : Nat} (g : Group n J) (i : Fin n) : Nat :=
  g.workers.countP fun w => (w.drains i).isSome

/-- The flag of a mailbox stands for one place in the channel or one worker, so there is room in the
channel for whoever sends a mailbox.  A job waits without the flag only inside `TryPost`, which has the lock. -/
theorem scheduling_token (hrun : Run (GroupStep cfg) Group.new es g) (i : Fin cfg.mailboxes) :
    ((g.mailboxes i).scheduled = true ↔ g.ready.count i = 1 ∨ g.drainers i = 1) ∧
    g.ready.count i + g.drainers i ≤ 1 ∧
    ((g.mailboxes i).queue ≠ [] → (g.mailboxes i).scheduled = true ∨
      (g.mailboxes i).locked = true ∧ ∃ stage, .holding i stage ∈ g.posters) ∧
    (.holding i .scheduling ∈ g.posters → (g.mailboxes i).scheduled = false →
      g.ready.length < cfg.mailboxes) ∧
    ∀ stage, .draining i stage ∈ g.workers → g.ready.length < cfg.mailboxes := by
  have h := GroupInv.run hrun
  have hsrv : g.ready.count i + g.drainers i = (g.mailboxes i).scheduled.toNat := by
    rw [Group.drainers, ← List.length_filterMap_eq_countP]
    exact (h.mailbox i).served
  have hflag := (g.mailboxes i).scheduled.toNat_le
  refine ⟨?_, by omega, fun hne => ?_, fun _ hidle => h.room_unscheduled hidle, fun stage hmem => ?_⟩
  · rw [← Bool.toNat_eq_one, ← hsrv]
    omega
  · rcases (h.mailbox i).waiting hne with hset | hholds
    · exact .inl hset
    · obtain ⟨stage, hmem⟩ := List.exists_mem_of_ne_nil _ hholds
      obtain ⟨a, b, hsplit⟩ := List.append_of_mem hmem
      exact .inr ⟨((h.mailbox i).holding hsplit).2.2.2, stage, GroupInv.holds_of_mem hmem⟩
  · exact h.room_draining (List.mem_filterMap.mpr ⟨_, hmem, Worker.drains_self⟩)

theorem scheduling_token_sample : ∃ es, ∃ g : Group _ Nat, Run (GroupStep sampleConfig) Group.new es g ∧
    accepted sampleMailbox es = [7] ∧ g.ready.count sampleMailbox + g.drainers sampleMailbox ≤ 1 := by
  obtain ⟨es, es', g, g', hrun, hrun', hacc, -⟩ := sample_group_run
  exact ⟨_, g', hrun.append hrun', hacc, (scheduling_token (hrun.append hrun') sampleMailbox).2.1⟩

-- `TryPost` has appended the job and not looked at the flag yet.
example : ∃ es, ∃ g : Group _ Nat,
    Run (GroupStep sampleConfig) Group.new es g ∧ (g.mailboxes sampleMailbox).queue = [7] ∧
      (g.mailboxes sampleMailbox).scheduled = false :=
  ⟨_, _, .cons (.call (.start rfl rfl rfl)) <| .cons (.call (.tryPost sampleMailbox (some 7))) <|
    .cons (.call (.enter rfl rfl (.intro [] []))) <|
    .cons (.internal (.post (.append rfl (by decide) (.intro [] [])))) <|
    .nil _, rfl, rfl⟩

end Yola.Mailbox
