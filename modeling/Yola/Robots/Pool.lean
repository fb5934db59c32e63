import Yola.Robots.Manager

/-!
# No robot is lost

`Leave` puts a robot back into `free` unless it is there already, and a login batch takes the robots it
has seated out of `free` only when it is over.  So a robot that leaves in between is lost.  When no robot
leaves before that, each robot is free or at a table, whatever else happens.
-/

namespace Yola.Robots

open Function Yola.Reasoning

variable {m n : Nat} {rc : Config} {s s' : State m n} {t : Fin m} {c : Fin n} {p : Robot} {id : Int}
  {pc : Manager m}

/-- The robot that a job is about to give back. -/
def Job.returns : Job → Option Int
  | .idle => none
  | .leaving id | .loaded id _ | .storing id _ => some id

def Job.object : Job → Option Robot
  | .loaded _ p | .storing _ p => some p
  | _ => none

section Chairs

variable {seats : Fin m → Fin n → Option Occupant} {o : Option Occupant} {t' : Fin m} {c' : Fin n}

theorem update_chair_self : update seats t (update (seats t) c o) t c = o := by
  rw [update_self, update_self]

theorem update_chair_of_ne (h : ¬ (t' = t ∧ c' = c)) :
    update seats t (update (seats t) c o) t' c' = seats t' c' := by
  by_cases ht : t' = t
  · rw [ht, update_self, update_of_ne fun hc => h ⟨ht, hc⟩]
  · rw [update_of_ne ht]

end Chairs

section Maps

variable {α : Type} {f : Finmap fun _ : Int => α} {k i : Int} {v w : α}

theorem lookup_insert_some (h : (f.insert k v).lookup i = some w) :
    i = k ∧ w = v ∨ i ≠ k ∧ f.lookup i = some w := by
  by_cases hi : i = k
  · rw [hi, Finmap.lookup_insert] at h
    exact .inl ⟨hi, (Option.some.inj h).symm⟩
  · rw [Finmap.lookup_insert_of_ne _ hi] at h
    exact .inr ⟨hi, h⟩

theorem lookup_erase_some (h : (f.erase k).lookup i = some w) : i ≠ k ∧ f.lookup i = some w := by
  by_cases hi : i = k
  · rw [hi, Finmap.lookup_erase] at h
    cases h
  · exact ⟨hi, (Finmap.lookup_erase_ne hi).symm.trans h⟩

theorem ne_of_lookup (hk : f.lookup k = none) (hi : f.lookup i = some w) : i ≠ k := by
  rintro rfl
  cases hk.symm.trans hi

end Maps

namespace State

structure Ok (s : State m n) : Prop where
  tableID : ∀ t c p, s.seats t c = some (.robot p) → s.tableID p = some t
  chair : ∀ t c c' p, s.seats t c = some (.robot p) → s.seats t c' = some (.robot p) → c = c'
  seated : ∀ t p, s.tableID p = some t → s.Seated p
  known : ∀ t p, s.tableID p = some t → s.all.lookup p.id = some p
  all : ∀ id p, s.all.lookup id = some p → p.id = id ∧
    (s.free.lookup id = some p ∨ s.tableID p ≠ none ∨ ∃ t, (s.jobs t).returns = some id)
  free : ∀ id p, s.free.lookup id = some p → p.id = id ∧ (s.tableID p = none ∨ id ∈ s.manager.entered) ∧
    (s.all.lookup id = some p ∨ s.manager.deleted = some id)
  returns : ∀ t id, (s.jobs t).returns = some id → s.free.lookup id = none ∧
    ∃ p, s.all.lookup id = some p ∧ s.tableID p = none ∧ ∀ q, (s.jobs t).object = some q → q = p
  returnsOnce : ∀ t t' id, (s.jobs t).returns = some id → (s.jobs t').returns = some id → t = t'
  players : ∀ p ∈ s.manager.players, s.free.lookup p.id = some p ∧ s.tableID p = none
  nodup : s.manager.players.Nodup
  visited : ∀ visited players, s.manager = .choosing visited players → ∀ p ∈ players, p.id ∈ visited
  entered : ∀ id ∈ s.manager.entered, ∃ p, s.all.lookup id = some p ∧ s.tableID p ≠ none
  deleted : ∀ id, s.manager.deleted = some id → s.all.lookup id = none

theorem ok_new (m n : Nat) : (State.new m n).Ok where
  tableID := nofun
  chair := nofun
  seated := nofun
  known := nofun
  all id _ h := nomatch (Finmap.lookup_empty id).symm.trans h
  free id _ h := nomatch (Finmap.lookup_empty id).symm.trans h
  returns := nofun
  returnsOnce := nofun
  players := nofun
  nodup := .nil
  visited := nofun
  entered := nofun
  deleted := nofun

namespace Ok

variable (h : s.Ok)

include h

theorem kept (hquiet : s.Quiet) : s.Kept := by
  obtain ⟨hbatch, hidle⟩ := hquiet
  have hent : s.manager.entered = [] := by
    revert hbatch
    cases s.manager with
    | waiting | loading | releasing | deleting => exact fun _ => rfl
    | _ => exact nofun
  refine ⟨fun id p hp => ?_, fun id p hp hseated => ?_⟩
  · rcases (h.all id p hp).2 with hfree | htab | ⟨t, hret⟩
    · exact .inl hfree
    · obtain ⟨t, ht⟩ := Option.ne_none_iff_exists'.mp htab
      exact .inr (h.seated t p ht)
    · rw [hidle t] at hret
      cases hret
  · obtain ⟨t, c, hchair⟩ := hseated
    rcases (h.free id p hp).2.1 with hnone | hmem
    · rw [h.tableID t c p hchair] at hnone
      cases hnone
    · rw [hent] at hmem
      cases hmem

theorem goesOn {old : Manager m} (hat : s.manager = old)
    (hpls : ∀ p ∈ pc.players, p ∈ old.players) (hnd : old.players.Nodup → pc.players.Nodup)
    (hent : pc.entered = old.entered) (hdel : pc.deleted = old.deleted)
    (hvis : ∀ visited players, pc = .choosing visited players → ∀ p ∈ players, p.id ∈ visited) :
    Ok { s with manager := pc } := by
  subst hat
  refine { h with
    free := ?_, players := fun p hp => h.players p (hpls p hp), nodup := hnd h.nodup
    visited := hvis, entered := ?_, deleted := ?_ }
  · dsimp only
    rw [hent, hdel]
    exact h.free
  · dsimp only
    rw [hent]
    exact h.entered
  · dsimp only
    rw [hdel]
    exact h.deleted

theorem tableID_of_absent (habs : s.all.lookup p.id = none) : s.tableID p = none := by
  by_contra htab
  obtain ⟨t, ht⟩ := Option.ne_none_iff_exists'.mp htab
  rw [h.known t p ht] at habs
  cases habs

theorem loads {idEnd toLoad : Int} (hat : s.manager = .loading id idEnd toLoad)
    (habs : s.all.lookup id = none) (p : Robot) (hp : p.id = id) (created : Nat) (toLoad' : Int) :
    Ok { s with
      all := s.all.insert id p
      free := s.free.insert id p
      tableID := update s.tableID p none
      created := created
      manager := .loading (id + 1) idEnd toLoad' } := by
  have hnone : s.tableID p = none := h.tableID_of_absent (by rw [hp]; exact habs)
  have htab : update s.tableID p none = s.tableID := by
    rw [← hnone]
    exact update_eq_self p s.tableID
  rw [htab]
  have hne {id' : Int} {q : Robot} (hq : s.all.lookup id' = some q) : id' ≠ id :=
    ne_of_lookup habs hq
  refine ⟨h.tableID, h.chair, h.seated, ?_, ?_, ?_, ?_, h.returnsOnce, nofun, .nil, nofun, nofun, nofun⟩
  · intro t q hq
    have hold := h.known t q hq
    exact (Finmap.lookup_insert_of_ne _ (hne hold)).trans hold
  · intro id' q hq
    obtain ⟨rfl, rfl⟩ | ⟨hid, hold⟩ := lookup_insert_some hq
    · exact ⟨hp, .inl (Finmap.lookup_insert _)⟩
    · dsimp only
      rw [Finmap.lookup_insert_of_ne _ hid]
      exact h.all id' q hold
  · intro id' q hq
    obtain ⟨rfl, rfl⟩ | ⟨hid, hold⟩ := lookup_insert_some hq
    · exact ⟨hp, .inl hnone, .inl (Finmap.lookup_insert _)⟩
    · have hfree := h.free id' q hold
      rw [hat] at hfree
      dsimp only
      rw [Finmap.lookup_insert_of_ne _ hid]
      exact hfree
  · intro t id' hret
    obtain ⟨hfree, q, hq, hrest⟩ := h.returns t id' hret
    dsimp only
    rw [Finmap.lookup_insert_of_ne _ (hne hq), Finmap.lookup_insert_of_ne _ (hne hq)]
    exact ⟨hfree, q, hq, hrest⟩

theorem releases {visited : Finset Int} {toRelease : Int}
    (hat : s.manager = .releasing visited toRelease) (hfound : s.free.lookup id = some p)
    (hdet : s.tableID p = none) :
    Ok { s with all := s.all.erase id, manager := .deleting id visited toRelease } := by
  have hall : s.all.lookup id = some p := by
    rcases (h.free id p hfound).2.2 with hall | hdel
    · exact hall
    · rw [hat] at hdel
      cases hdel
  refine ⟨h.tableID, h.chair, h.seated, ?_, ?_, ?_, ?_, h.returnsOnce, nofun, .nil, nofun, nofun, ?_⟩
  · intro t q hq
    have hold := h.known t q hq
    have hid : q.id ≠ id := by
      intro hid
      rw [hid, hall] at hold
      cases hold
      rw [hdet] at hq
      cases hq
    exact (Finmap.lookup_erase_ne hid).trans hold
  · exact fun id' q hq => h.all id' q (lookup_erase_some hq).2
  · intro id' q hq
    have hold := h.free id' q hq
    rw [hat] at hold
    refine ⟨hold.1, hold.2.1, ?_⟩
    dsimp only
    by_cases hid : id' = id
    · right
      rw [hid]
      rfl
    · left
      rw [Finmap.lookup_erase_ne hid]
      exact hold.2.2.resolve_right nofun
  · intro t id' hret
    obtain ⟨hfree, q, hq, hrest⟩ := h.returns t id' hret
    exact ⟨hfree, q, (Finmap.lookup_erase_ne (ne_of_lookup hfree hfound).symm).trans hq, hrest⟩
  · intro id' hid'
    cases hid'
    exact Finmap.lookup_erase id s.all

/-- A robot is taken out of `free` that is at a table, or is to be dropped altogether. -/
theorem frees (hpls : pc.players = []) (hgone : ∀ p, s.all.lookup id = some p → s.tableID p ≠ none)
    (hent : ∀ id', id' ∈ s.manager.entered → id' = id ∨ id' ∈ pc.entered)
    (hent' : ∀ id' ∈ pc.entered, id' ∈ s.manager.entered)
    (hdeleted : ∀ id', s.manager.deleted = some id' → id' = id) (hdel' : pc.deleted = none) :
    Ok { s with free := s.free.erase id, manager := pc } := by
  refine ⟨h.tableID, h.chair, h.seated, h.known, ?_, ?_, ?_, h.returnsOnce, ?_, ?_, ?_, ?_, ?_⟩
  · intro id' q hq
    obtain ⟨hid', hwhere⟩ := h.all id' q hq
    refine ⟨hid', ?_⟩
    dsimp only
    by_cases hid : id' = id
    · rw [hid] at hq
      exact .inr (.inl (hgone q hq))
    · rw [Finmap.lookup_erase_ne hid]
      exact hwhere
  · intro id' q hq
    obtain ⟨hid, hold⟩ := lookup_erase_some hq
    obtain ⟨hid', htab, hall⟩ := h.free id' q hold
    refine ⟨hid', htab.imp_right fun hmem => (hent id' hmem).resolve_left hid, .inl ?_⟩
    exact hall.resolve_right fun hdel => hid (hdeleted id' hdel)
  · intro t id' hret
    obtain ⟨hfree, hrest⟩ := h.returns t id' hret
    refine ⟨?_, hrest⟩
    dsimp only
    by_cases hid : id' = id
    · rw [hid]
      exact Finmap.lookup_erase id s.free
    · rw [Finmap.lookup_erase_ne hid]
      exact hfree
  · dsimp only
    rw [hpls]
    exact nofun
  · dsimp only
    rw [hpls]
    exact .nil
  · intro visited players hpc
    dsimp only at hpc
    rw [hpc] at hpls
    change players = [] at hpls
    rw [hpls]
    exact nofun
  · exact fun id' hid' => h.entered id' (hent' id' hid')
  · intro id' hid'
    dsimp only at hid'
    rw [hdel'] at hid'
    cases hid'

theorem chooses {visited : Finset Int} {players : List Robot}
    (hat : s.manager = .choosing visited players) (hvisit : id ∉ visited)
    (hfound : s.free.lookup id = some p) (hdet : s.tableID p = none) :
    Ok { s with manager := .choosing (insert id visited) (players ++ [p]) } := by
  have hid := (h.free id p hfound).1
  have hvis := h.visited visited players hat
  have hpls := h.players
  have hnd := h.nodup
  have hfree := h.free
  rw [hat] at hpls hnd hfree
  refine ⟨h.tableID, h.chair, h.seated, h.known, h.all, hfree, h.returns, h.returnsOnce, ?_, ?_, ?_, nofun,
    nofun⟩
  · intro q hq
    rcases List.mem_append.mp hq with hq | hq
    · exact hpls q hq
    · rw [List.mem_singleton.mp hq, hid]
      exact ⟨hfound, hdet⟩
  · refine List.nodup_append.mpr ⟨hnd, List.nodup_singleton p, ?_⟩
    intro q hq q' hq' heq
    rw [List.mem_singleton.mp hq'] at heq
    rw [heq] at hq
    exact hvisit (hid ▸ hvis p hq)
  · intro visited' players' hpc q hq
    cases hpc
    rcases List.mem_append.mp hq with hq | hq
    · exact Finset.mem_insert_of_mem (hvis q hq)
    · rw [List.mem_singleton.mp hq, hid]
      exact Finset.mem_insert_self id visited

theorem sits {ps : List Robot} {entered : List Int}
    (hat : s.manager = .calling p ps t entered) (hchair : s.seats t c = none) :
    Ok { s.sit t c p with manager := joined p ps t entered } := by
  have hpls := h.players
  have hnd := h.nodup
  have hfree := h.free
  have hent := h.entered
  rw [hat] at hpls hnd hfree hent
  obtain ⟨hfound, hdet⟩ := hpls p List.mem_cons_self
  have hall : s.all.lookup p.id = some p := (hfree p.id p hfound).2.2.resolve_right nofun
  have htab {q : Robot} (hq : q ≠ p) : (s.sit t c p).tableID q = s.tableID q :=
    update_of_ne hq ..
  have htable_p : (s.sit t c p).tableID p = some t := update_self ..
  have hseat {t' : Fin m} {c' : Fin n} (hne : ¬ (t' = t ∧ c' = c)) :
      (s.sit t c p).seats t' c' = s.seats t' c' := update_chair_of_ne hne
  have hseat_p : (s.sit t c p).seats t c = some (.robot p) := update_chair_self
  -- whoever else sits has sat there before
  have hoth {t' : Fin m} {c' : Fin n} {q : Robot} (hq : (s.sit t c p).seats t' c' = some (.robot q)) :
      (t' = t ∧ c' = c ∧ q = p) ∨ (s.seats t' c' = some (.robot q) ∧ q ≠ p) := by
    by_cases hne : t' = t ∧ c' = c
    · obtain ⟨rfl, rfl⟩ := hne
      rw [hseat_p] at hq
      cases hq
      exact .inl ⟨rfl, rfl, rfl⟩
    · rw [hseat hne] at hq
      refine .inr ⟨hq, ?_⟩
      rintro rfl
      rw [h.tableID t' c' q hq] at hdet
      cases hdet
  have hpc : (joined p ps t entered).entered = entered ++ [p.id] := by
    unfold joined
    split <;> rfl
  refine ⟨?_, ?_, ?_, ?_, ?_, ?_, ?_, h.returnsOnce, ?_, ?_, ?_, ?_, ?_⟩
  · intro t' c' q hq
    rcases hoth hq with ⟨rfl, -, rfl⟩ | ⟨hold, hne⟩
    · exact htable_p
    · exact (htab hne).trans (h.tableID t' c' q hold)
  · intro t' c₁ c₂ q hq₁ hq₂
    rcases hoth hq₁ with ⟨rfl, rfl, rfl⟩ | ⟨hold₁, hne⟩
    · rcases hoth hq₂ with ⟨-, hc, -⟩ | ⟨-, hne⟩
      · exact hc.symm
      · exact absurd rfl hne
    · rcases hoth hq₂ with ⟨-, -, hp⟩ | ⟨hold₂, -⟩
      · exact absurd hp hne
      · exact h.chair t' c₁ c₂ q hold₁ hold₂
  · intro t' q hq
    by_cases hne : q = p
    · rw [hne]
      exact ⟨t, c, hseat_p⟩
    · obtain ⟨t₁, c₁, hold⟩ := h.seated t' q ((htab hne).symm.trans hq)
      refine ⟨t₁, c₁, (hseat ?_).trans hold⟩
      rintro ⟨rfl, rfl⟩
      rw [hchair] at hold
      cases hold
  · intro t' q hq
    by_cases hne : q = p
    · rw [hne]
      exact hall
    · exact h.known t' q ((htab hne).symm.trans hq)
  · intro id q hq
    obtain ⟨hid, hwhere⟩ := h.all id q hq
    refine ⟨hid, hwhere.imp_right fun hwhere => hwhere.imp_left fun hseated => ?_⟩
    by_cases hne : q = p
    · rw [hne]
      exact htable_p ▸ nofun
    · exact (htab hne).symm ▸ hseated
  · intro id q hq
    obtain ⟨hid, hwhere, hknown⟩ := hfree id q hq
    refine ⟨hid, ?_, .inl (hknown.resolve_right nofun)⟩
    dsimp only
    rw [hpc]
    by_cases hne : q = p
    · right
      rw [← hid, hne]
      exact List.mem_append_right _ List.mem_cons_self
    · rw [htab hne]
      exact hwhere.imp_right fun hmem => List.mem_append_left _ hmem
  · intro t' id hret
    obtain ⟨hnone, q, hq, hdet', hobj⟩ := h.returns t' id hret
    refine ⟨hnone, q, hq, ?_, hobj⟩
    have hne : q ≠ p := by
      rintro rfl
      have hnone' : s.free.lookup id = none := hnone
      rw [← (h.all id q hq).1, hfound] at hnone'
      cases hnone'
    exact (htab hne).trans hdet'
  · intro q hq
    have hmem : q ∈ ps := by
      revert hq
      unfold joined
      split
      · exact nofun
      · exact id
    obtain ⟨hq', hdet'⟩ := hpls q (List.mem_cons_of_mem p hmem)
    have hne : q ≠ p := by
      rintro rfl
      exact (List.nodup_cons.mp hnd).1 hmem
    exact ⟨hq', (htab hne).trans hdet'⟩
  · dsimp only
    unfold joined
    split
    · exact .nil
    · exact (List.nodup_cons.mp hnd).2
  · intro visited players hchoo
    dsimp only at hchoo
    unfold joined at hchoo
    split at hchoo <;> cases hchoo
  · intro id hid
    dsimp only at hid
    rw [hpc] at hid
    rcases List.mem_append.mp hid with hmem | hmem
    · obtain ⟨q, hq, hseated⟩ := hent id hmem
      refine ⟨q, hq, ?_⟩
      by_cases hne : q = p
      · rw [hne]
        exact htable_p ▸ nofun
      · exact (htab hne).symm ▸ hseated
    · rw [List.mem_singleton.mp hmem]
      exact ⟨p, hall, htable_p ▸ nofun⟩
  · intro id hid
    dsimp only at hid
    unfold joined at hid
    split at hid <;> cases hid

theorem leaves (hidle : s.jobs t = .idle) (hchair : s.seats t c = some (.robot p))
    (hdone : p.id ∉ s.manager.entered) : Ok ((s.removePlayer t c p).setJob t (.leaving p.id)) := by
  let s₁ := (s.removePlayer t c p).setJob t (.leaving p.id)
  change Ok s₁
  have htable_p := h.tableID t c p hchair
  have hall := h.known t p htable_p
  have htab {q : Robot} (hq : q ≠ p) : s₁.tableID q = s.tableID q := update_of_ne hq ..
  have hgone : s₁.tableID p = none := update_self ..
  have hdet {q : Robot} (hq : s.tableID q = none) : s₁.tableID q = none := by
    by_cases hne : q = p
    · rw [hne]
      exact hgone
    · exact (htab hne).trans hq
  have hjob {t' : Fin m} (ht : t' ≠ t) : s₁.jobs t' = s.jobs t' := update_of_ne ht ..
  have hjob_t : s₁.jobs t = .leaving p.id := update_self ..
  have hseat {t' : Fin m} {c' : Fin n} (hne : ¬ (t' = t ∧ c' = c)) :
      s₁.seats t' c' = s.seats t' c' := update_chair_of_ne hne
  have hoth {t' : Fin m} {c' : Fin n} {q : Robot} (hq : s₁.seats t' c' = some (.robot q)) :
      s.seats t' c' = some (.robot q) ∧ q ≠ p := by
    by_cases hne : t' = t ∧ c' = c
    · obtain ⟨rfl, rfl⟩ := hne
      cases update_chair_self.symm.trans hq
    · rw [hseat hne] at hq
      refine ⟨hq, ?_⟩
      rintro rfl
      have ht : t' = t := Option.some.inj ((h.tableID t' c' q hq).symm.trans htable_p)
      rw [ht] at hq
      exact hne ⟨ht, h.chair t c' c q hq hchair⟩
  have hfree_p : s.free.lookup p.id = none := by
    by_contra hsome
    obtain ⟨q, hq⟩ := Option.ne_none_iff_exists'.mp hsome
    obtain ⟨-, hwhere, hknown⟩ := h.free p.id q hq
    have hqp : q = p := by
      rcases hknown with hknown | hdel
      · exact Option.some.inj (hknown.symm.trans hall)
      · rw [h.deleted p.id hdel] at hall
        cases hall
    rw [hqp, htable_p] at hwhere
    exact hdone (hwhere.resolve_left nofun)
  refine ⟨?_, ?_, ?_, ?_, ?_, ?_, ?_, ?_, ?_, h.nodup, h.visited, ?_, h.deleted⟩
  · intro t' c' q hq
    obtain ⟨hold, hne⟩ := hoth hq
    exact (htab hne).trans (h.tableID t' c' q hold)
  · exact fun t' c₁ c₂ q hq₁ hq₂ => h.chair t' c₁ c₂ q (hoth hq₁).1 (hoth hq₂).1
  · intro t' q hq
    have hne : q ≠ p := by
      rintro rfl
      rw [hgone] at hq
      cases hq
    obtain ⟨t₁, c₁, hold⟩ := h.seated t' q ((htab hne).symm.trans hq)
    refine ⟨t₁, c₁, (hseat ?_).trans hold⟩
    rintro ⟨rfl, rfl⟩
    rw [hchair] at hold
    cases hold
    exact hne rfl
  · intro t' q hq
    have hne : q ≠ p := by
      rintro rfl
      rw [hgone] at hq
      cases hq
    exact h.known t' q ((htab hne).symm.trans hq)
  · intro id q hq
    obtain ⟨hid, hwhere⟩ := h.all id q hq
    refine ⟨hid, ?_⟩
    by_cases hne : q = p
    · refine .inr (.inr ⟨t, ?_⟩)
      rw [hjob_t, ← hid, hne]
      rfl
    · rw [htab hne]
      rcases hwhere with hfree | hseated | ⟨t', hret⟩
      · exact .inl hfree
      · exact .inr (.inl hseated)
      · refine .inr (.inr ⟨t', ?_⟩)
        have ht : t' ≠ t := by
          rintro rfl
          rw [hidle] at hret
          cases hret
        rw [hjob ht]
        exact hret
  · intro id q hq
    obtain ⟨hid, hwhere, hknown⟩ := h.free id q hq
    exact ⟨hid, hwhere.imp_left hdet, hknown⟩
  · intro t' id hret
    by_cases ht : t' = t
    · rw [ht, hjob_t] at hret ⊢
      cases hret
      exact ⟨hfree_p, p, hall, hgone, nofun⟩
    · rw [hjob ht] at hret ⊢
      obtain ⟨hnone, q, hq, hq', hobj⟩ := h.returns t' id hret
      exact ⟨hnone, q, hq, hdet hq', hobj⟩
  · -- nobody else is giving back a robot that was at a table
    have hnew (t' : Fin m) (ht : t' ≠ t) : (s.jobs t').returns ≠ some p.id := by
      intro hret
      obtain ⟨-, q, hq, hq', -⟩ := h.returns t' p.id hret
      rw [hall] at hq
      cases hq
      rw [htable_p] at hq'
      cases hq'
    intro t₁ t₂ id h₁ h₂
    by_cases ht₁ : t₁ = t
    · by_cases ht₂ : t₂ = t
      · rw [ht₁, ht₂]
      · rw [ht₁, hjob_t] at h₁
        rw [hjob ht₂] at h₂
        cases h₁
        exact absurd h₂ (hnew t₂ ht₂)
    · rw [hjob ht₁] at h₁
      by_cases ht₂ : t₂ = t
      · rw [ht₂, hjob_t] at h₂
        cases h₂
        exact absurd h₁ (hnew t₁ ht₁)
      · rw [hjob ht₂] at h₂
        exact h.returnsOnce t₁ t₂ id h₁ h₂
  · intro q hq
    obtain ⟨hfree, hq'⟩ := h.players q hq
    exact ⟨hfree, hdet hq'⟩
  · intro id hid
    obtain ⟨q, hq, hseated⟩ := h.entered id hid
    have hne : q ≠ p := by
      rintro rfl
      exact hdone ((h.all id q hq).1 ▸ hid)
    exact ⟨q, hq, (htab hne).symm ▸ hseated⟩

theorem leaveGoesOn {job : Job} (hret : job.returns = (s.jobs t).returns)
    (hobj : ∀ q, job.object = some q → (s.jobs t).object = some q ∨ s.all.lookup q.id = some q)
    (hid : ∀ q id, job.object = some q → job.returns = some id → q.id = id) : Ok (s.setJob t job) := by
  have hjob_t : (s.setJob t job).jobs t = job := update_self ..
  have hjob {t' : Fin m} (ht : t' ≠ t) : (s.setJob t job).jobs t' = s.jobs t' :=
    update_of_ne ht ..
  have hsame (t' : Fin m) : ((s.setJob t job).jobs t').returns = (s.jobs t').returns := by
    by_cases ht : t' = t
    · rw [ht, hjob_t]
      exact hret
    · rw [hjob ht]
  refine ⟨h.tableID, h.chair, h.seated, h.known, ?_, h.free, ?_, ?_, h.players, h.nodup, h.visited, h.entered,
    h.deleted⟩
  · intro id q hq
    obtain ⟨hid', hwhere⟩ := h.all id q hq
    refine ⟨hid', hwhere.imp_right fun hwhere => hwhere.imp_right ?_⟩
    rintro ⟨t', ht'⟩
    exact ⟨t', (hsame t').trans ht'⟩
  · intro t' id ht'
    have hold := (hsame t').symm.trans ht'
    obtain ⟨hnone, p, hp, hdet, hobj'⟩ := h.returns t' id hold
    refine ⟨hnone, p, hp, hdet, fun q hq => ?_⟩
    by_cases ht : t' = t
    · rw [ht, hjob_t] at hq ht'
      rw [ht] at hobj'
      rcases hobj q hq with hsame' | hknown
      · exact hobj' q hsame'
      · rw [hid q id hq ht'] at hknown
        exact Option.some.inj (hknown.symm.trans hp)
    · rw [hjob ht] at hq
      exact hobj' q hq
  · intro t₁ t₂ id h₁ h₂
    exact h.returnsOnce t₁ t₂ id ((hsame t₁).symm.trans h₁) ((hsame t₂).symm.trans h₂)

theorem leaveStores (hat : s.jobs t = .storing id p) : Ok { s.setJob t .idle with free := s.free.insert id p } := by
  have hret : (s.jobs t).returns = some id := by
    rw [hat]
    rfl
  obtain ⟨hnone, q, hq, hdet, hobj⟩ := h.returns t id hret
  have hpq : p = q := hobj p (by rw [hat]; rfl)
  rw [← hpq] at hq hdet
  have hid := (h.all id p hq).1
  have hjob_t : (s.setJob t .idle).jobs t = .idle := update_self ..
  have hjob {t' : Fin m} (ht : t' ≠ t) : (s.setJob t .idle).jobs t' = s.jobs t' :=
    update_of_ne ht ..
  have hback {t' : Fin m} {id' : Int} (ht' : ((s.setJob t .idle).jobs t').returns = some id') :
      t' ≠ t ∧ (s.jobs t').returns = some id' := by
    have ht : t' ≠ t := by
      rintro rfl
      rw [hjob_t] at ht'
      cases ht'
    rw [hjob ht] at ht'
    exact ⟨ht, ht'⟩
  refine ⟨h.tableID, h.chair, h.seated, h.known, ?_, ?_, ?_, ?_, ?_, h.nodup, h.visited, h.entered, h.deleted⟩
  · intro id' r hr
    obtain ⟨hid', hwhere⟩ := h.all id' r hr
    refine ⟨hid', ?_⟩
    dsimp only
    by_cases hne : id' = id
    · rw [hne] at hr ⊢
      have hr' : s.all.lookup id = some r := hr
      rw [Finmap.lookup_insert, ← hr', hq]
      exact .inl rfl
    · rw [Finmap.lookup_insert_of_ne _ hne]
      refine hwhere.imp_right fun hwhere => hwhere.imp_right ?_
      rintro ⟨t', ht'⟩
      have ht : t' ≠ t := by
        rintro rfl
        exact hne (Option.some.inj (ht'.symm.trans hret))
      exact ⟨t', by rw [hjob ht]; exact ht'⟩
  · intro id' r hr
    obtain ⟨rfl, rfl⟩ | ⟨-, hold⟩ := lookup_insert_some hr
    · exact ⟨hid, .inl hdet, .inl hq⟩
    · exact h.free id' r hold
  · intro t' id' ht'
    obtain ⟨ht, hold⟩ := hback ht'
    obtain ⟨hnone', r, hr, hdet', hobj'⟩ := h.returns t' id' hold
    have hne : id' ≠ id := by
      rintro rfl
      exact ht (h.returnsOnce t' t id' hold hret)
    dsimp only
    rw [Finmap.lookup_insert_of_ne _ hne, hjob ht]
    exact ⟨hnone', r, hr, hdet', hobj'⟩
  · intro t₁ t₂ id' h₁ h₂
    exact h.returnsOnce t₁ t₂ id' (hback h₁).2 (hback h₂).2
  · intro r hr
    obtain ⟨hfree, hdet'⟩ := h.players r hr
    exact ⟨(Finmap.lookup_insert_of_ne _ (ne_of_lookup hnone hfree)).trans hfree, hdet'⟩

theorem user {o : Option Occupant} (hold : ∀ p, s.seats t c ≠ some (.robot p))
    (hnew : ∀ p, o ≠ some (.robot p)) : Ok { s with seats := update s.seats t (update (s.seats t) c o) } := by
  have hsame (t' : Fin m) (c' : Fin n) (q : Robot) :
      update s.seats t (update (s.seats t) c o) t' c' = some (.robot q) ↔
        s.seats t' c' = some (.robot q) := by
    by_cases hne : t' = t ∧ c' = c
    · obtain ⟨rfl, rfl⟩ := hne
      rw [update_chair_self]
      exact iff_of_false (hnew q) (hold q)
    · rw [update_chair_of_ne hne]
  refine ⟨?_, ?_, ?_, h.known, h.all, h.free, h.returns, h.returnsOnce, h.players, h.nodup, h.visited,
    h.entered, h.deleted⟩
  · exact fun t' c' q hq => h.tableID t' c' q ((hsame t' c' q).mp hq)
  · exact fun t' c₁ c₂ q hq₁ hq₂ => h.chair t' c₁ c₂ q ((hsame t' c₁ q).mp hq₁) ((hsame t' c₂ q).mp hq₂)
  · intro t' q hq
    obtain ⟨t₁, c₁, hq₁⟩ := h.seated t' q hq
    exact ⟨t₁, c₁, (hsame t₁ c₁ q).mpr hq₁⟩

theorem load (hstep : LoadStep rc s s') : s'.Ok := by
  cases hstep with
  | begins at_ | skips at_ | ends at_ => exact h.goesOn at_ nofun (fun _ => .nil) rfl rfl nofun
  | stores at_ _ _ absent => exact h.loads at_ absent _ rfl _ _

theorem release (hstep : ReleaseStep rc s s') : s'.Ok := by
  cases hstep with
  | begins at_ | skips at_ | ends at_ => exact h.goesOn at_ nofun (fun _ => .nil) rfl rfl nofun
  | deletes at_ _ _ found detached => exact h.releases at_ found detached
  | @frees id _ _ at_ =>
    have hgone := h.deleted id (by rw [at_]; rfl)
    refine h.frees rfl (fun p hp => ?_) ?_ nofun ?_ rfl
    · rw [hgone] at hp
      cases hp
    · rw [at_]
      exact nofun
    · rw [at_]
      intro id' hid'
      cases hid'
      rfl

theorem login (hstep : LoginStep rc s s') : s'.Ok := by
  cases hstep with
  | begins waits =>
    refine h.goesOn waits nofun (fun _ => .nil) rfl rfl ?_
    intro visited players hpc
    cases hpc
    exact nofun
  | @passes id p visited players at_ visit found =>
    refine h.goesOn at_ (fun _ h => h) (fun h => h) rfl rfl ?_
    intro visited' players' hpc q hq
    cases hpc
    exact Finset.mem_insert_of_mem (h.visited visited players at_ q hq)
  | chooses at_ visit found detached => exact h.chooses at_ visit found detached
  | enters at_ =>
    exact h.goesOn at_ (fun _ h => h) id rfl rfl nofun
  | @deletes uid uids at_ =>
    have hentered := h.entered
    rw [at_] at hentered
    refine h.frees rfl (fun p hp => ?_) ?_ ?_ ?_ rfl
    · obtain ⟨q, hq, hseated⟩ := hentered uid List.mem_cons_self
      rw [hp] at hq
      cases hq
      exact hseated
    · rw [at_]
      exact fun id' hid' => List.mem_cons.mp hid'
    · rw [at_]
      exact fun id' hid' => List.mem_cons_of_mem uid hid'
    · rw [at_]
      exact nofun
  | ends at_ => exact h.goesOn at_ nofun (fun _ => .nil) rfl rfl nofun

theorem enter (hstep : EnterStep s s') : s'.Ok := by
  have hpls := h.players
  cases hstep with
  | @skips p ps i entered at_ seated =>
    exact h.goesOn at_ (fun q hq => List.mem_cons_of_mem p hq) (fun hnd => (List.nodup_cons.mp hnd).2)
      rfl rfl nofun
  | tries at_ | calls at_ | refuses at_ => exact h.goesOn at_ (fun _ h => h) id rfl rfl nofun
  | ends at_ | breaks at_ | fails at_ => exact h.goesOn at_ nofun (fun _ => .nil) rfl rfl nofun
  | already at_ idle seated =>
    -- a player of the batch sits nowhere before the batch seats it
    rw [at_] at hpls
    exact absurd (hpls _ List.mem_cons_self).2 seated
  | seats at_ idle detached chair => exact h.sits at_ chair

theorem leave (hstep : LeaveStep s t s') : s'.Ok := by
  cases hstep with
  | @unknown id at_ absent =>
    obtain ⟨-, p, hp, -⟩ := h.returns t id (by rw [at_]; rfl)
    rw [absent] at hp
    cases hp
  | @loads id p at_ found =>
    have hid := (h.all id p found).1
    refine h.leaveGoesOn (by rw [at_]; rfl) (fun q hq => ?_) fun q id' hq hid' => ?_
    · cases hq
      rw [hid]
      exact .inr found
    · cases hq
      cases hid'
      exact hid
  | @alreadyFree id p q at_ found =>
    have hnone := (h.returns t id (by rw [at_]; rfl)).1
    rw [found] at hnone
    cases hnone
  | @resets id p at_ absent =>
    obtain ⟨-, q, hq, -, hobj⟩ := h.returns t id (by rw [at_]; rfl)
    have hpq : p = q := hobj p (by rw [at_]; rfl)
    refine h.leaveGoesOn (by rw [at_]; rfl) (fun r hr => ?_) fun r id' hr hid' => ?_
    · left
      rw [at_]
      exact hr
    · cases hr
      cases hid'
      rw [hpq]
      exact (h.all id q hq).1
  | stores at_ => exact h.leaveStores at_

end Ok

/-- No robot leaves its table while the login batch that has seated it still runs. -/
def Patient (s : State m n) (e : Event) : Prop := ∀ p, e = .leaves p → p.id ∉ s.manager.entered

def PatientStep (rc : Config) (s : State m n) (e : Event) (s' : State m n) : Prop :=
  Step rc s e s' ∧ s.Patient e

theorem Ok.step {e : Event} (h : s.Ok) (hstep : PatientStep rc s e s') : s'.Ok := by
  obtain ⟨hstep, hpatient⟩ := hstep
  cases hstep with
  | load hload => exact h.load hload
  | release hrelease => exact h.release hrelease
  | login hlogin => exact h.login hlogin
  | enter hent => exact h.enter hent
  | leaves idle chair => exact h.leaves idle chair (hpatient _ rfl)
  | leave hleave => exact h.leave hleave
  | user huser =>
    cases huser with
    | sits idle chair | leaves idle chair => exact h.user (by rw [chair]; exact nofun) nofun

/-- When no robot leaves before the login batch that seated it is over, no robot is lost. -/
theorem robots_kept_while_patient (rc : Config) (m n : Nat) (s : State m n)
    (h : Reachable (· = State.new m n) (PatientStep rc) s) (hquiet : s.Quiet) : s.Kept := by
  apply Ok.kept _ hquiet
  apply h.invariant
  · rintro s rfl
    exact ok_new m n
  · exact fun s e s' hstep hs => hs.step hstep

def oneRobot : Config := ⟨true, 1, 7⟩

/-- The robot has been loaded and seated by a login batch that is not yet over. -/
theorem one_robot_seated : ∃ s : State 1 1, Reachable (· = State.new 1 1) (PatientStep oneRobot) s ∧
    s.manager = .returned [7] ∧ s.jobs 0 = .idle ∧ s.seats 0 0 = some (.robot ⟨7, 0⟩) ∧
    s.all.lookup 7 = some ⟨7, 0⟩ ∧ s.free.lookup 7 = some ⟨7, 0⟩ := by
  have h₀ : Reachable (· = State.new 1 1) (PatientStep oneRobot) (State.new 1 1) := .init_state rfl
  have h₁ := h₀.next ⟨.load (.begins rfl rfl (by decide) (by decide)), nofun⟩
  have h₂ := h₁.next ⟨.load (.stores rfl (by decide) (by decide) (by decide)), nofun⟩
  have h₃ := h₂.next ⟨.load (.ends rfl (by decide)), nofun⟩
  have h₄ := h₃.next ⟨.login (.begins rfl rfl), nofun⟩
  have h₅ := h₄.next ⟨.login (.chooses (k := 7) (p := ⟨7, 0⟩) rfl (by decide) (by decide) (by decide)), nofun⟩
  have h₆ := h₅.next ⟨.login (.enters rfl), nofun⟩
  have h₇ := h₆.next ⟨.enter (.tries rfl (by decide)), nofun⟩
  have h₈ := h₇.next ⟨.enter (.calls (t := 0) rfl), nofun⟩
  have h₉ := h₈.next ⟨.enter (.seats (c := 0) rfl rfl (by decide) rfl), nofun⟩
  exact ⟨_, h₉, rfl, rfl, rfl, by decide, by decide⟩

/-- It leaves when the batch is over, and is free again. -/
theorem robots_kept_while_patient_one : ∃ s : State 1 1, s.Kept ∧ s.free.lookup 7 = some ⟨7, 0⟩ := by
  obtain ⟨s, h₀, hmanager, hjob, hseat, hall, hfree⟩ := one_robot_seated
  have h₁ := h₀.next ⟨.login (.deletes hmanager), nofun⟩
  have h₂ := h₁.next ⟨.login (.ends rfl), nofun⟩
  have h₃ := h₂.next ⟨.leaves hjob hseat, by intro p _; exact nofun⟩
  have h₄ := h₃.next ⟨.leave (.loads (t := 0) rfl hall), nofun⟩
  have h₅ := h₄.next ⟨.leave (.resets (t := 0) rfl (Finmap.lookup_erase ..)), nofun⟩
  have h₆ := h₅.next ⟨.leave (.stores (t := 0) rfl), nofun⟩
  refine ⟨_, robots_kept_while_patient oneRobot 1 1 _ h₆ ⟨rfl, fun t => ?_⟩, Finmap.lookup_insert _⟩
  rw [Fin.fin_one_eq_zero t]
  rfl

/-- It leaves while the batch still runs, and is lost: `Leave` finds it in `free`, and the batch then
takes it out. -/
theorem robot_is_lost : ¬ ∀ s : State 1 1,
    Reachable (· = State.new 1 1) (Step oneRobot) s → s.Quiet → s.Kept := by
  intro hkept
  obtain ⟨s, hpatient, hmanager, hjob, hseat, hall, hfree⟩ := one_robot_seated
  have h₀ : Reachable (· = State.new 1 1) (Step oneRobot) s := hpatient.mono fun _ _ _ h => h.1
  have h₁ := h₀.next (.leaves hjob hseat)
  have h₂ := h₁.next (.leave (.loads (t := 0) rfl hall))
  have h₃ := h₂.next (.leave (.alreadyFree (t := 0) rfl hfree))
  have h₄ := h₃.next (.login (.deletes hmanager))
  have h₅ := h₄.next (.login (.ends rfl))
  have hlost := (hkept _ h₅ ⟨rfl, fun t => by rw [Fin.fin_one_eq_zero t]; rfl⟩).1 7 ⟨7, 0⟩ hall
  rcases hlost with hfree' | ⟨t, c, hchair⟩
  · cases (Finmap.lookup_erase 7 s.free).symm.trans hfree'
  · rw [Fin.fin_one_eq_zero t, Fin.fin_one_eq_zero c] at hchair
    cases hchair

end State

end Yola.Robots
