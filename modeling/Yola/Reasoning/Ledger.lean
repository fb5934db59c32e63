import Mathlib.Algebra.Ring.Int.Defs
import Yola.Reasoning.Threads

/-!
# A queue with a counter of what is on its way

Producers add the size of an item to a counter, then put the item into a bounded queue or, when they give up,
take the size off again; the consumer takes it off once it has received the item.  Whatever the order of
the steps, the counter is the size of the items in the queue, of those that a producer has counted, and of
the one that the consumer has still to take off.
-/

namespace Yola.Reasoning

variable {ε κ : Type*}

inductive Effect (ε : Type*) where
  | quiet
  | adds (n : Nat)
  | subtracts (n : Nat)
  | sends (item : ε)

structure Ledger (ε κ : Type*) where
  capacity : Nat
  queue : List ε
  /-- What the consumer has received and not taken off the counter yet. -/
  received : Option ε
  producers : List κ
  counter : Int

namespace Ledger

def new (capacity : Nat) : Ledger ε κ where
  capacity := capacity
  queue := []
  received := none
  producers := []
  counter := 0

variable (l : Ledger ε κ)

def arrive (t : κ) : Ledger ε κ := { l with producers := l.producers ++ [t] }

/-- A producer goes from `t` to `t'`.  An item needs room in the queue or a consumer that waits for it. -/
inductive Produces (waiting : Prop) (t t' : κ) : Effect ε → Ledger ε κ → Prop where
  | quiet {producers : List κ} (moves : Moves t t' l.producers producers) :
      Produces waiting t t' .quiet { l with producers := producers }
  | adds {producers : List κ} (n : Nat) (moves : Moves t t' l.producers producers) :
      Produces waiting t t' (.adds n) { l with producers := producers, counter := l.counter + n }
  | subtracts {producers : List κ} (n : Nat) (moves : Moves t t' l.producers producers) :
      Produces waiting t t' (.subtracts n) { l with producers := producers, counter := l.counter - n }
  | sends {producers : List κ} (item : ε) (moves : Moves t t' l.producers producers)
      (room : l.queue.length < l.capacity) :
      Produces waiting t t' (.sends item) { l with producers := producers, queue := l.queue ++ [item] }
  | hands {producers : List κ} (item : ε) (moves : Moves t t' l.producers producers)
      (empty : l.queue = []) (free : l.received = none) (waits : waiting) :
      Produces waiting t t' (.sends item) { l with producers := producers, received := some item }

/-- The consumer receives an item, or takes the size of the one it has received off the counter. -/
inductive Consumes (size : ε → Nat) : Ledger ε κ → Prop where
  | receives {item : ε} {rest : List ε} (queue : l.queue = item :: rest) (free : l.received = none) :
      Consumes size { l with queue := rest, received := some item }
  | settles {item : ε} (received : l.received = some item) :
      Consumes size { l with received := none, counter := l.counter - size item }

/-- The size of what is in the queue, with the producers and with the consumer. -/
def total (size : ε → Nat) (held : κ → Nat) : Nat :=
  (l.queue.map size).sum + (l.producers.map held).sum + l.received.elim 0 size

def Balanced (size : ε → Nat) (held : κ → Nat) : Prop := l.counter = l.total size held

variable {l} {l' : Ledger ε κ} {size : ε → Nat} {held : κ → Nat} {t t' : κ} {effect : Effect ε} {waiting : Prop}

theorem Produces.moves (h : l.Produces waiting t t' effect l') : Moves t t' l.producers l'.producers := by
  cases h <;> assumption

theorem Produces.capacity_eq (h : l.Produces waiting t t' effect l') : l'.capacity = l.capacity := by
  cases h <;> rfl

def Lawful (size : ε → Nat) (held : κ → Nat) (t t' : κ) : Effect ε → Prop
  | .quiet => held t' = held t
  | .adds n => held t' = held t + n
  | .subtracts n => held t = held t' + n
  | .sends item => held t = held t' + size item

namespace Balanced

theorem new (capacity : Nat) : (Ledger.new capacity : Ledger ε κ).Balanced size held := rfl

variable (h : l.Balanced size held)

include h

theorem produces (hstep : l.Produces waiting t t' effect l')
    (hlawful : Lawful size held t t' effect) : l'.Balanced size held := by
  have hsum := hstep.moves.sum_map held
  unfold Balanced total at h ⊢
  cases hstep with
  | quiet | adds | subtracts =>
    simp only [Lawful] at hlawful
    simp only [] at hsum ⊢
    omega
  | sends =>
    simp only [Lawful] at hlawful
    simp only [List.map_append, List.map_cons, List.map_nil, List.sum_append, List.sum_singleton] at hsum ⊢
    omega
  | hands item _ _ free =>
    rw [free] at h
    simp only [Lawful] at hlawful
    simp only [Option.elim_some, Option.elim_none] at h hsum ⊢
    omega

theorem consumes (hstep : l.Consumes size l') : l'.Balanced size held := by
  unfold Balanced total at h ⊢
  cases hstep with
  | receives queue free =>
    rw [queue, free, List.map_cons, List.sum_cons] at h
    simp only [Option.elim_some, Option.elim_none] at h ⊢
    omega
  | settles received =>
    rw [received] at h
    simp only [Option.elim_some, Option.elim_none] at h ⊢
    omega

theorem arrive (ht : held t = 0) : (l.arrive t).Balanced size held := by
  unfold Balanced total at h ⊢
  simp only [Ledger.arrive, List.map_append, List.map_cons, List.map_nil, List.sum_append,
    List.sum_singleton, ht]
  omega

theorem nonneg : 0 ≤ l.counter := by
  rw [h]
  exact Int.natCast_nonneg _

theorem eq_zero (hque : l.queue = []) (hheld : ∀ t ∈ l.producers, held t = 0)
    (hreceived : l.received = none) : l.counter = 0 := by
  have hsum : (l.producers.map held).sum = 0 := by
    apply List.sum_eq_zero
    intro n hn
    obtain ⟨t, ht, rfl⟩ := List.mem_map.mp hn
    exact hheld t ht
  rw [h, total, hque, hreceived, hsum]
  rfl

end Balanced

end Ledger

end Yola.Reasoning
