import Mathlib

/-!
# A set of owned locks

The purpose of a lock service, without any message or table: owners acquire locks under cookies,
release them, or go away. `issued` lists the pairs (owner, cookie) in the order they were handed
out, `held` are those that have not been given back.
-/

/-- The pairs that were handed out and those still held. -/
structure OwnedLocks (O C : Type*) where
  issued : List (O × C) := []
  held : Finset (O × C) := ∅

namespace OwnedLocks

variable {O C : Type*} [DecidableEq O] [DecidableEq C]

inductive Event (O C : Type*) where
  | acquire (o : O) (c : C)
  | release (o : O) (c : C)
  | disconnect (o : O)

def step (l : OwnedLocks O C) : Event O C → OwnedLocks O C
  | .acquire o c => { issued := l.issued ++ [(o, c)], held := insert (o, c) l.held }
  | .release o c => { l with held := l.held.erase (o, c) }
  | .disconnect o => { l with held := l.held.filter fun p => p.1 ≠ o }

/-- Every held lock was handed out. -/
def HeldIssued (l : OwnedLocks O C) : Prop := ∀ p ∈ l.held, p ∈ l.issued

lemma HeldIssued.step {l : OwnedLocks O C} (h : l.HeldIssued) (e : Event O C) :
    (l.step e).HeldIssued := by
  intro p hp
  cases e with
  | acquire o c =>
    rcases Finset.mem_insert.mp hp with rfl | hp
    · exact List.mem_append_right _ (List.mem_singleton_self _)
    · exact List.mem_append_left _ (h p hp)
  | release o c => exact h p (Finset.mem_of_mem_erase hp)
  | disconnect o => exact h p (Finset.mem_of_mem_filter p hp)

/-- An owner that was handed nothing has nothing to lose. -/
lemma HeldIssued.step_disconnect_eq {l : OwnedLocks O C} (h : l.HeldIssued) {o : O}
    (hnone : ∀ c, (o, c) ∉ l.issued) : l.step (.disconnect o) = l := by
  have hheld : l.held.filter (fun p => p.1 ≠ o) = l.held := by
    apply Finset.filter_true_of_mem
    intro p hp heq
    apply hnone p.2
    rw [← heq]
    exact h p hp
  show { l with held := l.held.filter fun p => p.1 ≠ o } = l
  rw [hheld]

lemma length_issued_step (l : OwnedLocks O C) (e : Event O C) :
    (l.step e).issued.length ≤ l.issued.length + 1 := by
  cases e with
  | acquire o c =>
    show (l.issued ++ [(o, c)]).length ≤ _
    rw [List.length_append, List.length_singleton]
  | release o c => exact Nat.le_succ _
  | disconnect o => exact Nat.le_succ _

end OwnedLocks
