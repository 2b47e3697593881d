import UnifiedInhibit.Lib.Run

/-!
# A set whose changes are announced

Somebody who holds a set sends a notice for each element that is added or removed. `Tells` says of
the notices sent so far that an observer who replays them holds the same set, and that each of them
was apt when it was sent.
-/

namespace Announced

variable {α : Type*}

inductive Notice (α : Type*) where
  | added (a : α)
  | removed (a : α)
deriving DecidableEq

/-- The elements that notices add, in their order. -/
def additions (notices : List (Notice α)) : List α :=
  notices.filterMap fun
    | .added a => some a
    | .removed _ => none

lemma additions_append (notices notices' : List (Notice α)) :
    additions (notices ++ notices') = additions notices ++ additions notices' :=
  List.filterMap_append

variable [DecidableEq α]

/-- An observer takes note. -/
def observe (held : Finset α) : Notice α → Finset α
  | .added a => insert a held
  | .removed a => held.erase a

/-- The notice is about an element that is new, or that is there to be removed. -/
def Apt (held : Finset α) : Notice α → Prop
  | .added a => a ∉ held
  | .removed a => a ∈ held

/-- The notices tell an observer who starts with nothing of the set, and each of them is apt. -/
structure Tells (notices : List (Notice α)) (set : Finset α) : Prop where
  held : Transition.run observe ∅ notices = set
  apt : Transition.Along observe Apt ∅ notices

variable {notices : List (Notice α)} {set : Finset α}

lemma Tells.nil : Tells ([] : List (Notice α)) ∅ := ⟨rfl, trivial⟩

lemma Tells.snoc (h : Tells notices set) {n : Notice α} (hn : Apt set n) :
    Tells (notices ++ [n]) (observe set n) where
  held := by rw [Transition.run_snoc, h.held]
  apt := Transition.along_snoc.mpr ⟨h.apt, by rw [h.held]; exact hn⟩

end Announced
