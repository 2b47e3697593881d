import Mathlib

/-!
# Types shared by all inhibit interfaces

`include/InhibitInterface.hpp` and `include/myExcept.hpp`. A `std::string` and a
`std::vector<std::byte>` are lists of bytes; a `std::map` is Lean's extensional ordered map, whose
`insertIfNew` is `std::map::insert` (an existing entry is kept) and whose `insert` is assignment
through `operator[]`.
-/

namespace UnifiedInhibit

/-- A byte string (`std::string`, `std::vector<std::byte>`). -/
abbrev Bytes := List UInt8

/-- The bytes of an ASCII string literal. -/
def lit (s : String) : Bytes := s.toList.map fun c => c.toNat.toUInt8

/-- `std::map`. -/
abbrev StdMap (κ β : Type) [Ord κ] := Std.ExtTreeMap κ β

namespace StdMap

variable {κ β : Type} [Ord κ] [Std.TransOrd κ] [Std.LawfulEqOrd κ] [DecidableEq κ]

/-- `insert` of `std::map` keeps an existing entry. -/
lemma getElem?_insertIfNew (m : StdMap κ β) (k : κ) (b : β) (j : κ) :
    (m.insertIfNew k b)[j]? = if j = k ∧ m[k]? = none then some b else m[j]? := by
  grind

lemma getElem?_insert (m : StdMap κ β) (k : κ) (b : β) (j : κ) :
    (m.insert k b)[j]? = if j = k then some b else m[j]? := by
  grind

lemma getElem?_erase (m : StdMap κ β) (k j : κ) :
    (m.erase k)[j]? = if j = k then none else m[j]? := by
  grind

omit [DecidableEq κ] in
lemma mem_insertIfNew (m : StdMap κ β) (k : κ) (b : β) (j : κ) :
    j ∈ m.insertIfNew k b ↔ j = k ∨ j ∈ m := by
  grind

omit [DecidableEq κ] in
lemma mem_erase (m : StdMap κ β) (k j : κ) : j ∈ m.erase k ↔ j ∈ m ∧ j ≠ k := by
  grind

omit [Std.LawfulEqOrd κ] [DecidableEq κ] in
lemma mem_iff (m : StdMap κ β) (j : κ) : j ∈ m ↔ ∃ b, m[j]? = some b := by
  rw [← Option.isSome_iff_exists]
  exact Std.ExtTreeMap.mem_iff_isSome_getElem?

end StdMap

/-- Unique ID for an inhibit; the data within is specific to the interface. -/
abbrev InhibitID := Bytes

/-- `enum InhibitType`, used as a set of bit flags. -/
abbrev InhibitType := BitVec 32

namespace InhibitType

def NONE : InhibitType := 0
def SCREENSAVER : InhibitType := 1
def SUSPEND : InhibitType := 2

/-- `(t & flag) > 0`. -/
def has (t flag : InhibitType) : Bool := t &&& flag != NONE

@[simp] lemma none_has (flag : InhibitType) : has NONE flag = false := by
  simp [has, NONE]

lemma or_has (s t flag : InhibitType) : has (s ||| t) flag = (has s flag || has t flag) := by
  rw [Bool.eq_iff_iff]
  simp only [has, NONE, BitVec.and_or_distrib_right, bne_iff_ne, ne_eq, Bool.or_eq_true]
  rw [show (0 : BitVec 32) = 0#32 from rfl, BitVec.or_eq_zero_iff]
  tauto

end InhibitType

structure InhibitRequest where
  type : InhibitType := InhibitType.NONE
  appname : Bytes := []
  reason : Bytes := []
deriving DecidableEq

structure Inhibit extends InhibitRequest where
  id : InhibitID
  created : ℕ := 0
deriving DecidableEq

/-- The exceptions that cross the modelled code. A D-Bus error carries its error name:
`DBus::throwErrAndFree` picks the exception class from the name alone. -/
inductive Exn where
  /-- `InhibitRequestUnsupportedTypeException` -/
  | unsupportedType
  /-- `InhibitNoResponseException` -/
  | noResponse
  /-- `InhibitNotFoundException` -/
  | notFound
  /-- `DBus::Error` and its subclasses -/
  | dbus (name : String)
  /-- any other `std::exception` -/
  | std (what : String)
  /-- no exception: the call waits for input that does not come -/
  | hang
deriving DecidableEq

/-- What a call that may throw returns or throws, and the state it leaves behind. -/
abbrev Outcome (W α : Type) := Except Exn α × W

end UnifiedInhibit
