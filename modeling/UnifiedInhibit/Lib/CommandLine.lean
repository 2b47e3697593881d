import Mathlib

/-!
# Command lines

A command line as a list of words: a parameter opens a section of values that lasts until the next
parameter, flags stand anywhere, and values in front of the first parameter belong to nothing.
-/

namespace CommandLine

inductive Word (N F V : Type) where
  | param (name : N)
  | flags (flags : List F)
  | value (value : V)

variable {N F V : Type}

/-- The parameters in the order in which they are opened. -/
def names : List (Word N F V) → List N
  | [] => []
  | .param name :: ws => name :: names ws
  | _ :: ws => names ws

/-- All flags. -/
def flags : List (Word N F V) → List F
  | [] => []
  | .flags cs :: ws => cs ++ flags ws
  | _ :: ws => flags ws

/-- The values in front of the first parameter, and each parameter with its values. -/
def sections : List (Word N F V) → List V × List (N × List V)
  | [] => ([], [])
  | .param name :: ws => ([], (name, (sections ws).1) :: (sections ws).2)
  | .value v :: ws => (v :: (sections ws).1, (sections ws).2)
  | .flags _ :: ws => sections ws

variable [BEq N]

/-- The values of a parameter. -/
def valuesOf (ws : List (Word N F V)) (name : N) : Option (List V) := (sections ws).2.lookup name

/-- A parameter takes the values up to the next one. -/
lemma valuesOf_param (n : N) (ws : List (Word N F V)) (name : N) :
    valuesOf (.param n :: ws) name =
      if name == n then some (sections ws).1 else valuesOf ws name := by
  unfold valuesOf
  rw [sections, List.lookup_cons]
  cases name == n <;> rfl

variable [LawfulBEq N]

/-- A parameter has values exactly if it is opened. -/
lemma isSome_valuesOf (ws : List (Word N F V)) (name : N) :
    (valuesOf ws name).isSome ↔ name ∈ names ws := by
  induction ws with
  | nil => simp [valuesOf, sections, names]
  | cons w ws ih =>
    cases w with
    | param n =>
      rw [valuesOf_param, names, List.mem_cons]
      by_cases h : name = n
      · rw [if_pos (beq_iff_eq.mpr h)]
        exact ⟨fun _ => .inl h, fun _ => rfl⟩
      · rw [if_neg (fun hb => h (beq_iff_eq.mp hb)), ih]
        exact ⟨.inr, fun hmem => hmem.resolve_left h⟩
    | flags cs => exact ih
    | value v => exact ih

end CommandLine
