import Mathlib

/-!
# The environment of a process

`environ` as a list of strings, as `getenv`, `setenv` and `putenv` use it. What matters of it is
the value of each name.
-/

namespace Environ

/-- `NAME=VALUE`. 61 is the equals sign. -/
def entry (name value : List UInt8) : List UInt8 := name ++ 61 :: value

/-- What stands in front of the equals sign. -/
def nameOf (s : List UInt8) : List UInt8 := s.takeWhile (· ≠ 61)

/-- The string is an entry of this name. -/
def named (name s : List UInt8) : Bool := (name ++ [61]).isPrefixOf s

def getenv (environ : List (List UInt8)) (name : List UInt8) : Option (List UInt8) :=
  (environ.find? (named name)).map fun s => s.drop (name.length + 1)

/-- `s` in place of the entry of this name, or behind all entries. -/
def put (name s : List UInt8) : List (List UInt8) → List (List UInt8)
  | [] => [s]
  | e :: environ => if named name e then s :: environ else e :: put name s environ

/-- `setenv(name, value, 0)` -/
def setenv (name value : List UInt8) (environ : List (List UInt8)) : List (List UInt8) :=
  if (getenv environ name).isSome then environ else put name (entry name value) environ

/-- `putenv`. Without an equals sign the name is removed. -/
def putenv (environ : List (List UInt8)) (s : List UInt8) : List (List UInt8) :=
  if 61 ∈ s then put (nameOf s) s environ else environ.filter fun e => !named s e

/-! ## Entries -/

variable {name n : List UInt8}

lemma nameOf_entry (h : 61 ∉ name) (value : List UInt8) : nameOf (entry name value) = name := by
  have hall : ∀ c ∈ name, decide (c ≠ 61) = true := by
    intro c hc
    apply decide_eq_true
    rintro rfl
    exact h hc
  unfold nameOf entry
  rw [List.takeWhile_append_of_pos hall, List.takeWhile_cons_of_neg (by decide), List.append_nil]

lemma named_iff {s : List UInt8} : named name s ↔ ∃ value, s = entry name value := by
  unfold named entry
  rw [List.isPrefixOf_iff_prefix]
  constructor
  · rintro ⟨value, rfl⟩
    exact ⟨value, by simp⟩
  · rintro ⟨value, rfl⟩
    exact ⟨value, by simp⟩

/-- A string has one name. -/
lemma named_unique (hname : 61 ∉ name) (hn : 61 ∉ n) {s : List UInt8} (h : named name s)
    (h' : named n s) : n = name := by
  obtain ⟨value, rfl⟩ := named_iff.mp h
  obtain ⟨value', heq⟩ := named_iff.mp h'
  rw [← nameOf_entry hn value', ← heq, nameOf_entry hname]

lemma named_entry (hname : 61 ∉ name) (hn : 61 ∉ n) (value : List UInt8) :
    named n (entry name value) = decide (n = name) := by
  rw [Bool.eq_iff_iff, decide_eq_true_eq]
  constructor
  · exact named_unique hname hn (named_iff.mpr ⟨value, rfl⟩)
  · rintro rfl
    exact named_iff.mpr ⟨value, rfl⟩

lemma drop_entry (value : List UInt8) : (entry name value).drop (name.length + 1) = value := by
  unfold entry
  rw [← List.drop_drop, List.drop_left]
  rfl

/-! ## Values -/

lemma getenv_cons (s : List UInt8) (environ : List (List UInt8)) (name : List UInt8) :
    getenv (s :: environ) name =
      if named name s then some (s.drop (name.length + 1)) else getenv environ name := by
  unfold getenv
  rw [List.find?_cons]
  cases named name s <;> rfl

/-- The first entry has its value, and every other name has the one it has behind it. -/
lemma getenv_entry_cons (hname : 61 ∉ name) (hn : 61 ∉ n) (value : List UInt8)
    (environ : List (List UInt8)) :
    getenv (entry name value :: environ) n = if n = name then some value else getenv environ n := by
  rw [getenv_cons, named_entry hname hn]
  by_cases h : n = name
  · rw [if_pos (decide_eq_true h), if_pos h, h, drop_entry]
  · rw [if_neg (by simpa using h), if_neg h]

lemma getenv_put (hname : 61 ∉ name) (hn : 61 ∉ n) (value : List UInt8)
    (environ : List (List UInt8)) :
    getenv (put name (entry name value) environ) n =
      if n = name then some value else getenv environ n := by
  induction environ with
  | nil => exact getenv_entry_cons hname hn value []
  | cons e environ ih =>
    unfold put
    by_cases he : named name e
    · rw [if_pos he, getenv_entry_cons hname hn]
      by_cases h : n = name
      · rw [if_pos h, if_pos h]
      · have hother : ¬ named n e := fun h' => h (named_unique hname hn he h')
        rw [if_neg h, if_neg h, getenv_cons, if_neg hother]
    · rw [if_neg he, getenv_cons, getenv_cons, ih]
      by_cases h : n = name
      · rw [h, if_neg he, if_pos rfl, if_pos rfl]
      · rw [if_neg h, if_neg h]

lemma getenv_putenv (hname : 61 ∉ name) (hn : 61 ∉ n) (value : List UInt8)
    (environ : List (List UInt8)) :
    getenv (putenv environ (entry name value)) n =
      if n = name then some value else getenv environ n := by
  have hmem : 61 ∈ entry name value := List.mem_append_right _ List.mem_cons_self
  unfold putenv
  rw [if_pos hmem, nameOf_entry hname, getenv_put hname hn]

/-- What is set already is kept. -/
lemma getenv_setenv (hname : 61 ∉ name) (hn : 61 ∉ n) (value : List UInt8)
    (environ : List (List UInt8)) :
    getenv (setenv name value environ) n =
      (getenv environ n).or (if n = name then some value else none) := by
  unfold setenv
  by_cases hset : (getenv environ name).isSome
  · rw [if_pos hset]
    by_cases h : n = name
    · obtain ⟨v, hv⟩ := Option.isSome_iff_exists.mp hset
      rw [h, hv]
      rfl
    · rw [if_neg h, Option.or_none]
  · rw [if_neg hset, getenv_put hname hn]
    by_cases h : n = name
    · rw [if_pos h, if_pos h, h, Option.not_isSome_iff_eq_none.mp hset]
      rfl
    · rw [if_neg h, if_neg h, Option.or_none]

/-! ## Overlays -/

/-- Entries of distinct names. -/
structure Distinct (environ : List (List UInt8)) : Prop where
  entries : ∀ s ∈ environ, ∃ name value, name ≠ [] ∧ 61 ∉ name ∧ s = entry name value
  names : (environ.map nameOf).Nodup

lemma Distinct.tail {s : List UInt8} {environ : List (List UInt8)}
    (h : Distinct (s :: environ)) : Distinct environ :=
  ⟨fun e he => h.entries e (List.mem_cons_of_mem _ he), (List.nodup_cons.mp h.names).2⟩

/-- A name that no entry has has no value. -/
lemma getenv_eq_none {environ : List (List UInt8)} (h : Distinct environ)
    (hnot : n ∉ environ.map nameOf) (hn : 61 ∉ n) : getenv environ n = none := by
  induction environ with
  | nil => rfl
  | cons s environ ih =>
    obtain ⟨name, value, -, hname, rfl⟩ := h.entries s List.mem_cons_self
    rw [List.map_cons, List.mem_cons, not_or, nameOf_entry hname] at hnot
    rw [getenv_entry_cons hname hn, if_neg hnot.1, ih h.tail hnot.2]

/-- Entries that are put one after the other lie over what was there. -/
lemma getenv_foldl_putenv {entries : List (List UInt8)} (h : Distinct entries) (hn : 61 ∉ n)
    (environ : List (List UInt8)) :
    getenv (entries.foldl putenv environ) n = (getenv entries n).or (getenv environ n) := by
  induction entries generalizing environ with
  | nil => rfl
  | cons s entries ih =>
    obtain ⟨name, value, -, hname, rfl⟩ := h.entries s List.mem_cons_self
    rw [List.foldl_cons, ih h.tail, getenv_putenv hname hn, getenv_entry_cons hname hn]
    by_cases heq : n = name
    · have hlast := (List.nodup_cons.mp h.names).1
      rw [nameOf_entry hname, ← heq] at hlast
      rw [if_pos heq, if_pos heq, getenv_eq_none h.tail hlast hn]
      rfl
    · rw [if_neg heq, if_neg heq]

end Environ
