import Mathlib

/-!
# Descriptor tables

The open descriptors of a process: a finite table from numbers to what they refer to. Opening or
receiving a descriptor takes the lowest number that is free.
-/

/-- What each open number refers to. -/
abbrev Descriptors (β : Type) := Std.ExtTreeMap ℕ β

namespace Descriptors

variable {β : Type} (t : Descriptors β)

/-- The lowest number that is free. -/
def lowestFree : ℕ := ((List.range (t.size + 1)).find? fun n => (t[n]?).isNone).getD 0

/-- The lowest number that is free above it. -/
def secondFree : ℕ :=
  ((List.range (t.size + 2)).find? fun n => lowestFree t < n ∧ (t[n]?).isNone).getD 0

/-- The number and the table after an open. -/
def openFd (b : β) : ℕ × Descriptors β := (lowestFree t, t.insert (lowestFree t) b)

/-- A descriptor is received and duplicated, and the first one is closed again: the number of the
duplicate and the table after. -/
def receive (b : β) : ℕ × Descriptors β :=
  let (own, t) := openFd t b
  let (n, t) := openFd t b
  (n, t.erase own)

variable {t}

/-- One of the numbers up to the size of the table is free. -/
lemma exists_free (t : Descriptors β) : ∃ n ∈ List.range (t.size + 1), (t[n]?).isNone := by
  by_contra hall
  have hkeys : Finset.range (t.size + 1) ⊆ t.keys.toFinset := by
    intro n hn
    have hmem : n ∈ List.range (t.size + 1) := List.mem_range.mpr (Finset.mem_range.mp hn)
    rw [List.mem_toFinset, Std.ExtTreeMap.mem_keys]
    by_contra hnot
    apply hall
    refine ⟨n, hmem, ?_⟩
    rw [Std.ExtTreeMap.getElem?_eq_none hnot]
    rfl
  have hcard := Finset.card_le_card hkeys
  have hlen := List.toFinset_card_le t.keys
  rw [Finset.card_range] at hcard
  rw [Std.ExtTreeMap.length_keys] at hlen
  omega

lemma find_lowestFree (t : Descriptors β) :
    (List.range (t.size + 1)).find? (fun n => (t[n]?).isNone) = some (lowestFree t) := by
  obtain ⟨n, hn, hfree⟩ := exists_free t
  have hsome : ((List.range (t.size + 1)).find? fun n => (t[n]?).isNone).isSome :=
    List.find?_isSome.mpr ⟨n, hn, hfree⟩
  obtain ⟨m, hm⟩ := Option.isSome_iff_exists.mp hsome
  unfold lowestFree
  rw [hm]
  rfl

/-- The lowest free number is free. -/
lemma getElem?_lowestFree (t : Descriptors β) : t[lowestFree t]? = none := by
  have h := List.find?_some (find_lowestFree t)
  exact Option.isNone_iff_eq_none.mp h

/-- Every lower number is open. -/
lemma isSome_of_lt {n : ℕ} (h : n < lowestFree t) : (t[n]?).isSome := by
  have hfind := List.find?_range_eq_some.mp (find_lowestFree t)
  have hn := hfind.2.2 n h
  simpa using hn

lemma lowestFree_le {n : ℕ} (h : t[n]? = none) : lowestFree t ≤ n := by
  by_contra hlt
  have hsome := isSome_of_lt (t := t) (Nat.lt_of_not_le hlt)
  rw [h] at hsome
  exact absurd hsome (by simp)

/-- The next number after an open is higher. -/
lemma lowestFree_lt_open (t : Descriptors β) (b : β) :
    lowestFree t < lowestFree (openFd t b).2 := by
  have hne : lowestFree (openFd t b).2 ≠ lowestFree t := by
    intro heq
    have hfree := getElem?_lowestFree (openFd t b).2
    rw [heq] at hfree
    unfold openFd at hfree
    simp at hfree
  have hle : lowestFree t ≤ lowestFree (openFd t b).2 := by
    apply lowestFree_le
    have hfree := getElem?_lowestFree (openFd t b).2
    unfold openFd at hfree ⊢
    grind
  omega

/-! ## Open and close -/

lemma lowestFree_le_size (t : Descriptors β) : lowestFree t ≤ t.size := by
  have hfind := List.find?_range_eq_some.mp (find_lowestFree t)
  have hmem := List.mem_range.mp hfind.2.1
  omega

lemma getElem?_openFd (t : Descriptors β) (b : β) (n : ℕ) :
    (openFd t b).2[n]? = if n = lowestFree t then some b else t[n]? := by
  unfold openFd
  grind

lemma size_openFd_le (t : Descriptors β) (b : β) : (openFd t b).2.size ≤ t.size + 1 := by
  unfold openFd
  exact Std.ExtTreeMap.size_insert_le

/-- A number that is opened and closed again leaves the table as it was. -/
lemma close_openFd (t : Descriptors β) (b : β) :
    (openFd t b).2.erase (lowestFree t) = t := by
  apply Std.ExtTreeMap.ext_getElem?
  intro n
  have hfree := getElem?_lowestFree t
  unfold openFd
  grind

/-- The number that the second of two opens takes. -/
lemma lowestFree_openFd (t : Descriptors β) (b : β) : lowestFree (openFd t b).2 = secondFree t := by
  have hsize : (openFd t b).2.size = t.size + 1 := by
    have hfree := getElem?_lowestFree t
    unfold openFd
    grind
  have hfree : (fun n : ℕ => ((openFd t b).2[n]?).isNone) =
      fun n => decide (lowestFree t < n ∧ (t[n]?).isNone) := by
    funext n
    rw [getElem?_openFd]
    rcases Nat.lt_trichotomy n (lowestFree t) with hlt | heq | hgt
    · have hsome := isSome_of_lt hlt
      rw [if_neg (Nat.ne_of_lt hlt), decide_eq_false fun h => Nat.lt_asymm h.1 hlt]
      rw [← Option.not_isSome, hsome]
      rfl
    · rw [if_pos heq, decide_eq_false fun h => Nat.ne_of_gt h.1 heq]
      rfl
    · rw [if_neg (Nat.ne_of_gt hgt)]
      simp only [hgt, true_and, Bool.decide_eq_true]
  unfold secondFree
  rw [← hfree]
  unfold lowestFree
  rw [hsize]

lemma lowestFree_lt_secondFree (t : Descriptors β) (b : β) : lowestFree t < secondFree t := by
  rw [← lowestFree_openFd t b]
  exact lowestFree_lt_open t b

lemma getElem?_secondFree (t : Descriptors β) (b : β) : t[secondFree t]? = none := by
  have hfree := getElem?_lowestFree (openFd t b).2
  rw [lowestFree_openFd, getElem?_openFd,
    if_neg (Nat.ne_of_gt (lowestFree_lt_secondFree t b))] at hfree
  exact hfree

lemma secondFree_le_size (t : Descriptors β) (b : β) : secondFree t ≤ t.size + 1 := by
  have hle := lowestFree_le_size (openFd t b).2
  have hsize := size_openFd_le t b
  rw [lowestFree_openFd] at hle
  omega

/-- What is received stays under the second number. -/
lemma receive_eq (t : Descriptors β) (b : β) :
    receive t b = (secondFree t, t.insert (secondFree t) b) := by
  refine Prod.ext (lowestFree_openFd t b) (Std.ExtTreeMap.ext_getElem? fun n => ?_)
  have hfree := getElem?_lowestFree t
  have hne := Nat.ne_of_gt (lowestFree_lt_secondFree t b)
  have htwo : (openFd (openFd t b).2 b).2[n]? =
      if n = secondFree t then some b else if n = lowestFree t then some b else t[n]? := by
    rw [getElem?_openFd (openFd t b).2, lowestFree_openFd, getElem?_openFd t]
  show ((openFd (openFd t b).2 b).2.erase (lowestFree t))[n]? = (t.insert (secondFree t) b)[n]?
  grind

/-- All that is open in the first table is open in the second. -/
def Grows (t t' : Descriptors β) : Prop := ∀ n : ℕ, (t[n]?).isSome → (t'[n]?).isSome

lemma Grows.refl (t : Descriptors β) : Grows t t := fun _ h => h

lemma Grows.trans {t t' t'' : Descriptors β} (h : Grows t t') (h' : Grows t' t'') : Grows t t'' :=
  fun n hn => h' n (h n hn)

lemma grows_openFd (t : Descriptors β) (b : β) : Grows t (openFd t b).2 := by
  intro n hn
  rw [getElem?_openFd]
  split
  · rfl
  · exact hn

lemma grows_insert (t : Descriptors β) (n : ℕ) (b : β) : Grows t (t.insert n b) := by
  intro m hm
  grind

/-- The numbers that are open. -/
def numbers (t : Descriptors β) : Set ℕ := {n | (t[n]?).isSome}

lemma Grows.numbers_subset {t t' : Descriptors β} (h : Grows t t') : numbers t ⊆ numbers t' := h

/-- An open adds a number. -/
lemma numbers_openFd (t : Descriptors β) (b : β) : numbers t ⊂ numbers (openFd t b).2 := by
  refine Set.ssubset_iff_of_subset (grows_openFd t b).numbers_subset |>.mpr ?_
  refine ⟨lowestFree t, ?_, fun hopen => ?_⟩
  · show ((openFd t b).2[lowestFree t]?).isSome
    rw [getElem?_openFd, if_pos rfl]
    rfl
  · have hsome : (t[lowestFree t]?).isSome := hopen
    rw [getElem?_lowestFree] at hsome
    exact absurd hsome (by simp)

/-- What is lower than every free number stays so. -/
lemma Grows.lowestFree_le {t t' : Descriptors β} (h : Grows t t') :
    lowestFree t ≤ lowestFree t' := by
  apply Descriptors.lowestFree_le
  by_contra hopen
  have hsome := h _ (Option.isSome_iff_ne_none.mpr hopen)
  rw [getElem?_lowestFree] at hsome
  exact absurd hsome (by simp)

/-! ## Descriptors held for others -/

/-- The open descriptors are those of `base`, unchanged, and the numbers in `held`. -/
structure Lent (base t : Descriptors β) (held : Set ℕ) : Prop where
  own : ∀ n : ℕ, (base[n]?).isSome → t[n]? = base[n]?
  numbers : Descriptors.numbers t = Descriptors.numbers base ∪ held
  disjoint : Disjoint (Descriptors.numbers base) held

namespace Lent

variable {base t : Descriptors β} {held : Set ℕ}

lemma refl (t : Descriptors β) : Lent t t ∅ := ⟨fun _ _ => rfl, by simp, by simp⟩

/-- A free number is lent. -/
lemma add (h : Lent base t held) {n : ℕ} (hfree : t[n]? = none) (b : β) :
    Lent base (t.insert n b) (insert n held) := by
  have hnew : n ∉ Descriptors.numbers base ∪ held := by
    rw [← h.numbers]
    show ¬ (t[n]?).isSome
    rw [hfree]
    simp
  rw [Set.mem_union, not_or] at hnew
  have hget : ∀ m : ℕ, (t.insert n b)[m]? = if m = n then some b else t[m]? := by
    intro m
    grind
  refine ⟨fun m hm => ?_, ?_, Set.disjoint_insert_right.mpr ⟨hnew.1, h.disjoint⟩⟩
  · have hne : m ≠ n := by
      intro heq
      rw [heq] at hm
      exact hnew.1 hm
    rw [hget, if_neg hne]
    exact h.own m hm
  · rw [Set.union_insert, ← h.numbers]
    ext m
    show ((t.insert n b)[m]?).isSome ↔ m = n ∨ (t[m]?).isSome
    rw [hget]
    split
    · rename_i heq
      simp [heq]
    · rename_i hne
      simp [hne]

/-- A close of a number that is lent takes it back. -/
lemma close (h : Lent base t held) {n : ℕ} (hn : n ∈ held) :
    Lent base (t.erase n) (held \ {n}) := by
  have hbase : n ∉ Descriptors.numbers base := fun hb => Set.disjoint_left.mp h.disjoint hb hn
  refine ⟨fun m hm => ?_, ?_, h.disjoint.mono_right Set.sdiff_subset⟩
  · have hne : m ≠ n := by
      intro heq
      rw [heq] at hm
      exact hbase hm
    rw [← h.own m hm]
    grind
  · have hsplit : Descriptors.numbers base ∪ held \ {n} =
        (Descriptors.numbers base ∪ held) \ {n} := by
      rw [Set.union_sdiff_distrib, Set.sdiff_singleton_eq_self hbase]
    rw [hsplit, ← h.numbers]
    ext m
    show ((t.erase n)[m]?).isSome ↔ (t[m]?).isSome ∧ m ≠ n
    grind

end Lent

end Descriptors
