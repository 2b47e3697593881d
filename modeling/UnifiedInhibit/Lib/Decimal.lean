import Mathlib

/-!
# Decimal numbers in text

`std::to_string` and `atol` on ASCII bytes, and that the second reads back what the first writes.
-/

namespace Decimal

/-- The decimal digits of a number, at least one. -/
def digits (n : ℕ) : List UInt8 :=
  if n = 0 then [48] else ((Nat.digits 10 n).map fun d => (48 + d).toUInt8).reverse

/-- `std::to_string` -/
def toString (n : ℤ) : List UInt8 :=
  if n < 0 then 45 :: digits n.natAbs else digits n.natAbs

/-- `isdigit` -/
def isDigit (c : UInt8) : Bool := 48 ≤ c && c ≤ 57

/-- `isspace` -/
def isSpace (c : UInt8) : Bool := c = 32 || (9 ≤ c && c ≤ 13)

/-- The number at the start of `s`, 0 if there is none. -/
def parseDigits (s : List UInt8) : ℕ :=
  (s.takeWhile isDigit).foldl (fun n c => 10 * n + (c.toNat - 48)) 0

/-- A `long` that is out of range is cut to the range. -/
def clampLong (n : ℤ) : ℤ := max (-2 ^ 63) (min n (2 ^ 63 - 1))

/-- `atol` -/
def atol (s : List UInt8) : ℤ :=
  match s.dropWhile isSpace with
  | 45 :: s => clampLong (-(parseDigits s : ℤ))
  | 43 :: s => clampLong (parseDigits s)
  | s => clampLong (parseDigits s)

/-! ## Reading back -/

lemma toNat_digit {d : ℕ} (hd : d < 10) : (48 + d).toUInt8.toNat = 48 + d := by
  show (48 + d) % 2 ^ 8 = 48 + d
  omega

lemma isDigit_digit {d : ℕ} (hd : d < 10) : isDigit (48 + d).toUInt8 = true := by
  have h := toNat_digit hd
  unfold isDigit
  rw [Bool.and_eq_true, decide_eq_true_eq, decide_eq_true_eq, UInt8.le_iff_toNat_le,
    UInt8.le_iff_toNat_le, h]
  constructor
  · show 48 ≤ 48 + d
    omega
  · show 48 + d ≤ 57
    omega

/-- A digit is neither a blank nor a sign. -/
lemma not_special_of_isDigit {c : UInt8} (h : isDigit c = true) :
    isSpace c = false ∧ c ≠ 45 ∧ c ≠ 43 := by
  unfold isDigit at h
  rw [Bool.and_eq_true, decide_eq_true_eq, UInt8.le_iff_toNat_le] at h
  have hlow : 48 ≤ c.toNat := h.1
  refine ⟨?_, ?_, ?_⟩
  · rw [Bool.eq_false_iff]
    intro hspace
    unfold isSpace at hspace
    simp only [Bool.or_eq_true, Bool.and_eq_true, decide_eq_true_eq, UInt8.le_iff_toNat_le,
      ← UInt8.toNat_inj] at hspace
    have hhigh : c.toNat = 32 ∨ 9 ≤ c.toNat ∧ c.toNat ≤ 13 := hspace
    omega
  · intro heq
    rw [heq] at hlow
    exact absurd hlow (by decide)
  · intro heq
    rw [heq] at hlow
    exact absurd hlow (by decide)

lemma isDigit_of_mem_digits {n : ℕ} {c : UInt8} (h : c ∈ digits n) : isDigit c = true := by
  unfold digits at h
  split at h
  · rw [List.mem_singleton.mp h]
    decide
  · rw [List.mem_reverse] at h
    obtain ⟨d, hd, hc⟩ := List.mem_map.mp h
    rw [← hc]
    exact isDigit_digit (Nat.digits_lt_base (by decide) hd)

lemma foldr_digits {ds : List ℕ} (hds : ∀ d ∈ ds, d < 10) :
    (ds.map fun d => (48 + d).toUInt8).foldr (fun c n => 10 * n + (c.toNat - 48)) 0 =
      Nat.ofDigits 10 ds := by
  induction ds with
  | nil => rfl
  | cons d ds ih =>
    have hd := toNat_digit (hds d List.mem_cons_self)
    have ih := ih fun d hd => hds d (List.mem_cons_of_mem _ hd)
    rw [List.map_cons, List.foldr_cons, ih, hd, Nat.ofDigits_cons]
    omega

/-- What follows the digits, if anything, does not start with one. -/
def Ends (rest : List UInt8) : Prop := ∀ c, rest.head? = some c → isDigit c = false

lemma ends_nil : Ends [] := fun _ h => absurd h (by simp)

lemma ends_cons {c : UInt8} (h : isDigit c = false) (rest : List UInt8) : Ends (c :: rest) := by
  intro d hd
  rw [← Option.some.inj hd]
  exact h

lemma parseDigits_digits (n : ℕ) {rest : List UInt8} (hrest : Ends rest) :
    parseDigits (digits n ++ rest) = n := by
  have htake : (digits n ++ rest).takeWhile isDigit = digits n := by
    rw [List.takeWhile_append_of_pos fun c hc => isDigit_of_mem_digits hc]
    rcases rest with _ | ⟨c, rest⟩
    · rw [List.takeWhile_nil, List.append_nil]
    · rw [List.takeWhile_cons_of_neg (by rw [hrest c rfl]; decide), List.append_nil]
  unfold parseDigits
  rw [htake]
  unfold digits
  split
  · rename_i hzero
    rw [hzero]
    rfl
  · rw [List.foldl_reverse, foldr_digits fun d hd => Nat.digits_lt_base (by decide) hd,
      Nat.ofDigits_digits]

lemma digits_ne_nil (n : ℕ) : digits n ≠ [] := by
  unfold digits
  split
  · exact List.cons_ne_nil _ _
  · rename_i hzero
    intro hnil
    rw [List.reverse_eq_nil_iff, List.map_eq_nil_iff] at hnil
    exact hzero (Nat.digits_eq_nil_iff_eq_zero.mp hnil)

lemma clampLong_of_mem {n : ℤ} (hlow : -2 ^ 63 ≤ n) (hhigh : n < 2 ^ 63) : clampLong n = n := by
  unfold clampLong
  omega

/-! ## The text of a number -/

lemma length_digits_le {n k : ℕ} (hk : 0 < k) (hn : n < 10 ^ k) : (digits n).length ≤ k := by
  unfold digits
  split
  · exact hk
  · rw [List.length_reverse, List.length_map]
    exact (Nat.digits_length_le_iff (by omega) n).mpr hn

lemma length_toString_le {n : ℤ} (hlow : -10 ^ 10 < n) (hhigh : n < 10 ^ 10) :
    (toString n).length ≤ 11 := by
  have hdigits : (digits n.natAbs).length ≤ 10 := length_digits_le (by omega) (by omega)
  unfold toString
  split
  · rw [List.length_cons]
    omega
  · omega

/-- A number is written with digits and a minus sign. -/
lemma mem_toString {n : ℤ} {c : UInt8} (h : c ∈ toString n) : isDigit c = true ∨ c = 45 := by
  unfold toString at h
  split at h
  · rcases List.mem_cons.mp h with heq | h
    · exact .inr heq
    · exact .inl (isDigit_of_mem_digits h)
  · exact .inl (isDigit_of_mem_digits h)

lemma notMem_toString {n : ℤ} {c : UInt8} (hdigit : isDigit c = false) (hminus : c ≠ 45) :
    c ∉ toString n := by
  intro hmem
  rcases mem_toString hmem with h | h
  · rw [hdigit] at h
    exact absurd h (by simp)
  · exact hminus h

lemma toString_ne_nil (n : ℤ) : toString n ≠ [] := by
  unfold toString
  split
  · exact List.cons_ne_nil _ _
  · exact digits_ne_nil _

/-- `atol` reads back what `std::to_string` writes. -/
theorem atol_toString {n : ℤ} (hlow : -2 ^ 63 ≤ n) (hhigh : n < 2 ^ 63) {rest : List UInt8}
    (hrest : Ends rest) : atol (toString n ++ rest) = n := by
  unfold toString
  split
  · rename_i hneg
    have hdrop : (45 :: digits n.natAbs ++ rest).dropWhile isSpace =
        45 :: (digits n.natAbs ++ rest) := rfl
    unfold atol
    rw [hdrop]
    show clampLong (-(parseDigits (digits n.natAbs ++ rest) : ℤ)) = n
    rw [parseDigits_digits _ hrest, clampLong_of_mem] <;> omega
  · rename_i hpos
    rcases List.exists_cons_of_ne_nil (digits_ne_nil n.natAbs) with ⟨c, cs, hcs⟩
    have hc : isDigit c = true :=
      isDigit_of_mem_digits (n := n.natAbs) (by rw [hcs]; exact List.mem_cons_self)
    obtain ⟨hnot, hminus, hplus⟩ := not_special_of_isDigit hc
    have hdrop : (digits n.natAbs ++ rest).dropWhile isSpace = digits n.natAbs ++ rest := by
      rw [hcs, List.cons_append, List.dropWhile_cons_of_neg (by rw [hnot]; decide)]
    have hparse := parseDigits_digits n.natAbs hrest
    unfold atol
    rw [hdrop]
    rw [hcs, List.cons_append] at hparse ⊢
    split
    · rename_i heq
      exact absurd (List.cons.inj heq).1 hminus
    · rename_i heq
      exact absurd (List.cons.inj heq).1 hplus
    · rw [hparse, clampLong_of_mem] <;> omega

end Decimal
