import Mathlib

/-!
# Terminated lines

A list of symbols with a terminator `nl` consists of complete lines and a rest whose terminator has
not come yet. Built on `List.splitOn`; statements about all inputs are proved line by line with
`line_induction`.
-/

namespace Lines

variable {α : Type*} [DecidableEq α] (nl : α)

/-- The complete lines, without their terminators. -/
def lines (xs : List α) : List (List α) := (xs.splitOn nl).dropLast

/-- What follows the last terminator. -/
def rest (xs : List α) : List α := (xs.splitOn nl).getLastD []

variable {nl}

/-- A list is empty of terminators or begins with a line. -/
lemma exists_line {xs : List α} (h : nl ∈ xs) :
    nl ∉ xs.takeWhile (· ≠ nl) ∧
      xs = xs.takeWhile (· ≠ nl) ++ nl :: xs.drop ((xs.takeWhile (· ≠ nl)).length + 1) := by
  constructor
  · intro hmem
    have hne := List.mem_takeWhile_imp hmem
    simp at hne
  · induction xs with
    | nil => exact absurd h List.not_mem_nil
    | cons x xs ih =>
      by_cases hx : x = nl
      · rw [hx]
        simp
      · have htail : nl ∈ xs := (List.mem_cons.mp h).resolve_left (Ne.symm hx)
        rw [List.takeWhile_cons_of_pos (by simpa using hx), List.cons_append, List.length_cons,
          List.drop_succ_cons]
        exact congrArg (x :: ·) (ih htail)

/-- What holds without terminators, and with a line in front where it held behind, holds. -/
theorem line_induction (nl : α) {P : List α → Prop} (h0 : ∀ xs, nl ∉ xs → P xs)
    (h1 : ∀ l xs, nl ∉ l → P xs → P (l ++ nl :: xs)) (xs : List α) : P xs := by
  induction hn : xs.length using Nat.strong_induction_on generalizing xs with
  | h n ih =>
    by_cases hmem : nl ∈ xs
    · obtain ⟨hl, hxs⟩ := exists_line hmem
      have hlen := congrArg List.length hxs
      rw [List.length_append, List.length_cons] at hlen
      rw [hxs]
      exact h1 _ _ hl (ih _ (by omega) _ rfl)
    · exact h0 xs hmem

/-! ## Lines and rest -/

lemma lines_of_notMem {xs : List α} (h : nl ∉ xs) : lines nl xs = [] := by
  unfold lines
  rw [List.splitOn_eq_singleton h]
  rfl

lemma rest_of_notMem {xs : List α} (h : nl ∉ xs) : rest nl xs = xs := by
  unfold rest
  rw [List.splitOn_eq_singleton h]
  rfl

lemma lines_line {l : List α} (h : nl ∉ l) (xs : List α) :
    lines nl (l ++ nl :: xs) = l :: lines nl xs := by
  unfold lines
  rw [List.splitOn_append_cons_self_of_not_mem h,
    List.dropLast_cons_of_ne_nil (List.splitOn_ne_nil nl xs)]

lemma rest_line {l : List α} (h : nl ∉ l) (xs : List α) :
    rest nl (l ++ nl :: xs) = rest nl xs := by
  unfold rest
  rw [List.splitOn_append_cons_self_of_not_mem h]
  rcases List.exists_cons_of_ne_nil (List.splitOn_ne_nil nl xs) with ⟨y, ys, hys⟩
  rw [hys, List.getLastD_cons, List.getLastD_cons, List.getLastD_cons]

lemma notMem_rest (nl : α) (xs : List α) : nl ∉ rest nl xs := by
  induction xs using line_induction nl with
  | h0 xs h =>
    rw [rest_of_notMem h]
    exact h
  | h1 l xs hl ih =>
    rw [rest_line hl]
    exact ih

lemma lines_eq_nil_iff {xs : List α} : lines nl xs = [] ↔ nl ∉ xs := by
  constructor
  · intro h hmem
    obtain ⟨hl, hxs⟩ := exists_line hmem
    rw [hxs, lines_line hl] at h
    exact List.cons_ne_nil _ _ h
  · exact lines_of_notMem

/-! ## Concatenation -/

lemma lines_append (xs ys : List α) :
    lines nl (xs ++ ys) = lines nl xs ++ lines nl (rest nl xs ++ ys) := by
  induction xs using line_induction nl with
  | h0 xs h => rw [lines_of_notMem h, rest_of_notMem h, List.nil_append]
  | h1 l xs hl ih =>
    rw [List.append_assoc, List.cons_append, lines_line hl, lines_line hl, rest_line hl, ih,
      List.cons_append]

lemma rest_append (xs ys : List α) : rest nl (xs ++ ys) = rest nl (rest nl xs ++ ys) := by
  induction xs using line_induction nl with
  | h0 xs h => rw [rest_of_notMem h]
  | h1 l xs hl ih => rw [List.append_assoc, List.cons_append, rest_line hl, rest_line hl, ih]

/-! ## Pieces -/

/-- The pieces of a split have no separator, and their symbols come from the list. -/
lemma mem_splitOn {xs x : List α} (h : x ∈ xs.splitOn nl) : nl ∉ x ∧ x ⊆ xs := by
  induction xs using line_induction nl with
  | h0 xs hxs =>
    rw [List.splitOn_eq_singleton hxs] at h
    rw [List.mem_singleton.mp h]
    exact ⟨hxs, List.Subset.refl xs⟩
  | h1 l xs hl ih =>
    rw [List.splitOn_append_cons_self_of_not_mem hl] at h
    rcases List.mem_cons.mp h with heq | h
    · rw [heq]
      exact ⟨hl, List.subset_append_left _ _⟩
    · obtain ⟨hnot, hsub⟩ := ih h
      refine ⟨hnot, fun a ha => ?_⟩
      exact List.mem_append_right _ (List.mem_cons_of_mem _ (hsub ha))

/-- With a terminator at its end, every piece of a list is a line. -/
lemma lines_snoc (xs : List α) : lines nl (xs ++ [nl]) = xs.splitOn nl := by
  unfold lines
  rw [List.splitOn_append_cons_self]
  exact List.dropLast_concat

lemma rest_snoc (xs : List α) : rest nl (xs ++ [nl]) = [] := by
  rw [rest_append, rest_line (notMem_rest nl xs), rest_of_notMem List.not_mem_nil]

/-- A list whose pieces behind the first are empty ends in its terminators. -/
lemma eq_append_replicate {xs x : List α} {ps : List (List α)} (h : xs.splitOn nl = x :: ps)
    (hps : ∀ p ∈ ps, p = []) : nl ∉ x ∧ xs = x ++ List.replicate ps.length nl := by
  induction xs using line_induction nl generalizing x ps with
  | h0 xs hxs =>
    rw [List.splitOn_eq_singleton hxs] at h
    obtain ⟨hx, hnil⟩ := List.cons.inj h
    rw [← hx, ← hnil]
    exact ⟨hxs, by simp⟩
  | h1 l xs hl ih =>
    rw [List.splitOn_append_cons_self_of_not_mem hl] at h
    obtain ⟨hx, htail⟩ := List.cons.inj h
    rcases List.exists_cons_of_ne_nil (List.splitOn_ne_nil nl xs) with ⟨q, qs, hqs⟩
    rw [hqs] at htail
    obtain ⟨-, hxs⟩ := ih hqs fun p hp => hps p (by rw [← htail]; exact List.mem_cons_of_mem _ hp)
    have hq : q = [] := hps q (by rw [← htail]; exact List.mem_cons_self)
    rw [← hx, ← htail]
    refine ⟨hl, ?_⟩
    rw [hxs, hq, List.nil_append, List.length_cons, List.replicate_succ]

lemma splitOn_append_replicate {x : List α} (h : nl ∉ x) (k : ℕ) :
    (x ++ List.replicate k nl).splitOn nl = x :: List.replicate k [] := by
  induction k generalizing x with
  | zero => simp [List.splitOn_eq_singleton h]
  | succ k ih =>
    rw [List.replicate_succ, List.splitOn_append_cons_self_of_not_mem h]
    have hnil := ih (x := []) List.not_mem_nil
    rw [List.nil_append] at hnil
    rw [hnil, List.replicate_succ]

/-- Terminated lines, one after the other, are read back. -/
lemma lines_flatten {ls : List (List α)} (h : ∀ l ∈ ls, nl ∉ l) :
    lines nl (ls.map (· ++ [nl])).flatten = ls := by
  induction ls with
  | nil => exact lines_of_notMem List.not_mem_nil
  | cons l ls ih =>
    have hl : nl ∉ l := h l List.mem_cons_self
    have hrest := ih fun l hl => h l (List.mem_cons_of_mem _ hl)
    rw [List.map_cons, List.flatten_cons, List.append_assoc, List.singleton_append, lines_line hl,
      hrest]

end Lines
