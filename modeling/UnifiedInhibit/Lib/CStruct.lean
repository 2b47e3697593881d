import Mathlib

/-!
# Byte images of C structures

Little-endian integers, NUL-terminated strings and in-place writes on byte lists, as far as they
are needed to build a structure in memory and to read it back.
-/

namespace CStruct

/-! ## Integers -/

/-- The `w` little-endian bytes of `n` (modulo `256 ^ w`). -/
def leBytes : ℕ → ℕ → List UInt8
  | 0, _ => []
  | w + 1, n => n.toUInt8 :: leBytes w (n / 256)

/-- The number that little-endian bytes stand for. -/
def leValue (bytes : List UInt8) : ℕ := bytes.foldr (fun b n => b.toNat + 256 * n) 0

@[simp] lemma length_leBytes (w n : ℕ) : (leBytes w n).length = w := by
  induction w generalizing n with
  | zero => rfl
  | succ w ih => rw [leBytes, List.length_cons, ih]

lemma leValue_leBytes (w n : ℕ) : leValue (leBytes w n) = n % 256 ^ w := by
  induction w generalizing n with
  | zero => simp [leBytes, leValue, Nat.mod_one]
  | succ w ih =>
    have hhead : n.toUInt8.toNat = n % 256 := by simp
    show n.toUInt8.toNat + 256 * leValue (leBytes w (n / 256)) = _
    rw [ih, hhead, pow_succ', Nat.mod_mul]

/-- Bytes of full width determine the number. -/
lemma leBytes_inj {w n m : ℕ} (hn : n < 256 ^ w) (hm : m < 256 ^ w)
    (h : leBytes w n = leBytes w m) : n = m := by
  have hv := congrArg leValue h
  rw [leValue_leBytes, leValue_leBytes, Nat.mod_eq_of_lt hn, Nat.mod_eq_of_lt hm] at hv
  exact hv

/-! ## Strings -/

/-- The string at the start of `bytes`: what stands before the first NUL. -/
def cstr (bytes : List UInt8) : List UInt8 := bytes.takeWhile (· ≠ 0)

/-- The `n` bytes that `strncpy(dst, src, n)` writes. -/
def strncpy (n : ℕ) (src : List UInt8) : List UInt8 :=
  (cstr src).take n ++ List.replicate (n - (cstr src).length) 0

lemma cstr_of_notMem {s : List UInt8} (h : 0 ∉ s) : cstr s = s := by
  apply List.takeWhile_eq_self_iff.mpr
  intro b hb
  apply decide_eq_true
  rintro rfl
  exact h hb

/-- A NUL-free string is read back from in front of a NUL. -/
lemma cstr_append_zero {s : List UInt8} (h : 0 ∉ s) (rest : List UInt8) :
    cstr (s ++ 0 :: rest) = s := by
  have hs : ∀ b ∈ s, decide (b ≠ 0) = true := by
    intro b hb
    apply decide_eq_true
    rintro rfl
    exact h hb
  unfold cstr
  rw [List.takeWhile_append_of_pos hs, List.takeWhile_cons_of_neg (by decide), List.append_nil]

/-! ## Writing in place -/

/-- `memcpy(mem + offset, src, src.length)`. -/
def overwrite (mem : List UInt8) (offset : ℕ) (src : List UInt8) : List UInt8 :=
  mem.take offset ++ src ++ mem.drop (offset + src.length)

/-- A write inside the field `field` keeps what stands in front of and behind it. -/
lemma overwrite_field {front field back src : List UInt8} {offset : ℕ}
    (hoff : offset = front.length) (hsrc : src.length ≤ field.length) :
    overwrite (front ++ field ++ back) offset src =
      front ++ (src ++ field.drop src.length) ++ back := by
  have htake : (front ++ field ++ back).take offset = front := by
    rw [hoff, List.append_assoc, List.take_left]
  have hdrop : (front ++ field ++ back).drop (offset + src.length) =
      field.drop src.length ++ back := by
    rw [hoff, List.append_assoc, ← List.drop_drop, List.drop_left,
      List.drop_append_of_le_length hsrc]
  unfold overwrite
  rw [htake, hdrop]
  simp only [List.append_assoc]

/-- Writing the byte that is there already changes nothing. -/
lemma set_same {mem : List UInt8} {i : ℕ} {b : UInt8} (h : mem[i]? = some b) :
    mem.set i b = mem := by
  apply List.ext_getElem?
  intro j
  by_cases hij : i = j
  · subst hij
    have hlt : i < mem.length := by
      by_contra hge
      rw [List.getElem?_eq_none_iff.mpr (by omega)] at h
      cases h
    rw [List.getElem?_set_self hlt, h]
  · rw [List.getElem?_set_ne hij]

/-! ## Writes in order -/

/-- The bytes of `src` written from `offset` on, each with its place. -/
def writes (offset : ℕ) : List UInt8 → List (ℕ × UInt8)
  | [] => []
  | b :: src => (offset, b) :: writes (offset + 1) src

def applyWrites (mem : List UInt8) (ws : List (ℕ × UInt8)) : List UInt8 :=
  ws.foldl (fun mem w => mem.set w.1 w.2) mem

lemma mem_writes {offset : ℕ} {src : List UInt8} {w : ℕ × UInt8} (h : w ∈ writes offset src) :
    offset ≤ w.1 ∧ w.1 < offset + src.length := by
  induction src generalizing offset with
  | nil => cases h
  | cons b src ih =>
    rw [List.length_cons]
    rcases List.mem_cons.mp h with rfl | hrest
    · dsimp only
      omega
    · have := ih hrest
      omega

/-- `memcpy` byte for byte: the first byte and then the others. -/
lemma overwrite_cons {mem src : List UInt8} {b : UInt8} {offset : ℕ} (h : offset < mem.length) :
    overwrite mem offset (b :: src) = overwrite (mem.set offset b) (offset + 1) src := by
  -- the byte that is set ends what the other bytes are written behind
  have hset : mem.set offset b = (mem.take offset ++ [b]) ++ mem.drop (offset + 1) := by
    rw [List.set_eq_take_append_cons_drop, if_pos h, List.append_assoc, List.singleton_append]
  have hlen : (mem.take offset ++ [b]).length = offset + 1 := by
    rw [List.length_append, List.length_take_of_le h.le, List.length_singleton]
  have htake : (mem.set offset b).take (offset + 1) = mem.take offset ++ [b] := by
    rw [hset, List.take_left' hlen]
  have hdrop : (mem.set offset b).drop (offset + 1 + src.length) =
      mem.drop (offset + (b :: src).length) := by
    rw [hset, ← List.drop_drop, List.drop_left' hlen, List.drop_drop, List.length_cons]
    congr 1
    omega
  unfold overwrite
  rw [htake, hdrop]
  simp only [List.append_assoc, List.singleton_append]

lemma applyWrites_writes {mem src : List UInt8} {offset : ℕ}
    (h : offset + src.length ≤ mem.length) :
    applyWrites mem (writes offset src) = overwrite mem offset src := by
  induction src generalizing mem offset with
  | nil =>
    unfold overwrite
    rw [List.append_nil, List.length_nil, Nat.add_zero, List.take_append_drop]
    rfl
  | cons b src ih =>
    rw [List.length_cons] at h
    rw [overwrite_cons (by omega), ← ih (by rw [List.length_set]; omega)]
    rfl

/-! ## A string in a field of zeros -/

/-- `strncpy` fills up with NULs what the string leaves free. -/
lemma strncpy_eq (n : ℕ) (src : List UInt8) :
    strncpy n src = (cstr src).take n ++ List.replicate (n - ((cstr src).take n).length) 0 := by
  have hlen : n - ((cstr src).take n).length = n - (cstr src).length := by
    rw [List.length_take]
    omega
  unfold strncpy
  rw [hlen]

lemma length_strncpy (n : ℕ) (src : List UInt8) : (strncpy n src).length = n := by
  rw [strncpy_eq, List.length_append, List.length_replicate, List.length_take]
  omega

/-- A string of at least `n` bytes is clipped. -/
lemma strncpy_clipped {n : ℕ} {s : List UInt8} (h : 0 ∉ s) (hn : n ≤ s.length) :
    strncpy n s = s.take n := by
  unfold strncpy
  rw [cstr_of_notMem h, Nat.sub_eq_zero_of_le hn, List.replicate_zero, List.append_nil]

/-- What `strncpy` leaves of a field of zeros. -/
lemma overwrite_strncpy (front back src : List UInt8) {offset n size : ℕ}
    (hoff : offset = front.length) (hsize : size ≤ n) :
    overwrite (front ++ List.replicate n 0 ++ back) offset (strncpy size src) =
      front ++ ((cstr src).take size ++
        List.replicate (n - ((cstr src).take size).length) 0) ++ back := by
  have hle : ((cstr src).take size).length ≤ size := by
    rw [List.length_take]
    omega
  have hlen := length_strncpy size src
  have hsum : size - ((cstr src).take size).length + (n - size) =
      n - ((cstr src).take size).length := by omega
  rw [overwrite_field hoff (by rw [hlen, List.length_replicate]; exact hsize), hlen,
    List.drop_replicate, strncpy_eq, List.append_assoc ((cstr src).take size),
    ← List.replicate_add, hsum]

/-- Behind the string there is a NUL already. -/
lemma set_string (front back : List UInt8) {t : List UInt8} {offset n size : ℕ}
    (hoff : offset = front.length) (hle : t.length ≤ size) (hsize : size < n) :
    (front ++ (t ++ List.replicate (n - t.length) 0) ++ back).set (offset + size) 0 =
      front ++ (t ++ List.replicate (n - t.length) 0) ++ back := by
  apply set_same
  rw [List.append_assoc, List.append_assoc, hoff, List.getElem?_append_right (by omega),
    List.getElem?_append_right (by omega), List.getElem?_append_left
      (by rw [List.length_replicate]; omega), List.getElem?_replicate, if_pos (by omega)]

/-- A string that leaves room for its NUL is copied as it is. -/
lemma write_string (front back : List UInt8) {s : List UInt8} (h : 0 ∉ s) {offset n : ℕ}
    (hoff : offset = front.length) (hlt : s.length < n) :
    let mem := overwrite (front ++ List.replicate n 0 ++ back) offset (strncpy s.length s)
    mem = front ++ (s ++ List.replicate (n - s.length) 0) ++ back ∧
      mem.set (offset + s.length) 0 = mem := by
  intro mem
  have hmem : mem = front ++ (s ++ List.replicate (n - s.length) 0) ++ back := by
    have hwrite := overwrite_strncpy front back s hoff hlt.le
    rw [cstr_of_notMem h, List.take_length] at hwrite
    exact hwrite
  refine ⟨hmem, ?_⟩
  rw [hmem]
  exact set_string front back hoff (le_refl _) hlt

/-- A string is read back from in front of a NUL. -/
lemma cstr_padded {t : List UInt8} (h : 0 ∉ t) {k : ℕ} (hk : 0 < k) (rest : List UInt8) :
    cstr (t ++ List.replicate k 0 ++ rest) = t := by
  obtain ⟨j, rfl⟩ : ∃ j, k = j + 1 := ⟨k - 1, by omega⟩
  rw [List.replicate_succ, List.append_assoc, List.cons_append]
  exact cstr_append_zero h _

lemma zero_notMem_cstr (s : List UInt8) : 0 ∉ cstr s := by
  intro hmem
  have := List.mem_takeWhile_imp hmem
  exact absurd this (by decide)

end CStruct
