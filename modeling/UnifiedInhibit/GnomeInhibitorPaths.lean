import UnifiedInhibit.GnomeSessionManagerInhibitInterface
import UnifiedInhibit.Lib.Decimal

/-!
# The paths of inhibitor objects

`GetInhibitors`, `InhibitorAdded` and `InhibitorRemoved` write the cookie behind the path in
decimal, as an unsigned number. `inhibitorPathToCookie` reads it through `std::stoi`, so only as far
as an `int` goes.
-/

namespace UnifiedInhibit
namespace GnomeSessionManagerInhibitInterface

/-- The path of the inhibitor object with this cookie. -/
def inhibitorPath (cookie : UInt32) : Bytes := lit (PATH ++ "/Inhibitor" ++ toString cookie.toNat)

/-- The digits in the last part of a path. -/
def lastDigits (path : Bytes) : Bytes :=
  ((path.reverse.takeWhile (· ≠ 47)).reverse).filter isdigit

/-- The number that they write, 0 if there are none. -/
def lastNumber (path : Bytes) : ℕ :=
  Nat.ofDigits 10 ((lastDigits path).reverse.map fun c => c.toNat - 48)

/-! ## Reading -/

lemma foldl_lastDigits (path : Bytes) :
    path.foldl (fun buf c =>
      let buf := if c = 47 then [] else buf
      if isdigit c then buf ++ [c] else buf) [] = lastDigits path := by
  induction path using List.reverseRecOn with
  | nil => rfl
  | append_singleton path c ih =>
    rw [List.foldl_append, List.foldl_cons, List.foldl_nil, ih]
    unfold lastDigits
    rw [List.reverse_append, List.reverse_singleton, List.singleton_append]
    by_cases hslash : c = 47
    · rw [List.takeWhile_cons_of_neg (by simp [hslash]), hslash]
      rfl
    · rw [List.takeWhile_cons_of_pos (by simp [hslash]), List.reverse_cons, List.filter_append]
      cases hdigit : isdigit c <;> simp [hslash, hdigit]

lemma foldl_ofDigits (ds : Bytes) :
    ds.foldl (fun (n : ℕ) c => 10 * n + (c.toNat - 48)) 0 =
      Nat.ofDigits 10 (ds.reverse.map fun c => c.toNat - 48) := by
  induction ds using List.reverseRecOn with
  | nil => rfl
  | append_singleton ds c ih =>
    rw [List.foldl_append, List.foldl_cons, List.foldl_nil, ih, List.reverse_append,
      List.reverse_singleton, List.singleton_append, List.map_cons, Nat.ofDigits_cons]
    omega

/-- `std::stoi` throws exactly beyond the range of `int`. -/
lemma inhibitorPathToCookie_eq (path : Bytes) :
    inhibitorPathToCookie path =
      if lastNumber path ≤ 2147483647 then .ok (lastNumber path).toUInt32
      else .error (.std "stoi") := by
  unfold inhibitorPathToCookie
  rw [foldl_lastDigits]
  dsimp only
  rw [foldl_ofDigits]
  by_cases hnil : lastDigits path = []
  · have hzero : lastNumber path = 0 := by
      unfold lastNumber
      rw [hnil]
      rfl
    rw [if_pos hnil, hzero, if_pos (by omega)]
    rfl
  · rw [if_neg hnil]
    rfl

/-! ## Writing -/

lemma lit_append (s t : String) : lit (s ++ t) = lit s ++ lit t := by
  unfold lit
  rw [String.toList_append, List.map_append]

/-- `std::to_string` of an unsigned number. -/
lemma lit_toString (n : ℕ) : lit (toString n) = Decimal.digits n := by
  have hchar : ∀ d < 10, (Nat.digitChar d).toNat.toUInt8 = (48 + d).toUInt8 := by decide
  unfold lit
  rw [Nat.toString_eq_ofList_toDigits, String.toList_ofList]
  induction n using Nat.strong_induction_on with
  | _ n ih =>
    rw [Nat.toDigits_eq_if (by decide)]
    unfold Decimal.digits
    by_cases hlt : n < 10
    · rw [if_pos hlt, List.map_singleton, hchar n hlt]
      by_cases hzero : n = 0
      · rw [if_pos hzero, hzero]
        rfl
      · rw [if_neg hzero, Nat.digits_of_lt 10 n hzero hlt]
        rfl
    · have hrest : n / 10 ≠ 0 := by omega
      have ih := ih (n / 10) (by omega)
      unfold Decimal.digits at ih
      rw [if_neg hrest] at ih
      rw [if_neg hlt, if_neg (by omega), List.map_append, List.map_singleton, ih,
        hchar _ (by omega), Nat.digits_def' (by decide) (by omega : 0 < n), List.map_cons,
        List.reverse_cons]

lemma inhibitorPath_eq (cookie : UInt32) :
    inhibitorPath cookie = lit PATH ++ 47 :: (lit "Inhibitor" ++ Decimal.digits cookie.toNat) := by
  unfold inhibitorPath
  rw [lit_append, lit_append, lit_toString, List.append_assoc]
  rfl

/-- The path of every cookie writes that cookie. -/
lemma lastNumber_inhibitorPath (cookie : UInt32) :
    lastNumber (inhibitorPath cookie) = cookie.toNat := by
  have hslash : ∀ c ∈ lit "Inhibitor" ++ Decimal.digits cookie.toNat, c ≠ 47 := by
    intro c hc
    have hword : (47 : UInt8) ∉ lit "Inhibitor" := by decide
    rintro rfl
    rcases List.mem_append.mp hc with hc | hc
    · exact hword hc
    · exact absurd (Decimal.isDigit_of_mem_digits hc) (by decide)
  have hlast : lastDigits (inhibitorPath cookie) = Decimal.digits cookie.toNat := by
    unfold lastDigits
    rw [inhibitorPath_eq, List.reverse_append, List.reverse_cons, List.append_assoc,
      List.takeWhile_append_of_pos, List.singleton_append, List.takeWhile_cons_of_neg (by simp),
      List.append_nil, List.reverse_reverse, List.filter_append]
    · have hword : (lit "Inhibitor").filter isdigit = [] := by decide
      rw [hword, List.nil_append]
      exact List.filter_eq_self.mpr fun c hc => Decimal.isDigit_of_mem_digits hc
    · intro c hc
      exact decide_eq_true (hslash c (List.mem_reverse.mp hc))
  have hparse := Decimal.parseDigits_digits cookie.toNat Decimal.ends_nil
  unfold lastNumber
  rw [hlast, ← foldl_ofDigits]
  unfold Decimal.parseDigits at hparse
  rw [List.append_nil, List.takeWhile_eq_self_iff.mpr fun c hc =>
    Decimal.isDigit_of_mem_digits hc] at hparse
  exact hparse

lemma inhibitorPath_inj {c d : UInt32} (h : inhibitorPath c = inhibitorPath d) : c = d := by
  have hnumber := congrArg lastNumber h
  rw [lastNumber_inhibitorPath, lastNumber_inhibitorPath] at hnumber
  exact UInt32.toNat_inj.mp hnumber

/-! ## Decoding -/

/-- The outcome is one that the callers of `inhibitorPathToCookie` handle. -/
def Handled : Except Exn UInt32 → Prop
  | .ok _ => True
  | .error e => e = .notFound

/-- The path of a cookie is read back exactly below `2 ^ 31`, and a path makes
`inhibitorPathToCookie` throw what nobody handles exactly when it writes a greater number. -/
theorem inhibitorPath_decodes_iff (cookie : UInt32) (path : Bytes) :
    (inhibitorPathToCookie (inhibitorPath cookie) = .ok cookie ↔ cookie.toNat < 2 ^ 31) ∧
      (Handled (inhibitorPathToCookie path) ↔ lastNumber path < 2 ^ 31) := by
  constructor
  · rw [inhibitorPathToCookie_eq, lastNumber_inhibitorPath]
    by_cases hle : cookie.toNat ≤ 2147483647
    · rw [if_pos hle]
      refine iff_of_true ?_ (by omega)
      exact congrArg Except.ok UInt32.ofNat_toNat
    · rw [if_neg hle]
      exact iff_of_false (by simp) (by omega)
  · rw [inhibitorPathToCookie_eq]
    by_cases hle : lastNumber path ≤ 2147483647
    · rw [if_pos hle]
      exact iff_of_true trivial (by omega)
    · rw [if_neg hle]
      refine iff_of_false ?_ (by omega)
      intro h
      exact absurd h (by simp [Handled])

/-- The first cookie that is not read back, and the same path from a client. -/
theorem inhibitorPath_decodes_fails :
    inhibitorPathToCookie (inhibitorPath 2147483648) ≠ .ok 2147483648 ∧
      ¬ Handled
        (inhibitorPathToCookie (lit "/org/gnome/SessionManager/Inhibitor2147483648")) := by
  have hnumber : lastNumber (lit "/org/gnome/SessionManager/Inhibitor2147483648") =
      2147483648 := by decide +kernel
  rw [inhibitorPathToCookie_eq, inhibitorPathToCookie_eq, lastNumber_inhibitorPath, hnumber,
    if_neg (by decide), if_neg (by decide)]
  exact ⟨by simp, by simp [Handled]⟩

end GnomeSessionManagerInhibitInterface
end UnifiedInhibit
