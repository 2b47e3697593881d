import UnifiedInhibit.Lib.Decimal
import UnifiedInhibit.Lib.Environ
import UnifiedInhibit.Types

/-!
# The environment in `main`

`src/main.cpp`: the environment is saved and cleared, three variables are set again, one of them to
a sanitised value, and in the end all saved entries are put back over them.
-/

namespace UnifiedInhibit
namespace MainEnvironment

open Decimal (isDigit)
open Environ (getenv setenv putenv)

/-- The loop of `cleanDisplayEnv` from the index `i` on. 58 is the colon. -/
def cleanFrom (i : UInt32) : Bytes → Bytes
  | [] => []
  | c :: cs =>
    if isDigit c || (c = 58 && i = 0) then c :: cleanFrom (i + 1) cs else cleanFrom (i + 1) cs

def cleanDisplayEnv (display : Bytes) : Bytes := cleanFrom 0 display

/-- `setenv(name, value, 0)`, unless the value is null. -/
def setUnlessNull (name : String) (value : Option Bytes) (environ : List Bytes) : List Bytes :=
  match value with
  | none => environ
  | some value => setenv (lit name) value environ

/-- `environ` between `clearenv` and the `putenv`s. -/
def cleaned (startEnv : List Bytes) : List Bytes :=
  let xdgRuntimeDir := getenv startEnv (lit "XDG_RUNTIME_DIR")
  let sessionBusEnv := getenv startEnv (lit "DBUS_SESSION_BUS_ADDRESS")
  let display := getenv startEnv (lit "DISPLAY")
  let cleanDisplay := (display.map cleanDisplayEnv).getD []
  let environ := setenv (lit "DISPLAY") cleanDisplay []
  let environ := setUnlessNull "DBUS_SESSION_BUS_ADDRESS" sessionBusEnv environ
  setUnlessNull "XDG_RUNTIME_DIR" xdgRuntimeDir environ

/-- `environ` behind the last `putenv`. -/
def restored (startEnv : List Bytes) : List Bytes := startEnv.foldl putenv (cleaned startEnv)

/-- An environment that a process can be started with. -/
structure StartEnv where
  entries : List Bytes
  distinct : Environ.Distinct entries

/-! ## What is restored -/

section Restored

variable {n : Bytes} (hn : 61 ∉ n)
include hn

lemma getenv_setUnlessNull {name : String} (hname : 61 ∉ lit name) (value : Option Bytes)
    (environ : List Bytes) :
    getenv (setUnlessNull name value environ) n =
      (getenv environ n).or (if n = lit name then value else none) := by
  cases value with
  | none => rw [ite_self, Option.or_none]; rfl
  | some value => exact Environ.getenv_setenv hname hn value environ

/-- Three names have a value while the environment is cleaned, two of them the one they had. -/
lemma getenv_cleaned (startEnv : List Bytes) :
    getenv (cleaned startEnv) n =
      if n = lit "DISPLAY" then some (((getenv startEnv n).map cleanDisplayEnv).getD [])
      else if n = lit "DBUS_SESSION_BUS_ADDRESS" ∨ n = lit "XDG_RUNTIME_DIR" then getenv startEnv n
      else none := by
  unfold cleaned
  dsimp only
  rw [getenv_setUnlessNull hn (by decide), getenv_setUnlessNull hn (by decide),
    Environ.getenv_setenv (by decide) hn]
  by_cases hdisplay : n = lit "DISPLAY"
  · rw [if_pos hdisplay, if_pos hdisplay, hdisplay]
    rfl
  rw [if_neg hdisplay, if_neg hdisplay]
  by_cases hbus : n = lit "DBUS_SESSION_BUS_ADDRESS"
  · have hxdg : n ≠ lit "XDG_RUNTIME_DIR" := by
      rw [hbus]
      decide
    rw [if_pos hbus, if_neg hxdg, if_pos (.inl hbus), Option.or_none, hbus]
    rfl
  · rw [if_neg hbus]
    by_cases hxdg : n = lit "XDG_RUNTIME_DIR"
    · rw [if_pos hxdg, if_pos (.inr hxdg), hxdg]
      rfl
    · rw [if_neg hxdg, if_neg (by tauto)]
      rfl

/-- Only `DISPLAY` can have a value that it did not have at the start. -/
lemma getenv_restored (start : StartEnv) :
    getenv (restored start.entries) n =
      (getenv start.entries n).or (if n = lit "DISPLAY" then some [] else none) := by
  unfold restored
  rw [Environ.getenv_foldl_putenv start.distinct hn, getenv_cleaned hn]
  -- what the saved entries define lies over the cleaned environment
  cases hvalue : getenv start.entries n with
  | some v => rfl
  | none =>
    rw [ite_self]
    rfl

end Restored

/-- The environment is restored exactly where `DISPLAY` was set. -/
theorem environment_restored_iff (start : StartEnv) :
    (∀ n, 61 ∉ n → getenv (restored start.entries) n = getenv start.entries n) ↔
      (getenv start.entries (lit "DISPLAY")).isSome := by
  constructor
  · intro h
    have hdisplay := h (lit "DISPLAY") (by decide)
    rw [getenv_restored (by decide), if_pos rfl] at hdisplay
    rw [← hdisplay]
    cases getenv start.entries (lit "DISPLAY") <;> rfl
  · intro hset n hn
    rw [getenv_restored hn]
    by_cases hdisplay : n = lit "DISPLAY"
    · obtain ⟨value, hvalue⟩ := Option.isSome_iff_exists.mp hset
      rw [hdisplay, hvalue]
      rfl
    · rw [if_neg hdisplay, Option.or_none]

/-- Without a display there is an empty one in the end. -/
theorem environment_restored_fails :
    let entries := [lit "HOME=/root"]
    Environ.Distinct entries ∧ getenv entries (lit "DISPLAY") = none ∧
      getenv (restored entries) (lit "DISPLAY") = some [] ∧
      ¬ ∀ n, 61 ∉ n → getenv (restored entries) n = getenv entries n := by
  intro entries
  have hentries : ∀ s ∈ entries, ∃ name value : Bytes,
      name ≠ [] ∧ 61 ∉ name ∧ s = Environ.entry name value := by
    intro s hs
    rw [List.mem_singleton.mp hs]
    exact ⟨lit "HOME", lit "/root", by decide, by decide, by decide⟩
  refine ⟨⟨hentries, by decide⟩, by decide, by decide, fun h => ?_⟩
  exact absurd (h (lit "DISPLAY") (by decide)) (by decide)

/-! ## The display -/

/-- The character with the index `k` is kept. -/
def Kept (k : ℕ) (c : UInt8) : Prop := isDigit c ∨ c = 58 ∧ k % 2 ^ 32 = 0

/-- Digits, with one colon in front or none. -/
def Safe (s : Bytes) : Prop :=
  ∃ ds : Bytes, (∀ c ∈ ds, isDigit c) ∧ (s = ds ∨ s = 58 :: ds)

/-- The number that digits stand for. -/
def number (ds : Bytes) : ℕ := Nat.ofDigits 10 (ds.reverse.map fun c => c.toNat - 48)

/-- The string is `:D` or `:D.S`. -/
def LocalDisplay (s D S : Bytes) : Prop :=
  D ≠ [] ∧ (∀ c ∈ D, isDigit c) ∧ (∀ c ∈ S, isDigit c) ∧
    (s = 58 :: D ∧ S = [] ∨ s = 58 :: D ++ 46 :: S)

/-- The string names the display with this number, on some screen or none. -/
def Names (s : Bytes) (display : ℕ) : Prop :=
  ∃ D S, LocalDisplay s D S ∧ number D = display

/-- What is kept is safe, and a display that is named is so still. -/
structure Sanitised (s : Bytes) : Prop where
  safe : Safe (cleanDisplayEnv s)
  names : ∀ D S, LocalDisplay s D S → Names (cleanDisplayEnv s) (number D)

/-- Nothing that is kept stands in front of a colon that is kept. -/
def ColonFirst (s : Bytes) : Prop :=
  ∀ j : ℕ, s[j]? = some 58 → j % 2 ^ 32 = 0 → ∀ k < j, ∀ c ∈ s[k]?, ¬ Kept k c

/-- The screen has no digits, or it and the display are zero. -/
def ScreenKeepsDisplay (s : Bytes) : Prop :=
  ∀ D S, LocalDisplay s D S → S = [] ∨ number D = 0 ∧ number S = 0

instance (k : ℕ) (c : UInt8) : Decidable (Kept k c) :=
  inferInstanceAs (Decidable (isDigit c ∨ c = 58 ∧ k % 2 ^ 32 = 0))

/-- The index is cut to 32 bits. -/
lemma cleanFrom_cons (n : ℕ) (c : UInt8) (cs : Bytes) :
    cleanFrom n.toUInt32 (c :: cs) =
      if Kept n c then c :: cleanFrom (n + 1).toUInt32 cs else cleanFrom (n + 1).toUInt32 cs := by
  have hnext : n.toUInt32 + 1 = (n + 1).toUInt32 := by
    rw [← UInt32.toNat_inj, UInt32.toNat_add]
    show (n % 2 ^ 32 + 1) % 2 ^ 32 = (n + 1) % 2 ^ 32
    omega
  have hzero : n.toUInt32 = 0 ↔ n % 2 ^ 32 = 0 := by
    rw [← UInt32.toNat_inj]
    rfl
  have hkept : (isDigit c || (c = 58 && n.toUInt32 = 0)) = true ↔ Kept n c := by
    unfold Kept
    simp only [Bool.or_eq_true, Bool.and_eq_true, decide_eq_true_eq, hzero]
  rw [cleanFrom, hnext]
  by_cases h : Kept n c
  · rw [if_pos h, if_pos (hkept.mpr h)]
  · rw [if_neg h, if_neg (fun hb => h (hkept.mp hb))]

lemma isDigit_colon : ¬ isDigit 58 := by decide

/-- Only digits are kept where no colon is. -/
lemma digits_cleanFrom_iff (n : ℕ) (s : Bytes) :
    (∀ c ∈ cleanFrom n.toUInt32 s, isDigit c) ↔
      ∀ j : ℕ, s[j]? = some 58 → (n + j) % 2 ^ 32 ≠ 0 := by
  induction s generalizing n with
  | nil => simp [cleanFrom]
  | cons c cs ih =>
    have hshift : (∀ j : ℕ, cs[j]? = some 58 → (n + 1 + j) % 2 ^ 32 ≠ 0) ↔
        ∀ j : ℕ, (c :: cs)[j + 1]? = some 58 → (n + (j + 1)) % 2 ^ 32 ≠ 0 := by
      refine forall_congr' fun j => ?_
      rw [List.getElem?_cons_succ, Nat.succ_add_eq_add_succ]
    rw [cleanFrom_cons, ← Nat.and_forall_add_one, ← hshift, ← ih, List.getElem?_cons_zero,
      Nat.add_zero, Option.some.injEq]
    by_cases hkept : Kept n c
    · rw [if_pos hkept, List.forall_mem_cons]
      refine and_congr_left fun _ => ⟨fun hdigit hcolon => ?_, fun hcolon => ?_⟩
      · rw [hcolon] at hdigit
        exact absurd hdigit isDigit_colon
      · exact hkept.resolve_right fun h => hcolon h.1 h.2
    · rw [if_neg hkept]
      exact ⟨fun h => ⟨fun hcolon hn => hkept (.inr ⟨hcolon, hn⟩), h⟩, And.right⟩

/-- Digits follow what is kept first. -/
lemma safe_cons_iff {n : ℕ} {c : UInt8} (hkept : Kept n c) (t : Bytes) :
    Safe (c :: t) ↔ ∀ d ∈ t, isDigit d := by
  constructor
  · rintro ⟨ds, hds, rfl | heq⟩
    · exact fun d hd => hds d (List.mem_cons_of_mem _ hd)
    · rwa [(List.cons.inj heq).2]
  · intro h
    rcases hkept with hdigit | ⟨rfl, -⟩
    · exact ⟨c :: t, List.forall_mem_cons.mpr ⟨hdigit, h⟩, .inl rfl⟩
    · exact ⟨t, h, .inr rfl⟩

/-- The rest of a string from the index `n` on is safe exactly where its colons come first. -/
lemma safe_cleanFrom_iff (n : ℕ) (s : Bytes) :
    Safe (cleanFrom n.toUInt32 s) ↔
      ∀ j : ℕ, s[j]? = some 58 → (n + j) % 2 ^ 32 = 0 → ∀ k < j, ∀ c ∈ s[k]?, ¬ Kept (n + k) c := by
  induction s generalizing n with
  | nil => exact ⟨fun _ j hj => absurd hj (by simp), fun _ => ⟨[], by simp, .inl rfl⟩⟩
  | cons c cs ih =>
    rw [cleanFrom_cons]
    have hshift (j : ℕ) : n + 1 + j = n + (j + 1) := Nat.succ_add_eq_add_succ n j
    by_cases hkept : Kept n c
    -- behind what is kept there must be no colon; where nothing is kept the next index is the first
    · rw [if_pos hkept, safe_cons_iff hkept, digits_cleanFrom_iff]
      constructor
      · intro h j hj hmod
        cases j with
        | zero => exact fun k hk => absurd hk (Nat.not_lt_zero k)
        | succ j =>
          rw [List.getElem?_cons_succ] at hj
          rw [← hshift] at hmod
          exact absurd hmod (h j hj)
      · intro h j hj hmod
        rw [hshift] at hmod
        exact h (j + 1) (by rwa [List.getElem?_cons_succ]) hmod 0 (Nat.succ_pos j) c rfl hkept
    · rw [if_neg hkept, ih]
      constructor
      · intro h j hj hmod k hk d hd
        cases j with
        | zero => exact absurd hk (Nat.not_lt_zero k)
        | succ j =>
          cases k with
          | zero =>
            have hdc : c = d := Option.some.inj hd
            rwa [← hdc]
          | succ k =>
            rw [List.getElem?_cons_succ] at hj hd
            rw [← hshift] at hmod ⊢
            exact h j hj hmod k (Nat.lt_of_succ_lt_succ hk) d hd
      · intro h j hj hmod k hk d hd
        rw [hshift] at hmod ⊢
        exact h (j + 1) (by rwa [List.getElem?_cons_succ]) hmod (k + 1) (Nat.succ_lt_succ hk) d
          (by rwa [List.getElem?_cons_succ])

lemma safe_cleanDisplayEnv_iff (s : Bytes) : Safe (cleanDisplayEnv s) ↔ ColonFirst s := by
  have h := safe_cleanFrom_iff 0 s
  simp only [Nat.zero_add] at h
  exact h

/-! ### The number of the display -/

lemma number_append (D S : Bytes) : number (D ++ S) = number D * 10 ^ S.length + number S := by
  unfold number
  rw [List.reverse_append, List.map_append, Nat.ofDigits_append, List.length_map,
    List.length_reverse]
  ring

/-- More digits keep a number only if there are none, or if all is zero. -/
lemma number_append_eq_iff (D S : Bytes) :
    number (D ++ S) = number D ↔ S = [] ∨ number D = 0 ∧ number S = 0 := by
  rw [number_append]
  constructor
  · intro h
    by_cases hS : S = []
    · exact .inl hS
    have hlen : S.length ≠ 0 := fun hzero => hS (List.length_eq_zero_iff.mp hzero)
    have hpow : 10 ≤ 10 ^ S.length := Nat.le_self_pow hlen 10
    have hmul : number D * 10 ≤ number D * 10 ^ S.length := Nat.mul_le_mul_left _ hpow
    exact .inr (by omega)
  · rintro (rfl | ⟨hD, hS⟩)
    · rw [List.length_nil, pow_zero, Nat.mul_one]
      rfl
    · rw [hD, hS, Nat.zero_mul]

lemma cleanFrom_digits (n : ℕ) {D : Bytes} (hD : ∀ c ∈ D, isDigit c) (rest : Bytes) :
    cleanFrom n.toUInt32 (D ++ rest) = D ++ cleanFrom (n + D.length).toUInt32 rest := by
  induction D generalizing n with
  | nil => rfl
  | cons c D ih =>
    obtain ⟨hc, hD⟩ := List.forall_mem_cons.mp hD
    rw [List.cons_append, cleanFrom_cons, if_pos (.inl hc), ih (n + 1) hD, List.length_cons,
      Nat.add_assoc, Nat.add_comm 1 D.length]
    rfl

/-- The digits of the display and of the screen join. -/
lemma cleanDisplayEnv_local {s D S : Bytes} (h : LocalDisplay s D S) :
    cleanDisplayEnv s = 58 :: (D ++ S) := by
  obtain ⟨-, hD, hS, hform⟩ := h
  have hdigits (n : ℕ) {T : Bytes} (hT : ∀ c ∈ T, isDigit c) : cleanFrom n.toUInt32 T = T := by
    have happend := cleanFrom_digits n hT []
    rw [List.append_nil] at happend
    rw [happend]
    exact List.append_nil T
  have hcolon (rest : Bytes) : cleanDisplayEnv (58 :: rest) = 58 :: cleanFrom (1).toUInt32 rest :=
    (cleanFrom_cons 0 58 rest).trans (if_pos (.inr ⟨rfl, rfl⟩))
  rcases hform with ⟨rfl, rfl⟩ | rfl
  · rw [hcolon, hdigits 1 hD, List.append_nil]
  · have hdot : ¬ Kept (1 + D.length) 46 := by
      rintro (hdigit | ⟨heq, -⟩)
      · exact absurd hdigit (by decide)
      · exact absurd heq (by decide)
    rw [List.cons_append, hcolon, cleanFrom_digits 1 hD, cleanFrom_cons, if_neg hdot, hdigits _ hS]

lemma names_joined_iff {D S : Bytes} (hne : D ≠ []) (hD : ∀ c ∈ D, isDigit c)
    (hS : ∀ c ∈ S, isDigit c) (display : ℕ) :
    Names (58 :: (D ++ S)) display ↔ number (D ++ S) = display := by
  have hjoined : ∀ c ∈ D ++ S, isDigit c := fun c hc =>
    (List.mem_append.mp hc).elim (hD c) (hS c)
  constructor
  · rintro ⟨D', S', ⟨-, -, -, ⟨heq, -⟩ | heq⟩, hnumber⟩
    · rw [(List.cons.inj heq).2, hnumber]
    · have hmem : 46 ∈ D ++ S := by
        rw [(List.cons.inj heq).2]
        exact List.mem_append_right _ List.mem_cons_self
      exact absurd (hjoined 46 hmem) (by decide)
  · intro h
    have hne' : D ++ S ≠ [] := fun hnil => hne (List.append_eq_nil_iff.mp hnil).1
    exact ⟨D ++ S, [], ⟨hne', hjoined, by simp, .inl ⟨rfl, rfl⟩⟩, h⟩

/-- A string is sanitised as it should be exactly where no colon follows what is kept, and where a
screen does not change the number of the display. -/
theorem cleanDisplayEnv_sanitised_iff (s : Bytes) :
    Sanitised s ↔ ColonFirst s ∧ ScreenKeepsDisplay s := by
  have hnames (D S : Bytes) (h : LocalDisplay s D S) : Names (cleanDisplayEnv s) (number D) ↔
      S = [] ∨ number D = 0 ∧ number S = 0 := by
    rw [cleanDisplayEnv_local h, names_joined_iff h.1 h.2.1 h.2.2.1, number_append_eq_iff]
  constructor
  · intro h
    exact ⟨(safe_cleanDisplayEnv_iff s).mp h.safe, fun D S hlocal =>
      (hnames D S hlocal).mp (h.names D S hlocal)⟩
  · rintro ⟨hcolon, hscreen⟩
    exact ⟨(safe_cleanDisplayEnv_iff s).mpr hcolon, fun D S hlocal =>
      (hnames D S hlocal).mpr (hscreen D S hlocal)⟩

/-- The first screen of the display 1 becomes the display 10. -/
theorem cleanDisplayEnv_sanitised_fails :
    LocalDisplay (lit ":1.0") (lit "1") (lit "0") ∧ cleanDisplayEnv (lit ":1.0") = lit ":10" ∧
      ¬ Sanitised (lit ":1.0") := by
  have hlocal : LocalDisplay (lit ":1.0") (lit "1") (lit "0") :=
    ⟨by decide, by decide +kernel, by decide +kernel, .inr (by decide)⟩
  refine ⟨hlocal, by decide, fun h => ?_⟩
  have hnames := h.names (lit "1") (lit "0") hlocal
  rw [cleanDisplayEnv_local hlocal, names_joined_iff hlocal.1 hlocal.2.1 hlocal.2.2.1] at hnames
  exact absurd hnames (by decide)

end MainEnvironment
end UnifiedInhibit
