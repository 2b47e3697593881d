import Mathlib

/-!
# Runs of a step function

A system here is a step function `step : S → E → S` over states `S` and events `E`. A run is a
list of events folded from a start state. What a run may contain is stated per step: `Along step
ok s es` says that each event of `es` meets `ok` in the state it arrives in. Invariants are proved
for one step and lifted to runs by `invariant`; a property that a step preserves *exactly* when it
meets a condition is lifted by `forall_prefix_iff_along`.
-/

namespace Transition

variable {S E : Type*} (step : S → E → S) (ok : S → E → Prop)

/-- The state in which the run of `es` from `s` ends. -/
def run (s : S) (es : List E) : S := es.foldl step s

/-- Each event of the run of `es` from `s` meets `ok` in the state it arrives in. -/
def Along : S → List E → Prop
  | _, [] => True
  | s, e :: es => ok s e ∧ Along (step s e) es

instance decidableAlong [∀ s e, Decidable (ok s e)] : ∀ s es, Decidable (Along step ok s es)
  | _, [] => isTrue trivial
  | s, e :: es =>
    have : Decidable (Along step ok (step s e) es) := decidableAlong (step s e) es
    inferInstanceAs (Decidable (ok s e ∧ Along step ok (step s e) es))

variable {step ok}

@[simp] lemma run_nil (s : S) : run step s [] = s := rfl

@[simp] lemma run_cons (s : S) (e : E) (es : List E) :
    run step s (e :: es) = run step (step s e) es := rfl

lemma run_append (s : S) (es fs : List E) :
    run step s (es ++ fs) = run step (run step s es) fs :=
  List.foldl_append

lemma run_snoc (s : S) (es : List E) (e : E) :
    run step s (es ++ [e]) = step (run step s es) e := by
  rw [run_append, run_cons, run_nil]

@[simp] lemma along_nil (s : S) : Along step ok s [] := trivial

@[simp] lemma along_cons {s : S} {e : E} {es : List E} :
    Along step ok s (e :: es) ↔ ok s e ∧ Along step ok (step s e) es := Iff.rfl

lemma along_append {s : S} {es fs : List E} :
    Along step ok s (es ++ fs) ↔ Along step ok s es ∧ Along step ok (run step s es) fs := by
  induction es generalizing s with
  | nil => simp
  | cons e es ih => simp only [List.cons_append, along_cons, ih, run_cons, and_assoc]

lemma along_snoc {s : S} {es : List E} {e : E} :
    Along step ok s (es ++ [e]) ↔ Along step ok s es ∧ ok (run step s es) e := by
  simp only [along_append, along_cons, along_nil, and_true]

/-- The invariant rule: what holds at the start and is preserved by each allowed step holds at
the end of each allowed run. -/
theorem invariant {I : S → Prop} {s : S} {es : List E} (h0 : I s)
    (hstep : ∀ s e, I s → ok s e → I (step s e)) (hrun : Along step ok s es) :
    I (run step s es) := by
  induction es generalizing s with
  | nil => exact h0
  | cons e es ih => exact ih (hstep s e h0 hrun.1) hrun.2

/-- The invariant rule for unrestricted runs. -/
theorem invariant_all {I : S → Prop} {s : S} (h0 : I s)
    (hstep : ∀ s e, I s → I (step s e)) (es : List E) : I (run step s es) := by
  induction es generalizing s with
  | nil => exact h0
  | cons e es ih => exact ih (hstep s e h0)

/-- Two conditions on steps that agree wherever the invariant holds and the step is allowed agree
along every allowed run. -/
theorem along_congr {I : S → Prop} {P Q : S → E → Prop} {s : S} {es : List E} (h0 : I s)
    (hstep : ∀ s e, I s → ok s e → I (step s e))
    (hiff : ∀ s e, I s → ok s e → (P s e ↔ Q s e)) (hrun : Along step ok s es) :
    Along step P s es ↔ Along step Q s es := by
  induction es generalizing s with
  | nil => exact Iff.rfl
  | cons e es ih =>
    rw [along_cons, along_cons, hiff s e h0 hrun.1, ih (hstep s e h0 hrun.1) hrun.2]

/-- If, on the invariant, an allowed step keeps `P` exactly when it meets `Q`, then `P` holds after
every prefix of an allowed run exactly when the whole run meets `Q`. -/
theorem forall_prefix_iff_along_of {I P : S → Prop} {Q : S → E → Prop} {s : S} {es : List E}
    (hI : I s) (hP : P s) (hstep : ∀ s e, I s → ok s e → I (step s e))
    (hexact : ∀ s e, I s → P s → ok s e → (P (step s e) ↔ Q s e)) (hrun : Along step ok s es) :
    (∀ fs, fs <+: es → P (run step s fs)) ↔ Along step Q s es := by
  induction es generalizing s with
  | nil =>
    refine ⟨fun _ => trivial, fun _ fs hfs => ?_⟩
    rw [List.prefix_nil.mp hfs]
    exact hP
  | cons e es ih =>
    obtain ⟨hok, hrest⟩ := hrun
    constructor
    · intro h
      have he : P (step s e) := h [e] (by simp)
      have htail := (ih (hstep s e hI hok) he hrest).mp
      refine ⟨(hexact s e hI hP hok).mp he, htail fun fs hfs => ?_⟩
      exact h (e :: fs) (List.cons_prefix_cons.mpr ⟨rfl, hfs⟩)
    · rintro ⟨hQ, hall⟩ fs hfs
      have he : P (step s e) := (hexact s e hI hP hok).mpr hQ
      cases fs with
      | nil => exact hP
      | cons f fs =>
        obtain ⟨rfl, htail⟩ := List.cons_prefix_cons.mp hfs
        exact (ih (hstep s f hI hok) he hrest).mpr hall fs htail

lemma along_true (s : S) (es : List E) : Along step (fun _ _ => True) s es := by
  induction es generalizing s with
  | nil => trivial
  | cons e es ih => exact ⟨trivial, ih (step s e)⟩

/-- If, on the invariant, a step keeps `P` exactly when it meets `ok`, then `P` holds after every
prefix of a run exactly when the whole run meets `ok`. -/
theorem forall_prefix_iff_along {I P : S → Prop} {s : S} {es : List E} (hI : I s) (hP : P s)
    (hstep : ∀ s e, I s → I (step s e))
    (hexact : ∀ s e, I s → P s → (P (step s e) ↔ ok s e)) :
    (∀ fs, fs <+: es → P (run step s fs)) ↔ Along step ok s es :=
  forall_prefix_iff_along_of hI hP (fun s e h _ => hstep s e h) (fun s e h hp _ => hexact s e h hp)
    (along_true s es)

lemma along_and {P Q : S → E → Prop} {s : S} {es : List E} :
    Along step (fun s e => P s e ∧ Q s e) s es ↔ Along step P s es ∧ Along step Q s es := by
  induction es generalizing s with
  | nil => simp
  | cons e es ih =>
    simp only [along_cons, ih]
    tauto

/-- The invariant rule for steps: a condition that follows from another in each allowed step, where
it also carries the invariant to the next one, follows along each allowed run. -/
theorem along_imp {I : S → Prop} {P Q : S → E → Prop} {s : S} {es : List E} (h0 : I s)
    (hstep : ∀ s e, I s → ok s e → Q s e → I (step s e))
    (himp : ∀ s e, I s → ok s e → P s e → Q s e) (hrun : Along step ok s es)
    (hP : Along step P s es) : Along step Q s es := by
  induction es generalizing s with
  | nil => trivial
  | cons e es ih =>
    have he : Q s e := himp s e h0 hrun.1 hP.1
    exact ⟨he, ih (hstep s e h0 hrun.1 he) hrun.2 hP.2⟩

/-- If, on the invariant, `P` holds after an allowed step exactly when it held before and the step
meets `Q`, then `P` holds after an allowed run exactly when it held at its start and the whole run
meets `Q`. -/
theorem run_iff_along {I P : S → Prop} {Q : S → E → Prop} {s : S} {es : List E} (h0 : I s)
    (hstep : ∀ s e, I s → ok s e → I (step s e))
    (hiff : ∀ s e, I s → ok s e → (P (step s e) ↔ P s ∧ Q s e)) (hrun : Along step ok s es) :
    P (run step s es) ↔ P s ∧ Along step Q s es := by
  induction es generalizing s with
  | nil => simp
  | cons e es ih =>
    rw [run_cons, along_cons, ih (hstep s e h0 hrun.1) hrun.2, hiff s e h0 hrun.1, and_assoc]

end Transition
