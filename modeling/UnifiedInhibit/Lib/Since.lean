import Mathlib

/-!
# What is set by one element of a trace and cleared by a later one

A trace is a list of elements, oldest first. `Since set clear` says that some element sets a thing
and no later one clears it. Traces are read from their end, so `since_snoc` is the rule for
invariants, and `since_split` the rule for whole traces: only what follows the last element that
sets the thing counts.
-/

namespace Trace

variable {E : Type*} {set clear : E → Prop}

/-- An element sets it and no later one clears it. -/
def Since (set clear : E → Prop) (es : List E) : Prop :=
  ∃ pre e post, es = pre ++ e :: post ∧ set e ∧ ∀ f ∈ post, ¬ clear f

/-- The places of a trace with one more element at its end. -/
lemma snoc_split {es pre post : List E} {e x : E} (h : es ++ [x] = pre ++ e :: post) :
    (pre = es ∧ e = x ∧ post = []) ∨ ∃ post', es = pre ++ e :: post' ∧ post = post' ++ [x] := by
  rcases List.eq_nil_or_concat post with hnil | ⟨post', y, hpost⟩
  · rw [hnil] at h
    obtain ⟨hes, hx⟩ := List.append_inj' h rfl
    exact Or.inl ⟨hes.symm, (List.cons.inj hx).1.symm, hnil⟩
  · rw [List.concat_eq_append] at hpost
    rw [hpost, ← List.cons_append, ← List.append_assoc] at h
    obtain ⟨hes, hx⟩ := List.append_inj' h rfl
    rw [← (List.cons.inj hx).1] at hpost
    exact Or.inr ⟨post', hes, hpost⟩

lemma since_nil : ¬ Since set clear [] := by
  intro h
  obtain ⟨pre, e, post, hes, -⟩ := h
  simp at hes

/-- One more element sets it, or does not clear what is set already. -/
lemma since_snoc {es : List E} {x : E} :
    Since set clear (es ++ [x]) ↔ set x ∨ Since set clear es ∧ ¬ clear x := by
  constructor
  · intro h
    obtain ⟨pre, e, post, hes, hset, hpost⟩ := h
    rcases snoc_split hes with ⟨-, he, -⟩ | ⟨post', hes, hx⟩
    · rw [← he]
      exact Or.inl hset
    · rw [hx] at hpost
      refine Or.inr ⟨⟨pre, e, post', hes, hset, fun f hf => ?_⟩, ?_⟩
      · exact hpost f (List.mem_append_left _ hf)
      · exact hpost x (List.mem_append_right _ (List.mem_singleton_self x))
  · intro h
    rcases h with hset | ⟨⟨pre, e, post, hes, hset, hpost⟩, hx⟩
    · exact ⟨es, x, [], rfl, hset, fun f hf => absurd hf List.not_mem_nil⟩
    · refine ⟨pre, e, post ++ [x], ?_, hset, fun f hf => ?_⟩
      · rw [hes, List.append_assoc, List.cons_append]
      · rcases List.mem_append.mp hf with hf | hf
        · exact hpost f hf
        · rw [List.mem_singleton.mp hf]
          exact hx

/-- What is set was set by some element. -/
lemma Since.exists_set {es : List E} (h : Since set clear es) : ∃ e ∈ es, set e := by
  obtain ⟨pre, e, post, hes, hset, -⟩ := h
  exact ⟨e, by rw [hes]; exact List.mem_append_right _ List.mem_cons_self, hset⟩

/-- The last element that sets it. -/
lemma exists_last_set {es : List E} (h : ∃ e ∈ es, set e) :
    ∃ pre e post, es = pre ++ e :: post ∧ set e ∧ ∀ f ∈ post, ¬ set f := by
  induction es using List.reverseRecOn with
  | nil =>
    obtain ⟨e, he, -⟩ := h
    exact absurd he List.not_mem_nil
  | append_singleton es x ih =>
    by_cases hx : set x
    · exact ⟨es, x, [], rfl, hx, fun f hf => absurd hf List.not_mem_nil⟩
    · obtain ⟨e, he, hset⟩ := h
      have hold : e ∈ es := by
        rcases List.mem_append.mp he with he | he
        · exact he
        · rw [List.mem_singleton.mp he] at hset
          exact absurd hset hx
      obtain ⟨pre, e', post, hes, hset', hpost⟩ := ih ⟨e, hold, hset⟩
      refine ⟨pre, e', post ++ [x], ?_, hset', fun f hf => ?_⟩
      · rw [hes, List.append_assoc, List.cons_append]
      · rcases List.mem_append.mp hf with hf | hf
        · exact hpost f hf
        · rw [List.mem_singleton.mp hf]
          exact hx

/-- Only what follows the last element that sets it counts. -/
lemma since_split {pre post : List E} {e : E} (hset : set e) (hlast : ∀ f ∈ post, ¬ set f) :
    Since set clear (pre ++ e :: post) ↔ ∀ f ∈ post, ¬ clear f := by
  induction post using List.reverseRecOn with
  | nil =>
    rw [since_snoc]
    simp [hset]
  | append_singleton post x ih =>
    have hx : ¬ set x := hlast x (by simp)
    rw [← List.cons_append, ← List.append_assoc, since_snoc,
      ih fun f hf => hlast f (List.mem_append_left _ hf)]
    simp only [hx, false_or, List.mem_append, List.mem_singleton]
    constructor
    · intro h f hf
      rcases hf with hf | rfl
      · exact h.1 f hf
      · exact h.2
    · intro h
      exact ⟨fun f hf => h f (Or.inl hf), h x (Or.inr rfl)⟩

/-- Two ways of clearing the same thing agree exactly when they agree after the last element that
sets it. -/
theorem since_iff_since {clear' : E → Prop} {es : List E} :
    (Since set clear es ↔ Since set clear' es) ↔
      ∀ pre e post, es = pre ++ e :: post → set e → (∀ f ∈ post, ¬ set f) →
        ((∃ f ∈ post, clear f) ↔ ∃ f ∈ post, clear' f) := by
  constructor
  · intro h pre e post hes hset hlast
    rw [hes, since_split hset hlast, since_split hset hlast] at h
    have hnot := not_congr h
    push Not at hnot
    exact hnot
  · intro h
    by_cases hex : ∃ e ∈ es, set e
    · obtain ⟨pre, e, post, hes, hset, hlast⟩ := exists_last_set hex
      have hiff := not_congr (h pre e post hes hset hlast)
      push Not at hiff
      rw [hes, since_split hset hlast, since_split hset hlast]
      exact hiff
    · constructor
      · intro hs
        exact absurd hs.exists_set hex
      · intro hs
        exact absurd hs.exists_set hex

end Trace
