import UnifiedInhibit.Feeders

/-!
# What the feeders push

`Feeder.Synced` ties the last command to `lastInhibited` and survives every `callEvent`; with it a
feeder always shows the state of its own `activeInhibits`. That map has room for one inhibit only,
as all ids are empty: `pushed_step_iff` says exactly which calls this spoils.
-/

namespace UnifiedInhibit

lemma InhibitType.has_screensaver (t : InhibitType) : t.has SCREENSAVER = t.getLsbD 0 := by
  unfold has SCREENSAVER NONE
  rw [show (1 : BitVec 32) = 1#32 from rfl, BitVec.and_one_eq_setWidth_ofBool_getLsbD]
  cases t.getLsbD 0 <;> decide

lemma InhibitType.and_screensaver_eq_iff (s t : InhibitType) :
    s &&& SCREENSAVER = t &&& SCREENSAVER ↔ s.has SCREENSAVER = t.has SCREENSAVER := by
  rw [has_screensaver, has_screensaver]
  unfold SCREENSAVER
  rw [show (1 : BitVec 32) = 1#32 from rfl, BitVec.and_one_eq_setWidth_ofBool_getLsbD,
    BitVec.and_one_eq_setWidth_ofBool_getLsbD]
  cases s.getLsbD 0 <;> cases t.getLsbD 0 <;> decide

namespace Feeder

open InhibitType (SCREENSAVER NONE)

variable (f : Feeder)

/-! ## The push -/

/-- The last command, `lastInhibited` and `lastInhibitState` agree on the screensaver. -/
structure Synced (o : InhibitInterface Fields) : Prop where
  ok : o.sub.ok = true
  last : o.sub.lastInhibited.has SCREENSAVER = o.lastInhibitState.has SCREENSAVER
  command : f.Disabled o.sub ↔ o.sub.lastInhibited.has SCREENSAVER

variable {f}

/-- A pushed state change is the last command, and what is not pushed has not changed. -/
lemma handleInhibitStateChanged_spec (t : InhibitType) (i : Inhibit) {s : Fields}
    (hok : s.ok = true) (hcmd : f.Disabled s ↔ s.lastInhibited.has SCREENSAVER) :
    (f.handleInhibitStateChanged t i s).ok = true ∧
      (f.handleInhibitStateChanged t i s).lastInhibited.has SCREENSAVER = t.has SCREENSAVER ∧
      (f.Disabled (f.handleInhibitStateChanged t i s) ↔ t.has SCREENSAVER) := by
  unfold handleInhibitStateChanged
  rw [if_neg (by rw [hok]; decide)]
  by_cases hsame : t &&& SCREENSAVER = s.lastInhibited &&& SCREENSAVER
  · rw [if_pos hsame]
    have hbit := (InhibitType.and_screensaver_eq_iff _ _).mp hsame
    exact ⟨hok, hbit.symm, by rw [hbit]; exact hcmd⟩
  · rw [if_neg hsame]
    refine ⟨hok, rfl, ?_⟩
    show List.getLast? (s.issued ++ [_]) = some _ ↔ _
    rw [List.getLast?_append_of_ne_nil _ (List.cons_ne_nil _ _), List.getLast?_singleton,
      Option.some.injEq]
    split
    · rename_i ht
      exact iff_of_true rfl ht
    · rename_i ht
      exact iff_of_false (fun h => f.commands.distinct h.symm) ht

/-- `callEvent` keeps the agreement and records what is inhibited now. -/
lemma callEvent_synced {o : InhibitInterface Fields} (h : Synced f o) (b : Bool) (i : Inhibit) :
    Synced f (InhibitInterface.callEvent f.overrides b i o) ∧
      (InhibitInterface.callEvent f.overrides b i o).lastInhibitState = o.inhibited := by
  -- the two event hooks are empty
  have hsub : (if b then f.overrides.handleInhibitEvent i o.sub
      else f.overrides.handleUnInhibitEvent i o.sub) = o.sub := by
    split <;> rfl
  unfold InhibitInterface.callEvent
  rw [hsub]
  dsimp only
  split
  · obtain ⟨hok, hlast, hcmd⟩ := handleInhibitStateChanged_spec o.inhibited i h.ok h.command
    exact ⟨⟨hok, hlast, hcmd.trans (Bool.eq_iff_iff.mp hlast).symm⟩, rfl⟩
  · rename_i hsame
    exact ⟨h, (not_not.mp hsame).symm⟩

/-! ## The invariant -/

/-- A feeder shows its `activeInhibits`, which hold at most one of the held inhibits, under the
empty id. -/
structure Showing (f : Feeder) (s : State) : Prop where
  synced : Synced f s.obj
  last : s.obj.lastInhibitState = s.obj.inhibited
  keys : ∀ (id : InhibitID) (i : Inhibit), s.obj.activeInhibits[id]? = some i → id = [] ∧ i ∈ s.held
  ids : ∀ i ∈ s.held, i.id = []

lemma initial_showing : Showing f initial where
  synced := by
    refine ⟨rfl, rfl, iff_of_false ?_ (by decide)⟩
    rintro ⟨⟩
  last := rfl
  keys _ _ h := by
    rw [show initial.obj.activeInhibits = ∅ from rfl, Std.ExtTreeMap.getElem?_empty] at h
    cases h
  ids _ h := absurd h List.not_mem_nil

/-- The screensaver is inhibited exactly when the one active inhibit has the bit. -/
lemma Showing.inhibited_iff {s : State} (h : Showing f s) :
    s.obj.inhibited.has SCREENSAVER ↔ ∃ i, s.obj.activeInhibits[([] : InhibitID)]? = some i ∧
      i.type.has SCREENSAVER := by
  rw [Base.inhibited_has]
  constructor
  · rintro ⟨id, i, hi, hbit⟩
    obtain ⟨rfl, -⟩ := h.keys id i hi
    exact ⟨i, hi, hbit⟩
  · rintro ⟨i, hi, hbit⟩
    exact ⟨[], i, hi, hbit⟩

lemma Showing.disabled_iff {s : State} (h : Showing f s) :
    f.Disabled s.obj.sub ↔ ∃ i, s.obj.activeInhibits[([] : InhibitID)]? = some i ∧
      i.type.has SCREENSAVER := by
  rw [h.synced.command, h.synced.last, h.last, h.inhibited_iff]

/-- Without an inhibit under the empty id, nothing is active. -/
lemma Showing.eq_empty {s : State} (h : Showing f s)
    (hnone : s.obj.activeInhibits[([] : InhibitID)]? = none) : s.obj.activeInhibits = ∅ := by
  apply Std.ExtTreeMap.ext_getElem?
  intro id
  rw [Std.ExtTreeMap.getElem?_empty]
  by_contra hsome
  obtain ⟨i, hi⟩ := Option.ne_none_iff_exists'.mp hsome
  obtain ⟨rfl, -⟩ := h.keys id i hi
  rw [hnone] at hi
  cases hi

/-- What the call `inhibit(r)` leaves: the new inhibit is held, and active if the empty id was
free. -/
lemma step_inhibit (now : ℕ) (r : InhibitRequest) (s : State) :
    let ii : Inhibit := { r with id := [], created := now }
    step f s (.inhibit now r) =
      ⟨InhibitInterface.callEvent f.overrides true ii
        { s.obj with activeInhibits := s.obj.activeInhibits.insertIfNew [] ii }, s.held ++ [ii]⟩ :=
  rfl

/-- What `unInhibit` of a held inhibit leaves. -/
lemma step_unInhibit {s : State} {n : ℕ} {i : Inhibit} (hn : s.held[n]? = some i) :
    step f s (.unInhibit n) =
      ⟨(InhibitInterface.unInhibit f.overrides i.id s.obj).2, s.held.eraseIdx n⟩ := by
  simp only [step, hn]

lemma unInhibit_none {s : State} {id : InhibitID} (h : s.obj.activeInhibits[id]? = none) :
    (InhibitInterface.unInhibit f.overrides id s.obj).2 = s.obj := by
  unfold InhibitInterface.unInhibit
  rw [h]

lemma unInhibit_some {s : State} {id : InhibitID} {mid : Inhibit}
    (h : s.obj.activeInhibits[id]? = some mid) :
    (InhibitInterface.unInhibit f.overrides id s.obj).2 =
      InhibitInterface.callEvent f.overrides false mid
        { s.obj with activeInhibits := s.obj.activeInhibits.erase id } := by
  unfold InhibitInterface.unInhibit
  rw [h]
  rfl

/-- Every call keeps the invariant. -/
lemma Showing.step {s : State} (h : Showing f s) (c : Call) : Showing f (step f s c) := by
  cases c with
  | inhibit now r =>
    rw [step_inhibit]
    set ii : Inhibit := { r with id := [], created := now }
    have hs : Synced f { s.obj with
        activeInhibits := s.obj.activeInhibits.insertIfNew [] ii } :=
      ⟨h.synced.ok, h.synced.last, h.synced.command⟩
    -- every inhibit of the class has the empty id
    obtain ⟨hsync, hlast⟩ := callEvent_synced hs true ii
    refine ⟨hsync, ?_, fun id i hi => ?_, fun i hi => ?_⟩
    · rw [hlast]
      unfold Base.inhibited
      rw [InhibitInterface.callEvent_activeInhibits]
    · rw [InhibitInterface.callEvent_activeInhibits, StdMap.getElem?_insertIfNew] at hi
      split at hi
      · rename_i hnew
        cases hi
        exact ⟨hnew.1, List.mem_append_right _ (List.mem_singleton_self _)⟩
      · obtain ⟨hid, hheld⟩ := h.keys id i hi
        exact ⟨hid, List.mem_append_left _ hheld⟩
    · rcases List.mem_append.mp hi with hi | hi
      · exact h.ids i hi
      · rw [List.mem_singleton.mp hi]
  | unInhibit n =>
    cases hn : s.held[n]? with
    | none =>
      simp only [Feeder.step, hn]
      exact h
    | some i =>
      rw [step_unInhibit hn]
      have hid : i.id = [] := h.ids i (List.mem_of_getElem? hn)
      have hids : ∀ j ∈ s.held.eraseIdx n, j.id = [] := fun j hj =>
        h.ids j (List.mem_of_mem_eraseIdx hj)
      rw [hid]
      cases hmid : s.obj.activeInhibits[([] : InhibitID)]? with
      | none =>
        -- another release has taken the shared id already
        rw [unInhibit_none hmid]
        refine ⟨h.synced, h.last, fun id j hj => ?_, hids⟩
        obtain ⟨rfl, -⟩ := h.keys id j hj
        rw [hmid] at hj
        cases hj
      | some mid =>
        rw [unInhibit_some hmid]
        have hs : Synced f { s.obj with
            activeInhibits := s.obj.activeInhibits.erase [] } :=
          ⟨h.synced.ok, h.synced.last, h.synced.command⟩
        obtain ⟨hsync, hlast⟩ := callEvent_synced hs false mid
        refine ⟨hsync, ?_, fun id j hj => ?_, hids⟩
        · rw [hlast]
          unfold Base.inhibited
          rw [InhibitInterface.callEvent_activeInhibits]
        · -- the only key was the erased one
          rw [InhibitInterface.callEvent_activeInhibits, StdMap.getElem?_erase] at hj
          split at hj
          · cases hj
          · rename_i hne
            exact absurd (h.keys id j hj).1 hne

/-! ## When the push is right -/

lemma step_inhibit_active (now : ℕ) (r : InhibitRequest) (s : State) :
    (step f s (.inhibit now r)).obj.activeInhibits =
      s.obj.activeInhibits.insertIfNew [] { r with id := [], created := now } := by
  rw [step_inhibit, InhibitInterface.callEvent_activeInhibits]

/-- After an `unInhibit` of a held inhibit nothing is active. -/
lemma Showing.step_unInhibit_active {s : State} (h : Showing f s) {n : ℕ} {i : Inhibit}
    (hn : s.held[n]? = some i) :
    (Feeder.step f s (.unInhibit n)).obj.activeInhibits[([] : InhibitID)]? = none := by
  rw [step_unInhibit hn, h.ids i (List.mem_of_getElem? hn)]
  cases hmid : s.obj.activeInhibits[([] : InhibitID)]? with
  | none => rw [unInhibit_none hmid, hmid]
  | some mid =>
    rw [unInhibit_some hmid, InhibitInterface.callEvent_activeInhibits, StdMap.getElem?_erase,
      if_pos rfl]

/-- A call keeps the push right exactly when it does not meet the shared id. -/
lemma Showing.pushed_step_iff {s : State} (h : Showing f s) (hp : f.Pushed s) (c : Call) :
    f.Pushed (Feeder.step f s c) ↔ Unshared s c := by
  have hp' := h.disabled_iff.symm.trans hp
  unfold Pushed
  rw [(h.step c).disabled_iff]
  cases c with
  | inhibit now r =>
    have hheld : (∃ i ∈ (Feeder.step f s (.inhibit now r)).held, i.type.has SCREENSAVER) ↔
        (∃ i ∈ s.held, i.type.has SCREENSAVER) ∨ r.type.has SCREENSAVER := by
      show (∃ i ∈ s.held ++ [_], _) ↔ _
      simp only [List.mem_append, List.mem_singleton, or_and_right, exists_or, exists_eq_left]
    rw [hheld, ← hp', step_inhibit_active, StdMap.getElem?_insertIfNew]
    unfold Unshared
    rw [h.inhibited_iff]
    cases hmid : s.obj.activeInhibits[([] : InhibitID)]? with
    | none =>
      -- the new inhibit becomes the active one
      have hempty := h.eq_empty hmid
      simp [hempty]
    | some x =>
      -- the new inhibit is not recorded, so its bit must be there already
      have hne : s.obj.activeInhibits ≠ ∅ := by
        intro hempty
        rw [hempty, Std.ExtTreeMap.getElem?_empty] at hmid
        cases hmid
      simp only [reduceCtorEq, and_false, if_false, Option.some.injEq, exists_eq_left', hne,
        false_or]
      tauto
  | unInhibit n =>
    cases hn : s.held[n]? with
    | none =>
      have hlen : ¬ n < s.held.length := by
        have := List.getElem?_eq_none_iff.mp hn
        omega
      have hstep : Feeder.step f s (.unInhibit n) = s := by
        simp only [Feeder.step, hn]
      rw [hstep]
      exact iff_of_true hp' fun h => absurd h hlen
    | some i =>
      have hlen : n < s.held.length := by
        by_contra hge
        rw [List.getElem?_eq_none_iff.mpr (by omega)] at hn
        cases hn
      rw [h.step_unInhibit_active hn, step_unInhibit hn]
      unfold Unshared
      simp only [reduceCtorEq, false_and, exists_false, false_iff, hlen, true_imp_iff, not_exists,
        not_and]

/-- After every call of a run the screensaver is disabled exactly when a request not yet released
has the bit, if and only if no call of the run meets the shared id. -/
theorem pushed_iff (f : Feeder) (calls : List Call) :
    (∀ cs, cs <+: calls → f.Pushed (Transition.run f.step initial cs)) ↔
      Transition.Along f.step Unshared initial calls := by
  apply Transition.forall_prefix_iff_along (initial_showing (f := f))
  · rw [Pushed, initial_showing.disabled_iff]
    exact iff_of_false (by rintro ⟨i, hi, -⟩; cases hi) (by rintro ⟨i, hi, -⟩; cases hi)
  · exact fun s c h => h.step c
  · exact fun s c h hp => h.pushed_step_iff hp c

/-- Of two overlapping requests the first is released: the screensaver is enabled although the
second still holds. -/
theorem pushed_fails :
    let r : InhibitRequest := { type := SCREENSAVER }
    let calls : List Call := [.inhibit 0 r, .inhibit 0 r, .unInhibit 0]
    ¬ xautolock.Pushed (Transition.run xautolock.step initial calls) ∧
      ¬ xidlehook.Pushed (Transition.run xidlehook.step initial calls) ∧
      ¬ x11DPMSScreensaver.Pushed (Transition.run x11DPMSScreensaver.step initial calls) := by
  intro r calls
  refine ⟨fun h => ?_, fun h => ?_, fun h => ?_⟩ <;>
  · have hdisabled := h.mpr ⟨{ r with id := [] }, List.mem_singleton_self _, by decide⟩
    revert hdisabled
    unfold Disabled
    decide

end Feeder

end UnifiedInhibit
