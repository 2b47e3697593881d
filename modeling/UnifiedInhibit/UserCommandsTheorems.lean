import UnifiedInhibit.StateChanges
import UnifiedInhibit.UserCommandsInhibitInterface

/-!
# When user commands run

`handleInhibitStateChanged` runs the commands of `edges` from the union it saw last to the new one.
By the rules of `StateChanges` the union it saw last is that of what is active, and what is active
is what is unreleased as long as the cookies do not come round (`Held`).
-/

namespace UnifiedInhibit
namespace UserCommandsInhibitInterface

open InhibitType (NONE SCREENSAVER SUSPEND)
open StateChanges (Notes Settled noted)

/-! ## The types -/

lemma inhibitTypes_eq : inhibitTypes = [SCREENSAVER, SUSPEND] := by decide +kernel

/-- A single bit is masked out alike from two unions that agree on it. -/
lemma and_twoPow_eq_iff (s t : InhibitType) (k : ℕ) (hk : k < 32) :
    s &&& BitVec.twoPow 32 k = t &&& BitVec.twoPow 32 k ↔
      s.has (BitVec.twoPow 32 k) = t.has (BitVec.twoPow 32 k) := by
  have hne : BitVec.twoPow 32 k ≠ 0#32 := by
    intro h
    have hbit := congrArg (fun x => x.getLsbD k) h
    simp [hk] at hbit
  unfold InhibitType.has NONE
  rw [BitVec.and_twoPow, BitVec.and_twoPow]
  cases s.getLsbD k <;> cases t.getLsbD k
  · simp
  · simpa [hne] using hne.symm
  · simp [hne]
  · simp

/-- The test of the loop finds a type changed exactly if it came or went. -/
lemma and_type_eq_iff {t : InhibitType} (ht : t ∈ inhibitTypes) (u u' : InhibitType) :
    u &&& t = u' &&& t ↔ hasType u t = hasType u' t := by
  rw [inhibitTypes_eq] at ht
  rcases List.mem_cons.mp ht with rfl | ht
  · exact and_twoPow_eq_iff u u' 0 (by decide)
  · rw [List.mem_singleton.mp ht]
    exact and_twoPow_eq_iff u u' 1 (by decide)

/-! ## What one change runs -/

variable (cfg : Commands)

lemma edge_self (t : InhibitType) (b : Bool) : edge cfg t b b = [] := if_pos rfl

/-- A type that came or went runs its command, if there is one. -/
lemma runCommand_eq (t : InhibitType) {before after : Bool} (h : before ≠ after) (s : Fields) :
    runCommand cfg after t s = { s with ran := s.ran ++ edge cfg t before after } := by
  unfold runCommand edge
  rw [if_neg h]
  cases (if after then cfg.cmds else cfg.uncmds)[t]? with
  | none => simp
  | some command => rfl

/-- One round of the loop. -/
lemma handleType_eq (inhibited : InhibitType) (s : Fields) {t : InhibitType}
    (ht : t ∈ inhibitTypes) :
    handleType cfg inhibited s t =
      { s with ran := s.ran ++ edge cfg t (hasType s.lastInhibited t) (hasType inhibited t) } := by
  have htype : inhibited.has t = hasType inhibited t := by
    rw [inhibitTypes_eq] at ht
    unfold hasType
    rw [if_neg]
    rintro rfl
    revert ht
    decide
  unfold handleType
  by_cases hsame : inhibited &&& t = s.lastInhibited &&& t
  · rw [if_neg (by simpa using hsame), (and_type_eq_iff ht _ _).mp hsame, edge_self,
      List.append_nil]
  · have hne : hasType s.lastInhibited t ≠ hasType inhibited t := fun h =>
      hsame ((and_type_eq_iff ht _ _).mpr h.symm)
    rw [if_pos hsame, htype]
    exact runCommand_eq cfg t hne s

/-- The rounds do not change the union that they compare with. -/
lemma foldl_handleType (inhibited : InhibitType) (ts : List InhibitType)
    (hts : ∀ t ∈ ts, t ∈ inhibitTypes) (s : Fields) :
    ts.foldl (handleType cfg inhibited) s =
      { s with
        ran := s.ran ++ ts.flatMap fun t =>
          edge cfg t (hasType s.lastInhibited t) (hasType inhibited t) } := by
  induction ts generalizing s with
  | nil => simp
  | cons t ts ih =>
    rw [List.foldl_cons, handleType_eq cfg inhibited s (hts t List.mem_cons_self),
      ih fun t' ht' => hts t' (List.mem_cons_of_mem t ht'), List.flatMap_cons, List.append_assoc]

/-- `handleInhibitStateChanged` runs the commands of the change and remembers the union. -/
lemma handleInhibitStateChanged_eq (hok : cfg.ok = true) (t : InhibitType) (i : Inhibit)
    (s : Fields) :
    handleInhibitStateChanged cfg t i s =
      { s with
        lastInhibited := t
        ran := s.ran ++ edges cfg (hasType s.lastInhibited) (hasType t) } := by
  have hnone : ∀ u : InhibitType, hasType u NONE = decide (u ≠ NONE) := fun u => if_pos rfl
  unfold handleInhibitStateChanged edges
  rw [if_neg (by simp [hok]), foldl_handleType cfg t _ (fun _ h => h), List.flatMap_append]
  dsimp only
  rw [List.flatMap_singleton, hnone, hnone]
  by_cases hlast : s.lastInhibited = NONE
  · by_cases ht : t = NONE
    · simp [hlast, ht, edge_self]
    · have hrun := runCommand_eq cfg NONE Bool.false_ne_true
      simp [hlast, ht, Ne.symm ht, hrun, List.append_assoc]
  · by_cases ht : t = NONE
    · have hrun := runCommand_eq cfg NONE Bool.false_ne_true.symm
      simp [hlast, ht, hrun, List.append_assoc]
    · simp [hlast, ht, edge_self]

/-! ## The union it saw last -/

/-- Without commands nothing is run. -/
structure Constructed : Prop where
  cmds : cfg.ok = false → cfg.cmds = ∅
  uncmds : cfg.ok = false → cfg.uncmds = ∅

/-- `ok` says whether there are any commands at all. -/
lemma construct_constructed (params : Params) : Constructed (construct params) := by
  have hsizes : (construct params).ok = false →
      (construct params).cmds.size = 0 ∧ (construct params).uncmds.size = 0 := by
    intro h
    have hle : ¬ (construct params).cmds.size + (construct params).uncmds.size > 0 :=
      of_decide_eq_false h
    omega
  exact ⟨fun h => Std.ExtTreeMap.eq_empty_iff_size_eq_zero.mpr (hsizes h).1,
    fun h => Std.ExtTreeMap.eq_empty_iff_size_eq_zero.mpr (hsizes h).2⟩

variable {cfg}

lemma edges_self (before : InhibitType → Bool) : edges cfg before before = [] := by
  unfold edges
  simp [edge_self]

lemma Constructed.edges_eq_nil (hcfg : Constructed cfg) (hok : cfg.ok = false)
    (before after : InhibitType → Bool) : edges cfg before after = [] := by
  unfold edges edge
  simp [hcfg.cmds hok, hcfg.uncmds hok]

/-- What `handleInhibitStateChanged` does to the union it saw last and to what was run. -/
lemma overrides_notes (cfg : Commands) (instanceId : UInt64) : Notes (overrides cfg instanceId)
    (fun s => (s.lastInhibited, s.ran)) fun t x =>
      if cfg.ok then (t, x.2 ++ edges cfg (hasType x.1) (hasType t)) else x where
  doInhibit _ _ _ := rfl
  doUnInhibit _ _ _ := rfl
  inhibitEvent _ _ := rfl
  unInhibitEvent _ _ := rfl
  stateChanged t i s := by
    show (fun s : Fields => (s.lastInhibited, s.ran)) (handleInhibitStateChanged cfg t i s) = _
    cases hok : cfg.ok with
    | true => rw [handleInhibitStateChanged_eq cfg hok, if_pos rfl]
    | false =>
      unfold handleInhibitStateChanged
      rw [if_pos (by simp [hok]), if_neg Bool.false_ne_true]

/-- The union that the class saw last is that of the base class. -/
structure Synced (cfg : Commands) (o : InhibitInterface Fields) : Prop where
  settled : Settled o
  last : cfg.ok = true → o.sub.lastInhibited = o.inhibited

/-- A call runs the commands of the change of `inhibited`. -/
lemma Synced.step (hcfg : Constructed cfg) (instanceId : UInt64) {o : InhibitInterface Fields}
    (ho : Synced cfg o) (c : StateChanges.Call) {w : Alone Fields}
    (hw : w = StateChanges.step Alone.this (overrides cfg instanceId) Alone.callbacks
      { obj := o } c) :
    Synced cfg w.obj ∧
      w.obj.sub.ran = o.sub.ran ++ edges cfg (hasType o.inhibited) (hasType w.obj.inhibited) := by
  obtain ⟨hsettled, hnoted⟩ := (overrides_notes cfg instanceId).step StateChanges.silent_alone
    (w := { obj := o }) ho.settled c
  rw [← hw] at hsettled hnoted
  have hlast := congrArg Prod.fst hnoted
  have hran := congrArg Prod.snd hnoted
  dsimp only [Alone.this, noted] at hsettled hlast hran
  refine ⟨⟨hsettled, fun hok => ?_⟩, ?_⟩
  · rw [hlast]
    split
    · rename_i hsame
      exact (ho.last hok).trans hsame.symm
    · rfl
  · rw [hran]
    split
    · rename_i hsame
      rw [hsame, edges_self, List.append_nil]
    · cases hok : cfg.ok with
      | true => rw [if_pos rfl, ho.last hok]
      | false => rw [if_neg Bool.false_ne_true, hcfg.edges_eq_nil hok, List.append_nil]

/-! ## What is unreleased -/

variable {instanceId : UInt64}

lemma mkId_inj {c d : UInt64} (h : mkId instanceId c = mkId instanceId d) : c = d := by
  have hbytes := List.append_cancel_left h
  exact UInt64.toNat_inj.mp (CStruct.leBytes_inj c.toNat_lt d.toNat_lt hbytes)

lemma toNat_nextCookie {c : UInt64} (h : c.toNat + 1 < 2 ^ 64) :
    (nextCookie c).toNat = c.toNat + 1 := by
  have hadd : (c + 1).toNat = c.toNat + 1 := by
    rw [UInt64.toNat_add]
    exact Nat.mod_eq_of_lt h
  have hne : c + 1 ≠ 0 := by
    intro hzero
    rw [hzero] at hadd
    exact absurd hadd (by simp)
  unfold nextCookie
  rw [if_neg hne, hadd]

/-- After `n` requests the ids of what is unreleased are made from the cookies up to `n`, and it is
what is active. -/
structure Held (instanceId : UInt64) (n : ℕ) (s : State) : Prop where
  cookie : s.obj.sub.lastCookie.toNat = n
  ids : ∀ i ∈ s.unreleased, ∃ c : UInt64, c.toNat ≤ n ∧ i.id = mkId instanceId c
  active : ∀ id i, s.obj.activeInhibits[id]? = some i ↔ i ∈ s.unreleased ∧ i.id = id

lemma Held.initial : Held instanceId 0 {} where
  cookie := rfl
  ids _ hi := absurd hi List.not_mem_nil
  active id i := by
    refine iff_of_false ?_ fun h => absurd h.1 List.not_mem_nil
    simp

/-- A request makes one more inhibit active. -/
lemma step_inhibit (now : ℕ) (r : InhibitRequest) (s : State) :
    step cfg instanceId s (.inhibit now r) =
      ⟨(StateChanges.step Alone.this (overrides cfg instanceId) Alone.callbacks
          { obj := s.obj } (.inhibit now r)).obj,
        s.unreleased ++
          [{ r with id := mkId instanceId (nextCookie s.obj.sub.lastCookie), created := now }]⟩ :=
  rfl

lemma step_unInhibit (id : InhibitID) (s : State) :
    step cfg instanceId s (.unInhibit id) =
      ⟨(StateChanges.step Alone.this (overrides cfg instanceId) Alone.callbacks
          { obj := s.obj } (.unInhibit id)).obj, s.unreleased.filter fun i => i.id ≠ id⟩ :=
  rfl

/-- Being told of a change leaves the cookie. -/
lemma callEvent_lastCookie (b : Bool) (i : Inhibit) (o : InhibitInterface Fields) :
    (InhibitInterface.callEvent (overrides cfg instanceId) b i o).sub.lastCookie =
      o.sub.lastCookie := by
  have hchanged : ∀ t s, (handleInhibitStateChanged cfg t i s).lastCookie = s.lastCookie := by
    intro t s
    cases hok : cfg.ok with
    | true => rw [handleInhibitStateChanged_eq cfg hok]
    | false =>
      unfold handleInhibitStateChanged
      rw [if_pos (by simp [hok])]
  unfold InhibitInterface.callEvent
  dsimp only [overrides]
  rw [ite_self]
  split
  · exact hchanged _ _
  · rfl

lemma Held.inhibit (cfg : Commands) {n : ℕ} {s : State} (hs : Held instanceId n s)
    (hn : n + 1 < 2 ^ 64) (now : ℕ) (r : InhibitRequest) :
    Held instanceId (n + 1) (step cfg instanceId s (.inhibit now r)) := by
  have hnext : (nextCookie s.obj.sub.lastCookie).toNat = n + 1 := by
    rw [toNat_nextCookie (by rw [hs.cookie]; exact hn), hs.cookie]
  have hactive :
      (InhibitInterface.inhibit (overrides cfg instanceId) now r s.obj).2.activeInhibits = _ :=
    (InhibitInterface.inhibit_ok (overrides cfg instanceId) rfl).2
  -- all cookies that are held are below the new one
  have hfresh : ∀ i ∈ s.unreleased, i.id ≠ mkId instanceId (nextCookie s.obj.sub.lastCookie) := by
    intro i hi heq
    obtain ⟨c, hc, hid⟩ := hs.ids i hi
    rw [mkId_inj (hid.symm.trans heq), hnext] at hc
    omega
  have hnone : s.obj.activeInhibits[mkId instanceId (nextCookie s.obj.sub.lastCookie)]? = none := by
    rw [Option.eq_none_iff_forall_ne_some]
    intro i hi
    obtain ⟨hmem, hid⟩ := (hs.active _ i).mp hi
    exact hfresh i hmem hid
  refine ⟨(congrArg UInt64.toNat (callEvent_lastCookie _ _ _)).trans hnext, ?_, ?_⟩
  · intro i hi
    rcases List.mem_append.mp hi with hi | hi
    · obtain ⟨c, hc, hid⟩ := hs.ids i hi
      exact ⟨c, by omega, hid⟩
    · rw [List.mem_singleton.mp hi]
      exact ⟨_, hnext.le, rfl⟩
  · intro id i
    show (InhibitInterface.inhibit (overrides cfg instanceId) now r s.obj).2.activeInhibits[id]? =
      some i ↔ i ∈ s.unreleased ++ [_] ∧ _
    rw [hactive, StdMap.getElem?_insertIfNew, List.mem_append, List.mem_singleton]
    by_cases hid : id = mkId instanceId (nextCookie s.obj.sub.lastCookie)
    · rw [if_pos ⟨hid, hnone⟩]
      constructor
      · intro h
        rw [← Option.some.inj h]
        exact ⟨Or.inr rfl, hid.symm⟩
      · rintro ⟨hi | rfl, hi'⟩
        · exact absurd (hi'.trans hid) (hfresh i hi)
        · rfl
    · rw [if_neg fun h => hid h.1, hs.active]
      constructor
      · exact fun h => ⟨Or.inl h.1, h.2⟩
      · rintro ⟨hi | rfl, hi'⟩
        · exact ⟨hi, hi'⟩
        · exact absurd hi'.symm hid

lemma Held.unInhibit (cfg : Commands) {n : ℕ} {s : State} (hs : Held instanceId n s)
    (id : InhibitID) :
    Held instanceId n (step cfg instanceId s (.unInhibit id)) := by
  obtain ⟨-, hactive⟩ := InhibitInterface.unInhibit_ok (overrides cfg instanceId) id s.obj
    fun _ _ => rfl
  refine ⟨?_, fun i hi => hs.ids i (List.mem_filter.mp hi).1, ?_⟩
  · have hcookie :
        (InhibitInterface.unInhibit (overrides cfg instanceId) id s.obj).2.sub.lastCookie =
          s.obj.sub.lastCookie := by
      unfold InhibitInterface.unInhibit
      split
      · rfl
      · exact callEvent_lastCookie _ _ _
    exact (congrArg UInt64.toNat hcookie).trans hs.cookie
  · intro id' i
    show (InhibitInterface.unInhibit (overrides cfg instanceId) id s.obj).2.activeInhibits[id']? =
      some i ↔ i ∈ s.unreleased.filter _ ∧ _
    rw [hactive, StdMap.getElem?_erase, List.mem_filter, decide_eq_true_eq]
    by_cases hid : id' = id
    · rw [if_pos hid]
      refine iff_of_false (by simp) ?_
      rintro ⟨⟨-, hne⟩, heq⟩
      exact hne (heq.trans hid)
    · rw [if_neg hid, hs.active]
      constructor
      · rintro ⟨hi, heq⟩
        exact ⟨⟨hi, fun h => hid (heq.symm.trans h)⟩, heq⟩
      · exact fun h => ⟨h.1.1, h.2⟩

/-- The union of what is active has the types that are requested. -/
lemma Held.hasType_inhibited {n : ℕ} {s : State} (hs : Held instanceId n s) (t : InhibitType) :
    hasType s.obj.inhibited t = Requested s.unreleased t := by
  have hall : ∀ u : InhibitType, u.has (BitVec.allOnes 32) = decide (u ≠ NONE) := by
    intro u
    unfold InhibitType.has
    rw [BitVec.and_allOnes, Bool.eq_iff_iff]
    simp
  -- any type at all is a bit of the mask of all ones
  have hmask : ∃ flag : InhibitType, ∀ u, hasType u t = u.has flag := by
    by_cases ht : t = NONE
    · refine ⟨BitVec.allOnes 32, fun u => ?_⟩
      rw [hall, ht]
      exact if_pos rfl
    · exact ⟨t, fun u => if_neg ht⟩
  obtain ⟨flag, hflag⟩ := hmask
  unfold Requested
  rw [hflag, Bool.eq_iff_iff, Base.inhibited_has, List.any_eq_true]
  constructor
  · rintro ⟨id, i, hi, htype⟩
    exact ⟨i, ((hs.active id i).mp hi).1, by rw [hflag]; exact htype⟩
  · rintro ⟨i, hi, htype⟩
    exact ⟨i.id, i, (hs.active i.id i).mpr ⟨hi, rfl⟩, by rw [← hflag]; exact htype⟩

/-! ## Runs -/

/-- The commands run by the call are those of the requests that it makes or releases. -/
def Follows (cfg : Commands) (instanceId : UInt64) (s : State) (c : Call) : Prop :=
  (step cfg instanceId s c).obj.sub.ran = s.obj.sub.ran ++
    edges cfg (Requested s.unreleased) (Requested (step cfg instanceId s c).unreleased)

/-- The invariant of a run with `n` requests. -/
structure Good (cfg : Commands) (instanceId : UInt64) (n : ℕ) (s : State) : Prop where
  synced : Synced cfg s.obj
  held : Held instanceId n s

lemma Good.initial : Good cfg instanceId 0 {} where
  synced := ⟨rfl, fun _ => rfl⟩
  held := Held.initial

lemma Good.step (hcfg : Constructed cfg) {n : ℕ} {s : State} (hs : Good cfg instanceId n s)
    (c : Call) (hn : n + requests [c] < 2 ^ 64 - 1) :
    Good cfg instanceId (n + requests [c]) (step cfg instanceId s c) ∧
      Follows cfg instanceId s c := by
  have hgood : Good cfg instanceId (n + requests [c])
      (UserCommandsInhibitInterface.step cfg instanceId s c) ∧
      (UserCommandsInhibitInterface.step cfg instanceId s c).obj.sub.ran = s.obj.sub.ran ++
        edges cfg (hasType s.obj.inhibited)
          (hasType (UserCommandsInhibitInterface.step cfg instanceId s c).obj.inhibited) := by
    cases c with
    | inhibit now r =>
      obtain ⟨hsynced, hran⟩ := hs.synced.step hcfg instanceId (.inhibit now r) rfl
      rw [step_inhibit]
      have hheld := hs.held.inhibit cfg (by
        have : requests [.inhibit now r] = 1 := rfl
        omega) now r
      rw [step_inhibit] at hheld
      exact ⟨⟨hsynced, hheld⟩, hran⟩
    | unInhibit id =>
      obtain ⟨hsynced, hran⟩ := hs.synced.step hcfg instanceId (.unInhibit id) rfl
      rw [step_unInhibit]
      have hheld := hs.held.unInhibit cfg id
      rw [step_unInhibit] at hheld
      exact ⟨⟨hsynced, hheld⟩, hran⟩
  obtain ⟨hgood, hran⟩ := hgood
  refine ⟨hgood, hran.trans ?_⟩
  rw [funext hs.held.hasType_inhibited, funext hgood.held.hasType_inhibited]

lemma requests_snoc (calls : List Call) (c : Call) :
    requests (calls ++ [c]) = requests calls + requests [c] :=
  List.countP_append ..

lemma Good.run (hcfg : Constructed cfg) (instanceId : UInt64) (calls : List Call)
    (h : requests calls < 2 ^ 64 - 1) :
    Good cfg instanceId (requests calls)
      (Transition.run (UserCommandsInhibitInterface.step cfg instanceId) {} calls) := by
  induction calls using List.reverseRecOn with
  | nil => exact Good.initial
  | append_singleton calls c ih =>
    rw [requests_snoc] at h ⊢
    rw [Transition.run_snoc]
    exact ((ih (by omega)).step hcfg c h).1

/-! ## Alternation -/

/-- The commands run for `t`. -/
def ranFor (t : InhibitType) (ran : List Ran) : List Bool :=
  (ran.filter fun r => r.type = t).map Ran.inhibit

/-- Inhibit and uninhibit commands take turns, inhibit first. -/
def Alternate (l : List Bool) : Prop := (false :: l).IsChain (· ≠ ·)

lemma ranFor_append (t : InhibitType) (ran ran' : List Ran) :
    ranFor t (ran ++ ran') = ranFor t ran ++ ranFor t ran' := by
  unfold ranFor
  rw [List.filter_append, List.map_append]

/-- A change of one type runs nothing for another. -/
lemma ranFor_edge (t u : InhibitType) (before after : Bool) :
    ranFor t (edge cfg u before after) =
      if u = t then (edge cfg u before after).map Ran.inhibit else [] := by
  have htype : ∀ r ∈ edge cfg u before after, r.type = u := by
    intro r hr
    unfold edge at hr
    split at hr
    · exact absurd hr List.not_mem_nil
    · obtain ⟨command, -, rfl⟩ := List.mem_map.mp hr
      rfl
  unfold ranFor
  split
  · rename_i heq
    rw [List.filter_eq_self.mpr fun r hr => decide_eq_true ((htype r hr).trans heq)]
  · rename_i hne
    have hnil := List.filter_eq_nil_iff.mpr fun r hr h =>
      hne ((htype r hr).symm.trans (of_decide_eq_true h))
    rw [hnil, List.map_nil]

/-- Where both commands exist, a change of `t` runs one command for `t`. -/
lemma ranFor_edges {t : InhibitType} (ht : t ∈ inhibitTypes ++ [NONE]) (hcmd : t ∈ cfg.cmds)
    (huncmd : t ∈ cfg.uncmds) (before after : InhibitType → Bool) :
    ranFor t (edges cfg before after) = if before t = after t then [] else [after t] := by
  have hedge : (edge cfg t (before t) (after t)).map Ran.inhibit =
      if before t = after t then [] else [after t] := by
    unfold edge
    split
    · rfl
    · obtain ⟨command, hcommand⟩ : ∃ command,
          (if after t then cfg.cmds else cfg.uncmds)[t]? = some command := by
        cases after t
        · exact (StdMap.mem_iff _ _).mp huncmd
        · exact (StdMap.mem_iff _ _).mp hcmd
      rw [hcommand]
      rfl
  rw [← hedge]
  unfold edges
  rw [inhibitTypes_eq] at ht ⊢
  simp only [List.cons_append, List.nil_append, List.flatMap_cons, List.flatMap_nil,
    List.append_nil, ranFor_append, ranFor_edge]
  simp only [List.cons_append, List.nil_append, List.mem_cons, List.not_mem_nil, or_false] at ht
  rcases ht with rfl | rfl | rfl
  · simp [SCREENSAVER, SUSPEND, NONE]
  · simp [SCREENSAVER, SUSPEND, NONE]
  · simp [SCREENSAVER, SUSPEND, NONE]

lemma alternate_run (hcfg : Constructed cfg) {t : InhibitType} (ht : t ∈ inhibitTypes ++ [NONE])
    (hcmd : t ∈ cfg.cmds) (huncmd : t ∈ cfg.uncmds) (calls : List Call)
    (h : requests calls < 2 ^ 64 - 1) {s : State}
    (hs : s = Transition.run (step cfg instanceId) {} calls) :
    Alternate (ranFor t s.obj.sub.ran) ∧
      (false :: ranFor t s.obj.sub.ran).getLast? = some (Requested s.unreleased t) := by
  induction calls using List.reverseRecOn generalizing s with
  | nil =>
    rw [hs]
    exact ⟨List.isChain_singleton _, rfl⟩
  | append_singleton calls c ih =>
    rw [requests_snoc] at h
    obtain ⟨hchain, hlast⟩ := ih (by omega) rfl
    -- the last command run tells whether the type is requested
    have hgood := Good.run hcfg instanceId calls (by omega)
    have hfollows := (hgood.step hcfg c h).2
    rw [Transition.run_snoc] at hs
    rw [hs, hfollows, ranFor_append, ranFor_edges ht hcmd huncmd]
    split
    · rename_i hsame
      rw [List.append_nil, ← hsame]
      exact ⟨hchain, hlast⟩
    · rename_i hne
      unfold Alternate
      rw [← List.cons_append]
      refine ⟨List.isChain_append.mpr ⟨hchain, List.isChain_singleton _, ?_⟩, ?_⟩
      · intro x hx y hy
        rw [hlast] at hx
        rw [← Option.some.inj hx, ← Option.some.inj hy]
        exact hne
      · rw [List.getLast?_append_of_ne_nil _ (List.cons_ne_nil _ _), List.getLast?_singleton]

/-- Each call runs exactly the commands of the types whose first request it makes or whose last
one it releases. So the two commands of a pair alternate. -/
theorem commands_follow_requests (params : Params) (instanceId : UInt64) (calls : List Call)
    (h : requests calls < 2 ^ 64 - 1) :
    (∀ before c, before ++ [c] <+: calls → Follows (construct params) instanceId
      (Transition.run (step (construct params) instanceId) {} before) c) ∧
    ∀ t ∈ inhibitTypes ++ [NONE], t ∈ (construct params).cmds → t ∈ (construct params).uncmds →
      Alternate (ranFor t
        (Transition.run (step (construct params) instanceId) {} calls).obj.sub.ran) := by
  have hcfg := construct_constructed params
  refine ⟨fun before c hprefix => ?_, fun t ht hcmd huncmd => ?_⟩
  · obtain ⟨after, rfl⟩ := hprefix
    have hle : requests (before ++ [c]) ≤ requests (before ++ [c] ++ after) :=
      (List.sublist_append_left (before ++ [c]) after).countP_le
    rw [requests_snoc] at hle
    exact ((Good.run hcfg _ before (by omega)).step hcfg c (by omega)).2
  · exact (alternate_run hcfg ht hcmd huncmd calls h rfl).1

/-- A general command pair, and two overlapping requests of different types. -/
def exampleParams : Params :=
  Std.ExtTreeMap.ofList [(lit "ia", [lit "notify", lit "on"]), (lit "uia", [lit "notify"])]

theorem commands_follow_requests_overlap :
    Follows (construct exampleParams) 0
      (Transition.run (step (construct exampleParams) 0) {}
        [.inhibit 0 { type := SCREENSAVER }, .inhibit 0 { type := SUSPEND }])
      (.unInhibit (mkId 0 1)) :=
  (commands_follow_requests exampleParams 0
    [.inhibit 0 { type := SCREENSAVER }, .inhibit 0 { type := SUSPEND }, .unInhibit (mkId 0 1)]
    (by decide)).1 _ _ (List.prefix_refl _)

end UserCommandsInhibitInterface
end UnifiedInhibit
