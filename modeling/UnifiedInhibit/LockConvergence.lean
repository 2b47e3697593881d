import UnifiedInhibit.LockWatcherTheorems

/-!
# The kernel watcher converges

While the locks and the daemon's own inhibits stay as they are, a round of the watcher and the main
loop removes what the queues still hold from before, and the next one registers what is left. The
argument is about membership: what one round leaves active (`mem_round`), and that a converged
state is left alone (`Converged.round`).
-/

namespace UnifiedInhibit
namespace LockWatch

/-! ## The queues as sets -/

section Queues

variable {σ : Type} {C : LockWatch σ} (hC : C.overrides.NoEvents)
include hC

lemma registerAll_sub (queue : List Inhibit) (w : Alone σ) :
    (C.registerAll queue w).obj.sub = w.obj.sub := by
  induction queue generalizing w with
  | nil => rfl
  | cons r queue ih =>
    obtain ⟨w', hw', -, hsub, -⟩ := hC.registerInhibit_alone r w
    rw [registerAll_cons, ih, hw', hsub]

/-- What is left once `unregisterQueue` has been emptied. -/
lemma unregisterAll_spec (queue : List InhibitID) (w : Alone σ) :
    (∀ id, id ∈ (C.unregisterAll queue w).obj.activeInhibits ↔
        id ∈ w.obj.activeInhibits ∧ id ∉ queue) ∧
      (C.unregisterAll queue w).obj.sub = w.obj.sub := by
  induction queue generalizing w with
  | nil => simp [unregisterAll]
  | cons id queue ih =>
    obtain ⟨w', hw', hactive, hsub⟩ := hC.registerUnInhibit_alone id w
    have hcons : C.unregisterAll (id :: queue) w = C.unregisterAll queue w' := by
      unfold unregisterAll
      rw [List.foldl_cons, hw']
    obtain ⟨hrest, hrestSub⟩ := ih w'
    rw [hcons]
    refine ⟨fun j => ?_, hrestSub.trans hsub⟩
    rw [hrest, hactive, List.mem_cons, not_or]
    tauto

/-- What is active after a drain. -/
lemma drain_spec (s : Watched σ) :
    (∀ id, id ∈ (C.step s .drain).world.obj.activeInhibits ↔
        (id ∈ s.world.obj.activeInhibits ∨ id ∈ s.registerQueue.map Inhibit.id) ∧
          id ∉ s.unregisterQueue) ∧
      (C.step s .drain).world.obj.sub = s.world.obj.sub := by
  obtain ⟨hactive, hsub⟩ := unregisterAll_spec hC s.unregisterQueue
    (C.registerAll s.registerQueue s.world)
  refine ⟨fun id => ?_, hsub.trans (registerAll_sub hC _ _)⟩
  exact (hactive id).trans (and_congr_left' (mem_registerAll _ _ _))

end Queues

section Comparison

variable {σ : Type} {C : LockWatch σ}

/-- A lock that is not known is queued, unless a queued one counts. -/
lemma track_unknown (hqueue : C.checksQueue = false) {now : ℕ} {o : InhibitInterface σ}
    {lock : Bytes} (h : ¬ C.Known o lock) (queue : List Inhibit) :
    (C.track now o queue lock).map Inhibit.id =
      queue.map Inhibit.id ++ [C.mkId (CStruct.cstr lock)] := by
  obtain ⟨hany, hours⟩ := not_known h
  unfold track
  dsimp only
  rw [hany, hours, hqueue, if_pos (by rfl), List.map_append]
  rfl

/-- What is queued to be registered after a comparison. -/
lemma mem_foldl_track_iff (hqueue : C.checksQueue = false) (now : ℕ) (o : InhibitInterface σ)
    (locks : List Bytes) (queue : List Inhibit) (id : InhibitID) :
    id ∈ (locks.foldl (C.track now o) queue).map Inhibit.id ↔
      id ∈ queue.map Inhibit.id ∨
        ∃ lock ∈ locks, ¬ C.Known o lock ∧ id = C.mkId (CStruct.cstr lock) := by
  induction locks generalizing queue with
  | nil => simp
  | cons lock locks ih =>
    rw [List.foldl_cons, ih, List.exists_mem_cons_iff, ← or_assoc]
    refine or_congr_left ?_
    by_cases hknown : C.Known o lock
    · rw [track_known hknown]
      exact (or_iff_left fun h => h.1 hknown).symm
    · rw [track_unknown hqueue hknown, List.mem_append, List.mem_singleton]
      exact or_congr_right (and_iff_right hknown).symm

lemma mem_removed (locks : List Bytes) (o : InhibitInterface σ) (id : InhibitID) :
    id ∈ C.removed locks o ↔ id ∈ o.activeInhibits ∧
      (∀ lock ∈ locks, C.name id ≠ CStruct.cstr lock) ∧
      ¬ (C.checksOurs = true ∧ id ∈ C.ourInhibits o.sub) := by
  unfold removed
  rw [List.mem_filter, Std.ExtTreeMap.mem_keys]
  cases C.checksOurs <;> simp

end Comparison

end LockWatch

namespace LinuxKernelInhibitInterface

open LockWatch (Known Event)

variable (instanceId : UInt64)

/-! ## The ids of the interface -/

/-- An id that `mkId` has made. -/
def Regular (id : InhibitID) : Prop := mkId instanceId (lockName id) = id

variable {instanceId}

lemma regular_mkId (name : Bytes) : Regular instanceId (mkId instanceId name) := by
  have hname : lockName (mkId instanceId (lockName (mkId instanceId name))) =
      lockName (mkId instanceId name) := by
    have hspace : (32 : UInt8) ∉ lockName (mkId instanceId name) := by
      rw [lockName_mkId_eq]
      intro hmem
      exact absurd rfl (of_decide_eq_true (List.mem_filter.mp (List.mem_of_mem_take hmem)).2)
    have hlength : (lockName (mkId instanceId name)).length ≤ lockNameSize - 1 := by
      rw [lockName_mkId_eq]
      exact List.length_take_le _ _
    have hnul : (0 : UInt8) ∉ lockName (mkId instanceId name) := CStruct.zero_notMem_cstr _
    rw [lockName_mkId_eq, CStruct.cstr_of_notMem hnul,
      LinuxKernelInhibitFork.strip_of_notMem hspace, List.take_of_length_le hlength]
  unfold Regular
  rw [mkId_eq, hname, ← mkId_eq]

/-- A regular id belongs to one lock. -/
lemma Regular.lockName_eq_iff {id : InhibitID} (h : Regular instanceId id) {n : Bytes}
    (hn : LockName n) : lockName id = n ↔ id = mkId instanceId n := by
  constructor
  · rintro rfl
    exact h.symm
  · rintro rfl
    exact lockName_of_lockName instanceId hn

/-- Everything that is active or about to be registered has a regular id. -/
structure AllRegular (instanceId : UInt64) (s : Watched LinuxKernelFields) : Prop where
  active : ∀ id ∈ s.world.obj.activeInhibits, Regular instanceId id
  calling : ∀ o, s.calling = some o → ∀ id ∈ o.activeInhibits, Regular instanceId id
  queue : ∀ id ∈ s.registerQueue.map Inhibit.id, Regular instanceId id

lemma AllRegular.initial (f : LinuxKernelFields) :
    AllRegular instanceId { world := { obj := { sub := f } } } where
  active id hid := absurd hid Std.ExtTreeMap.not_mem_empty
  calling o ho := absurd ho (by simp)
  queue id hid := absurd hid List.not_mem_nil

/-- A call makes no other ids active. -/
lemma regular_result {o : InhibitInterface LinuxKernelFields}
    (h : ∀ id ∈ o.activeInhibits, Regular instanceId id) (c : LockCall) :
    ∀ id ∈ ((lockWatch instanceId).result o c).activeInhibits, Regular instanceId id := by
  cases c with
  | inhibit now r =>
    show ∀ id ∈ (InhibitInterface.inhibit (overrides instanceId) now r o).2.activeInhibits, _
    by_cases htype : r.type &&& InhibitType.SUSPEND = InhibitType.NONE
    · have herr : (overrides instanceId).doInhibit now r o.sub = (.error .unsupportedType, o.sub) :=
        if_pos htype
      rw [InhibitInterface.inhibit_error _ herr]
      exact h
    · have hgrant : (overrides instanceId).doInhibit now r o.sub = _ := if_neg htype
      intro id hid
      rw [(InhibitInterface.inhibit_ok _ hgrant).2, StdMap.mem_insertIfNew] at hid
      rcases hid with rfl | hid
      · exact regular_mkId _
      · exact h id hid
  | unInhibit id =>
    intro j hj
    have hok := InhibitInterface.unInhibit_ok (overrides instanceId) id o fun b s => by
      show (doUnInhibit instanceId b id s).1 = .ok ()
      unfold doUnInhibit
      split <;> rfl
    have hj : j ∈ (InhibitInterface.unInhibit (overrides instanceId) id o).2.activeInhibits := hj
    rw [hok.2, StdMap.mem_erase] at hj
    exact h j hj.1

lemma AllRegular.step {s : Watched LinuxKernelFields} (h : AllRegular instanceId s) (e : Event) :
    AllRegular instanceId ((lockWatch instanceId).step s e) := by
  cases e with
  | call c =>
    refine ⟨h.active, fun o ho => ?_, h.queue⟩
    rw [← Option.some.inj ho]
    exact regular_result h.active c
  | returned =>
    unfold LockWatch.step
    dsimp only
    split
    · exact h
    · rename_i o ho
      exact ⟨h.calling o ho, fun o ho => absurd ho (by simp), h.queue⟩
  | carryOut =>
    unfold LockWatch.step
    dsimp only
    split
    · exact h
    · exact ⟨h.active, h.calling, h.queue⟩
  | others locks => exact ⟨h.active, h.calling, h.queue⟩
  | snapshot => exact ⟨h.active, h.calling, h.queue⟩
  | compare now =>
    refine ⟨h.active, h.calling, fun id hid => ?_⟩
    rcases (LockWatch.mem_foldl_track_iff (C := lockWatch instanceId) rfl now s.world.obj s.locks
      s.registerQueue id).mp hid with hold | ⟨lock, -, -, rfl⟩
    · exact h.queue id hold
    · exact regular_mkId _
  | drain =>
    refine ⟨fun id hid => ?_, h.calling, fun id hid => absurd hid List.not_mem_nil⟩
    have hdrain := (LockWatch.drain_spec (C := lockWatch instanceId) (noEvents instanceId) s).1 id
    rcases (hdrain.mp hid).1 with hactive | hqueue
    · exact h.active id hactive
    · exact h.queue id hqueue

/-! ## One round -/

/-- The watcher polls once, and then the main loop empties the queues. -/
def round (now : ℕ) : List Event := [.snapshot, .compare now, .drain]

/-- Names that the kernel can list. -/
def Locks (L : List Bytes) : Prop := ∀ n ∈ L, LockName n ∧ n ≠ []

variable {L : List Bytes} {s : Watched LinuxKernelFields}

lemma read_locks (hL : Locks L) : (lockWatch instanceId).read L = L := by
  refine (readLocks_wakeLockFile fun n hn => ⟨(hL n hn).1.space, (hL n hn).1.newline⟩).trans ?_
  exact List.filter_eq_self.mpr fun n hn => decide_eq_true (hL n hn).2

/-- A lock in the list is known if its id is active or one of the daemon's own. -/
lemma AllRegular.known_iff (h : AllRegular instanceId s) (hL : Locks L) {n : Bytes} (hn : n ∈ L) :
    (lockWatch instanceId).Known s.world.obj n ↔
      mkId instanceId n ∈ s.world.obj.activeInhibits ∨
        mkId instanceId n ∈ s.world.obj.sub.ourInhibits := by
  have hname := (hL n hn).1
  have hcstr : CStruct.cstr n = n := CStruct.cstr_of_notMem hname.nul
  show (∃ id ∈ s.world.obj.activeInhibits, lockName id = CStruct.cstr n) ∨
    mkId instanceId (CStruct.cstr n) ∈ s.world.obj.sub.ourInhibits ↔ _
  rw [hcstr]
  refine or_congr_left ⟨?_, fun hactive => ⟨_, hactive, lockName_of_lockName instanceId hname⟩⟩
  rintro ⟨id, hid, heq⟩
  rw [← ((h.active id hid).lockName_eq_iff hname).mp heq]
  exact hid

/-- What the comparison finds removed. -/
lemma AllRegular.mem_removed (h : AllRegular instanceId s) (hL : Locks L) (id : InhibitID) :
    id ∈ ((lockWatch instanceId).removed L s.world.obj).map (lockWatch instanceId).removedId ↔
      id ∈ s.world.obj.activeInhibits ∧ lockName id ∉ L ∧
        id ∉ s.world.obj.sub.ourInhibits := by
  have hremoved : ∀ j, j ∈ (lockWatch instanceId).removed L s.world.obj ↔
      j ∈ s.world.obj.activeInhibits ∧ lockName j ∉ L ∧ j ∉ s.world.obj.sub.ourInhibits := by
    intro j
    rw [LockWatch.mem_removed]
    refine and_congr_right' (and_congr ⟨fun hall hmem => ?_, fun hnot n hn heq => ?_⟩ ?_)
    · exact hall _ hmem (CStruct.cstr_of_notMem (hL _ hmem).1.nul).symm
    · rw [CStruct.cstr_of_notMem (hL n hn).1.nul] at heq
      have heq : lockName j = n := heq
      exact hnot (heq ▸ hn)
    · exact not_congr (and_iff_right rfl)
  rw [← hremoved, List.mem_map]
  constructor
  · rintro ⟨j, hj, rfl⟩
    have hregular : (lockWatch instanceId).removedId j = j := h.active j ((hremoved j).mp hj).1
    rwa [hregular]
  · intro hid
    exact ⟨id, hid, h.active id ((hremoved id).mp hid).1⟩

/-- What one round leaves active. -/
lemma AllRegular.mem_round (h : AllRegular instanceId s) (hL : Locks L) (hheld : s.held = L)
    (now : ℕ) :
    (∀ id, Regular instanceId id →
      (id ∈ (Transition.run (lockWatch instanceId).step s (round now)).world.obj.activeInhibits ↔
        (id ∈ s.world.obj.activeInhibits ∨ id ∈ s.registerQueue.map Inhibit.id ∨
          (lockName id ∈ L ∧ id ∉ s.world.obj.sub.ourInhibits)) ∧
        id ∉ s.unregisterQueue ∧
        ¬ (id ∈ s.world.obj.activeInhibits ∧ lockName id ∉ L ∧
          id ∉ s.world.obj.sub.ourInhibits))) ∧
      (Transition.run (lockWatch instanceId).step s (round now)).world.obj.sub =
        s.world.obj.sub := by
  have hlocks : (lockWatch instanceId).read s.held = L := by rw [hheld, read_locks hL]
  obtain ⟨hdrain, hsub⟩ := LockWatch.drain_spec (C := lockWatch instanceId) (noEvents instanceId)
    ((lockWatch instanceId).step ((lockWatch instanceId).step s .snapshot) (.compare now))
  refine ⟨fun id hid => ?_, hsub⟩
  refine (hdrain id).trans ?_
  show (id ∈ s.world.obj.activeInhibits ∨ id ∈ (((lockWatch instanceId).read s.held).foldl
      ((lockWatch instanceId).track now s.world.obj) s.registerQueue).map Inhibit.id) ∧
    id ∉ s.unregisterQueue ++ ((lockWatch instanceId).removed ((lockWatch instanceId).read s.held)
      s.world.obj).map (lockWatch instanceId).removedId ↔ _
  rw [hlocks, LockWatch.mem_foldl_track_iff (C := lockWatch instanceId) rfl, List.mem_append,
    not_or, h.mem_removed hL]
  -- the id is that of a lock in the list exactly if its own lock is in the list
  have hnew : (∃ n ∈ L, ¬ (lockWatch instanceId).Known s.world.obj n ∧
      id = (lockWatch instanceId).mkId (CStruct.cstr n)) ↔
      lockName id ∈ L ∧ ¬ (id ∈ s.world.obj.activeInhibits ∨
        id ∈ s.world.obj.sub.ourInhibits) := by
    constructor
    · rintro ⟨n, hn, hunknown, heq⟩
      rw [CStruct.cstr_of_notMem (hL n hn).1.nul] at heq
      have heq : id = mkId instanceId n := heq
      rw [h.known_iff hL hn, ← heq] at hunknown
      rw [(hid.lockName_eq_iff (hL n hn).1).mpr heq]
      exact ⟨hn, hunknown⟩
    · rintro ⟨hn, hunknown⟩
      refine ⟨lockName id, hn, ?_, ?_⟩
      · rw [h.known_iff hL hn, hid]
        exact hunknown
      · rw [CStruct.cstr_of_notMem (hL _ hn).1.nul]
        exact hid.symm
  rw [hnew]
  tauto

/-! ## Convergence -/

/-- The foreign inhibits are those of the locks in the list, and nothing is queued. -/
structure Converged (instanceId : UInt64) (L : List Bytes) (s : Watched LinuxKernelFields) :
    Prop where
  held : s.held = L
  registerQueue : s.registerQueue = []
  unregisterQueue : s.unregisterQueue = []
  active : ∀ id, Regular instanceId id → id ∉ s.world.obj.sub.ourInhibits →
    (id ∈ s.world.obj.activeInhibits ↔ lockName id ∈ L)

/-- A round leaves a converged state as it is. -/
lemma Converged.round (h : AllRegular instanceId s) (hL : Locks L)
    (hs : Converged instanceId L s) (now : ℕ) :
    (Transition.run (lockWatch instanceId).step s (round now)).world = s.world ∧
      Converged instanceId L (Transition.run (lockWatch instanceId).step s (round now)) := by
  have hlocks : (lockWatch instanceId).read s.held = L := by rw [hs.held, read_locks hL]
  have hregister : ((lockWatch instanceId).read s.held).foldl
      ((lockWatch instanceId).track now s.world.obj) s.registerQueue = [] := by
    rw [hlocks, LockWatch.foldl_track_known, hs.registerQueue]
    intro n hn
    rw [h.known_iff hL hn]
    by_cases hours : mkId instanceId n ∈ s.world.obj.sub.ourInhibits
    · exact .inr hours
    · refine .inl ((hs.active _ (regular_mkId n) hours).mpr ?_)
      rw [lockName_of_lockName instanceId (hL n hn).1]
      exact hn
  have hunregister : s.unregisterQueue ++ ((lockWatch instanceId).removed
      ((lockWatch instanceId).read s.held) s.world.obj).map
        (lockWatch instanceId).removedId = [] := by
    rw [hlocks, hs.unregisterQueue, List.nil_append, List.eq_nil_iff_forall_not_mem]
    intro id hid
    obtain ⟨hactive, hnot, hours⟩ := (h.mem_removed hL id).mp hid
    exact hnot ((hs.active id (h.active id hactive) hours).mp hactive)
  have hworld : (Transition.run (lockWatch instanceId).step s
      (LinuxKernelInhibitInterface.round now)).world = s.world := by
    show (lockWatch instanceId).unregisterAll
      (s.unregisterQueue ++ ((lockWatch instanceId).removed ((lockWatch instanceId).read s.held)
        s.world.obj).map (lockWatch instanceId).removedId)
      ((lockWatch instanceId).registerAll (((lockWatch instanceId).read s.held).foldl
        ((lockWatch instanceId).track now s.world.obj) s.registerQueue) s.world) = s.world
    rw [hregister, hunregister]
    rfl
  refine ⟨hworld, hs.held, rfl, rfl, ?_⟩
  rw [hworld]
  exact hs.active

lemma AllRegular.run (h : AllRegular instanceId s) (es : List Event) :
    AllRegular instanceId (Transition.run (lockWatch instanceId).step s es) :=
  Transition.invariant_all h (fun _ e hs => hs.step e) es

/-- The first round empties the queues, so the second one registers and removes by the list
alone. -/
lemma converged_twice (h : AllRegular instanceId s) (hL : Locks L) (hheld : s.held = L)
    (now now' : ℕ) :
    Converged instanceId L
        (Transition.run (lockWatch instanceId).step s (round now ++ round now')) ∧
      (Transition.run (lockWatch instanceId).step s (round now ++ round now')).world.obj.sub =
        s.world.obj.sub := by
  obtain ⟨-, hsub₁⟩ := h.mem_round hL hheld now
  obtain ⟨hactive, hsub₂⟩ := (h.run (round now)).mem_round hL hheld now'
  rw [Transition.run_append]
  refine ⟨⟨hheld, rfl, rfl, fun id hid hours => ?_⟩, hsub₂.trans hsub₁⟩
  rw [hsub₂] at hours
  rw [hactive id hid]
  -- the second round starts with empty queues, so only the list counts
  have hnone : id ∉ List.map Inhibit.id [] := List.not_mem_nil
  have hnone' : id ∉ ([] : List InhibitID) := List.not_mem_nil
  show (id ∈ _ ∨ id ∈ List.map Inhibit.id [] ∨ (lockName id ∈ L ∧ id ∉ _)) ∧
    id ∉ ([] : List InhibitID) ∧ ¬ (id ∈ _ ∧ lockName id ∉ L ∧ id ∉ _) ↔ _
  tauto

/-- The state is that of some run. -/
def Reachable (instanceId : UInt64) (s : Watched LinuxKernelFields) : Prop :=
  ∃ es, s = Transition.run (lockWatch instanceId).step { world := { obj := { sub := {} } } } es

/-- Two rounds while the locks `L` are held. -/
def settle (instanceId : UInt64) (L : List Bytes) (now now' : ℕ) (s : Watched LinuxKernelFields) :
    Watched LinuxKernelFields :=
  Transition.run (lockWatch instanceId).step s (.others L :: (round now ++ round now'))

/-- From every reachable state, two rounds make the foreign inhibits those of the locks that are
held, and the rounds behind them do nothing. -/
theorem watcher_converges (hs : Reachable instanceId s) (hL : Locks L) (now now' : ℕ) :
    (settle instanceId L now now' s).world.obj.sub.ourInhibits = s.world.obj.sub.ourInhibits ∧
      (∀ n, (∃ id ∈ (settle instanceId L now now' s).world.obj.activeInhibits,
          id ∉ s.world.obj.sub.ourInhibits ∧ lockName id = n) ↔
        n ∈ L ∧ mkId instanceId n ∉ s.world.obj.sub.ourInhibits) ∧
      (settle instanceId L now now' s).registerQueue = [] ∧
      (settle instanceId L now now' s).unregisterQueue = [] ∧
      ∀ nows : List ℕ,
        (Transition.run (lockWatch instanceId).step (settle instanceId L now now' s)
            (nows.flatMap round)).world.obj.activeInhibits =
          (settle instanceId L now now' s).world.obj.activeInhibits ∧
        (Transition.run (lockWatch instanceId).step (settle instanceId L now now' s)
            (nows.flatMap round)).world.cbLog = (settle instanceId L now now' s).world.cbLog := by
  obtain ⟨es, rfl⟩ := hs
  set s := Transition.run (lockWatch instanceId).step { world := { obj := { sub := {} } } } es
  have hheld : AllRegular instanceId ((lockWatch instanceId).step s (.others L)) :=
    ((AllRegular.initial {}).run es).step (.others L)
  -- the first round may still drain what was queued before, the second one queues what is right
  obtain ⟨hconv, hsub⟩ := converged_twice hheld hL rfl now now'
  have hconv : Converged instanceId L (settle instanceId L now now' s) := hconv
  have hregular : AllRegular instanceId (settle instanceId L now now' s) :=
    hheld.run (round now ++ round now')
  have hours : (settle instanceId L now now' s).world.obj.sub.ourInhibits =
      s.world.obj.sub.ourInhibits := congrArg LinuxKernelFields.ourInhibits hsub
  refine ⟨hours, fun n => ⟨?_, ?_⟩, hconv.registerQueue, hconv.unregisterQueue, fun nows => ?_⟩
  · rintro ⟨id, hid, hforeign, rfl⟩
    have hid' := hregular.active id hid
    rw [hid']
    exact ⟨(hconv.active id hid' (by rwa [hours])).mp hid, hforeign⟩
  · rintro ⟨hn, hforeign⟩
    have hname := lockName_of_lockName instanceId (hL n hn).1
    refine ⟨mkId instanceId n, ?_, hforeign, hname⟩
    rw [hconv.active _ (regular_mkId n) (by rwa [hours]), hname]
    exact hn
  · -- each round leaves the interface as it is
    have hrounds : ∀ t, AllRegular instanceId t → Converged instanceId L t →
        (Transition.run (lockWatch instanceId).step t (nows.flatMap round)).world = t.world := by
      induction nows with
      | nil => exact fun t _ _ => rfl
      | cons m nows ih =>
        intro t ht hct
        obtain ⟨hworld, hnext⟩ := hct.round ht hL m
        rw [List.flatMap_cons, Transition.run_append]
        exact (ih _ (ht.run _) hnext).trans hworld
    rw [hrounds _ hregular hconv]
    exact ⟨rfl, rfl⟩

/-- A lock that is queued but no longer held when the rounds begin. -/
theorem watcher_converges_stale :
    ¬ ∃ id ∈ (settle 0 [lit "x"] 2 3 (Transition.run (lockWatch 0).step
        { world := { obj := { sub := {} } } }
        [.others [lit "y"], .snapshot, .compare 1])).world.obj.activeInhibits,
      id ∉ (Transition.run (lockWatch 0).step { world := { obj := { sub := {} } } }
        [.others [lit "y"], .snapshot, .compare 1]).world.obj.sub.ourInhibits ∧
      lockName id = lit "y" := by
  have hL : Locks [lit "x"] := by
    intro n hn
    rw [List.mem_singleton.mp hn]
    exact ⟨⟨by decide, by decide, by decide, by decide⟩, List.cons_ne_nil _ _⟩
  intro hstale
  have hlisted := ((watcher_converges ⟨_, rfl⟩ hL 2 3).2.1 (lit "y")).mp hstale
  exact absurd hlisted.1 (by decide)

end LinuxKernelInhibitInterface
end UnifiedInhibit
