import UnifiedInhibit.LockWatcher
import UnifiedInhibit.NamedLocks

/-!
# What the watcher reports

The watcher decides from what is active, but what it finds is active only when the main loop has
emptied the queue. So a lock of the daemon is reported if it is compared when its inhibit is not
active yet or any more, and a foreign lock that is found twice before the queue is emptied is
registered twice.
-/

namespace UnifiedInhibit

/-! ## Reading the locks -/

lemma pushBack_snoc (c : UInt8) (v : List Bytes) (w : Bytes) :
    pushBack c (v ++ [w]) = v ++ [w ++ [c]] := by
  unfold pushBack
  rw [List.dropLast_concat, List.getLast?_concat]
  rfl

namespace LinuxKernelInhibitInterface

/-- A name of a lock, as it stands in the file. -/
structure LockName (n : Bytes) : Prop where
  length : n.length ≤ lockNameSize - 1
  nul : 0 ∉ n
  space : 32 ∉ n
  newline : 10 ∉ n

lemma readChar_blank (st : List Bytes × UInt8) : readChar st 32 = (st.1, 32) := by
  simp [readChar]

lemma readChar_newline (st : List Bytes × UInt8) : readChar st 10 = (st.1, 10) := by
  simp [readChar]

/-- A character behind a blank begins a word. -/
lemma readChar_first {c : UInt8} (hspace : c ≠ 32) (hnewline : c ≠ 10) (v : List Bytes) :
    readChar (v, 32) c = (v ++ [[c]], c) := by
  have hpush := pushBack_snoc c v []
  simp [readChar, hspace, hnewline, hpush]

/-- A character behind another goes on with its word. -/
lemma readChar_next {c p : UInt8} (hspace : c ≠ 32) (hnewline : c ≠ 10) (hp : p ≠ 32)
    (v : List Bytes) (u : Bytes) : readChar (v ++ [u], p) c = (v ++ [u ++ [c]], c) := by
  simp [readChar, hspace, hnewline, hp, pushBack_snoc]

lemma foldl_readChar {w : Bytes} (hspace : 32 ∉ w) (hnewline : 10 ∉ w) (v : List Bytes) (u : Bytes)
    {p : UInt8} (hp : p ≠ 32) :
    ∃ p', w.foldl readChar (v ++ [u], p) = (v ++ [u ++ w], p') := by
  induction w generalizing u p with
  | nil => exact ⟨p, by rw [List.append_nil]; rfl⟩
  | cons c w ih =>
    rw [List.mem_cons, not_or] at hspace hnewline
    have hc : c ≠ 32 := Ne.symm hspace.1
    obtain ⟨p', hp'⟩ := ih hspace.2 hnewline.2 (u ++ [c]) hc
    refine ⟨p', ?_⟩
    rw [List.foldl_cons, readChar_next hc (Ne.symm hnewline.1) hp, hp', List.append_assoc,
      List.singleton_append]

/-- A word behind a blank is added unless it is empty. -/
lemma foldl_readChar_word {w : Bytes} (hspace : 32 ∉ w) (hnewline : 10 ∉ w) (v : List Bytes) :
    (w.foldl readChar (v, 32)).1 = v ++ [w].filter (· ≠ []) := by
  cases w with
  | nil => simp
  | cons c w =>
    rw [List.mem_cons, not_or] at hspace hnewline
    have hc : c ≠ 32 := Ne.symm hspace.1
    obtain ⟨p', hp'⟩ := foldl_readChar hspace.2 hnewline.2 v [c] hc
    rw [List.foldl_cons, readChar_first hc (Ne.symm hnewline.1), hp']
    simp

/-- Words with a blank between them are added one after the other. -/
lemma foldl_readChar_words {words : List Bytes} (h : ∀ w ∈ words, 32 ∉ w ∧ 10 ∉ w)
    (v : List Bytes) :
    ((List.intercalate [32] words).foldl readChar (v, 32)).1 = v ++ words.filter (· ≠ []) := by
  induction words generalizing v with
  | nil => simp
  | cons w words ih =>
    obtain ⟨hspace, hnewline⟩ := h w List.mem_cons_self
    have hword := foldl_readChar_word hspace hnewline v
    cases words with
    | nil =>
      rw [List.intercalate_singleton]
      exact hword
    | cons w' words =>
      have hrest := ih (fun u hu => h u (List.mem_cons_of_mem _ hu)) (v ++ [w].filter (· ≠ []))
      rw [List.intercalate_cons_cons, List.append_assoc, List.foldl_append, List.foldl_append,
        List.foldl_cons, List.foldl_nil, readChar_blank, hword, hrest, List.append_assoc,
        ← List.filter_append, List.singleton_append]

/-- The watcher reads the names that the file shows. -/
lemma readLocks_wakeLockFile {locks : List Bytes} (h : ∀ n ∈ locks, 32 ∉ n ∧ 10 ∉ n) :
    readLocks (wakeLockFile locks) = locks.filter (· ≠ []) := by
  have hwords := foldl_readChar_words h []
  unfold readLocks wakeLockFile
  rw [List.foldl_append, List.foldl_cons, List.foldl_nil, readChar_newline, hwords,
    List.nil_append]

/-- The id of a lock stores its name. -/
lemma lockName_of_lockName (instanceId : UInt64) {n : Bytes} (h : LockName n) :
    lockName (mkId instanceId n) = n := by
  rw [lockName_mkId_eq, CStruct.cstr_of_notMem h.nul,
    LinuxKernelInhibitFork.strip_of_notMem h.space, List.take_of_length_le h.length]

end LinuxKernelInhibitInterface

/-! ## The queues -/

namespace LockWatch

variable {σ : Type} {C : LockWatch σ}

lemma registerAll_cons (r : Inhibit) (queue : List Inhibit) (w : Alone σ) :
    C.registerAll (r :: queue) w =
      C.registerAll queue (Alone.this.registerInhibit C.overrides Alone.callbacks r w).2 := rfl

lemma activeInhibits_registerInhibit (r : Inhibit) (w : Alone σ) :
    (Alone.this.registerInhibit C.overrides Alone.callbacks r w).2.obj.activeInhibits =
      w.obj.activeInhibits.insertIfNew r.id r :=
  InhibitInterface.callEvent_activeInhibits _ _ _ _

lemma mem_registerAll (queue : List Inhibit) (w : Alone σ) (id : InhibitID) :
    id ∈ (C.registerAll queue w).obj.activeInhibits ↔
      id ∈ w.obj.activeInhibits ∨ id ∈ queue.map Inhibit.id := by
  induction queue generalizing w with
  | nil => simp [registerAll]
  | cons r queue ih =>
    rw [registerAll_cons, ih, activeInhibits_registerInhibit, StdMap.mem_insertIfNew, List.map_cons,
      List.mem_cons]
    tauto

lemma cbLog_registerAll (queue : List Inhibit) (w : Alone σ) :
    (C.registerAll queue w).cbLog = w.cbLog ++ queue.map CBCall.inhibitCB := by
  induction queue generalizing w with
  | nil => simp [registerAll]
  | cons r queue ih =>
    rw [registerAll_cons, ih, List.map_cons]
    show (w.cbLog ++ [CBCall.inhibitCB r]) ++ _ = _
    rw [List.append_assoc, List.singleton_append]

lemma inhibitCB_registerUnInhibit (id : InhibitID) (w : Alone σ) (i : Inhibit) :
    CBCall.inhibitCB i ∈
        (Alone.this.registerUnInhibit C.overrides Alone.callbacks id w).2.cbLog ↔
      CBCall.inhibitCB i ∈ w.cbLog := by
  unfold This.registerUnInhibit
  split
  · rfl
  · show CBCall.inhibitCB i ∈ w.cbLog ++ [CBCall.unInhibitCB _] ↔ _
    simp

/-- Emptying `unregisterQueue` calls no `inhibitCB`. -/
lemma inhibitCB_unregisterAll (queue : List InhibitID) (w : Alone σ) (i : Inhibit) :
    CBCall.inhibitCB i ∈ (C.unregisterAll queue w).cbLog ↔ CBCall.inhibitCB i ∈ w.cbLog := by
  induction queue generalizing w with
  | nil => rfl
  | cons id queue ih => exact (ih _).trans (inhibitCB_registerUnInhibit id w i)

/-- A drain calls `inhibitCB` for each inhibit that is queued. -/
lemma inhibitCB_drain (s : Watched σ) (i : Inhibit) :
    CBCall.inhibitCB i ∈ (C.step s .drain).world.cbLog ↔
      CBCall.inhibitCB i ∈ s.world.cbLog ∨ i ∈ s.registerQueue := by
  refine (inhibitCB_unregisterAll _ _ i).trans ?_
  rw [cbLog_registerAll, List.mem_append, List.mem_map]
  constructor
  · intro h
    rcases h with hold | ⟨r, hr, heq⟩
    · exact .inl hold
    · exact .inr (CBCall.inhibitCB.inj heq ▸ hr)
  · intro h
    rcases h with hold | hr
    · exact .inl hold
    · exact .inr ⟨i, hr, rfl⟩

/-! ## Comparing -/

/-- The lock is that of an active inhibit, or of one of the daemon's own. -/
def Known (C : LockWatch σ) (o : InhibitInterface σ) (lock : Bytes) : Prop :=
  (∃ id ∈ o.activeInhibits, C.name id = CStruct.cstr lock) ∨
    C.mkId (CStruct.cstr lock) ∈ C.ourInhibits o.sub

lemma any_keys (o : InhibitInterface σ) (p : InhibitID → Bool) :
    o.activeInhibits.keys.any p = true ↔ ∃ id ∈ o.activeInhibits, p id = true := by
  rw [List.any_eq_true]
  simp only [Std.ExtTreeMap.mem_keys]

/-- A lock that is known is not queued. -/
lemma track_known {now : ℕ} {o : InhibitInterface σ} {lock : Bytes} (h : C.Known o lock)
    (queue : List Inhibit) : C.track now o queue lock = queue := by
  unfold track
  dsimp only
  rw [if_neg]
  rcases h with ⟨id, hid, hname⟩ | hours
  · have hany : o.activeInhibits.keys.any (fun id => C.name id = CStruct.cstr lock) = true :=
      (any_keys _ _).mpr ⟨id, hid, decide_eq_true hname⟩
    rw [hany]
    simp
  · rw [decide_eq_true hours]
    simp

lemma subset_track (now : ℕ) (o : InhibitInterface σ) (queue : List Inhibit) (lock : Bytes) :
    queue ⊆ C.track now o queue lock := by
  unfold track
  dsimp only
  split
  · exact List.subset_append_left _ _
  · exact List.Subset.refl _

lemma subset_foldl_track (now : ℕ) (o : InhibitInterface σ) (locks : List Bytes)
    (queue : List Inhibit) : queue ⊆ locks.foldl (C.track now o) queue := by
  induction locks generalizing queue with
  | nil => exact List.Subset.refl _
  | cons lock locks ih => exact List.Subset.trans (subset_track now o queue lock) (ih _)

/-- A lock that is not known passes both tests of the loop. -/
lemma not_known {o : InhibitInterface σ} {lock : Bytes} (h : ¬ C.Known o lock) :
    o.activeInhibits.keys.any (fun id => C.name id = CStruct.cstr lock) = false ∧
      decide (C.mkId (CStruct.cstr lock) ∈ C.ourInhibits o.sub) = false := by
  constructor
  · apply Bool.eq_false_iff.mpr
    intro htrue
    obtain ⟨id, hid, hname⟩ := (any_keys _ _).mp htrue
    exact h (.inl ⟨id, hid, of_decide_eq_true hname⟩)
  · exact decide_eq_false fun hmem => h (.inr hmem)

/-- A lock that is not known is in the queue afterwards, if it was not before. -/
lemma track_ne_nil {now : ℕ} {o : InhibitInterface σ} {lock : Bytes} (h : ¬ C.Known o lock)
    (queue : List Inhibit) : C.track now o queue lock ≠ [] := by
  unfold track
  dsimp only
  split
  · simp
  · rename_i hnot
    intro hnil
    apply hnot
    rw [hnil]
    rw [(not_known h).1, (not_known h).2]
    simp

lemma foldl_track_known {now : ℕ} {o : InhibitInterface σ} {locks : List Bytes}
    (h : ∀ lock ∈ locks, C.Known o lock) (queue : List Inhibit) :
    locks.foldl (C.track now o) queue = queue := by
  induction locks generalizing queue with
  | nil => rfl
  | cons lock locks ih =>
    rw [List.foldl_cons, track_known (h lock List.mem_cons_self),
      ih fun l hl => h l (List.mem_cons_of_mem _ hl)]

lemma foldl_track_ne_nil (now : ℕ) {o : InhibitInterface σ} {locks : List Bytes} {lock : Bytes}
    (hlock : lock ∈ locks) (h : ¬ C.Known o lock) (queue : List Inhibit) :
    locks.foldl (C.track now o) queue ≠ [] := by
  -- once in the queue, it is not taken out by the locks behind it
  obtain ⟨before, behind, rfl⟩ := List.append_of_mem hlock
  rw [List.foldl_append, List.foldl_cons]
  intro hnil
  have hsub := subset_foldl_track (C := C) now o behind
    (C.track now o (before.foldl (C.track now o) queue) lock)
  rw [hnil] at hsub
  exact track_ne_nil h _ (List.subset_nil.mp hsub)

/-! ## The daemon's own locks -/

variable (C) in
/-- Nobody but the daemon takes locks. -/
def OwnLocks (s : Watched σ) : Event → Prop
  | .others _ => False
  | e => C.InTurn s e

variable (C) in
/-- Every lock that is compared is known. -/
def KnownLocks (s : Watched σ) : Event → Prop
  | .compare _ => ∀ lock ∈ s.locks, C.Known s.world.obj lock
  | _ => True

variable (C) in
/-- Up to the end of the step `registerInhibit`, which calls `inhibitCB`, has not been called. -/
def Silent (s : Watched σ) (e : Event) : Prop :=
  ∀ i, CBCall.inhibitCB i ∉ (C.step s e).world.cbLog

/-- Nothing is queued and nothing has been registered. -/
structure Quiet (s : Watched σ) : Prop where
  queue : s.registerQueue = []
  log : ∀ i, CBCall.inhibitCB i ∉ s.world.cbLog

variable {s : Watched σ}

lemma Quiet.step (h : Quiet s) {e : Event} (hknown : C.KnownLocks s e) : Quiet (C.step s e) := by
  cases e with
  | call c => exact ⟨h.queue, h.log⟩
  | returned =>
    unfold LockWatch.step
    dsimp only
    split
    · exact h
    · exact ⟨h.queue, h.log⟩
  | carryOut =>
    unfold LockWatch.step
    dsimp only
    split
    · exact h
    · exact ⟨h.queue, h.log⟩
  | others locks => exact ⟨h.queue, h.log⟩
  | snapshot => exact ⟨h.queue, h.log⟩
  | compare now =>
    refine ⟨?_, h.log⟩
    show s.locks.foldl (C.track now s.world.obj) s.registerQueue = []
    rw [foldl_track_known hknown, h.queue]
  | drain =>
    refine ⟨rfl, fun i hi => ?_⟩
    rcases (inhibitCB_drain s i).mp hi with hlog | hqueue
    · exact h.log i hlog
    · rw [h.queue] at hqueue
      exact absurd hqueue List.not_mem_nil

/-- What is queued stays queued up to the next drain. -/
lemma mem_registerQueue_run {fs : List Event} (hfs : Event.drain ∉ fs) {r : Inhibit}
    (hr : r ∈ s.registerQueue) : r ∈ (Transition.run C.step s fs).registerQueue := by
  induction fs generalizing s with
  | nil => exact hr
  | cons e fs ih =>
    rw [List.mem_cons, not_or] at hfs
    refine ih hfs.2 ?_
    cases e with
    | returned =>
      unfold LockWatch.step
      dsimp only
      split
      · exact hr
      · exact hr
    | carryOut =>
      unfold LockWatch.step
      dsimp only
      split
      · exact hr
      · exact hr
    | compare now => exact subset_foldl_track now s.world.obj s.locks s.registerQueue hr
    | drain => exact absurd rfl hfs.1
    | call c => exact hr
    | others locks => exact hr
    | snapshot => exact hr

/-- `registerInhibit` is not called as long as every lock that is compared is known; and when one
is not, the next drain calls it. -/
theorem never_hears_own {f : σ} {es : List Event}
    (hknown : Transition.Along C.step C.KnownLocks { world := { obj := { sub := f } } } es) :
    Transition.Along C.step C.Silent { world := { obj := { sub := f } } } es ∧
      let s := Transition.run C.step { world := { obj := { sub := f } } } es
      ∀ now fs, ¬ C.KnownLocks s (.compare now) → .drain ∉ fs →
        ¬ C.Silent (Transition.run C.step s (.compare now :: fs)) .drain := by
  have hstart : Quiet (σ := σ) { world := { obj := { sub := f } } } :=
    ⟨rfl, fun i hi => absurd hi List.not_mem_nil⟩
  refine ⟨?_, fun now fs hnot hfs hsilent => ?_⟩
  · exact Transition.along_imp (I := Quiet) hstart (fun s e h hok _ => h.step hok)
      (fun s e h hok _ => (h.step hok).log) hknown hknown
  · -- some lock is not known, so something is in the queue after the comparison
    have hlock : ∃ lock ∈ (Transition.run C.step { world := { obj := { sub := f } } } es).locks,
        ¬ C.Known (Transition.run C.step { world := { obj := { sub := f } } } es).world.obj
          lock := by
      by_contra hnone
      push Not at hnone
      exact hnot hnone
    obtain ⟨lock, hmem, hunknown⟩ := hlock
    obtain ⟨r, hr⟩ := List.exists_mem_of_ne_nil _
      (foldl_track_ne_nil now hmem hunknown
        (Transition.run C.step { world := { obj := { sub := f } } } es).registerQueue)
    have hqueue : r ∈ (C.step (Transition.run C.step { world := { obj := { sub := f } } } es)
        (.compare now)).registerQueue := hr
    exact hsilent r ((inhibitCB_drain _ r).mpr (.inr (mem_registerQueue_run hfs hqueue)))

/-- Both interfaces hear a lock of the daemon: the kernel interface one that it has released and
the child has not dropped yet, the Sxmo interface one that `sxmo_mutex.sh` has taken while
`doInhibit` is still waiting for it. -/
theorem never_hears_own_fails :
    let r : InhibitRequest :=
      { type := InhibitType.SUSPEND, appname := lit "a", reason := lit "b" }
    let K := LinuxKernelInhibitInterface.lockWatch 0
    let k : Watched LinuxKernelFields := { world := { obj := { sub := {} } } }
    let es : List Event := [.call (.inhibit 1 r), .returned, .carryOut,
      .call (.unInhibit (K.mkId (lit "a-b"))), .returned, .snapshot, .compare 2, .drain]
    let script (cmd : Bytes) (tokens : List Bytes) : List Bytes :=
      if cmd = SxmoInhibitInterface.lockCommand (lit "A - b") then tokens ++ [lit "A - b"]
      else tokens
    let X := SxmoInhibitInterface.lockWatch 0 script
    let x : Watched SxmoFields := { world := { obj := { sub := {} } } }
    let fs : List Event := [.call (.inhibit 1 r), .carryOut, .snapshot, .compare 2, .returned,
      .drain]
    (Transition.Along K.step K.OwnLocks k es ∧ ¬ Transition.Along K.step K.Silent k es) ∧
      (Transition.Along X.step X.OwnLocks x fs ∧ ¬ Transition.Along X.step X.Silent x fs) := by
  intro r K k es script X x fs
  have hK : ¬ Transition.Along K.step K.Silent k es := by
    intro h
    let i : Inhibit :=
      { type := InhibitType.SUSPEND, appname := lit "unknown-app", reason := lit "a-b",
        id := K.mkId (lit "a-b"), created := 2 }
    have hheard : CBCall.inhibitCB i ∈ (Transition.run K.step k es).world.cbLog := by
      decide +kernel
    exact h.2.2.2.2.2.2.2.1 i hheard
  have hX : ¬ Transition.Along X.step X.Silent x fs := by
    intro h
    let i : Inhibit :=
      { type := InhibitType.SUSPEND, appname := lit "unknown-app", reason := lit "A - b",
        id := X.mkId (lit "A - b"), created := 2 }
    have hheard : CBCall.inhibitCB i ∈ (Transition.run X.step x fs).world.cbLog := by
      decide +kernel
    exact h.2.2.2.2.2.1 i hheard
  -- no other requirement on the orders is violated
  have hKown : Transition.Along K.step K.OwnLocks k es := by
    have hcall : (Transition.run K.step k (es.take 3)).calling = none := by decide +kernel
    have hdrain : (Transition.run K.step k (es.take 7)).calling = none := by decide +kernel
    have hwaits : ¬ K.waits := by decide
    exact ⟨rfl, fun h => absurd h hwaits, trivial, hcall, fun h => absurd h hwaits, trivial,
      trivial, hdrain, trivial⟩
  have hXown : Transition.Along X.step X.OwnLocks x fs := by
    have hpending : (Transition.run X.step x (fs.take 4)).pending = [] := by decide +kernel
    have hdrain : (Transition.run X.step x (fs.take 5)).calling = none := by decide +kernel
    exact ⟨rfl, trivial, trivial, trivial, fun _ => hpending, hdrain, trivial⟩
  exact ⟨⟨hKown, hK⟩, hXown, hX⟩

/-- Own locks that are compared while their inhibits are active. -/
theorem never_hears_own_active :
    let r : InhibitRequest :=
      { type := InhibitType.SUSPEND, appname := lit "a", reason := lit "b" }
    let K := LinuxKernelInhibitInterface.lockWatch 0
    let k : Watched LinuxKernelFields := { world := { obj := { sub := {} } } }
    let es : List Event := [.call (.inhibit 1 r), .returned, .carryOut, .snapshot, .compare 2]
    Transition.Along K.step K.KnownLocks k es ∧ Transition.Along K.step K.Silent k es := by
  intro r K k es
  have hlocks : (Transition.run K.step k (es.take 4)).locks = [lit "a-b"] := by decide +kernel
  have hactive : K.mkId (lit "a-b") ∈
      (Transition.run K.step k (es.take 4)).world.obj.activeInhibits := by decide +kernel
  have hknown : Transition.Along K.step K.KnownLocks k es := by
    refine ⟨trivial, trivial, trivial, trivial, fun lock hlock => ?_, trivial⟩
    have hlock : lock ∈ (Transition.run K.step k (es.take 4)).locks := hlock
    rw [hlocks] at hlock
    rw [List.mem_singleton.mp hlock]
    exact .inl ⟨_, hactive, by decide +kernel⟩
  exact ⟨hknown, (never_hears_own hknown).1⟩

/-! ## The log of the callbacks -/

/-- The last callback for the id was `inhibitCB`. -/
def Reported (log : List CBCall) (id : InhibitID) : Prop :=
  ∃ pre i post, log = pre ++ .inhibitCB i :: post ∧ i.id = id ∧
    ∀ u, CBCall.unInhibitCB u ∈ post → u.id ≠ id

/-- Between two calls of `inhibitCB` for a name there is one of `unInhibitCB`. -/
def AtMostOnce (log : List CBCall) : Prop :=
  ∀ pre mid post i j, log = pre ++ .inhibitCB i :: (mid ++ .inhibitCB j :: post) → i.id = j.id →
    ∃ u, CBCall.unInhibitCB u ∈ mid ∧ u.id = i.id

lemma atMostOnce_nil : AtMostOnce [] := by
  intro pre mid post i j h
  exact absurd h.symm (by simp)

/-- A list that is put together and ends with `c`, taken apart again. -/
lemma eq_concat_cases {α : Type} {log pre post : List α} {c x : α}
    (h : log ++ [c] = pre ++ x :: post) :
    (post = [] ∧ x = c ∧ log = pre) ∨ ∃ post', post = post' ++ [c] ∧ log = pre ++ x :: post' := by
  rcases List.eq_nil_or_concat post with hnil | ⟨post', c', hpost⟩
  · rw [hnil] at h
    obtain ⟨hlog, hc⟩ := List.append_inj' h rfl
    exact .inl ⟨hnil, (List.cons.inj hc).1.symm, hlog⟩
  · rw [List.concat_eq_append] at hpost
    rw [hpost, ← List.cons_append, ← List.append_assoc] at h
    obtain ⟨hlog, hc⟩ := List.append_inj' h rfl
    exact .inr ⟨post', by rw [hpost, (List.cons.inj hc).1], hlog⟩

lemma reported_concat {log : List CBCall} {c : CBCall} {id : InhibitID}
    (h : Reported (log ++ [c]) id) :
    (∃ i, c = .inhibitCB i ∧ i.id = id) ∨
      (Reported log id ∧ ∀ u, c = .unInhibitCB u → u.id ≠ id) := by
  obtain ⟨pre, i, post, hlog, hid, hpost⟩ := h
  rcases eq_concat_cases hlog with ⟨-, hi, -⟩ | ⟨post', hpost', hlog'⟩
  · exact .inl ⟨i, hi.symm, hid⟩
  · refine .inr ⟨⟨pre, i, post', hlog', hid, fun u hu => ?_⟩, fun u hu => ?_⟩
    · exact hpost u (by rw [hpost']; exact List.mem_append_left _ hu)
    · exact hpost u (by rw [hpost', hu]; exact List.mem_append_right _ (List.mem_singleton_self _))

lemma AtMostOnce.concat {log : List CBCall} (h : AtMostOnce log) {c : CBCall}
    (hc : ∀ j, c = .inhibitCB j → ¬ Reported log j.id) : AtMostOnce (log ++ [c]) := by
  intro pre mid post i j hlog hij
  rw [← List.cons_append, ← List.append_assoc] at hlog
  rcases eq_concat_cases hlog with ⟨-, hj, hlog'⟩ | ⟨post', -, hlog'⟩
  · -- `c` is the second of the two calls
    by_contra hnone
    push Not at hnone
    refine hc j hj.symm ⟨pre, i, mid, hlog', hij, fun u hu heq => ?_⟩
    exact hnone u hu (heq.trans hij.symm)
  · rw [List.append_assoc, List.cons_append] at hlog'
    exact h pre mid post' i j hlog' hij

/-- What has been reported is active. -/
structure LogInv (w : Alone σ) : Prop where
  reported : ∀ id, Reported w.cbLog id → id ∈ w.obj.activeInhibits
  once : AtMostOnce w.cbLog
  keyed : ∀ (id : InhibitID) i, w.obj.activeInhibits[id]? = some i → i.id = id

lemma LogInv.registerInhibit {w : Alone σ} (h : LogInv w) {r : Inhibit}
    (hr : r.id ∉ w.obj.activeInhibits) :
    LogInv (Alone.this.registerInhibit C.overrides Alone.callbacks r w).2 := by
  have hactive := activeInhibits_registerInhibit (C := C) r w
  have hlog : (Alone.this.registerInhibit C.overrides Alone.callbacks r w).2.cbLog =
      w.cbLog ++ [.inhibitCB r] := rfl
  constructor
  case reported =>
    intro id hid
    rw [hactive, StdMap.mem_insertIfNew]
    rw [hlog] at hid
    rcases reported_concat hid with ⟨i, hi, heq⟩ | ⟨hold, -⟩
    · rw [← CBCall.inhibitCB.inj hi] at heq
      exact .inl heq.symm
    · exact .inr (h.reported id hold)
  case once =>
    -- what has been reported without a release since would be active
    rw [hlog]
    refine h.once.concat fun j hj hreported => hr ?_
    rw [CBCall.inhibitCB.inj hj]
    exact h.reported j.id hreported
  case keyed =>
    intro id i hi
    rw [hactive, StdMap.getElem?_insertIfNew] at hi
    split at hi
    · rename_i hnew
      rw [← Option.some.inj hi]
      exact hnew.1.symm
    · exact h.keyed id i hi

lemma LogInv.registerUnInhibit {w : Alone σ} (h : LogInv w) (id : InhibitID) :
    LogInv (Alone.this.registerUnInhibit C.overrides Alone.callbacks id w).2 := by
  unfold This.registerUnInhibit
  cases hmid : (Alone.this.get w).activeInhibits[id]? with
  | none => exact h
  | some mid =>
    have hkey : mid.id = id := h.keyed id mid hmid
    have hactive := InhibitInterface.callEvent_activeInhibits C.overrides false mid
      { w.obj with activeInhibits := w.obj.activeInhibits.erase id }
    constructor
    case reported =>
      intro j hj
      show j ∈ (InhibitInterface.callEvent C.overrides false mid
        { w.obj with activeInhibits := w.obj.activeInhibits.erase id }).activeInhibits
      rw [hactive, StdMap.mem_erase]
      have hj : Reported (w.cbLog ++ [.unInhibitCB mid]) j := hj
      rcases reported_concat hj with ⟨i, hi, -⟩ | ⟨hold, hne⟩
      · exact absurd hi (by simp)
      · refine ⟨h.reported j hold, fun heq => hne mid rfl ?_⟩
        rw [hkey, heq]
    case once =>
      refine h.once.concat fun j hj => ?_
      exact absurd hj (by simp)
    case keyed =>
      intro j i hi
      have hi : (InhibitInterface.callEvent C.overrides false mid
          { w.obj with activeInhibits := w.obj.activeInhibits.erase id }).activeInhibits[j]? =
          some i := hi
      rw [hactive, StdMap.getElem?_erase] at hi
      split at hi
      · exact absurd hi (by simp)
      · exact h.keyed j i hi

lemma LogInv.unregisterAll {w : Alone σ} (h : LogInv w) (queue : List InhibitID) :
    LogInv (C.unregisterAll queue w) := by
  induction queue generalizing w with
  | nil => exact h
  | cons id queue ih => exact ih (h.registerUnInhibit id)

lemma LogInv.registerAll {w : Alone σ} (h : LogInv w) {queue : List Inhibit}
    (hfree : ∀ r ∈ queue, r.id ∉ w.obj.activeInhibits) (hnodup : (queue.map Inhibit.id).Nodup) :
    LogInv (C.registerAll queue w) := by
  induction queue generalizing w with
  | nil => exact h
  | cons r queue ih =>
    rw [List.map_cons, List.nodup_cons] at hnodup
    -- what is registered first has none of the ids behind it
    refine ih (h.registerInhibit (hfree r List.mem_cons_self)) (fun r' hr' => ?_) hnodup.2
    rw [activeInhibits_registerInhibit, StdMap.mem_insertIfNew, not_or]
    refine ⟨fun heq => hnodup.1 ?_, hfree r' (List.mem_cons_of_mem _ hr')⟩
    rw [← heq]
    exact List.mem_map_of_mem hr'

/-! ## Foreign locks -/

lemma mem_track {now : ℕ} {o : InhibitInterface σ} {queue : List Inhibit} {lock : Bytes}
    {r : Inhibit} (hr : r ∈ C.track now o queue lock) :
    r ∈ queue ∨ (r.id = C.mkId (CStruct.cstr lock) ∧
      ∀ id ∈ o.activeInhibits, C.name id ≠ CStruct.cstr lock) := by
  unfold track at hr
  dsimp only at hr
  split at hr
  · rename_i hnew
    rcases List.mem_append.mp hr with hold | hr
    · exact .inl hold
    · rw [List.mem_singleton.mp hr]
      refine .inr ⟨rfl, fun id hid hname => ?_⟩
      have hany : o.activeInhibits.keys.any (fun id => C.name id = CStruct.cstr lock) = true :=
        (any_keys _ _).mpr ⟨id, hid, decide_eq_true hname⟩
      rw [hany] at hnew
      simp at hnew
  · exact .inl hr

lemma mem_foldl_track {now : ℕ} {o : InhibitInterface σ} {locks : List Bytes}
    {queue : List Inhibit} {r : Inhibit} (hr : r ∈ locks.foldl (C.track now o) queue) :
    r ∈ queue ∨ ∃ lock ∈ locks, r.id = C.mkId (CStruct.cstr lock) ∧
      ∀ id ∈ o.activeInhibits, C.name id ≠ CStruct.cstr lock := by
  induction locks generalizing queue with
  | nil => exact .inl hr
  | cons lock locks ih =>
    rcases ih hr with htrack | ⟨l, hl, hnew⟩
    · rcases mem_track htrack with hold | hnew
      · exact .inl hold
      · exact .inr ⟨lock, List.mem_cons_self, hnew⟩
    · exact .inr ⟨l, List.mem_cons_of_mem _ hl, hnew⟩

/-- Each element differs from those in front of it. -/
lemma nodup_map_iff {α β : Type} (f : α → β) (l : List α) :
    (l.map f).Nodup ↔ ∀ pre x post, l = pre ++ x :: post → f x ∉ pre.map f := by
  constructor
  · intro hnodup pre x post hl hmem
    rw [hl, List.map_append, List.map_cons] at hnodup
    exact (List.nodup_append.mp hnodup).2.2 _ hmem _ List.mem_cons_self rfl
  · intro h
    induction l using List.reverseRecOn with
    | nil => exact List.nodup_nil
    | append_singleton l x ih =>
      rw [List.map_append, List.map_singleton, List.nodup_append]
      refine ⟨ih fun pre y post hl => ?_, List.nodup_singleton _, fun a ha b hb heq => ?_⟩
      · exact h pre y (post ++ [x]) (by rw [hl, List.append_assoc, List.cons_append])
      · rw [List.mem_singleton.mp hb] at heq
        exact h l x [] rfl (heq ▸ ha)

/-- The daemon takes no locks, and others have distinct names for theirs. -/
def ForeignLocks (_s : Watched σ) : Event → Prop
  | .call _ => False
  | .returned => False
  | .carryOut => False
  | .others locks => (∀ n ∈ locks, LinuxKernelInhibitInterface.LockName n) ∧ locks.Nodup
  | _ => True

variable (C) in
/-- The step registers nothing that is active. -/
def Fresh (s : Watched σ) : Event → Prop
  | .drain => ∀ pre r post, s.registerQueue = pre ++ r :: post →
    r.id ∉ (C.registerAll pre s.world).obj.activeInhibits
  | _ => True

variable (C) in
/-- Each foreign lock is reported once. -/
def ReportedOnce (s : Watched σ) (e : Event) : Prop :=
  C.Fresh s e ∧ AtMostOnce (C.step s e).world.cbLog

/-- No lock has been queued twice when the queue is emptied. -/
def QueuedOnce (s : Watched σ) : Event → Prop
  | .drain => (s.registerQueue.map Inhibit.id).Nodup
  | _ => True

/-- What is queued is not active, and what has been reported is. -/
structure ForeignInv (s : Watched σ) : Prop where
  queue : ∀ r ∈ s.registerQueue, r.id ∉ s.world.obj.activeInhibits
  log : LogInv s.world
  locks : ∀ n ∈ s.locks, LinuxKernelInhibitInterface.LockName n
  held : ∀ n ∈ s.held, LinuxKernelInhibitInterface.LockName n

variable {instanceId : UInt64} {s : Watched LinuxKernelFields}

/-- The comparison queues only what is not active. -/
lemma ForeignInv.compare (h : ForeignInv s) (now : ℕ) :
    ForeignInv ((LinuxKernelInhibitInterface.lockWatch instanceId).step s (.compare now)) := by
  refine ⟨fun r hr hactive => ?_, h.log, h.locks, h.held⟩
  rcases mem_foldl_track hr with hold | ⟨lock, hlock, hid, hnew⟩
  · exact h.queue r hold hactive
  · -- the name in the id that would be active is the lock's own
    have hname := h.locks lock hlock
    rw [CStruct.cstr_of_notMem hname.nul] at hid hnew
    refine hnew r.id hactive ?_
    rw [hid]
    exact LinuxKernelInhibitInterface.lockName_of_lockName instanceId hname

/-- A drain registers only what is not active exactly if nothing is queued twice. -/
lemma ForeignInv.fresh_iff {C : LockWatch LinuxKernelFields} (h : ForeignInv s) (e : Event) :
    C.Fresh s e ↔ QueuedOnce s e := by
  cases e with
  | drain =>
    show (∀ pre r post, s.registerQueue = pre ++ r :: post →
      r.id ∉ (C.registerAll pre s.world).obj.activeInhibits) ↔
        (s.registerQueue.map Inhibit.id).Nodup
    rw [nodup_map_iff]
    refine forall₄_congr fun pre r post hqueue => not_congr ?_
    rw [mem_registerAll]
    have hfree : r.id ∉ s.world.obj.activeInhibits :=
      h.queue r (by rw [hqueue]; exact List.mem_append_right _ List.mem_cons_self)
    exact or_iff_right hfree
  | _ => exact Iff.rfl

/-- A step keeps the invariant if nothing is queued twice. -/
lemma ForeignInv.step (h : ForeignInv s) {e : Event} (hforeign : ForeignLocks s e)
    (honce : QueuedOnce s e) :
    ForeignInv ((LinuxKernelInhibitInterface.lockWatch instanceId).step s e) := by
  cases e with
  | call c => exact hforeign.elim
  | returned => exact hforeign.elim
  | carryOut => exact hforeign.elim
  | others locks => exact ⟨h.queue, h.log, h.locks, hforeign.1⟩
  | snapshot =>
    refine ⟨h.queue, h.log, fun n hn => ?_, h.held⟩
    -- the file lists the locks by name, so each is read back as it is
    have hread := LinuxKernelInhibitInterface.readLocks_wakeLockFile fun m hm =>
      ⟨(h.held m hm).space, (h.held m hm).newline⟩
    have hn : n ∈ LinuxKernelInhibitInterface.readLocks
        (LinuxKernelInhibitInterface.wakeLockFile s.held) := hn
    rw [hread] at hn
    exact h.held n (List.mem_filter.mp hn).1
  | compare now => exact h.compare now
  | drain =>
    refine ⟨fun r hr => absurd hr List.not_mem_nil, ?_, h.locks, h.held⟩
    exact (h.log.registerAll h.queue honce).unregisterAll s.unregisterQueue

/-- Each foreign wakelock is reported once through a whole run if and only if no lock is in the
queue twice when the main loop empties it. -/
theorem reported_once_iff (instanceId : UInt64) {es : List Event}
    (hes : Transition.Along (LinuxKernelInhibitInterface.lockWatch instanceId).step ForeignLocks
      { world := { obj := { sub := {} } } } es) :
    Transition.Along (LinuxKernelInhibitInterface.lockWatch instanceId).step
        (LinuxKernelInhibitInterface.lockWatch instanceId).ReportedOnce
        { world := { obj := { sub := {} } } } es ↔
      Transition.Along (LinuxKernelInhibitInterface.lockWatch instanceId).step QueuedOnce
        { world := { obj := { sub := {} } } } es := by
  have hstart : ForeignInv { world := { obj := { sub := ({} : LinuxKernelFields) } } } := by
    refine ⟨fun r hr => absurd hr List.not_mem_nil, ⟨fun id hid => ?_, atMostOnce_nil, ?_⟩,
      fun n hn => absurd hn List.not_mem_nil, fun n hn => absurd hn List.not_mem_nil⟩
    · obtain ⟨pre, i, post, hlog, -⟩ := hid
      exact absurd hlog (by simp)
    · intro id i hi
      exact absurd hi (by simp)
  constructor
  · intro hreported
    exact Transition.along_imp (I := ForeignInv) hstart (fun s e h hok hq => h.step hok hq)
      (fun s e h _ hr => (h.fresh_iff e).mp hr.1) hes hreported
  · intro hqueued
    have hboth := Transition.along_and.mpr ⟨hes, hqueued⟩
    exact Transition.along_imp (I := ForeignInv) hstart
      (fun s e h hok _ => h.step hok.1 hok.2)
      (fun s e h hok _ => ⟨(h.fresh_iff e).mpr hok.2, (h.step hok.1 hok.2).log.once⟩) hboth hboth

/-- A lock that is compared twice before the queue is emptied is registered twice. -/
theorem reported_once_fails :
    let C := LinuxKernelInhibitInterface.lockWatch 0
    let s : Watched LinuxKernelFields := { world := { obj := { sub := {} } } }
    let es : List Event :=
      [.others [lit "x"], .snapshot, .compare 1, .snapshot, .compare 2, .drain]
    Transition.Along C.step ForeignLocks s es ∧
      ¬ Transition.Along C.step C.ReportedOnce s es := by
  intro C s es
  refine ⟨⟨⟨?_, List.nodup_singleton _⟩, trivial, trivial, trivial, trivial, trivial, trivial⟩,
    fun h => ?_⟩
  · intro n hn
    rw [List.mem_singleton.mp hn]
    exact ⟨by decide, by decide, by decide, by decide⟩
  · let t := Transition.run C.step s (es.take 5)
    have hfresh : C.Fresh t .drain := h.2.2.2.2.2.1.1
    let r (now : ℕ) : Inhibit :=
      { type := InhibitType.SUSPEND, appname := lit "unknown-app", reason := lit "x",
        id := C.mkId (lit "x"), created := now }
    have hqueue : t.registerQueue = [r 1] ++ r 2 :: [] := by decide +kernel
    exact hfresh _ _ _ hqueue (by decide +kernel)

/-- A lock that is registered before it is compared again. -/
theorem reported_once_drained :
    let C := LinuxKernelInhibitInterface.lockWatch 0
    let s : Watched LinuxKernelFields := { world := { obj := { sub := {} } } }
    Transition.Along C.step C.ReportedOnce s
      [.others [lit "x"], .snapshot, .compare 1, .drain, .snapshot, .compare 2, .drain] := by
  intro C s
  have hname : ∀ n ∈ [lit "x"], LinuxKernelInhibitInterface.LockName n := by
    intro n hn
    rw [List.mem_singleton.mp hn]
    exact ⟨by decide, by decide, by decide, by decide⟩
  have hforeign : Transition.Along C.step ForeignLocks s
      [.others [lit "x"], .snapshot, .compare 1, .drain, .snapshot, .compare 2, .drain] :=
    ⟨⟨hname, List.nodup_singleton _⟩, trivial, trivial, trivial, trivial, trivial, trivial, trivial⟩
  refine (reported_once_iff 0 hforeign).mpr
    ⟨trivial, trivial, trivial, ?_, trivial, trivial, ?_, trivial⟩
  · show ((Transition.run C.step s
      [.others [lit "x"], .snapshot, .compare 1]).registerQueue.map Inhibit.id).Nodup
    decide +kernel
  · show ((Transition.run C.step s [.others [lit "x"], .snapshot, .compare 1, .drain, .snapshot,
      .compare 2]).registerQueue.map Inhibit.id).Nodup
    decide +kernel

end LockWatch

end UnifiedInhibit
