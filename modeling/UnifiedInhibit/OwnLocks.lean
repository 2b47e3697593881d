import UnifiedInhibit.LockConvergence

/-!
# When the watcher knows the daemon's own locks

Nothing is reported as long as every lock that is compared is known. Which orders of calls,
returns, commands, snapshots and comparisons are such is said here for each class, by the commands
and the locks alone: no lock of a snapshot may be one that the daemon is giving back or has given
back since, and `SxmoInhibitInterface` must not be in the middle of a call either.
-/

namespace UnifiedInhibit

namespace LockWatch

variable {σ : Type} (C : LockWatch σ)

/-- The locks that are held once the commands on their way are carried out. -/
def settled (s : Watched σ) : List Bytes :=
  s.pending.foldl (fun held cmd => C.carryOut cmd held) s.held

/-- What the main loop leaves behind when it returns. -/
def after (s : Watched σ) : InhibitInterface σ := s.calling.getD s.world.obj

/-- No lock that is compared is on its way to be given back, or has been given back. -/
def StillHeld (s : Watched σ) : Event → Prop
  | .compare _ => ∀ lock ∈ s.locks, lock ∈ C.settled s
  | _ => True

/-- The main loop is in no call when locks are compared. -/
def BetweenCalls (s : Watched σ) : Event → Prop
  | .compare _ => s.calling = none
  | _ => True

variable {C} {s : Watched σ}

lemma after_eq (h : s.calling = none) : after s = s.world.obj := by
  unfold after
  rw [h]
  rfl

/-- A step that is no call leaves the locks on which the commands settle. -/
lemma settled_step {e : Event} (hown : C.OwnLocks s e) (hcall : ∀ c, e ≠ .call c) :
    C.settled (C.step s e) = C.settled s := by
  cases e with
  | call c => exact absurd rfl (hcall c)
  | returned =>
    unfold LockWatch.step
    dsimp only
    split
    · rfl
    · rfl
  | carryOut =>
    unfold LockWatch.step
    dsimp only
    split
    · rfl
    · rename_i cmd pending hpending
      unfold settled
      rw [hpending, List.foldl_cons]
  | others locks => exact hown.elim
  | snapshot => rfl
  | compare now => rfl
  | drain => rfl

/-- A step that is no call and no drain changes the object at most when a call returns. -/
lemma after_step {e : Event} (hcall : ∀ c, e ≠ .call c) (hdrain : e ≠ .drain) :
    after (C.step s e) = after s ∧
      ((C.step s e).world.obj = s.world.obj ∨ (C.step s e).world.obj = after s) := by
  cases e with
  | call c => exact absurd rfl (hcall c)
  | drain => exact absurd rfl hdrain
  | returned =>
    unfold LockWatch.step after
    dsimp only
    split
    · exact ⟨rfl, .inl rfl⟩
    · rename_i o hcalling
      rw [hcalling]
      exact ⟨rfl, .inr rfl⟩
  | carryOut =>
    unfold LockWatch.step
    dsimp only
    split
    · exact ⟨rfl, .inl rfl⟩
    · exact ⟨rfl, .inl rfl⟩
  | others locks => exact ⟨rfl, .inl rfl⟩
  | snapshot => exact ⟨rfl, .inl rfl⟩
  | compare now => exact ⟨rfl, .inl rfl⟩

/-- A step that is no call leaves the fields. -/
lemma sub_after_step (hC : C.overrides.NoEvents) {e : Event} (hown : C.OwnLocks s e)
    (hcall : ∀ c, e ≠ .call c) : (after (C.step s e)).sub = (after s).sub := by
  by_cases hdrain : e = .drain
  · subst hdrain
    have hnone : s.calling = none := hown
    rw [after_eq hnone, after_eq (s := C.step s .drain) hnone]
    exact (drain_spec hC s).2
  · rw [(after_step hcall hdrain).1]

/-- A call adds its commands behind those that are on their way. -/
lemma settled_call (c : LockCall) (cmds : List Bytes)
    (hcmds : C.commands (C.result s.world.obj c).sub = C.commands s.world.obj.sub ++ cmds) :
    C.settled (C.step s (.call c)) =
      cmds.foldl (fun held cmd => C.carryOut cmd held) (C.settled s) := by
  show (s.pending ++ (C.commands (C.result s.world.obj c).sub).drop _).foldl _ s.held = _
  rw [hcmds, List.drop_left, List.foldl_append]
  rfl

lemma getElem?_registerUnInhibit {j id : InhibitID} {w : Alone σ} {i : Inhibit}
    (h : (Alone.this.registerUnInhibit C.overrides Alone.callbacks j w).2.obj.activeInhibits[id]? =
      some i) : w.obj.activeInhibits[id]? = some i := by
  unfold This.registerUnInhibit at h
  cases hj : (Alone.this.get w).activeInhibits[j]? with
  | none =>
    rw [hj] at h
    exact h
  | some mid =>
    rw [hj] at h
    have h : (InhibitInterface.callEvent C.overrides false mid
        { w.obj with activeInhibits := w.obj.activeInhibits.erase j }).activeInhibits[id]? =
        some i := h
    rw [InhibitInterface.callEvent_activeInhibits, StdMap.getElem?_erase] at h
    split at h
    · exact absurd h (by simp)
    · exact h

/-- What is active once `unregisterQueue` has been emptied was active before. -/
lemma getElem?_unregisterAll {queue : List InhibitID} {w : Alone σ} {id : InhibitID} {i : Inhibit}
    (h : (C.unregisterAll queue w).obj.activeInhibits[id]? = some i) :
    w.obj.activeInhibits[id]? = some i := by
  induction queue generalizing w with
  | nil => exact h
  | cons j queue ih => exact getElem?_registerUnInhibit (ih h)

end LockWatch

namespace LinuxKernelInhibitInterface

open LinuxKernelInhibitFork (tab writesOf_tab writesOf handleMsg_eq strip_of_notMem)
open NewlineMessageFork (newline)
open LockWatch

/-- A name of a lock without whitespace. -/
def PlainName (n : Bytes) : Prop := LockName n ∧ tab ∉ n

/-- The requests have plain names. -/
def PlainNames (_s : Watched LinuxKernelFields) : Event → Prop
  | .call (.inhibit _ r) => PlainName (requestName r.appname r.reason)
  | _ => True

variable {instanceId : UInt64}

/-- The child takes the lock of a name. -/
lemma mem_carryOut_lock {n : Bytes} (h : PlainName n) {locks : List Bytes} {m : Bytes} :
    m ∈ carryOut (n ++ [newline]) locks → m ∈ locks ∨ m = n := by
  have hstrip : LinuxKernelInhibitFork.strip n = n := strip_of_notMem h.1.space
  have hhead : n.headD 0 ≠ tab := by
    cases n with
    | nil => decide
    | cons c n => exact fun heq => h.2 (List.mem_cons.mpr (.inl heq.symm))
  unfold carryOut
  rw [List.dropLast_concat, handleMsg_eq, List.nil_append]
  unfold writesOf
  rw [hstrip, if_neg hhead]
  split
  · exact .inl
  · rw [List.foldl_cons, List.foldl_nil]
    unfold applyWrite
    dsimp only
    split
    · exact .inl
    · intro hm
      rcases List.mem_append.mp hm with hold | hnew
      · exact .inl hold
      · exact .inr (List.mem_singleton.mp hnew)

/-- The child drops the lock of a name. -/
lemma mem_carryOut_unlock {n : Bytes} (h : PlainName n) {locks : List Bytes} {m : Bytes} :
    m ∈ carryOut ([tab] ++ n ++ [newline]) locks ↔ m ∈ locks ∧ m ≠ n := by
  unfold carryOut
  rw [List.dropLast_concat, handleMsg_eq, List.nil_append, List.singleton_append, writesOf_tab,
    strip_of_notMem h.1.space, List.foldl_cons, List.foldl_nil]
  show m ∈ locks.filter (· ≠ n) ↔ _
  rw [List.mem_filter, decide_eq_true_eq]

/-- The locks on which the commands settle are the daemon's own, by its fields. -/
structure Tracked (instanceId : UInt64) (s : Watched LinuxKernelFields) : Prop where
  quiet : Quiet s
  ours : ∀ n ∈ (lockWatch instanceId).settled s,
    PlainName n ∧ mkId instanceId n ∈ (after s).sub.ourInhibits
  active : ∀ (id : InhibitID) i, (after s).activeInhibits[id]? = some i →
    PlainName (requestName i.appname i.reason)
  early : s.world.obj.sub = (after s).sub

variable {s : Watched LinuxKernelFields}

lemma mkId_ne {n m : Bytes} (hn : PlainName n) (hm : PlainName m) (hne : n ≠ m) :
    mkId instanceId n ≠ mkId instanceId m := by
  intro heq
  have hname := congrArg lockName heq
  rw [lockName_of_lockName instanceId hn.1, lockName_of_lockName instanceId hm.1] at hname
  exact hne hname

/-- A call keeps the invariant if it enters what its commands take, and takes out what they give
back. -/
lemma Tracked.call (h : Tracked instanceId s) {c : LockCall}
    {o : InhibitInterface LinuxKernelFields}
    (hresult : (lockWatch instanceId).result s.world.obj c = o) (cmds : List Bytes)
    (hcmds : o.sub.written = s.world.obj.sub.written ++ cmds)
    (hours : ∀ n ∈ cmds.foldl (fun held cmd => carryOut cmd held)
      ((lockWatch instanceId).settled s), PlainName n ∧ mkId instanceId n ∈ o.sub.ourInhibits)
    (hactive : ∀ (id : InhibitID) i, o.activeInhibits[id]? = some i →
      PlainName (requestName i.appname i.reason)) :
    Tracked instanceId ((lockWatch instanceId).step s (.call c)) := by
  have hsettled := settled_call (C := lockWatch instanceId) (s := s) c cmds
    (by rw [hresult]; exact hcmds)
  have hafter : after ((lockWatch instanceId).step s (.call c)) = o := hresult
  have hduring : (lockWatch instanceId).during s.world.obj c = o.sub := by
    rw [← hresult]
    cases c <;> rfl
  refine ⟨⟨h.quiet.queue, h.quiet.log⟩, fun n hn => ?_, ?_, ?_⟩
  · rw [hsettled] at hn
    rw [hafter]
    exact hours n hn
  · rw [hafter]
    exact hactive
  · rw [hafter]
    exact hduring

/-- A granted request takes a lock under its name. -/
lemma Tracked.inhibit (h : Tracked instanceId s) (hafter : after s = s.world.obj) (now : ℕ)
    {r : InhibitRequest} (hr : PlainName (requestName r.appname r.reason)) :
    Tracked instanceId ((lockWatch instanceId).step s (.call (.inhibit now r))) := by
  have hold := h.ours
  have hactive := h.active
  rw [hafter] at hold hactive
  by_cases htype : r.type &&& InhibitType.SUSPEND = InhibitType.NONE
  · have hdo : (overrides instanceId).doInhibit now r s.world.obj.sub =
        (.error .unsupportedType, s.world.obj.sub) := if_pos htype
    have hresult : (lockWatch instanceId).result s.world.obj (.inhibit now r) = s.world.obj :=
      congrArg Prod.snd (InhibitInterface.inhibit_error _ hdo)
    exact h.call hresult [] (List.append_nil _).symm hold hactive
  · have hdo : (overrides instanceId).doInhibit now r s.world.obj.sub = _ := if_neg htype
    have hsub := (noEvents instanceId).inhibit_sub hdo
    have hinsert := (InhibitInterface.inhibit_ok _ hdo).2
    refine h.call rfl [requestName r.appname r.reason ++ [newline]] ?_ (fun n hn => ?_)
      fun id i hi => ?_
    · exact congrArg LinuxKernelFields.written hsub
    · show PlainName n ∧ mkId instanceId n ∈
        (InhibitInterface.inhibit (overrides instanceId) now r s.world.obj).2.sub.ourInhibits
      rw [hsub]
      rcases mem_carryOut_lock hr hn with hmem | hnew
      · exact ⟨(hold n hmem).1, Finset.mem_insert_of_mem (hold n hmem).2⟩
      · rw [hnew]
        exact ⟨hr, Finset.mem_insert_self _ _⟩
    · have hi : (InhibitInterface.inhibit (overrides instanceId) now r
          s.world.obj).2.activeInhibits[id]? = some i := hi
      rw [hinsert, StdMap.getElem?_insertIfNew] at hi
      split at hi
      · rw [← Option.some.inj hi]
        exact hr
      · exact hactive id i hi

/-- The release of an active inhibit gives its lock back. -/
lemma Tracked.unInhibit (h : Tracked instanceId s) (hafter : after s = s.world.obj)
    (id : InhibitID) :
    Tracked instanceId ((lockWatch instanceId).step s (.call (.unInhibit id))) := by
  have hold := h.ours
  have hactive := h.active
  rw [hafter] at hold hactive
  cases hi : s.world.obj.activeInhibits[id]? with
  | none =>
    have hresult : (lockWatch instanceId).result s.world.obj (.unInhibit id) = s.world.obj := by
      show (InhibitInterface.unInhibit (overrides instanceId) id s.world.obj).2 = _
      unfold InhibitInterface.unInhibit
      rw [hi]
    exact h.call hresult [] (List.append_nil _).symm hold hactive
  | some i =>
    have hname := hactive id i hi
    have hsub := (noEvents instanceId).unInhibit_sub hi (doUnInhibit_active hi s.world.obj.sub)
    have herase := (InhibitInterface.unInhibit_ok (overrides instanceId) id s.world.obj
      (doUnInhibit_returns id)).2
    refine h.call rfl [[tab] ++ requestName i.appname i.reason ++ [newline]] ?_
      (fun n hn => ?_) fun j k hk => ?_
    · exact congrArg LinuxKernelFields.written hsub
    · show PlainName n ∧ mkId instanceId n ∈
        (InhibitInterface.unInhibit (overrides instanceId) id s.world.obj).2.sub.ourInhibits
      rw [hsub]
      obtain ⟨hmem, hne⟩ := (mem_carryOut_unlock hname).mp hn
      have hours := hold n hmem
      exact ⟨hours.1, Finset.mem_erase.mpr ⟨mkId_ne hours.1 hname hne, hours.2⟩⟩
    · have hk : (InhibitInterface.unInhibit (overrides instanceId) id
          s.world.obj).2.activeInhibits[j]? = some k := hk
      rw [herase, StdMap.getElem?_erase] at hk
      split at hk
      · exact absurd hk (by simp)
      · exact hactive j k hk

/-- A drain erases ids from `activeInhibits` at most, since nothing has been queued for it. -/
lemma Tracked.drain (h : Tracked instanceId s) (hnone : s.calling = none) {id : InhibitID}
    {i : Inhibit}
    (hi : (after ((lockWatch instanceId).step s .drain)).activeInhibits[id]? = some i) :
    PlainName (requestName i.appname i.reason) := by
  have hactive := h.active id i
  rw [after_eq hnone] at hactive
  rw [after_eq (s := (lockWatch instanceId).step s .drain) hnone] at hi
  have hi := getElem?_unregisterAll hi
  rw [h.quiet.queue] at hi
  exact hactive hi

lemma Tracked.step (h : Tracked instanceId s) {e : Event}
    (hown : (lockWatch instanceId).OwnLocks s e) (hnames : PlainNames s e)
    (hknown : (lockWatch instanceId).KnownLocks s e) :
    Tracked instanceId ((lockWatch instanceId).step s e) := by
  by_cases hcall : ∀ c, e ≠ .call c
  · have hsub := sub_after_step (noEvents instanceId) hown hcall
    refine ⟨h.quiet.step hknown, ?_, fun id i hi => ?_, ?_⟩
    · rw [settled_step hown hcall, hsub]
      exact h.ours
    · by_cases hdrain : e = .drain
      · subst hdrain
        exact h.drain hown hi
      · rw [(after_step hcall hdrain).1] at hi
        exact h.active id i hi
    · by_cases hdrain : e = .drain
      · subst hdrain
        rw [after_eq (s := (lockWatch instanceId).step s .drain) hown]
      · rw [hsub]
        rcases (after_step (C := lockWatch instanceId) hcall hdrain).2 with hsame | hreturned
        · rw [hsame]
          exact h.early
        · rw [hreturned]
  · push Not at hcall
    obtain ⟨c, rfl⟩ := hcall
    have hafter : after s = s.world.obj := after_eq hown
    cases c with
    | inhibit now r => exact h.inhibit hafter now hnames
    | unInhibit id => exact h.unInhibit hafter id

/-- A lock that stays held is one of `ourInhibits`. -/
lemma Tracked.known (h : Tracked instanceId s) {e : Event}
    (hheld : (lockWatch instanceId).StillHeld s e) : (lockWatch instanceId).KnownLocks s e := by
  cases e with
  | compare now =>
    intro lock hlock
    obtain ⟨hname, hours⟩ := h.ours lock (hheld lock hlock)
    rw [← h.early] at hours
    refine .inr ?_
    rw [CStruct.cstr_of_notMem hname.1.nul]
    exact hours
  | _ => trivial

/-- The kernel watcher knows every lock it compares if the daemon has not begun to give back one
that the snapshot shows. An inhibit may be on its way. -/
theorem known_of_stillHeld (instanceId : UInt64) {f : LinuxKernelFields} {es : List Event}
    (hown : Transition.Along (lockWatch instanceId).step (lockWatch instanceId).OwnLocks
      { world := { obj := { sub := f } } } es)
    (hnames : Transition.Along (lockWatch instanceId).step PlainNames
      { world := { obj := { sub := f } } } es)
    (hheld : Transition.Along (lockWatch instanceId).step (lockWatch instanceId).StillHeld
      { world := { obj := { sub := f } } } es) :
    Transition.Along (lockWatch instanceId).step (lockWatch instanceId).KnownLocks
      { world := { obj := { sub := f } } } es := by
  have hstart : Tracked instanceId { world := { obj := { sub := f } } } :=
    ⟨⟨rfl, fun i hi => absurd hi List.not_mem_nil⟩, fun n hn => absurd hn List.not_mem_nil,
      fun id i hi => absurd hi (by simp [after]), rfl⟩
  have hboth := Transition.along_and.mpr ⟨hown, hnames⟩
  exact Transition.along_imp hstart (fun s e h hok hknown => h.step hok.1 hok.2 hknown)
    (fun s e h _ hstill => h.known hstill) hboth hheld

/-- While the child has a release to carry out, the lock is held but the commands do not settle on
it. -/
example :
    let r : InhibitRequest :=
      { type := InhibitType.SUSPEND, appname := lit "a", reason := lit "b" }
    let K := lockWatch 0
    let s := Transition.run K.step { world := { obj := { sub := {} } } }
      [.call (.inhibit 1 r), .returned, .carryOut, .call (.unInhibit (K.mkId (lit "a-b")))]
    s.held = [lit "a-b"] ∧ K.settled s = [] := by
  decide +kernel

end LinuxKernelInhibitInterface

namespace SxmoInhibitInterface

open LockWatch

/-- A token that its id stores whole. -/
structure TokenName (t : Bytes) : Prop where
  length : t.length ≤ tokenSize - 1
  nul : 0 ∉ t

/-- What is asked of `sxmo_mutex.sh`: a command to lock adds at most its token, and one to free
takes its token away once at least. -/
structure Script (script : Bytes → List Bytes → List Bytes) : Prop where
  lock : ∀ t tokens, (script (lockCommand t) tokens).Sublist (tokens ++ [t])
  free : ∀ t tokens, (script (freeCommand t) tokens).Sublist (tokens.erase t)

variable (instanceId : UInt64) (script : Bytes → List Bytes → List Bytes)

/-- The requests have tokens that fit, and none asks for a token that is held or on its way. -/
def FreshTokens (s : Watched SxmoFields) : Event → Prop
  | .call (.inhibit _ r) => TokenName (mkToken r.appname r.reason) ∧
      mkToken r.appname r.reason ∉ (lockWatch instanceId script).settled s
  | _ => True

/-- The locks on which the commands settle are the daemon's own, by its fields. -/
structure Tracked (s : Watched SxmoFields) : Prop where
  quiet : Quiet s
  ours : ∀ t ∈ (lockWatch instanceId script).settled s,
    TokenName t ∧ mkId instanceId t ∈ (after s).sub.ourInhibits
  nodup : ((lockWatch instanceId script).settled s).Nodup

variable {instanceId script} {s : Watched SxmoFields}

lemma token_of_tokenName {t : Bytes} (h : TokenName t) : token (mkId instanceId t) = t := by
  rw [token_mkId, CStruct.cstr_of_notMem h.nul, List.take_of_length_le h.length]

/-- A call keeps the invariant if it enters what its commands take, and takes out what they give
back. -/
lemma Tracked.call (h : Tracked instanceId script s) {c : LockCall}
    {o : InhibitInterface SxmoFields}
    (hresult : (lockWatch instanceId script).result s.world.obj c = o) (cmds : List Bytes)
    (hcmds : o.sub.commands = s.world.obj.sub.commands ++ cmds)
    (hours : ∀ t ∈ cmds.foldl (fun held cmd => script cmd held)
      ((lockWatch instanceId script).settled s),
      TokenName t ∧ mkId instanceId t ∈ o.sub.ourInhibits)
    (hnodup : (cmds.foldl (fun held cmd => script cmd held)
      ((lockWatch instanceId script).settled s)).Nodup) :
    Tracked instanceId script ((lockWatch instanceId script).step s (.call c)) := by
  have hsettled := settled_call (C := lockWatch instanceId script) (s := s) c cmds
    (by rw [hresult]; exact hcmds)
  have hafter : after ((lockWatch instanceId script).step s (.call c)) = o := hresult
  refine ⟨⟨h.quiet.queue, h.quiet.log⟩, ?_, ?_⟩
  · rw [hsettled, hafter]
    exact hours
  · rw [hsettled]
    exact hnodup

/-- A granted request enters its token. -/
lemma Tracked.inhibit (hscript : Script script) (h : Tracked instanceId script s)
    (hafter : after s = s.world.obj) (now : ℕ) {r : InhibitRequest}
    (hname : TokenName (mkToken r.appname r.reason))
    (hfresh : mkToken r.appname r.reason ∉ (lockWatch instanceId script).settled s) :
    Tracked instanceId script ((lockWatch instanceId script).step s (.call (.inhibit now r))) := by
  have hold := h.ours
  rw [hafter] at hold
  by_cases htype : r.type &&& InhibitType.SCREENSAVER = InhibitType.NONE ∧
      r.type &&& InhibitType.SUSPEND = InhibitType.NONE
  · have hdo : (overrides { instanceId, ok := true }).doInhibit now r s.world.obj.sub =
        (.error .unsupportedType, s.world.obj.sub) := if_pos htype
    have hresult : (lockWatch instanceId script).result s.world.obj (.inhibit now r) =
        s.world.obj := congrArg Prod.snd (InhibitInterface.inhibit_error _ hdo)
    exact h.call hresult [] (List.append_nil _).symm hold h.nodup
  · have hdo : (overrides { instanceId, ok := true }).doInhibit now r s.world.obj.sub = _ :=
      if_neg htype
    have hsub := (noEvents { instanceId, ok := true }).inhibit_sub hdo
    have hcmd := cstr_lockCommand hname.nul
    have hsublist := hscript.lock (mkToken r.appname r.reason)
      ((lockWatch instanceId script).settled s)
    refine h.call rfl [lockCommand (mkToken r.appname r.reason)] ?_ (fun t ht => ?_) ?_
    · exact (congrArg SxmoFields.commands hsub).trans
        (congrArg (fun cmd => s.world.obj.sub.commands ++ [cmd]) hcmd)
    · show TokenName t ∧ mkId instanceId t ∈ (InhibitInterface.inhibit
        (overrides { instanceId, ok := true }) now r s.world.obj).2.sub.ourInhibits
      rw [hsub]
      rcases List.mem_append.mp (hsublist.subset ht) with hmem | hnew
      · exact ⟨(hold t hmem).1, Finset.mem_insert_of_mem (hold t hmem).2⟩
      · rw [List.mem_singleton.mp hnew]
        exact ⟨hname, Finset.mem_insert_self _ _⟩
    · have hadded := h.nodup.concat hfresh
      rw [List.concat_eq_append] at hadded
      exact hadded.sublist hsublist

/-- A release takes out the token that it frees. -/
lemma Tracked.unInhibit (hscript : Script script) (h : Tracked instanceId script s)
    (hafter : after s = s.world.obj) (id : InhibitID) :
    Tracked instanceId script ((lockWatch instanceId script).step s (.call (.unInhibit id))) := by
  have hold := h.ours
  rw [hafter] at hold
  cases hi : s.world.obj.activeInhibits[id]? with
  | none =>
    have hresult : (lockWatch instanceId script).result s.world.obj (.unInhibit id) =
        s.world.obj := by
      show (InhibitInterface.unInhibit (overrides { instanceId, ok := true }) id s.world.obj).2 = _
      unfold InhibitInterface.unInhibit
      rw [hi]
    exact h.call hresult [] (List.append_nil _).symm hold h.nodup
  | some i =>
    have hsub := (noEvents { instanceId, ok := true }).unInhibit_sub hi rfl
    have hcmd := cstr_freeCommand (t := token id) (CStruct.zero_notMem_cstr _)
    have hsublist := hscript.free (token id) ((lockWatch instanceId script).settled s)
    refine h.call rfl [freeCommand (token id)] ?_ (fun t ht => ?_) ?_
    · exact (congrArg SxmoFields.commands hsub).trans
        (congrArg (fun cmd => s.world.obj.sub.commands ++ [cmd]) hcmd)
    · show TokenName t ∧ mkId instanceId t ∈ (InhibitInterface.unInhibit
        (overrides { instanceId, ok := true }) id s.world.obj).2.sub.ourInhibits
      rw [hsub]
      obtain ⟨hne, hmem⟩ := (h.nodup.mem_erase_iff).mp (hsublist.subset ht)
      have hours := hold t hmem
      refine ⟨hours.1, Finset.mem_erase.mpr ⟨fun heq => hne ?_, hours.2⟩⟩
      rw [← heq, token_of_tokenName hours.1]
    · exact (h.nodup.erase _).sublist hsublist

lemma Tracked.step (hscript : Script script) (h : Tracked instanceId script s) {e : Event}
    (hown : (lockWatch instanceId script).OwnLocks s e)
    (hfresh : FreshTokens instanceId script s e)
    (hknown : (lockWatch instanceId script).KnownLocks s e) :
    Tracked instanceId script ((lockWatch instanceId script).step s e) := by
  by_cases hcall : ∀ c, e ≠ .call c
  · refine ⟨h.quiet.step hknown, ?_, ?_⟩
    · rw [settled_step hown hcall, sub_after_step (noEvents _) hown hcall]
      exact h.ours
    · rw [settled_step hown hcall]
      exact h.nodup
  · push Not at hcall
    obtain ⟨c, rfl⟩ := hcall
    have hafter : after s = s.world.obj := after_eq hown
    cases c with
    | inhibit now r => exact h.inhibit hscript hafter now hfresh.1 hfresh.2
    | unInhibit id => exact h.unInhibit hscript hafter id

/-- Between calls a token that stays held is one of `ourInhibits`. -/
lemma Tracked.known (h : Tracked instanceId script s) {e : Event}
    (hbetween : BetweenCalls s e) (hheld : (lockWatch instanceId script).StillHeld s e) :
    (lockWatch instanceId script).KnownLocks s e := by
  cases e with
  | compare now =>
    intro lock hlock
    obtain ⟨hname, hours⟩ := h.ours lock (hheld lock hlock)
    rw [after_eq hbetween] at hours
    refine .inr ?_
    rw [CStruct.cstr_of_notMem hname.nul]
    exact hours
  | _ => trivial

/-- The Sxmo watcher knows every token it compares if the main loop is in no call, the tokens of
the snapshot are still held, and no token has been taken twice at a time. -/
theorem known_of_stillHeld (instanceId : UInt64) {script : Bytes → List Bytes → List Bytes}
    (hscript : Script script) {f : SxmoFields} {es : List Event}
    (hown : Transition.Along (lockWatch instanceId script).step
      (lockWatch instanceId script).OwnLocks { world := { obj := { sub := f } } } es)
    (hfresh : Transition.Along (lockWatch instanceId script).step
      (FreshTokens instanceId script) { world := { obj := { sub := f } } } es)
    (hbetween : Transition.Along (lockWatch instanceId script).step BetweenCalls
      { world := { obj := { sub := f } } } es)
    (hheld : Transition.Along (lockWatch instanceId script).step
      (lockWatch instanceId script).StillHeld { world := { obj := { sub := f } } } es) :
    Transition.Along (lockWatch instanceId script).step
      (lockWatch instanceId script).KnownLocks { world := { obj := { sub := f } } } es := by
  have hstart : Tracked instanceId script { world := { obj := { sub := f } } } :=
    ⟨⟨rfl, fun i hi => absurd hi List.not_mem_nil⟩, fun t ht => absurd ht List.not_mem_nil,
      List.nodup_nil⟩
  have hboth := Transition.along_and.mpr ⟨hown, hfresh⟩
  have hsnapshot := Transition.along_and.mpr ⟨hbetween, hheld⟩
  exact Transition.along_imp hstart (fun s e h hok hknown => h.step hscript hok.1 hok.2 hknown)
    (fun s e h _ hstill => h.known hstill.1 hstill.2) hboth hsnapshot

end SxmoInhibitInterface

end UnifiedInhibit
