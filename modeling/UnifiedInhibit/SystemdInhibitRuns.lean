import UnifiedInhibit.SystemdInhibitForkTheorems
import UnifiedInhibit.SystemdInhibitQueries

/-!
# Runs of `SystemdInhibitInterface`

Clients take inhibits with `Inhibit` messages and let go of them, the daemon forwards inhibits and
releases them again, and `poll` drains the releases of the clients. Each step is reduced to what it
does to the active ids and to the descriptors of the two processes.

The interface shares the descriptors of the daemon with all else in it. A message brings descriptors
of its own, which stay open until libdbus drops it: before it is handled, while it is handled, and
in monitor mode from the call to the reply at least. What opens or closes while a handler runs is
taken to do so right after it; a number that it finds taken then is opened and closed.
-/

namespace UnifiedInhibit

open DBus (Message)

namespace SystemdInhibitInterface

open SystemdInhibitFork (tab)
open NewlineMessageFork (newline)

/-- The interface, the ids of the clients' inhibits whose release has not been drained, the ids of
the forwarded inhibits that have not been released, and the descriptors that belong to messages or
to another part of the daemon. -/
structure Run where
  world : Alone SystemdFields
  clients : List InhibitID := []
  forwarded : List InhibitID := []
  others : Finset ℕ := ∅

inductive Event where
  /-- a client's `Inhibit` message; `creds` is the answer of the bus about the sender -/
  | message (setup : FifoSetup) (now : ℕ) (creds : Except Exn (UInt32 × UInt32)) (readable : Bool)
      (msg : Message) (ret : Option Message)
  /-- a forwarded inhibit -/
  | inhibit (setup : FifoSetup) (now : ℕ) (r : InhibitRequest)
  /-- the release of a forwarded inhibit -/
  | unInhibit (id : InhibitID)
  /-- a release thread ends -/
  | release (k : ℕ)
  | poll
  /-- a message brings a descriptor, or another part of the daemon opens one -/
  | opened (file : Bytes)
  /-- such a descriptor is closed -/
  | closed (n : ℕ)

variable (cfg : SystemdConfig)

/-- `handleInhibitMsg` on its own, with what the bus knows about the sender -/
def handleAlone (setup : FifoSetup) (now : ℕ) (pidUid : Option (UInt32 × UInt32))
    (readable : Bool) (msg : Message) (ret : Option Message) (w : Alone SystemdFields) :
    Alone SystemdFields :=
  (handleInhibitMsg cfg Alone.this (overrides cfg setup) Alone.callbacks setup now pidUid readable
    msg ret w).2

/-- `handleInhibitMsg` on its own -/
def handleAsking (setup : FifoSetup) (now : ℕ) (creds : Except Exn (UInt32 × UInt32))
    (readable : Bool) (msg : Message) (ret : Option Message) (w : Alone SystemdFields) :
    Alone SystemdFields :=
  (handleInhibitMsgAsking cfg Alone.this Alone.callbacks setup now creds readable msg ret w).2

/-- The ids that a step gives to new inhibits. -/
def given (s : Run) : Event → List InhibitID
  | .message setup now creds readable msg ret =>
    let w := handleAsking cfg setup now creds readable msg ret s.world
    (w.cbLog.drop s.world.cbLog.length).filterMap fun c =>
      match c with
      | .inhibitCB i => some i.id
      | .unInhibitCB _ => none
  | .inhibit setup now r =>
    match (InhibitInterface.inhibit (overrides cfg setup) now r s.world.obj).1 with
    | .ok i => [i.id]
    | .error _ => []
  | _ => []

def step (s : Run) (e : Event) : Run :=
  match e with
  | .message setup now creds readable msg ret =>
    { s with
      world := handleAsking cfg setup now creds readable msg ret s.world
      clients := s.clients ++ given cfg s e }
  | .inhibit setup now r =>
    { s with
      world.obj := (InhibitInterface.inhibit (overrides cfg setup) now r s.world.obj).2
      forwarded := s.forwarded ++ given cfg s e }
  | .unInhibit id =>
    { s with
      world.obj := (InhibitInterface.unInhibit (overrides cfg {}) id s.world.obj).2
      forwarded := s.forwarded.erase id }
  | .release k => { s with world := Alone.this.modifySub (release k) s.world }
  | .poll =>
    { s with
      world := (poll Alone.this (overrides cfg {}) Alone.callbacks s.world).2
      clients := s.clients.diff (s.world.obj.sub.releaseQueue.map (·.id)) }
  | .opened file =>
    let (n, fds) := Descriptors.openFd s.world.obj.sub.fds file
    { s with world.obj.sub.fds := fds, others := insert n s.others }
  | .closed n =>
    { s with world.obj.sub.fds := s.world.obj.sub.fds.erase n, others := s.others.erase n }

lemma noEvents (setup : FifoSetup) : (overrides cfg setup).NoEvents :=
  ⟨fun _ _ => rfl, fun _ _ => rfl, fun _ _ _ => rfl⟩

variable {cfg} in
lemma overrides_doInhibit {setup : FifoSetup} {now : ℕ} {r : InhibitRequest} {s s' : SystemdFields}
    {i : Except Exn Inhibit} (h : doInhibit cfg setup now r s = (i, s')) :
    (overrides cfg setup).doInhibit now r s = (i, s') := h

/-! ## Ids -/

/-- A number that fits an `int32_t` is read back from the id. -/
lemma fdOf_mkId {n : ℤ} (hlow : -2 ^ 31 ≤ n) (hhigh : n < 2 ^ 31) : fdOf (mkId cfg n) = n := by
  unfold fdOf mkId
  have hdrop : (CStruct.leBytes 8 cfg.instanceId.toNat ++
      CStruct.leBytes 4 (n % 2 ^ 32).toNat ++ cfg.padding).drop 8 =
      CStruct.leBytes 4 (n % 2 ^ 32).toNat ++ cfg.padding := by
    rw [List.append_assoc]
    exact List.drop_left' (CStruct.length_leBytes 8 _)
  rw [hdrop, List.take_left' (CStruct.length_leBytes 4 _), CStruct.leValue_leBytes]
  have hbound : (n % 2 ^ 32).toNat < 2 ^ 32 := by omega
  rw [Nat.mod_eq_of_lt (by omega)]
  have hcast : (((n % 2 ^ 32).toNat : ℕ) : ℤ) = n % 2 ^ 32 := by omega
  rw [hcast]
  show (n % ((2 ^ 32 : ℕ) : ℤ)).bmod (2 ^ 32) = n
  rw [Int.emod_bmod]
  exact Int.bmod_eq_of_le (by omega) (by omega)

lemma mkId_inj {n m : ℤ} (hn : -2 ^ 31 ≤ n ∧ n < 2 ^ 31) (hm : -2 ^ 31 ≤ m ∧ m < 2 ^ 31)
    (h : mkId cfg n = mkId cfg m) : n = m := by
  have hfd := congrArg fdOf h
  rw [fdOf_mkId cfg hn.1 hn.2, fdOf_mkId cfg hm.1 hm.2] at hfd
  exact hfd

/-! ## Lock references -/

/-- All steps of setting up a FIFO succeed. -/
def FifoSetup.Succeeds (setup : FifoSetup) : Prop :=
  (setup.mkfifo && setup.openRead && setup.openWrite) = true

/-- The two agree on the releases to come and on the child. -/
structure SameRest (s s' : SystemdFields) : Prop where
  threads : s'.releaseThreads = s.releaseThreads
  queue : s'.releaseQueue = s.releaseQueue
  fork : s'.fork = s.fork

/-- `pidUids` with what the bus tells about the sender of the inhibit `id`. -/
def toldPidUids (pidUid : Option (UInt32 × UInt32)) (id : InhibitID) (s : SystemdFields) :
    StdMap InhibitID (UInt32 × UInt32) :=
  match pidUid with
  | some p => s.pidUids.insert id p
  | none => s.pidUids

variable {cfg}

/-- A lock reference takes the two lowest free numbers. -/
lemma newLockRef_ok {setup : FifoSetup} (h : FifoSetup.Succeeds setup) (s : SystemdFields) :
    ∃ file s', newLockRef setup s = (.ok { rfd := Descriptors.lowestFree s.fds
                                           wfd := Descriptors.lowestFree
                                             (Descriptors.openFd s.fds file).2
                                           file }, s') ∧
      s'.fds = (Descriptors.openFd (Descriptors.openFd s.fds file).2 file).2 ∧
      SameRest s s' := by
  obtain ⟨hfirst, hwrite⟩ := Bool.and_eq_true_iff.mp h
  obtain ⟨hmkfifo, hread⟩ := Bool.and_eq_true_iff.mp hfirst
  unfold newLockRef
  dsimp only
  rw [hmkfifo, hread, hwrite]
  exact ⟨_, _, rfl, rfl, rfl, rfl, rfl⟩

/-- A set-up that fails closes nothing. -/
lemma newLockRef_fails {setup : FifoSetup} (h : ¬ FifoSetup.Succeeds setup) (s : SystemdFields) :
    ∃ e s', newLockRef setup s = (.error e, s') ∧ Descriptors.Grows s.fds s'.fds ∧
      SameRest s s' := by
  unfold FifoSetup.Succeeds at h
  unfold newLockRef
  dsimp only
  rw [if_neg h]
  refine ⟨_, _, rfl, ?_, rfl, rfl, rfl⟩
  cases setup.openRead <;> cases setup.openWrite
  · exact Descriptors.Grows.refl _
  · exact Descriptors.grows_openFd _ _
  · exact Descriptors.grows_openFd _ _
  · exact (Descriptors.grows_openFd _ _).trans (Descriptors.grows_openFd _ _)

/-! ## A client's message -/

variable (cfg)

/-- The message makes the class register an inhibit, if a lock reference can be set up. -/
def Requests (msg : Message) (ret : Option Message) : Prop :=
  msg.sender ≠ cfg.forkSender ∧
    (∃ what who why mode, fourStrings msg.args = some (what, who, why, mode) ∧
      why ≠ lit "user session inhibited") ∧
    (cfg.monitor = true → ∃ m file, ret = some m ∧ oneUnixFd m.args = some file)

/-- A new inhibit has been registered. -/
structure Registered (i : Inhibit) (w w' : Alone SystemdFields) : Prop where
  active : w'.obj.activeInhibits = w.obj.activeInhibits.insertIfNew i.id i
  log : w'.cbLog = w.cbLog ++ [.inhibitCB i]

variable {cfg}

section Given

variable {setup : FifoSetup} {now : ℕ} {creds : Except Exn (UInt32 × UInt32)} {readable : Bool}
  {msg : Message} {ret : Option Message} {s : Run}

lemma given_registered {i : Inhibit}
    (h : (handleAsking cfg setup now creds readable msg ret s.world).cbLog =
      s.world.cbLog ++ [.inhibitCB i]) :
    given cfg s (.message setup now creds readable msg ret) = [i.id] := by
  unfold given
  dsimp only
  rw [h, List.drop_left]
  rfl

lemma given_unregistered
    (h : (handleAsking cfg setup now creds readable msg ret s.world).cbLog = s.world.cbLog) :
    given cfg s (.message setup now creds readable msg ret) = [] := by
  unfold given
  dsimp only
  rw [h, List.drop_length]
  rfl

end Given

section Message

variable {setup : FifoSetup} {msg : Message} {ret : Option Message} (now : ℕ)
  (pidUid : Option (UInt32 × UInt32)) (readable : Bool) (w : Alone SystemdFields)

/-- Any other message changes nothing. -/
lemma handleAlone_other (hret : ret.isSome = cfg.monitor) (h : ¬ Requests cfg msg ret) :
    handleAlone cfg setup now pidUid readable msg ret w = w := by
  unfold handleAlone handleInhibitMsg
  by_cases hsender : msg.sender = cfg.forkSender
  · rw [if_pos hsender]
  rw [if_neg hsender]
  cases hargs : fourStrings msg.args with
  | none =>
    unfold Message.getArgs
    rw [hargs]
  | some args =>
    obtain ⟨what, who, why, mode⟩ := args
    unfold Message.getArgs
    rw [hargs]
    dsimp only
    by_cases hwhy : why = lit "user session inhibited"
    · rw [if_pos hwhy]
    rw [if_neg hwhy]
    -- what is missing is the descriptor in the reply
    cases hmon : cfg.monitor with
    | false =>
      refine absurd ⟨hsender, ⟨what, who, why, mode, hargs, hwhy⟩, fun hm => ?_⟩ h
      rw [hmon] at hm
      cases hm
    | true =>
      rw [hmon] at hret
      obtain ⟨m, hm⟩ := Option.isSome_iff_exists.mp hret
      rw [hm]
      dsimp only
      cases hfile : oneUnixFd m.args with
      | none => rfl
      | some file =>
        exact absurd ⟨hsender, ⟨what, who, why, mode, hargs, hwhy⟩, fun _ => ⟨m, file, hm, hfile⟩⟩ h

variable (setup) in
/-- In monitor mode the id is the number of the received descriptor, which is closed again. -/
lemma handleAlone_monitor (hmon : cfg.monitor = true) (h : Requests cfg msg ret) :
    ∃ i threads, i.id = mkId cfg (Descriptors.lowestFree w.obj.sub.fds) ∧
      Registered i w (handleAlone cfg setup now pidUid readable msg ret w) ∧
      (handleAlone cfg setup now pidUid readable msg ret w).obj.sub =
        { w.obj.sub with releaseThreads := w.obj.sub.releaseThreads ++ threads } ∧
      (threads = [] ∨ threads = [⟨i, none⟩]) := by
  obtain ⟨hsender, ⟨what, who, why, mode, hargs, hwhy⟩, hfile⟩ := h
  obtain ⟨m, file, hm, hfile⟩ := hfile hmon
  set i : Inhibit := { type := systemdType2us what, appname := who, reason := why,
                       id := mkId cfg (Descriptors.openFd (Alone.this.get w).sub.fds file).1
                       created := now }
  set w₁ : Alone SystemdFields := Alone.this.modifySub (fun f => { f with
    fds := (Descriptors.openFd (Alone.this.get w).sub.fds file).2 }) w
  obtain ⟨w₂, hrun, hactive, hsub, hlog⟩ := (noEvents cfg setup).registerInhibit_alone i w₁
  have hback : { w₂.obj.sub with
      fds := w₂.obj.sub.fds.erase (Descriptors.lowestFree w.obj.sub.fds) } = w.obj.sub := by
    rw [hsub]
    have hclose := Descriptors.close_openFd w.obj.sub.fds file
    exact congrArg (fun t => ({ w.obj.sub with fds := t } : SystemdFields)) hclose
  have hhandle : handleAlone cfg setup now pidUid readable msg ret w =
      if readable then
        { w₂ with obj.sub := { w.obj.sub with
            releaseThreads := w.obj.sub.releaseThreads ++ [⟨i, none⟩] } }
      else { w₂ with obj.sub := w.obj.sub } := by
    unfold handleAlone handleInhibitMsg Message.getArgs
    rw [if_neg hsender, hargs]
    dsimp only
    rw [if_neg hwhy, hm, hmon]
    dsimp only
    rw [hfile]
    dsimp only
    rw [show Alone.this.registerInhibit _ _ _ _ = _ from hrun]
    dsimp only
    cases readable
    · exact congrArg (fun f => ({ w₂ with obj.sub := f } : Alone SystemdFields)) hback
    · exact congrArg (fun f : SystemdFields => ({ w₂ with obj.sub := { f with
        releaseThreads := f.releaseThreads ++ [⟨i, none⟩] } } : Alone SystemdFields)) hback
  rw [hhandle]
  cases readable
  · exact ⟨i, [], rfl, ⟨hactive, hlog⟩, by simp, .inl rfl⟩
  · exact ⟨i, [⟨i, none⟩], rfl, ⟨hactive, hlog⟩, rfl, .inr rfl⟩

/-- An implementation has no reply to look at. -/
lemma ret_eq_none (hmon : cfg.monitor = false) (hret : ret.isSome = cfg.monitor) : ret = none := by
  rw [hmon] at hret
  exact Option.not_isSome_iff_eq_none.mp (by rw [hret]; decide)

/-- In implementation mode the id is the number of the write end, which is closed again while the
read end stays open. -/
lemma handleAlone_lock (hmon : cfg.monitor = false) (h : Requests cfg msg ret)
    (hret : ret.isSome = cfg.monitor) (hsetup : FifoSetup.Succeeds setup) :
    ∃ i file, i.id = mkId cfg (Descriptors.secondFree w.obj.sub.fds) ∧
      Registered i w (handleAlone cfg setup now pidUid readable msg ret w) ∧
      (handleAlone cfg setup now pidUid readable msg ret w).obj.sub.fds =
        (Descriptors.openFd w.obj.sub.fds file).2 ∧
      (handleAlone cfg setup now pidUid readable msg ret w).obj.sub.releaseThreads =
        w.obj.sub.releaseThreads ++ [⟨i, some file⟩] ∧
      (handleAlone cfg setup now pidUid readable msg ret w).obj.sub.releaseQueue =
        w.obj.sub.releaseQueue := by
  obtain ⟨hsender, ⟨what, who, why, mode, hargs, hwhy⟩, -⟩ := h
  have hnone := ret_eq_none hmon hret
  obtain ⟨file, s, hlock, hfds, hrest⟩ := newLockRef_ok hsetup w.obj.sub
  set wfd := Descriptors.lowestFree (Descriptors.openFd w.obj.sub.fds file).2
  set i : Inhibit := { type := systemdType2us what, appname := who, reason := why,
                       id := mkId cfg wfd }
  set w₁ : Alone SystemdFields := Alone.this.modifySub (fun _ => { s with
    pidUids := toldPidUids pidUid (mkId cfg wfd) s
    sent := s.sent ++ [.methodReturn msg [.unixFd file]]
    fds := s.fds.erase wfd }) w
  obtain ⟨w₂, hrun, hactive, hsub, hlog⟩ := (noEvents cfg setup).registerInhibit_alone i w₁
  have hhandle : handleAlone cfg setup now pidUid readable msg ret w =
      { w₂ with obj.sub := { w₂.obj.sub with
          releaseThreads := w₂.obj.sub.releaseThreads ++ [⟨i, some file⟩] } } := by
    unfold handleAlone handleInhibitMsg Message.getArgs
    rw [if_neg hsender, hargs]
    dsimp only
    rw [if_neg hwhy, hnone]
    dsimp only
    rw [show newLockRef setup (Alone.this.get w).sub = _ from hlock]
    dsimp only
    split
    · rename_i heq
      exact absurd (congrArg Prod.fst (heq.symm.trans hrun)) (by simp)
    · rename_i w' heq
      have hw' : w' = w₂ := congrArg Prod.snd (heq.symm.trans hrun)
      rw [hw']
      rfl
  -- the write end is opened behind the read end
  have hid : i.id = mkId cfg (Descriptors.secondFree w.obj.sub.fds) := by
    rw [← Descriptors.lowestFree_openFd w.obj.sub.fds file]
  rw [hhandle]
  refine ⟨i, file, hid, ⟨hactive, hlog⟩, ?_, ?_, ?_⟩
  · show w₂.obj.sub.fds = _
    rw [hsub]
    show s.fds.erase wfd = _
    -- the write end is closed again, and the read end stays
    rw [hfds, Descriptors.close_openFd]
  · show w₂.obj.sub.releaseThreads ++ _ = _
    rw [hsub]
    exact congrArg (· ++ _) hrest.threads
  · show w₂.obj.sub.releaseQueue = _
    rw [hsub]
    exact hrest.queue

/-- Without a lock reference nothing is registered. -/
lemma handleAlone_error (hmon : cfg.monitor = false) (h : Requests cfg msg ret)
    (hret : ret.isSome = cfg.monitor) {e : Exn} {s : SystemdFields}
    (hlock : newLockRef setup w.obj.sub = (.error e, s)) :
    handleAlone cfg setup now pidUid readable msg ret w = { w with obj.sub := s } := by
  obtain ⟨hsender, ⟨what, who, why, mode, hargs, hwhy⟩, -⟩ := h
  have hnone := ret_eq_none hmon hret
  unfold handleAlone handleInhibitMsg Message.getArgs
  rw [if_neg hsender, hargs]
  dsimp only
  rw [if_neg hwhy, hnone]
  dsimp only
  rw [show newLockRef setup (Alone.this.get w).sub = _ from hlock]
  rfl

lemma handleAlone_fails (hmon : cfg.monitor = false) (h : Requests cfg msg ret)
    (hret : ret.isSome = cfg.monitor) (hsetup : ¬ FifoSetup.Succeeds setup) :
    ∃ s, handleAlone cfg setup now pidUid readable msg ret w = { w with obj.sub := s } ∧
      Descriptors.Grows w.obj.sub.fds s.fds ∧ SameRest w.obj.sub s := by
  obtain ⟨e, s, hlock, hgrows, hrest⟩ := newLockRef_fails hsetup w.obj.sub
  exact ⟨s, handleAlone_error now pidUid readable w hmon h hret hlock, hgrows, hrest⟩

end Message

/-! ### The question about the sender -/

/-- The bus answers, at worst that the sender has gone. -/
def Answered (creds : Except Exn (UInt32 × UInt32)) : Prop :=
  ∀ e, creds = .error e → e = nameHasNoOwner

section Asking

variable (setup : FifoSetup) (msg : Message) (ret : Option Message) (now : ℕ)
  {creds : Except Exn (UInt32 × UInt32)} (readable : Bool) (w : Alone SystemdFields)

/-- If the bus answers, a message is handled as one for which it is not asked. -/
lemma handleAsking_answered (hret : ret.isSome = cfg.monitor)
    (h : cfg.monitor = false → Answered creds) :
    ∃ pidUid, handleAsking cfg setup now creds readable msg ret w =
      handleAlone cfg setup now pidUid readable msg ret w := by
  unfold handleAsking handleInhibitMsgAsking
  dsimp only
  cases creds with
  | ok p => exact ⟨some p, rfl⟩
  | error e =>
    refine ⟨none, ?_⟩
    dsimp only
    by_cases he : e = nameHasNoOwner
    · rw [if_pos he]
      rfl
    · rw [if_neg he]
      cases hmon : cfg.monitor with
      | false => exact absurd (h hmon e rfl) he
      | true =>
        rw [hmon] at hret
        rw [hret]
        rfl

variable (creds) in
/-- In monitor mode the bus is not asked. -/
lemma handleAsking_monitor (hmon : cfg.monitor = true) (hret : ret.isSome = cfg.monitor) :
    ∃ pidUid, handleAsking cfg setup now creds readable msg ret w =
      handleAlone cfg setup now pidUid readable msg ret w := by
  refine handleAsking_answered setup msg ret now readable w hret fun hm => ?_
  rw [hmon] at hm
  cases hm

/-- Another answer is thrown when the FIFO has been set up. -/
lemma handleAsking_thrown (hmon : cfg.monitor = false) (h : ¬ Answered creds) :
    ∃ s, handleAsking cfg setup now creds readable msg ret w = { w with obj.sub := s } ∧
      Descriptors.Grows w.obj.sub.fds s.fds ∧ SameRest w.obj.sub s := by
  have hsame : ∃ s, w = { w with obj.sub := s } ∧
      Descriptors.Grows w.obj.sub.fds s.fds ∧ SameRest w.obj.sub s :=
    ⟨w.obj.sub, rfl, .refl _, rfl, rfl, rfl⟩
  have hlock : ∃ r s, newLockRef setup w.obj.sub = (r, s) ∧
      Descriptors.Grows w.obj.sub.fds s.fds ∧ SameRest w.obj.sub s := by
    by_cases hsetup : FifoSetup.Succeeds setup
    · obtain ⟨file, s, hlock, hfds, hrest⟩ := newLockRef_ok hsetup w.obj.sub
      refine ⟨_, s, hlock, ?_, hrest⟩
      rw [hfds]
      exact (Descriptors.grows_openFd _ _).trans (Descriptors.grows_openFd _ _)
    · obtain ⟨e, s, hlock, hgrows, hrest⟩ := newLockRef_fails hsetup w.obj.sub
      exact ⟨_, s, hlock, hgrows, hrest⟩
  unfold Answered at h
  push Not at h
  obtain ⟨e, rfl, he⟩ := h
  unfold handleAsking handleInhibitMsgAsking
  dsimp only
  rw [if_neg he, hmon, Bool.and_false, if_neg (by decide)]
  by_cases hsender : msg.sender = cfg.forkSender
  · rw [if_pos hsender]
    exact hsame
  rw [if_neg hsender]
  unfold Message.getArgs
  cases fourStrings msg.args with
  | none => exact hsame
  | some args =>
    obtain ⟨what, who, why, mode⟩ := args
    dsimp only
    by_cases hwhy : why = lit "user session inhibited"
    · rw [if_pos hwhy]
      exact hsame
    rw [if_neg hwhy]
    obtain ⟨r, s, hrun, hkept⟩ := hlock
    rw [show newLockRef setup (Alone.this.get w).sub = _ from hrun]
    cases r with
    | error e => exact ⟨s, rfl, hkept⟩
    | ok lockRef => exact ⟨s, rfl, hkept⟩

end Asking

end SystemdInhibitInterface

/-! ## The child -/

namespace SystemdInhibitFork

open NewlineMessageFork (newline)

/-- login1 grants the `k`-th call, or denies it and grants the call without `sleep`. -/
def Granted (login1 : Login1) (k : ℕ) (what : Bytes) : Prop :=
  (∃ file, login1 k = .ok (.fd file)) ∨
    login1 k = .error DBus.accessDenied ∧ 0 < (justIdle what).length ∧
      ∃ file, login1 (k + 1) = .ok (.fd file)

/-- login1 answers with nothing, or denies all calls. -/
def Refused (login1 : Login1) (k : ℕ) (what : Bytes) : Prop :=
  login1 k = .ok .null ∨
    login1 k = .error DBus.accessDenied ∧
      ((justIdle what).length = 0 ∨ login1 (k + 1) = .ok .null ∨
        login1 (k + 1) = .error DBus.accessDenied)

variable {login1 : Login1} {what who why mode : Bytes} {s : State}

lemma call_null (h : login1 s.calls.length = .ok .null) :
    call login1 what who why mode s =
      (.ok (-1), { s with calls := s.calls ++ [⟨what, who, why, mode⟩] }) := by
  unfold call
  rw [h]

lemma call_denied (h : login1 s.calls.length = .error DBus.accessDenied) :
    call login1 what who why mode s = (.error DBus.accessDenied,
      { s with calls := s.calls ++ [⟨what, who, why, mode⟩] }) := by
  unfold call
  rw [h]
  rfl

/-- A line of four fields. -/
def fields (what who why mode : Bytes) : Bytes :=
  what ++ [tab] ++ who ++ [tab] ++ why ++ [tab] ++ mode

variable (hwhat : tab ∉ what) (hwho : tab ∉ who) (hwhy : tab ∉ why) (hmode : tab ∉ mode)
include hwhat hwho hwhy hmode

/-- A request that is granted is answered with the second free number, which it takes. -/
lemma handleMsg_granted (h : Granted login1 s.calls.length what) :
    ∃ file s', handleMsg login1 (fields what who why mode) s = (.ok (), s') ∧
      s'.fds = s.fds.insert (Descriptors.secondFree s.fds) file ∧
      s'.out = s.out ++ (Decimal.toString (Descriptors.secondFree s.fds) ++ [newline]) := by
  unfold fields
  rw [handleMsg_fields hwhat hwho hwhy hmode]
  rcases h with ⟨file, hfile⟩ | ⟨hdenied, hidle, file, hfile⟩
  · rw [call_fd hfile]
    exact ⟨file, _, rfl, rfl, rfl⟩
  · rw [call_denied hdenied]
    dsimp only
    rw [if_pos rfl, if_pos hidle, call_fd (by rw [List.length_append]; exact hfile)]
    exact ⟨file, _, rfl, rfl, rfl⟩

/-- A request that is refused is answered with -1. -/
lemma handleMsg_refused (h : Refused login1 s.calls.length what) :
    ∃ s', handleMsg login1 (fields what who why mode) s = (.ok (), s') ∧ s'.fds = s.fds ∧
      s'.out = s.out ++ (Decimal.toString (-1) ++ [newline]) := by
  unfold fields
  rw [handleMsg_fields hwhat hwho hwhy hmode]
  rcases h with hnull | ⟨hdenied, hretry⟩
  · rw [call_null hnull]
    exact ⟨_, rfl, rfl, rfl⟩
  · rw [call_denied hdenied]
    dsimp only
    rw [if_pos rfl]
    by_cases hidle : (justIdle what).length > 0
    · rw [if_pos hidle]
      rcases hretry with hzero | hnull | hagain
      · omega
      · rw [call_null (by rw [List.length_append]; exact hnull)]
        exact ⟨_, rfl, rfl, rfl⟩
      · rw [call_denied (by rw [List.length_append]; exact hagain)]
        exact ⟨_, rfl, rfl, rfl⟩
    · rw [if_neg hidle]
      exact ⟨_, rfl, rfl, rfl⟩

omit hwhat hwho hwhy hmode

/-- A number alone closes the descriptor. -/
lemma handleMsg_release {n : ℤ} (hlow : -2 ^ 31 ≤ n) (hhigh : n < 2 ^ 31) :
    handleMsg login1 (Decimal.toString n) s = (.ok (), close n s) := by
  have hlen : (Decimal.toString n).length ≠ 0 := fun hzero =>
    Decimal.toString_ne_nil n (List.length_eq_zero_iff.mp hzero)
  have hcount : (Decimal.toString n).count tab = 0 :=
    List.count_eq_zero.mpr (Decimal.notMem_toString (by decide) (by decide))
  have hatol : Decimal.atol (Decimal.toString n) = n := by
    have hread := Decimal.atol_toString (n := n) (by omega) (by omega) Decimal.ends_nil
    rw [List.append_nil] at hread
    exact hread
  unfold handleMsg
  rw [if_neg hlen, hcount, hatol]
  rfl

lemma close_out (n : ℤ) (s : State) : (close n s).out = s.out := rfl

lemma close_calls (n : ℤ) (s : State) : (close n s).calls = s.calls := rfl

lemma close_fds {n : ℤ} (hlow : -2 ^ 31 ≤ n) (hhigh : n < 2 ^ 31) :
    (close n s).fds = if n < 0 then s.fds else s.fds.erase n.toNat := by
  have hbmod : n.bmod (2 ^ 32) = n := Int.bmod_eq_of_le (by omega) (by omega)
  unfold close
  rw [hbmod]

end SystemdInhibitFork

namespace SystemdInhibitInterface

open SystemdInhibitFork (tab Granted Refused)
open NewlineMessageFork (newline Idle)

variable {cfg : SystemdConfig} {setup : FifoSetup} {now : ℕ} {r : InhibitRequest}
  {s : SystemdFields}

/-! ## A forwarded inhibit -/

/-- A request of a type that login1 knows. -/
def Supported (r : InhibitRequest) : Prop :=
  ¬ (r.type &&& InhibitType.SUSPEND = InhibitType.NONE ∧
    r.type &&& InhibitType.SCREENSAVER = InhibitType.NONE)

lemma doInhibit_unsupported (h : ¬ Supported r) :
    doInhibit cfg setup now r s = (.error .unsupportedType, s) := if_pos (not_not.mp h)

/-- In implementation mode the id is the number of the read end, which stays open. -/
lemma doInhibit_lock (hmon : cfg.monitor = false) (hr : Supported r)
    (hsetup : FifoSetup.Succeeds setup) :
    ∃ file s', doInhibit cfg setup now r s =
        (.ok { r with id := mkId cfg (Descriptors.lowestFree s.fds), created := now }, s') ∧
      s'.fds = (Descriptors.openFd s.fds file).2 ∧ SameRest s s' := by
  obtain ⟨file, s', hlock, hfds, hrest⟩ := newLockRef_ok hsetup s
  unfold doInhibit
  rw [if_neg hr, hmon, hlock]
  refine ⟨file, _, rfl, ?_, hrest.threads, hrest.queue, hrest.fork⟩
  dsimp only
  rw [hfds, Descriptors.close_openFd]

lemma doInhibit_lock_error (hmon : cfg.monitor = false) (hr : Supported r) {e : Exn}
    {s' : SystemdFields} (hlock : newLockRef setup s = (.error e, s')) :
    doInhibit cfg setup now r s = (.error e, s') := by
  unfold doInhibit
  rw [if_neg hr, hmon, hlock]
  rfl

lemma doInhibit_lock_fails (hmon : cfg.monitor = false) (hr : Supported r)
    (hsetup : ¬ FifoSetup.Succeeds setup) :
    ∃ e s', doInhibit cfg setup now r s = (.error e, s') ∧ Descriptors.Grows s.fds s'.fds ∧
      SameRest s s' := by
  obtain ⟨e, s', hlock, hgrows, hrest⟩ := newLockRef_fails hsetup s
  exact ⟨e, s', doInhibit_lock_error hmon hr hlock, hgrows, hrest⟩

/-- What a forwarded request contains are C strings. -/
def CStrings (r : InhibitRequest) : Prop := 0 ∉ r.appname ∧ 0 ∉ r.reason

/-- The request is one line of the child, and leaves room in `buf`. -/
structure OneRead (r : InhibitRequest) : Prop where
  plain : PlainRequest r
  short : (inhibitMessage r).length < Fork.bufSize

lemma zero_notMem_inhibitLine (h : CStrings r) : 0 ∉ inhibitLine r := by
  have hwhat : 0 ∉ us2systemdType r.type := by
    unfold us2systemdType
    cases r.type.has InhibitType.SCREENSAVER <;> cases r.type.has InhibitType.SUSPEND <;> decide
  have htab : 0 ∉ [tab] := by decide
  have hmode : 0 ∉ lit "block" := by decide
  unfold inhibitLine
  simp only [List.mem_append, not_or]
  exact ⟨⟨⟨⟨⟨⟨hwhat, htab⟩, h.1⟩, htab⟩, h.2⟩, htab⟩, hmode⟩

/-- A line that leaves room in `buf` is read as a whole. -/
lemma forkTx_line {l : Bytes} (hnul : 0 ∉ l) (hshort : (l ++ [newline]).length < Fork.bufSize) :
    forkTx cfg (l ++ [newline]) s =
      let read := NewlineMessageFork.step (SystemdInhibitFork.handleMsg cfg.login1)
      { s with fork := read s.fork (l ++ [newline]) } := by
  have hzero : 0 ∉ l ++ [newline] := by
    rw [List.mem_append, not_or]
    exact ⟨hnul, by decide⟩
  unfold forkTx
  dsimp only
  rw [Fork.rxAll_short (by simp) hzero hshort, Transition.run_cons, Transition.run_nil]

/-- A number is a short line. -/
lemma length_number_lt {n : ℤ} (hlow : -2 ^ 31 ≤ n) (hhigh : n < 2 ^ 31) :
    (Decimal.toString n ++ [newline]).length < Fork.bufSize := by
  have hlen : (Decimal.toString n).length ≤ 11 :=
    Decimal.length_toString_le (by omega) (by omega)
  show _ < 1024
  rw [List.length_append, List.length_singleton]
  omega

/-- The answer of the child is read as a whole. -/
lemma forkRx_answer {n : ℤ} (hlow : -2 ^ 31 ≤ n) (hhigh : n < 2 ^ 31)
    (h : s.fork.state.out = Decimal.toString n ++ [newline]) :
    forkRx s = (.ok (Decimal.toString n ++ [newline]), { s with fork.state.out := [] }) := by
  have hshort := length_number_lt hlow hhigh
  have hnul : (0 : UInt8) ∉ Decimal.toString n ++ [newline] := by
    rw [List.mem_append, not_or]
    exact ⟨Decimal.notMem_toString (by decide) (by decide), by decide⟩
  have hne : ¬ (Decimal.toString n ++ [newline] = [] ∧ s.fork.exn = none) := by simp
  unfold forkRx
  dsimp only
  rw [h, if_neg hne, List.take_of_length_le (Nat.le_of_lt hshort),
    List.drop_of_length_le (Nat.le_of_lt hshort), Fork.rx_short hnul hshort]

/-- In monitor mode the id is the number that the child answers. -/
lemma doInhibit_answered (hmon : cfg.monitor = true) (hr : Supported r) (hidle : Idle s.fork)
    (hout : s.fork.state.out = []) (hread : OneRead r) (hstrings : CStrings r) {n : ℤ}
    (hlow : -2 ^ 31 ≤ n) (hhigh : n < 2 ^ 31) {c : SystemdInhibitFork.State}
    (hmsg : SystemdInhibitFork.handleMsg cfg.login1 (inhibitLine r) s.fork.state = (.ok (), c))
    (hc : c.out = s.fork.state.out ++ (Decimal.toString n ++ [newline])) :
    doInhibit cfg setup now r s = (.ok { r with id := mkId cfg n, created := now },
      { s with fork := { state := { c with out := [] } } }) := by
  have htx : forkTx cfg (inhibitMessage r) s = { s with fork := { state := c } } := by
    have hline : inhibitMessage r = inhibitLine r ++ [newline] := rfl
    have hshort := hread.short
    rw [hline] at hshort ⊢
    rw [forkTx_line (zero_notMem_inhibitLine hstrings) hshort]
    dsimp only
    rw [hidle.step_line (newline_notMem_inhibitLine hread.plain) hmsg]
  rw [hout, List.nil_append] at hc
  have hrx := forkRx_answer (s := { s with fork := { state := c } }) hlow hhigh hc
  have hatol : Decimal.atol (Decimal.toString n ++ [newline]) = n :=
    Decimal.atol_toString (by omega) (by omega) (Decimal.ends_cons (by decide) [])
  have hbmod : n.bmod (2 ^ 32) = n := Int.bmod_eq_of_le (by omega) (by omega)
  unfold doInhibit
  rw [if_neg hr, hmon, htx, if_pos rfl, hrx]
  dsimp only
  rw [hatol, hbmod]

/-- A granted inhibit gets the second number that is free in the child, which takes it. -/
lemma doInhibit_granted (hmon : cfg.monitor = true) (hr : Supported r) (hidle : Idle s.fork)
    (hout : s.fork.state.out = []) (hread : OneRead r) (hstrings : CStrings r)
    (hroom : Descriptors.secondFree s.fork.state.fds < 2 ^ 31)
    (h : Granted cfg.login1 s.fork.state.calls.length (us2systemdType r.type)) :
    ∃ file child, doInhibit cfg setup now r s =
        (.ok { r with id := mkId cfg (Descriptors.secondFree s.fork.state.fds), created := now },
          { s with fork := { state := child } }) ∧
      child.fds = s.fork.state.fds.insert (Descriptors.secondFree s.fork.state.fds) file ∧
      child.out = [] := by
  have hmode : tab ∉ lit "block" := by decide
  obtain ⟨file, child, hmsg, hfds, hc⟩ := SystemdInhibitFork.handleMsg_granted
    (us2systemdType_plain r.type).1 hread.plain.1.1 hread.plain.2.1 hmode h
  exact ⟨file, _,
    doInhibit_answered hmon hr hidle hout hread hstrings (by omega) (by omega) hmsg hc, hfds, rfl⟩

/-- A refused inhibit gets the number -1. -/
lemma doInhibit_refused (hmon : cfg.monitor = true) (hr : Supported r) (hidle : Idle s.fork)
    (hout : s.fork.state.out = []) (hread : OneRead r) (hstrings : CStrings r)
    (h : Refused cfg.login1 s.fork.state.calls.length (us2systemdType r.type)) :
    ∃ child, doInhibit cfg setup now r s = (.ok { r with id := mkId cfg (-1), created := now },
          { s with fork := { state := child } }) ∧
      child.fds = s.fork.state.fds ∧ child.out = [] := by
  have hmode : tab ∉ lit "block" := by decide
  obtain ⟨child, hmsg, hfds, hc⟩ := SystemdInhibitFork.handleMsg_refused
    (us2systemdType_plain r.type).1 hread.plain.1.1 hread.plain.2.1 hmode h
  exact ⟨_, doInhibit_answered hmon hr hidle hout hread hstrings (by omega) (by omega) hmsg hc,
    hfds, rfl⟩

/-! ## Releases -/

lemma fdOf_bounds (id : InhibitID) : -2 ^ 31 ≤ fdOf id ∧ fdOf id < 2 ^ 31 := by
  have hlow := Int.le_bmod (x := (CStruct.leValue ((id.drop 8).take 4) : ℤ)) (m := 2 ^ 32)
    (by decide)
  have hhigh := Int.bmod_lt (x := (CStruct.leValue ((id.drop 8).take 4) : ℤ)) (m := 2 ^ 32)
    (by decide)
  unfold fdOf
  omega

/-- In monitor mode the child closes the number of the id. -/
lemma doUnInhibit_fdOf (hmon : cfg.monitor = true) (hidle : Idle s.fork) (b : Base)
    (id : InhibitID) :
    doUnInhibit cfg b id s =
      (.ok (), { s with
        fork := { state := SystemdInhibitFork.close (fdOf id) s.fork.state } }) := by
  have hline : newline ∉ Decimal.toString (fdOf id) :=
    Decimal.notMem_toString (by decide) (by decide)
  obtain ⟨hlow, hhigh⟩ := fdOf_bounds id
  unfold doUnInhibit
  dsimp only
  rw [hmon, if_pos rfl, forkTx_line (Decimal.notMem_toString (by decide) (by decide))
    (length_number_lt hlow hhigh)]
  dsimp only
  rw [hidle.step_line hline (SystemdInhibitFork.handleMsg_release hlow hhigh)]

lemma doUnInhibit_ok (b : Base) (id : InhibitID) (s : SystemdFields) :
    ((overrides cfg setup).doUnInhibit b id s).1 = .ok () := by
  show (doUnInhibit cfg b id s).1 = .ok ()
  unfold doUnInhibit
  dsimp only
  split
  · rfl
  · split <;> rfl

/-- In implementation mode a release keeps all descriptors. -/
lemma doUnInhibit_lock (hmon : cfg.monitor = false) (b : Base) (id : InhibitID) :
    ∃ s', doUnInhibit cfg b id s = (.ok (), s') ∧ s'.fds = s.fds ∧ SameRest s s' := by
  unfold doUnInhibit
  dsimp only
  rw [hmon, if_neg (by decide)]
  split
  · refine ⟨_, rfl, ?_⟩
    split <;> exact ⟨rfl, rfl, rfl, rfl⟩
  · exact ⟨s, rfl, rfl, rfl, rfl, rfl⟩

variable (cfg setup) in
/-- The drained ids are no longer active. -/
lemma pollQueue_alone (queue : List Inhibit) (w : Alone SystemdFields) :
    ∃ w', pollQueue Alone.this (overrides cfg setup) Alone.callbacks queue w = (.ok (), w') ∧
      (∀ id, id ∈ w'.obj.activeInhibits ↔
        id ∈ w.obj.activeInhibits ∧ id ∉ queue.map (·.id)) ∧
      w'.obj.sub.fds = w.obj.sub.fds ∧ SameRest w.obj.sub w'.obj.sub := by
  induction queue generalizing w with
  | nil => exact ⟨w, rfl, by simp, rfl, rfl, rfl, rfl⟩
  | cons i queue ih =>
    obtain ⟨w₁, hrun₁, hactive₁, hsub₁⟩ := (noEvents cfg setup).registerUnInhibit_alone i.id
      (Alone.this.modifySub (fun s => { s with pidUids := s.pidUids.erase i.id }) w)
    obtain ⟨w₂, hrun₂, hactive₂, hfds₂, hrest₂⟩ := ih w₁
    refine ⟨w₂, ?_, fun id => ?_, ?_, ?_⟩
    · unfold pollQueue
      dsimp only
      rw [hrun₁]
      exact hrun₂
    · rw [hactive₂, hactive₁, List.map_cons, List.mem_cons, not_or, and_assoc]
      rfl
    · rw [hfds₂, hsub₁]
      rfl
    · rw [hsub₁] at hrest₂
      exact ⟨hrest₂.threads, hrest₂.queue, hrest₂.fork⟩

variable (cfg setup) in
lemma poll_alone (w : Alone SystemdFields) :
    ∃ w', (poll Alone.this (overrides cfg setup) Alone.callbacks w).2 = w' ∧
      (∀ id, id ∈ w'.obj.activeInhibits ↔
        id ∈ w.obj.activeInhibits ∧ id ∉ w.obj.sub.releaseQueue.map (·.id)) ∧
      w'.obj.sub.fds = w.obj.sub.fds ∧ w'.obj.sub.fork = w.obj.sub.fork ∧
      w'.obj.sub.releaseThreads = w.obj.sub.releaseThreads ∧ w'.obj.sub.releaseQueue = [] := by
  obtain ⟨w', hrun, hactive, hfds, hrest⟩ :=
    pollQueue_alone cfg setup w.obj.sub.releaseQueue w
  unfold poll
  rw [show pollQueue Alone.this _ _ (Alone.this.get w).sub.releaseQueue w = _ from hrun]
  exact ⟨_, rfl, hactive, hfds, hrest.fork, hrest.threads, rfl⟩

end SystemdInhibitInterface

end UnifiedInhibit
