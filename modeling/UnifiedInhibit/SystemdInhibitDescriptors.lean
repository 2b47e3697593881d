import UnifiedInhibit.SystemdInhibitQueries
import UnifiedInhibit.SystemdInhibitRuns

/-!
# The descriptors of `SystemdInhibitInterface` in implementation mode

Every FIFO is opened at both ends. The write end is closed at once; the read end of a client's
inhibit is what the release thread waits on, and that of a forwarded inhibit is its id. Neither is
closed, so the open numbers grow with each inhibit and never shrink.
-/

namespace UnifiedInhibit

open DBus (Message)

namespace SystemdInhibitInterface.Implementation

inductive Event where
  /-- a client's `Inhibit` message; `creds` is the answer of the bus about the sender -/
  | message (setup : FifoSetup) (now : ℕ) (creds : Except Exn (UInt32 × UInt32)) (msg : Message)
  /-- a forwarded inhibit -/
  | inhibit (setup : FifoSetup) (now : ℕ) (r : InhibitRequest)
  /-- the release of a forwarded inhibit -/
  | unInhibit (id : InhibitID)
  /-- a client lets go and its release thread ends -/
  | release (k : ℕ)
  | poll

variable (cfg : SystemdConfig)

/-- `handleInhibitMsg` on its own -/
def handleAsking (setup : FifoSetup) (now : ℕ) (creds : Except Exn (UInt32 × UInt32))
    (msg : Message) (w : Alone SystemdFields) : Alone SystemdFields :=
  (handleInhibitMsgAsking cfg Alone.this Alone.callbacks setup now creds false msg none w).2

/-- The ids that have been registered between two states. -/
def registered (w w' : Alone SystemdFields) : List InhibitID :=
  (w'.cbLog.drop w.cbLog.length).filterMap fun c =>
    match c with
    | .inhibitCB i => some i.id
    | .unInhibitCB _ => none

def step (s : Run) : Event → Run
  | .message setup now creds msg =>
    let world := handleAsking cfg setup now creds msg s.world
    { s with world, clients := s.clients ++ registered s.world world }
  | .inhibit setup now r => SystemdInhibitInterface.step cfg s (.inhibit setup now r)
  | .unInhibit id => SystemdInhibitInterface.step cfg s (.unInhibit id)
  | .release k => SystemdInhibitInterface.step cfg s (.release k)
  | .poll => SystemdInhibitInterface.step cfg s .poll

/-- The process starts with the descriptors `fds`. -/
def start (fds : Descriptors Bytes) : Run := { world := { obj := { sub := { fds } } } }

def opened (s : Run) : Set ℕ := Descriptors.numbers s.world.obj.sub.fds

/-- Every inhibit has been released and no release is pending. -/
structure Settled (s : Run) : Prop where
  clients : s.clients = []
  forwarded : s.forwarded = []
  threads : s.world.obj.sub.releaseThreads = []
  queue : s.world.obj.sub.releaseQueue = []

/-- Neither end of the FIFO is opened. -/
def FifoSetup.OpensNothing (setup : FifoSetup) : Prop :=
  setup.openRead = false ∧ setup.openWrite = false

/-- The step asks for no inhibit, or fails before it has opened an end. -/
def OpensNothing : Event → Prop
  | .message setup _ _ msg => Requests cfg msg none → FifoSetup.OpensNothing setup
  | .inhibit setup _ r => Supported r → FifoSetup.OpensNothing setup
  | _ => True

/-! ## One step -/

/-- Where nothing is opened the table is kept, and everywhere else it gets a new number. -/
def Counts (quiet : Prop) (t t' : Descriptors Bytes) : Prop :=
  (quiet → t' = t) ∧ (¬ quiet → Descriptors.numbers t ⊂ Descriptors.numbers t')

variable {cfg}

section LockRef

variable {setup : FifoSetup} (s : SystemdFields)

lemma newLockRef_quiet (h : FifoSetup.OpensNothing setup) : (newLockRef setup s).2.fds = s.fds := by
  unfold newLockRef
  dsimp only
  rw [h.1, h.2]
  split <;> rfl

/-- What a set-up has opened is open when it returns or throws. -/
lemma newLockRef_opens (h : ¬ FifoSetup.OpensNothing setup) :
    Descriptors.numbers s.fds ⊂ Descriptors.numbers (newLockRef setup s).2.fds := by
  unfold FifoSetup.OpensNothing at h
  unfold newLockRef
  dsimp only
  -- both ends are tried in any case, and none is closed before the throw
  rw [apply_ite (fun o : Outcome SystemdFields LockRef => o.2.fds), ite_self]
  cases hread : setup.openRead <;> cases hwrite : setup.openWrite
  · exact absurd ⟨hread, hwrite⟩ h
  · exact Descriptors.numbers_openFd _ _
  · exact Descriptors.numbers_openFd _ _
  · exact (Descriptors.numbers_openFd _ _).trans (Descriptors.numbers_openFd _ _)

lemma not_succeeds (h : FifoSetup.OpensNothing setup) : ¬ FifoSetup.Succeeds setup := by
  unfold FifoSetup.Succeeds
  rw [h.2, Bool.and_false]
  decide

lemma not_opensNothing (h : FifoSetup.Succeeds setup) : ¬ FifoSetup.OpensNothing setup :=
  fun hnothing => not_succeeds hnothing h

/-- Which error a set-up throws does not matter here. -/
lemma newLockRef_error (h : ¬ FifoSetup.Succeeds setup) :
    ∃ e, newLockRef setup s = (.error e, (newLockRef setup s).2) := by
  obtain ⟨e, s', hlock, -⟩ := newLockRef_fails h s
  exact ⟨e, by rw [hlock]⟩

lemma newLockRef_counts :
    Counts (FifoSetup.OpensNothing setup) s.fds (newLockRef setup s).2.fds :=
  ⟨newLockRef_quiet s, newLockRef_opens s⟩

end LockRef

/-- A condition that does not apply is met. -/
lemma Counts.imp {P quiet : Prop} {t t' : Descriptors Bytes} (h : Counts quiet t t') (hP : P) :
    Counts (P → quiet) t t' :=
  ⟨fun hq => h.1 (hq hP), fun hq => h.2 fun hquiet => hq fun _ => hquiet⟩

lemma Counts.vacuous {P quiet : Prop} {t : Descriptors Bytes} (hP : ¬ P) :
    Counts (P → quiet) t t :=
  ⟨fun _ => rfl, fun hq => absurd (fun h => absurd h hP) hq⟩

lemma Counts.same {t t' : Descriptors Bytes} (h : t' = t) : Counts True t t' :=
  ⟨fun _ => h, fun hnot => absurd trivial hnot⟩

variable (hmon : cfg.monitor = false)
include hmon

lemma handleAlone_counts (setup : FifoSetup) (now : ℕ) (pidUid : Option (UInt32 × UInt32))
    (msg : Message) (w : Alone SystemdFields) :
    Counts (Requests cfg msg none → FifoSetup.OpensNothing setup) w.obj.sub.fds
      (handleAlone cfg setup now pidUid false msg none w).obj.sub.fds := by
  have hret : (none : Option Message).isSome = cfg.monitor := hmon.symm
  by_cases hreq : Requests cfg msg none
  · refine Counts.imp ?_ hreq
    by_cases hsetup : FifoSetup.Succeeds setup
    · obtain ⟨i, file, -, -, hfds, -⟩ :=
        handleAlone_lock now pidUid false w hmon hreq hret hsetup
      rw [hfds]
      exact ⟨fun hq => absurd hq (not_opensNothing hsetup),
        fun _ => Descriptors.numbers_openFd _ _⟩
    · obtain ⟨e, hlock⟩ := newLockRef_error w.obj.sub hsetup
      rw [handleAlone_error now pidUid false w hmon hreq hret hlock]
      exact newLockRef_counts w.obj.sub
  · rw [handleAlone_other now pidUid false w hret hreq]
    exact Counts.vacuous hreq

/-- A request for an inhibit carries a reason other than the daemon's own. -/
lemma requests_of_args {msg : Message} (hsender : msg.sender ≠ cfg.forkSender)
    {what who why mode : Bytes}
    (hargs : fourStrings msg.args = some (what, who, why, mode)) :
    Requests cfg msg none ↔ why ≠ lit "user session inhibited" := by
  constructor
  · rintro ⟨-, ⟨_, _, _, _, hsome, hne⟩, -⟩
    rw [hargs] at hsome
    cases hsome
    exact hne
  · intro hwhy
    refine ⟨hsender, ⟨what, who, why, mode, hargs, hwhy⟩, fun hm => ?_⟩
    rw [hmon] at hm
    cases hm

/-- An answer of the bus that is not caught comes after the FIFO has been set up. -/
lemma handleAsking_uncaught (setup : FifoSetup) (now : ℕ) {e : Exn} (he : e ≠ nameHasNoOwner)
    (msg : Message) (w : Alone SystemdFields) :
    Counts (Requests cfg msg none → FifoSetup.OpensNothing setup) w.obj.sub.fds
      (handleAsking cfg setup now (.error e) msg w).obj.sub.fds := by
  unfold handleAsking handleInhibitMsgAsking
  dsimp only
  rw [if_neg he, if_neg (by simp)]
  by_cases hsender : msg.sender = cfg.forkSender
  · rw [if_pos hsender]
    exact Counts.vacuous fun hreq => hreq.1 hsender
  rw [if_neg hsender]
  unfold Message.getArgs
  cases hargs : fourStrings msg.args with
  | none =>
    refine Counts.vacuous fun hreq => ?_
    obtain ⟨-, ⟨_, _, _, _, hsome, -⟩, -⟩ := hreq
    rw [hargs] at hsome
    cases hsome
  | some args =>
    obtain ⟨what, who, why, mode⟩ := args
    have hreq := requests_of_args hmon hsender hargs
    dsimp only
    by_cases hwhy : why = lit "user session inhibited"
    · rw [if_pos hwhy]
      exact Counts.vacuous fun h => hreq.mp h hwhy
    rw [if_neg hwhy]
    refine Counts.imp ?_ (hreq.mpr hwhy)
    have hcounts : Counts (FifoSetup.OpensNothing setup) w.obj.sub.fds
        (newLockRef setup w.obj.sub).2.fds := newLockRef_counts w.obj.sub
    rw [show (Alone.this.get w).sub = w.obj.sub from rfl]
    split
    · rename_i heq
      rw [heq] at hcounts
      exact hcounts
    · rename_i heq
      rw [heq] at hcounts
      exact hcounts

lemma handleAsking_counts (setup : FifoSetup) (now : ℕ)
    (creds : Except Exn (UInt32 × UInt32)) (msg : Message) (w : Alone SystemdFields) :
    Counts (Requests cfg msg none → FifoSetup.OpensNothing setup) w.obj.sub.fds
      (handleAsking cfg setup now creds msg w).obj.sub.fds := by
  cases creds with
  | ok pidUid => exact handleAlone_counts hmon setup now (some pidUid) msg w
  | error e =>
    by_cases he : e = nameHasNoOwner
    · unfold handleAsking handleInhibitMsgAsking
      dsimp only
      rw [if_pos he]
      exact handleAlone_counts hmon setup now none msg w
    · exact handleAsking_uncaught hmon setup now he msg w

lemma inhibit_counts (setup : FifoSetup) (now : ℕ) (r : InhibitRequest)
    (o : InhibitInterface SystemdFields) :
    Counts (Supported r → FifoSetup.OpensNothing setup) o.sub.fds
      (InhibitInterface.inhibit (overrides cfg setup) now r o).2.sub.fds := by
  by_cases hr : Supported r
  · refine Counts.imp ?_ hr
    by_cases hsetup : FifoSetup.Succeeds setup
    · obtain ⟨file, s', hdo, hfds, -⟩ :=
        @doInhibit_lock cfg setup now r o.sub hmon hr hsetup
      rw [(noEvents cfg setup).inhibit_sub (overrides_doInhibit hdo), hfds]
      exact ⟨fun hq => absurd hq (not_opensNothing hsetup),
        fun _ => Descriptors.numbers_openFd _ _⟩
    · obtain ⟨e, hlock⟩ := newLockRef_error o.sub hsetup
      have hdo : doInhibit cfg setup now r o.sub = _ := doInhibit_lock_error hmon hr hlock
      rw [InhibitInterface.inhibit_error _ (overrides_doInhibit hdo)]
      exact newLockRef_counts o.sub
  · have hdo : doInhibit cfg setup now r o.sub = _ := doInhibit_unsupported hr
    rw [InhibitInterface.inhibit_error _ (overrides_doInhibit hdo)]
    exact Counts.vacuous hr

/-- A release removes the FIFO's path and closes nothing. -/
lemma unInhibit_fds (id : InhibitID) (o : InhibitInterface SystemdFields) :
    (InhibitInterface.unInhibit (overrides cfg {}) id o).2.sub.fds = o.sub.fds := by
  cases hactive : o.activeInhibits[id]? with
  | none =>
    unfold InhibitInterface.unInhibit
    rw [hactive]
  | some i =>
    obtain ⟨s', hdo, hfds, -⟩ := doUnInhibit_lock (s := o.sub) hmon o.toBase id
    rw [(noEvents cfg {}).unInhibit_sub hactive hdo, hfds]

/-- A step that opens nothing keeps the table, and every other step adds a number. -/
lemma step_counts (s : Run) (e : Event) :
    Counts (OpensNothing cfg e) s.world.obj.sub.fds (step cfg s e).world.obj.sub.fds := by
  cases e with
  | message setup now creds msg => exact handleAsking_counts hmon setup now creds msg s.world
  | inhibit setup now r => exact inhibit_counts hmon setup now r s.world.obj
  | unInhibit id => exact Counts.same (unInhibit_fds hmon id s.world.obj)
  | release k =>
    refine Counts.same ?_
    show (release k s.world.obj.sub).fds = s.world.obj.sub.fds
    unfold release
    split <;> rfl
  | poll =>
    obtain ⟨w', hrun, -, hfds, -⟩ := poll_alone cfg {} s.world
    refine Counts.same ?_
    rw [← hfds, ← hrun]
    rfl

/-! ## Runs -/

lemma step_subset (s : Run) (e : Event) : opened s ⊆ opened (step cfg s e) := by
  obtain ⟨hquiet, hopens⟩ := step_counts hmon s e
  by_cases h : OpensNothing cfg e
  · unfold opened
    rw [hquiet h]
  · exact (hopens h).subset

lemma run_subset (s : Run) (es : List Event) : opened s ⊆ opened (Transition.run (step cfg) s es) :=
  Transition.invariant_all (I := fun s' => opened s ⊆ opened s') subset_rfl
    (fun s' e h => h.trans (step_subset hmon s' e)) es

/-- A run has the descriptors it started with exactly when none of its steps opens one. -/
lemma run_opened_iff (s : Run) (es : List Event) :
    opened (Transition.run (step cfg) s es) = opened s ↔ ∀ e ∈ es, OpensNothing cfg e := by
  induction es generalizing s with
  | nil => simp
  | cons e es ih =>
    obtain ⟨hquiet, hopens⟩ := step_counts hmon s e
    rw [Transition.run_cons, List.forall_mem_cons]
    by_cases h : OpensNothing cfg e
    · have hsame : opened (step cfg s e) = opened s := by
        unfold opened
        rw [hquiet h]
      rw [← hsame, ih]
      exact ⟨fun hrest => ⟨h, hrest⟩, And.right⟩
    · have hgrown : opened s ⊂ opened (Transition.run (step cfg) (step cfg s e) es) :=
        (hopens h).trans_subset (run_subset hmon _ es)
      exact ⟨fun heq => absurd heq.symm hgrown.ne, fun hall => absurd hall.1 h⟩

omit hmon

/-- A run has, whenever all inhibits are released, the descriptors it started with, exactly when no
step before opened one. -/
theorem descriptors_kept_iff {cfg : SystemdConfig} (hmon : cfg.monitor = false)
    (fds : Descriptors Bytes) (es : List Event) :
    (∀ fs, fs <+: es → Settled (Transition.run (step cfg) (start fds) fs) →
      opened (Transition.run (step cfg) (start fds) fs) = Descriptors.numbers fds) ↔
    ∀ fs, fs <+: es → Settled (Transition.run (step cfg) (start fds) fs) →
      ∀ e ∈ fs, OpensNothing cfg e := by
  constructor
  · intro h fs hfs hsettled
    exact (run_opened_iff hmon (start fds) fs).mp (h fs hfs hsettled)
  · intro h fs hfs hsettled
    exact (run_opened_iff hmon (start fds) fs).mpr (h fs hfs hsettled)

/-- The read end of a client's inhibit is still open when the inhibit has been released. -/
theorem descriptors_kept_fails :
    let cfg : SystemdConfig :=
      { instanceId := 0, monitor := false, forkSender := lit ":1.0",
        login1 := fun _ => .ok (.fd []) }
    let msg : Message :=
      { type := .methodCall, sender := lit ":1.5",
        args := [.string (lit "idle"), .string (lit "a"), .string (lit "b"),
          .string (lit "block")] }
    let es : List Event := [.message {} 0 (.ok (1, 2)) msg, .release 0, .poll]
    Settled (Transition.run (step cfg) (start ∅) es) ∧
      0 ∈ opened (Transition.run (step cfg) (start ∅) es) ∧
      opened (Transition.run (step cfg) (start ∅) es) ≠
        Descriptors.numbers (∅ : Descriptors Bytes) := by
  intro cfg msg es
  have hopen : 0 ∈ opened (Transition.run (step cfg) (start ∅) es) := by
    show (_ : Bool) = true
    decide +kernel
  refine ⟨⟨?_, ?_, ?_, ?_⟩, hopen, fun heq => ?_⟩
  · exact List.isEmpty_iff.mp (by decide +kernel)
  · exact List.isEmpty_iff.mp (by decide +kernel)
  · exact List.isEmpty_iff.mp (by decide +kernel)
  · exact List.isEmpty_iff.mp (by decide +kernel)
  · rw [heq] at hopen
    have hnone : ((∅ : Descriptors Bytes)[0]?).isSome := hopen
    exact absurd hnone (by decide)

/-- A client whose FIFO cannot be opened, and a forwarded inhibit of a type that login1 lacks. -/
theorem descriptors_kept_refused :
    let cfg : SystemdConfig :=
      { instanceId := 0, monitor := false, forkSender := lit ":1.0",
        login1 := fun _ => .ok (.fd []) }
    let msg : Message :=
      { type := .methodCall, sender := lit ":1.5",
        args := [.string (lit "idle"), .string (lit "a"), .string (lit "b"),
          .string (lit "block")] }
    let fds : Descriptors Bytes := ∅
    let es : List Event :=
      [.message { openRead := false, openWrite := false } 0 (.ok (1, 2)) msg,
        .inhibit {} 0 { type := InhibitType.NONE }, .poll]
    ∀ fs, fs <+: es → Settled (Transition.run (step cfg) (start fds) fs) →
      opened (Transition.run (step cfg) (start fds) fs) = Descriptors.numbers fds := by
  intro cfg msg fds es
  have hquiet : ∀ e ∈ es, OpensNothing cfg e := by
    intro e he
    simp only [es, List.mem_cons, List.not_mem_nil, or_false] at he
    rcases he with rfl | rfl | rfl
    · exact fun _ => ⟨rfl, rfl⟩
    · exact fun hr => absurd ⟨by decide, by decide⟩ hr
    · trivial
  exact (descriptors_kept_iff rfl fds es).mpr fun fs hfs _ e he => hquiet e (hfs.subset he)

end SystemdInhibitInterface.Implementation

end UnifiedInhibit
