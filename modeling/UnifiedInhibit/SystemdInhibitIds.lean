import UnifiedInhibit.SystemdInhibitRuns

/-!
# The ids of login1 inhibits

An id is a descriptor number. It stays the id of one inhibit only as long as no process takes the
same number for another: numbers that are closed while their inhibit is active come again, and the
numbers of the daemon and of the child are independent. The ids of a run are distinct when each
step that gives one avoids these cases.
-/

namespace UnifiedInhibit

open DBus (Message)

namespace SystemdInhibitInterface

open Descriptors (lowestFree secondFree openFd)
open SystemdInhibitFork (Granted Refused)
open NewlineMessageFork (Idle)

/-! ## Held inhibits -/

/-- The active ids are those of the held inhibits, which are distinct, and the releases to come are
of different clients' inhibits. -/
structure Tracked (active : StdMap InhibitID Inhibit) (pending clients forwarded : List InhibitID) :
    Prop where
  active : ∀ id, id ∈ active ↔ id ∈ clients ++ forwarded
  nodup : (clients ++ forwarded).Nodup
  pendingNodup : pending.Nodup
  pendingSubset : pending ⊆ clients

namespace Tracked

variable {active active' : StdMap InhibitID Inhibit}
  {pending pending' clients forwarded : List InhibitID}

lemma perm (h : Tracked active pending clients forwarded) (hp : pending'.Perm pending) :
    Tracked active pending' clients forwarded :=
  ⟨h.active, h.nodup, hp.nodup_iff.mpr h.pendingNodup, fun _ hid =>
    h.pendingSubset (hp.subset hid)⟩

/-- A client takes an inhibit. -/
lemma client (h : Tracked active pending clients forwarded) {i : Inhibit} (hfresh : i.id ∉ active)
    (hp : pending' = pending ∨ pending'.Perm (i.id :: pending)) :
    Tracked (active.insertIfNew i.id i) pending' (clients ++ [i.id]) forwarded := by
  rw [h.active] at hfresh
  have hperm : (clients ++ [i.id] ++ forwarded).Perm (i.id :: (clients ++ forwarded)) := by
    rw [List.append_assoc]
    exact List.perm_middle
  have hnew : i.id ∉ pending := fun hmem =>
    hfresh (List.mem_append_left _ (h.pendingSubset hmem))
  refine ⟨fun id => ?_, ?_, ?_, fun id hid => ?_⟩
  · rw [StdMap.mem_insertIfNew, h.active, hperm.mem_iff, List.mem_cons]
  · exact hperm.nodup_iff.mpr (List.nodup_cons.mpr ⟨hfresh, h.nodup⟩)
  · rcases hp with heq | hp
    · rw [heq]
      exact h.pendingNodup
    · exact hp.nodup_iff.mpr (List.nodup_cons.mpr ⟨hnew, h.pendingNodup⟩)
  · rw [List.mem_append, List.mem_singleton]
    rcases hp with heq | hp
    · rw [heq] at hid
      exact .inl (h.pendingSubset hid)
    · rcases List.mem_cons.mp (hp.mem_iff.mp hid) with heq | hid
      · exact .inr heq
      · exact .inl (h.pendingSubset hid)

/-- An inhibit is forwarded. -/
lemma forward (h : Tracked active pending clients forwarded) {i : Inhibit}
    (hfresh : i.id ∉ active) :
    Tracked (active.insertIfNew i.id i) pending clients (forwarded ++ [i.id]) := by
  rw [h.active] at hfresh
  have hperm : (clients ++ (forwarded ++ [i.id])).Perm (i.id :: (clients ++ forwarded)) := by
    rw [← List.append_assoc]
    exact List.perm_append_singleton _ _
  refine ⟨fun id => ?_, ?_, h.pendingNodup, h.pendingSubset⟩
  · rw [StdMap.mem_insertIfNew, h.active, hperm.mem_iff, List.mem_cons]
  · exact hperm.nodup_iff.mpr (List.nodup_cons.mpr ⟨hfresh, h.nodup⟩)

/-- A forwarded inhibit is released. -/
lemma release (h : Tracked active pending clients forwarded) {id : InhibitID}
    (hid : id ∈ forwarded) :
    Tracked (active.erase id) pending clients (forwarded.erase id) := by
  have hperm : (clients ++ forwarded).Perm (id :: (clients ++ forwarded.erase id)) :=
    ((List.perm_cons_erase hid).append_left clients).trans List.perm_middle
  have hnodup := List.nodup_cons.mp (hperm.nodup_iff.mp h.nodup)
  refine ⟨fun j => ?_, hnodup.2, h.pendingNodup, h.pendingSubset⟩
  rw [StdMap.mem_erase, h.active, hperm.mem_iff, List.mem_cons]
  constructor
  · intro hj
    exact hj.1.resolve_left hj.2
  · intro hj
    refine ⟨.inr hj, fun heq => ?_⟩
    rw [heq] at hj
    exact hnodup.1 hj

/-- The releases in the queue are drained. -/
lemma drain {queue : List InhibitID} (h : Tracked active (pending ++ queue) clients forwarded)
    (hactive : ∀ id, id ∈ active' ↔ id ∈ active ∧ id ∉ queue) :
    Tracked active' pending (clients.diff queue) forwarded := by
  have hclients : clients.Nodup := (List.nodup_append.mp h.nodup).1
  have hdisjoint : ∀ id ∈ clients, id ∉ forwarded := by
    intro id hc hf
    exact (List.nodup_append.mp h.nodup).2.2 id hc id hf rfl
  have hqueue : ∀ id ∈ queue, id ∈ clients := fun id hid =>
    h.pendingSubset (List.mem_append_right _ hid)
  obtain ⟨hpending, -, hne⟩ := List.nodup_append.mp h.pendingNodup
  refine ⟨fun id => ?_, ?_, hpending, fun id hid => ?_⟩
  · rw [hactive, h.active, List.mem_append, List.mem_append, hclients.mem_sdiff_iff]
    constructor
    · intro hid
      exact hid.1.imp (fun hc => ⟨hc, hid.2⟩) fun hf => hf
    · intro hid
      rcases hid with ⟨hc, hq⟩ | hf
      · exact ⟨.inl hc, hq⟩
      · exact ⟨.inr hf, fun hq => hdisjoint id (hqueue id hq) hf⟩
  · apply List.Nodup.append hclients.diff (List.nodup_append.mp h.nodup).2.1
    intro id hc hf
    exact hdisjoint id (hclients.mem_sdiff_iff.mp hc).1 hf
  · rw [hclients.mem_sdiff_iff]
    refine ⟨h.pendingSubset (List.mem_append_left _ hid), fun hq => ?_⟩
    exact hne id hid id hq rfl

end Tracked

/-! ## Legal runs and their ids -/

variable (cfg : SystemdConfig)

/-- There is room for two more descriptors below `2 ^ 31`. -/
def Room (t : Descriptors Bytes) : Prop := t.size + 1 < 2 ^ 31

instance (t : Descriptors Bytes) : Decidable (Room t) :=
  inferInstanceAs (Decidable (t.size + 1 < 2 ^ 31))

/-- The descriptors of the message are open. -/
def Carried (s : Run) (m : Message) : Prop :=
  ∀ file, .unixFd file ∈ m.args → ∃ n ∈ s.others, s.world.obj.sub.fds[n]? = some file

/-- What the base class, the daemon and the system guarantee: replies are only passed in monitor
mode, a message keeps its descriptors while it is handled, forwarded strings are C strings, the
daemon releases what it was given and has not released, and numbers fit an `int32_t`. -/
def Legal (s : Run) : Event → Prop
  | .message _ _ _ _ msg ret => ret.isSome = cfg.monitor ∧ Room s.world.obj.sub.fds ∧
      ∀ m ∈ msg :: ret.toList, Carried s m
  | .inhibit _ _ r =>
    CStrings r ∧ Room s.world.obj.sub.fds ∧ Room s.world.obj.sub.fork.state.fds
  | .unInhibit id => id ∈ s.forwarded
  | .closed n => n ∈ s.others
  | _ => True

/-- No new id is the id of an active inhibit. -/
def Fresh (s : Run) (e : Event) : Prop := ∀ id ∈ given cfg s e, id ∉ s.world.obj.activeInhibits

/-- The child has the descriptor of the id. -/
def OpenInChild (s : SystemdFields) (id : InhibitID) : Prop :=
  s.fork.exn = none ∧ (s.fork.state.fds[(fdOf id).toNat]?).isSome

/-- Held inhibits are active, and login1 has not been told to release those that it granted. -/
def Kept (s : Run) : Prop :=
  (∀ id ∈ s.clients ++ s.forwarded, id ∈ s.world.obj.activeInhibits) ∧
    (cfg.monitor = true → ∀ id ∈ s.forwarded, 0 ≤ fdOf id → OpenInChild s.world.obj.sub id)

/-- No number comes again while it is the id of an active inhibit. -/
def Apart (s : Run) : Event → Prop
  | .message setup _ creds _ msg ret => Requests cfg msg ret →
    -- a client's number is closed again, and the child takes its own
    (cfg.monitor = true →
      ∀ id ∈ s.clients ++ s.forwarded, fdOf id ≠ lowestFree s.world.obj.sub.fds) ∧
    -- only the write ends of clients are closed, and a write end comes second
    (cfg.monitor = false → FifoSetup.Succeeds setup → Answered creds →
      ∀ id ∈ s.clients, fdOf id ≠ secondFree s.world.obj.sub.fds)
  | .inhibit setup _ r => Supported r →
    -- the read end comes first
    (cfg.monitor = false → FifoSetup.Succeeds setup →
      ∀ id ∈ s.clients, fdOf id ≠ lowestFree s.world.obj.sub.fds) ∧
    -- the child's number may be the daemon's, and refused inhibits are all -1
    (cfg.monitor = true → OneRead r ∧
      let child := s.world.obj.sub.fork.state
      (Granted cfg.login1 child.calls.length (us2systemdType r.type) ∧
          (∀ id ∈ s.clients, fdOf id ≠ secondFree child.fds) ∨
        Refused cfg.login1 child.calls.length (us2systemdType r.type) ∧
          ∀ id ∈ s.forwarded, fdOf id ≠ -1))
  | _ => True

/-- A forwarded request is one line, which one read takes, and login1 grants or refuses it. -/
def Served (s : Run) : Event → Prop
  | .inhibit _ _ r => Supported r → cfg.monitor = true → OneRead r ∧
      let calls := s.world.obj.sub.fork.state.calls.length
      (Granted cfg.login1 calls (us2systemdType r.type) ∨
        Refused cfg.login1 calls (us2systemdType r.type))
  | _ => True

/-- Nothing is held, and the child waits. -/
structure Initial (s : Run) : Prop where
  clients : s.clients = []
  forwarded : s.forwarded = []
  others : ∀ n ∈ s.others, (s.world.obj.sub.fds[n]?).isSome
  active : s.world.obj.activeInhibits = ∅
  threads : s.world.obj.sub.releaseThreads = []
  queue : s.world.obj.sub.releaseQueue = []
  idle : Idle s.world.obj.sub.fork
  out : s.world.obj.sub.fork.state.out = []

/-! ## The invariant -/

/-- The inhibits that a release thread waits for. -/
def waiting (s : SystemdFields) : List InhibitID := s.releaseThreads.map (·.inhibit.id)

/-- The inhibits whose release has not been drained. -/
def queued (s : SystemdFields) : List InhibitID := s.releaseQueue.map (·.id)

/-- The ids are made from numbers from `low` on. -/
def Numbered (low : ℤ) (ids : List InhibitID) : Prop :=
  ∀ id ∈ ids, ∃ n : ℤ, (low ≤ n ∧ n < 2 ^ 31) ∧ id = mkId cfg n

/-- In monitor mode the numbers of forwarded ids are open in the child, but for -1. -/
structure MonitorNumbers (s : SystemdFields) (forwarded : List InhibitID) : Prop where
  idle : Idle s.fork
  out : s.fork.state.out = []
  isOpen : ∀ id ∈ forwarded, 0 ≤ fdOf id → (s.fork.state.fds[(fdOf id).toNat]?).isSome

/-- In implementation mode the numbers of forwarded ids are open and belong to nobody else. -/
def LockNumbers (s : SystemdFields) (others : Finset ℕ) (forwarded : List InhibitID) : Prop :=
  ∀ id ∈ forwarded, (s.fds[(fdOf id).toNat]?).isSome ∧ 0 ≤ fdOf id ∧ (fdOf id).toNat ∉ others

structure Invariant (s : Run) : Prop where
  tracked : Tracked s.world.obj.activeInhibits
    (waiting s.world.obj.sub ++ queued s.world.obj.sub) s.clients s.forwarded
  clients : Numbered cfg 0 s.clients
  forwarded : Numbered cfg (-1) s.forwarded
  others : ∀ n ∈ s.others, (s.world.obj.sub.fds[n]?).isSome
  monitor : cfg.monitor = true → MonitorNumbers s.world.obj.sub s.forwarded
  lock : cfg.monitor = false → LockNumbers s.world.obj.sub s.others s.forwarded

variable {cfg} {s : Run}

namespace Numbered

variable {low : ℤ} {ids : List InhibitID}

lemma nil : Numbered cfg low [] := fun _ hid => absurd hid List.not_mem_nil

lemma subset {ids' : List InhibitID} (h : Numbered cfg low ids) (hsub : ids' ⊆ ids) :
    Numbered cfg low ids' := fun id hid => h id (hsub hid)

lemma mono {low' : ℤ} (h : Numbered cfg low ids) (hle : low' ≤ low) : Numbered cfg low' ids := by
  intro id hid
  obtain ⟨n, hn, heq⟩ := h id hid
  exact ⟨n, ⟨hle.trans hn.1, hn.2⟩, heq⟩

lemma append {ids' : List InhibitID} (h : Numbered cfg low ids) (h' : Numbered cfg low ids') :
    Numbered cfg low (ids ++ ids') := by
  intro id hid
  exact (List.mem_append.mp hid).elim (h id) (h' id)

lemma singleton {n : ℤ} (hn : low ≤ n ∧ n < 2 ^ 31) : Numbered cfg low [mkId cfg n] := by
  intro id hid
  exact ⟨n, hn, List.mem_singleton.mp hid⟩

/-- The id of a number is made from it. -/
lemma mkId_fdOf (h : Numbered cfg low ids) (hlow : -1 ≤ low) {id : InhibitID} (hid : id ∈ ids) :
    mkId cfg (fdOf id) = id := by
  obtain ⟨n, hn, heq⟩ := h id hid
  rw [heq, fdOf_mkId cfg (by omega) hn.2]

lemma le_fdOf (h : Numbered cfg low ids) (hlow : -1 ≤ low) {id : InhibitID} (hid : id ∈ ids) :
    low ≤ fdOf id := by
  obtain ⟨n, hn, heq⟩ := h id hid
  rw [heq, fdOf_mkId cfg (by omega) hn.2]
  exact hn.1

/-- An id is new if none has its number. -/
lemma notMem_iff (h : Numbered cfg low ids) (hlow : -1 ≤ low) {n : ℤ} (hn : -1 ≤ n ∧ n < 2 ^ 31) :
    mkId cfg n ∉ ids ↔ ∀ id ∈ ids, fdOf id ≠ n := by
  constructor
  · intro hnot id hid heq
    rw [← heq, h.mkId_fdOf hlow hid] at hnot
    exact hnot hid
  · intro hall hid
    exact hall _ hid (fdOf_mkId cfg (by omega) hn.2)

end Numbered

lemma Initial.invariant (h : Initial s) : Invariant cfg s := by
  have hpending : waiting s.world.obj.sub ++ queued s.world.obj.sub = [] := by
    unfold waiting queued
    rw [h.threads, h.queue]
    rfl
  refine ⟨?_, ?_, ?_, h.others, fun _ => ⟨h.idle, h.out, ?_⟩, fun _ => ?_⟩
  · rw [hpending, h.clients, h.forwarded, h.active]
    exact ⟨by simp, by simp, by simp, by simp⟩
  · rw [h.clients]
    exact Numbered.nil
  · rw [h.forwarded]
    exact Numbered.nil
  all_goals rw [h.forwarded]
  all_goals exact fun id hid => absurd hid List.not_mem_nil

/-- The invariant says what is kept. -/
lemma Invariant.kept (h : Invariant cfg s) : Kept cfg s := by
  refine ⟨fun id hid => (h.tracked.active id).mpr hid, fun hmon id hid hpos => ?_⟩
  exact ⟨(h.monitor hmon).idle.exn, (h.monitor hmon).isOpen id hid hpos⟩

/-! ## Numbers -/

lemma Room.lowestFree_lt {t : Descriptors Bytes} (h : Room t) : lowestFree t < 2 ^ 31 := by
  have hle := Descriptors.lowestFree_le_size t
  unfold Room at h
  omega

lemma Room.secondFree_lt {t : Descriptors Bytes} (h : Room t) : secondFree t < 2 ^ 31 := by
  have hle := Descriptors.secondFree_le_size t []
  unfold Room at h
  omega

lemma not_isSome_of_free {t : Descriptors Bytes} {n : ℕ} (h : t[n]? = none) :
    ¬ (t[n]?).isSome := by
  rw [h]
  simp

section Free

variable {n : ℕ} (h : Invariant cfg s) (hn : n < 2 ^ 31)
include h hn

/-- Which ids a number makes that is not the id of a forwarded inhibit. -/
lemma Invariant.notMem_of_forwarded (hnot : mkId cfg n ∉ s.forwarded) :
    mkId cfg n ∉ s.clients ++ s.forwarded ↔ ∀ id ∈ s.clients, fdOf id ≠ n := by
  rw [List.mem_append, not_or, and_iff_left hnot]
  exact h.clients.notMem_iff (by omega) (by omega)

/-- A number that is free in the daemon is no forwarded id of an implementation. -/
lemma Invariant.notMem_lock (hmon : cfg.monitor = false) (hfree : s.world.obj.sub.fds[n]? = none) :
    mkId cfg n ∉ s.clients ++ s.forwarded ↔ ∀ id ∈ s.clients, fdOf id ≠ n := by
  apply h.notMem_of_forwarded hn
  intro hid
  obtain ⟨hopen, -⟩ := h.lock hmon _ hid
  rw [fdOf_mkId cfg (by omega) (by omega), Int.toNat_natCast] at hopen
  exact not_isSome_of_free hfree hopen

/-- A number that is free in the child is no forwarded id of a monitor. -/
lemma Invariant.notMem_granted (hmon : cfg.monitor = true)
    (hfree : s.world.obj.sub.fork.state.fds[n]? = none) :
    mkId cfg n ∉ s.clients ++ s.forwarded ↔ ∀ id ∈ s.clients, fdOf id ≠ n := by
  apply h.notMem_of_forwarded hn
  intro hid
  have hfd : fdOf (mkId cfg n) = n := fdOf_mkId cfg (by omega) (by omega)
  have hopen := (h.monitor hmon).isOpen _ hid (by omega)
  rw [hfd, Int.toNat_natCast] at hopen
  exact not_isSome_of_free hfree hopen

end Free

/-- A refused inhibit has the id of no client. -/
lemma Invariant.notMem_refused (h : Invariant cfg s) :
    mkId cfg (-1) ∉ s.clients ++ s.forwarded ↔ ∀ id ∈ s.forwarded, fdOf id ≠ -1 := by
  have hclients : mkId cfg (-1) ∉ s.clients := by
    rw [h.clients.notMem_iff (by omega) (by omega)]
    intro id hid
    have hle := h.clients.le_fdOf (by omega) hid
    omega
  rw [List.mem_append, not_or, and_iff_right hclients]
  exact h.forwarded.notMem_iff (by omega) (by omega)

lemma Invariant.notMem_message (h : Invariant cfg s) {n : ℕ} (hn : n < 2 ^ 31) :
    mkId cfg n ∉ s.clients ++ s.forwarded ↔ ∀ id ∈ s.clients ++ s.forwarded, fdOf id ≠ n :=
  ((h.clients.mono (by omega)).append h.forwarded).notMem_iff (by omega) (by omega)

variable {sub sub' : SystemdFields} {forwarded forwarded' : List InhibitID} {others : Finset ℕ}

namespace LockNumbers

lemma subset (h : LockNumbers sub others forwarded) (hfds : sub'.fds = sub.fds)
    (hf : forwarded' ⊆ forwarded) : LockNumbers sub' others forwarded' := by
  intro id hid
  rw [hfds]
  exact h id (hf hid)

lemma grow (h : LockNumbers sub others forwarded)
    (hgrows : Descriptors.Grows sub.fds sub'.fds) : LockNumbers sub' others forwarded := by
  intro id hid
  obtain ⟨hopen, hrest⟩ := h id hid
  exact ⟨hgrows _ hopen, hrest⟩

/-- The read end of a lock reference is a new number. -/
lemma forward (h : LockNumbers sub others forwarded) (hroom : Room sub.fds)
    (hothers : ∀ n ∈ others, (sub.fds[n]?).isSome) {file : Bytes}
    (hfds : sub'.fds = (openFd sub.fds file).2) :
    LockNumbers sub' others (forwarded ++ [mkId cfg (lowestFree sub.fds)]) := by
  have hr := hroom.lowestFree_lt
  have hgrows := Descriptors.grows_openFd sub.fds file
  rw [← hfds] at hgrows
  intro id hid
  rcases List.mem_append.mp hid with hid | hid
  · exact h.grow hgrows id hid
  · rw [List.mem_singleton.mp hid, fdOf_mkId cfg (by omega) (by omega), Int.toNat_natCast, hfds,
      Descriptors.getElem?_openFd, if_pos rfl]
    refine ⟨rfl, by omega, fun hmem => ?_⟩
    exact not_isSome_of_free (Descriptors.getElem?_lowestFree sub.fds) (hothers _ hmem)

end LockNumbers

namespace MonitorNumbers

lemma subset (h : MonitorNumbers sub forwarded) (hfork : sub'.fork = sub.fork) :
    MonitorNumbers sub' forwarded := by
  constructor <;> rw [hfork]
  · exact h.idle
  · exact h.out
  · exact h.isOpen

/-- The answer of the child is the id of no other inhibit. -/
lemma forward (h : MonitorNumbers sub forwarded) {n : ℤ} (hn : -1 ≤ n ∧ n < 2 ^ 31)
    {child : SystemdInhibitFork.State} (hout : child.out = [])
    (hgrows : Descriptors.Grows sub.fork.state.fds child.fds)
    (hopen : 0 ≤ n → (child.fds[n.toNat]?).isSome) :
    MonitorNumbers { sub with fork := { state := child } } (forwarded ++ [mkId cfg n]) := by
  refine ⟨⟨rfl, rfl⟩, hout, fun id hid hpos => ?_⟩
  rcases List.mem_append.mp hid with hid | hid
  · exact hgrows _ (h.isOpen id hid hpos)
  · rw [List.mem_singleton.mp hid, fdOf_mkId cfg (by omega) hn.2] at hpos ⊢
    exact hopen hpos

/-- A release closes the number of its id alone. -/
lemma release (h : MonitorNumbers sub forwarded) (hnodup : forwarded.Nodup)
    (hnumbers : Numbered cfg (-1) forwarded) {id : InhibitID} (hid : id ∈ forwarded) :
    MonitorNumbers
      { sub with fork := { state := SystemdInhibitFork.close (fdOf id) sub.fork.state } }
      (forwarded.erase id) := by
  obtain ⟨hlow, hhigh⟩ := fdOf_bounds id
  have hout := SystemdInhibitFork.close_out (fdOf id) sub.fork.state
  refine ⟨⟨rfl, rfl⟩, hout.trans h.out, fun id' hid' hpos => ?_⟩
  obtain ⟨hne, hid'⟩ := hnodup.mem_erase_iff.mp hid'
  dsimp only
  rw [SystemdInhibitFork.close_fds hlow hhigh]
  split
  · exact h.isOpen id' hid' hpos
  · have hother : fdOf id' ≠ fdOf id := by
      intro heq
      rw [← hnumbers.mkId_fdOf (by omega) hid', heq, hnumbers.mkId_fdOf (by omega) hid] at hne
      exact hne rfl
    rw [Std.ExtTreeMap.getElem?_erase, if_neg (by rw [Nat.compare_eq_eq]; omega)]
    exact h.isOpen id' hid' hpos

end MonitorNumbers

/-! ## A client's message -/

section Message

variable {setup : FifoSetup} {now : ℕ} {creds : Except Exn (UInt32 × UInt32)} {readable : Bool}
  {msg : Message} {ret : Option Message}

/-- A message that registers an inhibit with a new id. -/
lemma message_registered (h : Invariant cfg s) {i : Inhibit} {w : Alone SystemdFields}
    (hw : handleAsking cfg setup now creds readable msg ret s.world = w)
    (hreg : Registered i s.world w) (hfresh : i.id ∉ s.clients ++ s.forwarded) {n : ℕ}
    (hid : i.id = mkId cfg n) (hn : n < 2 ^ 31)
    (hthreads : waiting w.obj.sub = waiting s.world.obj.sub ∨
      waiting w.obj.sub = waiting s.world.obj.sub ++ [i.id])
    (hqueue : w.obj.sub.releaseQueue = s.world.obj.sub.releaseQueue)
    (hgrows : Descriptors.Grows s.world.obj.sub.fds w.obj.sub.fds)
    (hfork : cfg.monitor = true → w.obj.sub.fork = s.world.obj.sub.fork) :
    let e := Event.message setup now creds readable msg ret
    Fresh cfg s e ∧ Invariant cfg (step cfg s e) := by
  intro e
  have hactive : i.id ∉ s.world.obj.activeInhibits := by
    rw [h.tracked.active]
    exact hfresh
  have hgiven : given cfg s e = [i.id] := by
    apply given_registered
    rw [hw]
    exact hreg.log
  have hstep : step cfg s e = { s with world := w, clients := s.clients ++ [i.id] } := by
    rw [← hgiven, ← hw]
    rfl
  constructor
  · intro id hid
    rw [hgiven] at hid
    rw [List.mem_singleton.mp hid]
    exact hactive
  · rw [hstep]
    refine ⟨?_, ?_, h.forwarded, fun n hn => hgrows n (h.others n hn),
      fun hm => (h.monitor hm).subset (hfork hm), fun hm => (h.lock hm).grow hgrows⟩
    · dsimp only
      rw [hreg.active]
      -- the new id is one more that waits for its release, if a thread was started
      apply h.tracked.client hactive
      have hqueued : queued w.obj.sub = queued s.world.obj.sub := by
        unfold queued
        rw [hqueue]
      rw [hqueued]
      rcases hthreads with hsame | hnew
      · left
        rw [hsame]
      · right
        rw [hnew, List.append_assoc]
        exact List.perm_middle
    · dsimp only
      rw [hid]
      exact h.clients.append (Numbered.singleton (by omega))

/-- A message that registers nothing and closes nothing. -/
lemma message_unregistered (h : Invariant cfg s) {sub : SystemdFields}
    (hw : handleAsking cfg setup now creds readable msg ret s.world =
      { s.world with obj.sub := sub })
    (hgrows : Descriptors.Grows s.world.obj.sub.fds sub.fds)
    (hrest : SameRest s.world.obj.sub sub) :
    let e := Event.message setup now creds readable msg ret
    Fresh cfg s e ∧ Invariant cfg (step cfg s e) := by
  intro e
  have hgiven : given cfg s e = [] := by
    apply given_unregistered
    rw [hw]
  have hstep : step cfg s e = { s with world := { s.world with obj.sub := sub } } := by
    rw [← hw]
    show { s with
      world := handleAsking cfg setup now creds readable msg ret s.world
      clients := s.clients ++ given cfg s e } = _
    rw [hgiven, List.append_nil]
  constructor
  · intro id hid
    rw [hgiven] at hid
    exact absurd hid List.not_mem_nil
  · rw [hstep]
    refine ⟨?_, h.clients, h.forwarded, fun n hn => hgrows n (h.others n hn),
      fun hm => (h.monitor hm).subset hrest.fork, fun hm => (h.lock hm).grow hgrows⟩
    have hpending : waiting sub ++ queued sub =
        waiting s.world.obj.sub ++ queued s.world.obj.sub := by
      unfold waiting queued
      rw [hrest.threads, hrest.queue]
    dsimp only
    rw [hpending]
    exact h.tracked

lemma message_step (h : Invariant cfg s)
    (hlegal : Legal cfg s (.message setup now creds readable msg ret))
    (hok : Apart cfg s (.message setup now creds readable msg ret)) :
    let e := Event.message setup now creds readable msg ret
    Fresh cfg s e ∧ Invariant cfg (step cfg s e) := by
  obtain ⟨hret, hroom, -⟩ := hlegal
  by_cases hthrown : cfg.monitor = false ∧ ¬ Answered creds
  · -- the question about the sender fails: nothing is given
    obtain ⟨sub, hw, hgrows, hrest⟩ :=
      handleAsking_thrown setup msg ret now readable s.world hthrown.1 hthrown.2
    exact message_unregistered h hw hgrows hrest
  push Not at hthrown
  obtain ⟨pidUid, hw⟩ :=
    handleAsking_answered setup msg ret now readable s.world hret hthrown
  by_cases hreq : Requests cfg msg ret
  · obtain ⟨hmonitor, hlock⟩ := hok hreq
    cases hmon : cfg.monitor with
    | false =>
      by_cases hsetup : FifoSetup.Succeeds setup
      · obtain ⟨i, file, hid, hreg, hfds, hthreads, hqueue⟩ :=
          handleAlone_lock now pidUid readable s.world hmon hreq hret hsetup
        rw [← hw] at hreg hfds hthreads hqueue
        -- the FIFO takes the two lowest numbers, and the write end stands for the inhibit
        have hw' := hroom.secondFree_lt
        have hfresh := (h.notMem_lock hw' hmon (Descriptors.getElem?_secondFree _ file)).mpr
          (hlock hmon hsetup (hthrown hmon))
        rw [← hid] at hfresh
        refine message_registered h rfl hreg hfresh hid hw' (.inr ?_) hqueue ?_ fun hm => ?_
        · unfold waiting
          rw [hthreads, List.map_append]
          rfl
        · rw [hfds]
          exact Descriptors.grows_openFd _ _
        · rw [hmon] at hm
          cases hm
      · obtain ⟨sub, hfails, hgrows, hrest⟩ :=
          handleAlone_fails now pidUid readable s.world hmon hreq hret hsetup
        exact message_unregistered h (hw.trans hfails) hgrows hrest
    | true =>
      obtain ⟨i, threads, hid, hreg, hsub, hthreads⟩ :=
        handleAlone_monitor setup now pidUid readable s.world hmon hreq
      rw [← hw] at hreg hsub
      -- `getArgs` duplicates the descriptor of the reply onto the lowest number
      have hd := hroom.lowestFree_lt
      have hfresh := (h.notMem_message hd).mpr (hmonitor hmon)
      rw [← hid] at hfresh
      refine message_registered h rfl hreg hfresh hid hd ?_ (by rw [hsub]) ?_ fun _ => by rw [hsub]
      · unfold waiting
        rw [hsub]
        dsimp only
        rcases hthreads with hnone | hone
        · left
          rw [hnone, List.append_nil]
        · right
          rw [hone, List.map_append]
          rfl
      · rw [hsub]
        exact Descriptors.Grows.refl _
  · exact message_unregistered h
      (hw.trans (handleAlone_other now pidUid readable s.world hret hreq)) (.refl _) ⟨rfl, rfl, rfl⟩

end Message

/-! ## A forwarded inhibit -/

section Forward

variable {setup : FifoSetup} {now : ℕ} {r : InhibitRequest}

lemma pending_eq {s s' : SystemdFields} (h : SameRest s s') :
    waiting s' ++ queued s' = waiting s ++ queued s := by
  unfold waiting queued
  rw [h.threads, h.queue]

lemma given_returned {i : Inhibit} {sub : SystemdFields}
    (hdo : doInhibit cfg setup now r s.world.obj.sub = (.ok i, sub)) :
    given cfg s (.inhibit setup now r) = [i.id] := by
  obtain ⟨hreturn, -⟩ := InhibitInterface.inhibit_ok _ (overrides_doInhibit hdo)
  unfold given
  dsimp only
  rw [hreturn]

/-- A forwarded inhibit that is granted a new id. -/
lemma inhibit_returned (h : Invariant cfg s) {i : Inhibit} {sub : SystemdFields}
    (hdo : doInhibit cfg setup now r s.world.obj.sub = (.ok i, sub))
    (hfresh : i.id ∉ s.clients ++ s.forwarded)
    (hpending : waiting sub ++ queued sub =
      waiting s.world.obj.sub ++ queued s.world.obj.sub)
    (hnumber : Numbered cfg (-1) [i.id])
    (hgrows : Descriptors.Grows s.world.obj.sub.fds sub.fds)
    (hmonitor : cfg.monitor = true → MonitorNumbers sub (s.forwarded ++ [i.id]))
    (hlock : cfg.monitor = false → LockNumbers sub s.others (s.forwarded ++ [i.id])) :
    let e := Event.inhibit setup now r
    Fresh cfg s e ∧ Invariant cfg (step cfg s e) := by
  intro e
  have hactive : i.id ∉ s.world.obj.activeInhibits := by
    rw [h.tracked.active]
    exact hfresh
  obtain ⟨-, hinsert⟩ := InhibitInterface.inhibit_ok _ (overrides_doInhibit hdo)
  have hsub := (noEvents cfg setup).inhibit_sub (overrides_doInhibit hdo)
  have hgiven : given cfg s e = [i.id] := given_returned hdo
  constructor
  · intro id hid
    rw [hgiven] at hid
    rw [List.mem_singleton.mp hid]
    exact hactive
  · have hstep : step cfg s e = { s with
        world.obj := (InhibitInterface.inhibit (overrides cfg setup) now r s.world.obj).2
        forwarded := s.forwarded ++ [i.id] } := by
      rw [← hgiven]
      rfl
    rw [hstep]
    refine ⟨?_, h.clients, h.forwarded.append hnumber, fun n hn => ?_, ?_, ?_⟩ <;> dsimp only <;>
      rw [hsub]
    · -- no message of a client is concerned
      rw [hinsert, hpending]
      exact h.tracked.forward hactive
    · exact hgrows n (h.others n hn)
    · exact hmonitor
    · exact hlock

/-- A forwarded inhibit that is not granted. -/
lemma inhibit_threw (h : Invariant cfg s) {x : Exn} {sub : SystemdFields}
    (hdo : doInhibit cfg setup now r s.world.obj.sub = (.error x, sub))
    (hgrows : Descriptors.Grows s.world.obj.sub.fds sub.fds)
    (hrest : SameRest s.world.obj.sub sub) :
    let e := Event.inhibit setup now r
    Fresh cfg s e ∧ Invariant cfg (step cfg s e) := by
  intro e
  have herror := InhibitInterface.inhibit_error _ (overrides_doInhibit hdo)
  have hgiven : given cfg s e = [] := by
    unfold given
    dsimp only [e]
    rw [herror]
  constructor
  · intro id hid
    rw [hgiven] at hid
    exact absurd hid List.not_mem_nil
  · have hstep : step cfg s e = { s with
        world.obj := (InhibitInterface.inhibit (overrides cfg setup) now r s.world.obj).2 } := by
      show { s with
        world.obj := (InhibitInterface.inhibit (overrides cfg setup) now r s.world.obj).2
        forwarded := s.forwarded ++ given cfg s e } = _
      rw [hgiven, List.append_nil]
    rw [hstep, herror]
    refine ⟨?_, h.clients, h.forwarded, fun n hn => hgrows n (h.others n hn),
      fun hm => (h.monitor hm).subset hrest.fork, fun hm => (h.lock hm).grow hgrows⟩
    dsimp only
    rw [pending_eq hrest]
    exact h.tracked

lemma inhibit_step (h : Invariant cfg s) (hlegal : Legal cfg s (.inhibit setup now r))
    (hok : Apart cfg s (.inhibit setup now r)) :
    let e := Event.inhibit setup now r
    Fresh cfg s e ∧ Invariant cfg (step cfg s e) := by
  obtain ⟨hstrings, hroom, hchild⟩ := hlegal
  by_cases hr : Supported r
  · obtain ⟨hfree, hanswer⟩ := hok hr
    cases hmon : cfg.monitor with
    | false =>
      have hnot : ¬ cfg.monitor = true := by
        rw [hmon]
        decide
      by_cases hsetup : FifoSetup.Succeeds setup
      · obtain ⟨file, sub, hdo, hfds, hrest⟩ := doInhibit_lock hmon hr hsetup
        have hd := hroom.lowestFree_lt
        refine inhibit_returned h hdo
          ((h.notMem_lock hd hmon (Descriptors.getElem?_lowestFree _)).mpr (hfree hmon hsetup))
          (pending_eq hrest) (Numbered.singleton (by omega)) ?_ (fun hm => absurd hm hnot)
          fun _ => (h.lock hmon).forward hroom h.others hfds
        rw [hfds]
        exact Descriptors.grows_openFd _ _
      · obtain ⟨x, sub, hdo, hgrows, hrest⟩ := doInhibit_lock_fails hmon hr hsetup
        exact inhibit_threw h hdo hgrows hrest
    | true =>
      have hnot : ¬ cfg.monitor = false := by
        rw [hmon]
        decide
      have hnumbers := h.monitor hmon
      obtain ⟨hread, hcases⟩ := hanswer hmon
      rcases hcases with ⟨hgranted, hne⟩ | ⟨hrefused, hne⟩
      · have hc := hchild.secondFree_lt
        obtain ⟨file, child, hdo, hfds, hout⟩ :=
          doInhibit_granted hmon hr hnumbers.idle hnumbers.out hread hstrings hc hgranted
        -- the child keeps the lock open under the number that it answers
        have hgrows := Descriptors.grows_insert s.world.obj.sub.fork.state.fds
          (secondFree s.world.obj.sub.fork.state.fds) file
        rw [← hfds] at hgrows
        have hopen : (child.fds[secondFree s.world.obj.sub.fork.state.fds]?).isSome := by
          rw [hfds, Std.ExtTreeMap.getElem?_insert_self]
          rfl
        exact inhibit_returned h hdo
          ((h.notMem_granted hc hmon (Descriptors.getElem?_secondFree _ file)).mpr hne) rfl
          (Numbered.singleton (by omega)) (.refl _)
          (fun _ => hnumbers.forward (by omega) hout hgrows fun _ => hopen)
          fun hm => absurd hm hnot
      · -- -1 is the number of no descriptor
        obtain ⟨child, hdo, hfds, hout⟩ :=
          doInhibit_refused hmon hr hnumbers.idle hnumbers.out hread hstrings hrefused
        have hgrows := Descriptors.Grows.refl s.world.obj.sub.fork.state.fds
        nth_rewrite 2 [← hfds] at hgrows
        exact inhibit_returned h hdo (h.notMem_refused.mpr hne) rfl
          (Numbered.singleton (by omega)) (.refl _)
          (fun _ => hnumbers.forward (by omega) hout hgrows fun hpos => by omega)
          fun hm => absurd hm hnot
  · exact inhibit_threw h (doInhibit_unsupported hr) (.refl _) ⟨rfl, rfl, rfl⟩

end Forward

/-! ## Releases -/

lemma unInhibit_step (h : Invariant cfg s) {id : InhibitID} (hid : id ∈ s.forwarded) :
    Invariant cfg (step cfg s (.unInhibit id)) := by
  have hmem : id ∈ s.world.obj.activeInhibits :=
    (h.tracked.active id).mpr (List.mem_append_right _ hid)
  obtain ⟨i, hactive⟩ := (StdMap.mem_iff _ _).mp hmem
  obtain ⟨-, herase⟩ := InhibitInterface.unInhibit_ok (overrides cfg {}) id s.world.obj
    fun b sub => doUnInhibit_ok b id sub
  have htracked := h.tracked.release hid
  have hnodup : s.forwarded.Nodup := (List.nodup_append.mp h.tracked.nodup).2.1
  have herased : s.forwarded.erase id ⊆ s.forwarded := List.erase_subset
  -- what the step leaves of the fields
  have hfields : ∀ {sub : SystemdFields},
      doUnInhibit cfg s.world.obj.toBase id s.world.obj.sub = (.ok (), sub) →
      waiting sub ++ queued sub = waiting s.world.obj.sub ++ queued s.world.obj.sub →
      sub.fds = s.world.obj.sub.fds →
      (cfg.monitor = true → MonitorNumbers sub (s.forwarded.erase id)) →
      Invariant cfg (step cfg s (.unInhibit id)) := by
    intro sub hdo hpending hfds hmonitor
    have hsub := (noEvents cfg {}).unInhibit_sub hactive
      (show (overrides cfg {}).doUnInhibit _ id _ = _ from hdo)
    have hstep : step cfg s (.unInhibit id) = { s with
        world.obj := (InhibitInterface.unInhibit (overrides cfg {}) id s.world.obj).2
        forwarded := s.forwarded.erase id } := rfl
    rw [hstep]
    refine ⟨?_, h.clients, h.forwarded.subset herased, fun n hn => ?_, ?_, fun hm => ?_⟩ <;>
      dsimp only <;> rw [hsub]
    · rw [herase, hpending]
      exact htracked
    · rw [hfds]
      exact h.others n hn
    · exact hmonitor
    · exact (h.lock hm).subset hfds herased
  cases hmon : cfg.monitor with
  | false =>
    obtain ⟨sub, hdo, hfds, hrest⟩ := doUnInhibit_lock (s := s.world.obj.sub) hmon
      s.world.obj.toBase id
    refine hfields hdo (pending_eq hrest) hfds fun hm => ?_
    rw [hmon] at hm
    cases hm
  | true =>
    have hnumbers := h.monitor hmon
    have hdo := doUnInhibit_fdOf hmon hnumbers.idle s.world.obj.toBase id
    exact hfields hdo rfl rfl fun _ => hnumbers.release hnodup h.forwarded hid

/-- A release thread hands its inhibit to the queue. -/
lemma release_step (h : Invariant cfg s) (k : ℕ) : Invariant cfg (step cfg s (.release k)) := by
  set sub := release k s.world.obj.sub with hsub
  have hkept : sub.fds = s.world.obj.sub.fds ∧ sub.fork = s.world.obj.sub.fork ∧
      (waiting sub ++ queued sub).Perm
        (waiting s.world.obj.sub ++ queued s.world.obj.sub) := by
    rw [hsub]
    unfold release
    cases hthread : s.world.obj.sub.releaseThreads[k]? with
    | none => exact ⟨rfl, rfl, List.Perm.refl _⟩
    | some t =>
      refine ⟨rfl, rfl, ?_⟩
      obtain ⟨hk, ht⟩ := List.getElem?_eq_some_iff.mp hthread
      have hperm := (List.getElem_cons_eraseIdx_perm hk).map (·.inhibit.id)
      rw [ht, List.map_cons] at hperm
      unfold waiting queued
      dsimp only
      rw [List.map_append, List.map_singleton, ← List.append_assoc]
      have hfront := (List.perm_append_singleton t.inhibit.id _).trans
        (List.Perm.append_right (s.world.obj.sub.releaseQueue.map (·.id)) hperm)
      exact hfront
  obtain ⟨hfds, hfork, hperm⟩ := hkept
  have hstep : step cfg s (.release k) = { s with world.obj.sub := sub } := rfl
  rw [hstep]
  refine ⟨h.tracked.perm hperm, h.clients, h.forwarded, fun n hn => ?_,
    fun hm => (h.monitor hm).subset hfork,
    fun hm => (h.lock hm).subset hfds (List.Subset.refl _)⟩
  dsimp only
  rw [hfds]
  exact h.others n hn

/-- The queue is drained. -/
lemma poll_step (h : Invariant cfg s) : Invariant cfg (step cfg s .poll) := by
  obtain ⟨w, hw, hactive, hfds, hfork, hthreads, hqueue⟩ := poll_alone cfg {} s.world
  have hstep : step cfg s .poll = { s with
      world := w
      clients := s.clients.diff (queued s.world.obj.sub) } := by
    rw [← hw]
    rfl
  rw [hstep]
  refine ⟨?_, h.clients.subset (List.diff_subset _ _), h.forwarded, fun n hn => ?_,
    fun hm => (h.monitor hm).subset hfork,
    fun hm => (h.lock hm).subset hfds (List.Subset.refl _)⟩
  · have hpending : waiting w.obj.sub ++ queued w.obj.sub = waiting s.world.obj.sub := by
      unfold waiting queued
      rw [hthreads, hqueue, List.map_nil, List.append_nil]
    dsimp only
    rw [hpending]
    exact h.tracked.drain hactive
  · dsimp only
    rw [hfds]
    exact h.others n hn

/-! ## Other descriptors -/

lemma opened_step (h : Invariant cfg s) (file : Bytes) :
    Invariant cfg (step cfg s (.opened file)) := by
  have hgrows := Descriptors.grows_openFd s.world.obj.sub.fds file
  refine ⟨h.tracked, h.clients, h.forwarded, fun n hn => ?_,
    fun hm => (h.monitor hm).subset rfl, fun hm id hid => ?_⟩
  · show ((openFd s.world.obj.sub.fds file).2[n]?).isSome
    rcases Finset.mem_insert.mp hn with heq | hn
    · rw [Descriptors.getElem?_openFd, if_pos heq]
      rfl
    · exact hgrows n (h.others n hn)
  · obtain ⟨hopen, hpos, hnot⟩ := h.lock hm id hid
    refine ⟨hgrows _ hopen, hpos, fun hmem => ?_⟩
    -- what is opened was free
    rcases Finset.mem_insert.mp hmem with heq | hmem
    · rw [heq] at hopen
      exact not_isSome_of_free (Descriptors.getElem?_lowestFree _) hopen
    · exact hnot hmem

lemma closed_step (h : Invariant cfg s) {n : ℕ} (hn : n ∈ s.others) :
    Invariant cfg (step cfg s (.closed n)) := by
  have hother : ∀ m : ℕ, m ≠ n → (s.world.obj.sub.fds.erase n)[m]? = s.world.obj.sub.fds[m]? := by
    intro m hne
    grind
  refine ⟨h.tracked, h.clients, h.forwarded, fun m hm => ?_,
    fun hm => (h.monitor hm).subset rfl, fun hm id hid => ?_⟩
  · obtain ⟨hne, hm⟩ := Finset.mem_erase.mp hm
    show ((s.world.obj.sub.fds.erase n)[m]?).isSome
    rw [hother m hne]
    exact h.others m hm
  · obtain ⟨hopen, hpos, hnot⟩ := h.lock hm id hid
    refine ⟨?_, hpos, fun hmem => hnot (Finset.mem_of_mem_erase hmem)⟩
    show ((s.world.obj.sub.fds.erase n)[(fdOf id).toNat]?).isSome
    rw [hother _ fun heq => hnot (by rw [heq]; exact hn)]
    exact hopen

/-! ## The condition is exact -/

/-- A new id that is fresh is held by nobody. -/
lemma Fresh.notMem {e : Event} {id : InhibitID} (hfresh : Fresh cfg s e) (h : Invariant cfg s)
    (hgiven : given cfg s e = [id]) : id ∉ s.clients ++ s.forwarded := by
  have hnot := hfresh id (by rw [hgiven]; exact List.mem_singleton_self id)
  rw [h.tracked.active] at hnot
  exact hnot

lemma apart_message {setup : FifoSetup} {now : ℕ} {creds : Except Exn (UInt32 × UInt32)}
    {readable : Bool} {msg : Message} {ret : Option Message} (h : Invariant cfg s)
    (hlegal : Legal cfg s (.message setup now creds readable msg ret))
    (hfresh : Fresh cfg s (.message setup now creds readable msg ret)) :
    Apart cfg s (.message setup now creds readable msg ret) := by
  intro hreq
  obtain ⟨hret, hroom, -⟩ := hlegal
  constructor
  · intro hmon
    obtain ⟨pidUid, hw⟩ :=
      handleAsking_monitor setup msg ret now creds readable s.world hmon hret
    obtain ⟨i, -, hid, hreg, -, -⟩ :=
      handleAlone_monitor setup now pidUid readable s.world hmon hreq
    rw [← hw] at hreg
    have hnew := hfresh.notMem h (given_registered hreg.log)
    rw [hid] at hnew
    exact (h.notMem_message hroom.lowestFree_lt).mp hnew
  · intro hmon hsetup hanswered
    obtain ⟨pidUid, hw⟩ :=
      handleAsking_answered setup msg ret now readable s.world hret fun _ => hanswered
    obtain ⟨i, file, hid, hreg, -⟩ :=
      handleAlone_lock now pidUid readable s.world hmon hreq hret hsetup
    rw [← hw] at hreg
    have hnew := hfresh.notMem h (given_registered hreg.log)
    rw [hid] at hnew
    exact (h.notMem_lock hroom.secondFree_lt hmon (Descriptors.getElem?_secondFree _ file)).mp hnew

lemma apart_inhibit {setup : FifoSetup} {now : ℕ} {r : InhibitRequest} (h : Invariant cfg s)
    (hlegal : Legal cfg s (.inhibit setup now r)) (hserved : Served cfg s (.inhibit setup now r))
    (hfresh : Fresh cfg s (.inhibit setup now r)) : Apart cfg s (.inhibit setup now r) := by
  intro hr
  obtain ⟨hstrings, hroom, hchild⟩ := hlegal
  constructor
  · intro hmon hsetup
    obtain ⟨file, sub, hdo, -⟩ := doInhibit_lock hmon hr hsetup
    have hnew := hfresh.notMem h (given_returned hdo)
    exact (h.notMem_lock hroom.lowestFree_lt hmon (Descriptors.getElem?_lowestFree _)).mp hnew
  · intro hmon
    have hnumbers := h.monitor hmon
    obtain ⟨hread, hanswer⟩ := hserved hr hmon
    refine ⟨hread, hanswer.imp (fun hgranted => ⟨hgranted, ?_⟩) fun hrefused => ⟨hrefused, ?_⟩⟩
    · have hc := hchild.secondFree_lt
      obtain ⟨file, child, hdo, -⟩ :=
        doInhibit_granted hmon hr hnumbers.idle hnumbers.out hread hstrings hc hgranted
      have hnew := hfresh.notMem h (given_returned hdo)
      exact (h.notMem_granted hc hmon (Descriptors.getElem?_secondFree _ file)).mp hnew
    · obtain ⟨child, hdo, -⟩ :=
        doInhibit_refused hmon hr hnumbers.idle hnumbers.out hread hstrings hrefused
      exact h.notMem_refused.mp (hfresh.notMem h (given_returned hdo))

/-- Where a request is served, its id is fresh only if the numbers are apart. -/
lemma apart_of_fresh (h : Invariant cfg s) {e : Event} (hlegal : Legal cfg s e)
    (hserved : Served cfg s e) (hfresh : Fresh cfg s e) : Apart cfg s e := by
  cases e with
  | message setup now creds readable msg ret => exact apart_message h hlegal hfresh
  | inhibit setup now r => exact apart_inhibit h hlegal hserved hfresh
  | _ => trivial

/-! ## Runs -/

/-- In each step the new ids are fresh, and what is held is kept. -/
lemma step_spec (h : Invariant cfg s) {e : Event} (hlegal : Legal cfg s e) (hok : Apart cfg s e) :
    Fresh cfg s e ∧ Invariant cfg (step cfg s e) := by
  have hnone : ∀ id ∈ ([] : List InhibitID), id ∉ s.world.obj.activeInhibits :=
    fun id hid => absurd hid List.not_mem_nil
  cases e with
  | message setup now creds readable msg ret => exact message_step h hlegal hok
  | inhibit setup now r => exact inhibit_step h hlegal hok
  | unInhibit id => exact ⟨hnone, unInhibit_step h hlegal⟩
  | release k => exact ⟨hnone, release_step h k⟩
  | poll => exact ⟨hnone, poll_step h⟩
  | opened file => exact ⟨hnone, opened_step h file⟩
  | closed n => exact ⟨hnone, closed_step h hlegal⟩

/-- In a run whose steps avoid numbers that come again, every new id is fresh, and no release drops
an inhibit that is held. A run whose requests are served must avoid them. -/
theorem ids_apart {cfg : SystemdConfig} {s : Run} {es : List Event} (hinitial : Initial s)
    (hlegal : Transition.Along (step cfg) (Legal cfg) s es) :
    (Transition.Along (step cfg) (Apart cfg) s es →
      Transition.Along (step cfg) (fun s e => Fresh cfg s e ∧ Kept cfg (step cfg s e)) s es) ∧
    (Transition.Along (step cfg) (Served cfg) s es →
      Transition.Along (step cfg) (fun s e => Fresh cfg s e ∧ Kept cfg (step cfg s e)) s es →
      Transition.Along (step cfg) (Apart cfg) s es) := by
  have hstart : Invariant cfg s := hinitial.invariant
  constructor
  · intro hapart
    have hrun := Transition.along_and.mpr ⟨hlegal, hapart⟩
    refine Transition.along_imp hstart (fun s e h hok _ => ?_) (fun s e h hok _ => ?_) hrun hrun
    · exact (step_spec h hok.1 hok.2).2
    · obtain ⟨hfresh, hnext⟩ := step_spec h hok.1 hok.2
      exact ⟨hfresh, hnext.kept⟩
  · intro hserved hproperty
    have hrun := Transition.along_and.mpr ⟨hlegal, hserved⟩
    refine Transition.along_imp hstart (fun s e h hok hapart => ?_) (fun s e h hok hp => ?_) hrun
      hproperty
    · exact (step_spec h hok.1 hapart).2
    · exact apart_of_fresh h hok.1 hok.2 hp.1

lemma carried_of_plain {m : Message} (h : ∀ a ∈ m.args, ∃ b, a = .string b) : Carried s m := by
  intro file hfile
  obtain ⟨b, hb⟩ := h _ hfile
  cases hb

/-- The same id is given to two clients in monitor mode, and in implementation mode to a client and
a forwarded inhibit, and to two clients the first of which sends a descriptor along. -/
theorem ids_apart_fails :
    let login1 : Login1 := fun _ => .ok (.fd [])
    let monitor : SystemdConfig :=
      { instanceId := 0, monitor := true, forkSender := lit ":1.0", login1 }
    let lock : SystemdConfig :=
      { instanceId := 0, monitor := false, forkSender := lit ":1.0", login1 }
    let s : Run := { world := { obj := { sub := {} } } }
    let args : List DBus.Arg :=
      [.string (lit "idle"), .string (lit "a"), .string (lit "b"), .string (lit "block")]
    let msg : Message := { type := .methodCall, sender := lit ":1.5", args }
    let more : Message :=
      { type := .methodCall, sender := lit ":1.6", args := args ++ [.unixFd (lit "x")] }
    let ret : Message :=
      { type := .methodReturn, sender := lit ":1.2", args := [.unixFd (lit "1.ref")] }
    let client (msg : Message) (ret : Option Message) : Event :=
      .message {} 0 (.ok (1, 2)) true msg ret
    let forward : Event :=
      .inhibit {} 0 { type := InhibitType.SUSPEND, appname := lit "c", reason := lit "d" }
    let clients : List Event := [.opened (lit "1.ref"), client msg (some ret), .closed 0,
      .opened (lit "1.ref"), client msg (some ret)]
    let mixed : List Event := [client msg none, forward]
    let extra : List Event := [.opened (lit "x"), client more none, .closed 0, client msg none]
    Initial s ∧
      (Transition.Along (step monitor) (Legal monitor) s clients ∧
        ¬ Transition.Along (step monitor)
          (fun s e => Fresh monitor s e ∧ Kept monitor (step monitor s e)) s clients) ∧
      ∀ es ∈ [mixed, extra], Transition.Along (step lock) (Legal lock) s es ∧
        ¬ Transition.Along (step lock)
          (fun s e => Fresh lock s e ∧ Kept lock (step lock s e)) s es := by
  intro login1 monitor lock s args msg more ret client forward clients mixed extra
  have hmsg : ∀ a ∈ msg.args, ∃ b, a = .string b := by simp [msg, args]
  have hplain : ∀ s : Run, Carried s msg := fun s => carried_of_plain hmsg
  -- the reply carries the descriptor that was opened for it
  have hret : ∀ s : Run, 0 ∈ s.others → s.world.obj.sub.fds[0]? = some (lit "1.ref") →
      ∀ m ∈ msg :: (some ret).toList, Carried s m := by
    intro s hmem hfile m hm
    rcases List.mem_pair.mp hm with heq | heq <;> rw [heq]
    · exact hplain s
    · intro file hf
      cases List.mem_singleton.mp hf
      exact ⟨0, hmem, hfile⟩
  -- so does the message with one descriptor more
  have hmore : ∀ s : Run, 0 ∈ s.others → s.world.obj.sub.fds[0]? = some (lit "x") →
      ∀ m ∈ more :: (none : Option Message).toList, Carried s m := by
    intro s hmem hfile m hm
    rw [List.mem_singleton.mp hm]
    intro file hf
    cases (show file = lit "x" by simpa [more, args] using hf)
    exact ⟨0, hmem, hfile⟩
  have hnone : ∀ s : Run, ∀ m ∈ msg :: (none : Option Message).toList, Carried s m := by
    intro s m hm
    rw [List.mem_singleton.mp hm]
    exact hplain s
  refine ⟨⟨rfl, rfl, by decide, rfl, rfl, rfl, ⟨rfl, rfl⟩, rfl⟩, ⟨?_, fun h => ?_⟩, ?_⟩
  · exact ⟨trivial, ⟨rfl, by decide, hret _ (by decide) (by decide)⟩, by unfold Legal; decide,
      trivial, ⟨rfl, by decide, hret _ (by decide) (by decide)⟩, trivial⟩
  · exact h.2.2.2.2.1.1 (mkId monitor 1) (by decide) (by decide)
  · intro es hes
    rcases List.mem_pair.mp hes with heq | heq <;> rw [heq] <;> refine ⟨?_, fun h => ?_⟩
    · exact ⟨⟨rfl, by decide, hnone _⟩, ⟨⟨by decide, by decide⟩, by decide, by decide⟩, trivial⟩
    · exact h.2.1.1 (mkId lock 1) (by decide) (by decide)
    · exact ⟨trivial, ⟨rfl, by decide, hmore _ (by decide) (by decide)⟩, by unfold Legal; decide,
        ⟨rfl, by decide, hnone _⟩, trivial⟩
    · exact h.2.2.2.1.1 (mkId lock 2) (by decide) (by decide)

/-- A forwarded inhibit and two clients, one of which lets go. -/
theorem ids_apart_five :
    let cfg : SystemdConfig :=
      { instanceId := 0, monitor := false, forkSender := lit ":1.0",
        login1 := fun _ => .ok (.fd []) }
    let s : Run := { world := { obj := { sub := {} } } }
    let msg : Message :=
      { type := .methodCall, sender := lit ":1.5",
        args := [.string (lit "idle"), .string (lit "a"), .string (lit "b"),
          .string (lit "block")] }
    let forward : Event :=
      .inhibit {} 0 { type := InhibitType.SUSPEND, appname := lit "c", reason := lit "d" }
    let client : Event := .message {} 0 (.ok (1, 2)) true msg none
    let es : List Event := [forward, client, client, .release 0, .poll]
    Transition.Along (step cfg) (fun s e => Fresh cfg s e ∧ Kept cfg (step cfg s e)) s es ∧
      Transition.Along (step cfg) (Apart cfg) s es := by
  intro cfg s msg forward client es
  have hmon : ¬ cfg.monitor = true := by decide
  have hinitial : Initial s := ⟨rfl, rfl, by decide, rfl, rfl, rfl, ⟨rfl, rfl⟩, rfl⟩
  have hcarried : ∀ s : Run, ∀ m ∈ msg :: (none : Option Message).toList, Carried s m := by
    intro s m hm
    rw [List.mem_singleton.mp hm]
    exact carried_of_plain (by simp [msg])
  have hlegal : Transition.Along (step cfg) (Legal cfg) s es :=
    ⟨⟨⟨by decide, by decide⟩, by decide, by decide⟩, ⟨rfl, by decide, hcarried _⟩,
      ⟨rfl, by decide, hcarried _⟩, trivial, trivial, trivial⟩
  have hapart : Transition.Along (step cfg) (Apart cfg) s es := by
    refine ⟨fun _ => ⟨fun _ _ id hid => ?_, fun hm => absurd hm hmon⟩,
      fun _ => ⟨fun hm => absurd hm hmon, fun _ _ _ id hid => ?_⟩,
      fun _ => ⟨fun hm => absurd hm hmon, fun _ _ _ => ?_⟩, trivial, trivial, trivial⟩
    · exact absurd hid List.not_mem_nil
    · exact absurd hid List.not_mem_nil
    · decide
  have hserved : Transition.Along (step cfg) (Served cfg) s es :=
    ⟨fun _ hm => absurd hm hmon, trivial, trivial, trivial, trivial, trivial⟩
  have hboth := ids_apart hinitial hlegal
  have hkept := hboth.1 hapart
  exact ⟨hkept, hboth.2 hserved hkept⟩

end SystemdInhibitInterface

end UnifiedInhibit
