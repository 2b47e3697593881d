import UnifiedInhibit.LockWatcher

/-!
# The events of the Sxmo watcher

`watcherThread` of `src/InhibitInterface/SxmoInhibitInterface.cpp`: one `read` of the inotify
descriptor and the loop over the events it has returned. `LockWatcher` has what the loop does with
the list of locks.
-/

namespace UnifiedInhibit

/-- An event as inotify writes it. The name carries its padding. -/
structure InotifyEvent where
  wd : UInt32
  mask : UInt32
  cookie : UInt32
  name : Bytes

namespace InotifyEvent

def IN_CREATE : UInt32 := 0x100
def IN_DELETE_SELF : UInt32 := 0x400
def IN_IGNORED : UInt32 := 0x8000

/-- The header is followed by `len` bytes of name. -/
def bytes (e : InotifyEvent) : Bytes :=
  CStruct.leBytes 4 e.wd.toNat ++ CStruct.leBytes 4 e.mask.toNat ++
    CStruct.leBytes 4 e.cookie.toNat ++ CStruct.leBytes 4 e.name.length ++ e.name

/-- `can_suspend` has been deleted or made again. -/
def remakes (mask : UInt32) : Bool :=
  mask &&& IN_IGNORED > 0 || mask &&& IN_DELETE_SELF > 0 || mask &&& IN_CREATE > 0

end InotifyEvent

namespace SxmoInhibitInterface

/-- `sizeof(InotifyEvent)`, with a name of `NAME_MAX + 1` bytes -/
def sizeofInotifyEvent : ℕ := 4 + 4 + 4 + 4 + (255 + 1)

/-- The events that one `read` returns. -/
structure Batch where
  events : List InotifyEvent
  nonempty : events ≠ []
  fits : (events.flatMap InotifyEvent.bytes).length ≤ sizeofInotifyEvent

/-- Where each event of a batch starts, from the offset `i` on. -/
def offsets : ℕ → List InotifyEvent → List ℕ
  | _, [] => []
  | i, e :: es => i :: offsets (i + e.bytes.length) es

/-- A call of inotify. -/
inductive WatchCall where
  | rmWatch (wd : ℤ)
  | addWatch
deriving DecidableEq

/-- The watch of `can_suspend`, the calls of inotify, the addresses at which an event has been
looked at, and what the watcher knows about the locks. -/
structure Watch where
  inotifyLockWD : ℤ
  calls : List WatchCall := []
  looked : List ℕ := []
  locks : Watched SxmoFields

/-- What the handling of an event meets: the result of `inotify_add_watch`, the output of
`sxmo_mutex.sh can_suspend list` if it can be run, and the time. -/
structure Meets where
  wd : ℤ
  output : Option Bytes
  now : ℕ

variable (instanceId : UInt64)

/-- `inotify_rm_watch` and `inotify_add_watch` -/
def remakeWatch (wd : ℤ) (w : Watch) : Outcome Watch Unit :=
  let w := { w with
    inotifyLockWD := wd
    calls := w.calls ++ [.rmWatch w.inotifyLockWD, .addWatch] }
  if wd = -1 then (.error (.std "Failed to create inotify watch descriptor"), w) else (.ok (), w)

/-- The lists of locks are compared. Without an output there is only a warning. -/
def checkLocks (m : Meets) (w : Watch) : Watch :=
  match m.output with
  | none => w
  | some output =>
    let C := lockWatch instanceId fun _ held => held
    { w with locks := C.step { w.locks with locks := readTokens output } (.compare m.now) }

/-- `event->mask` and `event->len` of the event at the address `event`. -/
def maskAt (mem : Bytes) (event : ℕ) : UInt32 :=
  (CStruct.leValue ((mem.drop (event + 4)).take 4)).toUInt32

def lenAt (mem : Bytes) (event : ℕ) : ℕ := CStruct.leValue ((mem.drop (event + 12)).take 4)

/-- The body of the inner loop for the event at the address `event`. -/
def handleEvent (mem : Bytes) (event : ℕ) (m : Meets) (w : Watch) : Outcome Watch Unit :=
  let w := { w with looked := w.looked ++ [event] }
  if InotifyEvent.remakes (maskAt mem event) then
    match remakeWatch m.wd w with
    | (.error e, w) => (.error e, w)
    | (.ok (), w) => (.ok (), checkLocks instanceId m w)
  else (.ok (), checkLocks instanceId m w)

/-- `while (i < got)`. The pointer is moved by `i` structures, not by `i` bytes. -/
def innerLoop (mem : Bytes) (meets : ℕ → Meets) (got i : ℕ) (w : Watch) : Outcome Watch Unit :=
  if i < got then
    let event := i * sizeofInotifyEvent
    match handleEvent instanceId mem event (meets event) w with
    | (.error e, w) => (.error e, w)
    | (.ok (), w) => innerLoop mem meets got (i + (sizeofInotifyEvent + lenAt mem event)) w
  else (.ok (), w)
termination_by got - i
decreasing_by
  unfold sizeofInotifyEvent
  omega

/-- One round of the outer loop, where `read` has returned `size`. `got` is the result of the
comparison. -/
def handleBatch (mem : Bytes) (meets : ℕ → Meets) (size : ℕ) (w : Watch) : Outcome Watch Unit :=
  let got := if size > 0 then 1 else 0
  innerLoop instanceId mem meets got 0 w

/-! ## What is looked at -/

/-- The next read comes after a look at each event of the batch and at nothing else, and with a new
watch if an event says that `can_suspend` has been remade. -/
structure Handled (batch : Batch) (w : Watch) (r : Outcome Watch Unit) : Prop where
  looked : r.2.looked = w.looked ++ offsets 0 batch.events
  remade : (∃ e ∈ batch.events, InotifyEvent.remakes e.mask) → r.1 = .ok () →
    WatchCall.addWatch ∈ r.2.calls.drop w.calls.length

lemma length_offsets (i : ℕ) (es : List InotifyEvent) : (offsets i es).length = es.length := by
  induction es generalizing i with
  | nil => rfl
  | cons e es ih => rw [offsets, List.length_cons, List.length_cons, ih]

/-- The mask stands behind the first field. -/
lemma maskAt_event (e : InotifyEvent) (rest : Bytes) :
    maskAt (e.bytes ++ rest) 0 = e.mask := by
  have hdrop : (e.bytes ++ rest).drop 4 = CStruct.leBytes 4 e.mask.toNat ++
      (CStruct.leBytes 4 e.cookie.toNat ++ CStruct.leBytes 4 e.name.length ++ e.name ++ rest) := by
    unfold InotifyEvent.bytes
    simp only [List.append_assoc]
    exact List.drop_left' (CStruct.length_leBytes 4 _)
  have hlt : e.mask.toNat < 256 ^ 4 := e.mask.toNat_lt
  unfold maskAt
  rw [Nat.zero_add, hdrop, List.take_left' (CStruct.length_leBytes 4 _), CStruct.leValue_leBytes,
    Nat.mod_eq_of_lt hlt]
  exact UInt32.ofNat_toNat

variable {instanceId} {mem : Bytes} {meets : ℕ → Meets} {w : Watch}

lemma remakeWatch_calls (wd : ℤ) (w : Watch) :
    (remakeWatch wd w).2.calls = w.calls ++ [.rmWatch w.inotifyLockWD, .addWatch] ∧
      (remakeWatch wd w).2.looked = w.looked := by
  unfold remakeWatch
  dsimp only
  split <;> exact ⟨rfl, rfl⟩

lemma checkLocks_rest (m : Meets) (w : Watch) :
    (checkLocks instanceId m w).calls = w.calls ∧
      (checkLocks instanceId m w).looked = w.looked := by
  unfold checkLocks
  split <;> exact ⟨rfl, rfl⟩

/-- One event is looked at, and the watch is remade where its mask says so. -/
lemma handleEvent_spec (event : ℕ) (m : Meets) :
    (handleEvent instanceId mem event m w).2.looked = w.looked ++ [event] ∧
      (InotifyEvent.remakes (maskAt mem event) →
        WatchCall.addWatch ∈
          (handleEvent instanceId mem event m w).2.calls.drop w.calls.length) := by
  set w₁ : Watch := { w with looked := w.looked ++ [event] } with hw₁
  obtain ⟨hcalls, hlooked⟩ := remakeWatch_calls m.wd w₁
  have hmem : WatchCall.addWatch ∈ (remakeWatch m.wd w₁).2.calls.drop w.calls.length := by
    rw [hcalls]
    show WatchCall.addWatch ∈ (w.calls ++ _).drop w.calls.length
    rw [List.drop_left]
    exact List.mem_cons_of_mem _ List.mem_cons_self
  unfold handleEvent
  dsimp only
  rw [← hw₁]
  by_cases hremakes : InotifyEvent.remakes (maskAt mem event)
  · rw [if_pos hremakes]
    split
    · rename_i w₂ heq
      rw [heq] at hlooked hmem
      exact ⟨hlooked, fun _ => hmem⟩
    · rename_i w₂ heq
      rw [heq] at hlooked hmem
      obtain ⟨hcheck, hsame⟩ := @checkLocks_rest instanceId m w₂
      rw [hcheck, hsame]
      exact ⟨hlooked, fun _ => hmem⟩
  · rw [if_neg hremakes]
    exact ⟨(checkLocks_rest m w₁).2, fun h => absurd h hremakes⟩

/-- The loop ends behind the first event: `got` is one. -/
lemma handleBatch_eq {size : ℕ} (h : 0 < size) :
    handleBatch instanceId mem meets size w = handleEvent instanceId mem 0 (meets 0) w := by
  have hfar : ¬ 0 + (sizeofInotifyEvent + lenAt mem 0) < 1 := by
    unfold sizeofInotifyEvent
    omega
  unfold handleBatch
  dsimp only
  rw [if_pos h, innerLoop, if_pos Nat.one_pos, Nat.zero_mul]
  dsimp only
  split
  · rename_i heq
    rw [heq]
  · rename_i heq
    rw [heq, innerLoop, if_neg hfar]

lemma Batch.size_pos (batch : Batch) :
    0 < (batch.events.flatMap InotifyEvent.bytes).length := by
  obtain ⟨e, es, hevents⟩ := List.exists_cons_of_ne_nil batch.nonempty
  rw [hevents, List.flatMap_cons, List.length_append]
  unfold InotifyEvent.bytes
  simp only [List.length_append, CStruct.length_leBytes]
  omega

/-- A batch is handled exactly when it is of one event. -/
theorem batch_handled_iff (instanceId : UInt64) (meets : ℕ → Meets) (batch : Batch) (rest : Bytes)
    (w : Watch) :
    Handled batch w (handleBatch instanceId (batch.events.flatMap InotifyEvent.bytes ++ rest) meets
      (batch.events.flatMap InotifyEvent.bytes).length w) ↔ batch.events.length = 1 := by
  obtain ⟨e, es, hevents⟩ := List.exists_cons_of_ne_nil batch.nonempty
  have hmem : batch.events.flatMap InotifyEvent.bytes ++ rest =
      e.bytes ++ (es.flatMap InotifyEvent.bytes ++ rest) := by
    rw [hevents, List.flatMap_cons, List.append_assoc]
  rw [handleBatch_eq batch.size_pos, hmem]
  obtain ⟨hlooked, hremade⟩ := @handleEvent_spec instanceId
    (e.bytes ++ (es.flatMap InotifyEvent.bytes ++ rest)) w 0 (meets 0)
  constructor
  · intro h
    have hlen := congrArg List.length (hlooked.symm.trans h.looked)
    rw [List.length_append, List.length_append, length_offsets, List.length_singleton] at hlen
    omega
  · intro hone
    have hes : es = [] := by
      rw [hevents, List.length_cons] at hone
      exact List.length_eq_zero_iff.mp (by omega)
    rw [maskAt_event] at hremade
    refine ⟨?_, fun hflag _ => hremade ?_⟩
    · rw [hlooked, hevents, hes]
      rfl
    · obtain ⟨e', he', hmask⟩ := hflag
      rw [hevents, hes, List.mem_singleton] at he'
      rwa [he'] at hmask

/-- `can_suspend` is written to and then deleted: the second event is not looked at, and there is no
new watch. -/
theorem batch_handled_fails :
    let modify : InotifyEvent := { wd := 1, mask := 0x2, cookie := 0, name := [] }
    let delete : InotifyEvent := { wd := 1, mask := 0x400, cookie := 0, name := [] }
    let batch : Batch := ⟨[modify, delete], by decide, by decide⟩
    let meets : ℕ → Meets := fun _ => { wd := 3, output := none, now := 0 }
    let w : Watch := { inotifyLockWD := 1, locks := { world := { obj := { sub := {} } } } }
    let mem := batch.events.flatMap InotifyEvent.bytes
    InotifyEvent.remakes delete.mask ∧ offsets 0 batch.events = [0, 16] ∧
      (handleBatch 0 mem meets mem.length w).1 = .ok () ∧
      (handleBatch 0 mem meets mem.length w).2.looked = [0] ∧
      (handleBatch 0 mem meets mem.length w).2.calls = [] ∧
      ¬ Handled batch w (handleBatch 0 mem meets mem.length w) := by
  intro modify delete batch meets w mem
  have heq : handleBatch 0 mem meets mem.length w = handleEvent 0 mem 0 (meets 0) w :=
    handleBatch_eq batch.size_pos
  rw [heq]
  refine ⟨by decide, by decide, by decide, by decide, by decide, fun h => ?_⟩
  exact absurd h.looked (by decide)

end SxmoInhibitInterface

end UnifiedInhibit
