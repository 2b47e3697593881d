import UnifiedInhibit.Lib.Run
import UnifiedInhibit.LinuxKernelInhibitInterface
import UnifiedInhibit.SxmoInhibitInterface

/-!
# Watching a list of locks

`watcherThread` and `start` of `LinuxKernelInhibitInterface.cpp` and `SxmoInhibitInterface.cpp`. A
thread reads the locks that are held, compares them with what is active, and queues the differences
for the main loop, which registers them. The daemon's own locks are in the list too, once the child
or `sxmo_mutex.sh` has taken them. The two classes differ in a few values, the fields of
`LockWatch`.

What is waited for, and the reading of the list in several chunks, is left out here.
-/

namespace UnifiedInhibit

/-! ## Reading the locks -/

/-- `v.back().push_back(c)` -/
def pushBack (c : UInt8) (v : List Bytes) : List Bytes :=
  v.dropLast ++ (v.getLast?.map (· ++ [c])).toList

namespace LinuxKernelInhibitInterface

open LinuxKernelInhibitFork (Write)

/-- One byte of the file: the locks so far and `prevChar`. 32 is the blank and 10 the newline. -/
def readChar (st : List Bytes × UInt8) (c : UInt8) : List Bytes × UInt8 :=
  let locks := if st.2 = 32 ∧ c ≠ 32 ∧ c ≠ 10 then st.1 ++ [[]] else st.1
  let locks := if c ≠ 32 ∧ c ≠ 10 then pushBack c locks else locks
  (locks, c)

def readLocks (file : Bytes) : List Bytes := (file.foldl readChar ([], 32)).1

/-- What the kernel shows in `/sys/power/wake_lock`. -/
def wakeLockFile (locks : List Bytes) : Bytes := List.intercalate [32] locks ++ [10]

/-- The kernel's list of locks after a write. -/
def applyWrite (locks : List Bytes) : Write → List Bytes
  | .lock name => if name ∈ locks then locks else locks ++ [name]
  | .unlock name => locks.filter (· ≠ name)

/-- The child handles a message of one line. -/
def carryOut (msg : Bytes) (locks : List Bytes) : List Bytes :=
  (LinuxKernelInhibitFork.handleMsg msg.dropLast []).2.foldl applyWrite locks

end LinuxKernelInhibitInterface

namespace SxmoInhibitInterface

/-- The tokens in the output of `sxmo_mutex.sh can_suspend list`. -/
def readTokens (output : Bytes) : List Bytes :=
  let tokens := output.foldl
    (fun tokens c => if c = 10 then tokens ++ [[]] else pushBack c tokens) [[]]
  let tokens := if tokens.getLast? = some [] then tokens.dropLast else tokens
  let tokens := tokens.filter (· ≠ lit "Playing with leds")
  tokens.filter (· ≠ lit "Checking some mutexes")

/-- The output of `sxmo_mutex.sh can_suspend list`. -/
def listOutput (tokens : List Bytes) : Bytes := tokens.flatMap (· ++ [10])

end SxmoInhibitInterface

/-! ## The two classes -/

/-- The values in which the two classes differ. -/
structure LockWatch (σ : Type) where
  overrides : Overrides σ
  ourInhibits : σ → Finset InhibitID
  /-- `idStruct->lockName` or `idStruct->token` -/
  name : InhibitID → Bytes
  mkId : Bytes → InhibitID
  /-- what the watcher reads while these locks are held -/
  read : List Bytes → List Bytes
  /-- whether a lock that is queued already counts as tracked -/
  checksQueue : Bool
  /-- whether own inhibits are left out when locks have been removed -/
  checksOurs : Bool
  /-- the id that is queued for an inhibit whose lock has been removed -/
  removedId : InhibitID → InhibitID
  /-- the commands for locks that were given so far -/
  commands : σ → List Bytes
  /-- what becomes of the locks when a command is carried out -/
  carryOut : Bytes → List Bytes → List Bytes
  /-- whether `doInhibit` enters its id into `ourInhibits` before it gives the command -/
  marksFirst : Bool
  /-- whether a call waits until its command has been carried out -/
  waits : Bool

def LinuxKernelInhibitInterface.lockWatch (instanceId : UInt64) : LockWatch LinuxKernelFields where
  overrides := overrides instanceId
  ourInhibits := LinuxKernelFields.ourInhibits
  name := lockName
  mkId := mkId instanceId
  read locks := readLocks (wakeLockFile locks)
  checksQueue := false
  checksOurs := true
  removedId id := mkId instanceId (lockName id)
  commands := LinuxKernelFields.written
  carryOut := carryOut
  marksFirst := true
  waits := false

/-- `script` is what `sxmo_mutex.sh` makes of its locks. -/
def SxmoInhibitInterface.lockWatch (instanceId : UInt64)
    (script : Bytes → List Bytes → List Bytes) : LockWatch SxmoFields where
  overrides := overrides { instanceId, ok := true }
  ourInhibits := SxmoFields.ourInhibits
  name := token
  mkId := mkId instanceId
  read locks := readTokens (listOutput locks)
  checksQueue := true
  checksOurs := false
  removedId id := id
  commands := SxmoFields.commands
  carryOut := script
  marksFirst := false
  waits := true

/-! ## The threads -/

/-- The interface, what the main loop is about to return from, the commands that are on their way,
the locks that are held, and what the watcher has read of them. -/
structure Watched (σ : Type) where
  world : Alone σ
  calling : Option (InhibitInterface σ) := none
  pending : List Bytes := []
  held : List Bytes := []
  locks : List Bytes := []
  registerQueue : List Inhibit := []
  unregisterQueue : List InhibitID := []

/-- A call of the daemon. -/
inductive LockCall where
  | inhibit (now : ℕ) (r : InhibitRequest)
  | unInhibit (id : InhibitID)

namespace LockWatch

inductive Event where
  /-- the daemon calls `inhibit` or `unInhibit`, up to the command that this gives -/
  | call (c : LockCall)
  /-- the call returns -/
  | returned
  /-- the next command is carried out -/
  | carryOut
  /-- other programs take and drop locks -/
  | others (locks : List Bytes)
  /-- the watcher reads the locks -/
  | snapshot
  /-- the watcher compares what it has read with what is active -/
  | compare (now : ℕ)
  /-- the main loop empties the queues -/
  | drain

variable {σ : Type} (C : LockWatch σ)

/-- What a call makes of the object. -/
def result (o : InhibitInterface σ) : LockCall → InhibitInterface σ
  | .inhibit now r => (InhibitInterface.inhibit C.overrides now r o).2
  | .unInhibit id => (InhibitInterface.unInhibit C.overrides id o).2

/-- The fields while the command of a call is on its way. -/
def during (o : InhibitInterface σ) : LockCall → σ
  | .inhibit now r => if C.marksFirst then (C.result o (.inhibit now r)).sub else o.sub
  | .unInhibit id => (C.result o (.unInhibit id)).sub

/-- The body of the first loop of the watcher: `queue` is `registerQueue` so far. -/
def track (now : ℕ) (o : InhibitInterface σ) (queue : List Inhibit) (lock : Bytes) :
    List Inhibit :=
  let lock := CStruct.cstr lock
  let exists' := o.activeInhibits.keys.any (fun id => C.name id = lock) ||
    (C.checksQueue && queue.any fun r => C.name r.id = lock)
  if !exists' && !decide (C.mkId lock ∈ C.ourInhibits o.sub) then
    queue ++ [{ type := InhibitType.SUSPEND, appname := lit "unknown-app", reason := lock,
                id := C.mkId lock, created := now }]
  else queue

/-- What the second loop of the watcher finds removed. -/
def removed (locks : List Bytes) (o : InhibitInterface σ) : List InhibitID :=
  o.activeInhibits.keys.filter fun id =>
    !locks.any (fun lock => C.name id = CStruct.cstr lock) &&
      !(C.checksOurs && decide (id ∈ C.ourInhibits o.sub))

/-- `for (auto& r : registerQueue) this->registerInhibit(r)` -/
def registerAll (queue : List Inhibit) (w : Alone σ) : Alone σ :=
  queue.foldl (fun w r => (Alone.this.registerInhibit C.overrides Alone.callbacks r w).2) w

/-- `for (auto& r : unregisterQueue) this->registerUnInhibit(r)` -/
def unregisterAll (queue : List InhibitID) (w : Alone σ) : Alone σ :=
  queue.foldl (fun w id => (Alone.this.registerUnInhibit C.overrides Alone.callbacks id w).2) w

def step (s : Watched σ) : Event → Watched σ
  | .call c =>
    let o := s.world.obj
    { s with
      world := { s.world with obj := { o with sub := C.during o c } }
      calling := some (C.result o c)
      pending := s.pending ++ (C.commands (C.result o c).sub).drop (C.commands o.sub).length }
  | .returned =>
    match s.calling with
    | none => s
    | some o => { s with world := { s.world with obj := o }, calling := none }
  | .carryOut =>
    match s.pending with
    | [] => s
    | cmd :: pending => { s with held := C.carryOut cmd s.held, pending }
  | .others locks => { s with held := locks }
  | .snapshot => { s with locks := C.read s.held }
  | .compare now =>
    let o := s.world.obj
    { s with
      registerQueue := s.locks.foldl (C.track now o) s.registerQueue
      unregisterQueue := s.unregisterQueue ++ (C.removed s.locks o).map C.removedId }
  | .drain =>
    { s with
      world := C.unregisterAll s.unregisterQueue (C.registerAll s.registerQueue s.world)
      registerQueue := []
      unregisterQueue := [] }

/-- The main loop does one thing at a time. -/
def InTurn (s : Watched σ) : Event → Prop
  | .call _ => s.calling = none
  | .returned => C.waits → s.pending = []
  | .drain => s.calling = none
  | _ => True

end LockWatch

end UnifiedInhibit
