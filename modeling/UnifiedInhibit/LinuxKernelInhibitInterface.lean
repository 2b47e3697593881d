import UnifiedInhibit.Fork
import UnifiedInhibit.InhibitInterface

/-!
# `LinuxKernelInhibitInterface` and `LinuxKernelInhibitFork`

`src/InhibitInterface/LinuxKernelInhibitInterface.cpp` and `src/Fork/LinuxKernelInhibitFork.cpp`:
kernel wakelocks, which a privileged child takes and drops. The constructors, `childSetup` and the
watcher thread are not modelled.
-/

namespace UnifiedInhibit

namespace LinuxKernelInhibitFork

/-- `'\t'` -/
def tab : UInt8 := 9

/-- A name written to `wake_lock` or to `wake_unlock`. -/
inductive Write where
  | lock (name : Bytes)
  | unlock (name : Bytes)
deriving DecidableEq

/-- A string without its spaces. -/
def strip (s : Bytes) : Bytes := s.filter (· ≠ 32)

/-- `handleMsg`. The `front` of an empty string is its terminating NUL. -/
def handleMsg (msg : Bytes) (writes : List Write) : Outcome (List Write) Unit :=
  if msg.length = 0 then (.ok (), writes)
  else
    let msg := strip msg
    if msg.headD 0 = tab then (.ok (), writes ++ [.unlock (msg.drop 1)])
    else (.ok (), writes ++ [.lock msg])

end LinuxKernelInhibitFork

/-- The ids of the daemon's own inhibits, and the messages written for the child. -/
structure LinuxKernelFields where
  ourInhibits : Finset InhibitID := ∅
  written : List Bytes := []

namespace LinuxKernelInhibitInterface

open LinuxKernelInhibitFork (tab strip)
open NewlineMessageFork (newline)

/-- `sizeof(idStruct.lockName)` -/
def lockNameSize : ℕ := 1024

/-- `mkId`: the structure {instance id, lock name} as bytes. -/
def mkId (instanceId : UInt64) (lockName : Bytes) : InhibitID :=
  let cleanLockName := strip (CStruct.cstr lockName)
  CStruct.leBytes 8 instanceId.toNat ++ (CStruct.strncpy (lockNameSize - 1) cleanLockName ++ [0])

/-- `idStruct->lockName` -/
def lockName (id : InhibitID) : Bytes := CStruct.cstr (id.drop 8)

/-- `appname-reason` -/
def requestName (appname reason : Bytes) : Bytes := appname ++ lit "-" ++ reason

variable (instanceId : UInt64)

def doInhibit (now : ℕ) (r : InhibitRequest) (s : LinuxKernelFields) :
    Outcome LinuxKernelFields Inhibit :=
  if r.type &&& InhibitType.SUSPEND = InhibitType.NONE then (.error .unsupportedType, s)
  else
    let id := mkId instanceId (requestName r.appname r.reason)
    (.ok { type := InhibitType.SUSPEND, appname := r.appname, reason := r.reason, id,
           created := now },
      { ourInhibits := insert id s.ourInhibits
        written := s.written ++ [requestName r.appname r.reason ++ [newline]] })

def doUnInhibit (b : Base) (id : InhibitID) (s : LinuxKernelFields) :
    Outcome LinuxKernelFields Unit :=
  match b.activeInhibits[id]? with
  | none => (.ok (), s)
  | some r =>
    let id := mkId instanceId (requestName r.appname r.reason)
    (.ok (), { ourInhibits := s.ourInhibits.erase id
               written := s.written ++ [[tab] ++ requestName r.appname r.reason ++ [newline]] })

def overrides : Overrides LinuxKernelFields where
  doInhibit := doInhibit instanceId
  doUnInhibit := doUnInhibit instanceId

end LinuxKernelInhibitInterface

end UnifiedInhibit
