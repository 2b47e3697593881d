import UnifiedInhibit.DBusOwners
import UnifiedInhibit.SystemdInhibitFork

/-!
# `SystemdInhibitInterface`

`src/InhibitInterface/SystemdInhibitInterface.cpp`: login1. The id of an inhibit is a descriptor
number. In monitor mode the requests of the daemon go through the child, which reads each message
as soon as it is written, in pieces of at most 1024 bytes; a message to a child that has ended is
lost. `ListInhibitors`, `Get` and `Introspect` follow in `SystemdInhibitQueries`.
-/

namespace UnifiedInhibit

open DBus (Arg Message)

/-- A thread that waits for the release of a client's inhibit; in implementation mode it then
removes the FIFO `file`. -/
structure ReleaseThread where
  inhibit : Inhibit
  file : Option Bytes

/-- The fields of the class, the open descriptors of the process with those that messages own, the
paths it has unlinked, its release threads, the messages sent, and the child. -/
structure SystemdFields where
  fds : Descriptors Bytes := ∅
  lastLockRef : UInt64 := 0
  pidUids : StdMap InhibitID (UInt32 × UInt32) := ∅
  releaseThreads : List ReleaseThread := []
  releaseQueue : List Inhibit := []
  unlinked : List Bytes := []
  sent : List Sent := []
  fork : NewlineMessageFork.Child SystemdInhibitFork.State := { state := {} }

/-- What stays fixed. `padding` are the bytes behind `fd` in the id structure, and `behind` those
behind `buf` in the memory of the child. -/
structure SystemdConfig where
  instanceId : UInt64
  monitor : Bool
  forkSender : Bytes
  padding : Bytes := [0, 0, 0, 0]
  behind : Bytes := []
  login1 : Login1

/-- Which steps of setting up a FIFO succeed. -/
structure FifoSetup where
  mkfifo : Bool := true
  openRead : Bool := true
  openWrite : Bool := true

structure LockRef where
  rfd : ℕ
  wfd : ℕ
  file : Bytes

namespace SystemdInhibitInterface

open SystemdInhibitFork (tab)
open NewlineMessageFork (newline)

/-! ## Types and ids -/

def systemdType2us (what : Bytes) : InhibitType :=
  (what.splitOn 58).foldl (fun t str =>
    let t := if str = lit "idle" then t ||| InhibitType.SCREENSAVER else t
    if str = lit "sleep" then t ||| InhibitType.SUSPEND else t) InhibitType.NONE

/-- The strings of the set `whats`, in order, with a colon between them. -/
def us2systemdType (t : InhibitType) : Bytes :=
  let idle := t.has InhibitType.SCREENSAVER || t.has InhibitType.SUSPEND
  let sleep := t.has InhibitType.SUSPEND
  List.intercalate [58] ((if idle then [lit "idle"] else []) ++ if sleep then [lit "sleep"] else [])

/-- `mkId`: the structure {instance id, fd} as bytes. -/
def mkId (cfg : SystemdConfig) (fd : ℤ) : InhibitID :=
  CStruct.leBytes 8 cfg.instanceId.toNat ++ CStruct.leBytes 4 (fd % 2 ^ 32).toNat ++ cfg.padding

/-- `idStruct->fd`, as an `int32_t` -/
def fdOf (id : InhibitID) : ℤ :=
  (CStruct.leValue ((id.drop 8).take 4) : ℤ).bmod (2 ^ 32)

/-! ## Arguments -/

/-- `DBUS_TYPE_STRING` four times -/
def fourStrings : List Arg → Option (Bytes × Bytes × Bytes × Bytes)
  | .string what :: .string who :: .string why :: .string mode :: _ => some (what, who, why, mode)
  | _ => none

/-- `DBUS_TYPE_UNIX_FD` -/
def oneUnixFd : List Arg → Option Bytes
  | .unixFd file :: _ => some file
  | _ => none

/-! ## Lock references -/

/-- `newLockRef`: a FIFO that is open on both ends. Where a step fails, what is open stays so. -/
def newLockRef (setup : FifoSetup) (s : SystemdFields) : Outcome SystemdFields LockRef :=
  let lastLockRef := s.lastLockRef + 1
  let file := lit "/tmp/uinhibitd-systemd-inhibits/inhibit" ++
    Decimal.toString lastLockRef.toNat ++ lit ".ref"
  let s := { s with lastLockRef, unlinked := s.unlinked ++ [file] }
  let (rfd, fds) := if setup.openRead then Descriptors.openFd s.fds file else (0, s.fds)
  let (wfd, fds) := if setup.openWrite then Descriptors.openFd fds file else (0, fds)
  let s := { s with fds }
  if setup.mkfifo && setup.openRead && setup.openWrite then (.ok { rfd, wfd, file }, s)
  else (.error (.std "Failed to set up fifo."), s)

/-! ## The child -/

variable (cfg : SystemdConfig)

/-- `inhibitFork->tx`. The child reads the message and handles it. -/
def forkTx (str : Bytes) (s : SystemdFields) : SystemdFields :=
  let read := NewlineMessageFork.step (SystemdInhibitFork.handleMsg cfg.login1)
  { s with fork := Transition.run read s.fork (Fork.rxAll cfg.behind str) }

/-- `inhibitFork->rx`. It waits until the child has written something or has ended. -/
def forkRx (s : SystemdFields) : Outcome SystemdFields Bytes :=
  let out := s.fork.state.out
  if out = [] ∧ s.fork.exn = none then (.error .hang, s)
  else (.ok (Fork.rx { got := out.take Fork.bufSize }),
    { s with fork.state.out := out.drop Fork.bufSize })

/-- The text of a request for the child. -/
def inhibitMessage (r : InhibitRequest) : Bytes :=
  us2systemdType r.type ++ [tab] ++ r.appname ++ [tab] ++ r.reason ++ [tab] ++ lit "block" ++
    [newline]

/-! ## Virtual methods -/

def doInhibit (setup : FifoSetup) (now : ℕ) (r : InhibitRequest) (s : SystemdFields) :
    Outcome SystemdFields Inhibit :=
  if r.type &&& InhibitType.SUSPEND = InhibitType.NONE ∧
      r.type &&& InhibitType.SCREENSAVER = InhibitType.NONE then (.error .unsupportedType, s)
  else
    let (fd, s) : Outcome SystemdFields ℤ :=
      if cfg.monitor then
        match forkRx (forkTx cfg (inhibitMessage r) s) with
        | (.error e, s) => (.error e, s)
        | (.ok str, s) => (.ok ((Decimal.atol str).bmod (2 ^ 32)), s)
      else
        match newLockRef setup s with
        | (.error e, s) => (.error e, s)
        | (.ok lockRef, s) => (.ok lockRef.rfd, { s with fds := s.fds.erase lockRef.wfd })
    match fd with
    | .error e => (.error e, s)
    | .ok fd => (.ok { r with id := mkId cfg fd, created := now }, s)

def doUnInhibit (_b : Base) (id : InhibitID) (s : SystemdFields) : Outcome SystemdFields Unit :=
  let fd := fdOf id
  if cfg.monitor then (.ok (), forkTx cfg (Decimal.toString fd ++ [newline]) s)
  else
    match if fd < 0 then none else s.fds[fd.toNat]? with
    | some file =>
      (.ok (), if file.length > 0 then { s with unlinked := s.unlinked ++ [file] } else s)
    | none => (.ok (), s)

def overrides (setup : FifoSetup) : Overrides SystemdFields where
  doInhibit := doInhibit cfg setup
  doUnInhibit := doUnInhibit cfg

/-! ## Messages, threads and `poll` -/

section Handlers

variable {W : Type} (this : This W SystemdFields) (v : Overrides SystemdFields)
  (cb : Callbacks W)

/-- `handleInhibitMsg`. `pidUid` is what the bus knows about the sender, and `readable` says whether
`readlink` can read the received descriptor. -/
def handleInhibitMsg (setup : FifoSetup) (now : ℕ) (pidUid : Option (UInt32 × UInt32))
    (readable : Bool) (msg : Message) (ret : Option Message) (w : W) : Outcome W Unit :=
  if msg.sender = cfg.forkSender then (.ok (), w)
  else
    match msg.getArgs fourStrings with
    | .error e => (.error e, w)
    | .ok (what, who, why, _mode) =>
      if why = lit "user session inhibited" then (.ok (), w)
      else
        match ret, cfg.monitor with
        | some ret, true =>
          match ret.getArgs oneUnixFd with
          | .error e => (.error e, w)
          | .ok file =>
            -- the descriptor of the reply is duplicated, and stays with the reply
            let (fd, fds) := Descriptors.openFd (this.get w).sub.fds file
            let w := this.modifySub (fun s => { s with fds }) w
            let i : Inhibit := { type := systemdType2us what, appname := who, reason := why,
                                 id := mkId cfg fd, created := now }
            match this.registerInhibit v cb i w with
            | (.error e, w) => (.error e, w)
            | (.ok (), w) =>
              let w := this.modifySub (fun s => { s with fds := s.fds.erase fd }) w
              (.ok (), if readable then this.modifySub (fun s =>
                { s with releaseThreads := s.releaseThreads ++ [⟨i, none⟩] }) w else w)
        | _, _ =>
          match newLockRef setup (this.get w).sub with
          | (.error e, s) => (.error e, this.modifySub (fun _ => s) w)
          | (.ok lockRef, s) =>
            let id := mkId cfg lockRef.wfd
            let w := this.modifySub (fun _ => { s with
              pidUids := match pidUid with
                | some p => s.pidUids.insert id p
                | none => s.pidUids
              sent := s.sent ++ [.methodReturn msg [.unixFd lockRef.file]]
              fds := s.fds.erase lockRef.wfd }) w
            let i : Inhibit :=
              { type := systemdType2us what, appname := who, reason := why, id }
            match this.registerInhibit v cb i w with
            | (.error e, w) => (.error e, w)
            | (.ok (), w) => (.ok (), this.modifySub (fun s =>
              { s with releaseThreads := s.releaseThreads ++ [⟨i, some lockRef.file⟩] }) w)

/-- The end of `releaseThread` and of `releaseThreadOurFd`. -/
def release (k : ℕ) (s : SystemdFields) : SystemdFields :=
  match s.releaseThreads[k]? with
  | none => s
  | some t =>
    { s with
      releaseThreads := s.releaseThreads.eraseIdx k
      releaseQueue := s.releaseQueue ++ [t.inhibit]
      unlinked := s.unlinked ++ t.file.toList }

/-- The loop of `poll` -/
def pollQueue : List Inhibit → W → Outcome W Unit
  | [], w => (.ok (), w)
  | r :: rs, w =>
    let w := this.modifySub (fun s => { s with pidUids := s.pidUids.erase r.id }) w
    match this.registerUnInhibit v cb r.id w with
    | (.error e, w) => (.error e, w)
    | (.ok (), w) => pollQueue rs w

def poll (w : W) : Outcome W Unit :=
  match pollQueue this v cb (this.get w).sub.releaseQueue w with
  | (.error e, w) => (.error e, w)
  | (.ok (), w) => (.ok (), this.modifySub (fun s => { s with releaseQueue := [] }) w)

end Handlers

end SystemdInhibitInterface

end UnifiedInhibit
