import UnifiedInhibit.SystemdInhibitInterface

/-!
# The method table of `SystemdInhibitInterface`

`src/InhibitInterface/SystemdInhibitInterface.cpp`: `ListInhibitors`, `Get` and `Introspect`, and
the table the constructor passes on.
-/

namespace UnifiedInhibit
namespace SystemdInhibitInterface

open DBus (Arg Message Dispatcher)

def INTERFACE : String := "org.freedesktop.login1.Manager"
def DBUSNAME : String := "org.freedesktop.login1"

/-- `DBus::NameHasNoOwnerError` -/
def nameHasNoOwner : Exn := .dbus "org.freedesktop.DBus.Error.NameHasNoOwner"

/-- The answer to `Introspect` at `/`. -/
def rootXml (doctype : String) : String :=
  doctype ++
    "<node name='/'>" ++
    "  <node name='org/freedesktop/login1' />" ++
    "</node>"

/-- The answer to `Introspect` at `/org/freedesktop/login1`. -/
def managerXml (doctype : String) : String :=
  doctype ++
    "<node name='org/freedesktop/login1'>" ++
    "  <interface name='" ++ INTERFACE ++ "'>" ++
    "    <method name='Inhibit'>" ++
    "      <arg name='what' type='s' direction='in'/>" ++
    "      <arg name='who' type='s' direction='in'/>" ++
    "      <arg name='why' type='s' direction='in'/>" ++
    "      <arg name='mode' type='s' direction='in'/>" ++
    "      <arg name='fd' type='h' direction='out'/>" ++
    "    </method>" ++
    "    <method name='ListInhibitors'>" ++
    "      <arg name='inhibitor_list' type='a(ssssuu)' direction='out'/>" ++
    "    </method>" ++
    "    <property name='BlockInhibited' type='s' access='read'/>" ++
    "  </interface>" ++
    "</node>"

section Handlers

variable (cfg : SystemdConfig) {W : Type} (this : This W SystemdFields) (cb : Callbacks W)

def send (msgs : List Sent) (w : W) : W :=
  this.modifySub (fun s => { s with sent := s.sent ++ msgs }) w

/-- `handleInhibitMsg`, where `creds` is the answer of the bus to `senderPID` and `senderUID`. Only
a `NameHasNoOwnerError` is caught there. -/
def handleInhibitMsgAsking (setup : FifoSetup) (now : ℕ) (creds : Except Exn (UInt32 × UInt32))
    (readable : Bool) (msg : Message) (ret : Option Message) (w : W) : Outcome W Unit :=
  let handle (pidUid : Option (UInt32 × UInt32)) : Outcome W Unit :=
    handleInhibitMsg cfg this (overrides cfg setup) cb setup now pidUid readable msg ret w
  match creds with
  | .ok pidUid => handle (some pidUid)
  | .error e =>
    if e = nameHasNoOwner then handle none
    else if ret.isSome && cfg.monitor then
      -- here the bus is not asked
      handle none
    else if msg.sender = cfg.forkSender then (.ok (), w)
    else
      match msg.getArgs fourStrings with
      | .error e => (.error e, w)
      | .ok (_what, _who, why, _mode) =>
        if why = lit "user session inhibited" then (.ok (), w)
        else
          match newLockRef setup (this.get w).sub with
          | (.error e, s) => (.error e, this.modifySub (fun _ => s) w)
          | (.ok _lockRef, s) => (.error e, this.modifySub (fun _ => s) w)

/-- `handleListInhibitorsMsg`. The pointer to the types of an inhibit is read when the string it
points into is gone; `what` is what is found there. -/
def handleListInhibitorsMsg (what : InhibitID → Bytes) (msg : Message) (_ret : Option Message)
    (w : W) : Outcome W Unit :=
  if cfg.monitor then (.ok (), w)
  else
    let active := (this.get w).activeInhibits.toList
    -- `pidUids[id]` makes an entry where there is none
    let w := this.modifySub (fun s => { s with
      pidUids := active.foldl (fun m p => m.insertIfNew p.1 (0, 0)) s.pidUids }) w
    let pidUids := (this.get w).sub.pidUids
    let list := active.map fun p =>
      let (pid, uid) := (pidUids[p.1]?).getD (0, 0)
      (what p.1, p.2.appname, p.2.reason, lit "block", uid, pid)
    (.ok (), send this [.methodReturn msg [.inhibitorList list]] w)

def handleGetProperty (msg : Message) (_ret : Option Message) (w : W) : Outcome W Unit :=
  if cfg.monitor then (.ok (), w)
  else
    match msg.getArgs twoStrings with
    | .error e => (.error e, w)
    | .ok (interface, property) =>
      if interface = lit INTERFACE ∧ property = lit "BlockInhibited" then
        let what := us2systemdType (this.get w).inhibited
        (.ok (), send this [.methodReturn msg [.string what]] w)
      else (.ok (), w)

def handleIntrospect (doctype : String) (msg : Message) (_ret : Option Message) (w : W) :
    Outcome W Unit :=
  if cfg.monitor then (.ok (), w)
  else match msg.destination with
    | none => (.error (.std "basic_string: construction from null is not valid"), w)
    | some destination =>
      if destination ≠ lit DBUSNAME then (.ok (), w)
      else
        let answer (path : String) (xml : String) : List Sent :=
          if msg.path = lit path then [.methodReturn msg [.string (lit xml)]] else []
        (.ok (), send this
          (answer "/" (rootXml doctype) ++ answer "/org/freedesktop/login1" (managerXml doctype)) w)

/-- The tables the constructor passes on. The arguments from `setup` on are what the next message
meets. -/
def dispatcher (doctype : String) (mName mName2 : Bytes) (setup : FifoSetup) (now : ℕ)
    (creds : Except Exn (UInt32 × UInt32)) (readable : Bool) (what : InhibitID → Bytes) :
    Dispatcher W where
  monitor := cfg.monitor
  mName := mName
  mName2 := mName2
  myMethods :=
    [⟨INTERFACE, "Inhibit", handleInhibitMsgAsking cfg this cb setup now creds readable⟩,
     ⟨INTERFACE, "ListInhibitors", handleListInhibitorsMsg cfg this what⟩,
     ⟨"org.freedesktop.DBus.Properties", "Get", handleGetProperty cfg this⟩,
     ⟨"org.freedesktop.DBus.Introspectable", "Introspect", handleIntrospect cfg this doctype⟩]
  mySignals := []

end Handlers

end SystemdInhibitInterface
end UnifiedInhibit
