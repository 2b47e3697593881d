import UnifiedInhibit.Lib.Decimal
import UnifiedInhibit.SimActivity

/-!
# `CinnamonScreenSaverInhibitInterface`

`src/InhibitInterface/CinnamonScreenSaverInhibitInterface.cpp`: all inhibits come from
`SimulateUserActivity` and expire. In monitor mode a forwarded inhibit is kept alive by a thread
that calls `SimulateUserActivity` every minute until it is asked to stop.

The threads are numbered in the order they are started; what they send is not modelled.
-/

namespace UnifiedInhibit

open DBus (Arg Message Dispatcher MethodCB)

/-- The fields of the class, the number of threads started, the threads asked to stop, and the
messages sent. -/
structure CinnamonFields where
  inhibitOwners : StdMap Bytes (List InhibitID) := ∅
  lastUsInhibit : UInt32 := 0
  simThreads : StdMap Bytes ℕ := ∅
  started : ℕ := 0
  stopRequested : List ℕ := []
  sent : List Sent := []

/-- What stays fixed. `doctype` is libdbus's `DBUS_INTROSPECT_1_0_XML_DOCTYPE_DECL_NODE`. -/
structure CinnamonConfig where
  instanceId : UInt64
  monitor : Bool
  doctype : String := ""

namespace CinnamonScreenSaverInhibitInterface

def INTERFACE : String := "org.cinnamon.ScreenSaver"
def PATH : String := "/org/cinnamon/ScreenSaver"
def RELPATH : String := "org/cinnamon/ScreenSaver"

/-- `sizeof(idStruct.sender)` -/
def senderSize : ℕ := 1024

variable (cfg : CinnamonConfig)

/-- `mkId`: the structure {instance id, sender} as bytes. The terminating NUL of a sender that
fills the whole array lands behind the structure. -/
def mkId (sender : Bytes) : InhibitID :=
  let idStruct := CStruct.leBytes 8 cfg.instanceId.toNat ++ List.replicate senderSize 0
  let size := if sender.length > senderSize then senderSize else sender.length
  let idStruct := CStruct.overwrite idStruct 8 (CStruct.strncpy size sender)
  if size > 0 then idStruct.set (8 + size) 0 else idStruct

/-- `idStruct->sender`, up to its NUL -/
def senderOf (id : InhibitID) : Bytes := CStruct.cstr (id.drop 8)

/-! ## Threads -/

/-- `simThreads.emplace(sender, …)`. The thread is started before the key is looked up; if there is
a thread of that sender, the new one is destroyed, which asks it to stop. -/
def emplaceThread (sender : Bytes) (s : CinnamonFields) : CinnamonFields :=
  { s with
    started := s.started + 1
    simThreads := s.simThreads.insertIfNew sender s.started
    stopRequested := s.stopRequested ++ if sender ∈ s.simThreads then [s.started] else [] }

/-- The thread goes on sending. -/
def Running (s : CinnamonFields) (thread : ℕ) : Prop :=
  thread < s.started ∧ thread ∉ s.stopRequested

/-! ## Virtual methods -/

def doInhibit (now : ℕ) (r : InhibitRequest) (s : CinnamonFields) :
    Outcome CinnamonFields Inhibit :=
  if r.type &&& InhibitType.SCREENSAVER = InhibitType.NONE then (.error .unsupportedType, s)
  else
    let s := { s with lastUsInhibit := s.lastUsInhibit + 1 }
    let sender := lit "us" ++ Decimal.toString s.lastUsInhibit.toNat
    let s := if cfg.monitor then emplaceThread sender s else s
    (.ok { r with type := InhibitType.SCREENSAVER, id := mkId cfg sender, created := now }, s)

def doUnInhibit (_b : Base) (id : InhibitID) (s : CinnamonFields) : Outcome CinnamonFields Unit :=
  if cfg.monitor then
    match s.simThreads[senderOf id]? with
    | none => (.ok (), s)
    | some thread =>
      (.ok (), { s with
        stopRequested := s.stopRequested ++ [thread]
        simThreads := s.simThreads.erase (senderOf id) })
  else (.ok (), s)

def overrides : Overrides CinnamonFields where
  doInhibit := doInhibit cfg
  doUnInhibit := doUnInhibit cfg

/-! ## Messages and `poll` -/

def simActivity : SimActivity CinnamonFields where
  monitor := cfg.monitor
  inhibitType := InhibitType.SCREENSAVER
  mkId := mkId cfg
  isSim _ := true
  sender := senderOf
  inhibitOwners s := s.inhibitOwners
  setInhibitOwners m s := { s with inhibitOwners := m }
  sendReturn msg s := { s with sent := s.sent ++ [.methodReturn msg []] }

/-- The answer to `Introspect` at `/`. -/
def rootXml : String :=
  cfg.doctype ++
    "<node name='/'>" ++
    "  <node name='" ++ RELPATH ++ "' />" ++
    "</node>"

/-- The answer to `Introspect` at `PATH`. -/
def interfaceXml : String :=
  cfg.doctype ++
    "<node name='" ++ RELPATH ++ "'>" ++
    "  <interface name=\"" ++ INTERFACE ++ "\">" ++
    "    <method name='SimulateUserActivity' />" ++
    "  </interface>" ++
    "</node>"

section Handlers

variable {W : Type} (this : This W CinnamonFields) (cb : Callbacks W)

def handleSimActivityMsg (now : ℕ) : Message → Option Message → W → Outcome W Unit :=
  (simActivity cfg).handleSimActivityMsg this (overrides cfg) cb now

def handleIntrospect (msg : Message) (_ret : Option Message) (w : W) : Outcome W Unit :=
  if cfg.monitor then (.ok (), w)
  else match msg.destination with
    | none => (.error (.std "basic_string: construction from null is not valid"), w)
    | some destination =>
      if destination ≠ lit INTERFACE then (.ok (), w)
      else
        let answer (path : String) (xml : String) : List Sent :=
          if msg.path = lit path then [.methodReturn msg [.string (lit xml)]] else []
        let sent := answer "/" (rootXml cfg) ++ answer PATH (interfaceXml cfg)
        (.ok (), this.modifySub (fun s => { s with sent := s.sent ++ sent }) w)

def poll (now : ℕ) : W → Outcome W Unit := (simActivity cfg).poll this (overrides cfg) cb now

/-- The tables the constructor passes on. -/
def dispatcher (mName mName2 : Bytes) (now : ℕ) : Dispatcher W where
  monitor := cfg.monitor
  mName := mName
  mName2 := mName2
  myMethods :=
    [⟨INTERFACE, "SimulateUserActivity", handleSimActivityMsg cfg this cb now⟩,
      ⟨"org.freedesktop.DBus.Introspectable", "Introspect", handleIntrospect cfg this⟩]
  mySignals := []

end Handlers

end CinnamonScreenSaverInhibitInterface

end UnifiedInhibit
