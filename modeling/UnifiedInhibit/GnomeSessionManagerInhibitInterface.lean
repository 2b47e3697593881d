import UnifiedInhibit.DBusOwners

/-!
# `GnomeSessionManagerInhibitInterface`

`src/InhibitInterface/GnomeSessionManagerInhibitInterface.cpp`: `Inhibit` and `Uninhibit` with
owner tracking, and the queries about what is inhibited.
-/

namespace UnifiedInhibit
namespace GnomeSessionManagerInhibitInterface

open DBus (Arg Message Dispatcher MethodCB SignalCB)
open OwnerHandlers (QueryMethod)

def INTERFACE : String := "org.gnome.SessionManager"
def PATH : String := "/org/gnome/SessionManager"

/-! ## Flags -/

/-- `enum GnomeInhibitType`, used as a set of bit flags. -/
abbrev GnomeInhibitType := UInt32

namespace GnomeInhibitType

def NONE : GnomeInhibitType := 0
def SUSPEND : GnomeInhibitType := 4
def SESSIONIDLE : GnomeInhibitType := 8

end GnomeInhibitType

/-- What this daemon makes of the flags of a request; the other bits of the mask are dropped. -/
def gnomeType2us (gnomeInhibitType : GnomeInhibitType) : InhibitType :=
  (if gnomeInhibitType &&& GnomeInhibitType.SUSPEND > 0 then InhibitType.SUSPEND
    else InhibitType.NONE) |||
  (if gnomeInhibitType &&& GnomeInhibitType.SESSIONIDLE > 0 then InhibitType.SCREENSAVER
    else InhibitType.NONE)

/-- The flags that a type stands for. -/
def us2gnomeType (us : InhibitType) : GnomeInhibitType :=
  (if us.has InhibitType.SUSPEND then GnomeInhibitType.SUSPEND else GnomeInhibitType.NONE) |||
  (if us.has InhibitType.SCREENSAVER then GnomeInhibitType.SESSIONIDLE
    else GnomeInhibitType.NONE)

/-! ## Inhibitor objects -/

/-- `std::to_string` of a cookie. -/
def cookieString (id : InhibitID) : String := toString (OwnerId.cookie id).toNat

def isdigit (c : UInt8) : Bool := 48 ≤ c && c ≤ 57

/-- The digits behind the last slash, through `std::stoi`, which throws beyond the range of
`int`. -/
def inhibitorPathToCookie (path : Bytes) : Except Exn UInt32 :=
  let buf := path.foldl (fun buf c =>
    let buf := if c = 47 then [] else buf
    if isdigit c then buf ++ [c] else buf) []
  if buf = [] then .ok 0
  else
    let n := buf.foldl (fun (n : ℕ) c => 10 * n + (c.toNat - 48)) 0
    if n ≤ 2147483647 then .ok n.toUInt32 else .error (.std "stoi")

/-- The first active inhibit with the cookie, whoever owns it. -/
def inhibitFromCookie (cookie : UInt32) (b : Base) : Except Exn Inhibit :=
  match b.activeInhibits.toList.find? (fun p => cookie = OwnerId.cookie p.2.id) with
  | some (_, inhibit) => .ok inhibit
  | none => .error .notFound

/-! ## Queries -/

variable (cfg : OwnerConfig)

/-- `IsInhibited`: whether a type that the flags stand for is active. -/
def handleIsInhibitedMsg (msg : Message) (b : Base) : Except Exn (List Sent) :=
  if cfg.monitor then .ok []
  else match msg.getArgs oneUInt32 with
    | .error e => .error e
    | .ok flags =>
      .ok [.methodReturn msg [.boolean ((gnomeType2us flags).has b.inhibited)]]

/-- The paths of the inhibitor objects, in the order of the ids. -/
def handleGetInhibitors (msg : Message) (b : Base) : Except Exn (List Sent) :=
  if cfg.monitor then .ok []
  else .ok [.methodReturn msg [.objectPaths (b.activeInhibits.toList.map fun p =>
    lit (PATH ++ "/Inhibitor" ++ cookieString p.2.id))]]

/-- What the three handlers of inhibitor objects have in common: `read` of the inhibit that the
path names, or `default` if there is none. -/
def handleInhibitor (read : Inhibit → Arg) (default : Arg) (msg : Message) (b : Base) :
    Except Exn (List Sent) :=
  if cfg.monitor then .ok []
  else match inhibitorPathToCookie msg.path with
    | .error e => .error e
    | .ok cookie =>
      match inhibitFromCookie cookie b with
      | .ok inhibit => .ok [.methodReturn msg [read inhibit]]
      | .error .notFound => .ok [.methodReturn msg [default]]
      | .error e => .error e

/-- An unknown inhibitor object has no flags. -/
def handleGetFlags : Message → Base → Except Exn (List Sent) :=
  handleInhibitor cfg (fun i => .uint32 (us2gnomeType i.type)) (.uint32 0)

/-- An unknown inhibitor object has an empty application id. -/
def handleGetAppID : Message → Base → Except Exn (List Sent) :=
  handleInhibitor cfg (fun i => .string i.appname) (.string [])

/-- An unknown inhibitor object has an empty reason. -/
def handleGetReason : Message → Base → Except Exn (List Sent) :=
  handleInhibitor cfg (fun i => .string i.reason) (.string [])

/-- Only the property `InhibitedActions` is answered. -/
def handleGetProperty (msg : Message) (b : Base) : Except Exn (List Sent) :=
  if cfg.monitor then .ok []
  else match msg.getArgs twoStrings with
    | .error e => .error e
    | .ok (interface, property) =>
      if interface = lit INTERFACE ∧ property = lit "InhibitedActions" then
        .ok [.methodReturn msg [.uint32 (us2gnomeType b.inhibited)]]
      else .ok []

/-- The answer to `Introspect` at `/`. -/
def rootXml : String :=
  cfg.doctype ++
    "<node name='/'>" ++
    "  <node name='org/gnome/SessionManager' />" ++
    "</node>"

/-- The answer to `Introspect` at `PATH`. -/
def managerXml (b : Base) : String :=
  cfg.doctype ++
    "<node name='" ++ PATH ++ "'>" ++
    "  <interface name='" ++ INTERFACE ++ "'>" ++
    "    <method name='Inhibit'>" ++
    "      <arg type='s' name='app_id' direction='in'/>" ++
    "      <arg type='u' name='toplevel_xid' direction='in'/>" ++
    "      <arg type='s' name='reason' direction='in'/>" ++
    "      <arg type='u' name='flags' direction='in'/>" ++
    "      <arg type='u' name='inhibit_cookie' direction='out'/>" ++
    "    </method>" ++
    "    <method name='Uninhibit'>" ++
    "      <arg type='u' name='inhibit_cookie' direction='in'/>" ++
    "    </method>" ++
    "    <method name='IsInhibited'>" ++
    "      <arg type='u' name='flags' direction='in'/>" ++
    "      <arg type='b' name='is_inhibited' direction='out'/>" ++
    "    </method>" ++
    "    <method name='GetInhibitors'>" ++
    "      <arg name='inhibitors' direction='out' type='ao'/>" ++
    "    </method>" ++
    "    <signal name='InhibitorAdded'>" ++
    "      <arg name='id' type='o'/>" ++
    "    </signal>" ++
    "    <signal name='InhibitorRemoved'>" ++
    "      <arg name='id' type='o'/>" ++
    "    </signal>" ++
    "    <property name='InhibitedActions' type='u' access='read'/>" ++
    "  </interface>" ++
    "  <node name='InhibitorXXXX'/>" ++
    String.join (b.activeInhibits.toList.map fun p =>
      "<node name='Inhibitor" ++ cookieString p.2.id ++ "'/>") ++
    "</node>"

/-- The answer to `Introspect` at an inhibitor object. -/
def inhibitorXml (cookie : UInt32) : String :=
  cfg.doctype ++
    "<node name='" ++ PATH ++ (PATH ++ "/Inhibitor" ++
      if cookie > 0 then toString cookie.toNat else "XXXX") ++ "'>" ++
    "  <interface name='" ++ INTERFACE ++ ".Inhibitor'>" ++
    "    <method name='GetAppId'>" ++
    "      <arg type='s' name='app_id' direction='out'/>" ++
    "    </method>" ++
    "    <method name='GetReason'>" ++
    "      <arg type='s' name='reason' direction='out'/>" ++
    "    </method>" ++
    "    <method name='GetFlags'>" ++
    "      <arg type='u' name='flags' direction='out'/>" ++
    "    </method>" ++
    "  </interface>" ++
    "</node>"

/-- The last branch is for every path that begins like that of an inhibitor object. -/
def handleIntrospect (msg : Message) (b : Base) : Except Exn (List Sent) :=
  if cfg.monitor then .ok []
  else match msg.destination with
    | none => .error (.std "basic_string: construction from null is not valid")
    | some destination =>
      let answer (xml : String) : Sent := .methodReturn msg [.string (lit xml)]
      if destination ≠ lit INTERFACE then .ok []
      else if msg.path = lit "/" then .ok [answer (rootXml cfg)]
      else if msg.path = lit PATH then .ok [answer (managerXml cfg b)]
      else if lit "/org/gnome/SessionManager/Inhibitor" <+: msg.path then
        match inhibitorPathToCookie msg.path with
        | .error e => .error e
        | .ok cookie => .ok [answer (inhibitorXml cfg cookie)]
      else .ok []

/-! ## Inhibits -/

/-- `++lastCookie` -/
def nextCookie (lastCookie : UInt32) : UInt32 := lastCookie + 1

/-- The arguments appname, toplevel_xid, reason and flags of `Inhibit`. -/
def inhibitArgs : List Arg → Option (Bytes × Bytes × InhibitType)
  | .string appname :: .uint32 _ :: .string reason :: .uint32 flags :: _ =>
    some (appname, reason, gnomeType2us flags)
  | _ => none

def mkId (sender : Bytes) (cookie : UInt32) : InhibitID := OwnerId.mkId cfg sender cookie

/-- The signal `member` about the inhibitor object of `i`. -/
def inhibitorSignal (member : String) (i : Inhibit) : List Sent :=
  if cfg.monitor then []
  else [.signal (lit PATH) INTERFACE member
    [.objectPath (lit (PATH ++ "/Inhibitor" ++ cookieString i.id))]]

def handleInhibitEvent (i : Inhibit) : OwnerFields → OwnerFields :=
  OwnerFields.sendAll (inhibitorSignal cfg "InhibitorAdded" i)

def handleUnInhibitEvent (i : Inhibit) : OwnerFields → OwnerFields :=
  OwnerFields.sendAll (inhibitorSignal cfg "InhibitorRemoved" i)

/-- Against another implementation the cookie is asked for; otherwise it is counted up, and may
wrap around to 0. -/
def doInhibit (now : ℕ) (r : InhibitRequest) (s : OwnerFields) : Outcome OwnerFields Inhibit :=
  if us2gnomeType r.type = GnomeInhibitType.NONE then (.error .unsupportedType, s)
  else
    let (cookie, s) : Outcome OwnerFields UInt32 :=
      if cfg.monitor then
        s.awaitCookie (.methodCall INTERFACE (lit PATH) INTERFACE "Inhibit"
          [.string r.appname, .uint32 0, .string r.reason, .uint32 (us2gnomeType r.type)])
      else (.ok (nextCookie s.lastCookie), { s with lastCookie := nextCookie s.lastCookie })
    match cookie with
    | .error e => (.error e, s)
    | .ok cookie =>
      (.ok { r with
        type := gnomeType2us (us2gnomeType r.type)
        id := mkId cfg (lit "us") cookie
        created := now }, s)

/-- The other implementation is told, and nobody waits for an answer. -/
def doUnInhibit (_b : Base) (id : InhibitID) (s : OwnerFields) : Outcome OwnerFields Unit :=
  if cfg.monitor then
    (.ok (), s.send (.methodCall INTERFACE (lit PATH) INTERFACE "Uninhibit"
      [.uint32 (OwnerId.cookie id)]))
  else (.ok (), s)

def overrides : Overrides OwnerFields where
  doInhibit := doInhibit cfg
  doUnInhibit := doUnInhibit cfg
  handleInhibitEvent := handleInhibitEvent cfg
  handleUnInhibitEvent := handleUnInhibitEvent cfg

section Handlers

variable {W : Type} (this : This W OwnerFields) (cb : Callbacks W)

/-- `Inhibit`: the cookie is counted up even when a monitored reply brings another. -/
def handleInhibitMsg (now : ℕ) : Message → Option Message → W → Outcome W Unit :=
  OwnerHandlers.handleInhibitMsg cfg this (overrides cfg) cb inhibitArgs nextCookie now

/-- Unlike in `SimpleDBusInhibitInterface`, the call is not answered. -/
def handleUnInhibitMsg (tail : List InhibitID) : Message → Option Message → W → Outcome W Unit :=
  OwnerHandlers.handleUnInhibitMsg cfg this (overrides cfg) cb false tail

/-- `NameOwnerChanged`: everything that the name owns is released. -/
def handleNameLostMsg : Message → W → Outcome W Unit :=
  OwnerHandlers.handleNameLostMsg this (overrides cfg) cb

/-- The methods that only answer. -/
def queries : List QueryMethod :=
  [⟨INTERFACE, "IsInhibited", handleIsInhibitedMsg cfg⟩,
   ⟨INTERFACE, "GetInhibitors", handleGetInhibitors cfg⟩,
   ⟨INTERFACE, "GetReason", handleGetReason cfg⟩,
   ⟨INTERFACE, "GetAppId", handleGetAppID cfg⟩,
   ⟨INTERFACE, "GetFlags", handleGetFlags cfg⟩,
   ⟨"org.freedesktop.DBus.Properties", "Get", handleGetProperty cfg⟩,
   ⟨"org.freedesktop.DBus.Introspectable", "Introspect", handleIntrospect cfg⟩]

/-- The tables the constructor passes on. `now` is the time and `tail` what `std::remove_if`
leaves behind while the next message is handled. -/
def dispatcher (mName mName2 : Bytes) (now : ℕ) (tail : List InhibitID) : Dispatcher W where
  monitor := cfg.monitor
  mName := mName
  mName2 := mName2
  myMethods :=
    ⟨INTERFACE, "Inhibit", handleInhibitMsg cfg this cb now⟩ ::
    ⟨INTERFACE, "Uninhibit", handleUnInhibitMsg cfg this cb tail⟩ ::
    (queries cfg).map (QueryMethod.methodCB this)
  mySignals :=
    [⟨"org.freedesktop.DBus", "NameOwnerChanged", handleNameLostMsg cfg this cb⟩]

end Handlers

end GnomeSessionManagerInhibitInterface
end UnifiedInhibit
