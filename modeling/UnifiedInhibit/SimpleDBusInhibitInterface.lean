import UnifiedInhibit.DBusOwners

/-!
# `SimpleDBusInhibitInterface`

`src/InhibitInterface/SimpleDBusInhibitInterface.cpp`: the interface with `Inhibit(appname, reason)`
and `UnInhibit(cookie)` that several lockers share, and its subclasses.
-/

namespace UnifiedInhibit
namespace SimpleDBusInhibitInterface

open DBus (Arg Message Dispatcher MethodCB SignalCB)
open OwnerHandlers (QueryMethod)

/-- `path` is without its leading slash. The last three fields are what a subclass adds:
the description of its own methods, the messages its `handleInhibitStateChanged` sends, and its
methods. -/
structure Config extends OwnerConfig where
  interface : String
  path : String
  inhibitType : InhibitType
  extraIntrospect : String := ""
  stateChanged : InhibitType → List Sent := fun _ => []
  myMethods : List QueryMethod := []

/-- `lastCookie++`, skipping 0. -/
def nextCookie (lastCookie : UInt32) : UInt32 :=
  if lastCookie + 1 = 0 then 1 else lastCookie + 1

/-- Up to the wrap the cookies count up. -/
lemma toNat_nextCookie {c : UInt32} (h : c.toNat + 1 < 2 ^ 32) :
    (nextCookie c).toNat = c.toNat + 1 := by
  have hadd : (c + 1).toNat = c.toNat + 1 := by
    rw [UInt32.toNat_add]
    exact Nat.mod_eq_of_lt h
  have hne : c + 1 ≠ 0 := by
    intro hzero
    rw [hzero] at hadd
    exact absurd hadd (by simp)
  unfold nextCookie
  rw [if_neg hne, hadd]

variable (cfg : Config)

/-- The id of a cookie that the sender has been given. -/
def mkId (sender : Bytes) (cookie : UInt32) : InhibitID :=
  OwnerId.mkId cfg.toOwnerConfig sender cookie

/-- Against another implementation the cookie is asked for; otherwise it is counted up. -/
def doInhibit (now : ℕ) (r : InhibitRequest) (s : OwnerFields) : Outcome OwnerFields Inhibit :=
  if r.type &&& cfg.inhibitType = InhibitType.NONE then (.error .unsupportedType, s)
  else
    let (cookie, s) : Outcome OwnerFields UInt32 :=
      if cfg.monitor then
        s.awaitCookie (.methodCall cfg.interface (lit ("/" ++ cfg.path)) cfg.interface "Inhibit"
          [.string r.appname, .string r.reason])
      else (.ok (nextCookie s.lastCookie), { s with lastCookie := nextCookie s.lastCookie })
    match cookie with
    | .error e => (.error e, s)
    | .ok cookie =>
      (.ok { r with type := cfg.inhibitType, id := mkId cfg (lit "us") cookie, created := now }, s)

/-- The other implementation is told, and nobody waits for an answer. -/
def doUnInhibit (_b : Base) (id : InhibitID) (s : OwnerFields) : Outcome OwnerFields Unit :=
  if cfg.monitor then
    (.ok (), s.send (.methodCall cfg.interface (lit ("/" ++ cfg.path)) cfg.interface "UnInhibit"
      [.uint32 (OwnerId.cookie id)]))
  else (.ok (), s)

def overrides : Overrides OwnerFields where
  doInhibit := doInhibit cfg
  doUnInhibit := doUnInhibit cfg
  handleInhibitStateChanged inhibited _i := OwnerFields.sendAll (cfg.stateChanged inhibited)

/-- The answer to `Introspect` at `/`. -/
def rootXml : String :=
  cfg.doctype ++
    "<node name='/'>" ++
    "  <node name='" ++ cfg.path ++ "' />" ++
    "</node>"

/-- The answer to `Introspect` at `path`. -/
def interfaceXml : String :=
  cfg.doctype ++
    "<node name='" ++ cfg.path ++ "'>" ++
    "  <interface name=\"" ++ cfg.interface ++ "\">" ++
    "    <method name='Inhibit'>" ++
    "      <arg name='application_name' type='s' direction='in'/>" ++
    "      <arg name='reason_for_inhibit' type='s' direction='in'/>" ++
    "      <arg name='cookie' type='u' direction='out'/>" ++
    "    </method>" ++
    "    <method name='UnInhibit'>" ++
    "      <arg name='cookie' type='u' direction='in'/>" ++
    "    </method>" ++
    cfg.extraIntrospect ++
    "  </interface>" ++
    "</node>"

/-- Both tests of the path are made, whichever the first one finds. -/
def handleIntrospect (msg : Message) (_b : Base) : Except Exn (List Sent) :=
  if cfg.monitor then .ok []
  else match msg.destination with
    | none => .error (.std "basic_string: construction from null is not valid")
    | some destination =>
      if destination ≠ lit cfg.interface then .ok []
      else
        let answer (path : Bytes) (xml : String) : List Sent :=
          if msg.path = path then [.methodReturn msg [.string (lit xml)]] else []
        .ok (answer (lit "/") (rootXml cfg) ++ answer (lit ("/" ++ cfg.path)) (interfaceXml cfg))

section Handlers

variable {W : Type} (this : This W OwnerFields) (cb : Callbacks W)

/-- An inhibit of the type of the class, for the sender of the call. -/
def handleInhibitMsg (now : ℕ) : Message → Option Message → W → Outcome W Unit :=
  OwnerHandlers.handleInhibitMsg cfg.toOwnerConfig this (overrides cfg) cb
    (fun args => (twoStrings args).map fun (appname, reason) => (appname, reason, cfg.inhibitType))
    nextCookie now

/-- The call is answered once the inhibit has been released, known or not. -/
def handleUnInhibitMsg (tail : List InhibitID) : Message → Option Message → W → Outcome W Unit :=
  OwnerHandlers.handleUnInhibitMsg cfg.toOwnerConfig this (overrides cfg) cb true tail

/-- `NameOwnerChanged`: everything that the name owns is released. -/
def handleNameLostMsg : Message → W → Outcome W Unit :=
  OwnerHandlers.handleNameLostMsg this (overrides cfg) cb

/-- The tables the constructor passes on. `now` is the time and `tail` what `std::remove_if`
leaves behind while the next message is handled. -/
def dispatcher (mName mName2 : Bytes) (now : ℕ) (tail : List InhibitID) : Dispatcher W where
  monitor := cfg.monitor
  mName := mName
  mName2 := mName2
  myMethods :=
    ⟨cfg.interface, "Inhibit", handleInhibitMsg cfg this cb now⟩ ::
    ⟨cfg.interface, "UnInhibit", handleUnInhibitMsg cfg this cb tail⟩ ::
    (⟨"org.freedesktop.DBus.Introspectable", "Introspect", handleIntrospect cfg⟩ ::
      cfg.myMethods).map (QueryMethod.methodCB this)
  mySignals :=
    [⟨"org.freedesktop.DBus", "NameOwnerChanged", handleNameLostMsg cfg this cb⟩]

end Handlers

end SimpleDBusInhibitInterface

open SimpleDBusInhibitInterface (Config)

/-! ## The subclasses -/

def FreedesktopScreenSaverInhibitInterface (base : OwnerConfig) : Config where
  toOwnerConfig := base
  interface := "org.freedesktop.ScreenSaver"
  path := "ScreenSaver"
  inhibitType := InhibitType.SCREENSAVER

def MateScreenSaverInhibitInterface (base : OwnerConfig) : Config where
  toOwnerConfig := base
  interface := "org.mate.ScreenSaver"
  path := "org/mate/ScreenSaver"
  inhibitType := InhibitType.SCREENSAVER

namespace FreedesktopPowerManagerInhibitInterface

/-- `HasInhibit`: whether suspending is inhibited. -/
def handleHasInhibitMsg (base : OwnerConfig) (msg : DBus.Message) (b : Base) :
    Except Exn (List Sent) :=
  if base.monitor then .ok []
  else .ok [.methodReturn msg [.boolean (b.inhibited.has InhibitType.SUSPEND)]]

/-- The signal `HasInhibitChanged` says what `HasInhibit` answers. -/
def handleInhibitStateChanged (base : OwnerConfig) (inhibited : InhibitType) : List Sent :=
  if base.monitor then []
  else [.signal (lit "/PowerManager") "org.freedesktop.PowerManager" "HasInhibitChanged"
    [.boolean (inhibited.has InhibitType.SUSPEND)]]

end FreedesktopPowerManagerInhibitInterface

def FreedesktopPowerManagerInhibitInterface (base : OwnerConfig) : Config where
  toOwnerConfig := base
  interface := "org.freedesktop.PowerManager"
  path := "PowerManager"
  inhibitType := InhibitType.SUSPEND
  extraIntrospect :=
    "<method name='HasInhibit'>" ++
    "  <arg type='b' name='has_inhibit' direction='out'/>" ++
    "</method>" ++
    "<signal name='HasInhibitChanged'>" ++
    "  <arg type='b' name='has_inhibit' direction='out'/>" ++
    "</signal>"
  stateChanged := FreedesktopPowerManagerInhibitInterface.handleInhibitStateChanged base
  myMethods := [⟨"org.freedesktop.PowerManager", "HasInhibit",
    FreedesktopPowerManagerInhibitInterface.handleHasInhibitMsg base⟩]

end UnifiedInhibit
