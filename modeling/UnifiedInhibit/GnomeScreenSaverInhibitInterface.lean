import UnifiedInhibit.SimActivity
import UnifiedInhibit.SimpleDBusInhibitInterface

/-!
# `GnomeScreenSaverInhibitInterface`

`src/InhibitInterface/GnomeScreenSaverInhibitInterface.cpp`: a `SimpleDBusInhibitInterface` with
`SimulateUserActivity`. The cookie 0 stands for its inhibits.
-/

namespace UnifiedInhibit

open DBus (Message Dispatcher MethodCB)

def GnomeScreenSaverInhibitInterface (base : OwnerConfig) : SimpleDBusInhibitInterface.Config where
  toOwnerConfig := base
  interface := "org.gnome.ScreenSaver"
  path := "org/gnome/ScreenSaver"
  inhibitType := InhibitType.SCREENSAVER
  extraIntrospect := "<method name='SimulateUserActivity' />"

namespace GnomeScreenSaverInhibitInterface

/-- What `SimActivity` needs of the class: an inhibit is a simulated one if its cookie is 0. -/
def simActivity (base : OwnerConfig) : SimActivity OwnerFields where
  monitor := base.monitor
  inhibitType := InhibitType.SCREENSAVER
  mkId sender := OwnerId.mkId base sender 0
  isSim id := OwnerId.cookie id = 0
  sender id := CStruct.cstr (id.drop 8)
  inhibitOwners s := s.inhibitOwners
  setInhibitOwners m s := { s with inhibitOwners := m }
  sendReturn msg := OwnerFields.send (.methodReturn msg [])

section Handlers

variable (base : OwnerConfig) {W : Type} (this : This W OwnerFields) (cb : Callbacks W)

def overrides : Overrides OwnerFields :=
  SimpleDBusInhibitInterface.overrides (GnomeScreenSaverInhibitInterface base)

/-- `SimulateUserActivity`, which is an inhibit of five minutes. -/
def handleSimActivityMsg (now : ℕ) : Message → Option Message → W → Outcome W Unit :=
  (simActivity base).handleSimActivityMsg this (overrides base) cb now

/-- Simulated inhibits are released after five minutes. -/
def poll (now : ℕ) : W → Outcome W Unit := (simActivity base).poll this (overrides base) cb now

/-- The tables of the base class, and the method of this one behind them. -/
def dispatcher (mName mName2 : Bytes) (now : ℕ) (tail : List InhibitID) : Dispatcher W :=
  let D := SimpleDBusInhibitInterface.dispatcher (GnomeScreenSaverInhibitInterface base) this cb
    mName mName2 now tail
  { D with myMethods := D.myMethods ++
      [⟨"org.gnome.ScreenSaver", "SimulateUserActivity", handleSimActivityMsg base this cb now⟩] }

end Handlers

end GnomeScreenSaverInhibitInterface

end UnifiedInhibit
