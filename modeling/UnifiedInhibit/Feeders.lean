import UnifiedInhibit.InhibitInterface
import UnifiedInhibit.Lib.Run

/-!
# The screensaver feeders

`XautolockInhibitInterface.cpp`, `XidlehookInhibitInterface.cpp` and `DPMSInhibitInterface.cpp`
have the same `doInhibit` and the same `handleInhibitStateChanged`, apart from the commands they
issue. The return codes of the commands are only printed and are left out; the field `issued` is
not in the source and records what was issued.
-/

namespace UnifiedInhibit

inductive Command where
  | system (command : String)
  | XScreenSaverSuspend (suspend : Bool)
  | XSync (discard : Bool)
deriving DecidableEq

/-- What a feeder issues when its screensaver is to be disabled or enabled. -/
structure FeederCommands where
  disable : List Command
  enable : List Command
  distinct : disable ≠ enable := by decide

def XautolockInhibitInterface : FeederCommands where
  disable := [.system "xautolock -disable > /dev/null 2> /dev/null"]
  enable := [.system "xautolock -enable > /dev/null 2> /dev/null"]

def XidlehookInhibitInterface : FeederCommands where
  disable := [.system ("xidlehook-client --socket /tmp/xidlehook.sock control --action Disable" ++
    " > /dev/null 2> /dev/null")]
  enable := [.system ("xidlehook-client --socket /tmp/xidlehook.sock control --action Enable" ++
    " > /dev/null 2> /dev/null")]

def X11DPMSScreensaverInhibitInterface : FeederCommands where
  disable := [.XScreenSaverSuspend true, .XSync false]
  enable := [.XScreenSaverSuspend false, .XSync false]

inductive Feeder where
  | xautolock
  | xidlehook
  | x11DPMSScreensaver

namespace Feeder

def commands : Feeder → FeederCommands
  | xautolock => XautolockInhibitInterface
  | xidlehook => XidlehookInhibitInterface
  | x11DPMSScreensaver => X11DPMSScreensaverInhibitInterface

/-- The fields of a feeder. -/
structure Fields where
  lastInhibited : InhibitType := InhibitType.NONE
  ok : Bool := false
  issued : List (List Command) := []

variable (f : Feeder)

def handleInhibitStateChanged (inhibited : InhibitType) (_inhibit : Inhibit) (s : Fields) :
    Fields :=
  if !s.ok then s
  else if inhibited &&& InhibitType.SCREENSAVER = s.lastInhibited &&& InhibitType.SCREENSAVER then s
  else
    { s with
      issued := s.issued ++
        [if inhibited.has InhibitType.SCREENSAVER then f.commands.disable else f.commands.enable]
      lastInhibited := inhibited }

/-- The `id` of every inhibit is the empty vector. -/
def doInhibit (now : ℕ) (r : InhibitRequest) (s : Fields) : Outcome Fields Inhibit :=
  (.ok { r with id := [], created := now }, s)

def overrides : Overrides Fields where
  doInhibit := doInhibit
  handleInhibitStateChanged := f.handleInhibitStateChanged

/-! ## Runs -/

/-- A feeder and the inhibits that were granted and not yet released, oldest first. -/
structure State where
  obj : InhibitInterface Fields
  held : List Inhibit := []

/-- A feeder whose constructor found what it feeds. -/
def initial : State := { obj := { sub := { ok := true } } }

inductive Call where
  | inhibit (now : ℕ) (r : InhibitRequest)
  /-- `unInhibit` with the id of the `n`-th inhibit still held. -/
  | unInhibit (n : ℕ)

def step (s : State) : Call → State
  | .inhibit now r =>
    match InhibitInterface.inhibit f.overrides now r s.obj with
    | (.ok i, o) => ⟨o, s.held ++ [i]⟩
    | (.error _, o) => { s with obj := o }
  | .unInhibit n =>
    match s.held[n]? with
    | none => s
    | some i => ⟨(InhibitInterface.unInhibit f.overrides i.id s.obj).2, s.held.eraseIdx n⟩

/-- The last command issued disables the screensaver. -/
def Disabled (s : Fields) : Prop := s.issued.getLast? = some f.commands.disable

/-- The screensaver is disabled exactly when a request not yet released has the `SCREENSAVER`
bit. -/
def Pushed (s : State) : Prop :=
  f.Disabled s.obj.sub ↔ ∃ i ∈ s.held, i.type.has InhibitType.SCREENSAVER

/-- The call does not meet the shared id: a `SCREENSAVER` request arrives while nothing is active
or the screensaver is inhibited already, and a release leaves no other `SCREENSAVER` request
held. -/
def Unshared (s : State) : Call → Prop
  | .inhibit _ r => r.type.has InhibitType.SCREENSAVER →
      s.obj.activeInhibits = ∅ ∨ s.obj.inhibited.has InhibitType.SCREENSAVER
  | .unInhibit n => n < s.held.length →
      ∀ i ∈ s.held.eraseIdx n, ¬ i.type.has InhibitType.SCREENSAVER

end Feeder

end UnifiedInhibit
