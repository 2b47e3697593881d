import UnifiedInhibit.InhibitInterface
import UnifiedInhibit.Lib.Run

/-!
# D-Bus messages and the dispatcher

`include/DBus.hpp` and `src/InhibitInterface/DBusInhibitInterface.cpp`. One pass of the inner loop
of `start` is `dispatch`: it takes one message off the connection. The callbacks act on a world `W`
that holds the interface object.

An exception ends the pass. After an `InvalidArgsError`, which the inner loop catches, `start` pops
the next message. After most others, which the outer loop catches, it first reads again, and
`readWriteDispatch` then takes the message off that is waiting in front. A run here is over the
messages that `start` pops; `MainLoop` is about those it does not, about the loss of the connection,
and about the exceptions that are not caught.
-/

namespace UnifiedInhibit
namespace DBus

inductive Arg where
  | string (s : Bytes)
  | uint32 (n : UInt32)
  | boolean (b : Bool)
  | objectPath (path : Bytes)
  | objectPaths (paths : List Bytes)
  /-- a descriptor, by the path of what it refers to -/
  | unixFd (file : Bytes)
  /-- `a(ssssuu)`: what, who, why, mode, uid and pid -/
  | inhibitorList (list : List (Bytes × Bytes × Bytes × Bytes × UInt32 × UInt32))
deriving DecidableEq

inductive MessageType where
  | methodCall
  | methodReturn
  | error
  | signal
deriving DecidableEq

/-- A message as the bus delivers it. The bus fills in `sender`. -/
structure Message where
  type : MessageType
  sender : Bytes
  destination : Option Bytes := none
  serial : UInt32 := 0
  replySerial : UInt32 := 0
  path : Bytes := []
  interface : Option String := none
  member : String := ""
  args : List Arg := []
deriving DecidableEq

/-- `DBus::InvalidArgsError` -/
def invalidArgs : Exn := .dbus "org.freedesktop.DBus.Error.InvalidArgs"

/-- `DBus::NoReplyError` -/
def noReply : Exn := .dbus "org.freedesktop.DBus.Error.NoReply"

/-- `DBus::AccessDeniedError` -/
def accessDenied : Exn := .dbus "org.freedesktop.DBus.Error.AccessDenied"

/-- `getArgs`: the arguments must start with the expected types; further ones are ignored. -/
def Message.getArgs {α : Type} (expected : List Arg → Option α) (msg : Message) : Except Exn α :=
  match expected msg.args with
  | some a => .ok a
  | none => .error invalidArgs

structure MethodCB (W : Type) where
  interface : String
  member : String
  callback : Message → Option Message → W → Outcome W Unit

structure SignalCB (W : Type) where
  interface : String
  member : String
  callback : Message → W → Outcome W Unit

/-- What stays fixed while a `DBusInhibitInterface` runs. -/
structure Dispatcher (W : Type) where
  monitor : Bool
  mName : Bytes
  mName2 : Bytes
  myMethods : List (MethodCB W)
  mySignals : List (SignalCB W)

/-- The recorded calls and the world. The field `invoked` is not in the source: it records the
method callbacks made. -/
structure State (W : Type) where
  methodCalls : StdMap UInt32 Message := ∅
  world : W
  invoked : List (Message × Option Message) := []

/-- The loops over `myMethods` and `mySignals`: the first entry with the member and the interface
of `msg`. The interface is looked at once the member agrees, and `std::string` of a null pointer
throws. -/
def lookup {α : Type} (interface member : α → String) (msg : Message) :
    List α → Except Exn (Option α)
  | [] => .ok none
  | a :: as =>
    if member a = msg.member then
      match msg.interface with
      | none => .error (.std "basic_string: construction from null is not valid")
      | some i => if interface a = i then .ok (some a) else lookup interface member msg as
    else lookup interface member msg as

section Lookup

variable {α : Type} {interface member : α → String} {msg : Message}

/-- What is found has the member and the interface of the message. -/
lemma lookup_ok {as : List α} {a : α} (h : lookup interface member msg as = .ok (some a)) :
    a ∈ as ∧ member a = msg.member ∧ msg.interface = some (interface a) := by
  induction as with
  | nil => cases h
  | cons b bs ih =>
    unfold lookup at h
    split at h
    · rename_i hmem
      split at h
      · cases h
      · rename_i i hi
        split at h
        · rename_i hint
          cases h
          exact ⟨List.mem_cons_self, hmem, by rw [hi, hint]⟩
        · obtain ⟨ha, hrest⟩ := ih h
          exact ⟨List.mem_cons_of_mem _ ha, hrest⟩
    · obtain ⟨ha, hrest⟩ := ih h
      exact ⟨List.mem_cons_of_mem _ ha, hrest⟩

lemma lookup_head {a : α} (as : List α) (hmem : member a = msg.member)
    (hint : msg.interface = some (interface a)) :
    lookup interface member msg (a :: as) = .ok (some a) := by
  unfold lookup
  rw [if_pos hmem, hint]
  dsimp only
  rw [if_pos rfl]

lemma lookup_skip {a : α} (as : List α) {i : String} (hi : msg.interface = some i)
    (h : ¬ (member a = msg.member ∧ interface a = i)) :
    lookup interface member msg (a :: as) = lookup interface member msg as := by
  rw [lookup]
  by_cases hmem : member a = msg.member
  · rw [if_pos hmem, hi]
    dsimp only
    rw [if_neg fun hint => h ⟨hmem, hint⟩]
  · rw [if_neg hmem]

end Lookup

/-- `(this->*method.callback)(&msg, ret)`. -/
def State.call {W : Type} (method : MethodCB W) (msg : Message) (ret : Option Message)
    (s : State W) : Outcome (State W) Unit :=
  match method.callback msg ret s.world with
  | (res, w) => (res, { s with world := w, invoked := s.invoked ++ [(msg, ret)] })

namespace Dispatcher

variable {W : Type} (D : Dispatcher W)

/-- The pass of the inner loop of `start` that pops `msg`. -/
def dispatch (msg : Message) (s : State W) : Outcome (State W) Unit :=
  if msg.sender = D.mName then (.ok (), s)
  else if msg.sender = D.mName2 then (.ok (), s)
  else match msg.type with
    | .methodCall =>
      match lookup MethodCB.interface MethodCB.member msg D.myMethods with
      | .error e => (.error e, s)
      | .ok none => (.ok (), s)
      | .ok (some method) =>
        if D.monitor then
          (.ok (), { s with methodCalls := s.methodCalls.insertIfNew msg.serial msg })
        else s.call method msg none
    | .methodReturn =>
      match s.methodCalls[msg.replySerial]? with
      | none => (.ok (), s)
      | some callMsg =>
        -- here the interface is not compared
        match D.myMethods.find? (fun method => method.member = callMsg.member) with
        | none => (.ok (), s)
        | some method =>
          match s.call method callMsg (some msg) with
          | (.error e, s) => (.error e, s)
          | (.ok (), s) =>
            (.ok (), { s with methodCalls := s.methodCalls.erase msg.replySerial })
    | .signal =>
      match lookup SignalCB.interface SignalCB.member msg D.mySignals with
      | .error e => (.error e, s)
      | .ok none => (.ok (), s)
      | .ok (some signal) =>
        match signal.callback msg s.world with
        | (res, w) => (res, { s with world := w })
    | .error => (.ok (), s)

/-- `start` handles `msg` and goes on with the message that it pops next. -/
def deliver (s : State W) (msg : Message) : State W := (D.dispatch msg s).2

/-- The message is not one of our own. -/
def Observed (msg : Message) : Prop := msg.sender ≠ D.mName ∧ msg.sender ≠ D.mName2

/-- An observed call of a method in `myMethods`. -/
def Listed (msg : Message) : Prop :=
  D.Observed msg ∧ msg.type = .methodCall ∧
    ∃ method, lookup MethodCB.interface MethodCB.member msg D.myMethods = .ok (some method)

end Dispatcher

/-- `ret` is a method return for the call `msg`: it names the call's serial and is addressed to
the call's sender. -/
def Returns (msg ret : Message) : Prop :=
  ret.type = .methodReturn ∧ ret.replySerial = msg.serial ∧ ret.destination = some msg.sender

/-- A connection does not use a serial twice. -/
def SerialsUnique (msgs : List Message) : Prop :=
  msgs.Pairwise fun m m' => m.type = .methodCall → m'.type = .methodCall →
    m.sender = m'.sender → m.serial ≠ m'.serial

/-- The bus passes on at most one return for a call. -/
def ReturnsUnique (msgs : List Message) : Prop :=
  msgs.Pairwise fun m m' => m.type = .methodReturn → m'.type = .methodReturn →
    m.destination = m'.destination → m.replySerial ≠ m'.replySerial

end DBus
end UnifiedInhibit
