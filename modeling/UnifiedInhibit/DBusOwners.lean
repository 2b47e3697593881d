import UnifiedInhibit.DBus
import UnifiedInhibit.Lib.CStruct

/-!
# D-Bus interfaces that track the owners of inhibits

What `SimpleDBusInhibitInterface.cpp` and `GnomeSessionManagerInhibitInterface.cpp` have in
common: the same fields, the same id structure, and handlers that differ in a few values only.

A message that is sent is appended to the field `sent`; the field `replies` holds what the peer
will answer to the calls that are awaited. Neither is in the source.
-/

namespace UnifiedInhibit

open DBus (Arg Message)

/-- A message that the interface sends. -/
inductive Sent where
  | methodReturn (call : Message) (args : List Arg)
  | methodCall (destination : String) (path : Bytes) (interface member : String) (args : List Arg)
  | signal (path : Bytes) (interface member : String) (args : List Arg)
deriving DecidableEq

/-- The fields of both classes. -/
structure OwnerFields where
  inhibitOwners : StdMap Bytes (List InhibitID) := ∅
  lastCookie : UInt32 := 0
  sent : List Sent := []
  replies : List (Except Exn (Option Message)) := []

/-- What stays fixed. `padding` are the bytes behind `cookie` in the id structure, which the
source does not set and which are taken to be the same in each id; `doctype` is libdbus's
`DBUS_INTROSPECT_1_0_XML_DOCTYPE_DECL_NODE`. -/
structure OwnerConfig where
  instanceId : UInt64
  monitor : Bool
  padding : Bytes := [0, 0, 0, 0]
  doctype : String := ""

/-! ## The id structure -/

namespace OwnerId

/-- `sizeof(idStruct.sender)` -/
def senderSize : ℕ := 1024

/-- `mkId`: the structure {instance id, sender, cookie} as bytes. The terminating NUL of a sender
that fills the whole array lands in the first byte of the cookie. -/
def mkId (cfg : OwnerConfig) (sender : Bytes) (cookie : UInt32) : InhibitID :=
  let idStruct := CStruct.leBytes 8 cfg.instanceId.toNat ++ List.replicate senderSize 0 ++
    (CStruct.leBytes 4 cookie.toNat ++ cfg.padding)
  let size := if sender.length > senderSize then senderSize else sender.length
  let idStruct := CStruct.overwrite idStruct 8 (CStruct.strncpy size sender)
  if size > 0 then idStruct.set (8 + size) 0 else idStruct

/-- `idStruct->instanceID` -/
def instanceID (id : InhibitID) : UInt64 := (CStruct.leValue (id.take 8)).toUInt64

/-- `idStruct->sender` -/
def sender (id : InhibitID) : Bytes := CStruct.cstr (id.drop 8)

/-- `idStruct->cookie` -/
def cookie (id : InhibitID) : UInt32 :=
  (CStruct.leValue ((id.drop (8 + senderSize)).take 4)).toUInt32

end OwnerId

/-! ## Arguments -/

/-- `DBUS_TYPE_UINT32` -/
def oneUInt32 : List Arg → Option UInt32
  | .uint32 n :: _ => some n
  | _ => none

/-- `DBUS_TYPE_STRING` -/
def oneString : List Arg → Option Bytes
  | .string s :: _ => some s
  | _ => none

/-- `DBUS_TYPE_STRING, DBUS_TYPE_STRING` -/
def twoStrings : List Arg → Option (Bytes × Bytes)
  | .string s :: .string t :: _ => some (s, t)
  | _ => none

/-! ## Sending -/

def OwnerFields.sendAll (msgs : List Sent) (s : OwnerFields) : OwnerFields :=
  { s with sent := s.sent ++ msgs }

def OwnerFields.send (msg : Sent) : OwnerFields → OwnerFields := OwnerFields.sendAll [msg]

/-- `sendAwait(500)` for a cookie. A `NoReplyError` becomes an `InhibitNoResponseException`, and
a null reply leaves the cookie 0. -/
def OwnerFields.awaitCookie (call : Sent) (s : OwnerFields) : Outcome OwnerFields UInt32 :=
  let s := s.send call
  match s.replies with
  | [] => (.error .noResponse, s)
  | .error e :: rest =>
    (.error (if e = DBus.noReply then .noResponse else e), { s with replies := rest })
  | .ok none :: rest => (.ok 0, { s with replies := rest })
  | .ok (some msg) :: rest => (msg.getArgs oneUInt32, { s with replies := rest })

/-! ## Handlers -/

/-- `std::remove_if` without a following `erase`: the elements that stay come first. The places
behind them keep the unspecified values `tail`. -/
def removeIf {α : Type} (p : α → Bool) (xs tail : List α) : List α :=
  xs.filter (fun x => !p x) ++ tail

/-- The values that may be left behind: one for each removed element, and each an old element or
moved from. -/
def Leftover (id : InhibitID) (xs tail : List InhibitID) : Prop :=
  tail.length = (xs.filter fun eid => id = eid).length ∧ ∀ x ∈ tail, x ∈ xs ∨ x = []

namespace OwnerHandlers

variable {W : Type} (cfg : OwnerConfig) (this : This W OwnerFields) (v : Overrides OwnerFields)
  (cb : Callbacks W)

/-- `inhibitOwners[sender]` -/
def owners (sender : Bytes) (s : OwnerFields) : List InhibitID :=
  (s.inhibitOwners[sender]?).getD []

def setOwners (sender : Bytes) (ids : List InhibitID) (s : OwnerFields) : OwnerFields :=
  { s with inhibitOwners := s.inhibitOwners.insert sender ids }

/-- The end of `handleInhibitMsg`: register the inhibit `i` and list it under its sender. -/
def trackInhibit (sender : Bytes) (i : Inhibit) (w : W) : Outcome W Unit :=
  match this.registerInhibit v cb i w with
  | (.error e, w) => (.error e, w)
  | (.ok (), w) =>
    (.ok (), this.modifySub (fun s => setOwners sender (owners sender s ++ [i.id]) s) w)

/-- `handleInhibitMsg`. The arguments are parsed by `expected` into appname, reason and type;
`nextCookie` counts `lastCookie` up. In monitor mode `ret` is the return of the call. -/
def handleInhibitMsg (expected : List Arg → Option (Bytes × Bytes × InhibitType))
    (nextCookie : UInt32 → UInt32) (now : ℕ) (msg : Message) (ret : Option Message) (w : W) :
    Outcome W Unit :=
  match msg.getArgs expected with
  | .error e => (.error e, w)
  | .ok (appname, reason, type) =>
    let w := this.modifySub (fun s => { s with lastCookie := nextCookie s.lastCookie }) w
    let lastCookie := (this.get w).sub.lastCookie
    match ret with
    | some ret =>
      match ret.getArgs oneUInt32 with
      | .error e => (.error e, w)
      | .ok cookie =>
        trackInhibit this v cb msg.sender
          { type, appname, reason, id := OwnerId.mkId cfg msg.sender cookie, created := now } w
    | none =>
      let w := this.modifySub (OwnerFields.send (.methodReturn msg [.uint32 lastCookie])) w
      trackInhibit this v cb msg.sender
        { type, appname, reason, id := OwnerId.mkId cfg msg.sender lastCookie, created := now } w

/-- `handleUnInhibitMsg`. `reply` says whether an implementation answers the call; `tail` is what
`std::remove_if` leaves behind. -/
def handleUnInhibitMsg (reply : Bool) (tail : List InhibitID) (msg : Message)
    (_ret : Option Message) (w : W) : Outcome W Unit :=
  match msg.getArgs oneUInt32 with
  | .error e => (.error e, w)
  | .ok cookie =>
    let id := OwnerId.mkId cfg msg.sender cookie
    match this.registerUnInhibit v cb id w with
    | (.error e, w) => (.error e, w)
    | (.ok (), w) =>
      let w := this.modifySub (fun s =>
        setOwners msg.sender (removeIf (fun eid => id = eid) (owners msg.sender s) tail) s) w
      (.ok (), if reply && !cfg.monitor then
        this.modifySub (OwnerFields.send (.methodReturn msg [])) w else w)

/-- `for (auto id : ids) this->registerUnInhibit(id)` -/
def registerUnInhibitAll : List InhibitID → W → Outcome W Unit
  | [], w => (.ok (), w)
  | id :: ids, w =>
    match this.registerUnInhibit v cb id w with
    | (.error e, w) => (.error e, w)
    | (.ok (), w) => registerUnInhibitAll ids w

/-- `handleNameLostMsg`. The sender of the signal is not looked at. -/
def handleNameLostMsg (msg : Message) (w : W) : Outcome W Unit :=
  match msg.getArgs oneString with
  | .error e => (.error e, w)
  | .ok name =>
    match registerUnInhibitAll this v cb (owners name (this.get w).sub) w with
    | (.error e, w) => (.error e, w)
    | (.ok (), w) => (.ok (), this.modifySub (setOwners name []) w)

/-- A method that only answers from what is active. -/
structure QueryMethod where
  interface : String
  member : String
  answer : Message → Base → Except Exn (List Sent)

def QueryMethod.methodCB (q : QueryMethod) : DBus.MethodCB W where
  interface := q.interface
  member := q.member
  callback msg _ret w :=
    match q.answer msg (this.get w).toBase with
    | .error e => (.error e, w)
    | .ok out => (.ok (), this.modifySub (OwnerFields.sendAll out) w)

end OwnerHandlers

/-- A class with these handlers, and the values in which the two classes differ. -/
structure OwnerClass extends OwnerConfig where
  interface : String
  unInhibitMember : String
  inhibitArgs : List Arg → Option (Bytes × Bytes × InhibitType)
  nextCookie : UInt32 → UInt32
  replyUnInhibit : Bool
  overrides : Overrides OwnerFields
  queries : List OwnerHandlers.QueryMethod

/-- The dispatcher of such a class. `now` is the time and `tail` what `std::remove_if` leaves
behind while the next message is handled. -/
def OwnerClass.dispatcher {W : Type} (C : OwnerClass) (this : This W OwnerFields) (cb : Callbacks W)
    (mName mName2 : Bytes) (now : ℕ) (tail : List InhibitID) : DBus.Dispatcher W where
  monitor := C.monitor
  mName := mName
  mName2 := mName2
  myMethods :=
    ⟨C.interface, "Inhibit", OwnerHandlers.handleInhibitMsg C.toOwnerConfig this C.overrides cb
      C.inhibitArgs C.nextCookie now⟩ ::
    ⟨C.interface, C.unInhibitMember, OwnerHandlers.handleUnInhibitMsg C.toOwnerConfig this
      C.overrides cb C.replyUnInhibit tail⟩ ::
    C.queries.map (OwnerHandlers.QueryMethod.methodCB this)
  mySignals :=
    [⟨"org.freedesktop.DBus", "NameOwnerChanged",
      OwnerHandlers.handleNameLostMsg this C.overrides cb⟩]

end UnifiedInhibit
