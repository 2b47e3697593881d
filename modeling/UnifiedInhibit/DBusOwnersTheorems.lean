import UnifiedInhibit.DBusOwners
import UnifiedInhibit.DBusTheorems

/-!
# What the owner-tracking handlers do

In implementation mode every message has one of a few effects on what is active and who owns it
(`OwnerClass.effect`, `deliver_owned`). The invariants of the following modules are stated about
these effects and not about the handlers.
-/

namespace UnifiedInhibit

open DBus (Arg Message)

/-! ## Ids -/

/-- The unique name of a client, of at most 255 bytes. -/
structure ClientName (name : Bytes) : Prop where
  colon : name.head? = some 58
  length : name.length ≤ 255
  notMem : 0 ∉ name

/-- A string that fits `sender` with its terminating NUL. -/
structure Fits (sender : Bytes) : Prop where
  length : sender.length < OwnerId.senderSize
  notMem : 0 ∉ sender

lemma ClientName.fits {name : Bytes} (h : ClientName name) : Fits name where
  length := by
    have := h.length
    unfold OwnerId.senderSize
    omega
  notMem := h.notMem

lemma fits_us : Fits (lit "us") := ⟨by decide, by decide⟩

lemma ClientName.ne_us {name : Bytes} (h : ClientName name) : name ≠ lit "us" := by
  rintro rfl
  have := h.colon
  revert this
  decide

namespace OwnerId

/-- The `sender` array as a sender that fits leaves it. -/
lemma length_sender {s : Bytes} (h : Fits s) :
    (s ++ List.replicate (senderSize - s.length) (0 : UInt8)).length = senderSize := by
  have := h.length
  rw [List.length_append, List.length_replicate]
  omega

/-- The bytes of an id whose sender fits. -/
lemma mkId_eq (cfg : OwnerConfig) {sender : Bytes} (h : Fits sender) (cookie : UInt32) :
    mkId cfg sender cookie = CStruct.leBytes 8 cfg.instanceId.toNat ++
      (sender ++ List.replicate (senderSize - sender.length) 0) ++
      (CStruct.leBytes 4 cookie.toNat ++ cfg.padding) := by
  have hlt := h.length
  have hsize : (if sender.length > senderSize then senderSize else sender.length) =
      sender.length := if_neg (by omega)
  have hfront : 8 = (CStruct.leBytes 8 cfg.instanceId.toNat).length := by
    rw [CStruct.length_leBytes]
  obtain ⟨hwrite, hset⟩ := CStruct.write_string _ (CStruct.leBytes 4 cookie.toNat ++ cfg.padding)
    h.notMem hfront hlt
  unfold mkId
  dsimp only
  -- the byte behind the sender is 0 already
  rw [hsize, hset, ite_self]
  exact hwrite

/-- A sender that fits is read back from in front of a NUL. -/
lemma cstr_sender {s : Bytes} (h : Fits s) (rest : Bytes) :
    CStruct.cstr (s ++ List.replicate (senderSize - s.length) 0 ++ rest) = s :=
  CStruct.cstr_padded h.notMem (Nat.sub_pos_of_lt h.length) rest

/-- `idStruct->sender` of an id whose sender fits. -/
lemma sender_mkId (cfg : OwnerConfig) {s : Bytes} (h : Fits s) (c : UInt32) :
    sender (mkId cfg s c) = s := by
  unfold sender
  rw [mkId_eq cfg h, List.append_assoc, List.drop_left' (CStruct.length_leBytes 8 _)]
  exact cstr_sender h _

/-- Ids of one instance whose senders fit are compared by sender, cookie and padding. -/
lemma mkId_eq_mkId_iff {p q : OwnerConfig} (hid : p.instanceId = q.instanceId) {s t : Bytes}
    (hs : Fits s) (ht : Fits t) {c d : UInt32} :
    mkId p s c = mkId q t d ↔ s = t ∧ c = d ∧ p.padding = q.padding := by
  constructor
  · intro h
    have hsender : s = t := by rw [← sender_mkId p hs c, h, sender_mkId q ht d]
    rw [mkId_eq p hs, mkId_eq q ht] at h
    obtain ⟨-, hback⟩ := List.append_inj h (by
      rw [List.length_append, length_sender hs, List.length_append, length_sender ht,
        CStruct.length_leBytes, CStruct.length_leBytes])
    obtain ⟨hcookie, hpadding⟩ := List.append_inj hback (by
      rw [CStruct.length_leBytes, CStruct.length_leBytes])
    have hc := c.toNat_lt
    have hd := d.toNat_lt
    refine ⟨hsender, UInt32.toNat_inj.mp ?_, hpadding⟩
    exact CStruct.leBytes_inj (by omega) (by omega) hcookie
  · rintro ⟨rfl, rfl, hpadding⟩
    rw [mkId_eq p hs, mkId_eq q hs, hid, hpadding]

/-- Ids whose senders fit are equal exactly when sender and cookie are. -/
lemma mkId_inj (cfg : OwnerConfig) {s t : Bytes} (hs : Fits s) (ht : Fits t) {c d : UInt32} :
    mkId cfg s c = mkId cfg t d ↔ s = t ∧ c = d := by
  rw [mkId_eq_mkId_iff rfl hs ht, and_iff_left rfl]

/-- The cookie is read back from an id whose sender fits. -/
lemma cookie_mkId (cfg : OwnerConfig) {s : Bytes} (hs : Fits s) (c : UInt32) :
    cookie (mkId cfg s c) = c := by
  have hlen : (CStruct.leBytes 8 cfg.instanceId.toNat ++
      (s ++ List.replicate (senderSize - s.length) 0)).length = 8 + senderSize := by
    rw [List.length_append, length_sender hs, CStruct.length_leBytes]
  have hc := c.toNat_lt
  unfold cookie
  rw [mkId_eq cfg hs, ← hlen, List.drop_left, List.take_append_of_le_length (by simp),
    List.take_of_length_le (by simp), CStruct.leValue_leBytes, Nat.mod_eq_of_lt (by omega)]
  exact UInt32.ofNat_toNat

lemma mkId_ne_nil (cfg : OwnerConfig) {s : Bytes} (hs : Fits s) (c : UInt32) :
    mkId cfg s c ≠ [] := by
  rw [mkId_eq cfg hs]
  intro h
  have := congrArg List.length h
  simp at this

end OwnerId

/-! ## Sending -/

@[simp] lemma OwnerFields.sendAll_sent (msgs : List Sent) (s : OwnerFields) :
    (s.sendAll msgs).sent = s.sent ++ msgs := rfl

lemma OwnerFields.sendAll_sendAll (msgs msgs' : List Sent) (s : OwnerFields) :
    (s.sendAll msgs).sendAll msgs' = s.sendAll (msgs ++ msgs') := by
  unfold OwnerFields.sendAll
  rw [List.append_assoc]

lemma OwnerFields.sendAll_nil (s : OwnerFields) : s.sendAll [] = s := by
  unfold OwnerFields.sendAll
  rw [List.append_nil]

/-- The event hooks of the class only send messages. -/
structure OnlySends (v : Overrides OwnerFields) : Prop where
  inhibitEvent : ∀ i s, ∃ out, v.handleInhibitEvent i s = s.sendAll out
  unInhibitEvent : ∀ i s, ∃ out, v.handleUnInhibitEvent i s = s.sendAll out
  stateChanged : ∀ t i s, ∃ out, v.handleInhibitStateChanged t i s = s.sendAll out

variable {v : Overrides OwnerFields}

lemma OnlySends.callEvent (hv : OnlySends v) (b : Bool) (i : Inhibit)
    (o : InhibitInterface OwnerFields) :
    ∃ out, (InhibitInterface.callEvent v b i o).sub = o.sub.sendAll out := by
  have hfirst : ∃ out, (if b then v.handleInhibitEvent i o.sub
      else v.handleUnInhibitEvent i o.sub) = o.sub.sendAll out := by
    cases b
    · exact hv.unInhibitEvent i o.sub
    · exact hv.inhibitEvent i o.sub
  obtain ⟨out, hout⟩ := hfirst
  unfold InhibitInterface.callEvent
  rw [hout]
  dsimp only
  split
  · obtain ⟨out', hout'⟩ := hv.stateChanged
      (Base.inhibited { o with sub := o.sub.sendAll out }.toBase) i (o.sub.sendAll out)
    exact ⟨out ++ out', hout'.trans (OwnerFields.sendAll_sendAll _ _ _)⟩
  · exact ⟨out, rfl⟩

/-! ## Effects -/

/-- What is active, who owns it, and the callbacks made. -/
@[ext] structure Owned where
  active : StdMap InhibitID Inhibit
  owners : StdMap Bytes (List InhibitID)
  cbLog : List CBCall

namespace Owned

def of (w : Alone OwnerFields) : Owned where
  active := w.obj.activeInhibits
  owners := w.obj.sub.inhibitOwners
  cbLog := w.cbLog

/-- `inhibitOwners[sender]` -/
def ownersOf (o : Owned) (sender : Bytes) : List InhibitID := (o.owners[sender]?).getD []

def setOwners (o : Owned) (sender : Bytes) (ids : List InhibitID) : Owned :=
  { o with owners := o.owners.insert sender ids }

/-- `registerInhibit` -/
def register (o : Owned) (i : Inhibit) : Owned :=
  { o with active := o.active.insertIfNew i.id i, cbLog := o.cbLog ++ [.inhibitCB i] }

/-- `registerUnInhibit` -/
def unregister (o : Owned) (id : InhibitID) : Owned :=
  match o.active[id]? with
  | none => o
  | some mid => { o with active := o.active.erase id, cbLog := o.cbLog ++ [.unInhibitCB mid] }

end Owned

inductive Effect where
  | none
  /-- register an inhibit and list it under its sender -/
  | track (sender : Bytes) (i : Inhibit)
  /-- unregister an id and remove it from its sender's list -/
  | untrack (sender : Bytes) (id : InhibitID) (tail : List InhibitID)
  /-- unregister all ids of a name -/
  | lost (name : Bytes)

def Owned.apply (o : Owned) : Effect → Owned
  | .none => o
  | .track sender i =>
    let o := o.register i
    o.setOwners sender (o.ownersOf sender ++ [i.id])
  | .untrack sender id tail =>
    let o := o.unregister id
    o.setOwners sender (removeIf (fun eid => id = eid) (o.ownersOf sender) tail)
  | .lost name => ((o.ownersOf name).foldl Owned.unregister o).setOwners name []

lemma Owned.apply_track (o : Owned) (sender : Bytes) (i : Inhibit) :
    o.apply (.track sender i) =
      (o.register i).setOwners sender ((o.register i).ownersOf sender ++ [i.id]) := rfl

lemma Owned.apply_untrack (o : Owned) (sender : Bytes) (id : InhibitID) (tail : List InhibitID) :
    o.apply (.untrack sender id tail) = (o.unregister id).setOwners sender
      (removeIf (fun eid => id = eid) ((o.unregister id).ownersOf sender) tail) := rfl

lemma Owned.apply_lost (o : Owned) (name : Bytes) :
    o.apply (.lost name) =
      ((o.ownersOf name).foldl Owned.unregister o).setOwners name [] := rfl

/-! ## Handlers -/

section Handlers

lemma registerInhibit_owned (hv : OnlySends v) (i : Inhibit) (w : Alone OwnerFields) :
    ∃ w', Alone.this.registerInhibit v Alone.callbacks i w = (.ok (), w') ∧
      Owned.of w' = (Owned.of w).register i ∧ ∃ out, w'.obj.sub = w.obj.sub.sendAll out := by
  obtain ⟨out, hout⟩ := hv.callEvent true i
    { w.obj with activeInhibits := w.obj.activeInhibits.insertIfNew i.id i }
  have howners := congrArg OwnerFields.inhibitOwners hout
  refine ⟨_, rfl, ?_, out, hout⟩
  ext1
  · exact InhibitInterface.callEvent_activeInhibits v true i _
  · exact howners
  · rfl

lemma registerUnInhibit_owned (hv : OnlySends v) (id : InhibitID) (w : Alone OwnerFields) :
    ∃ w', Alone.this.registerUnInhibit v Alone.callbacks id w = (.ok (), w') ∧
      Owned.of w' = (Owned.of w).unregister id ∧ ∃ out, w'.obj.sub = w.obj.sub.sendAll out := by
  unfold This.registerUnInhibit Owned.unregister
  rw [show (Owned.of w).active[id]? = (Alone.this.get w).activeInhibits[id]? from rfl]
  cases hmid : (Alone.this.get w).activeInhibits[id]? with
  | none => exact ⟨w, rfl, rfl, [], (OwnerFields.sendAll_nil _).symm⟩
  | some mid =>
    obtain ⟨out, hout⟩ := hv.callEvent false mid
      { w.obj with activeInhibits := w.obj.activeInhibits.erase id }
    have howners := congrArg OwnerFields.inhibitOwners hout
    refine ⟨_, rfl, ?_, out, hout⟩
    ext1
    · exact InhibitInterface.callEvent_activeInhibits v false mid _
    · exact howners
    · rfl

lemma registerUnInhibitAll_owned (hv : OnlySends v) (ids : List InhibitID)
    (w : Alone OwnerFields) :
    ∃ w', OwnerHandlers.registerUnInhibitAll Alone.this v Alone.callbacks ids w = (.ok (), w') ∧
      Owned.of w' = ids.foldl Owned.unregister (Owned.of w) ∧
      ∃ out, w'.obj.sub = w.obj.sub.sendAll out := by
  induction ids generalizing w with
  | nil => exact ⟨w, rfl, rfl, [], (OwnerFields.sendAll_nil _).symm⟩
  | cons id ids ih =>
    obtain ⟨w₁, hrun₁, howned₁, out₁, hsub₁⟩ := registerUnInhibit_owned hv id w
    obtain ⟨w₂, hrun₂, howned₂, out₂, hsub₂⟩ := ih w₁
    refine ⟨w₂, ?_, ?_, out₁ ++ out₂, ?_⟩
    · unfold OwnerHandlers.registerUnInhibitAll
      rw [hrun₁]
      exact hrun₂
    · rw [howned₂, howned₁, List.foldl_cons]
    · rw [hsub₂, hsub₁, OwnerFields.sendAll_sendAll]

lemma getArgs_some {α : Type} {expected : List Arg → Option α} {msg : Message} {a : α}
    (h : expected msg.args = some a) : msg.getArgs expected = .ok a := by
  unfold Message.getArgs
  rw [h]

lemma getArgs_none {α : Type} {expected : List Arg → Option α} {msg : Message}
    (h : expected msg.args = none) : msg.getArgs expected = .error DBus.invalidArgs := by
  unfold Message.getArgs
  rw [h]

section Invalid

variable {W : Type} {this : This W OwnerFields} {u : Overrides OwnerFields} {cb : Callbacks W}
  {msg : Message} (w : W)

/-- Messages whose arguments are not those expected change nothing. -/
lemma handleInhibitMsg_invalid (cfg : OwnerConfig)
    {expected : List Arg → Option (Bytes × Bytes × InhibitType)} (nextCookie : UInt32 → UInt32)
    (now : ℕ) (hargs : expected msg.args = none) (ret : Option Message) :
    OwnerHandlers.handleInhibitMsg cfg this u cb expected nextCookie now msg ret w =
      (.error DBus.invalidArgs, w) := by
  unfold OwnerHandlers.handleInhibitMsg
  rw [getArgs_none hargs]

lemma handleUnInhibitMsg_invalid (cfg : OwnerConfig) (reply : Bool) (tail : List InhibitID)
    (hargs : oneUInt32 msg.args = none) (ret : Option Message) :
    OwnerHandlers.handleUnInhibitMsg cfg this u cb reply tail msg ret w =
      (.error DBus.invalidArgs, w) := by
  unfold OwnerHandlers.handleUnInhibitMsg
  rw [getArgs_none hargs]

lemma handleNameLostMsg_invalid (hargs : oneString msg.args = none) :
    OwnerHandlers.handleNameLostMsg this u cb msg w = (.error DBus.invalidArgs, w) := by
  unfold OwnerHandlers.handleNameLostMsg
  rw [getArgs_none hargs]

end Invalid

/-- The inhibit that an `Inhibit` call creates. -/
def newInhibit (cfg : OwnerConfig) (now : ℕ) (msg : Message) (cookie : UInt32)
    (args : Bytes × Bytes × InhibitType) : Inhibit where
  type := args.2.2
  appname := args.1
  reason := args.2.1
  id := OwnerId.mkId cfg msg.sender cookie
  created := now

/-- An implementation answers an `Inhibit` call with the next cookie and tracks the inhibit. -/
lemma handleInhibitMsg_owned (cfg : OwnerConfig) (hv : OnlySends v)
    {expected : List Arg → Option (Bytes × Bytes × InhibitType)} (nextCookie : UInt32 → UInt32)
    (now : ℕ) {msg : Message} {args : Bytes × Bytes × InhibitType}
    (hargs : expected msg.args = some args) (w : Alone OwnerFields) :
    let c := nextCookie w.obj.sub.lastCookie
    ∃ w', OwnerHandlers.handleInhibitMsg cfg Alone.this v Alone.callbacks expected nextCookie now
        msg none w = (.ok (), w') ∧
      Owned.of w' = (Owned.of w).apply (.track msg.sender (newInhibit cfg now msg c args)) ∧
      w'.obj.sub.lastCookie = c ∧
      ∃ out, w'.obj.sub.sent = w.obj.sub.sent ++ .methodReturn msg [.uint32 c] :: out := by
  intro c
  set w₁ : Alone OwnerFields := { w with
    obj := { w.obj with
      sub := OwnerFields.send (.methodReturn msg [.uint32 c])
        { w.obj.sub with lastCookie := c } } } with hw₁
  obtain ⟨w₂, hrun, howned, out, hsub⟩ :=
    registerInhibit_owned hv (newInhibit cfg now msg c args) w₁
  have hbody : OwnerHandlers.handleInhibitMsg cfg Alone.this v Alone.callbacks expected nextCookie
      now msg none w = OwnerHandlers.trackInhibit Alone.this v Alone.callbacks msg.sender
        (newInhibit cfg now msg c args) w₁ := by
    unfold OwnerHandlers.handleInhibitMsg
    rw [getArgs_some hargs]
    rfl
  rw [hbody]
  unfold OwnerHandlers.trackInhibit
  rw [hrun]
  refine ⟨_, rfl, ?_, ?_, out, ?_⟩
  · rw [show Owned.of w₁ = Owned.of w from rfl] at howned
    rw [Owned.apply_track, ← howned]
    rfl
  · show w₂.obj.sub.lastCookie = c
    rw [hsub]
    rfl
  · show w₂.obj.sub.sent = _
    rw [hsub, OwnerFields.sendAll_sent, hw₁]
    show (w.obj.sub.sent ++ [Sent.methodReturn msg [.uint32 c]]) ++ out = _
    rw [List.append_assoc, List.singleton_append]

/-- A monitor tracks the inhibit under the cookie of the return. -/
lemma handleInhibitMsg_return_owned (cfg : OwnerConfig) (hv : OnlySends v)
    {expected : List Arg → Option (Bytes × Bytes × InhibitType)} (nextCookie : UInt32 → UInt32)
    (now : ℕ) {msg ret : Message} {args : Bytes × Bytes × InhibitType}
    (hargs : expected msg.args = some args) {cookie : UInt32}
    (hret : oneUInt32 ret.args = some cookie) (w : Alone OwnerFields) :
    ∃ w', OwnerHandlers.handleInhibitMsg cfg Alone.this v Alone.callbacks expected nextCookie now
        msg (some ret) w = (.ok (), w') ∧
      Owned.of w' =
        (Owned.of w).apply (.track msg.sender (newInhibit cfg now msg cookie args)) := by
  set w₁ : Alone OwnerFields := { w with
    obj := { w.obj with
      sub := { w.obj.sub with lastCookie := nextCookie w.obj.sub.lastCookie } } } with hw₁
  obtain ⟨w₂, hrun, howned, -⟩ := registerInhibit_owned hv (newInhibit cfg now msg cookie args) w₁
  have hbody : OwnerHandlers.handleInhibitMsg cfg Alone.this v Alone.callbacks expected nextCookie
      now msg (some ret) w = OwnerHandlers.trackInhibit Alone.this v Alone.callbacks msg.sender
        (newInhibit cfg now msg cookie args) w₁ := by
    unfold OwnerHandlers.handleInhibitMsg
    rw [getArgs_some hargs]
    dsimp only
    rw [getArgs_some hret]
    rfl
  rw [hbody]
  unfold OwnerHandlers.trackInhibit
  rw [hrun]
  refine ⟨_, rfl, ?_⟩
  rw [show Owned.of w₁ = Owned.of w from rfl] at howned
  rw [Owned.apply_track, ← howned]
  rfl

/-- An `UnInhibit` call unregisters the id of its sender and takes it from the sender's list. -/
lemma handleUnInhibitMsg_owned (cfg : OwnerConfig) (hv : OnlySends v) (reply : Bool)
    (tail : List InhibitID) {msg : Message} {c : UInt32} (hargs : oneUInt32 msg.args = some c)
    (ret : Option Message) (w : Alone OwnerFields) :
    ∃ w', OwnerHandlers.handleUnInhibitMsg cfg Alone.this v Alone.callbacks reply tail msg ret w =
        (.ok (), w') ∧
      Owned.of w' =
        (Owned.of w).apply (.untrack msg.sender (OwnerId.mkId cfg msg.sender c) tail) ∧
      w'.obj.sub.lastCookie = w.obj.sub.lastCookie := by
  obtain ⟨w₁, hrun, howned, out, hsub⟩ :=
    registerUnInhibit_owned hv (OwnerId.mkId cfg msg.sender c) w
  unfold OwnerHandlers.handleUnInhibitMsg
  rw [getArgs_some hargs]
  dsimp only
  rw [hrun]
  dsimp only
  refine ⟨_, rfl, ?_, ?_⟩
  · -- an answer, if any, changes nothing of this
    rw [Owned.apply_untrack, ← howned]
    split <;> rfl
  · split <;>
    · show w₁.obj.sub.lastCookie = _
      rw [hsub]
      rfl

/-- `NameOwnerChanged` unregisters all ids of the name. -/
lemma handleNameLostMsg_owned (hv : OnlySends v) {msg : Message} {name : Bytes}
    (hargs : oneString msg.args = some name) (w : Alone OwnerFields) :
    ∃ w', OwnerHandlers.handleNameLostMsg Alone.this v Alone.callbacks msg w = (.ok (), w') ∧
      Owned.of w' = (Owned.of w).apply (.lost name) ∧
      w'.obj.sub.lastCookie = w.obj.sub.lastCookie := by
  obtain ⟨w₁, hrun, howned, out, hsub⟩ :=
    registerUnInhibitAll_owned hv (OwnerHandlers.owners name (Alone.this.get w).sub) w
  unfold OwnerHandlers.handleNameLostMsg
  rw [getArgs_some hargs]
  dsimp only
  rw [hrun]
  refine ⟨_, rfl, ?_, ?_⟩
  · rw [Owned.apply_lost, show (Owned.of w).ownersOf name =
      OwnerHandlers.owners name (Alone.this.get w).sub from rfl, ← howned]
    rfl
  · show w₁.obj.sub.lastCookie = _
    rw [hsub]
    rfl

/-- A query only sends. -/
lemma query_owned (q : OwnerHandlers.QueryMethod) (msg : Message) (ret : Option Message)
    (w : Alone OwnerFields) :
    Owned.of ((q.methodCB Alone.this).callback msg ret w).2 = Owned.of w ∧
      ((q.methodCB Alone.this).callback msg ret w).2.obj.sub.lastCookie =
        w.obj.sub.lastCookie := by
  unfold OwnerHandlers.QueryMethod.methodCB
  dsimp only
  split <;> exact ⟨rfl, rfl⟩

end Handlers

/-! ## Messages -/

namespace OwnerClass

variable (C : OwnerClass)

def IsInhibit (msg : Message) : Prop :=
  msg.type = .methodCall ∧ msg.interface = some C.interface ∧ msg.member = "Inhibit"

def IsUnInhibit (msg : Message) : Prop :=
  msg.type = .methodCall ∧ msg.interface = some C.interface ∧ msg.member = C.unInhibitMember

instance (msg : Message) : Decidable (C.IsInhibit msg) :=
  inferInstanceAs (Decidable (_ ∧ _ ∧ _))

instance (msg : Message) : Decidable (C.IsUnInhibit msg) :=
  inferInstanceAs (Decidable (_ ∧ _ ∧ _))

end OwnerClass

def IsNameOwnerChanged (msg : Message) : Prop :=
  msg.type = .signal ∧ msg.interface = some "org.freedesktop.DBus" ∧
    msg.member = "NameOwnerChanged"

instance (msg : Message) : Decidable (IsNameOwnerChanged msg) :=
  inferInstanceAs (Decidable (_ ∧ _ ∧ _))

namespace OwnerClass

variable (C : OwnerClass) (mName mName2 : Bytes) (now : ℕ) (tail : List InhibitID)

/-- The effect of a message on an implementation whose last cookie is `lastCookie`. -/
def effect (lastCookie : UInt32) (msg : Message) : Effect :=
  if msg.sender = mName ∨ msg.sender = mName2 then .none
  else if C.IsInhibit msg then
    match C.inhibitArgs msg.args with
    | some args =>
      .track msg.sender (newInhibit C.toOwnerConfig now msg (C.nextCookie lastCookie) args)
    | none => .none
  else if C.IsUnInhibit msg then
    match oneUInt32 msg.args with
    | some cookie => .untrack msg.sender (OwnerId.mkId C.toOwnerConfig msg.sender cookie) tail
    | none => .none
  else if IsNameOwnerChanged msg then
    match oneString msg.args with
    | some name => .lost name
    | none => .none
  else .none

/-- The cookie counter after a message with the effect `e`. -/
def cookieAfter (lastCookie : UInt32) : Effect → UInt32
  | .track _ _ => C.nextCookie lastCookie
  | _ => lastCookie

/-- The dispatcher of the class, run on its own. -/
def aloneDispatcher : DBus.Dispatcher (Alone OwnerFields) :=
  C.dispatcher Alone.this Alone.callbacks mName mName2 now tail

variable {C mName mName2 now tail}

section EffectCases

variable {msg : Message}

lemma effect_inhibit (now : ℕ) (tail : List InhibitID) (lastCookie : UInt32)
    (hname : ¬ (msg.sender = mName ∨ msg.sender = mName2)) (hin : C.IsInhibit msg) :
    C.effect mName mName2 now tail lastCookie msg =
      match C.inhibitArgs msg.args with
      | some args =>
        .track msg.sender (newInhibit C.toOwnerConfig now msg (C.nextCookie lastCookie) args)
      | none => .none := by
  unfold effect
  rw [if_neg hname, if_pos hin]

lemma effect_unInhibit (now : ℕ) (tail : List InhibitID) (lastCookie : UInt32)
    (hname : ¬ (msg.sender = mName ∨ msg.sender = mName2)) (hin : ¬ C.IsInhibit msg)
    (hun : C.IsUnInhibit msg) :
    C.effect mName mName2 now tail lastCookie msg =
      match oneUInt32 msg.args with
      | some cookie => .untrack msg.sender (OwnerId.mkId C.toOwnerConfig msg.sender cookie) tail
      | none => .none := by
  unfold effect
  rw [if_neg hname, if_neg hin, if_pos hun]

/-- A signal is not a call. -/
lemma not_calls_of_nameOwnerChanged (hnoc : IsNameOwnerChanged msg) :
    ¬ C.IsInhibit msg ∧ ¬ C.IsUnInhibit msg := by
  have htype : msg.type = .signal := hnoc.1
  constructor
  · intro hin
    exact absurd (htype.symm.trans hin.1) (by decide)
  · intro hun
    exact absurd (htype.symm.trans hun.1) (by decide)

lemma effect_nameOwnerChanged (now : ℕ) (tail : List InhibitID) (lastCookie : UInt32)
    (hname : ¬ (msg.sender = mName ∨ msg.sender = mName2)) (hnoc : IsNameOwnerChanged msg) :
    C.effect mName mName2 now tail lastCookie msg =
      match oneString msg.args with
      | some name => .lost name
      | none => .none := by
  obtain ⟨hin, hun⟩ := not_calls_of_nameOwnerChanged (C := C) hnoc
  unfold effect
  rw [if_neg hname, if_neg hin, if_neg hun, if_pos hnoc]

lemma effect_other (now : ℕ) (tail : List InhibitID) (lastCookie : UInt32)
    (h : (msg.sender = mName ∨ msg.sender = mName2) ∨
      ¬ C.IsInhibit msg ∧ ¬ C.IsUnInhibit msg ∧ ¬ IsNameOwnerChanged msg) :
    C.effect mName mName2 now tail lastCookie msg = .none := by
  unfold effect
  by_cases hname : msg.sender = mName ∨ msg.sender = mName2
  · exact if_pos hname
  · obtain ⟨hin, hun, hnoc⟩ := h.resolve_left hname
    rw [if_neg hname, if_neg hin, if_neg hun, if_neg hnoc]

/-- All that a message can do to the owners, and when it does. -/
lemma effect_cases (now : ℕ) (tail : List InhibitID) (lastCookie : UInt32) (msg : Message) :
    C.effect mName mName2 now tail lastCookie msg = .none ∨
      (C.IsInhibit msg ∧ ∃ args, C.effect mName mName2 now tail lastCookie msg =
        .track msg.sender (newInhibit C.toOwnerConfig now msg (C.nextCookie lastCookie) args)) ∨
      (C.IsUnInhibit msg ∧ ∃ cookie, oneUInt32 msg.args = some cookie ∧
        C.effect mName mName2 now tail lastCookie msg =
          .untrack msg.sender (OwnerId.mkId C.toOwnerConfig msg.sender cookie) tail) ∨
      (IsNameOwnerChanged msg ∧ ∃ name, oneString msg.args = some name ∧
        C.effect mName mName2 now tail lastCookie msg = .lost name) := by
  unfold effect
  split
  · exact .inl rfl
  split
  · rename_i hin
    split
    · exact .inr (.inl ⟨hin, _, rfl⟩)
    · exact .inl rfl
  split
  · rename_i hun
    split
    · rename_i cookie hargs
      exact .inr (.inr (.inl ⟨hun, cookie, hargs, rfl⟩))
    · exact .inl rfl
  split
  · rename_i hnoc
    split
    · rename_i name hargs
      exact .inr (.inr (.inr ⟨hnoc, name, hargs, rfl⟩))
    · exact .inl rfl
  · exact .inl rfl

end EffectCases

/-- A method of the table other than the first two is a query. -/
lemma lookup_query {msg : Message} (htype : msg.type = .methodCall) (hin : ¬ C.IsInhibit msg)
    (hun : ¬ C.IsUnInhibit msg) {m : DBus.MethodCB (Alone OwnerFields)}
    (h : DBus.lookup DBus.MethodCB.interface DBus.MethodCB.member msg
      (C.aloneDispatcher mName mName2 now tail).myMethods = .ok (some m)) :
    ∃ q ∈ C.queries, m = q.methodCB Alone.this := by
  obtain ⟨hmem, hmember, hinterface⟩ := DBus.lookup_ok h
  rcases List.mem_cons.mp hmem with rfl | hmem
  · exact absurd ⟨htype, hinterface, hmember.symm⟩ hin
  · rcases List.mem_cons.mp hmem with rfl | hmem
    · exact absurd ⟨htype, hinterface, hmember.symm⟩ hun
    · obtain ⟨q, hmem, hq⟩ := List.mem_map.mp hmem
      exact ⟨q, hmem, hq.symm⟩

/-- An `Inhibit` call is handed to `handleInhibitMsg`. -/
lemma deliver_inhibit (now : ℕ) (tail : List InhibitID) (hmon : C.monitor = false)
    {msg : Message} (hin : C.IsInhibit msg)
    (hname : ¬ (msg.sender = mName ∨ msg.sender = mName2)) (s : DBus.State (Alone OwnerFields)) :
    ((C.aloneDispatcher mName mName2 now tail).deliver s msg).methodCalls = s.methodCalls ∧
      ((C.aloneDispatcher mName mName2 now tail).deliver s msg).world =
        (OwnerHandlers.handleInhibitMsg C.toOwnerConfig Alone.this C.overrides Alone.callbacks
          C.inhibitArgs C.nextCookie now msg none s.world).2 := by
  obtain ⟨htype, hint, hmember⟩ := hin
  have hlookup : DBus.lookup DBus.MethodCB.interface DBus.MethodCB.member msg
      (C.aloneDispatcher mName mName2 now tail).myMethods = .ok (some _) :=
    DBus.lookup_head _ hmember.symm hint
  rw [DBus.deliver_method hmon (not_or.mp hname) htype hlookup]
  exact ⟨rfl, rfl⟩

/-- An `UnInhibit` call is handed to `handleUnInhibitMsg`. -/
lemma deliver_unInhibit (now : ℕ) (tail : List InhibitID) (hmon : C.monitor = false)
    {msg : Message} (hin : ¬ C.IsInhibit msg) (hun : C.IsUnInhibit msg)
    (hname : ¬ (msg.sender = mName ∨ msg.sender = mName2)) (s : DBus.State (Alone OwnerFields)) :
    ((C.aloneDispatcher mName mName2 now tail).deliver s msg).methodCalls = s.methodCalls ∧
      ((C.aloneDispatcher mName mName2 now tail).deliver s msg).world =
        (OwnerHandlers.handleUnInhibitMsg C.toOwnerConfig Alone.this C.overrides Alone.callbacks
          C.replyUnInhibit tail msg none s.world).2 := by
  obtain ⟨htype, hint, hmember⟩ := hun
  have hlookup : DBus.lookup DBus.MethodCB.interface DBus.MethodCB.member msg
      (C.aloneDispatcher mName mName2 now tail).myMethods = .ok (some _) :=
    (DBus.lookup_skip _ hint fun h => hin ⟨htype, hint, h.1.symm⟩).trans
      (DBus.lookup_head _ hmember.symm hint)
  rw [DBus.deliver_method hmon (not_or.mp hname) htype hlookup]
  exact ⟨rfl, rfl⟩

/-- `NameOwnerChanged` is handed to `handleNameLostMsg`, whoever sent it. -/
lemma deliver_nameOwnerChanged (C : OwnerClass) (now : ℕ) (tail : List InhibitID)
    {msg : Message} (hnoc : IsNameOwnerChanged msg)
    (hname : ¬ (msg.sender = mName ∨ msg.sender = mName2)) (s : DBus.State (Alone OwnerFields)) :
    ((C.aloneDispatcher mName mName2 now tail).deliver s msg).methodCalls = s.methodCalls ∧
      ((C.aloneDispatcher mName mName2 now tail).deliver s msg).world =
        (OwnerHandlers.handleNameLostMsg Alone.this C.overrides Alone.callbacks msg s.world).2 := by
  obtain ⟨htype, hint, hmember⟩ := hnoc
  have hlookup : DBus.lookup DBus.SignalCB.interface DBus.SignalCB.member msg
      (C.aloneDispatcher mName mName2 now tail).mySignals = .ok (some _) :=
    DBus.lookup_head _ hmember.symm hint
  rw [DBus.deliver_signal (not_or.mp hname) htype hlookup]
  exact ⟨rfl, rfl⟩

/-- Any other message is a query or changes nothing. -/
lemma deliver_other_world (C : OwnerClass) (mName mName2 : Bytes) (now : ℕ)
    (tail : List InhibitID) (hmon : C.monitor = false) {msg : Message}
    (h : (msg.sender = mName ∨ msg.sender = mName2) ∨
      ¬ C.IsInhibit msg ∧ ¬ C.IsUnInhibit msg ∧ ¬ IsNameOwnerChanged msg)
    {s : DBus.State (Alone OwnerFields)} (hcalls : s.methodCalls = ∅) :
    let s' := (C.aloneDispatcher mName mName2 now tail).deliver s msg
    s'.methodCalls = ∅ ∧ (s'.world = s.world ∨
      ∃ q ∈ C.queries, s'.world = ((q.methodCB Alone.this).callback msg none s.world).2) := by
  have hmon' : (C.aloneDispatcher mName mName2 now tail).monitor = false := hmon
  intro s'
  unfold s' DBus.Dispatcher.deliver DBus.Dispatcher.dispatch
  split
  · exact ⟨hcalls, .inl rfl⟩
  rename_i hname
  split
  · exact ⟨hcalls, .inl rfl⟩
  rename_i hname2
  obtain ⟨hin, hun, hnoc⟩ := h.resolve_left fun hor => hor.elim hname hname2
  split
  · rename_i htype
    split
    · exact ⟨hcalls, .inl rfl⟩
    · exact ⟨hcalls, .inl rfl⟩
    · rename_i method hlookup
      obtain ⟨q, hq, rfl⟩ := lookup_query htype hin hun hlookup
      rw [if_neg (by rw [hmon']; decide)]
      exact ⟨hcalls, .inr ⟨q, hq, rfl⟩⟩
  · rw [hcalls, Std.ExtTreeMap.getElem?_empty]
    exact ⟨hcalls, .inl rfl⟩
  · rename_i htype
    split
    · exact ⟨hcalls, .inl rfl⟩
    · exact ⟨hcalls, .inl rfl⟩
    · rename_i signal hlookup
      obtain ⟨hmem, hmember, hinterface⟩ := DBus.lookup_ok hlookup
      rw [List.mem_singleton.mp hmem] at hmember hinterface
      exact absurd ⟨htype, hinterface, hmember.symm⟩ hnoc
  · exact ⟨hcalls, .inl rfl⟩

/-- Any other message leaves what is active, the owners and the cookie counter alone. -/
lemma deliver_other (hmon : C.monitor = false) {msg : Message}
    (h : (msg.sender = mName ∨ msg.sender = mName2) ∨
      ¬ C.IsInhibit msg ∧ ¬ C.IsUnInhibit msg ∧ ¬ IsNameOwnerChanged msg)
    {s : DBus.State (Alone OwnerFields)} (hcalls : s.methodCalls = ∅) :
    let s' := (C.aloneDispatcher mName mName2 now tail).deliver s msg
    s'.methodCalls = ∅ ∧ Owned.of s'.world = Owned.of s.world ∧
      s'.world.obj.sub.lastCookie = s.world.obj.sub.lastCookie := by
  obtain ⟨hcalls', hworld | ⟨q, -, hworld⟩⟩ :=
    C.deliver_other_world mName mName2 now tail hmon h hcalls
  · intro s'
    rw [show s'.world = s.world from hworld]
    exact ⟨hcalls', rfl, rfl⟩
  · intro s'
    rw [show s'.world = _ from hworld]
    exact ⟨hcalls', query_owned q msg none s.world⟩

/-- What a message does to an implementation. -/
lemma deliver_owned (hv : OnlySends C.overrides) (hmon : C.monitor = false)
    {s : DBus.State (Alone OwnerFields)} (hcalls : s.methodCalls = ∅) (msg : Message) :
    let s' := (C.aloneDispatcher mName mName2 now tail).deliver s msg
    let e := C.effect mName mName2 now tail s.world.obj.sub.lastCookie msg
    s'.methodCalls = ∅ ∧ Owned.of s'.world = (Owned.of s.world).apply e ∧
      s'.world.obj.sub.lastCookie = C.cookieAfter s.world.obj.sub.lastCookie e := by
  intro s' e
  by_cases hname : msg.sender = mName ∨ msg.sender = mName2
  · have he : e = .none := effect_other now tail _ (Or.inl hname)
    rw [he]
    exact deliver_other hmon (Or.inl hname) hcalls
  -- only Inhibit, UnInhibit and NameOwnerChanged act
  by_cases hin : C.IsInhibit msg
  · obtain ⟨hmc, hworld⟩ := deliver_inhibit now tail hmon hin hname s
    refine ⟨hmc.trans hcalls, ?_⟩
    unfold e s'
    rw [hworld, effect_inhibit now tail _ hname hin]
    cases hargs : C.inhibitArgs msg.args with
    | none =>
      rw [handleInhibitMsg_invalid _ _ _ _ hargs]
      exact ⟨rfl, rfl⟩
    | some args =>
      obtain ⟨w', hrun, howned, hcookie, -⟩ :=
        handleInhibitMsg_owned C.toOwnerConfig hv C.nextCookie now hargs s.world
      rw [hrun]
      exact ⟨howned, hcookie⟩
  by_cases hun : C.IsUnInhibit msg
  · obtain ⟨hmc, hworld⟩ := deliver_unInhibit now tail hmon hin hun hname s
    refine ⟨hmc.trans hcalls, ?_⟩
    unfold e s'
    rw [hworld, effect_unInhibit now tail _ hname hin hun]
    cases hargs : oneUInt32 msg.args with
    | none =>
      rw [handleUnInhibitMsg_invalid _ _ _ _ hargs]
      exact ⟨rfl, rfl⟩
    | some c =>
      obtain ⟨w', hrun, howned, hcookie⟩ := handleUnInhibitMsg_owned C.toOwnerConfig hv
        C.replyUnInhibit tail hargs none s.world
      rw [hrun]
      exact ⟨howned, hcookie⟩
  by_cases hnoc : IsNameOwnerChanged msg
  · obtain ⟨hmc, hworld⟩ := deliver_nameOwnerChanged C now tail hnoc hname s
    refine ⟨hmc.trans hcalls, ?_⟩
    unfold e s'
    rw [hworld, effect_nameOwnerChanged now tail _ hname hnoc]
    cases hargs : oneString msg.args with
    | none =>
      rw [handleNameLostMsg_invalid _ hargs]
      exact ⟨rfl, rfl⟩
    | some name =>
      obtain ⟨w', hrun, howned, hcookie⟩ := handleNameLostMsg_owned hv hargs s.world
      rw [hrun]
      exact ⟨howned, hcookie⟩
  · have he : e = .none := effect_other now tail _ (Or.inr ⟨hin, hun, hnoc⟩)
    rw [he]
    exact deliver_other hmon (Or.inr ⟨hin, hun, hnoc⟩) hcalls

end OwnerClass

end UnifiedInhibit
