import UnifiedInhibit.DBusOwners

/-!
# Inhibits that expire

`handleSimActivityMsg` and `poll` of `GnomeScreenSaverInhibitInterface.cpp` and
`CinnamonScreenSaverInhibitInterface.cpp`: a call of `SimulateUserActivity` is an inhibit that
expires in 5 minutes. The two classes differ in a few values, the fields of `SimActivity`.
-/

namespace UnifiedInhibit

open DBus (Message)

/-- The values in which the two classes differ. -/
structure SimActivity (σ : Type) where
  monitor : Bool
  inhibitType : InhibitType
  /-- the id of the inhibit of a sender -/
  mkId : Bytes → InhibitID
  /-- whether an id is one of these: `idStruct->cookie == 0`, or no check -/
  isSim : InhibitID → Bool
  /-- `idStruct->sender`, up to its NUL -/
  sender : InhibitID → Bytes
  inhibitOwners : σ → StdMap Bytes (List InhibitID)
  setInhibitOwners : StdMap Bytes (List InhibitID) → σ → σ
  /-- `newMethodReturn().send()` -/
  sendReturn : Message → σ → σ

/-- What a `const char*` points to: the array in the key of an active inhibit, or the string that
libdbus keeps for a message. -/
inductive SenderPtr where
  | idStruct (id : InhibitID)
  | message (msg : Message)
deriving DecidableEq

/-- `created <= time(NULL) - 60*5`. Below 300 the unsigned difference wraps around. -/
def expired (now created : ℕ) : Bool := now < 60 * 5 || created ≤ now - 60 * 5

namespace SimActivity

/-- The class as a part of an object with more fields. -/
def embed {σ ρ : Type} (C : SimActivity ρ) (get : σ → ρ) (set : ρ → σ → σ) : SimActivity σ :=
  { C with
    inhibitOwners := fun s => C.inhibitOwners (get s)
    setInhibitOwners := fun m s => set (C.setInhibitOwners m (get s)) s
    sendReturn := fun msg s => set (C.sendReturn msg (get s)) s }

variable {σ : Type} (C : SimActivity σ)

/-- `inhibitOwners[name].clear()` -/
def clearOwner (name : Bytes) (s : σ) : σ :=
  C.setInhibitOwners ((C.inhibitOwners s).insert name []) s

/-- `inhibitOwners[name].push_back(id)` -/
def pushOwner (name : Bytes) (id : InhibitID) (s : σ) : σ :=
  C.setInhibitOwners
    ((C.inhibitOwners s).insert name (((C.inhibitOwners s)[name]?).getD [] ++ [id])) s

/-- The inhibit of a `SimulateUserActivity`. -/
def inhibitOf (now : ℕ) (msg : Message) : Inhibit :=
  { type := C.inhibitType, appname := msg.sender, reason := lit "SimulateUserActivity"
    id := C.mkId msg.sender, created := now }

/-- The ids to be unregistered in `handleSimActivityMsg`. `==` compares the two pointers, not the
strings. -/
def sameSender (msg : Message) (b : Base) : List InhibitID :=
  b.activeInhibits.keys.filter fun id =>
    C.isSim id && SenderPtr.idStruct id = SenderPtr.message msg

/-- The entries that `poll` unregisters. -/
def expiredIn (now : ℕ) (b : Base) : List (InhibitID × Inhibit) :=
  b.activeInhibits.toList.filter fun p => C.isSim p.1 && expired now p.2.created

section Handlers

variable {W : Type} (this : This W σ) (v : Overrides σ) (cb : Callbacks W)

/-- `for (auto& id : eraseIDs) this->registerUnInhibit(id)` -/
def eraseAll : List InhibitID → W → Outcome W Unit
  | [], w => (.ok (), w)
  | id :: eraseIDs, w =>
    match this.registerUnInhibit v cb id w with
    | (.error e, w) => (.error e, w)
    | (.ok (), w) => eraseAll eraseIDs w

/-- `handleSimActivityMsg` up to the registration. -/
def clearSender (msg : Message) (w : W) : Outcome W Unit :=
  match eraseAll this v cb (C.sameSender msg (this.get w).toBase) w with
  | (.error e, w) => (.error e, w)
  | (.ok (), w) => (.ok (), this.modifySub (C.clearOwner msg.sender) w)

def handleSimActivityMsg (now : ℕ) (msg : Message) (_ret : Option Message) (w : W) :
    Outcome W Unit :=
  match C.clearSender this v cb msg w with
  | (.error e, w) => (.error e, w)
  | (.ok (), w) =>
    match this.registerInhibit v cb (C.inhibitOf now msg) w with
    | (.error e, w) => (.error e, w)
    | (.ok (), w) =>
      let w := this.modifySub (C.pushOwner msg.sender (C.mkId msg.sender)) w
      (.ok (), if C.monitor then w else this.modifySub (C.sendReturn msg) w)

def poll (now : ℕ) (w : W) : Outcome W Unit :=
  let eraseIDs := C.expiredIn now (this.get w).toBase
  let w := this.modifySub (fun s => eraseIDs.foldl (fun s p => C.clearOwner (C.sender p.1) s) s) w
  eraseAll this v cb (eraseIDs.map Prod.fst) w

end Handlers

/-- No key of the map is the string of the message. -/
lemma sameSender_eq_nil (msg : Message) (b : Base) : C.sameSender msg b = [] := by
  unfold sameSender
  apply List.filter_eq_nil_iff.mpr
  intro id _
  simp

/-! ## On its own -/

section Alone

variable {C} {v : Overrides σ} (hv : v.NoEvents)
include hv

lemma eraseAll_alone (ids : List InhibitID) (w : Alone σ) :
    ∃ w', eraseAll Alone.this v Alone.callbacks ids w = (.ok (), w') ∧
      (∀ id, id ∈ w'.obj.activeInhibits ↔ id ∈ w.obj.activeInhibits ∧ id ∉ ids) ∧
      w'.obj.sub = w.obj.sub := by
  induction ids generalizing w with
  | nil => exact ⟨w, rfl, by simp, rfl⟩
  | cons id ids ih =>
    obtain ⟨w₁, hrun₁, hactive₁, hsub₁⟩ := hv.registerUnInhibit_alone id w
    obtain ⟨w₂, hrun₂, hactive₂, hsub₂⟩ := ih w₁
    refine ⟨w₂, ?_, fun j => ?_, hsub₂.trans hsub₁⟩
    · rw [eraseAll, hrun₁]
      exact hrun₂
    · rw [hactive₂, hactive₁, List.mem_cons, not_or, and_assoc]

/-- A message clears the owner's list, which then holds the new id only. -/
lemma handleSimActivityMsg_alone (now : ℕ) (msg : Message) (ret : Option Message) (w : Alone σ) :
    ∃ w', C.handleSimActivityMsg Alone.this v Alone.callbacks now msg ret w = (.ok (), w') ∧
      w'.obj.activeInhibits =
        w.obj.activeInhibits.insertIfNew (C.mkId msg.sender) (C.inhibitOf now msg) ∧
      w'.obj.sub =
        let s := C.pushOwner msg.sender (C.mkId msg.sender) (C.clearOwner msg.sender w.obj.sub)
        if C.monitor then s else C.sendReturn msg s := by
  obtain ⟨w₁, hrun, hactive, hsub, -⟩ := hv.registerInhibit_alone (C.inhibitOf now msg)
    (Alone.this.modifySub (C.clearOwner msg.sender) w)
  unfold handleSimActivityMsg clearSender
  rw [sameSender_eq_nil]
  dsimp only [eraseAll]
  rw [hrun]
  dsimp only
  have hsub : w₁.obj.sub = C.clearOwner msg.sender w.obj.sub := hsub
  cases C.monitor
  · refine ⟨_, rfl, hactive, ?_⟩
    rw [← hsub]
    rfl
  · refine ⟨_, rfl, hactive, ?_⟩
    rw [← hsub]
    rfl

lemma poll_alone (now : ℕ) (w : Alone σ) :
    ∃ w', C.poll Alone.this v Alone.callbacks now w = (.ok (), w') ∧
      (∀ id, id ∈ w'.obj.activeInhibits ↔ id ∈ w.obj.activeInhibits ∧
        id ∉ (C.expiredIn now w.obj.toBase).map Prod.fst) ∧
      w'.obj.sub = (C.expiredIn now w.obj.toBase).foldl
        (fun s p => C.clearOwner (C.sender p.1) s) w.obj.sub :=
  eraseAll_alone hv _ _

end Alone

end SimActivity

end UnifiedInhibit
