import UnifiedInhibit.DBusOwnersTheorems
import UnifiedInhibit.SimpleDBusInhibitInterface
import UnifiedInhibit.GnomeSessionManagerInhibitInterface

/-!
# The invariant of the owner table

`OwnersOk` ties the owner table to what is active: a client's list holds ids of that client only,
and every active inhibit of a client is in its list. Every effect keeps it, and so every step of
an implementation of one of the two classes (`Tracking.step`).
-/

namespace UnifiedInhibit

open DBus (Arg Message)

/-! ## Reading the effects -/

namespace Owned

@[simp] lemma ownersOf_register (o : Owned) (i : Inhibit) (name : Bytes) :
    (o.register i).ownersOf name = o.ownersOf name := rfl

@[simp] lemma ownersOf_unregister (o : Owned) (id : InhibitID) (name : Bytes) :
    (o.unregister id).ownersOf name = o.ownersOf name := by
  unfold unregister
  split <;> rfl

@[simp] lemma active_setOwners (o : Owned) (name : Bytes) (ids : List InhibitID) :
    (o.setOwners name ids).active = o.active := rfl

lemma ownersOf_setOwners (o : Owned) (name : Bytes) (ids : List InhibitID) (name' : Bytes) :
    (o.setOwners name ids).ownersOf name' = if name' = name then ids else o.ownersOf name' := by
  unfold ownersOf setOwners
  dsimp only
  rw [StdMap.getElem?_insert]
  split <;> rfl

lemma active_register (o : Owned) (i : Inhibit) (id : InhibitID) :
    (o.register i).active[id]? =
      if id = i.id ∧ o.active[i.id]? = none then some i else o.active[id]? :=
  StdMap.getElem?_insertIfNew _ _ _ _

lemma active_unregister (o : Owned) (k id : InhibitID) :
    (o.unregister k).active[id]? = if id = k then none else o.active[id]? := by
  unfold unregister
  split
  · rename_i hnone
    split
    · rename_i heq
      rw [heq, hnone]
    · rfl
  · exact StdMap.getElem?_erase _ _ _

@[simp] lemma ownersOf_unregisterAll (ids : List InhibitID) (o : Owned) (name : Bytes) :
    (ids.foldl unregister o).ownersOf name = o.ownersOf name := by
  induction ids generalizing o with
  | nil => rfl
  | cons id ids ih => rw [List.foldl_cons, ih, ownersOf_unregister]

lemma active_unregisterAll (ids : List InhibitID) (o : Owned) (id : InhibitID) :
    (ids.foldl unregister o).active[id]? = if id ∈ ids then none else o.active[id]? := by
  induction ids generalizing o with
  | nil => rfl
  | cons k ids ih =>
    rw [List.foldl_cons, ih, active_unregister]
    simp only [List.mem_cons]
    split_ifs <;> tauto

lemma active_track (o : Owned) (sender : Bytes) (i : Inhibit) (id : InhibitID) :
    (o.apply (.track sender i)).active[id]? =
      if id = i.id ∧ o.active[i.id]? = none then some i else o.active[id]? := by
  rw [apply_track, active_setOwners, active_register]

lemma active_untrack (o : Owned) (sender : Bytes) (k : InhibitID) (tail : List InhibitID)
    (id : InhibitID) :
    (o.apply (.untrack sender k tail)).active[id]? = if id = k then none else o.active[id]? := by
  rw [apply_untrack, active_setOwners, active_unregister]

lemma active_lost (o : Owned) (name : Bytes) (id : InhibitID) :
    (o.apply (.lost name)).active[id]? =
      if id ∈ o.ownersOf name then none else o.active[id]? := by
  rw [apply_lost, active_setOwners, active_unregisterAll]

lemma ownersOf_track (o : Owned) (sender : Bytes) (i : Inhibit) (name : Bytes) :
    (o.apply (.track sender i)).ownersOf name =
      if name = sender then o.ownersOf sender ++ [i.id] else o.ownersOf name := by
  rw [apply_track, ownersOf_setOwners, ownersOf_register, ownersOf_register]

lemma ownersOf_untrack (o : Owned) (sender : Bytes) (k : InhibitID) (tail : List InhibitID)
    (name : Bytes) :
    (o.apply (.untrack sender k tail)).ownersOf name =
      if name = sender then removeIf (fun eid => k = eid) (o.ownersOf sender) tail
      else o.ownersOf name := by
  rw [apply_untrack, ownersOf_setOwners, ownersOf_unregister, ownersOf_unregister]

lemma ownersOf_lost (o : Owned) (name name' : Bytes) :
    (o.apply (.lost name)).ownersOf name' = if name' = name then [] else o.ownersOf name' := by
  rw [apply_lost, ownersOf_setOwners, ownersOf_unregisterAll]

end Owned

/-! ## The invariant -/

/-- A client's list holds ids of that client only (or what was moved from), and what is active is
our own or in its client's list. -/
structure OwnersOk (cfg : OwnerConfig) (o : Owned) : Prop where
  listed : ∀ name, ∀ id ∈ o.ownersOf name,
    id = [] ∨ ClientName name ∧ ∃ c, id = OwnerId.mkId cfg name c
  active : ∀ id : InhibitID, (o.active[id]?).isSome →
    ∃ name c, id = OwnerId.mkId cfg name c ∧
      (name = lit "us" ∨ ClientName name ∧ id ∈ o.ownersOf name)

/-- The effects that messages of clients and of the bus can have. -/
def Effect.Legal (cfg : OwnerConfig) (o : Owned) : Effect → Prop
  | .none => True
  | .track sender i => ClientName sender ∧ ∃ c, i.id = OwnerId.mkId cfg sender c
  | .untrack sender id tail =>
    ClientName sender ∧ (∃ c, id = OwnerId.mkId cfg sender c) ∧
      Leftover id (o.ownersOf sender) tail
  | .lost _ => True

section Invariant

variable {cfg : OwnerConfig}

/-- Removing an id keeps the others, and what is left behind was there before or is empty. -/
lemma mem_removeIf {id x : InhibitID} {xs tail : List InhibitID} (ht : Leftover id xs tail) :
    (x ∈ xs → x ≠ id → x ∈ removeIf (fun eid => id = eid) xs tail) ∧
      (x ∈ removeIf (fun eid => id = eid) xs tail → x ∈ xs ∨ x = []) := by
  constructor
  · intro hx hne
    apply List.mem_append_left
    apply List.mem_filter.mpr
    exact ⟨hx, by simp [Ne.symm hne]⟩
  · intro hx
    rcases List.mem_append.mp hx with hx | hx
    · exact Or.inl (List.mem_filter.mp hx).1
    · exact ht.2 x hx

lemma OwnersOk.apply {o : Owned} (h : OwnersOk cfg o) {e : Effect} (he : e.Legal cfg o) :
    OwnersOk cfg (o.apply e) := by
  cases e with
  | none => exact h
  | track sender i =>
    obtain ⟨hsender, c, hc⟩ := he
    constructor
    · intro name id hid
      rw [Owned.ownersOf_track] at hid
      split at hid
      · rename_i hname
        rw [hname]
        rcases List.mem_append.mp hid with hid | hid
        · exact h.listed sender id hid
        · rw [List.mem_singleton.mp hid]
          exact Or.inr ⟨hsender, c, hc⟩
      · exact h.listed name id hid
    · intro id hid
      rw [Owned.active_track] at hid
      -- the id becomes active together with its place in the list of its sender
      by_cases hnew : id = i.id
      · refine ⟨sender, c, hnew.trans hc, Or.inr ⟨hsender, ?_⟩⟩
        rw [Owned.ownersOf_track, if_pos rfl, hnew]
        exact List.mem_append_right _ (List.mem_singleton_self _)
      · rw [if_neg fun hand => hnew hand.1] at hid
        obtain ⟨name, c', hc', hown⟩ := h.active id hid
        refine ⟨name, c', hc', hown.imp_right fun hlist => ⟨hlist.1, ?_⟩⟩
        rw [Owned.ownersOf_track]
        split
        · rename_i hname
          rw [← hname]
          exact List.mem_append_left _ hlist.2
        · exact hlist.2
  | untrack sender k tail =>
    obtain ⟨hsender, ⟨c, hc⟩, htail⟩ := he
    constructor
    · intro name id hid
      -- what `remove_if` leaves behind is in the list still, or an empty id
      rw [Owned.ownersOf_untrack] at hid
      split at hid
      · rename_i hname
        rw [hname]
        rcases (mem_removeIf htail).2 hid with hid | hid
        · exact h.listed sender id hid
        · exact Or.inl hid
      · exact h.listed name id hid
    · intro id hid
      rw [Owned.active_untrack] at hid
      split at hid
      · cases hid
      · rename_i hne
        obtain ⟨name, c', hc', hown⟩ := h.active id hid
        refine ⟨name, c', hc', hown.imp_right fun hlist => ⟨hlist.1, ?_⟩⟩
        rw [Owned.ownersOf_untrack]
        split
        · rename_i hname
          rw [hname] at hlist
          exact (mem_removeIf htail).1 hlist.2 hne
        · exact hlist.2
  | lost name =>
    constructor
    · intro name' id hid
      rw [Owned.ownersOf_lost] at hid
      split at hid
      · exact absurd hid List.not_mem_nil
      · exact h.listed name' id hid
    · intro id hid
      -- what stays active is in no list of the name that is gone
      rw [Owned.active_lost] at hid
      split at hid
      · cases hid
      · rename_i hnot
        obtain ⟨name', c', hc', hown⟩ := h.active id hid
        refine ⟨name', c', hc', hown.imp_right fun hlist => ⟨hlist.1, ?_⟩⟩
        rw [Owned.ownersOf_lost, if_neg]
        · exact hlist.2
        · intro heq
          rw [heq] at hlist
          exact hnot hlist.2

/-- Our own inhibits are not in any list. -/
lemma OwnersOk.register_us {o : Owned} (h : OwnersOk cfg o) {i : Inhibit} {c : UInt32}
    (hc : i.id = OwnerId.mkId cfg (lit "us") c) :
    OwnersOk cfg { o with active := o.active.insertIfNew i.id i } where
  listed := h.listed
  active id hid := by
    by_cases hnew : id = i.id
    · exact ⟨lit "us", c, hnew.trans hc, Or.inl rfl⟩
    · dsimp only at hid
      rw [StdMap.getElem?_insertIfNew, if_neg fun hand => hnew hand.1] at hid
      exact h.active id hid

lemma OwnersOk.unregister_us {o : Owned} (h : OwnersOk cfg o) (id : InhibitID) :
    OwnersOk cfg { o with active := o.active.erase id } where
  listed := h.listed
  active id' hid := by
    dsimp only at hid
    rw [StdMap.getElem?_erase] at hid
    split at hid
    · cases hid
    · exact h.active id' hid

/-- A legal effect on behalf of `B` keeps `A`'s inhibits, unless it reports `A` as lost. -/
lemma OwnersOk.apply_keeps {o : Owned} (h : OwnersOk cfg o) {A : Bytes} (hA : ClientName A)
    (c : UInt32) {e : Effect} (he : e.Legal cfg o)
    (hother : ∀ id tail, e ≠ .untrack A id tail) (hlost : e ≠ .lost A)
    (hsome : (o.active[OwnerId.mkId cfg A c]?).isSome) :
    (o.apply e).active[OwnerId.mkId cfg A c]? = o.active[OwnerId.mkId cfg A c]? := by
  cases e with
  | none => rfl
  | track sender i =>
    rw [Owned.active_track, if_neg]
    rintro ⟨heq, hnone⟩
    rw [heq, hnone] at hsome
    cases hsome
  | untrack sender k tail =>
    obtain ⟨hsender, ⟨c', hc'⟩, -⟩ := he
    rw [Owned.active_untrack, if_neg]
    intro heq
    rw [hc', OwnerId.mkId_inj cfg hA.fits hsender.fits] at heq
    exact hother k tail (by rw [heq.1])
  | lost name =>
    rw [Owned.active_lost, if_neg]
    intro hmem
    rcases h.listed name _ hmem with hnil | ⟨hname, c', hc'⟩
    · exact OwnerId.mkId_ne_nil cfg hA.fits c hnil
    · rw [OwnerId.mkId_inj cfg hA.fits hname.fits] at hc'
      exact hlost (by rw [hc'.1])

/-- Reporting a client as lost takes all its inhibits away. -/
lemma OwnersOk.apply_lost {o : Owned} (h : OwnersOk cfg o) {A : Bytes} (hA : ClientName A)
    (c : UInt32) : (o.apply (.lost A)).active[OwnerId.mkId cfg A c]? = none := by
  rw [Owned.active_lost]
  split
  · rfl
  · rename_i hnot
    by_contra hne
    obtain ⟨name, c', hc', hown⟩ := h.active _ (Option.isSome_iff_ne_none.mpr hne)
    rcases hown with rfl | ⟨hname, hlist⟩
    · rw [OwnerId.mkId_inj cfg hA.fits fits_us] at hc'
      exact hA.ne_us hc'.1
    · rw [OwnerId.mkId_inj cfg hA.fits hname.fits] at hc'
      rw [← hc'.1] at hlist
      exact hnot hlist

end Invariant

/-! ## The two classes -/

/-- An object of one of the two classes. -/
inductive OwnerKind where
  | simpleDBus (cfg : SimpleDBusInhibitInterface.Config)
  | gnomeSessionManager (cfg : OwnerConfig)

namespace OwnerKind

def toClass : OwnerKind → OwnerClass
  | .simpleDBus cfg =>
    { cfg.toOwnerConfig with
      interface := cfg.interface
      unInhibitMember := "UnInhibit"
      inhibitArgs := fun args =>
        (twoStrings args).map fun (appname, reason) => (appname, reason, cfg.inhibitType)
      nextCookie := SimpleDBusInhibitInterface.nextCookie
      replyUnInhibit := true
      overrides := SimpleDBusInhibitInterface.overrides cfg
      queries := ⟨"org.freedesktop.DBus.Introspectable", "Introspect",
        SimpleDBusInhibitInterface.handleIntrospect cfg⟩ :: cfg.myMethods }
  | .gnomeSessionManager cfg =>
    { cfg with
      interface := GnomeSessionManagerInhibitInterface.INTERFACE
      unInhibitMember := "Uninhibit"
      inhibitArgs := GnomeSessionManagerInhibitInterface.inhibitArgs
      nextCookie := GnomeSessionManagerInhibitInterface.nextCookie
      replyUnInhibit := false
      overrides := GnomeSessionManagerInhibitInterface.overrides cfg
      queries := GnomeSessionManagerInhibitInterface.queries cfg }

/-- The dispatcher that the constructor of the class sets up. An implementation has no second
connection, so `mName2` is empty. -/
def dispatcher (mName : Bytes) (now : ℕ) (tail : List InhibitID) :
    OwnerKind → DBus.Dispatcher (Alone OwnerFields)
  | .simpleDBus cfg =>
    SimpleDBusInhibitInterface.dispatcher cfg Alone.this Alone.callbacks mName [] now tail
  | .gnomeSessionManager cfg =>
    GnomeSessionManagerInhibitInterface.dispatcher cfg Alone.this Alone.callbacks mName [] now tail

lemma dispatcher_eq (K : OwnerKind) (mName : Bytes) (now : ℕ) (tail : List InhibitID) :
    K.dispatcher mName now tail = K.toClass.aloneDispatcher mName [] now tail := by
  cases K <;> rfl

def config (K : OwnerKind) : OwnerConfig := K.toClass.toOwnerConfig

/-- `mkId` -/
def mkId (K : OwnerKind) : Bytes → UInt32 → InhibitID := OwnerId.mkId K.config

/-- What the daemon's own calls do in implementation mode. -/
structure OwnCalls (C : OwnerClass) : Prop where
  sends : OnlySends C.overrides
  inhibit : ∀ now r s, C.overrides.doInhibit now r s = (.error .unsupportedType, s) ∨
    ∃ i, i.id = OwnerId.mkId C.toOwnerConfig (lit "us") (C.nextCookie s.lastCookie) ∧
      C.overrides.doInhibit now r s = (.ok i, { s with lastCookie := C.nextCookie s.lastCookie })
  unInhibit : ∀ b id s, C.overrides.doUnInhibit b id s = (.ok (), s)

lemma ownCalls (K : OwnerKind) (hmon : K.config.monitor = false) : OwnCalls K.toClass := by
  cases K with
  | simpleDBus cfg =>
    have hmon : cfg.monitor = false := hmon
    refine ⟨⟨fun i s => ⟨[], (OwnerFields.sendAll_nil s).symm⟩,
      fun i s => ⟨[], (OwnerFields.sendAll_nil s).symm⟩, fun t i s => ⟨_, rfl⟩⟩, ?_, ?_⟩
    · intro now r s
      show SimpleDBusInhibitInterface.doInhibit cfg now r s = _ ∨ ∃ i, _ ∧
        SimpleDBusInhibitInterface.doInhibit cfg now r s = _
      unfold SimpleDBusInhibitInterface.doInhibit
      rw [if_neg (show ¬ cfg.monitor = true by rw [hmon]; decide)]
      split
      · exact Or.inl rfl
      · exact Or.inr ⟨_, rfl, rfl⟩
    · intro b id s
      show SimpleDBusInhibitInterface.doUnInhibit cfg b id s = _
      unfold SimpleDBusInhibitInterface.doUnInhibit
      rw [if_neg (by rw [hmon]; decide)]
  | gnomeSessionManager cfg =>
    have hmon : cfg.monitor = false := hmon
    refine ⟨⟨fun i s => ⟨_, rfl⟩, fun i s => ⟨_, rfl⟩,
      fun t i s => ⟨[], (OwnerFields.sendAll_nil s).symm⟩⟩, ?_, ?_⟩
    · intro now r s
      show GnomeSessionManagerInhibitInterface.doInhibit cfg now r s = _ ∨ ∃ i, _ ∧
        GnomeSessionManagerInhibitInterface.doInhibit cfg now r s = _
      unfold GnomeSessionManagerInhibitInterface.doInhibit
      rw [if_neg (show ¬ cfg.monitor = true by rw [hmon]; decide)]
      split
      · exact Or.inl rfl
      · exact Or.inr ⟨_, rfl, rfl⟩
    · intro b id s
      show GnomeSessionManagerInhibitInterface.doUnInhibit cfg b id s = _
      unfold GnomeSessionManagerInhibitInterface.doUnInhibit
      rw [if_neg (by rw [hmon]; decide)]

/-! ## Runs -/

/-- What can happen to an implementation: a message arrives, or the daemon makes a call. -/
inductive Event where
  | message (now : ℕ) (tail : List InhibitID) (msg : Message)
  | inhibit (now : ℕ) (r : InhibitRequest)
  /-- The daemon releases the inhibit that it got under `cookie`. -/
  | unInhibit (cookie : UInt32)

abbrev State := DBus.State (Alone OwnerFields)

def initial : State := { world := { obj := { sub := {} } } }

def step (K : OwnerKind) (mName : Bytes) (s : State) : Event → State
  | .message now tail msg => (K.dispatcher mName now tail).deliver s msg
  | .inhibit now r =>
    { s with world := { s.world with
      obj := (InhibitInterface.inhibit K.toClass.overrides now r s.world.obj).2 } }
  | .unInhibit cookie =>
    { s with world := { s.world with
      obj := (InhibitInterface.unInhibit K.toClass.overrides (K.mkId (lit "us") cookie)
        s.world.obj).2 } }

/-- The inhibit that is active under the id of `name` and `cookie`. -/
def activeOf (K : OwnerKind) (s : State) (name : Bytes) (cookie : UInt32) : Option Inhibit :=
  s.world.obj.activeInhibits[K.mkId name cookie]?

/-- What `std::remove_if` leaves behind while `msg` is handled. -/
def LeftoverOf (K : OwnerKind) (s : State) (tail : List InhibitID) (msg : Message) : Prop :=
  ∀ cookie, K.toClass.IsUnInhibit msg → oneUInt32 msg.args = some cookie →
    Leftover (K.mkId msg.sender cookie) ((Owned.of s.world).ownersOf msg.sender) tail

/-- The sender of a call is the unique name of a client. -/
def Truthful (K : OwnerKind) (s : State) : Event → Prop
  | .message _ tail msg =>
    (msg.type = .methodCall → ClientName msg.sender) ∧ K.LeftoverOf s tail msg
  | _ => True

/-! ## Steps -/

variable {K : OwnerKind} {mName : Bytes}

/-- An own `inhibit` that is granted makes a fresh id active; the owners stay. -/
lemma inhibit_owned (mName : Bytes) (hC : OwnCalls K.toClass) (now : ℕ) (r : InhibitRequest)
    (s : State) :
    let s' := K.step mName s (.inhibit now r)
    let answer := (InhibitInterface.inhibit K.toClass.overrides now r s.world.obj).1
    let lastCookie := s.world.obj.sub.lastCookie
    s'.methodCalls = s.methodCalls ∧
      (answer = .error .unsupportedType ∧ Owned.of s'.world = Owned.of s.world ∧
          s'.world.obj.sub.lastCookie = lastCookie ∨
        ∃ i, answer = .ok i ∧ i.id = K.mkId (lit "us") (K.toClass.nextCookie lastCookie) ∧
          Owned.of s'.world = { Owned.of s.world with
            active := (Owned.of s.world).active.insertIfNew i.id i } ∧
          s'.world.obj.sub.lastCookie = K.toClass.nextCookie lastCookie) := by
  intro s' answer lastCookie
  refine ⟨rfl, ?_⟩
  rcases hC.inhibit now r s.world.obj.sub with hrefuse | ⟨i, hid, hok⟩
  · left
    unfold s' answer step
    dsimp only
    rw [InhibitInterface.inhibit_error _ hrefuse]
    exact ⟨rfl, rfl, rfl⟩
  · right
    obtain ⟨hanswer, hact⟩ := InhibitInterface.inhibit_ok _ hok
    have hsub : ∃ out, (InhibitInterface.inhibit K.toClass.overrides now r s.world.obj).2.sub =
        OwnerFields.sendAll out { s.world.obj.sub with
          lastCookie := K.toClass.nextCookie s.world.obj.sub.lastCookie } := by
      unfold InhibitInterface.inhibit
      rw [hok]
      exact hC.sends.callEvent true i _
    obtain ⟨out, hsub⟩ := hsub
    have howners := congrArg OwnerFields.inhibitOwners hsub
    have hcookie := congrArg OwnerFields.lastCookie hsub
    refine ⟨i, hanswer, hid, ?_, hcookie⟩
    ext1
    · exact hact
    · exact howners
    · rfl

/-- An own `unInhibit` erases the id; the owners stay. -/
lemma unInhibit_owned (mName : Bytes) (hC : OwnCalls K.toClass) (cookie : UInt32) (s : State) :
    let s' := K.step mName s (.unInhibit cookie)
    s'.methodCalls = s.methodCalls ∧
      Owned.of s'.world = { Owned.of s.world with
        active := (Owned.of s.world).active.erase (K.mkId (lit "us") cookie) } ∧
      s'.world.obj.sub.lastCookie = s.world.obj.sub.lastCookie := by
  intro s'
  refine ⟨rfl, ?_⟩
  have hact := (InhibitInterface.unInhibit_ok K.toClass.overrides (K.mkId (lit "us") cookie)
    s.world.obj fun b sub => by rw [hC.unInhibit]).2
  have hsub : ∃ out, (InhibitInterface.unInhibit K.toClass.overrides (K.mkId (lit "us") cookie)
      s.world.obj).2.sub = s.world.obj.sub.sendAll out := by
    unfold InhibitInterface.unInhibit
    split
    · exact ⟨[], (OwnerFields.sendAll_nil _).symm⟩
    · rw [hC.unInhibit]
      exact hC.sends.callEvent false _ _
  obtain ⟨out, hsub⟩ := hsub
  have howners := congrArg OwnerFields.inhibitOwners hsub
  have hcookie := congrArg OwnerFields.lastCookie hsub
  refine ⟨?_, hcookie⟩
  ext1
  · exact hact
  · exact howners
  · rfl

/-- A message acts through its effect. -/
lemma message_owned (mName : Bytes) (hC : OwnCalls K.toClass)
    (hmon : K.config.monitor = false) {s : State}
    (hcalls : s.methodCalls = ∅) (now : ℕ) (tail : List InhibitID) (msg : Message) :
    let s' := K.step mName s (.message now tail msg)
    let e := K.toClass.effect mName [] now tail s.world.obj.sub.lastCookie msg
    s'.methodCalls = ∅ ∧ Owned.of s'.world = (Owned.of s.world).apply e ∧
      s'.world.obj.sub.lastCookie = K.toClass.cookieAfter s.world.obj.sub.lastCookie e := by
  intro s' e
  have hs' : s' = (K.toClass.aloneDispatcher mName [] now tail).deliver s msg := by
    rw [← dispatcher_eq]
    rfl
  rw [hs']
  exact OwnerClass.deliver_owned hC.sends hmon hcalls msg

/-- The effect of a message whose sender is truthful is legal. -/
lemma effect_legal (mName : Bytes) {s : State} {now : ℕ} {tail : List InhibitID} {msg : Message}
    (h : K.Truthful s (.message now tail msg)) :
    (K.toClass.effect mName [] now tail s.world.obj.sub.lastCookie msg).Legal K.config
      (Owned.of s.world) := by
  rcases OwnerClass.effect_cases now tail s.world.obj.sub.lastCookie msg with
    he | ⟨hin, args, he⟩ | ⟨hun, cookie, hargs, he⟩ | ⟨-, name, -, he⟩
  · rw [he]
    trivial
  · rw [he]
    exact ⟨h.1 hin.1, _, rfl⟩
  · rw [he]
    exact ⟨h.1 hun.1, ⟨cookie, rfl⟩, h.2 cookie hun hargs⟩
  · rw [he]
    trivial

/-- No call is recorded, and the owner table fits what is active. -/
structure Tracking (K : OwnerKind) (s : State) : Prop where
  methodCalls : s.methodCalls = ∅
  owners : OwnersOk K.config (Owned.of s.world)

lemma initial_tracking : K.Tracking initial where
  methodCalls := rfl
  owners :=
    { listed := fun name id hid => by
        have hnil : (Owned.of initial.world).ownersOf name = [] := by
          unfold Owned.ownersOf
          rw [show (Owned.of initial.world).owners = ∅ from rfl, Std.ExtTreeMap.getElem?_empty]
          rfl
        rw [hnil] at hid
        exact absurd hid List.not_mem_nil
      active := fun id hid => by
        rw [show (Owned.of initial.world).active = ∅ from rfl, Std.ExtTreeMap.getElem?_empty] at hid
        cases hid }

lemma Tracking.step (mName : Bytes) (hmon : K.config.monitor = false) {s : State} {e : Event}
    (h : K.Tracking s) (he : K.Truthful s e) : K.Tracking (K.step mName s e) := by
  have hC := ownCalls K hmon
  cases e with
  | message now tail msg =>
    obtain ⟨hcalls, howned, -⟩ :=
      message_owned mName hC hmon h.methodCalls now tail msg
    exact ⟨hcalls, by rw [howned]; exact h.owners.apply (effect_legal mName he)⟩
  | inhibit now r =>
    obtain ⟨hcalls, ⟨-, hsame, -⟩ | ⟨i, -, hid, hnew, -⟩⟩ := inhibit_owned mName hC now r s
    · exact ⟨hcalls.trans h.methodCalls, by rw [hsame]; exact h.owners⟩
    · exact ⟨hcalls.trans h.methodCalls, by rw [hnew]; exact h.owners.register_us hid⟩
  | unInhibit cookie =>
    obtain ⟨hcalls, hnew, -⟩ := unInhibit_owned mName hC cookie s
    exact ⟨hcalls.trans h.methodCalls, by rw [hnew]; exact h.owners.unregister_us _⟩

/-! ## Some messages -/

/-- The call `Inhibit` of a client. -/
def inhibitCall (K : OwnerKind) (client : String) (args : List Arg) : Message :=
  { type := .methodCall, sender := lit client, interface := some K.toClass.interface,
    member := "Inhibit", args }

/-- The signal that `name` has lost its owner, as broadcast by `client`. -/
def nameLost (client name : String) : Message :=
  { type := .signal, sender := lit client, interface := some "org.freedesktop.DBus",
    member := "NameOwnerChanged",
    args := [.string (lit name), .string (lit name), .string []] }

lemma clientName_one : ClientName (lit ":1.1") := ⟨by decide, by decide, by decide⟩

lemma clientName_two : ClientName (lit ":1.2") := ⟨by decide, by decide, by decide⟩

/-- A call other than `UnInhibit` leaves nothing behind. -/
lemma truthful_inhibitCall {K : OwnerKind} (hne : K.toClass.unInhibitMember ≠ "Inhibit")
    {client : String} (hclient : ClientName (lit client)) (args : List Arg) (s : State) (now : ℕ) :
    K.Truthful s (.message now [] (K.inhibitCall client args)) :=
  ⟨fun _ => hclient, fun _ hun => absurd hun.2.2.symm hne⟩

/-- A signal leaves nothing behind. -/
lemma truthful_nameLost (client name : String) (s : State) (now : ℕ) :
    K.Truthful s (.message now [] (nameLost client name)) := by
  have htype : (nameLost client name).type = .signal := rfl
  constructor
  · intro hcall
    exact absurd (htype.symm.trans hcall) (by decide)
  · intro cookie hun hargs
    exact absurd (htype.symm.trans hun.1) (by decide)

/-- Implementations of both classes. -/
def exampleConfig : OwnerConfig := { instanceId := 0, monitor := false }

def exampleScreenSaver : OwnerKind :=
  .simpleDBus (FreedesktopScreenSaverInhibitInterface exampleConfig)

def exampleSessionManager : OwnerKind := .gnomeSessionManager exampleConfig

end OwnerKind

end UnifiedInhibit
