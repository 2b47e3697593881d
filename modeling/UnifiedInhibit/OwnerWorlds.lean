import UnifiedInhibit.OwnerTracking

/-!
# The owner-tracking handlers in any world

A handler works on the object at `this` through `registerInhibit`, `registerUnInhibit` and changes
of fields. Where these do to the object what they do to an object on its own (`Undisturbed`), so
does each handler and each message: `dispatch_alone` compares a world with `Alone`. Next to it an
invariant `J` of the world is carried through the handler.
-/

namespace UnifiedInhibit

open DBus (Arg Message MethodCB SignalCB Dispatcher lookup)

namespace InhibitInterface

variable {σ : Type} (u : Overrides σ)

/-- What `registerInhibit` does to the object. -/
def inserted (i : Inhibit) (o : InhibitInterface σ) : InhibitInterface σ :=
  callEvent u true i { o with activeInhibits := o.activeInhibits.insertIfNew i.id i }

/-- What `registerUnInhibit` does to the object. -/
def erased (id : InhibitID) (o : InhibitInterface σ) : InhibitInterface σ :=
  match o.activeInhibits[id]? with
  | none => o
  | some mid => callEvent u false mid { o with activeInhibits := o.activeInhibits.erase id }

end InhibitInterface

open InhibitInterface (inserted erased)

/-- Changes of the object's fields keep `J`. -/
def KeptByFields {W : Type} (this : This W OwnerFields) (J : W → Prop) : Prop :=
  ∀ f w, J w → J (this.modifySub f w)

/-- The registrations of the object at `this` return and do to it what they do to an object on its
own, as long as what is registered meets `Reg` and what is unregistered meets `UnReg`. -/
structure Undisturbed {W : Type} (this : This W OwnerFields) (u : Overrides OwnerFields)
    (cb : Callbacks W) (J J' : W → Prop) (Reg : Inhibit → StdMap InhibitID Inhibit → Prop)
    (UnReg : InhibitID → Prop) : Prop where
  fields : KeptByFields this J
  fields' : KeptByFields this J'
  weaken : ∀ w, J w → J' w
  registerInhibit : ∀ i w, J w → Reg i (this.get w).activeInhibits →
    ∃ w', this.registerInhibit u cb i w = (.ok (), w') ∧ J' w' ∧
      this.get w' = inserted u i (this.get w)
  registerUnInhibit : ∀ id w, J w → UnReg id →
    ∃ w', this.registerUnInhibit u cb id w = (.ok (), w') ∧ J w' ∧
      this.get w' = erased u id (this.get w)

/-- An object on its own is undisturbed. -/
lemma undisturbed_alone (u : Overrides OwnerFields) :
    Undisturbed Alone.this u Alone.callbacks (fun _ => True) (fun _ => True) (fun _ _ => True)
      fun _ => True where
  fields _ _ _ := trivial
  fields' _ _ _ := trivial
  weaken _ _ := trivial
  registerInhibit i w _ _ := ⟨_, rfl, trivial, rfl⟩
  registerUnInhibit id w _ _ := by
    cases hmid : w.obj.activeInhibits[id]? with
    | none =>
      have hget : (Alone.this.get w).activeInhibits[id]? = none := hmid
      unfold This.registerUnInhibit erased
      rw [hget]
      exact ⟨w, rfl, trivial, rfl⟩
    | some mid =>
      have hget : (Alone.this.get w).activeInhibits[id]? = some mid := hmid
      unfold This.registerUnInhibit erased
      rw [hget]
      exact ⟨_, rfl, trivial, rfl⟩

/-- Two outcomes are the same for the object. -/
structure Agree {W : Type} (this : This W OwnerFields) (J : W → Prop) (r : Outcome W Unit)
    (r' : Outcome (Alone OwnerFields) Unit) : Prop where
  result : r.1 = r'.1
  object : this.get r.2 = r'.2.obj
  inv : J r.2

lemma Agree.weaken {W : Type} {this : This W OwnerFields} {J J' : W → Prop} {r : Outcome W Unit}
    {r' : Outcome (Alone OwnerFields) Unit} (h : Agree this J r r') (hJ : ∀ w, J w → J' w) :
    Agree this J' r r' := ⟨h.result, h.object, hJ _ h.inv⟩

section Handlers

variable {W : Type} {this : This W OwnerFields} {u : Overrides OwnerFields} {cb : Callbacks W}
  {J J' : W → Prop} {Reg : Inhibit → StdMap InhibitID Inhibit → Prop} {UnReg : InhibitID → Prop}
  {w : W} {a : Alone OwnerFields}

lemma modifySub_agree (hfields : KeptByFields this J) (hJ : J w) (hobj : this.get w = a.obj)
    (f : OwnerFields → OwnerFields) :
    Agree this J (.ok (), this.modifySub f w) (.ok (), Alone.this.modifySub f a) where
  result := rfl
  object := by
    show this.get (this.set _ w) = _
    rw [this.get_set, hobj]
    rfl
  inv := hfields f w hJ

variable (hU : Undisturbed this u cb J J' Reg UnReg) (hJ : J w) (hobj : this.get w = a.obj)
include hU hJ hobj

/-- The end of `handleInhibitMsg`. -/
lemma trackInhibit_agree (sender : Bytes) {i : Inhibit} (hi : Reg i a.obj.activeInhibits) :
    Agree this J' (OwnerHandlers.trackInhibit this u cb sender i w)
      (OwnerHandlers.trackInhibit Alone.this u Alone.callbacks sender i a) := by
  obtain ⟨w', hrun, hJ', hobj'⟩ := hU.registerInhibit i w hJ (by rw [hobj]; exact hi)
  unfold OwnerHandlers.trackInhibit
  rw [hrun]
  refine modifySub_agree hU.fields' hJ'
    (a := (Alone.this.registerInhibit u Alone.callbacks i a).2) ?_ _
  rw [hobj', hobj]
  rfl

lemma handleInhibitMsg_agree (cfg : OwnerConfig)
    (expected : List Arg → Option (Bytes × Bytes × InhibitType)) (nextCookie : UInt32 → UInt32)
    (now : ℕ) (msg : Message)
    (hreg : ∀ args, expected msg.args = some args →
      Reg (newInhibit cfg now msg (nextCookie a.obj.sub.lastCookie) args) a.obj.activeInhibits) :
    Agree this J'
      (OwnerHandlers.handleInhibitMsg cfg this u cb expected nextCookie now msg none w)
      (OwnerHandlers.handleInhibitMsg cfg Alone.this u Alone.callbacks expected nextCookie now msg
        none a) := by
  unfold OwnerHandlers.handleInhibitMsg
  cases hargs : expected msg.args with
  | none =>
    rw [getArgs_none hargs]
    exact ⟨rfl, hobj, hU.weaken w hJ⟩
  | some args =>
    rw [getArgs_some hargs]
    obtain ⟨appname, reason, type⟩ := args
    -- the cookie is counted up, and then sent
    have hcount := modifySub_agree hU.fields hJ hobj fun s =>
      { s with lastCookie := nextCookie s.lastCookie }
    have hcookie : (this.get (this.modifySub (fun s =>
        { s with lastCookie := nextCookie s.lastCookie }) w)).sub.lastCookie =
        nextCookie a.obj.sub.lastCookie := by
      rw [hcount.object]
      rfl
    have hsend := modifySub_agree hU.fields hcount.inv hcount.object
      (OwnerFields.send (.methodReturn msg [.uint32 (nextCookie a.obj.sub.lastCookie)]))
    dsimp only
    rw [hcookie]
    exact trackInhibit_agree hU hsend.inv hsend.object msg.sender (hreg _ hargs)

lemma handleUnInhibitMsg_agree (cfg : OwnerConfig) (reply : Bool) (tail : List InhibitID)
    (msg : Message) (ret : Option Message)
    (hreg : ∀ cookie, oneUInt32 msg.args = some cookie →
      UnReg (OwnerId.mkId cfg msg.sender cookie)) :
    Agree this J (OwnerHandlers.handleUnInhibitMsg cfg this u cb reply tail msg ret w)
      (OwnerHandlers.handleUnInhibitMsg cfg Alone.this u Alone.callbacks reply tail msg ret a) := by
  unfold OwnerHandlers.handleUnInhibitMsg
  cases hargs : oneUInt32 msg.args with
  | none =>
    rw [getArgs_none hargs]
    exact ⟨rfl, hobj, hJ⟩
  | some cookie =>
    rw [getArgs_some hargs]
    dsimp only
    obtain ⟨w₁, hrun, hJ₁, hobj₁⟩ := hU.registerUnInhibit _ w hJ (hreg cookie hargs)
    obtain ⟨a₁, hrun', -, hobj₁'⟩ := (undisturbed_alone u).registerUnInhibit
      (OwnerId.mkId cfg msg.sender cookie) a trivial trivial
    have hsame : this.get w₁ = a₁.obj := by
      rw [hobj₁, hobj]
      exact hobj₁'.symm
    rw [hrun, hrun']
    dsimp only
    have hlist := modifySub_agree hU.fields hJ₁ hsame fun s =>
      OwnerHandlers.setOwners msg.sender (removeIf (fun eid => OwnerId.mkId cfg msg.sender cookie =
        eid) (OwnerHandlers.owners msg.sender s) tail) s
    split
    · exact modifySub_agree hU.fields hlist.inv hlist.object _
    · exact hlist

lemma registerUnInhibitAll_agree (ids : List InhibitID) (hreg : ∀ id ∈ ids, UnReg id) :
    Agree this J (OwnerHandlers.registerUnInhibitAll this u cb ids w)
      (OwnerHandlers.registerUnInhibitAll Alone.this u Alone.callbacks ids a) := by
  induction ids generalizing w a with
  | nil => exact ⟨rfl, hobj, hJ⟩
  | cons id ids ih =>
    obtain ⟨w₁, hrun, hJ₁, hobj₁⟩ := hU.registerUnInhibit id w hJ (hreg id List.mem_cons_self)
    obtain ⟨a₁, hrun', -, hobj₁'⟩ :=
      (undisturbed_alone u).registerUnInhibit id a trivial trivial
    have hsame : this.get w₁ = a₁.obj := by
      rw [hobj₁, hobj]
      exact hobj₁'.symm
    unfold OwnerHandlers.registerUnInhibitAll
    rw [hrun, hrun']
    exact ih hJ₁ hsame fun id hid => hreg id (List.mem_cons_of_mem _ hid)

/-- Taking ids off one after the other returns. -/
lemma registerUnInhibitAll_returns (ids : List InhibitID) (hreg : ∀ id ∈ ids, UnReg id) :
    (OwnerHandlers.registerUnInhibitAll this u cb ids w).1 = .ok () := by
  induction ids generalizing w a with
  | nil => rfl
  | cons id ids ih =>
    obtain ⟨w₁, hrun, hJ₁, hobj₁⟩ := hU.registerUnInhibit id w hJ (hreg id List.mem_cons_self)
    unfold OwnerHandlers.registerUnInhibitAll
    rw [hrun]
    exact ih (a := { obj := this.get w₁ }) hJ₁ rfl
      fun id hid => hreg id (List.mem_cons_of_mem _ hid)

lemma handleNameLostMsg_agree (msg : Message)
    (hreg : ∀ name, oneString msg.args = some name →
      ∀ id ∈ OwnerHandlers.owners name a.obj.sub, UnReg id) :
    Agree this J (OwnerHandlers.handleNameLostMsg this u cb msg w)
      (OwnerHandlers.handleNameLostMsg Alone.this u Alone.callbacks msg a) := by
  unfold OwnerHandlers.handleNameLostMsg
  cases hargs : oneString msg.args with
  | none =>
    rw [getArgs_none hargs]
    exact ⟨rfl, hobj, hJ⟩
  | some name =>
    rw [getArgs_some hargs, hobj]
    dsimp only
    have hall := registerUnInhibitAll_agree hU hJ hobj _ (hreg name hargs)
    have hok := registerUnInhibitAll_returns hU hJ hobj _ (hreg name hargs)
    obtain ⟨w₁, hrun⟩ : ∃ w₁, OwnerHandlers.registerUnInhibitAll this u cb
        (OwnerHandlers.owners name a.obj.sub) w = (.ok (), w₁) := ⟨_, Prod.ext hok rfl⟩
    obtain ⟨a₁, hrun'⟩ : ∃ a₁, OwnerHandlers.registerUnInhibitAll Alone.this u Alone.callbacks
        (OwnerHandlers.owners name a.obj.sub) a = (.ok (), a₁) :=
      ⟨_, Prod.ext (hall.result.symm.trans hok) rfl⟩
    rw [hrun, hrun'] at hall
    rw [hrun, show (Alone.this.get a).sub = a.obj.sub from rfl, hrun']
    exact modifySub_agree hU.fields hall.inv hall.object _

lemma query_agree (q : OwnerHandlers.QueryMethod) (msg : Message) (ret : Option Message) :
    Agree this J ((q.methodCB this).callback msg ret w)
      ((q.methodCB Alone.this).callback msg ret a) := by
  unfold OwnerHandlers.QueryMethod.methodCB
  dsimp only
  rw [hobj, show (Alone.this.get a).toBase = a.obj.toBase from rfl]
  cases q.answer msg a.obj.toBase with
  | error e => exact ⟨rfl, hobj, hJ⟩
  | ok out => exact modifySub_agree hU.fields hJ hobj _

end Handlers

/-! ## Messages -/

/-- Two tables with the same interfaces and members are looked up in the same way. -/
lemma lookup_forall₂ {α β : Type} {ia ma : α → String} {ib mb : β → String} {R : α → β → Prop}
    (hR : ∀ a b, R a b → ia a = ib b ∧ ma a = mb b) {msg : Message} {as : List α} {bs : List β}
    (h : List.Forall₂ R as bs) :
    (∃ e, lookup ia ma msg as = .error e ∧ lookup ib mb msg bs = .error e) ∨
      (lookup ia ma msg as = .ok none ∧ lookup ib mb msg bs = .ok none) ∨
      ∃ a b, R a b ∧ lookup ia ma msg as = .ok (some a) ∧ lookup ib mb msg bs = .ok (some b) := by
  induction h with
  | nil => exact .inr (.inl ⟨rfl, rfl⟩)
  | @cons a b as bs hab _ ih =>
    obtain ⟨hinterface, hmember⟩ := hR a b hab
    unfold lookup
    rw [hinterface, hmember]
    split
    · split
      · exact .inl ⟨_, rfl, rfl⟩
      · split
        · exact .inr (.inr ⟨a, b, hab, rfl, rfl⟩)
        · exact ih
    · exact ih

/-- What a message has registered and unregistered meets the two conditions. -/
structure Admits (C : OwnerClass) (now : ℕ) (Reg : Inhibit → StdMap InhibitID Inhibit → Prop)
    (UnReg : InhibitID → Prop) (msg : Message) (o : InhibitInterface OwnerFields) : Prop where
  inhibit : C.IsInhibit msg → ∀ args, C.inhibitArgs msg.args = some args →
    Reg (newInhibit C.toOwnerConfig now msg (C.nextCookie o.sub.lastCookie) args) o.activeInhibits
  unInhibit : C.IsUnInhibit msg → ∀ cookie, oneUInt32 msg.args = some cookie →
    UnReg (OwnerId.mkId C.toOwnerConfig msg.sender cookie)
  nameLost : IsNameOwnerChanged msg → ∀ name, oneString msg.args = some name →
    ∀ id ∈ OwnerHandlers.owners name o.sub, UnReg id

section Dispatch

variable {W : Type} {this : This W OwnerFields} {cb : Callbacks W} {J J' : W → Prop}
  {Reg : Inhibit → StdMap InhibitID Inhibit → Prop} {UnReg : InhibitID → Prop} {C : OwnerClass}

/-- A message to an implementation does to the object and returns what it does in a world of its
own. -/
lemma dispatch_agree (hU : Undisturbed this C.overrides cb J J' Reg UnReg)
    (hmon : C.monitor = false) (mName mName2 : Bytes) {now : ℕ} (tail : List InhibitID)
    {msg : Message} {s : DBus.State W} {s' : DBus.State (Alone OwnerFields)}
    (hcalls : s.methodCalls = ∅) (hcalls' : s'.methodCalls = ∅) (hJ : J s.world)
    (hobj : this.get s.world = s'.world.obj)
    (hmsg : Admits C now Reg UnReg msg s'.world.obj) :
    let r := (C.dispatcher this cb mName mName2 now tail).dispatch msg s
    let r' := (C.aloneDispatcher mName mName2 now tail).dispatch msg s'
    Agree this J' (r.1, r.2.world) (r'.1, r'.2.world) ∧ r.2.methodCalls = ∅ ∧
      r'.2.methodCalls = ∅ := by
  have hJ' : J' s.world := hU.weaken _ hJ
  have hstay : Agree this J' (.ok (), s.world) (.ok (), s'.world) := ⟨rfl, hobj, hJ'⟩
  intro r r'
  unfold r r' DBus.Dispatcher.dispatch
  rw [show (C.aloneDispatcher mName mName2 now tail).mName = mName from rfl,
    show (C.aloneDispatcher mName mName2 now tail).mName2 = mName2 from rfl,
    show (C.aloneDispatcher mName mName2 now tail).monitor = false from hmon,
    show (C.dispatcher this cb mName mName2 now tail).mName = mName from rfl,
    show (C.dispatcher this cb mName mName2 now tail).mName2 = mName2 from rfl,
    show (C.dispatcher this cb mName mName2 now tail).monitor = false from hmon]
  split
  · exact ⟨hstay, hcalls, hcalls'⟩
  split
  · exact ⟨hstay, hcalls, hcalls'⟩
  cases htype : msg.type with
  | methodCall =>
    dsimp only
    -- the entries of the two tables agree one by one
    have htable : List.Forall₂ (fun (m : MethodCB W) (m' : MethodCB (Alone OwnerFields)) =>
        (m.interface = m'.interface ∧ m.member = m'.member) ∧
          (m'.member = msg.member → msg.interface = some m'.interface →
            Agree this J' (m.callback msg none s.world) (m'.callback msg none s'.world)))
        (C.dispatcher this cb mName mName2 now tail).myMethods
        (C.aloneDispatcher mName mName2 now tail).myMethods := by
      refine .cons ⟨⟨rfl, rfl⟩, fun hmember hinterface => ?_⟩
        (.cons ⟨⟨rfl, rfl⟩, fun hmember hinterface => ?_⟩ ?_)
      · exact handleInhibitMsg_agree hU hJ hobj C.toOwnerConfig C.inhibitArgs C.nextCookie now msg
          (hmsg.inhibit ⟨htype, hinterface, hmember.symm⟩)
      · have hagree := handleUnInhibitMsg_agree hU hJ hobj C.toOwnerConfig C.replyUnInhibit tail msg
          none (hmsg.unInhibit ⟨htype, hinterface, hmember.symm⟩)
        exact hagree.weaken hU.weaken
      · rw [List.forall₂_map_left_iff, List.forall₂_map_right_iff]
        refine List.forall₂_same.mpr fun q _ => ⟨⟨rfl, rfl⟩, fun _ _ => ?_⟩
        exact (query_agree hU hJ hobj q msg none).weaken hU.weaken
    rcases lookup_forall₂ (fun m m' h => h.1) htable with
      ⟨e, he, he'⟩ | ⟨hnone, hnone'⟩ | ⟨m, m', hm, hfound, hfound'⟩
    · rw [he, he']
      exact ⟨⟨rfl, hobj, hJ'⟩, hcalls, hcalls'⟩
    · rw [hnone, hnone']
      exact ⟨hstay, hcalls, hcalls'⟩
    · obtain ⟨-, hmember, hinterface⟩ := DBus.lookup_ok hfound'
      rw [hfound, hfound']
      exact ⟨hm.2 hmember hinterface, hcalls, hcalls'⟩
  | methodReturn =>
    dsimp only
    rw [hcalls, hcalls', Std.ExtTreeMap.getElem?_empty]
    exact ⟨hstay, hcalls, hcalls'⟩
  | signal =>
    dsimp only
    have htable : List.Forall₂ (fun (m : SignalCB W) (m' : SignalCB (Alone OwnerFields)) =>
        (m.interface = m'.interface ∧ m.member = m'.member) ∧
          (m'.member = msg.member → msg.interface = some m'.interface →
            Agree this J' (m.callback msg s.world) (m'.callback msg s'.world)))
        (C.dispatcher this cb mName mName2 now tail).mySignals
        (C.aloneDispatcher mName mName2 now tail).mySignals := by
      refine .cons ⟨⟨rfl, rfl⟩, fun hmember hinterface => ?_⟩ .nil
      have hagree := handleNameLostMsg_agree hU hJ hobj msg
        (hmsg.nameLost ⟨htype, hinterface, hmember.symm⟩)
      exact hagree.weaken hU.weaken
    rcases lookup_forall₂ (fun m m' h => h.1) htable with
      ⟨e, he, he'⟩ | ⟨hnone, hnone'⟩ | ⟨m, m', hm, hfound, hfound'⟩
    · rw [he, he']
      exact ⟨⟨rfl, hobj, hJ'⟩, hcalls, hcalls'⟩
    · rw [hnone, hnone']
      exact ⟨hstay, hcalls, hcalls'⟩
    · obtain ⟨-, hmember, hinterface⟩ := DBus.lookup_ok hfound'
      rw [hfound, hfound']
      exact ⟨hm.2 hmember hinterface, hcalls, hcalls'⟩
  | error => exact ⟨hstay, hcalls, hcalls'⟩

end Dispatch

end UnifiedInhibit
