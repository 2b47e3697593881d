import UnifiedInhibit.Types

/-!
# The base class `InhibitInterface`

`src/InhibitInterface/InhibitInterface.cpp`. The base class is a template: `inhibit`, `unInhibit`,
`registerInhibit` and `registerUnInhibit` keep `activeInhibits` and call virtual methods. A
subclass is its own fields `σ` together with `Overrides σ`, the virtual methods acting on those
fields. By their types the overrides cannot touch `activeInhibits`, as in the source.

The callbacks given to the constructor act on a world `W` that holds the object; `This W σ` is the
`this` pointer, the place of the object in that world.
-/

namespace UnifiedInhibit

/-- The fields of the base class that change. -/
structure Base where
  activeInhibits : StdMap InhibitID Inhibit := ∅
  lastInhibitState : InhibitType := InhibitType.NONE

/-- An interface object: the base-class fields and those of its subclass. -/
structure InhibitInterface (σ : Type) extends Base where
  sub : σ

/-- The virtual methods. `doInhibit` also gets the current time. -/
structure Overrides (σ : Type) where
  doInhibit : ℕ → InhibitRequest → σ → Outcome σ Inhibit
  doUnInhibit : Base → InhibitID → σ → Outcome σ Unit := fun _ _ s => (.ok (), s)
  handleInhibitEvent : Inhibit → σ → σ := fun _ s => s
  handleUnInhibitEvent : Inhibit → σ → σ := fun _ s => s
  handleInhibitStateChanged : InhibitType → Inhibit → σ → σ := fun _ _ s => s

/-- Bit flags of all currently inhibited types. -/
def Base.inhibited (b : Base) : InhibitType :=
  b.activeInhibits.toList.foldl (fun ret p => ret ||| p.2.type) InhibitType.NONE

namespace InhibitInterface

variable {σ : Type} (v : Overrides σ)

def callEvent (isInhibit : Bool) (i : Inhibit) (o : InhibitInterface σ) : InhibitInterface σ :=
  let o := { o with
    sub := if isInhibit then v.handleInhibitEvent i o.sub else v.handleUnInhibitEvent i o.sub }
  if o.inhibited ≠ o.lastInhibitState then
    { o with
      sub := v.handleInhibitStateChanged o.inhibited i o.sub
      lastInhibitState := o.inhibited }
  else o

def inhibit (now : ℕ) (i : InhibitRequest) (o : InhibitInterface σ) :
    Outcome (InhibitInterface σ) Inhibit :=
  match v.doInhibit now i o.sub with
  | (.error e, s) => (.error e, { o with sub := s })
  | (.ok ii, s) =>
    let o := { o with sub := s, activeInhibits := o.activeInhibits.insertIfNew ii.id ii }
    (.ok ii, callEvent v true ii o)

def unInhibit (id : InhibitID) (o : InhibitInterface σ) : Outcome (InhibitInterface σ) Unit :=
  match o.activeInhibits[id]? with
  | none => (.ok (), o)
  | some mid =>
    match v.doUnInhibit o.toBase id o.sub with
    | (.error e, s) => (.error e, { o with sub := s })
    | (.ok (), s) =>
      let o := { o with sub := s, activeInhibits := o.activeInhibits.erase id }
      (.ok (), callEvent v false mid o)

end InhibitInterface

/-- `this`: the place of an interface object in the world its callbacks act on. -/
structure This (W σ : Type) where
  get : W → InhibitInterface σ
  set : InhibitInterface σ → W → W
  get_set : ∀ o w, get (set o w) = o
  set_get : ∀ w, set (get w) w = w
  set_set : ∀ o o' w, set o' (set o w) = set o' w

/-- A part of the fields of an object. -/
structure Part (σ ρ : Type) where
  get : σ → ρ
  set : ρ → σ → σ
  get_set : ∀ a s, get (set a s) = a
  set_get : ∀ s, set (get s) s = s
  set_set : ∀ a b s, set b (set a s) = set b s

/-- All of the fields. -/
def Part.all {σ : Type} : Part σ σ where
  get s := s
  set a _ := a
  get_set _ _ := rfl
  set_get _ := rfl
  set_set _ _ _ := rfl

/-- The place of an object of which `P` is all that a class knows. -/
def This.part {W σ ρ : Type} (this : This W σ) (P : Part σ ρ) : This W ρ where
  get w := { toBase := (this.get w).toBase, sub := P.get (this.get w).sub }
  set o w := this.set { toBase := o.toBase, sub := P.set o.sub (this.get w).sub } w
  get_set o w := by rw [this.get_set, P.get_set]
  set_get w := by
    dsimp only
    rw [P.set_get]
    exact this.set_get w
  set_set o o' w := by rw [this.get_set, P.set_set, this.set_set]

/-- The two callbacks an interface is constructed with. -/
structure Callbacks (W : Type) where
  inhibitCB : Inhibit → W → Outcome W Unit
  unInhibitCB : Inhibit → W → Outcome W Unit

namespace This

variable {W σ : Type} (this : This W σ) (v : Overrides σ) (cb : Callbacks W)

def modify (f : InhibitInterface σ → InhibitInterface σ) (w : W) : W :=
  this.set (f (this.get w)) w

def modifySub (f : σ → σ) (w : W) : W := this.modify (fun o => { o with sub := f o.sub }) w

def registerInhibit (i : Inhibit) (w : W) : Outcome W Unit :=
  let w := this.modify
    (fun o => { o with activeInhibits := o.activeInhibits.insertIfNew i.id i }) w
  match cb.inhibitCB i w with
  | (.error e, w) => (.error e, w)
  | (.ok (), w) => (.ok (), this.modify (InhibitInterface.callEvent v true i) w)

def registerUnInhibit (id : InhibitID) (w : W) : Outcome W Unit :=
  match (this.get w).activeInhibits[id]? with
  | none => (.ok (), w)
  | some mid =>
    let w := this.modify (fun o => { o with activeInhibits := o.activeInhibits.erase id }) w
    match cb.unInhibitCB mid w with
    | (.error e, w) => (.error e, w)
    | (.ok (), w) => (.ok (), this.modify (InhibitInterface.callEvent v false mid) w)

end This

/-! ## An interface on its own -/

/-- A callback that was called. -/
inductive CBCall where
  | inhibitCB (i : Inhibit)
  | unInhibitCB (i : Inhibit)
deriving DecidableEq

/-- An interface whose callbacks return normally without calling back into it; `cbLog` records
them. -/
structure Alone (σ : Type) where
  obj : InhibitInterface σ
  cbLog : List CBCall := []

namespace Alone

variable {σ : Type}

def this : This (Alone σ) σ where
  get w := w.obj
  set o w := { w with obj := o }
  get_set _ _ := rfl
  set_get _ := rfl
  set_set _ _ _ := rfl

def callbacks : Callbacks (Alone σ) where
  inhibitCB i w := (.ok (), { w with cbLog := w.cbLog ++ [.inhibitCB i] })
  unInhibitCB i w := (.ok (), { w with cbLog := w.cbLog ++ [.unInhibitCB i] })

end Alone

/-! ## What the base class does to `activeInhibits` -/

namespace InhibitInterface

variable {σ : Type} (v : Overrides σ)

@[simp] lemma callEvent_activeInhibits (b : Bool) (i : Inhibit) (o : InhibitInterface σ) :
    (callEvent v b i o).activeInhibits = o.activeInhibits := by
  simp only [callEvent]
  split <;> rfl

/-- An `inhibit` whose `doInhibit` returned inserts the new inhibit. -/
lemma inhibit_ok {now : ℕ} {r : InhibitRequest} {o : InhibitInterface σ} {ii : Inhibit} {s : σ}
    (h : v.doInhibit now r o.sub = (.ok ii, s)) :
    (inhibit v now r o).1 = .ok ii ∧
      (inhibit v now r o).2.activeInhibits = o.activeInhibits.insertIfNew ii.id ii := by
  simp only [inhibit, h, callEvent_activeInhibits, and_self]

/-- An `inhibit` whose `doInhibit` threw passes the exception on and inserts nothing. -/
lemma inhibit_error {now : ℕ} {r : InhibitRequest} {o : InhibitInterface σ} {e : Exn} {s : σ}
    (h : v.doInhibit now r o.sub = (.error e, s)) :
    inhibit v now r o = (.error e, { o with sub := s }) := by
  simp only [inhibit, h]

/-- An `unInhibit` whose `doUnInhibit` returns erases the id. -/
lemma unInhibit_ok (id : InhibitID) (o : InhibitInterface σ)
    (h : ∀ b s, (v.doUnInhibit b id s).1 = .ok ()) :
    (unInhibit v id o).1 = .ok () ∧
      (unInhibit v id o).2.activeInhibits = o.activeInhibits.erase id := by
  unfold unInhibit
  split
  · rename_i hnone
    refine ⟨rfl, Std.ExtTreeMap.ext_getElem? fun k => ?_⟩
    grind
  · have hok := h o.toBase o.sub
    split
    · rename_i herr
      rw [herr] at hok
      exact absurd hok (by simp)
    · exact ⟨rfl, by simp⟩

end InhibitInterface

/-! ## Classes without event handlers -/

/-- The event handlers of the class do nothing. -/
structure Overrides.NoEvents {σ : Type} (v : Overrides σ) : Prop where
  inhibitEvent : ∀ i s, v.handleInhibitEvent i s = s
  unInhibitEvent : ∀ i s, v.handleUnInhibitEvent i s = s
  stateChanged : ∀ t i s, v.handleInhibitStateChanged t i s = s

namespace Overrides.NoEvents

variable {σ : Type} {v : Overrides σ} (hv : v.NoEvents)
include hv

lemma callEvent_sub (b : Bool) (i : Inhibit) (o : InhibitInterface σ) :
    (InhibitInterface.callEvent v b i o).sub = o.sub := by
  have hfirst : (if b then v.handleInhibitEvent i o.sub else v.handleUnInhibitEvent i o.sub) =
      o.sub := by
    cases b
    · exact hv.unInhibitEvent i o.sub
    · exact hv.inhibitEvent i o.sub
  unfold InhibitInterface.callEvent
  rw [hfirst]
  dsimp only
  split
  · exact hv.stateChanged _ i o.sub
  · rfl

/-- `registerInhibit` adds the inhibit and calls the daemon. -/
lemma registerInhibit_alone (i : Inhibit) (w : Alone σ) :
    ∃ w', Alone.this.registerInhibit v Alone.callbacks i w = (.ok (), w') ∧
      w'.obj.activeInhibits = w.obj.activeInhibits.insertIfNew i.id i ∧
      w'.obj.sub = w.obj.sub ∧ w'.cbLog = w.cbLog ++ [.inhibitCB i] :=
  ⟨_, rfl, InhibitInterface.callEvent_activeInhibits v true i _, hv.callEvent_sub true i _, rfl⟩

/-- `registerUnInhibit` removes the id. -/
lemma registerUnInhibit_alone (id : InhibitID) (w : Alone σ) :
    ∃ w', Alone.this.registerUnInhibit v Alone.callbacks id w = (.ok (), w') ∧
      (∀ j, j ∈ w'.obj.activeInhibits ↔ j ∈ w.obj.activeInhibits ∧ j ≠ id) ∧
      w'.obj.sub = w.obj.sub := by
  unfold This.registerUnInhibit
  cases hmid : (Alone.this.get w).activeInhibits[id]? with
  | none =>
    refine ⟨w, rfl, fun j => ?_, rfl⟩
    have hnot : id ∉ w.obj.activeInhibits := by
      intro hmem
      obtain ⟨i, hi⟩ := (StdMap.mem_iff _ _).mp hmem
      have hmid : w.obj.activeInhibits[id]? = none := hmid
      rw [hmid] at hi
      exact absurd hi (by simp)
    constructor
    · intro hj
      refine ⟨hj, fun heq => ?_⟩
      rw [heq] at hj
      exact hnot hj
    · exact And.left
  | some mid =>
    refine ⟨_, rfl, fun j => ?_, hv.callEvent_sub false mid _⟩
    have hactive := InhibitInterface.callEvent_activeInhibits v false mid
      { w.obj with activeInhibits := w.obj.activeInhibits.erase id }
    show j ∈ (InhibitInterface.callEvent v false mid
      { w.obj with activeInhibits := w.obj.activeInhibits.erase id }).activeInhibits ↔ _
    rw [hactive]
    exact StdMap.mem_erase _ id j

/-- `inhibit` leaves behind what `doInhibit` did to the fields. -/
lemma inhibit_sub {now : ℕ} {r : InhibitRequest} {o : InhibitInterface σ} {i : Inhibit} {s : σ}
    (h : v.doInhibit now r o.sub = (.ok i, s)) :
    (InhibitInterface.inhibit v now r o).2.sub = s := by
  unfold InhibitInterface.inhibit
  rw [h]
  exact hv.callEvent_sub true i _

/-- `unInhibit` of an active inhibit leaves behind what `doUnInhibit` did to the fields. -/
lemma unInhibit_sub {id : InhibitID} {o : InhibitInterface σ} {i : Inhibit} {s : σ}
    (hactive : o.activeInhibits[id]? = some i) (h : v.doUnInhibit o.toBase id o.sub = (.ok (), s)) :
    (InhibitInterface.unInhibit v id o).2.sub = s := by
  unfold InhibitInterface.unInhibit
  rw [hactive]
  dsimp only
  rw [h]
  exact hv.callEvent_sub false i _

end Overrides.NoEvents

/-! ## The union of the active types -/

lemma foldl_or_has (l : List (InhibitID × Inhibit)) (t flag : InhibitType) :
    (l.foldl (fun ret p => ret ||| p.2.type) t).has flag = true ↔
      t.has flag = true ∨ ∃ p ∈ l, p.2.type.has flag = true := by
  induction l generalizing t with
  | nil => simp
  | cons p l ih =>
    simp only [List.foldl_cons, ih, InhibitType.or_has, Bool.or_eq_true, List.mem_cons,
      exists_eq_or_imp, or_assoc]

/-- A flag is in `inhibited` exactly when some active inhibit has it. -/
lemma Base.inhibited_has (b : Base) (flag : InhibitType) :
    b.inhibited.has flag = true ↔
      ∃ (id : InhibitID) (i : Inhibit), b.activeInhibits[id]? = some i ∧ i.type.has flag := by
  unfold Base.inhibited
  rw [foldl_or_has]
  simp only [InhibitType.none_has, Bool.false_eq_true, false_or, Prod.exists,
    Std.ExtTreeMap.mem_toList_iff_getElem?_eq_some]

end UnifiedInhibit
