import UnifiedInhibit.OwnerTracking

/-!
# What `handleInhibitStateChanged` is told

`inhibit`, `unInhibit`, `registerInhibit` and `registerUnInhibit` change what is active and end in
`callEvent`, which compares `inhibited` with `lastInhibitState`. A subclass is given through what
its virtual methods do to one value `f` of its fields (`Notes`). With a record of the arguments as
that value, the record is the list of the values of `inhibited` without repetitions. With the value
last sent in `HasInhibitChanged`, it is the answer to `HasInhibit`.
-/

namespace UnifiedInhibit
namespace StateChanges

/-- The calls that change what is active. -/
inductive Call where
  | inhibit (now : ℕ) (r : InhibitRequest)
  | unInhibit (id : InhibitID)
  | registerInhibit (i : Inhibit)
  | registerUnInhibit (id : InhibitID)

section Calls

variable {W σ β : Type} (this : This W σ) (v : Overrides σ) (cb : Callbacks W)

/-- A call on the object at `this`. -/
def call (w : W) : Call → Outcome W Unit
  | .inhibit now r =>
    match InhibitInterface.inhibit v now r (this.get w) with
    | (.error e, o) => (.error e, this.set o w)
    | (.ok _, o) => (.ok (), this.set o w)
  | .unInhibit id =>
    match InhibitInterface.unInhibit v id (this.get w) with
    | (res, o) => (res, this.set o w)
  | .registerInhibit i => this.registerInhibit v cb i w
  | .registerUnInhibit id => this.registerUnInhibit v cb id w

/-- The world after a call, whether it threw or not. -/
def step (w : W) (c : Call) : W := (call this v cb w c).2

/-- The callbacks return without calling back into the object. -/
structure Silent : Prop where
  inhibitCB : ∀ i w, ∃ w', cb.inhibitCB i w = (.ok (), w') ∧ this.get w' = this.get w
  unInhibitCB : ∀ i w, ∃ w', cb.unInhibitCB i w = (.ok (), w') ∧ this.get w' = this.get w

/-- `handleInhibitStateChanged` acts on `f` as `g`, and no other virtual method changes it. -/
structure Notes (f : σ → β) (g : InhibitType → β → β) : Prop where
  doInhibit : ∀ now r s, f (v.doInhibit now r s).2 = f s
  doUnInhibit : ∀ b id s, f (v.doUnInhibit b id s).2 = f s
  inhibitEvent : ∀ i s, f (v.handleInhibitEvent i s) = f s
  unInhibitEvent : ∀ i s, f (v.handleUnInhibitEvent i s) = f s
  stateChanged : ∀ t i s, f (v.handleInhibitStateChanged t i s) = g t (f s)

/-- `lastInhibitState` is up to date. -/
def Settled (o : InhibitInterface σ) : Prop := o.lastInhibitState = o.inhibited

/-- What `f` becomes when `inhibited` goes from `t` to `t'`. -/
def noted (g : InhibitType → β → β) (t t' : InhibitType) (x : β) : β := if t' = t then x else g t' x

variable {v} {f : σ → β} {g : InhibitType → β → β} (hv : Notes v f g)
include hv

/-- `callEvent` brings `lastInhibitState` up to date and notes the change. -/
lemma Notes.callEvent (b : Bool) (i : Inhibit) (o : InhibitInterface σ) :
    Settled (InhibitInterface.callEvent v b i o) ∧
      f (InhibitInterface.callEvent v b i o).sub =
        noted g o.lastInhibitState (InhibitInterface.callEvent v b i o).inhibited (f o.sub) := by
  have hfirst : f (if b then v.handleInhibitEvent i o.sub else v.handleUnInhibitEvent i o.sub) =
      f o.sub := by
    cases b
    · exact hv.unInhibitEvent i o.sub
    · exact hv.inhibitEvent i o.sub
  have hinhibited : (InhibitInterface.callEvent v b i o).inhibited = o.inhibited := by
    unfold Base.inhibited
    rw [InhibitInterface.callEvent_activeInhibits]
  unfold Settled noted
  rw [hinhibited]
  unfold InhibitInterface.callEvent
  dsimp only
  by_cases hchange : o.inhibited = o.lastInhibitState
  · have hno : ¬ o.inhibited ≠ o.lastInhibitState := by simp [hchange]
    rw [if_neg (by exact hno), if_pos hchange]
    exact ⟨hchange.symm, hfirst⟩
  · rw [if_pos (by exact hchange), if_neg hchange]
    refine ⟨rfl, ?_⟩
    rw [hv.stateChanged, hfirst]

/-- What one call does to an object that is up to date: it leaves the base class and `f` alone, or
it ends in `callEvent`. A call that throws is of the first kind. -/
lemma Notes.call_cases {this : This W σ} {cb : Callbacks W} (hcb : Silent this cb) (w : W)
    (c : Call) :
    ((this.get (step this v cb w c)).toBase = (this.get w).toBase ∧
      f (this.get (step this v cb w c)).sub = f (this.get w).sub) ∨
    ((call this v cb w c).1 = .ok () ∧ ∃ b i o,
      this.get (step this v cb w c) = InhibitInterface.callEvent v b i o ∧
      o.lastInhibitState = (this.get w).lastInhibitState ∧ f o.sub = f (this.get w).sub) := by
  unfold step
  cases c with
  | inhibit now r =>
    have hkeep := hv.doInhibit now r (this.get w).sub
    rcases hs : v.doInhibit now r (this.get w).sub with ⟨e | ii, s⟩
    · left
      rw [hs] at hkeep
      simp only [call, InhibitInterface.inhibit, hs, this.get_set]
      exact ⟨trivial, hkeep⟩
    · right
      rw [hs] at hkeep
      simp only [call, InhibitInterface.inhibit, hs, this.get_set]
      exact ⟨trivial, _, _, _, rfl, rfl, hkeep⟩
  | unInhibit id =>
    have hkeep := hv.doUnInhibit (this.get w).toBase id (this.get w).sub
    cases hid : (this.get w).activeInhibits[id]? with
    | none =>
      left
      simp only [call, InhibitInterface.unInhibit, hid, this.get_set, and_self]
    | some mid =>
      rcases hs : v.doUnInhibit (this.get w).toBase id (this.get w).sub with ⟨e | ⟨⟩, s⟩
      · left
        rw [hs] at hkeep
        simp only [call, InhibitInterface.unInhibit, hid, hs, this.get_set]
        exact ⟨trivial, hkeep⟩
      · right
        rw [hs] at hkeep
        simp only [call, InhibitInterface.unInhibit, hid, hs, this.get_set]
        exact ⟨trivial, _, _, _, rfl, rfl, hkeep⟩
  | registerInhibit i =>
    right
    unfold call This.registerInhibit
    dsimp only
    -- the callback leaves the object as the insertion has left it
    obtain ⟨w', hw', hget⟩ := hcb.inhibitCB i (this.modify
      (fun o => { o with activeInhibits := o.activeInhibits.insertIfNew i.id i }) w)
    rw [hw']
    dsimp only
    refine ⟨rfl, true, i, this.get w', this.get_set _ _, ?_, ?_⟩ <;>
      rw [hget] <;> unfold This.modify <;> rw [this.get_set]
  | registerUnInhibit id =>
    unfold call This.registerUnInhibit
    dsimp only
    split
    · exact Or.inl ⟨rfl, rfl⟩
    · rename_i mid hmid
      right
      obtain ⟨w', hw', hget⟩ := hcb.unInhibitCB mid (this.modify
        (fun o => { o with activeInhibits := o.activeInhibits.erase id }) w)
      rw [hw']
      dsimp only
      refine ⟨rfl, false, mid, this.get w', this.get_set _ _, ?_, ?_⟩ <;>
        rw [hget] <;> unfold This.modify <;> rw [this.get_set]

/-- A call that throws leaves the base class as it was. -/
lemma Notes.call_error {this : This W σ} {cb : Callbacks W} (hcb : Silent this cb) {w : W}
    {c : Call} (h : (call this v cb w c).1 ≠ .ok ()) :
    (this.get (step this v cb w c)).toBase = (this.get w).toBase := by
  rcases hv.call_cases hcb w c with ⟨hbase, -⟩ | ⟨hok, -⟩
  · exact hbase
  · exact absurd hok h

/-- One call keeps `lastInhibitState` up to date and notes the change of `inhibited`. -/
lemma Notes.step {this : This W σ} {cb : Callbacks W} (hcb : Silent this cb) {w : W}
    (hw : Settled (this.get w)) (c : Call) :
    Settled (this.get (step this v cb w c)) ∧
      f (this.get (StateChanges.step this v cb w c)).sub =
        noted g (this.get w).inhibited (this.get (StateChanges.step this v cb w c)).inhibited
          (f (this.get w).sub) := by
  rcases hv.call_cases hcb w c with ⟨hbase, hf⟩ | ⟨-, b, i, o, heq, hlast, hf⟩
  · unfold Settled noted at *
    rw [hbase, hf, if_pos rfl]
    exact ⟨hw, rfl⟩
  · have hevent := hv.callEvent b i o
    rw [heq, ← hf, ← hw, ← hlast]
    exact hevent

end Calls

/-! ## A record of the arguments -/

section Recorded

variable {W σ : Type} (v : Overrides σ)

/-- The class, with a record of what `handleInhibitStateChanged` is called with. -/
def recorded : Overrides (σ × List InhibitType) where
  doInhibit now r s := ((v.doInhibit now r s.1).1, (v.doInhibit now r s.1).2, s.2)
  doUnInhibit b id s := ((v.doUnInhibit b id s.1).1, (v.doUnInhibit b id s.1).2, s.2)
  handleInhibitEvent i s := (v.handleInhibitEvent i s.1, s.2)
  handleUnInhibitEvent i s := (v.handleUnInhibitEvent i s.1, s.2)
  handleInhibitStateChanged t i s := (v.handleInhibitStateChanged t i s.1, s.2 ++ [t])

lemma recorded_notes : Notes (recorded v) Prod.snd fun t log => log ++ [t] where
  doInhibit _ _ _ := rfl
  doUnInhibit _ _ _ := rfl
  inhibitEvent _ _ := rfl
  unInhibitEvent _ _ := rfl
  stateChanged _ _ _ := rfl

variable (this : This W (σ × List InhibitType)) (cb : Callbacks W)

/-- The values of `inhibited` at the start and after each call. -/
def values (w : W) (calls : List Call) : List InhibitType :=
  (calls.scanl (step this (recorded v) cb) w).map fun w => (this.get w).inhibited

lemma values_cons (w : W) (c : Call) (calls : List Call) :
    values v this cb w (c :: calls) =
      (this.get w).inhibited :: values v this cb (step this (recorded v) cb w c) calls := by
  simp only [values, List.scanl_cons, List.map_cons]

lemma values_eq_cons (w : W) (calls : List Call) :
    ∃ l, values v this cb w calls = (this.get w).inhibited :: l := by
  cases calls with
  | nil => exact ⟨[], by simp only [values, List.scanl_nil, List.map_cons, List.map_nil]⟩
  | cons c calls => exact ⟨_, values_cons v this cb w c calls⟩

lemma destutter'_eq_cons (t : InhibitType) (l : List InhibitType) :
    l.destutter' (· ≠ ·) t = t :: (l.destutter' (· ≠ ·) t).tail := by
  induction l with
  | nil => rfl
  | cons t' l ih =>
    by_cases h : t ≠ t'
    · rw [List.destutter'_cons_pos (h := h)]
      rfl
    · rw [List.destutter'_cons_neg (h := h)]
      exact ih

/-- A run notes the values of `inhibited` without repetitions, after the one it starts with. -/
lemma recorded_run (hcb : Silent this cb) {w : W} (hw : Settled (this.get w)) (calls : List Call) :
    Settled (this.get (Transition.run (step this (recorded v) cb) w calls)) ∧
      (this.get (Transition.run (step this (recorded v) cb) w calls)).sub.2 =
        (this.get w).sub.2 ++ ((values v this cb w calls).destutter (· ≠ ·)).tail := by
  induction calls generalizing w with
  | nil => simpa [values] using hw
  | cons c calls ih =>
    obtain ⟨hstep, hnoted⟩ := (recorded_notes v).step hcb hw c
    obtain ⟨hrun, hlog⟩ := ih hstep
    refine ⟨hrun, ?_⟩
    obtain ⟨l, hl⟩ := values_eq_cons v this cb (step this (recorded v) cb w c) calls
    rw [Transition.run_cons, hlog, hnoted, values_cons, hl, List.destutter_cons',
      List.destutter_cons', List.destutter'_cons]
    unfold noted
    by_cases heq : (this.get (step this (recorded v) cb w c)).inhibited = (this.get w).inhibited
    · rw [if_pos heq, if_neg (by simp [heq]), heq]
    · rw [if_neg heq, if_pos (Ne.symm heq), List.append_assoc, List.singleton_append,
        ← destutter'_eq_cons, List.tail_cons]

end Recorded

/-! ## `HasInhibitChanged` -/

/-- The value of a `HasInhibitChanged` signal. -/
def hasInhibitChanged : Sent → Option Bool
  | .signal _ interface member [.boolean b] =>
    if interface = "org.freedesktop.PowerManager" ∧ member = "HasInhibitChanged" then some b
    else none
  | _ => none

/-- The value that was sent last, false at first. -/
def lastHasInhibitChanged (sent : List Sent) : Bool :=
  sent.foldl (fun last msg => (hasInhibitChanged msg).getD last) false

lemma lastHasInhibitChanged_append {sent msgs : List Sent}
    (h : ∀ msg ∈ msgs, hasInhibitChanged msg = none) :
    lastHasInhibitChanged (sent ++ msgs) = lastHasInhibitChanged sent := by
  unfold lastHasInhibitChanged
  rw [List.foldl_append]
  generalize sent.foldl (fun last msg => (hasInhibitChanged msg).getD last) false = last
  induction msgs with
  | nil => rfl
  | cons msg msgs ih =>
    rw [List.foldl_cons, h msg List.mem_cons_self, Option.getD_none]
    exact ih fun m hm => h m (List.mem_cons_of_mem _ hm)

section PowerManager

open SimpleDBusInhibitInterface (overrides)

variable {W : Type} {base : OwnerConfig} (hmode : base.monitor = false)

include hmode in
/-- `handleInhibitStateChanged` of the power manager sends whether suspending is inhibited. -/
lemma power_notes : Notes (overrides (FreedesktopPowerManagerInhibitInterface base))
    (fun s => lastHasInhibitChanged s.sent) fun t _ => t.has InhibitType.SUSPEND where
  doInhibit now r s := by
    have hown := OwnerKind.ownCalls
      (.simpleDBus (FreedesktopPowerManagerInhibitInterface base)) hmode
    rcases hown.inhibit now r s with h | ⟨i, -, h⟩
    · exact congrArg (fun r => lastHasInhibitChanged r.2.sent) h
    · exact congrArg (fun r => lastHasInhibitChanged r.2.sent) h
  doUnInhibit b id s := by
    have hown := OwnerKind.ownCalls
      (.simpleDBus (FreedesktopPowerManagerInhibitInterface base)) hmode
    exact congrArg (fun r => lastHasInhibitChanged r.2.sent) (hown.unInhibit b id s)
  inhibitEvent _ _ := rfl
  unInhibitEvent _ _ := rfl
  stateChanged t i s := by
    show lastHasInhibitChanged (s.sent ++
      FreedesktopPowerManagerInhibitInterface.handleInhibitStateChanged base t) = _
    unfold FreedesktopPowerManagerInhibitInterface.handleInhibitStateChanged
    rw [if_neg (by simp [hmode])]
    unfold lastHasInhibitChanged
    rw [List.foldl_append]
    rfl

variable {this : This W OwnerFields} {cb : Callbacks W}

/-- What was sent last is up to date. -/
structure Shown (this : This W OwnerFields) (w : W) : Prop where
  settled : Settled (this.get w)
  sent : lastHasInhibitChanged (this.get w).sub.sent =
    (this.get w).inhibited.has InhibitType.SUSPEND

include hmode in
/-- Each call keeps what was sent last up to date. -/
lemma Shown.step (hcb : Silent this cb) {w : W} (hw : Shown this w) (c : Call) :
    Shown this
      (step this (overrides (FreedesktopPowerManagerInhibitInterface base)) cb w c) := by
  obtain ⟨hsettled, hnoted⟩ := (power_notes hmode).step hcb hw.settled c
  refine ⟨hsettled, hnoted.trans ?_⟩
  unfold noted
  split
  · rename_i hsame
    rw [hsame]
    exact hw.sent
  · rfl

/-- Fields that are not sent change nothing. -/
lemma Shown.modifySub {h : OwnerFields → OwnerFields}
    (hsent : ∀ s, lastHasInhibitChanged (h s).sent = lastHasInhibitChanged s.sent) {w : W}
    (hw : Shown this w) : Shown this (this.modifySub h w) := by
  unfold This.modifySub This.modify
  refine ⟨?_, ?_⟩
  · rw [this.get_set]
    exact hw.settled
  · rw [this.get_set]
    exact (hsent _).trans hw.sent

lemma sendAll_methodReturns {msgs : List Sent} (h : ∀ msg ∈ msgs, hasInhibitChanged msg = none)
    (s : OwnerFields) :
    lastHasInhibitChanged (OwnerFields.sendAll msgs s).sent = lastHasInhibitChanged s.sent :=
  lastHasInhibitChanged_append h

section Handlers

include hmode

lemma Shown.registerInhibit (hcb : Silent this cb) {w : W} (hw : Shown this w) (i : Inhibit) :
    Shown this (this.registerInhibit
      (overrides (FreedesktopPowerManagerInhibitInterface base)) cb i w).2 :=
  hw.step hmode hcb (.registerInhibit i)

lemma Shown.registerUnInhibit (hcb : Silent this cb) {w : W} (hw : Shown this w)
    (id : InhibitID) :
    Shown this (this.registerUnInhibit
      (overrides (FreedesktopPowerManagerInhibitInterface base)) cb id w).2 :=
  hw.step hmode hcb (.registerUnInhibit id)

lemma Shown.trackInhibit (hcb : Silent this cb) {w : W} (hw : Shown this w) (sender : Bytes)
    (i : Inhibit) :
    Shown this (OwnerHandlers.trackInhibit this
      (overrides (FreedesktopPowerManagerInhibitInterface base)) cb sender i w).2 := by
  have hcall := hw.registerInhibit hmode hcb i
  unfold OwnerHandlers.trackInhibit
  split
  · rename_i hres
    rw [hres] at hcall
    exact hcall
  · rename_i hres
    rw [hres] at hcall
    exact hcall.modifySub (by exact fun _ => rfl)

lemma Shown.handleInhibitMsg (hcb : Silent this cb) {w : W} (hw : Shown this w) (now : ℕ)
    (msg : DBus.Message) (ret : Option DBus.Message) :
    Shown this (SimpleDBusInhibitInterface.handleInhibitMsg
      (FreedesktopPowerManagerInhibitInterface base) this cb now msg ret w).2 := by
  unfold SimpleDBusInhibitInterface.handleInhibitMsg OwnerHandlers.handleInhibitMsg
  split
  · exact hw
  dsimp only
  split
  · split
    · dsimp only
      exact hw.modifySub (by exact fun _ => rfl)
    · exact (hw.modifySub (by exact fun _ => rfl)).trackInhibit hmode hcb _ _
  · refine ((hw.modifySub (by exact fun _ => rfl)).modifySub ?_).trackInhibit hmode hcb _ _
    exact sendAll_methodReturns fun m hm => by rw [List.mem_singleton.mp hm]; rfl

lemma Shown.handleUnInhibitMsg (hcb : Silent this cb) {w : W} (hw : Shown this w)
    (tail : List InhibitID) (msg : DBus.Message) (ret : Option DBus.Message) :
    Shown this (SimpleDBusInhibitInterface.handleUnInhibitMsg
      (FreedesktopPowerManagerInhibitInterface base) this cb tail msg ret w).2 := by
  unfold SimpleDBusInhibitInterface.handleUnInhibitMsg OwnerHandlers.handleUnInhibitMsg
  split
  · exact hw
  rename_i cookie hargs
  dsimp only
  have hcall := hw.registerUnInhibit hmode hcb
    (OwnerId.mkId (FreedesktopPowerManagerInhibitInterface base).toOwnerConfig msg.sender cookie)
  split
  · rename_i hres
    rw [hres] at hcall
    exact hcall
  · rename_i hres
    rw [hres] at hcall
    split
    · refine (hcall.modifySub (by exact fun _ => rfl)).modifySub ?_
      exact sendAll_methodReturns fun m hm => by rw [List.mem_singleton.mp hm]; rfl
    · exact hcall.modifySub (by exact fun _ => rfl)

lemma Shown.registerUnInhibitAll (hcb : Silent this cb) (ids : List InhibitID) {w : W}
    (hw : Shown this w) :
    Shown this (OwnerHandlers.registerUnInhibitAll this
      (overrides (FreedesktopPowerManagerInhibitInterface base)) cb ids w).2 := by
  induction ids generalizing w with
  | nil => exact hw
  | cons id ids ih =>
    have hcall := hw.registerUnInhibit hmode hcb id
    unfold OwnerHandlers.registerUnInhibitAll
    split
    · rename_i hres
      rw [hres] at hcall
      exact hcall
    · rename_i hres
      rw [hres] at hcall
      exact ih hcall

lemma Shown.handleNameLostMsg (hcb : Silent this cb) {w : W} (hw : Shown this w)
    (msg : DBus.Message) :
    Shown this (SimpleDBusInhibitInterface.handleNameLostMsg
      (FreedesktopPowerManagerInhibitInterface base) this cb msg w).2 := by
  unfold SimpleDBusInhibitInterface.handleNameLostMsg OwnerHandlers.handleNameLostMsg
  split
  · exact hw
  rename_i name hargs
  have hall := hw.registerUnInhibitAll hmode hcb (OwnerHandlers.owners name (this.get w).sub)
  split
  · rename_i hres
    rw [hres] at hall
    exact hall
  · rename_i hres
    rw [hres] at hall
    exact hall.modifySub (by exact fun _ => rfl)

omit hmode in
lemma Shown.query (q : OwnerHandlers.QueryMethod)
    (hq : ∀ msg b out, q.answer msg b = .ok out → ∀ m ∈ out, hasInhibitChanged m = none) {w : W}
    (hw : Shown this w) (msg : DBus.Message) (ret : Option DBus.Message) :
    Shown this ((q.methodCB this).callback msg ret w).2 := by
  unfold OwnerHandlers.QueryMethod.methodCB
  dsimp only
  split
  · exact hw
  · rename_i out hout
    exact hw.modifySub (sendAll_methodReturns (hq msg _ out hout))

end Handlers

/-- The queries of the power manager only answer. -/
lemma query_methodReturns (q : OwnerHandlers.QueryMethod)
    (hq : q = ⟨"org.freedesktop.DBus.Introspectable", "Introspect",
      SimpleDBusInhibitInterface.handleIntrospect (FreedesktopPowerManagerInhibitInterface base)⟩ ∨
      q ∈ (FreedesktopPowerManagerInhibitInterface base).myMethods)
    (msg : DBus.Message) (b : Base) (out : List Sent) (h : q.answer msg b = .ok out) :
    ∀ m ∈ out, hasInhibitChanged m = none := by
  rcases hq with rfl | hq
  · dsimp only at h
    unfold SimpleDBusInhibitInterface.handleIntrospect at h
    split at h
    · cases h
      simp
    split at h
    · cases h
    split at h
    · cases h
      simp
    · cases h
      intro m hm
      have hanswer : ∃ xml, m = .methodReturn msg [.string (lit xml)] := by
        rcases List.mem_append.mp hm with hm | hm <;> dsimp only at hm <;> split at hm
        · exact ⟨_, List.mem_singleton.mp hm⟩
        · exact absurd hm List.not_mem_nil
        · exact ⟨_, List.mem_singleton.mp hm⟩
        · exact absurd hm List.not_mem_nil
      obtain ⟨xml, rfl⟩ := hanswer
      rfl
  · rw [List.mem_singleton.mp hq] at h
    dsimp only [FreedesktopPowerManagerInhibitInterface.handleHasInhibitMsg] at h
    split at h
    · cases h
      simp
    · cases h
      intro m hm
      rw [List.mem_singleton.mp hm]
      rfl

/-- An event of an object that is on the bus. -/
inductive Event where
  | call (c : Call)
  | message (now : ℕ) (tail : List InhibitID) (msg : DBus.Message)

variable (base) (this) (cb) (mName mName2 : Bytes)

/-- The power manager handles an event. -/
def powerStep (s : DBus.State W) : Event → DBus.State W
  | .call c =>
    { s with
      world := step this (overrides (FreedesktopPowerManagerInhibitInterface base)) cb s.world c }
  | .message now tail msg =>
    (SimpleDBusInhibitInterface.dispatcher (FreedesktopPowerManagerInhibitInterface base) this cb
      mName mName2 now tail).deliver s msg

variable {base} {this} {cb}

include hmode in
lemma Shown.powerStep (hcb : Silent this cb) {s : DBus.State W} (hs : Shown this s.world)
    (e : Event) : Shown this (powerStep base this cb mName mName2 s e).world := by
  cases e with
  | call c => exact hs.step hmode hcb c
  | message now tail msg =>
    refine DBus.deliver_keeps ?_ ?_ hs msg
    · intro method hmem msg ret w hw
      simp only [SimpleDBusInhibitInterface.dispatcher, List.mem_cons, List.mem_map] at hmem
      rcases hmem with rfl | rfl | ⟨q, hq, rfl⟩
      · exact hw.handleInhibitMsg hmode hcb now msg ret
      · exact hw.handleUnInhibitMsg hmode hcb tail msg ret
      · exact hw.query q (query_methodReturns q hq) msg ret
    · intro signal hmem msg w hw
      rw [List.mem_singleton.mp hmem]
      exact hw.handleNameLostMsg hmode hcb msg

end PowerManager

/-! ## Exact notification -/

/-- After the calls `lastInhibitState` is up to date, another call that throws changes neither what
is active nor `lastInhibitState`, and `handleInhibitStateChanged` was told the values of `inhibited`
without repetitions. -/
structure ChangesNoted {W σ : Type} (v : Overrides σ) (this : This W (σ × List InhibitType))
    (cb : Callbacks W) (w : W) (calls : List Call) : Prop where
  settled : Settled (this.get (Transition.run (step this (recorded v) cb) w calls))
  kept : ∀ c, (call this (recorded v) cb (Transition.run (step this (recorded v) cb) w calls) c).1 ≠
      .ok () →
    (this.get (step this (recorded v) cb (Transition.run (step this (recorded v) cb) w calls)
      c)).toBase = (this.get (Transition.run (step this (recorded v) cb) w calls)).toBase
  log : (this.get (Transition.run (step this (recorded v) cb) w calls)).sub.2 =
    ((values v this cb w calls).destutter (· ≠ ·)).tail

/-- `HasInhibit` answers what was last sent in `HasInhibitChanged`. -/
def HasInhibitShown {W : Type} (base : OwnerConfig) (this : This W OwnerFields) (w : W)
    (msg : DBus.Message) : Prop :=
  FreedesktopPowerManagerInhibitInterface.handleHasInhibitMsg base msg (this.get w).toBase =
    .ok [.methodReturn msg [.boolean (lastHasInhibitChanged (this.get w).sub.sent)]]

lemma Shown.hasInhibitShown {W : Type} {base : OwnerConfig} (hmode : base.monitor = false)
    {this : This W OwnerFields} {w : W} (hw : Shown this w) (msg : DBus.Message) :
    HasInhibitShown base this w msg := by
  unfold HasInhibitShown FreedesktopPowerManagerInhibitInterface.handleHasInhibitMsg
  rw [if_neg (by simp [hmode]), hw.sent]

/-- The state changes of every class are noted exactly, from the constructor on; and what the
power manager sent last is what `HasInhibit` answers. -/
theorem stateChanges_exact {W σ : Type} (v : Overrides σ) {this : This W (σ × List InhibitType)}
    {cb : Callbacks W} (hcb : Silent this cb) {w : W} (hnew : (this.get w).toBase = {})
    (hlog : (this.get w).sub.2 = []) (calls : List Call) {W' : Type} {base : OwnerConfig}
    (hmode : base.monitor = false) {this' : This W' OwnerFields} {cb' : Callbacks W'}
    (hcb' : Silent this' cb') (mName mName2 : Bytes) {s : DBus.State W'}
    (hnew' : this'.get s.world = { sub := {} }) (events : List Event) (msg : DBus.Message) :
    ChangesNoted v this cb w calls ∧
      HasInhibitShown base this'
        (Transition.run (powerStep base this' cb' mName mName2) s events).world msg := by
  refine ⟨?_, ?_⟩
  · have hsettled : Settled (this.get w) := by
      unfold Settled
      rw [hnew]
      rfl
    obtain ⟨hrun, hvalues⟩ := recorded_run v this cb hcb hsettled calls
    rw [hlog, List.nil_append] at hvalues
    exact ⟨hrun, fun c hc => (recorded_notes v).call_error hcb hc, hvalues⟩
  · have hshown : Shown this' s.world := by
      refine ⟨?_, ?_⟩
      · unfold Settled
        rw [hnew']
        rfl
      · rw [hnew']
        rfl
    have hrun := Transition.invariant_all (I := fun s : DBus.State W' => Shown this' s.world)
      hshown (fun s e hs => hs.powerStep hmode mName mName2 hcb' e) events
    exact hrun.hasInhibitShown hmode msg

lemma silent_alone {σ : Type} : Silent (Alone.this (σ := σ)) Alone.callbacks where
  inhibitCB _ _ := ⟨_, rfl, rfl⟩
  unInhibitCB _ _ := ⟨_, rfl, rfl⟩

/-- A screen saver that is asked twice under one id, and a power manager that a client calls. -/
theorem stateChanges_exact_twice :
    ChangesNoted (SimpleDBusInhibitInterface.overrides
        (FreedesktopScreenSaverInhibitInterface OwnerKind.exampleConfig))
      Alone.this Alone.callbacks { obj := { sub := ({}, []) } }
      [.registerInhibit { type := InhibitType.SCREENSAVER, id := [1] },
        .registerInhibit { type := InhibitType.SUSPEND, id := [1] }, .unInhibit [1],
        .unInhibit [2], .inhibit 0 { type := InhibitType.SUSPEND }] ∧
      HasInhibitShown OwnerKind.exampleConfig Alone.this
        (Transition.run (powerStep OwnerKind.exampleConfig Alone.this Alone.callbacks
            (lit ":1.0") []) { world := { obj := { sub := {} } } }
          [.call (.inhibit 0 { type := InhibitType.SUSPEND }),
            .message 0 []
              { type := .methodCall, sender := lit ":1.1", member := "Inhibit",
                interface := some "org.freedesktop.PowerManager",
                args := [.string [], .string []] }]).world
        { type := .methodCall, sender := lit ":1.1", member := "HasInhibit" } :=
  stateChanges_exact _ silent_alone rfl rfl _ rfl silent_alone _ _ rfl _ _

end StateChanges
end UnifiedInhibit
