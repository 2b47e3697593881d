import UnifiedInhibit.GnomeInhibitorPaths
import UnifiedInhibit.Lib.Announced
import UnifiedInhibit.OwnerTracking

/-!
# The inhibitors of a session manager

What is active in an implementation of `GnomeSessionManagerInhibitInterface`, the cookie counter and
the signals sent are its `View`. Whatever happens adds one inhibit under the next cookie or removes
some (`step_view`); the owner table does not matter, since any list of ids may be removed.
-/

namespace UnifiedInhibit
namespace GnomeSessionManagerInhibitInterface

open Announced (Notice Tells additions observe Apt)
open DBus (Arg Message)

/-! ## Views -/

/-- What an observer is told by a signal. -/
def notice : Sent → Option (Notice Bytes)
  | .signal path interface member [.objectPath inhibitor] =>
    if path = lit PATH ∧ interface = INTERFACE then
      if member = "InhibitorAdded" then some (.added inhibitor)
      else if member = "InhibitorRemoved" then some (.removed inhibitor)
      else none
    else none
  | _ => none

@[ext] structure View where
  active : StdMap InhibitID Inhibit
  lastCookie : UInt32
  notices : List (Notice Bytes)

namespace View

def of (w : Alone OwnerFields) : View where
  active := w.obj.activeInhibits
  lastCookie := w.obj.sub.lastCookie
  notices := w.obj.sub.sent.filterMap notice

/-- `registerInhibit` -/
def register (V : View) (i : Inhibit) : View :=
  { V with
    active := V.active.insertIfNew i.id i
    notices := V.notices ++ [.added (inhibitorPath (OwnerId.cookie i.id))] }

/-- An inhibit is registered under the next cookie. -/
def add (V : View) (i : Inhibit) : View :=
  { V.register i with lastCookie := nextCookie V.lastCookie }

/-- `registerUnInhibit` -/
def remove (V : View) (id : InhibitID) : View :=
  match V.active[id]? with
  | none => V
  | some mid =>
    { V with
      active := V.active.erase id
      notices := V.notices ++ [.removed (inhibitorPath (OwnerId.cookie mid.id))] }

end View

/-! ## Handlers -/

section Handlers

variable {cfg : OwnerConfig} (hmode : cfg.monitor = false)

lemma callEvent_sub (cfg : OwnerConfig) (b : Bool) (i : Inhibit)
    (o : InhibitInterface OwnerFields) :
    (InhibitInterface.callEvent (overrides cfg) b i o).sub =
      if b then handleInhibitEvent cfg i o.sub else handleUnInhibitEvent cfg i o.sub := by
  unfold InhibitInterface.callEvent
  dsimp only
  split <;> rfl

include hmode

lemma notices_inhibitEvent (i : Inhibit) (s : OwnerFields) :
    (handleInhibitEvent cfg i s).sent.filterMap notice =
      s.sent.filterMap notice ++ [.added (inhibitorPath (OwnerId.cookie i.id))] := by
  show (s.sent ++ inhibitorSignal cfg "InhibitorAdded" i).filterMap notice = _
  unfold inhibitorSignal
  rw [if_neg (by simp [hmode]), List.filterMap_append]
  rfl

lemma notices_unInhibitEvent (i : Inhibit) (s : OwnerFields) :
    (handleUnInhibitEvent cfg i s).sent.filterMap notice =
      s.sent.filterMap notice ++ [.removed (inhibitorPath (OwnerId.cookie i.id))] := by
  show (s.sent ++ inhibitorSignal cfg "InhibitorRemoved" i).filterMap notice = _
  unfold inhibitorSignal
  rw [if_neg (by simp [hmode]), List.filterMap_append]
  rfl

lemma registerInhibit_view (i : Inhibit) (w : Alone OwnerFields) :
    ∃ w', Alone.this.registerInhibit (overrides cfg) Alone.callbacks i w = (.ok (), w') ∧
      View.of w' = (View.of w).register i := by
  refine ⟨_, rfl, ?_⟩
  have hsub := callEvent_sub cfg true i
    { w.obj with activeInhibits := w.obj.activeInhibits.insertIfNew i.id i }
  have hcookie := congrArg OwnerFields.lastCookie hsub
  ext1
  · exact InhibitInterface.callEvent_activeInhibits _ true i _
  · exact hcookie
  · exact (congrArg (fun s => s.sent.filterMap notice) hsub).trans
      (notices_inhibitEvent hmode i w.obj.sub)

lemma registerUnInhibit_view (id : InhibitID) (w : Alone OwnerFields) :
    ∃ w', Alone.this.registerUnInhibit (overrides cfg) Alone.callbacks id w = (.ok (), w') ∧
      View.of w' = (View.of w).remove id := by
  unfold This.registerUnInhibit View.remove
  rw [show (View.of w).active[id]? = (Alone.this.get w).activeInhibits[id]? from rfl]
  cases hmid : (Alone.this.get w).activeInhibits[id]? with
  | none => exact ⟨w, rfl, rfl⟩
  | some mid =>
    refine ⟨_, rfl, ?_⟩
    have hsub := callEvent_sub cfg false mid
      { w.obj with activeInhibits := w.obj.activeInhibits.erase id }
    have hcookie := congrArg OwnerFields.lastCookie hsub
    ext1
    · exact InhibitInterface.callEvent_activeInhibits _ false mid _
    · exact hcookie
    · exact (congrArg (fun s => s.sent.filterMap notice) hsub).trans
        (notices_unInhibitEvent hmode mid w.obj.sub)

lemma registerUnInhibitAll_view (ids : List InhibitID) (w : Alone OwnerFields) :
    ∃ w', OwnerHandlers.registerUnInhibitAll Alone.this (overrides cfg) Alone.callbacks ids w =
        (.ok (), w') ∧ View.of w' = ids.foldl View.remove (View.of w) := by
  induction ids generalizing w with
  | nil => exact ⟨w, rfl, rfl⟩
  | cons id ids ih =>
    obtain ⟨w₁, hrun₁, hview₁⟩ := registerUnInhibit_view hmode id w
    obtain ⟨w₂, hrun₂, hview₂⟩ := ih w₁
    refine ⟨w₂, ?_, ?_⟩
    · unfold OwnerHandlers.registerUnInhibitAll
      rw [hrun₁]
      exact hrun₂
    · rw [hview₂, hview₁, List.foldl_cons]

/-- An `Inhibit` call adds an inhibit of the type that its flags stand for. -/
lemma handleInhibitMsg_view (now : ℕ) {msg : Message} {args : Bytes × Bytes × InhibitType}
    (hargs : inhibitArgs msg.args = some args) (w : Alone OwnerFields) :
    View.of (handleInhibitMsg cfg Alone.this Alone.callbacks now msg none w).2 =
      (View.of w).add (newInhibit cfg now msg (nextCookie w.obj.sub.lastCookie) args) := by
  set c := nextCookie w.obj.sub.lastCookie
  set w₁ : Alone OwnerFields := { w with
    obj := { w.obj with
      sub := OwnerFields.send (.methodReturn msg [.uint32 c])
        { w.obj.sub with lastCookie := c } } } with hw₁
  obtain ⟨w₂, hrun, hview⟩ := registerInhibit_view hmode (newInhibit cfg now msg c args) w₁
  have hbody : handleInhibitMsg cfg Alone.this Alone.callbacks now msg none w =
      OwnerHandlers.trackInhibit Alone.this (overrides cfg) Alone.callbacks msg.sender
        (newInhibit cfg now msg c args) w₁ := by
    unfold handleInhibitMsg OwnerHandlers.handleInhibitMsg
    rw [getArgs_some hargs]
    rfl
  have hstart : View.of w₁ = { View.of w with lastCookie := c } := by
    have hsent : (w.obj.sub.sent ++ [Sent.methodReturn msg [.uint32 c]]).filterMap notice =
        w.obj.sub.sent.filterMap notice := by
      rw [List.filterMap_append]
      exact List.append_nil _
    ext1
    · rfl
    · rfl
    · exact hsent
  rw [hbody]
  unfold OwnerHandlers.trackInhibit
  rw [hrun]
  show View.of w₂ = _
  rw [hview, hstart]
  rfl

lemma handleUnInhibitMsg_view (tail : List InhibitID) {msg : Message} {cookie : UInt32}
    (hargs : oneUInt32 msg.args = some cookie) (w : Alone OwnerFields) :
    View.of (handleUnInhibitMsg cfg Alone.this Alone.callbacks tail msg none w).2 =
      (View.of w).remove (mkId cfg msg.sender cookie) := by
  obtain ⟨w₁, hrun, hview⟩ := registerUnInhibit_view hmode (mkId cfg msg.sender cookie) w
  unfold mkId at hrun
  unfold handleUnInhibitMsg OwnerHandlers.handleUnInhibitMsg
  rw [getArgs_some hargs]
  dsimp only
  rw [hrun, ← hview]
  rfl

lemma handleNameLostMsg_view {msg : Message} {name : Bytes}
    (hargs : oneString msg.args = some name) (w : Alone OwnerFields) :
    View.of (handleNameLostMsg cfg Alone.this Alone.callbacks msg w).2 =
      (OwnerHandlers.owners name w.obj.sub).foldl View.remove (View.of w) := by
  obtain ⟨w₁, hrun, hview⟩ := registerUnInhibitAll_view hmode
    (OwnerHandlers.owners name w.obj.sub) w
  unfold handleNameLostMsg OwnerHandlers.handleNameLostMsg
  rw [getArgs_some hargs]
  dsimp only
  rw [show (Alone.this.get w).sub = w.obj.sub from rfl, hrun, ← hview]
  rfl

end Handlers

/-! ## Runs -/

/-- A message arrives, or the daemon makes a call. -/
inductive Event where
  | message (now : ℕ) (tail : List InhibitID) (msg : Message)
  | inhibit (now : ℕ) (r : InhibitRequest)
  | unInhibit (id : InhibitID)

/-- The interface, and the flags that were asked for under each cookie so far. The latter are not
in the source. -/
structure Run where
  state : DBus.State (Alone OwnerFields) := { world := { obj := { sub := {} } } }
  flags : List GnomeInhibitType := []

/-- What is active, the cookie counter and the notices. -/
def Run.view (s : Run) : View := View.of s.state.world

/-- The flags that the event asks to inhibit. -/
def asked : Event → GnomeInhibitType
  | .message _ _ msg =>
    match msg.args with
    | _ :: _ :: _ :: .uint32 flags :: _ => flags
    | _ => GnomeInhibitType.NONE
  | .inhibit _ r => us2gnomeType r.type
  | .unInhibit _ => GnomeInhibitType.NONE

variable (cfg : OwnerConfig) (mName mName2 : Bytes)

/-- The interface handles an event. -/
def handle (s : DBus.State (Alone OwnerFields)) : Event → DBus.State (Alone OwnerFields)
  | .message now tail msg =>
    (dispatcher cfg Alone.this Alone.callbacks mName mName2 now tail).deliver s msg
  | .inhibit now r =>
    { s with world := { s.world with
      obj := (InhibitInterface.inhibit (overrides cfg) now r s.world.obj).2 } }
  | .unInhibit id =>
    { s with world := { s.world with
      obj := (InhibitInterface.unInhibit (overrides cfg) id s.world.obj).2 } }

/-- A cookie is issued when the counter moves. -/
def step (s : Run) (e : Event) : Run :=
  let state := handle cfg mName mName2 s.state e
  { state
    flags := if state.world.obj.sub.lastCookie = s.state.world.obj.sub.lastCookie then s.flags
      else s.flags ++ [asked e] }

/-- The name of whoever makes a call fits the id. The bus fills it in, with at most 255 bytes. -/
def Truthful (_s : Run) : Event → Prop
  | .message _ _ msg => msg.type = .methodCall → Fits msg.sender
  | _ => True

section Step

variable {cfg} {mName} {mName2}

lemma type_of_inhibitArgs {now : ℕ} {tail : List InhibitID} {msg : Message}
    {args : Bytes × Bytes × InhibitType} (h : inhibitArgs msg.args = some args) :
    args.2.2 = gnomeType2us (asked (.message now tail msg)) := by
  unfold inhibitArgs at h
  split at h
  · rename_i hargs
    rw [← Option.some.inj h]
    unfold asked
    dsimp only
    rw [hargs]
  · cases h

lemma notices_handleInhibitor {read : Inhibit → Arg} {default : Arg} {msg : Message} {b : Base}
    {out : List Sent} (h : handleInhibitor cfg read default msg b = .ok out) :
    out.filterMap notice = [] := by
  unfold handleInhibitor at h
  split at h
  · rw [← Except.ok.inj h]
    rfl
  split at h
  · cases h
  split at h
  · rw [← Except.ok.inj h]
    rfl
  · rw [← Except.ok.inj h]
    rfl
  · cases h

lemma notices_handleIntrospect {msg : Message} {b : Base} {out : List Sent}
    (h : handleIntrospect cfg msg b = .ok out) : out.filterMap notice = [] := by
  unfold handleIntrospect at h
  split at h
  · rw [← Except.ok.inj h]
    rfl
  split at h
  · cases h
  dsimp only at h
  split at h
  · rw [← Except.ok.inj h]
    rfl
  split at h
  · rw [← Except.ok.inj h]
    rfl
  split at h
  · rw [← Except.ok.inj h]
    rfl
  split at h
  · split at h
    · cases h
    · rw [← Except.ok.inj h]
      rfl
  · rw [← Except.ok.inj h]
    rfl

/-- The queries send no notices. -/
lemma query_notices {q : OwnerHandlers.QueryMethod} (hq : q ∈ queries cfg) {msg : Message}
    {b : Base} {out : List Sent} (h : q.answer msg b = .ok out) : out.filterMap notice = [] := by
  simp only [queries, List.mem_cons, List.not_mem_nil, or_false] at hq
  rcases hq with rfl | rfl | rfl | rfl | rfl | rfl | rfl
  · dsimp only [handleIsInhibitedMsg] at h
    split at h
    · rw [← Except.ok.inj h]
      rfl
    split at h
    · cases h
    · rw [← Except.ok.inj h]
      rfl
  · dsimp only [handleGetInhibitors] at h
    split at h
    · rw [← Except.ok.inj h]
      rfl
    · rw [← Except.ok.inj h]
      rfl
  · exact notices_handleInhibitor h
  · exact notices_handleInhibitor h
  · exact notices_handleInhibitor h
  · dsimp only [handleGetProperty] at h
    split at h
    · rw [← Except.ok.inj h]
      rfl
    split at h
    · cases h
    split at h
    · rw [← Except.ok.inj h]
      rfl
    · rw [← Except.ok.inj h]
      rfl
  · exact notices_handleIntrospect h

/-- A query leaves the view as it is. -/
lemma query_view {q : OwnerHandlers.QueryMethod} (hq : q ∈ queries cfg) (msg : Message)
    (ret : Option Message) (w : Alone OwnerFields) :
    View.of ((q.methodCB Alone.this).callback msg ret w).2 = View.of w := by
  unfold OwnerHandlers.QueryMethod.methodCB
  dsimp only
  split
  · rfl
  · rename_i out hout
    have hnotices : (w.obj.sub.sent ++ out).filterMap notice =
        w.obj.sub.sent.filterMap notice := by
      rw [List.filterMap_append, query_notices hq hout, List.append_nil]
    ext1
    · rfl
    · rfl
    · exact hnotices

/-- The view after a step: some inhibits are removed, or one is added under the next cookie. -/
def Changes (cfg : OwnerConfig) (e : Event) (V V' : View) : Prop :=
  (∃ ids : List InhibitID, V' = ids.foldl View.remove V) ∨
    ∃ name i, Fits name ∧ i.id = mkId cfg name (nextCookie V.lastCookie) ∧
      i.type = gnomeType2us (asked e) ∧ V' = V.add i

lemma Changes.none (cfg : OwnerConfig) (e : Event) (V : View) : Changes cfg e V V := .inl ⟨[], rfl⟩

variable (hmode : cfg.monitor = false)
include hmode

lemma message_changes {s : DBus.State (Alone OwnerFields)} (hcalls : s.methodCalls = ∅) {now : ℕ}
    {tail : List InhibitID} {msg : Message} (htruthful : msg.type = .methodCall → Fits msg.sender) :
    (handle cfg mName mName2 s (.message now tail msg)).methodCalls = ∅ ∧
      Changes cfg (.message now tail msg) (View.of s.world)
        (View.of (handle cfg mName mName2 s (.message now tail msg)).world) := by
  set C : OwnerClass := (OwnerKind.gnomeSessionManager cfg).toClass
  show ((C.aloneDispatcher mName mName2 now tail).deliver s msg).methodCalls = ∅ ∧
    Changes cfg (.message now tail msg) (View.of s.world)
      (View.of ((C.aloneDispatcher mName mName2 now tail).deliver s msg).world)
  -- the messages that reach none of the three handlers answer at most
  by_cases hother : (msg.sender = mName ∨ msg.sender = mName2) ∨
      ¬ C.IsInhibit msg ∧ ¬ C.IsUnInhibit msg ∧ ¬ IsNameOwnerChanged msg
  · obtain ⟨hcalls', hworld⟩ :=
      C.deliver_other_world mName mName2 now tail hmode hother hcalls
    refine ⟨hcalls', ?_⟩
    have hview : View.of ((C.aloneDispatcher mName mName2 now tail).deliver s msg).world =
        View.of s.world := by
      rcases hworld with hworld | ⟨q, hq, hworld⟩
      · rw [hworld]
      · rw [hworld]
        exact query_view hq _ _ _
    rw [hview]
    exact Changes.none cfg _ _
  push Not at hother
  obtain ⟨hname, hcalled⟩ := hother
  have hname : ¬ (msg.sender = mName ∨ msg.sender = mName2) := not_or.mpr hname
  by_cases hin : C.IsInhibit msg
  · obtain ⟨hmc, hworld⟩ := OwnerClass.deliver_inhibit now tail hmode hin hname s
    refine ⟨hmc.trans hcalls, ?_⟩
    rw [hworld]
    cases hargs : C.inhibitArgs msg.args with
    | none =>
      rw [handleInhibitMsg_invalid _ _ _ _ hargs]
      exact Changes.none cfg _ _
    | some args =>
      exact .inr ⟨msg.sender, _, htruthful hin.1, rfl, type_of_inhibitArgs hargs,
        handleInhibitMsg_view hmode now hargs s.world⟩
  by_cases hun : C.IsUnInhibit msg
  · obtain ⟨hmc, hworld⟩ := OwnerClass.deliver_unInhibit now tail hmode hin hun hname s
    refine ⟨hmc.trans hcalls, ?_⟩
    rw [hworld]
    cases hargs : oneUInt32 msg.args with
    | none =>
      rw [handleUnInhibitMsg_invalid _ _ _ _ hargs]
      exact Changes.none cfg _ _
    | some cookie =>
      exact .inl ⟨[mkId cfg msg.sender cookie],
        handleUnInhibitMsg_view hmode tail hargs s.world⟩
  · have hnoc : IsNameOwnerChanged msg := hcalled hin hun
    obtain ⟨hmc, hworld⟩ := OwnerClass.deliver_nameOwnerChanged C now tail hnoc hname s
    refine ⟨hmc.trans hcalls, ?_⟩
    rw [hworld]
    cases hargs : oneString msg.args with
    | none =>
      rw [handleNameLostMsg_invalid _ hargs]
      exact Changes.none cfg _ _
    | some name =>
      exact .inl ⟨_, handleNameLostMsg_view hmode hargs s.world⟩

/-- The daemon's `inhibit` is refused or adds an inhibit of the type asked for. -/
lemma inhibit_changes (now : ℕ) (r : InhibitRequest) (w : Alone OwnerFields) :
    Changes cfg (.inhibit now r) (View.of w)
      (View.of { w with obj := (InhibitInterface.inhibit (overrides cfg) now r w.obj).2 }) := by
  by_cases htype : us2gnomeType r.type = GnomeInhibitType.NONE
  · have hrefuse : (overrides cfg).doInhibit now r w.obj.sub =
        (.error .unsupportedType, w.obj.sub) := if_pos htype
    rw [InhibitInterface.inhibit_error _ hrefuse]
    exact Changes.none cfg _ _
  · set i : Inhibit := { r with
      type := gnomeType2us (us2gnomeType r.type)
      id := mkId cfg (lit "us") (nextCookie w.obj.sub.lastCookie)
      created := now } with hi
    have hgrant : (overrides cfg).doInhibit now r w.obj.sub =
        (.ok i, { w.obj.sub with lastCookie := nextCookie w.obj.sub.lastCookie }) := by
      show doInhibit cfg now r w.obj.sub = _
      unfold doInhibit
      rw [if_neg htype, if_neg (by simp [hmode])]
    refine .inr ⟨lit "us", i, fits_us, rfl, rfl, ?_⟩
    unfold InhibitInterface.inhibit
    rw [hgrant]
    have hsub := callEvent_sub cfg true i { w.obj with
      sub := { w.obj.sub with lastCookie := nextCookie w.obj.sub.lastCookie }
      activeInhibits := w.obj.activeInhibits.insertIfNew i.id i }
    have hcookie := congrArg OwnerFields.lastCookie hsub
    have hsent := (congrArg (fun s => s.sent.filterMap notice) hsub).trans
      (notices_inhibitEvent hmode i _)
    ext1
    · exact InhibitInterface.callEvent_activeInhibits _ true i _
    · exact hcookie
    · exact hsent

/-- The daemon's `unInhibit` removes the id. -/
lemma unInhibit_view (id : InhibitID) (w : Alone OwnerFields) :
    View.of { w with obj := (InhibitInterface.unInhibit (overrides cfg) id w.obj).2 } =
      (View.of w).remove id := by
  unfold InhibitInterface.unInhibit View.remove
  rw [show (View.of w).active[id]? = w.obj.activeInhibits[id]? from rfl]
  cases hmid : w.obj.activeInhibits[id]? with
  | none => rfl
  | some mid =>
    have hrelease : (overrides cfg).doUnInhibit w.obj.toBase id w.obj.sub =
        (.ok (), w.obj.sub) := by
      show doUnInhibit cfg w.obj.toBase id w.obj.sub = _
      unfold doUnInhibit
      rw [if_neg (by simp [hmode])]
    dsimp only
    rw [hrelease]
    have hsub := callEvent_sub cfg false mid
      { w.obj with activeInhibits := w.obj.activeInhibits.erase id }
    have hcookie := congrArg OwnerFields.lastCookie hsub
    have hsent := (congrArg (fun s => s.sent.filterMap notice) hsub).trans
      (notices_unInhibitEvent hmode mid _)
    ext1
    · exact InhibitInterface.callEvent_activeInhibits _ false mid _
    · exact hcookie
    · exact hsent

lemma step_view {s : Run} (hcalls : s.state.methodCalls = ∅) {e : Event} (he : Truthful s e) :
    (step cfg mName mName2 s e).state.methodCalls = ∅ ∧
      Changes cfg e s.view (step cfg mName mName2 s e).view := by
  cases e with
  | message now tail msg => exact message_changes hmode hcalls he
  | inhibit now r => exact ⟨hcalls, inhibit_changes hmode now r s.state.world⟩
  | unInhibit id => exact ⟨hcalls, .inl ⟨[id], unInhibit_view hmode id s.state.world⟩⟩

end Step

/-! ## The invariant -/

/-- The paths of the inhibitor objects. -/
def View.paths (V : View) : Finset Bytes :=
  (V.active.toList.map fun p => inhibitorPath (OwnerId.cookie p.2.id)).toFinset

lemma View.mem_paths (V : View) (path : Bytes) :
    path ∈ V.paths ↔ ∃ (id : InhibitID) (i : Inhibit),
      V.active[id]? = some i ∧ inhibitorPath (OwnerId.cookie i.id) = path := by
  unfold View.paths
  simp only [List.mem_toFinset, List.mem_map, Prod.exists,
    Std.ExtTreeMap.mem_toList_iff_getElem?_eq_some]

/-- The flags that the inhibit was asked for with. -/
def flagsOf (flags : List GnomeInhibitType) (i : Inhibit) : GnomeInhibitType :=
  (flags[(OwnerId.cookie i.id).toNat - 1]?).getD GnomeInhibitType.NONE

/-- Each active inhibit has a cookie of its own, among those issued, and an observer of the signals
knows all of them. -/
structure Good (V : View) (flags : List GnomeInhibitType) : Prop where
  cookie : V.lastCookie.toNat = flags.length
  keyed : ∀ (id : InhibitID) i, V.active[id]? = some i → i.id = id
  issued : ∀ id ∈ V.active,
    0 < (OwnerId.cookie id).toNat ∧ (OwnerId.cookie id).toNat ≤ flags.length
  inj : ∀ id ∈ V.active, ∀ id' ∈ V.active, OwnerId.cookie id = OwnerId.cookie id' → id = id'
  type : ∀ (id : InhibitID) i, V.active[id]? = some i → i.type = gnomeType2us (flagsOf flags i)
  tells : Tells V.notices V.paths
  additions : ∀ path ∈ additions V.notices,
    ∃ c : UInt32, c.toNat ≤ flags.length ∧ path = inhibitorPath c
  nodup : (Announced.additions V.notices).Nodup

lemma Good.initial : Good ({} : Run).view [] where
  cookie := rfl
  keyed id i h := absurd h (by simp [Run.view, View.of])
  issued id h := absurd h Std.ExtTreeMap.not_mem_empty
  inj id h := absurd h Std.ExtTreeMap.not_mem_empty
  type id i h := absurd h (by simp [Run.view, View.of])
  tells := by
    have hpaths : ({} : Run).view.paths = ∅ := by
      ext path
      rw [View.mem_paths]
      simp [Run.view, View.of]
    rw [hpaths]
    exact Tells.nil
  additions path h := absurd h List.not_mem_nil
  nodup := List.nodup_nil

section Invariant

variable {V : View} {flags : List GnomeInhibitType}

lemma Good.remove (h : Good V flags) (id : InhibitID) : Good (V.remove id) flags := by
  unfold View.remove
  cases hmid : V.active[id]? with
  | none => exact h
  | some mid =>
    have hactive : ∀ j i, (V.active.erase id)[j]? = some i ↔ j ≠ id ∧ V.active[j]? = some i := by
      intro j i
      rw [StdMap.getElem?_erase]
      split
      · rename_i heq
        simp [heq]
      · rename_i hne
        simp [hne]
    have hmem : id ∈ V.active := (StdMap.mem_iff _ _).mpr ⟨mid, hmid⟩
    have hadditions : Announced.additions
        (V.notices ++ [.removed (inhibitorPath (OwnerId.cookie mid.id))]) =
          Announced.additions V.notices := by
      rw [Announced.additions_append]
      exact List.append_nil _
    constructor
    case cookie => exact h.cookie
    case keyed => exact fun j i hj => h.keyed j i ((hactive j i).mp hj).2
    case issued => exact fun j hj => h.issued j ((StdMap.mem_erase _ _ _).mp hj).1
    case inj =>
      intro j hj k hk
      exact h.inj j ((StdMap.mem_erase _ _ _).mp hj).1 k ((StdMap.mem_erase _ _ _).mp hk).1
    case type => exact fun j i hj => h.type j i ((hactive j i).mp hj).2
    case tells =>
      -- no other active inhibit has the path that is taken back
      have hpaths : View.paths { V with
          active := V.active.erase id
          notices := V.notices ++ [.removed (inhibitorPath (OwnerId.cookie mid.id))] } =
            V.paths.erase (inhibitorPath (OwnerId.cookie mid.id)) := by
        ext path
        rw [Finset.mem_erase, View.mem_paths, View.mem_paths]
        constructor
        · rintro ⟨j, i, hj, rfl⟩
          obtain ⟨hne, hj⟩ := (hactive j i).mp hj
          refine ⟨fun heq => hne ?_, j, i, hj, rfl⟩
          have hcookie := inhibitorPath_inj heq
          rw [h.keyed j i hj, h.keyed id mid hmid] at hcookie
          exact h.inj j ((StdMap.mem_iff _ _).mpr ⟨i, hj⟩) id hmem hcookie
        · rintro ⟨hne, j, i, hj, rfl⟩
          refine ⟨j, i, (hactive j i).mpr ⟨?_, hj⟩, rfl⟩
          rintro rfl
          rw [hmid] at hj
          rw [Option.some.inj hj] at hne
          exact hne rfl
      rw [hpaths]
      exact h.tells.snoc ((V.mem_paths _).mpr ⟨id, mid, hmid, rfl⟩)
    case additions =>
      rw [hadditions]
      exact h.additions
    case nodup =>
      rw [hadditions]
      exact h.nodup

lemma Good.removeAll (h : Good V flags) (ids : List InhibitID) :
    Good (ids.foldl View.remove V) flags := by
  induction ids generalizing V with
  | nil => exact h
  | cons id ids ih => exact ih (h.remove id)

lemma Good.add (h : Good V flags) {name : Bytes} (hname : Fits name) {i : Inhibit}
    {f : GnomeInhibitType} (hid : i.id = mkId cfg name (nextCookie V.lastCookie))
    (htype : i.type = gnomeType2us f) (hlt : flags.length + 1 < 2 ^ 32) :
    Good (V.add i) (flags ++ [f]) := by
  have hnext : (nextCookie V.lastCookie).toNat = flags.length + 1 := by
    unfold nextCookie
    rw [UInt32.toNat_add, h.cookie]
    exact Nat.mod_eq_of_lt hlt
  have hcookie : OwnerId.cookie i.id = nextCookie V.lastCookie := by
    rw [hid]
    exact OwnerId.cookie_mkId cfg hname _
  have hfresh : i.id ∉ V.active := by
    intro hmem
    have hle := (h.issued i.id hmem).2
    rw [hcookie, hnext] at hle
    omega
  have hnone : V.active[i.id]? = none := Std.ExtTreeMap.getElem?_eq_none hfresh
  have hactive : ∀ j k, (V.active.insertIfNew i.id i)[j]? = some k ↔
      (j = i.id ∧ k = i) ∨ V.active[j]? = some k := by
    intro j k
    rw [StdMap.getElem?_insertIfNew]
    by_cases hj : j = i.id
    · rw [if_pos ⟨hj, hnone⟩, hj, hnone]
      simp [eq_comm]
    · rw [if_neg fun h => hj h.1]
      simp [hj]
  have hlength : (flags ++ [f]).length = flags.length + 1 := by simp
  have hnew : inhibitorPath (OwnerId.cookie i.id) ∉ V.paths := by
    intro hmem
    obtain ⟨j, k, hj, hpath⟩ := (V.mem_paths _).mp hmem
    have hle := (h.issued j ((StdMap.mem_iff _ _).mpr ⟨k, hj⟩)).2
    have heq := inhibitorPath_inj hpath
    rw [h.keyed j k hj] at heq
    rw [heq, hcookie, hnext] at hle
    omega
  constructor
  case cookie => exact hnext.trans hlength.symm
  case keyed =>
    intro j k hj
    rcases (hactive j k).mp hj with ⟨rfl, rfl⟩ | hj
    · rfl
    · exact h.keyed j k hj
  case issued =>
    intro j hj
    rw [hlength]
    rcases (StdMap.mem_insertIfNew _ _ _ _).mp hj with rfl | hj
    · rw [hcookie, hnext]
      omega
    · have hj := h.issued j hj
      omega
  case inj =>
    -- the new cookie is greater than all others
    have hother : ∀ j ∈ V.active, OwnerId.cookie j ≠ OwnerId.cookie i.id := by
      intro j hj heq
      have hle := (h.issued j hj).2
      rw [heq, hcookie, hnext] at hle
      omega
    intro j hj k hk heq
    rcases (StdMap.mem_insertIfNew _ _ _ _).mp hj with rfl | hj
    · rcases (StdMap.mem_insertIfNew _ _ _ _).mp hk with rfl | hk
      · rfl
      · exact absurd heq.symm (hother k hk)
    · rcases (StdMap.mem_insertIfNew _ _ _ _).mp hk with rfl | hk
      · exact absurd heq (hother j hj)
      · exact h.inj j hj k hk heq
  case type =>
    intro j k hj
    rcases (hactive j k).mp hj with ⟨-, rfl⟩ | hj
    · unfold flagsOf
      rw [hcookie, hnext, Nat.add_sub_cancel, List.getElem?_concat_length]
      exact htype
    · have hissued := h.issued j ((StdMap.mem_iff _ _).mpr ⟨k, hj⟩)
      have hkey := h.keyed j k hj
      have hsame : flagsOf (flags ++ [f]) k = flagsOf flags k := by
        unfold flagsOf
        rw [hkey, List.getElem?_append_left (by omega)]
      rw [hsame]
      exact h.type j k hj
  case tells =>
    have hpaths : (V.add i).paths = insert (inhibitorPath (OwnerId.cookie i.id)) V.paths := by
      ext path
      rw [Finset.mem_insert, View.mem_paths, View.mem_paths]
      constructor
      · rintro ⟨j, k, hj, rfl⟩
        rcases (hactive j k).mp hj with ⟨-, rfl⟩ | hj
        · exact .inl rfl
        · exact .inr ⟨j, k, hj, rfl⟩
      · rintro (rfl | ⟨j, k, hj, rfl⟩)
        · exact ⟨i.id, i, (hactive i.id i).mpr (.inl ⟨rfl, rfl⟩), rfl⟩
        · exact ⟨j, k, (hactive j k).mpr (.inr hj), rfl⟩
    rw [hpaths]
    exact h.tells.snoc hnew
  case additions =>
    intro path hpath
    have hpath : path ∈ Announced.additions
        (V.notices ++ [.added (inhibitorPath (OwnerId.cookie i.id))]) := hpath
    rw [Announced.additions_append] at hpath
    rw [hlength]
    rcases List.mem_append.mp hpath with hold | hpath
    · obtain ⟨c, hc, heq⟩ := h.additions path hold
      exact ⟨c, by omega, heq⟩
    · exact ⟨OwnerId.cookie i.id, by rw [hcookie, hnext], List.mem_singleton.mp hpath⟩
  case nodup =>
    show (Announced.additions
      (V.notices ++ [.added (inhibitorPath (OwnerId.cookie i.id))])).Nodup
    rw [Announced.additions_append, List.nodup_append]
    refine ⟨h.nodup, List.nodup_singleton _, fun path hpath path' hpath' heq => ?_⟩
    obtain ⟨c, hc, hold⟩ := h.additions path hpath
    rw [heq, List.mem_singleton.mp hpath'] at hold
    rw [← inhibitorPath_inj hold, hcookie, hnext] at hc
    omega

lemma lastCookie_removeAll (ids : List InhibitID) (V : View) :
    (ids.foldl View.remove V).lastCookie = V.lastCookie := by
  induction ids generalizing V with
  | nil => rfl
  | cons id ids ih =>
    rw [List.foldl_cons, ih]
    unfold View.remove
    split <;> rfl

end Invariant

/-- The invariant of a run. -/
structure Kept (s : Run) : Prop where
  methodCalls : s.state.methodCalls = ∅
  good : Good s.view s.flags

section Runs

variable {cfg : OwnerConfig} {mName mName2 : Bytes}

lemma length_flags_step (s : Run) (e : Event) :
    s.flags.length ≤ (step cfg mName mName2 s e).flags.length := by
  unfold step
  dsimp only
  split
  · exact le_rfl
  · rw [List.length_append]
    omega

lemma Kept.step (hmode : cfg.monitor = false) {s : Run} (hs : Kept s) {e : Event}
    (he : Truthful s e)
    (hlt : (GnomeSessionManagerInhibitInterface.step cfg mName mName2 s e).flags.length < 2 ^ 32) :
    Kept (GnomeSessionManagerInhibitInterface.step cfg mName mName2 s e) := by
  set s' := GnomeSessionManagerInhibitInterface.step cfg mName mName2 s e with hs'
  obtain ⟨hcalls, hchange⟩ : s'.state.methodCalls = ∅ ∧ Changes cfg e s.view s'.view :=
    step_view hmode hs.methodCalls he
  refine ⟨hcalls, ?_⟩
  have hflags : s'.flags = if s'.view.lastCookie = s.view.lastCookie then s.flags
      else s.flags ++ [asked e] := rfl
  rcases hchange with ⟨ids, hview⟩ | ⟨name, i, hname, hid, htype, hview⟩
  · rw [hflags, hview, lastCookie_removeAll, if_pos rfl]
    exact hs.good.removeAll ids
  · have hnext : s'.view.lastCookie ≠ s.view.lastCookie := by
      rw [hview]
      show s.view.lastCookie + 1 ≠ s.view.lastCookie
      simp
    rw [if_neg hnext] at hflags
    rw [hflags] at hlt ⊢
    rw [hview]
    exact hs.good.add cfg hname hid htype (by simpa using hlt)

lemma Kept.run (hmode : cfg.monitor = false) {es : List Event}
    (hes : Transition.Along (GnomeSessionManagerInhibitInterface.step cfg mName mName2)
      Truthful {} es)
    (hlt : (Transition.run (GnomeSessionManagerInhibitInterface.step cfg mName mName2) {}
      es).flags.length < 2 ^ 32) :
    Kept (Transition.run (GnomeSessionManagerInhibitInterface.step cfg mName mName2) {} es) := by
  induction es using List.reverseRecOn with
  | nil => exact ⟨rfl, Good.initial⟩
  | append_singleton es e ih =>
    rw [Transition.run_snoc] at hlt ⊢
    obtain ⟨hes, he⟩ := Transition.along_snoc.mp hes
    set s := Transition.run (GnomeSessionManagerInhibitInterface.step cfg mName mName2) {} es
    have hle : s.flags.length ≤
        (GnomeSessionManagerInhibitInterface.step cfg mName mName2 s e).flags.length :=
      length_flags_step s e
    exact (ih hes (by omega)).step hmode he hlt

end Runs

end GnomeSessionManagerInhibitInterface
end UnifiedInhibit
