import UnifiedInhibit.CinnamonScreenSaverInhibitInterface
import UnifiedInhibit.DBusOwnersTheorems
import UnifiedInhibit.DBusTheorems
import UnifiedInhibit.FailedForwards
import UnifiedInhibit.SystemdInhibitQueries
import UnifiedInhibit.SystemdInhibitRuns

/-!
# The method returns that a handler sends

`returned` lists the method returns that an interface has sent, in any world. A handler answers
(`Replies`) if it adds one return of its call to them. What the handlers send besides, signals and
calls, does not count, and the callbacks of main send no returns for an interface (`Quiet`).
-/

namespace UnifiedInhibit

open DBus (Arg Message)

def Sent.isReturn : Sent → Bool
  | .methodReturn _ _ => true
  | _ => false

/-- The method returns among the messages. -/
def returnsIn (msgs : List Sent) : List Sent := msgs.filter Sent.isReturn

lemma returnsIn_append (msgs msgs' : List Sent) :
    returnsIn (msgs ++ msgs') = returnsIn msgs ++ returnsIn msgs' := List.filter_append ..

lemma mem_of_returnsIn {msgs : List Sent} {m : Sent} (h : returnsIn msgs = [m]) : m ∈ msgs := by
  have hm : m ∈ returnsIn msgs := by
    rw [h]
    exact List.mem_singleton_self m
  exact List.mem_of_mem_filter hm

/-- The virtual methods of a class send no method returns. -/
structure Overrides.Quiet {ρ : Type} (u : Overrides ρ) (sent : ρ → List Sent) : Prop where
  doUnInhibit : ∀ b id s, returnsIn (sent (u.doUnInhibit b id s).2) = returnsIn (sent s)
  inhibitEvent : ∀ i s, returnsIn (sent (u.handleInhibitEvent i s)) = returnsIn (sent s)
  unInhibitEvent : ∀ i s, returnsIn (sent (u.handleUnInhibitEvent i s)) = returnsIn (sent s)
  stateChanged : ∀ t i s,
    returnsIn (sent (u.handleInhibitStateChanged t i s)) = returnsIn (sent s)

namespace Overrides.Quiet

variable {ρ : Type} {u : Overrides ρ} {sent : ρ → List Sent} (hu : u.Quiet sent)
include hu

lemma callEvent (b : Bool) (i : Inhibit) (o : InhibitInterface ρ) :
    returnsIn (sent (InhibitInterface.callEvent u b i o).sub) = returnsIn (sent o.sub) := by
  have hfirst : returnsIn (sent (if b then u.handleInhibitEvent i o.sub
      else u.handleUnInhibitEvent i o.sub)) = returnsIn (sent o.sub) := by
    cases b
    · exact hu.unInhibitEvent i o.sub
    · exact hu.inhibitEvent i o.sub
  unfold InhibitInterface.callEvent
  dsimp only
  split
  · exact (hu.stateChanged _ i _).trans hfirst
  · exact hfirst

lemma unInhibit (id : InhibitID) (o : InhibitInterface ρ) :
    returnsIn (sent (InhibitInterface.unInhibit u id o).2.sub) = returnsIn (sent o.sub) := by
  unfold InhibitInterface.unInhibit
  split
  · rfl
  · have hdo := hu.doUnInhibit o.toBase id o.sub
    rcases hres : u.doUnInhibit o.toBase id o.sub with ⟨res, s⟩
    rw [hres] at hdo
    cases res with
    | error e => exact hdo
    | ok _ => exact (hu.callEvent false _ _).trans hdo

end Overrides.Quiet

section Worlds

variable {W ρ : Type} (this : This W ρ) (sent : ρ → List Sent)

/-- The method returns that the object has sent. -/
def returned (w : W) : List Sent := returnsIn (sent (this.get w).sub)

/-- Exactly one method return is sent, for the call `msg`. -/
def Replies (msg : Message) (w w' : W) : Prop :=
  ∃ args, returned this sent w' = returned this sent w ++ [.methodReturn msg args]

/-- The callbacks send no method returns for the object. -/
structure Callbacks.Quiet (cb : Callbacks W) : Prop where
  inhibitCB : ∀ i w, returned this sent (cb.inhibitCB i w).2 = returned this sent w
  unInhibitCB : ∀ i w, returned this sent (cb.unInhibitCB i w).2 = returned this sent w

variable {this sent}

lemma returned_modify {f : InhibitInterface ρ → InhibitInterface ρ}
    (hf : ∀ o, returnsIn (sent (f o).sub) = returnsIn (sent o.sub)) (w : W) :
    returned this sent (this.modify f w) = returned this sent w := by
  unfold returned This.modify
  rw [this.get_set, hf]

/-- An update of the fields that sends the messages `out`. -/
lemma returned_modifySub {f : ρ → ρ} {w : W} {out : List Sent}
    (hf : sent (f (this.get w).sub) = sent (this.get w).sub ++ out) :
    returned this sent (this.modifySub f w) = returned this sent w ++ returnsIn out := by
  unfold returned This.modifySub This.modify
  rw [this.get_set]
  dsimp only
  rw [hf, returnsIn_append]

/-- An update of the fields that sends nothing. -/
lemma returned_modifySub_same {f : ρ → ρ} {w : W}
    (hf : sent (f (this.get w).sub) = sent (this.get w).sub) :
    returned this sent (this.modifySub f w) = returned this sent w := by
  have hout : sent (f (this.get w).sub) = sent (this.get w).sub ++ [] := by
    rw [hf, List.append_nil]
  rw [returned_modifySub hout]
  exact List.append_nil _

/-- Where as many returns have been sent as before, the call is not answered. -/
lemma not_replies {msg : Message} {w w' : W} (h : returned this sent w' = returned this sent w) :
    ¬ Replies this sent msg w w' := by
  rintro ⟨args, hargs⟩
  rw [h] at hargs
  exact absurd (List.self_eq_append_right.mp hargs) (by simp)

variable {u : Overrides ρ} {cb : Callbacks W} (hu : u.Quiet sent) (hcb : cb.Quiet this sent)
include hu hcb

lemma returned_registerInhibit (i : Inhibit) (w : W) :
    returned this sent (this.registerInhibit u cb i w).2 = returned this sent w := by
  unfold This.registerInhibit
  dsimp only
  have hinsert : returned this sent (this.modify
      (fun o => { o with activeInhibits := o.activeInhibits.insertIfNew i.id i }) w) =
      returned this sent w := by
    apply returned_modify
    intro o
    rfl
  have hrun := (hcb.inhibitCB i _).trans hinsert
  split
  · rename_i heq
    rw [heq] at hrun
    exact hrun
  · rename_i heq
    rw [heq] at hrun
    exact (returned_modify (hu.callEvent true i) _).trans hrun

lemma returned_registerUnInhibit (id : InhibitID) (w : W) :
    returned this sent (this.registerUnInhibit u cb id w).2 = returned this sent w := by
  unfold This.registerUnInhibit
  split
  · rfl
  · rename_i mid _
    dsimp only
    have herase : returned this sent (this.modify
        (fun o => { o with activeInhibits := o.activeInhibits.erase id }) w) =
        returned this sent w := by
      apply returned_modify
      intro o
      rfl
    have hrun := (hcb.unInhibitCB mid _).trans herase
    split
    · rename_i heq
      rw [heq] at hrun
      exact hrun
    · rename_i heq
      rw [heq] at hrun
      exact (returned_modify (hu.callEvent false mid) _).trans hrun

end Worlds

/-! ## When the base class gets to its end -/

section Results

variable {W ρ : Type} {this : This W ρ} {u : Overrides ρ} {cb : Callbacks W}

lemma registerInhibit_fst (i : Inhibit) (w : W) :
    (this.registerInhibit u cb i w).1 = (cb.inhibitCB i (this.modify
      (fun o => { o with activeInhibits := o.activeInhibits.insertIfNew i.id i }) w)).1 := by
  unfold This.registerInhibit
  dsimp only
  split
  · rename_i heq
    rw [heq]
  · rename_i heq
    rw [heq]

lemma registerUnInhibit_fst (id : InhibitID) (w : W) :
    (this.registerUnInhibit u cb id w).1 = .ok () ↔
      ∀ mid, (this.get w).activeInhibits[id]? = some mid →
        (cb.unInhibitCB mid (this.modify
          (fun o => { o with activeInhibits := o.activeInhibits.erase id }) w)).1 = .ok () := by
  unfold This.registerUnInhibit
  cases hmid : (this.get w).activeInhibits[id]? with
  | none => exact iff_of_true rfl fun mid h => absurd h (by simp)
  | some mid =>
    simp only [Option.some.injEq, forall_eq']
    split
    · rename_i heq
      rw [heq]
    · rename_i heq
      rw [heq]

end Results

/-! ## The handlers -/

namespace OwnerHandlers

variable {W : Type} {cfg : OwnerConfig} {this : This W OwnerFields} {u : Overrides OwnerFields}
  {cb : Callbacks W}

section Quiet

variable (hu : u.Quiet OwnerFields.sent) (hcb : cb.Quiet this OwnerFields.sent)
include hu hcb

lemma returned_trackInhibit (sender : Bytes) (i : Inhibit) (w : W) :
    returned this OwnerFields.sent (trackInhibit this u cb sender i w).2 =
      returned this OwnerFields.sent w := by
  have hreg := returned_registerInhibit hu hcb i w
  unfold trackInhibit
  split
  · rename_i heq
    rw [heq] at hreg
    exact hreg
  · rename_i heq
    rw [heq] at hreg
    exact (returned_modifySub_same rfl).trans hreg

/-- An `Inhibit` is answered before it is registered, so whatever the registration throws. -/
lemma handleInhibitMsg_replies {expected : List Arg → Option (Bytes × Bytes × InhibitType)}
    (nextCookie : UInt32 → UInt32) (now : ℕ) {msg : Message} {args : Bytes × Bytes × InhibitType}
    (hargs : expected msg.args = some args) (w : W) :
    Replies this OwnerFields.sent msg w
      (handleInhibitMsg cfg this u cb expected nextCookie now msg none w).2 := by
  unfold handleInhibitMsg
  rw [getArgs_some hargs]
  dsimp only
  set w₁ := this.modifySub (fun s => { s with lastCookie := nextCookie s.lastCookie }) w with hw₁
  refine ⟨[.uint32 (this.get w₁).sub.lastCookie], ?_⟩
  rw [returned_trackInhibit hu hcb, returned_modifySub rfl, hw₁, returned_modifySub_same rfl]
  rfl

/-- An `UnInhibit` is answered after the removal, so only if that does not throw. -/
lemma handleUnInhibitMsg_replies_iff (hmon : cfg.monitor = false) (tail : List InhibitID)
    {msg : Message} {cookie : UInt32} (hargs : oneUInt32 msg.args = some cookie) (w : W) :
    Replies this OwnerFields.sent msg w
        (handleUnInhibitMsg cfg this u cb true tail msg none w).2 ↔
      (this.registerUnInhibit u cb (OwnerId.mkId cfg msg.sender cookie) w).1 = .ok () := by
  have hreg := returned_registerUnInhibit hu hcb (OwnerId.mkId cfg msg.sender cookie) w
  unfold handleUnInhibitMsg
  rw [getArgs_some hargs]
  dsimp only
  rcases hres : this.registerUnInhibit u cb (OwnerId.mkId cfg msg.sender cookie) w with ⟨res, w'⟩
  rw [hres] at hreg
  cases res with
  | error e => exact iff_of_false (not_replies hreg) (by simp)
  | ok _ =>
    refine iff_of_true ⟨[], ?_⟩ rfl
    simp only [hmon, Bool.not_false, Bool.and_self, if_true]
    rw [returned_modifySub rfl, returned_modifySub_same rfl, hreg]
    rfl

/-- Without the reply, nothing answers the call. -/
lemma returned_handleUnInhibitMsg (tail : List InhibitID) (msg : Message) (w : W) :
    returned this OwnerFields.sent (handleUnInhibitMsg cfg this u cb false tail msg none w).2 =
      returned this OwnerFields.sent w := by
  unfold handleUnInhibitMsg
  split
  · rfl
  · rename_i cookie _
    have hreg := returned_registerUnInhibit hu hcb (OwnerId.mkId cfg msg.sender cookie) w
    dsimp only
    split
    · rename_i heq
      rw [heq] at hreg
      exact hreg
    · rename_i heq
      rw [heq] at hreg
      exact (returned_modifySub_same rfl).trans hreg

end Quiet

/-- A query sends what it answers. -/
lemma returned_query (q : QueryMethod) {msg : Message} {w : W} {out : List Sent}
    (h : q.answer msg (this.get w).toBase = .ok out) (ret : Option Message) :
    returned this OwnerFields.sent ((q.methodCB this).callback msg ret w).2 =
      returned this OwnerFields.sent w ++ returnsIn out := by
  unfold QueryMethod.methodCB
  dsimp only
  rw [h]
  exact returned_modifySub rfl

/-- What a query sends is what it answers. -/
lemma answer_of_returned (q : QueryMethod) {msg : Message} {w : W} {args : List Arg}
    {ret : Option Message}
    (h : returned this OwnerFields.sent ((q.methodCB this).callback msg ret w).2 =
      returned this OwnerFields.sent w ++ [.methodReturn msg args]) :
    ∃ out, q.answer msg (this.get w).toBase = .ok out ∧
      returnsIn out = [.methodReturn msg args] := by
  cases hout : q.answer msg (this.get w).toBase with
  | error e =>
    refine absurd ⟨_, h⟩ (not_replies ?_)
    unfold QueryMethod.methodCB
    dsimp only
    rw [hout]
  | ok out =>
    rw [returned_query q hout] at h
    exact ⟨out, rfl, List.append_cancel_left h⟩

lemma query_replies (q : QueryMethod) {msg : Message} {w : W} {args : List Arg}
    (h : q.answer msg (this.get w).toBase = .ok [.methodReturn msg args]) (ret : Option Message) :
    Replies this OwnerFields.sent msg w ((q.methodCB this).callback msg ret w).2 :=
  ⟨args, returned_query q h ret⟩

end OwnerHandlers

/-- A `SimulateUserActivity` is answered at its end, so only if the registration does not throw. -/
lemma SimActivity.handleSimActivityMsg_replies_iff {W ρ : Type} {C : SimActivity ρ}
    {this : This W ρ} {u : Overrides ρ} {cb : Callbacks W} {sent : ρ → List Sent}
    (hu : u.Quiet sent) (hcb : cb.Quiet this sent) (hmon : C.monitor = false)
    (howners : ∀ m s, sent (C.setInhibitOwners m s) = sent s)
    (hreturn : ∀ msg s, sent (C.sendReturn msg s) = sent s ++ [.methodReturn msg []])
    (now : ℕ) (msg : Message) (w : W) :
    Replies this sent msg w (C.handleSimActivityMsg this u cb now msg none w).2 ↔
      (this.registerInhibit u cb (C.inhibitOf now msg)
        (this.modifySub (C.clearOwner msg.sender) w)).1 = .ok () := by
  have hclear : returned this sent (this.modifySub (C.clearOwner msg.sender) w) =
      returned this sent w := returned_modifySub_same (howners _ _)
  have hreg := (returned_registerInhibit hu hcb (C.inhibitOf now msg) _).trans hclear
  unfold handleSimActivityMsg clearSender
  rw [sameSender_eq_nil]
  dsimp only [eraseAll]
  rcases hres : this.registerInhibit u cb (C.inhibitOf now msg)
    (this.modifySub (C.clearOwner msg.sender) w) with ⟨res, w'⟩
  rw [hres] at hreg
  cases res with
  | error e => exact iff_of_false (not_replies hreg) (by simp)
  | ok _ =>
    refine iff_of_true ⟨[], ?_⟩ rfl
    have hpush : returned this sent
        (this.modifySub (C.pushOwner msg.sender (C.mkId msg.sender)) w') =
          returned this sent w' := returned_modifySub_same (howners _ _)
    simp only [hmon, Bool.false_eq_true, if_false]
    rw [returned_modifySub (hreturn msg _), hpush, hreg]
    rfl

namespace SystemdInhibitInterface

/-- The bus tells who the sender is, or that it has gone. -/
def CredsKnown (creds : Except Exn (UInt32 × UInt32)) : Prop :=
  ∀ e, creds = .error e → e = nameHasNoOwner

/-- The message is not one that `handleInhibitMsg` ignores. -/
def Heeded (cfg : SystemdConfig) (msg : Message) (why : Bytes) : Prop :=
  msg.sender ≠ cfg.forkSender ∧ why ≠ lit "user session inhibited"

lemma sent_newLockRef (setup : FifoSetup) (s : SystemdFields) :
    (newLockRef setup s).2.sent = s.sent := by
  unfold newLockRef
  dsimp only
  split <;> rfl

variable {W : Type} {cfg : SystemdConfig} {this : This W SystemdFields} {cb : Callbacks W}

/-- The new reference is kept, whatever is done with it. -/
lemma returned_keepLockRef (this : This W SystemdFields) (setup : FifoSetup) (w : W) :
    returned this SystemdFields.sent
        (this.modifySub (fun _ => (newLockRef setup (this.get w).sub).2) w) =
      returned this SystemdFields.sent w :=
  returned_modifySub_same (sent_newLockRef setup _)

lemma returned_send (msgs : List Sent) (w : W) :
    returned this SystemdFields.sent (send this msgs w) =
      returned this SystemdFields.sent w ++ returnsIn msgs := returned_modifySub rfl

section Quiet

variable {setup : FifoSetup} (hu : (overrides cfg setup).Quiet SystemdFields.sent)
  (hcb : cb.Quiet this SystemdFields.sent)
include hu hcb

/-- Once the FIFO is set up, the call is answered before the inhibit is registered. -/
lemma handleInhibitMsg_replies_iff (now : ℕ)
    (pidUid : Option (UInt32 × UInt32)) (readable : Bool) {msg : Message}
    {what who why mode : Bytes} (hargs : fourStrings msg.args = some (what, who, why, mode))
    (w : W) :
    Replies this SystemdFields.sent msg w
        (handleInhibitMsg cfg this (overrides cfg setup) cb setup now pidUid readable msg none
          w).2 ↔
      Heeded cfg msg why ∧ FifoSetup.Succeeds setup := by
  unfold handleInhibitMsg Heeded
  rw [getArgs_some hargs]
  dsimp only
  by_cases hsender : msg.sender = cfg.forkSender
  · rw [if_pos hsender]
    exact iff_of_false (not_replies rfl) fun h => h.1.1 hsender
  rw [if_neg hsender]
  by_cases hwhy : why = lit "user session inhibited"
  · rw [if_pos hwhy]
    exact iff_of_false (not_replies rfl) fun h => h.1.2 hwhy
  rw [if_neg hwhy]
  by_cases hsetup : FifoSetup.Succeeds setup
  · refine iff_of_true ?_ ⟨⟨hsender, hwhy⟩, hsetup⟩
    obtain ⟨file, s, hlock, -⟩ := newLockRef_ok hsetup (this.get w).sub
    have hsent := sent_newLockRef setup (this.get w).sub
    rw [hlock] at hsent ⊢
    dsimp only at hsent ⊢
    set w₁ := this.modifySub (fun _ => { s with
      pidUids := toldPidUids pidUid (mkId cfg (Descriptors.lowestFree
        (Descriptors.openFd (this.get w).sub.fds file).2)) s
      sent := s.sent ++ [.methodReturn msg [.unixFd file]]
      fds := s.fds.erase (Descriptors.lowestFree
        (Descriptors.openFd (this.get w).sub.fds file).2) }) w with hw₁
    have hreply : returned this SystemdFields.sent w₁ =
        returned this SystemdFields.sent w ++ [.methodReturn msg [.unixFd file]] := by
      show _ = _ ++ returnsIn [.methodReturn msg [.unixFd file]]
      refine returned_modifySub ?_
      show s.sent ++ _ = _
      rw [hsent]
    -- the reply is sent in front of the registration, which sends none
    have hreg := fun i => (returned_registerInhibit hu hcb i w₁).trans hreply
    refine ⟨[.unixFd file], ?_⟩
    split
    · rename_i heq
      exact (congrArg (fun r => returned this SystemdFields.sent r.2) heq).symm.trans (hreg _)
    · rename_i heq
      dsimp only
      rw [returned_modifySub_same rfl]
      exact (congrArg (fun r => returned this SystemdFields.sent r.2) heq).symm.trans (hreg _)
  · refine iff_of_false (not_replies ?_) fun h => hsetup h.2
    obtain ⟨e, s, hlock, -⟩ := newLockRef_fails hsetup (this.get w).sub
    have hkeep := returned_keepLockRef this setup w
    rw [hlock] at hkeep ⊢
    exact hkeep

/-- If the bus tells nothing, the exception leaves before the answer. -/
lemma handleInhibitMsgAsking_replies_iff (now : ℕ)
    (creds : Except Exn (UInt32 × UInt32)) (readable : Bool) {msg : Message}
    {what who why mode : Bytes} (hargs : fourStrings msg.args = some (what, who, why, mode))
    (w : W) :
    Replies this SystemdFields.sent msg w
        (handleInhibitMsgAsking cfg this cb setup now creds readable msg none w).2 ↔
      Heeded cfg msg why ∧ FifoSetup.Succeeds setup ∧ CredsKnown creds := by
  unfold handleInhibitMsgAsking CredsKnown
  cases creds with
  | ok pidUid =>
    dsimp only
    rw [handleInhibitMsg_replies_iff hu hcb now (some pidUid) readable hargs]
    simp
  | error e =>
    simp only [Except.error.injEq, forall_eq']
    by_cases he : e = nameHasNoOwner
    · rw [if_pos he, handleInhibitMsg_replies_iff hu hcb now none readable hargs]
      simp [he]
    · rw [if_neg he]
      refine iff_of_false (not_replies ?_) fun h => he h.2.2
      -- the lock reference is set up before the bus is asked
      have hkeep := returned_keepLockRef this setup w
      rw [getArgs_some hargs]
      simp only [Option.isSome_none, Bool.false_and, Bool.false_eq_true, if_false]
      split
      · rfl
      split
      · rfl
      rcases hlock : newLockRef setup (this.get w).sub with ⟨res, s⟩
      rw [hlock] at hkeep
      cases res with
      | error _ => exact hkeep
      | ok _ => exact hkeep

end Quiet

lemma handleListInhibitorsMsg_replies (hmon : cfg.monitor = false) (what : InhibitID → Bytes)
    (msg : Message) (w : W) :
    Replies this SystemdFields.sent msg w
      (handleListInhibitorsMsg cfg this what msg none w).2 := by
  unfold handleListInhibitorsMsg
  rw [hmon]
  unfold Replies
  dsimp only
  rw [if_neg (by decide)]
  dsimp only
  rw [returned_send, returned_modifySub_same rfl]
  exact ⟨_, rfl⟩

end SystemdInhibitInterface

/-! ## The callbacks of main -/

/-- The virtual methods of a class whose fields are a part of an object's. -/
def Overrides.within {σ ρ : Type} (P : Part σ ρ) (u : Overrides ρ) : Overrides σ where
  doInhibit now r s :=
    match u.doInhibit now r (P.get s) with
    | (res, a) => (res, P.set a s)
  doUnInhibit b id s :=
    match u.doUnInhibit b id (P.get s) with
    | (res, a) => (res, P.set a s)
  handleInhibitEvent i s := P.set (u.handleInhibitEvent i (P.get s)) s
  handleUnInhibitEvent i s := P.set (u.handleUnInhibitEvent i (P.get s)) s
  handleInhibitStateChanged t i s := P.set (u.handleInhibitStateChanged t i (P.get s)) s

lemma Overrides.Quiet.within {σ ρ : Type} (P : Part σ ρ) {u : Overrides ρ}
    {sent : ρ → List Sent} (hu : u.Quiet sent) :
    (u.within P).Quiet fun s => sent (P.get s) where
  doUnInhibit b id s := by
    show returnsIn (sent (P.get (P.set (u.doUnInhibit b id (P.get s)).2 s))) = _
    rw [P.get_set, hu.doUnInhibit]
  inhibitEvent i s := by
    show returnsIn (sent (P.get (P.set (u.handleInhibitEvent i (P.get s)) s))) = _
    rw [P.get_set, hu.inhibitEvent]
  unInhibitEvent i s := by
    show returnsIn (sent (P.get (P.set (u.handleUnInhibitEvent i (P.get s)) s))) = _
    rw [P.get_set, hu.unInhibitEvent]
  stateChanged t i s := by
    show returnsIn (sent (P.get (P.set (u.handleInhibitStateChanged t i (P.get s)) s))) = _
    rw [P.get_set, hu.stateChanged]

namespace Daemon

variable {σ ρ : Type} {v : ℕ → Overrides σ} {k : ℕ} {P : Part σ ρ} {sent : ρ → List Sent}

lemma returned_congr {d d' : Daemon σ} (h : d'.object k = d.object k) :
    returned ((this k).part P) sent d' = returned ((this k).part P) sent d := by
  unfold returned This.part this
  dsimp only
  rw [h]

lemma returned_printInhibited (d : Daemon σ) :
    returned ((this k).part P) sent d.printInhibited = returned ((this k).part P) sent d := by
  rw [printInhibited_eq]
  rfl

lemma returned_release (hv : (v k).Quiet fun s => sent (P.get s)) (rs : List (ℕ × InhibitID))
    (d : Daemon σ) :
    returned ((this k).part P) sent (release v rs d).2 =
      returned ((this k).part P) sent d := by
  induction rs generalizing d with
  | nil => rfl
  | cons r rs ih =>
    have hone : returned ((this k).part P) sent (unInhibitAt v r.1 r.2 d).2 =
        returned ((this k).part P) sent d := by
      by_cases hk : k = r.1
      · unfold unInhibitAt
        rw [← hk]
        show returnsIn (sent (P.get (((this k).get ((this k).set _ d)).sub))) = _
        rw [(this k).get_set]
        exact hv.unInhibit r.2 (d.object k)
      · exact returned_congr (Function.update_of_ne hk _ _)
    unfold release
    rcases hres : unInhibitAt v r.1 r.2 d with ⟨res, d'⟩
    rw [hres] at hone
    rcases res with e | _
    · cases e with
      | unsupportedType => exact (ih d').trans hone
      | _ => exact hone
    · exact (ih d').trans hone

/-- The callbacks make an interface send signals and calls, but no returns. -/
lemma callbacks_quiet (hv : (v k).Quiet fun s => sent (P.get s)) (now : ℕ) :
    (callbacks v now k).Quiet ((this k).part P) sent where
  inhibitCB i d := by
    have hobj : returned ((this k).part P) sent (forward v now k i d.inhibitors d).2 =
        returned ((this k).part P) sent d :=
      returned_congr (object_forward now k i d.inhibitors d)
    show returned _ sent (inhibitCB v now k i d).2 = _
    unfold inhibitCB
    rcases hres : forward v now k i d.inhibitors d with ⟨res, d'⟩
    rw [hres] at hobj
    rcases res with e | _
    · cases e with
      | noResponse => exact (returned_printInhibited d').trans hobj
      | _ => exact hobj
    · exact (returned_printInhibited d').trans hobj
  unInhibitCB i d := by
    show returned _ sent (unInhibitCB v i d).2 = _
    unfold unInhibitCB
    split
    · exact returned_printInhibited d
    · rename_i plan _
      have hrel := returned_release hv plan d
      rcases hres : release v plan d with ⟨res, d'⟩
      rw [hres] at hrel
      rcases res with e | _
      · cases e with
        | noResponse => exact (returned_printInhibited d').trans hrel
        | _ => exact hrel
      · exact (returned_printInhibited _).trans hrel

end Daemon

end UnifiedInhibit
