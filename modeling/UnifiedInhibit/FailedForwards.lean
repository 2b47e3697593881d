import UnifiedInhibit.DaemonFaults
import UnifiedInhibit.OwnerTracking

/-!
# Exceptions out of forwarding

`inhibitCB` catches a refused type and a missing response. Any other exception leaves it, and with
it `registerInhibit` and `handleInhibitMsg`: the inhibit is active and has been forwarded to some
interfaces, but it is neither counted nor listed under its owner.
-/

namespace UnifiedInhibit

open DBus (Message)

namespace Daemon

variable {σ : Type} {v : ℕ → Overrides σ}

/-! ## What stops the loop -/

/-- The exception that an answer ends the forwarding loop with. -/
def fault : Except Exn Inhibit → Option Exn
  | .ok _ => none
  | .error .unsupportedType => none
  | .error e => some e

/-- The first of these exceptions that the interfaces other than the originator throw. -/
def firstFault (v : ℕ → Overrides σ) (now inhibitor : ℕ) (r : InhibitRequest) (d : Daemon σ)
    (ais : List ℕ) : Option Exn :=
  (ais.filter (· ≠ inhibitor)).findSome? fun ai => fault (answer v now r d ai)

lemma firstFault_cons (now inhibitor : ℕ) (r : InhibitRequest) (d : Daemon σ) (ai : ℕ)
    (ais : List ℕ) :
    firstFault v now inhibitor r d (ai :: ais) =
      if ai ≠ inhibitor then
        match fault (answer v now r d ai) with
        | some e => some e
        | none => firstFault v now inhibitor r d ais
      else firstFault v now inhibitor r d ais := by
  unfold firstFault
  by_cases hai : ai ≠ inhibitor
  · rw [List.filter_cons_of_pos (by simpa using hai), List.findSome?_cons, if_pos hai]
    cases fault (answer v now r d ai) <;> rfl
  · rw [List.filter_cons_of_neg (by simpa using hai), if_neg hai]

lemma firstFault_congr {d d' : Daemon σ} (now inhibitor : ℕ) (r : InhibitRequest) (ais : List ℕ)
    (h : ∀ b ∈ ais, b ≠ inhibitor → d'.object b = d.object b) :
    firstFault v now inhibitor r d' ais = firstFault v now inhibitor r d ais := by
  induction ais with
  | nil => rfl
  | cons ai ais ih =>
    rw [firstFault_cons, firstFault_cons, ih fun b hb => h b (List.mem_cons_of_mem _ hb)]
    by_cases hai : ai ≠ inhibitor
    · rw [answer_congr (h ai List.mem_cons_self hai)]
    · rw [if_neg hai, if_neg hai]

/-- The loop does not touch the originator. -/
lemma object_forward (now inhibitor : ℕ) (i : Inhibit) (ais : List ℕ) (d : Daemon σ) :
    (forward v now inhibitor i ais d).2.object inhibitor = d.object inhibitor := by
  induction ais generalizing d with
  | nil => rfl
  | cons ai ais ih =>
    unfold forward
    by_cases hai : ai ≠ inhibitor
    · rw [if_pos hai]
      have hobj := object_inhibitAt_of_ne (v := v) hai.symm now i.toInhibitRequest d
      rcases hat : inhibitAt v now ai i.toInhibitRequest d with ⟨res, d₁⟩
      rw [hat] at hobj
      rcases res with e | c
      · cases e with
        | unsupportedType => exact (ih d₁).trans hobj
        | _ => exact hobj
      · exact (ih _).trans hobj
    · rw [if_neg hai]
      exact ih d

/-- The loop ends with the first of the exceptions, if there is one. -/
lemma forward_fst (now inhibitor : ℕ) (i : Inhibit) {ais : List ℕ} (hnodup : ais.Nodup)
    (d : Daemon σ) :
    (forward v now inhibitor i ais d).1 =
      match firstFault v now inhibitor i.toInhibitRequest d ais with
      | some e => .error e
      | none => .ok () := by
  induction ais generalizing d with
  | nil => rfl
  | cons ai ais ih =>
    obtain ⟨hnot, hnodup⟩ := List.nodup_cons.mp hnodup
    rw [firstFault_cons]
    unfold forward
    by_cases hai : ai ≠ inhibitor
    · rw [if_pos hai, if_pos hai, ← inhibitAt_fst]
      -- the rest of the loop runs in a state that differs at `ai` only
      have hrest : ∀ d' : Daemon σ, (∀ b, b ≠ ai → d'.object b = d.object b) →
          firstFault v now inhibitor i.toInhibitRequest d' ais =
            firstFault v now inhibitor i.toInhibitRequest d ais := by
        intro d' hobj
        exact firstFault_congr now inhibitor _ ais fun b hb _ =>
          hobj b fun heq => hnot (heq ▸ hb)
      have hobj : ∀ b, b ≠ ai →
          (inhibitAt v now ai i.toInhibitRequest d).2.object b = d.object b :=
        fun b hb => object_inhibitAt_of_ne hb now _ d
      rcases hat : inhibitAt v now ai i.toInhibitRequest d with ⟨res, d₁⟩
      rw [hat] at hobj
      rcases res with e | c
      · cases e with
        | unsupportedType =>
          dsimp only [fault]
          rw [ih hnodup, hrest d₁ hobj]
        | _ => rfl
      · dsimp only [fault]
        rw [ih hnodup, hrest (d₁.pushRelease i.id (ai, c.id)) hobj]
    · rw [if_neg hai, if_neg hai]
      exact ih hnodup d

/-- What ends the loop, if anything, is a missing response. -/
def Caught (v : ℕ → Overrides σ) (now inhibitor : ℕ) (r : InhibitRequest) (d : Daemon σ) : Prop :=
  ∀ e, firstFault v now inhibitor r d d.inhibitors = some e → e = .noResponse

/-- `inhibitCB` returns, unless an exception is not caught. -/
lemma inhibitCB_returns (now inhibitor : ℕ) (i : Inhibit) {d : Daemon σ}
    (hnodup : d.inhibitors.Nodup) :
    ∃ d', d'.object inhibitor = d.object inhibitor ∧
      ((Caught v now inhibitor i.toInhibitRequest d ∧
          inhibitCB v now inhibitor i d = (.ok (), d')) ∨
        (¬ Caught v now inhibitor i.toInhibitRequest d ∧
          ∃ e, inhibitCB v now inhibitor i d = (.error e, d'))) := by
  have hfst := forward_fst (v := v) now inhibitor i hnodup d
  have hobj := object_forward (v := v) now inhibitor i d.inhibitors d
  unfold Caught inhibitCB
  rcases hfw : forward v now inhibitor i d.inhibitors d with ⟨res, d'⟩
  rw [hfw] at hfst hobj
  have hprint : d'.printInhibited.object = d'.object := by rw [printInhibited_eq]
  dsimp only at hfst hobj
  cases hfault : firstFault v now inhibitor i.toInhibitRequest d d.inhibitors with
  | none =>
    rw [hfault] at hfst
    rw [hfst]
    refine ⟨d'.printInhibited, by rw [hprint, hobj], .inl ⟨fun e he => ?_, rfl⟩⟩
    exact absurd he (by simp)
  | some e =>
    rw [hfault] at hfst
    rw [hfst]
    by_cases he : e = .noResponse
    · rw [he]
      refine ⟨d'.printInhibited, by rw [hprint, hobj], .inl ⟨fun e' he' => ?_, rfl⟩⟩
      exact (Option.some.inj he').symm
    · refine ⟨d', hobj, .inr ⟨fun h => he (h e rfl), e, ?_⟩⟩
      cases e with
      | noResponse => exact absurd rfl he
      | _ => rfl

/-! ## The originator -/

lemma Caught.congr {now inhibitor : ℕ} {r : InhibitRequest} {d d' : Daemon σ}
    (hinh : d'.inhibitors = d.inhibitors)
    (hobj : ∀ b, b ≠ inhibitor → d'.object b = d.object b) :
    Caught v now inhibitor r d' ↔ Caught v now inhibitor r d := by
  unfold Caught
  rw [hinh, firstFault_congr now inhibitor r d.inhibitors fun b _ hb => hobj b hb]

/-- An inhibit of the client is active, listed under it and counted. -/
def Kept (client : Bytes) (id : InhibitID) (o : InhibitInterface OwnerFields) : Prop :=
  ∃ i, o.activeInhibits[id]? = some i ∧ id ∈ OwnerHandlers.owners client o.sub ∧
    ∀ flag, i.type.has flag → o.lastInhibitState.has flag

/-- The inhibit is not active, and neither is a copy of it. -/
def Dropped (k : ℕ) (id : InhibitID) (d : Daemon σ) : Prop :=
  d.active k id = none ∧ ∀ p ∈ d.planOf id, d.active p.1 p.2 = none

/-- The id of a new inhibit was listed and counted before. -/
def KeptBefore (client : Bytes) (i : Inhibit) (o : InhibitInterface OwnerFields) : Prop :=
  i.id ∈ OwnerHandlers.owners client o.sub ∧
    ∀ flag, ((o.activeInhibits[i.id]?).getD i).type.has flag → o.lastInhibitState.has flag

variable (P : Part σ OwnerFields) (k : ℕ)

/-- The object `k` as its class sees it. -/
def view (d : Daemon σ) : InhibitInterface OwnerFields := ((this k).part P).get d

lemma view_modify (f : InhibitInterface OwnerFields → InhibitInterface OwnerFields)
    (d : Daemon σ) : view P k (((this k).part P).modify f d) = f (view P k d) :=
  ((this k).part P).get_set _ _

lemma view_congr {d d' : Daemon σ} (h : d'.object k = d.object k) : view P k d' = view P k d := by
  unfold view This.part
  dsimp only [this]
  rw [h]

lemma object_modify_of_ne (f : InhibitInterface OwnerFields → InhibitInterface OwnerFields)
    (d : Daemon σ) {b : ℕ} (hb : b ≠ k) :
    (((this k).part P).modify f d).object b = d.object b :=
  Function.update_of_ne hb _ _

lemma active_eq_view (id : InhibitID) (d : Daemon σ) :
    d.active k id = (view P k d).activeInhibits[id]? := rfl

variable {P k}

/-- The end of `handleInhibitMsg`, at the originator `k`. -/
lemma trackInhibit_kept_iff (w : Overrides OwnerFields) (now : ℕ) (client : Bytes) (i : Inhibit)
    {d : Daemon σ} (hnodup : d.inhibitors.Nodup) :
    let d' := (OwnerHandlers.trackInhibit ((this k).part P) w (callbacks v now k) client i d).2
    Kept client i.id (view P k d') ∨ Dropped k i.id d' ↔
      Caught v now k i.toInhibitRequest d ∨ KeptBefore client i (view P k d) := by
  intro d'
  set ins : InhibitInterface OwnerFields → InhibitInterface OwnerFields :=
    fun o => { o with activeInhibits := o.activeInhibits.insertIfNew i.id i } with hins
  set d₁ := ((this k).part P).modify ins d with hd₁
  have hcaught : Caught v now k i.toInhibitRequest d₁ ↔ Caught v now k i.toInhibitRequest d :=
    Caught.congr rfl fun b hb => object_modify_of_ne P k ins d hb
  have hactive : (ins (view P k d)).activeInhibits[i.id]? =
      some (((view P k d).activeInhibits[i.id]?).getD i) := by
    show ((view P k d).activeInhibits.insertIfNew i.id i)[i.id]? = _
    rw [StdMap.getElem?_insertIfNew]
    cases (view P k d).activeInhibits[i.id]? <;> simp
  have hnodup₁ : d₁.inhibitors.Nodup := hnodup
  obtain ⟨d₂, hobj, hcb⟩ := inhibitCB_returns (v := v) now k i hnodup₁
  have hview : view P k d₂ = ins (view P k d) :=
    (view_congr P k hobj).trans (view_modify P k ins d)
  rcases hcb with ⟨hyes, hrun⟩ | ⟨hno, e, hrun⟩
  · -- the callback returns: what it left is counted and then listed
    refine iff_of_true (.inl ?_) (.inl (hcaught.mp hyes))
    have hd' : d' = ((this k).part P).modifySub (fun s => OwnerHandlers.setOwners client
        (OwnerHandlers.owners client s ++ [i.id]) s)
        (((this k).part P).modify (InhibitInterface.callEvent w true i) d₂) := by
      show (OwnerHandlers.trackInhibit _ w (callbacks v now k) client i d).2 = _
      unfold OwnerHandlers.trackInhibit This.registerInhibit
      dsimp only [callbacks]
      rw [← hd₁, hrun]
    -- `callEvent` leaves the last state at what is inhibited now
    have hlast : ∀ o, (InhibitInterface.callEvent w true i o).lastInhibitState =
        (InhibitInterface.callEvent w true i o).inhibited := by
      intro o
      unfold InhibitInterface.callEvent
      dsimp only
      split
      · rfl
      · rename_i heq
        exact (not_not.mp heq).symm
    have hafter : (InhibitInterface.callEvent w true i (view P k d₂)).activeInhibits[i.id]? =
        some (((view P k d).activeInhibits[i.id]?).getD i) := by
      rw [InhibitInterface.callEvent_activeInhibits, hview]
      exact hactive
    rw [hd']
    unfold This.modifySub
    rw [view_modify, view_modify]
    refine ⟨_, hafter, ?_, fun flag hflag => ?_⟩
    · unfold OwnerHandlers.owners OwnerHandlers.setOwners
      rw [StdMap.getElem?_insert, if_pos rfl]
      exact List.mem_append_right _ (List.mem_singleton_self _)
    · show (InhibitInterface.callEvent w true i (view P k d₂)).lastInhibitState.has flag = true
      rw [hlast]
      exact (Base.inhibited_has _ flag).mpr ⟨i.id, _, hafter, hflag⟩
  · -- the callback throws: nothing more happens
    have hd' : d' = d₂ := by
      show (OwnerHandlers.trackInhibit _ w (callbacks v now k) client i d).2 = _
      unfold OwnerHandlers.trackInhibit This.registerInhibit
      dsimp only [callbacks]
      rw [← hd₁, hrun]
    have hnot : ¬ Caught v now k i.toInhibitRequest d := fun h => hno (hcaught.mpr h)
    rw [hd']
    unfold Kept Dropped KeptBefore
    rw [active_eq_view P, hview, hactive]
    constructor
    · intro hkept
      rcases hkept with ⟨i', hi', howner, hcounted⟩ | ⟨hnone, -⟩
      · rw [← Option.some.inj hi'] at hcounted
        exact .inr ⟨howner, hcounted⟩
      · exact absurd hnone (by simp)
    · intro hbefore
      obtain ⟨howner, hcounted⟩ := hbefore.resolve_left hnot
      exact .inl ⟨_, rfl, howner, hcounted⟩

/-- The inhibit that a message asks for: `ret` is the return of the call in monitor mode. -/
def announced (C : OwnerClass) (now : ℕ) (msg : Message) (ret : Option Message)
    (s : OwnerFields) : Option Inhibit :=
  (C.inhibitArgs msg.args).bind fun args =>
    match ret with
    | none => some (newInhibit C.toOwnerConfig now msg (C.nextCookie s.lastCookie) args)
    | some ret => (oneUInt32 ret.args).map fun cookie =>
      newInhibit C.toOwnerConfig now msg cookie args

/-- `handleInhibitMsg` of a class that is the interface `k` of the daemon. -/
def handleInhibitMsg (v : ℕ → Overrides σ) (P : Part σ OwnerFields) (k : ℕ) (C : OwnerClass)
    (now : ℕ) (msg : Message) (ret : Option Message) (d : Daemon σ) : Outcome (Daemon σ) Unit :=
  OwnerHandlers.handleInhibitMsg C.toOwnerConfig ((this k).part P) C.overrides
    (callbacks v now k) C.inhibitArgs C.nextCookie now msg ret d

/-- Up to its end, `handleInhibitMsg` only counts the cookie up and sends. -/
lemma handleInhibitMsg_eq (C : OwnerClass) (now : ℕ) {msg : Message} {ret : Option Message}
    {d : Daemon σ} {i : Inhibit} (hi : announced C now msg ret (view P k d).sub = some i) :
    ∃ f : OwnerFields → OwnerFields, (∀ s, (f s).inhibitOwners = s.inhibitOwners) ∧
      handleInhibitMsg v P k C now msg ret d =
        OwnerHandlers.trackInhibit ((this k).part P) C.overrides (callbacks v now k) msg.sender i
          (((this k).part P).modifySub f d) := by
  obtain ⟨args, hargs, hi⟩ := Option.bind_eq_some_iff.mp hi
  unfold handleInhibitMsg OwnerHandlers.handleInhibitMsg
  rw [getArgs_some hargs]
  dsimp only
  cases ret with
  | none =>
    -- implementation mode: the cookie is handed out and sent to the client
    set c := C.nextCookie (view P k d).sub.lastCookie with hc
    refine ⟨fun s => OwnerFields.send (.methodReturn msg [.uint32 c])
      { s with lastCookie := C.nextCookie s.lastCookie }, fun s => rfl, ?_⟩
    have hcookie : (((this k).part P).get (((this k).part P).modifySub
        (fun s => { s with lastCookie := C.nextCookie s.lastCookie }) d)).sub.lastCookie = c := by
      unfold This.modifySub This.modify
      rw [((this k).part P).get_set]
      rfl
    dsimp only
    rw [hcookie]
    have hboth : ((this k).part P).modifySub (OwnerFields.send (.methodReturn msg [.uint32 c]))
        (((this k).part P).modifySub
          (fun s => { s with lastCookie := C.nextCookie s.lastCookie }) d) =
        ((this k).part P).modifySub (fun s => OwnerFields.send (.methodReturn msg [.uint32 c])
          { s with lastCookie := C.nextCookie s.lastCookie }) d := by
      unfold This.modifySub This.modify
      rw [((this k).part P).get_set, ((this k).part P).set_set]
    rw [hboth, ← Option.some.inj hi]
    rfl
  | some ret =>
    -- monitor mode: the cookie is the one in the return
    obtain ⟨cookie, hcookie, hi⟩ := Option.map_eq_some_iff.mp hi
    refine ⟨fun s => { s with lastCookie := C.nextCookie s.lastCookie }, fun s => rfl, ?_⟩
    dsimp only
    rw [getArgs_some hcookie, ← hi]
    rfl

/-- An `Inhibit` leaves its originator consistent if and only if no exception gets past
`inhibitCB`, or its id was listed and counted before. -/
theorem failed_forward_iff (K : OwnerKind) (now : ℕ) {msg : Message} {ret : Option Message}
    {d : Daemon σ} {i : Inhibit} (hnodup : d.inhibitors.Nodup)
    (hi : announced K.toClass now msg ret (view P k d).sub = some i) :
    let d' := (handleInhibitMsg v P k K.toClass now msg ret d).2
    Kept msg.sender i.id (view P k d') ∨ Dropped k i.id d' ↔
      Caught v now k i.toInhibitRequest d ∨ KeptBefore msg.sender i (view P k d) := by
  intro d'
  obtain ⟨f, howners, hrun⟩ := handleInhibitMsg_eq (v := v) K.toClass now hi
  have hd' : d' = (OwnerHandlers.trackInhibit ((this k).part P) K.toClass.overrides
      (callbacks v now k) msg.sender i (((this k).part P).modifySub f d)).2 :=
    congrArg Prod.snd hrun
  have hnodup₀ : (((this k).part P).modifySub f d).inhibitors.Nodup := hnodup
  have hcaught : Caught v now k i.toInhibitRequest (((this k).part P).modifySub f d) ↔
      Caught v now k i.toInhibitRequest d :=
    Caught.congr rfl fun b hb => object_modify_of_ne P k _ d hb
  have hbefore : KeptBefore msg.sender i (view P k (((this k).part P).modifySub f d)) ↔
      KeptBefore msg.sender i (view P k d) := by
    unfold This.modifySub
    rw [view_modify]
    unfold KeptBefore OwnerHandlers.owners
    dsimp only
    rw [howners]
  rw [hd', ← hcaught, ← hbefore]
  exact trackInhibit_kept_iff K.toClass.overrides now msg.sender i hnodup₀

/-- Three interfaces: two implementations and a monitor that others implement. -/
def trioOf : ℕ → OwnerKind
  | 1 => .gnomeSessionManager { instanceId := 1, monitor := false }
  | 2 => .simpleDBus (MateScreenSaverInhibitInterface { instanceId := 2, monitor := true })
  | _ => .simpleDBus (FreedesktopScreenSaverInhibitInterface { instanceId := 0, monitor := false })

/-- The three before any message, and the answer the monitored implementer will give. -/
def idleTrioOf (reply : Except Exn (Option Message)) : Daemon OwnerFields where
  inhibitors := [0, 1, 2]
  object k := { sub := if k = 2 then { replies := [reply] } else {} }

/-- The implementer behind the third interface is gone: the new inhibit and its copy at the second
are active, but the inhibit is neither listed nor counted. -/
theorem failed_forward_fails :
    let v : ℕ → Overrides OwnerFields := fun k => (trioOf k).toClass.overrides
    let msg : Message := { type := .methodCall, sender := lit ":1.5",
                           args := [.string (lit "a"), .string (lit "b")] }
    let d := idleTrioOf (.error (.dbus "org.freedesktop.DBus.Error.ServiceUnknown"))
    let d' := (handleInhibitMsg v Part.all 0 (trioOf 0).toClass 1000 msg none d).2
    let i := newInhibit { instanceId := 0, monitor := false } 1000 msg 1
      (lit "a", lit "b", InhibitType.SCREENSAVER)
    announced (trioOf 0).toClass 1000 msg none (view Part.all 0 d).sub = some i ∧
      (d'.active 0 i.id).isSome ∧
      (d'.active 1 (OwnerId.mkId { instanceId := 1, monitor := false } (lit "us") 1)).isSome ∧
      (d'.object 0).lastInhibitState = InhibitType.NONE ∧
      ¬ (Kept msg.sender i.id (view Part.all 0 d') ∨ Dropped 0 i.id d') := by
  intro v msg d d' i
  have hactive : (d'.active 0 i.id).isSome := by decide +kernel
  have howners : OwnerHandlers.owners msg.sender (view Part.all 0 d').sub = [] := by
    decide +kernel
  refine ⟨by decide +kernel, hactive, by decide +kernel, by decide +kernel, fun h => ?_⟩
  rcases h with ⟨i', -, howner, -⟩ | ⟨hnone, -⟩
  · rw [howners] at howner
    exact absurd howner List.not_mem_nil
  · rw [hnone] at hactive
    exact absurd hactive (by decide)

/-- The implementer behind the third interface does not reply. -/
theorem failed_forward_silent :
    let v : ℕ → Overrides OwnerFields := fun k => (trioOf k).toClass.overrides
    let msg : Message := { type := .methodCall, sender := lit ":1.5",
                           args := [.string (lit "a"), .string (lit "b")] }
    let d := idleTrioOf (.error DBus.noReply)
    let d' := (handleInhibitMsg v Part.all 0 (trioOf 0).toClass 1000 msg none d).2
    let id := OwnerId.mkId { instanceId := 0, monitor := false } (lit ":1.5") 1
    Kept msg.sender id (view Part.all 0 d') ∨ Dropped 0 id d' := by
  intro v msg d d' id
  have hi : announced (trioOf 0).toClass 1000 msg none (view Part.all 0 d).sub =
      some (newInhibit { instanceId := 0, monitor := false } 1000 msg 1
        (lit "a", lit "b", InhibitType.SCREENSAVER)) := by decide +kernel
  refine (failed_forward_iff (v := v) (trioOf 0) 1000 (by decide) hi).mpr (.inl fun e he => ?_)
  have hfault : firstFault v 1000 0 (newInhibit { instanceId := 0, monitor := false } 1000 msg 1
      (lit "a", lit "b", InhibitType.SCREENSAVER)).toInhibitRequest d d.inhibitors =
      some .noResponse := by decide +kernel
  rw [hfault] at he
  exact (Option.some.inj he).symm

end Daemon
end UnifiedInhibit
