import UnifiedInhibit.MainLoop

/-!
# Messages that upset the loop

An exception other than `InvalidArgsError` ends the inner loop of `start` with what is still on the
queue. In a wired daemon the handlers of registrations throw none: the interfaces are
implementations and the other classes throw only what main catches (in other daemons an inhibit that
cannot be forwarded is thrown out of the handler). The table lookup throws at a missing interface
name, and so do some answers (`OwnerKind.Upsets`). Where no message upsets the loop every message is
handled (`Wiring.all_handled`), and one that does makes the daemon miss the next
(`Wiring.next_missed`).
-/

namespace UnifiedInhibit

open DBus (Message lookup)
open MessageLoop (Ending Handler Input Act Task)
open RoundRobin (AtTurn)
open OwnerHandlers (QueryMethod)

/-! ## Lookups -/

section Lookup

variable {α : Type} {interface member : α → String} {msg : Message}

lemma lookup_error_iff {as : List α} : (∃ e, lookup interface member msg as = .error e) ↔
    msg.interface = none ∧ ∃ a ∈ as, member a = msg.member := by
  induction as with
  | nil =>
    constructor
    · rintro ⟨e, he⟩
      cases he
    · rintro ⟨-, a, ha, -⟩
      exact absurd ha List.not_mem_nil
  | cons a as ih =>
    unfold lookup
    by_cases hmem : member a = msg.member
    · rw [if_pos hmem]
      cases hint : msg.interface with
      | none => exact iff_of_true ⟨_, rfl⟩ ⟨rfl, a, List.mem_cons_self, hmem⟩
      | some i =>
        rw [hint] at ih
        dsimp only
        split
        · refine iff_of_false ?_ fun h => by cases h.1
          rintro ⟨e, he⟩
          cases he
        · rw [ih]
          exact iff_of_false (fun h => by cases h.1) fun h => by cases h.1
    · rw [if_neg hmem, ih]
      refine and_congr_right fun _ => ⟨?_, ?_⟩
      · rintro ⟨b, hb, hbm⟩
        exact ⟨b, List.mem_cons_of_mem _ hb, hbm⟩
      · rintro ⟨b, hb, hbm⟩
        rcases List.mem_cons.mp hb with rfl | hb
        · exact absurd hbm hmem
        · exact ⟨b, hb, hbm⟩

/-- The error does not stand for wrong arguments. -/
lemma ne_invalidArgs_of_lookup {as : List α} {e : Exn}
    (h : lookup interface member msg as = .error e) : e ≠ DBus.invalidArgs := by
  induction as with
  | nil => cases h
  | cons a as ih =>
    unfold lookup at h
    split at h
    · split at h
      · cases h
        exact fun h => by cases h
      · split at h
        · cases h
        · exact ih h
    · exact ih h

/-- The lookup in a table of queries. -/
lemma lookup_methodCB {W : Type} (this : This W OwnerFields) (qs : List QueryMethod) :
    lookup DBus.MethodCB.interface DBus.MethodCB.member msg (qs.map (QueryMethod.methodCB this)) =
      (lookup QueryMethod.interface QueryMethod.member msg qs).map
        (Option.map (QueryMethod.methodCB this)) := by
  induction qs with
  | nil => rfl
  | cons q qs ih =>
    rw [List.map_cons]
    unfold lookup
    rw [ih, show (q.methodCB this).member = q.member from rfl,
      show (q.methodCB this).interface = q.interface from rfl]
    split
    · split
      · rfl
      · split <;> rfl
    · rfl

end Lookup

/-! ## The passes of the inner loop -/

namespace DBus

section Dispatch

variable {W : Type} {D : Dispatcher W} {msg : Message} {s : State W}

lemma dispatch_own (h : ¬ D.Observed msg) : D.dispatch msg s = (.ok (), s) := by
  unfold Dispatcher.dispatch
  by_cases hname : msg.sender = D.mName
  · exact if_pos hname
  · rw [if_neg hname]
    exact if_pos (not_not.mp fun hname2 => h ⟨hname, hname2⟩)

variable (hobs : D.Observed msg)
include hobs

/-- Nothing has been recorded that a return could belong to, and errors are not looked at. -/
lemma dispatch_reply (hcalls : s.methodCalls = ∅)
    (htype : msg.type = .methodReturn ∨ msg.type = .error) : D.dispatch msg s = (.ok (), s) := by
  unfold Dispatcher.dispatch
  rw [if_neg hobs.1, if_neg hobs.2]
  rcases htype with htype | htype
  · rw [htype]
    dsimp only
    rw [hcalls, Std.ExtTreeMap.getElem?_empty]
  · rw [htype]

lemma dispatch_call (hmon : D.monitor = false) (htype : msg.type = .methodCall)
    {method : MethodCB W}
    (h : lookup MethodCB.interface MethodCB.member msg D.myMethods = .ok (some method)) :
    D.dispatch msg s = s.call method msg none := by
  unfold Dispatcher.dispatch
  rw [if_neg hobs.1, if_neg hobs.2, htype]
  dsimp only
  rw [h]
  dsimp only
  rw [if_neg (by rw [hmon]; decide)]

lemma dispatch_call_none (htype : msg.type = .methodCall)
    (h : lookup MethodCB.interface MethodCB.member msg D.myMethods = .ok none) :
    D.dispatch msg s = (.ok (), s) := by
  unfold Dispatcher.dispatch
  rw [if_neg hobs.1, if_neg hobs.2, htype]
  dsimp only
  rw [h]

lemma dispatch_call_error (htype : msg.type = .methodCall) {e : Exn}
    (h : lookup MethodCB.interface MethodCB.member msg D.myMethods = .error e) :
    D.dispatch msg s = (.error e, s) := by
  unfold Dispatcher.dispatch
  rw [if_neg hobs.1, if_neg hobs.2, htype]
  dsimp only
  rw [h]

lemma dispatch_signal (htype : msg.type = .signal) {signal : SignalCB W}
    (h : lookup SignalCB.interface SignalCB.member msg D.mySignals = .ok (some signal)) :
    (D.dispatch msg s).1 = (signal.callback msg s.world).1 := by
  unfold Dispatcher.dispatch
  rw [if_neg hobs.1, if_neg hobs.2, htype]
  dsimp only
  rw [h]

lemma dispatch_signal_none (htype : msg.type = .signal)
    (h : lookup SignalCB.interface SignalCB.member msg D.mySignals = .ok none) :
    D.dispatch msg s = (.ok (), s) := by
  unfold Dispatcher.dispatch
  rw [if_neg hobs.1, if_neg hobs.2, htype]
  dsimp only
  rw [h]

lemma dispatch_signal_error (htype : msg.type = .signal) {e : Exn}
    (h : lookup SignalCB.interface SignalCB.member msg D.mySignals = .error e) :
    D.dispatch msg s = (.error e, s) := by
  unfold Dispatcher.dispatch
  rw [if_neg hobs.1, if_neg hobs.2, htype]
  dsimp only
  rw [h]

end Dispatch

end DBus

lemma endingOf_ne_done_iff {r : Except Exn Unit} :
    endingOf r ≠ .done ↔ ∃ e, r = .error e ∧ e ≠ DBus.invalidArgs := by
  cases r with
  | ok _ => exact iff_of_false (fun h => h rfl) fun h => by obtain ⟨e, he, -⟩ := h; cases he
  | error e =>
    by_cases he : e = DBus.invalidArgs
    · refine iff_of_false (fun h => h (by rw [he]; rfl)) ?_
      rintro ⟨e', he', hne⟩
      cases he'
      exact hne he
    · refine iff_of_true (fun hdone => ?_) ⟨e, rfl, he⟩
      unfold endingOf at hdone
      dsimp only at hdone
      cases e with
      | dbus name =>
        dsimp only at hdone
        rw [if_neg he] at hdone
        split at hdone <;> cases hdone
      | std what =>
        dsimp only at hdone
        rw [if_neg he] at hdone
        split at hdone <;> cases hdone
      | _ => cases hdone

/-! ## What upsets a class -/

namespace OwnerKind

variable {K : OwnerKind}

/-- The members of the method table. -/
def members (K : OwnerKind) : List String :=
  "Inhibit" :: K.toClass.unInhibitMember :: K.toClass.queries.map QueryMethod.member

/-- The message makes the dispatcher throw something else than an `InvalidArgsError`: its interface
is missing where it is compared, or an answer throws. -/
def Upsets (K : OwnerKind) (msg : Message) (b : Base) : Prop :=
  (msg.type = .methodCall ∧ msg.interface = none ∧ msg.member ∈ K.members) ∨
  (msg.type = .signal ∧ msg.interface = none ∧ msg.member = "NameOwnerChanged") ∨
  (msg.type = .methodCall ∧ ¬ K.toClass.IsInhibit msg ∧ ¬ K.toClass.IsUnInhibit msg ∧
    ∃ q e, lookup QueryMethod.interface QueryMethod.member msg K.toClass.queries = .ok (some q) ∧
      q.answer msg b = .error e ∧ e ≠ DBus.invalidArgs)

section Upsets

variable {now : ℕ} {tail : List InhibitID} {msg : Message}

/-- The handlers of registrations throw no other exception than `InvalidArgsError`. -/
lemma calm_inhibit (hsends : OnlySends K.toClass.overrides) (w : Alone OwnerFields) {e : Exn}
    (h : (OwnerHandlers.handleInhibitMsg K.toClass.toOwnerConfig Alone.this K.toClass.overrides
      Alone.callbacks K.toClass.inhibitArgs K.toClass.nextCookie now msg none w).1 = .error e) :
    e = DBus.invalidArgs := by
  cases hargs : K.toClass.inhibitArgs msg.args with
  | none =>
    rw [handleInhibitMsg_invalid _ _ _ _ hargs] at h
    exact (Except.error.inj h).symm
  | some args =>
    obtain ⟨w', hrun, -⟩ := handleInhibitMsg_owned K.toClass.toOwnerConfig hsends
      K.toClass.nextCookie now hargs w
    rw [hrun] at h
    cases h

lemma calm_unInhibit (hsends : OnlySends K.toClass.overrides) (w : Alone OwnerFields) {e : Exn}
    (h : (OwnerHandlers.handleUnInhibitMsg K.toClass.toOwnerConfig Alone.this K.toClass.overrides
      Alone.callbacks K.toClass.replyUnInhibit tail msg none w).1 = .error e) :
    e = DBus.invalidArgs := by
  cases hargs : oneUInt32 msg.args with
  | none =>
    rw [handleUnInhibitMsg_invalid _ _ _ _ hargs] at h
    exact (Except.error.inj h).symm
  | some c =>
    obtain ⟨w', hrun, -⟩ := handleUnInhibitMsg_owned K.toClass.toOwnerConfig hsends
      K.toClass.replyUnInhibit tail hargs none w
    rw [hrun] at h
    cases h

lemma calm_nameLost (hsends : OnlySends K.toClass.overrides) (w : Alone OwnerFields) {e : Exn}
    (h : (OwnerHandlers.handleNameLostMsg Alone.this K.toClass.overrides Alone.callbacks
      msg w).1 = .error e) : e = DBus.invalidArgs := by
  cases hargs : oneString msg.args with
  | none =>
    rw [handleNameLostMsg_invalid _ hargs] at h
    exact (Except.error.inj h).symm
  | some name =>
    obtain ⟨w', hrun, -⟩ := handleNameLostMsg_owned hsends hargs w
    rw [hrun] at h
    cases h

lemma members_eq (K : OwnerKind) (mName : Bytes) (now : ℕ) (tail : List InhibitID) :
    (K.toClass.aloneDispatcher mName [] now tail).myMethods.map DBus.MethodCB.member =
      K.members := by
  unfold members OwnerClass.aloneDispatcher OwnerClass.dispatcher
  dsimp only
  rw [List.map_cons, List.map_cons, List.map_map]
  rfl

/-- The two methods of registrations come first. -/
lemma lookup_queries (mName : Bytes) (now : ℕ) (tail : List InhibitID) {i : String}
    (hint : msg.interface = some i) (htype : msg.type = .methodCall)
    (hin : ¬ K.toClass.IsInhibit msg) (hun : ¬ K.toClass.IsUnInhibit msg) :
    lookup DBus.MethodCB.interface DBus.MethodCB.member msg
        (K.toClass.aloneDispatcher mName [] now tail).myMethods =
      (lookup QueryMethod.interface QueryMethod.member msg K.toClass.queries).map
        (Option.map (QueryMethod.methodCB Alone.this)) := by
  unfold OwnerClass.aloneDispatcher OwnerClass.dispatcher
  dsimp only
  rw [DBus.lookup_skip _ hint, DBus.lookup_skip _ hint, lookup_methodCB]
  · rintro ⟨hmem, hi⟩
    exact hun ⟨htype, by rw [hint, ← hi], hmem.symm⟩
  · rintro ⟨hmem, hi⟩
    exact hin ⟨htype, by rw [hint, ← hi], hmem.symm⟩

/-- What a call throws. -/
lemma call_upsets_iff (hsends : OnlySends K.toClass.overrides) (hmon : K.config.monitor = false)
    {mName : Bytes} (hsender : ¬ (msg.sender = mName ∨ msg.sender = [])) (a : State)
    (htype : msg.type = .methodCall) :
    (∃ e, ((K.toClass.aloneDispatcher mName [] now tail).dispatch msg a).1 = .error e ∧
      e ≠ DBus.invalidArgs) ↔ K.Upsets msg a.world.obj.toBase := by
  have hobs : (K.toClass.aloneDispatcher mName [] now tail).Observed msg := not_or.mp hsender
  have hmonitor : (K.toClass.aloneDispatcher mName [] now tail).monitor = false := hmon
  have hsignal : ¬ (msg.type = .signal ∧ msg.interface = none ∧
      msg.member = "NameOwnerChanged") := by
    rintro ⟨h, -⟩
    cases htype.symm.trans h
  cases hint : msg.interface with
  | none =>
    -- the first entry with the member throws, if there is one
    have hfirst : K.Upsets msg a.world.obj.toBase ↔ msg.member ∈ K.members := by
      unfold Upsets
      rw [or_iff_right hsignal]
      constructor
      · rintro (h | ⟨-, -, -, q, e, hq, -⟩)
        · exact h.2.2
        · cases hint.symm.trans (DBus.lookup_ok hq).2.2
      · exact fun h => .inl ⟨htype, hint, h⟩
    rw [hfirst, ← members_eq K mName now tail]
    cases hlookup : lookup DBus.MethodCB.interface DBus.MethodCB.member msg
        (K.toClass.aloneDispatcher mName [] now tail).myMethods with
    | error e =>
      obtain ⟨-, m, hm, hmember⟩ := lookup_error_iff.mp ⟨e, hlookup⟩
      rw [DBus.dispatch_call_error hobs htype hlookup]
      exact iff_of_true ⟨e, rfl, ne_invalidArgs_of_lookup hlookup⟩
        (List.mem_map.mpr ⟨m, hm, hmember⟩)
    | ok found =>
      cases found with
      | some m => cases hint.symm.trans (DBus.lookup_ok hlookup).2.2
      | none =>
        rw [DBus.dispatch_call_none hobs htype hlookup]
        refine iff_of_false ?_ fun hmem => ?_
        · rintro ⟨e, he, -⟩
          cases he
        · obtain ⟨m, hm, hmember⟩ := List.mem_map.mp hmem
          obtain ⟨e, he⟩ := lookup_error_iff.mpr ⟨hint, m, hm, hmember⟩
          cases hlookup.symm.trans he
  | some i =>
    have hnone : ¬ (msg.type = .methodCall ∧ msg.interface = none ∧ msg.member ∈ K.members) := by
      rintro ⟨-, h, -⟩
      cases hint.symm.trans h
    unfold Upsets
    rw [or_iff_right hnone, or_iff_right hsignal]
    by_cases hin : K.toClass.IsInhibit msg
    · rw [DBus.dispatch_call hobs hmonitor htype (DBus.lookup_head _ hin.2.2.symm hin.2.1)]
      refine iff_of_false ?_ fun h => h.2.1 hin
      rintro ⟨e, he, hne⟩
      exact hne (calm_inhibit hsends a.world he)
    by_cases hun : K.toClass.IsUnInhibit msg
    · have hlookup : lookup DBus.MethodCB.interface DBus.MethodCB.member msg
          (K.toClass.aloneDispatcher mName [] now tail).myMethods = .ok (some _) :=
        (DBus.lookup_skip _ hun.2.1 fun h => hin ⟨htype, by rw [hun.2.1, ← h.2], h.1.symm⟩).trans
          (DBus.lookup_head _ hun.2.2.symm hun.2.1)
      rw [DBus.dispatch_call hobs hmonitor htype hlookup]
      refine iff_of_false ?_ fun h => h.2.2.1 hun
      rintro ⟨e, he, hne⟩
      exact hne (calm_unInhibit hsends a.world he)
    -- the other methods are queries
    have htable := lookup_queries mName now tail hint htype hin hun
    cases hlookup : lookup QueryMethod.interface QueryMethod.member msg K.toClass.queries with
    | error e =>
      cases hint.symm.trans (lookup_error_iff.mp ⟨e, hlookup⟩).1
    | ok found =>
      rw [hlookup] at htable
      cases found with
      | none =>
        rw [DBus.dispatch_call_none hobs htype htable]
        refine iff_of_false ?_ ?_
        · rintro ⟨e, he, -⟩
          cases he
        · rintro ⟨-, -, -, q, e, hq, -⟩
          cases hq
      | some q =>
        rw [DBus.dispatch_call hobs hmonitor htype htable]
        unfold DBus.State.call QueryMethod.methodCB
        dsimp only
        rw [show (Alone.this.get a.world).toBase = a.world.obj.toBase from rfl]
        constructor
        · rintro ⟨e, he, hne⟩
          refine ⟨htype, hin, hun, q, e, rfl, ?_, hne⟩
          cases hans : q.answer msg a.world.obj.toBase with
          | error e' =>
            rw [hans] at he
            rw [Except.error.inj he]
          | ok out =>
            rw [hans] at he
            cases he
        · rintro ⟨-, -, -, q', e, hq, hans, hne⟩
          cases hq
          rw [hans]
          exact ⟨e, rfl, hne⟩

/-- What a signal throws. -/
lemma signal_upsets_iff (hsends : OnlySends K.toClass.overrides) {mName : Bytes}
    (hsender : ¬ (msg.sender = mName ∨ msg.sender = [])) (a : State)
    (htype : msg.type = .signal) :
    (∃ e, ((K.toClass.aloneDispatcher mName [] now tail).dispatch msg a).1 = .error e ∧
      e ≠ DBus.invalidArgs) ↔ K.Upsets msg a.world.obj.toBase := by
  have hobs : (K.toClass.aloneDispatcher mName [] now tail).Observed msg := not_or.mp hsender
  have hupsets : K.Upsets msg a.world.obj.toBase ↔
      msg.interface = none ∧ msg.member = "NameOwnerChanged" := by
    unfold Upsets
    constructor
    · rintro (⟨h, -⟩ | ⟨-, h⟩ | ⟨h, -⟩)
      · cases htype.symm.trans h
      · exact h
      · cases htype.symm.trans h
    · exact fun h => .inr (.inl ⟨htype, h⟩)
  rw [hupsets]
  cases hlookup : lookup DBus.SignalCB.interface DBus.SignalCB.member msg
      (K.toClass.aloneDispatcher mName [] now tail).mySignals with
  | error e =>
    obtain ⟨hint, m, hm, hmember⟩ := lookup_error_iff.mp ⟨e, hlookup⟩
    rw [DBus.dispatch_signal_error hobs htype hlookup]
    refine iff_of_true ⟨e, rfl, ne_invalidArgs_of_lookup hlookup⟩ ⟨hint, ?_⟩
    rw [List.mem_singleton.mp hm] at hmember
    exact hmember.symm
  | ok found =>
    have hnone : ¬ (msg.interface = none ∧ msg.member = "NameOwnerChanged") := by
      rintro ⟨hint, hmember⟩
      have hthrows : ∃ e, lookup DBus.SignalCB.interface DBus.SignalCB.member msg
          (K.toClass.aloneDispatcher mName [] now tail).mySignals = .error e :=
        lookup_error_iff.mpr ⟨hint, _, List.mem_singleton_self _, hmember.symm⟩
      obtain ⟨e, he⟩ := hthrows
      cases hlookup.symm.trans he
    cases found with
    | none =>
      rw [DBus.dispatch_signal_none hobs htype hlookup]
      refine iff_of_false ?_ hnone
      rintro ⟨e, he, -⟩
      cases he
    | some m =>
      rw [DBus.dispatch_signal hobs htype hlookup]
      refine iff_of_false ?_ hnone
      rintro ⟨e, he, hne⟩
      have hm := (DBus.lookup_ok hlookup).1
      rw [List.mem_singleton.mp hm] at he
      exact hne (calm_nameLost hsends a.world he)

/-- What the dispatcher throws besides an `InvalidArgsError`. -/
lemma upsets_iff (hsends : OnlySends K.toClass.overrides) (hmon : K.config.monitor = false)
    {mName : Bytes} (a : State) (hcalls : a.methodCalls = ∅) :
    (∃ e, ((K.toClass.aloneDispatcher mName [] now tail).dispatch msg a).1 = .error e ∧
      e ≠ DBus.invalidArgs) ↔
    ¬ (msg.sender = mName ∨ msg.sender = []) ∧ K.Upsets msg a.world.obj.toBase := by
  by_cases hsender : msg.sender = mName ∨ msg.sender = []
  · refine iff_of_false ?_ fun h => h.1 hsender
    rintro ⟨e, he, -⟩
    rw [DBus.dispatch_own fun hobs => (not_or.mpr hobs) hsender] at he
    cases he
  rw [and_iff_right hsender]
  have hreply : msg.type = .methodReturn ∨ msg.type = .error →
      ((∃ e, ((K.toClass.aloneDispatcher mName [] now tail).dispatch msg a).1 = .error e ∧
        e ≠ DBus.invalidArgs) ↔ K.Upsets msg a.world.obj.toBase) := by
    intro htype
    refine iff_of_false ?_ ?_
    · rintro ⟨e, he, -⟩
      rw [DBus.dispatch_reply (not_or.mp hsender) hcalls htype] at he
      cases he
    · rintro (⟨h, -⟩ | ⟨h, -⟩ | ⟨h, -⟩) <;> rw [h] at htype <;> rcases htype with h | h <;> cases h
  cases htype : msg.type with
  | methodCall => exact call_upsets_iff hsends hmon hsender a htype
  | signal => exact signal_upsets_iff hsends hsender a htype
  | methodReturn => exact hreply (.inl htype)
  | error => exact hreply (.inr htype)

end Upsets

end OwnerKind

/-! ## The wired daemon -/

namespace Wiring

variable {σ : Type} {w : Wiring σ}

/-- Handling the message does not end with the next one. -/
def Troubles (w : Wiring σ) (s : State σ) (k : ℕ) (c : Context) (msg : Message) : Prop :=
  match w.kind k with
  | some K => ¬ (msg.sender = w.mName k ∨ msg.sender = []) ∧
    K.Upsets msg (w.view k s.daemon).toBase
  | none => c.ends ≠ .done

/-- In a reached state these are the messages that make `start` read again. -/
lemma troubles_iff {es : List Event} {s : State σ} (hr : w.Reached es s) {k : ℕ} {c : Context}
    {msg : Message}
    (hlegal : Transition.Along w.step w.Legal s (w.eventsOf (.handled k c msg))) :
    ((w.task k).handle c msg s).1 ≠ .done ↔ w.Troubles s k c msg := by
  unfold task Troubles
  unfold eventsOf at hlegal
  dsimp only at hlegal ⊢
  cases hK : w.kind k with
  | none => exact Iff.rfl
  | some K =>
    rw [hK] at hlegal
    have hmon := w.implementation k K hK
    have hcalls : s.methodCalls k = ∅ := hr.methodCalls k K hK
    obtain ⟨hagree, -⟩ := message_agree hK hr.sound hcalls hlegal.1
      (a := { world := { obj := w.view k s.daemon } }) rfl rfl
    have hresult := hagree.result
    dsimp only at hresult ⊢
    rw [endingOf_ne_done_iff, hresult, OwnerKind.dispatcher_eq]
    exact OwnerKind.upsets_iff (OwnerKind.ownCalls K hmon).sends hmon
      { world := { obj := w.view k s.daemon } } rfl

/-- A message that troubles the loop comes last, and no message comes while an interface polls. -/
def Calm (w : Wiring σ) (s : MessageLoop.State ℕ Context Message (State σ))
    (e : ℕ × Input Context Message) : Prop :=
  let (k, i) := e
  let t := s.tasks k
  match t.place, t.queue with
  | .taking, [] => i.came = []
  | .taking, m :: ms => w.Troubles s.shared k i.context m → ms ++ i.came = []
  | _, _ => True

section Steps

variable {s : MessageLoop.State ℕ Context Message (State σ)} {k : ℕ}
  {i : Input Context Message} {d₀ : Daemon σ}

lemma Calm.orderly (h₀ : w.Initial d₀) (hr : w.Run d₀ s) (hlaw : w.Lawful s (k, i))
    (h : w.Calm s (k, i)) : MessageLoop.Orderly w.task s (k, i) := by
  unfold Calm at h
  unfold MessageLoop.Orderly
  dsimp only at h ⊢
  cases hplace : (s.tasks k).place with
  | taking =>
    rw [hplace] at h
    cases hq : (s.tasks k).queue with
    | nil =>
      rw [hq] at h
      exact h
    | cons m ms =>
      rw [hq] at h
      obtain ⟨es, hes⟩ := hr.reached h₀
      exact fun hend => h ((troubles_iff hes (hlaw.handled hplace hq)).mp hend)
  | reading => trivial
  | waiting => trivial
  | stopped => trivial
  | ended => trivial

end Steps

/-- As long as no message that troubles the loop comes before others, each interface has handled all
that has come but for what it takes next. -/
theorem all_handled {d₀ : Daemon σ} (h₀ : w.Initial d₀) (ros : List ℕ)
    {is : List (Input Context Message)}
    (his : Transition.Along (w.mainStep ros) (AtTurn ros fun s e => w.Lawful s e ∧ w.Calm s e)
      (.start d₀) is) (k : ℕ) :
    let t := (Transition.run (w.mainStep ros) (.start d₀) is).system.tasks k
    t.came = t.handled ++ t.queue ∧ (t.place ≠ .taking → t.queue = []) := by
  intro t
  have hsched := (RoundRobin.along_schedule (MainLoop.start d₀) is).mpr his
  have hrun := RoundRobin.system_run w.task ros (MainLoop.start d₀) is
  have hstart : MessageLoop.Settled (MainLoop.start d₀).system ∧
      w.Run d₀ (MainLoop.start d₀).system := ⟨fun _ _ => rfl, trivial, rfl⟩
  have hsettled := Transition.invariant (I := fun s => MessageLoop.Settled s ∧ w.Run d₀ s)
    hstart (fun s e hs he => ⟨hs.1.step (he.2.orderly h₀ hs.2 he.1), hs.2.step he.1⟩) hsched
  have horderly := Transition.along_imp (I := w.Run d₀)
    (Q := MessageLoop.Orderly w.task) hstart.2 (fun s e hs he _ => hs.step he.1)
    (fun s e hs he _ => he.2.orderly h₀ hs he.1) hsched hsched
  have hcomplete := (MessageLoop.missed_nothing_iff _ fun k p hp => absurd hp List.not_mem_nil).mpr
    (MessageLoop.Orderly.keeps hstart.1 horderly)
  rw [← hrun] at hsettled hcomplete
  have haccounted := (w.recorded ros d₀ is).accounted k
  exact ⟨haccounted.complete_iff.mp (hcomplete k), hsettled.1 k⟩

/-- The call is handled. -/
theorem all_handled_pair :
    let t := (Transition.run (pair.mainStep [0, 1]) (.start pairDaemon)
      (pairInputs [pairCall])).system.tasks 0
    t.came = t.handled ++ t.queue ∧ t.came = [pairCall] := by
  have his : Transition.Along (pair.mainStep [0, 1])
      (AtTurn [0, 1] fun s e => pair.Lawful s e ∧ pair.Calm s e) (.start pairDaemon)
      (pairInputs [pairCall]) := by
    refine ⟨fun k hk => ?_, fun k hk => ?_, trivial⟩
    · obtain rfl : 0 = k := Option.some.inj hk
      exact ⟨trivial, trivial⟩
    · obtain rfl : 0 = k := Option.some.inj hk
      exact ⟨pairEvents_legal, fun _ => rfl⟩
  exact ⟨(all_handled pair_initial [0, 1] his 0).1, rfl⟩

/-- An interface that reads with messages waiting misses the first. -/
lemma left_reading {ros : List ℕ} {l : MainLoop σ} {k : ℕ} (hk : ros[l.turn]? = some k)
    (hplace : (l.system.tasks k).place = .reading) {m : Message} {ms : List Message}
    (hq : (l.system.tasks k).queue = m :: ms) (i : Input Context Message) :
    (l.system.tasks k).left ++ [(m, false)] <+:
      ((w.mainStep ros l i).system.tasks k).left := by
  rw [RoundRobin.system_step_some hk, MessageLoop.tasks_reading hplace]
  split
  · show _ <+: ((l.system.tasks k).pass false).left
    unfold Task.pass
    rw [hq]
    exact List.prefix_rfl
  · unfold Task.reconnect
    rw [hq]
    exact ⟨ms.map (·, false), by simp⟩

/-- A message that troubles the loop, and does not end it, makes the interface miss the one behind
it, whoever has sent that. -/
theorem next_missed {d₀ : Daemon σ} (h₀ : w.Initial d₀) (ros : List ℕ)
    {is : List (Input Context Message)}
    (his : Transition.Along (w.mainStep ros) (AtTurn ros w.Lawful) (.start d₀) is) {l : MainLoop σ}
    (hl : l = Transition.run (w.mainStep ros) (.start d₀) is) {k : ℕ}
    (hk : ros[l.turn]? = some k) {i i' : Input Context Message} (hlaw : w.Lawful l.system (k, i))
    (hplace : (l.system.tasks k).place = .taking) {m m' : Message} {ms : List Message}
    (hq : (l.system.tasks k).queue = m :: m' :: ms)
    (htrouble : w.Troubles l.system.shared k i.context m)
    (hgoes : ((w.task k).handle i.context m l.system.shared).1 ≠ .ended) :
    (l.system.tasks k).left ++ [(m, true), (m', false)] <+:
      ((Transition.run (w.mainStep ros) l [i, i']).system.tasks k).left := by
  have hrun := run_of_lawful his
  rw [← hl] at hrun
  obtain ⟨es, hes⟩ := hrun.reached h₀
  have hend := (troubles_iff hes (hlaw.handled hplace hq)).mpr htrouble
  rw [Transition.run_cons, Transition.run_cons, Transition.run_nil]
  have hfirst : (w.mainStep ros l i).system.tasks k =
      (((l.system.tasks k).pass true).arrive i.came).finish
        ((w.task k).handle i.context m l.system.shared).1 .taking i.reconnects := by
    rw [RoundRobin.system_step_some hk, MessageLoop.step_handles hplace hq]
    exact Function.update_self ..
  have hleft : (((l.system.tasks k).pass true).arrive i.came).left =
      (l.system.tasks k).left ++ [(m, true)] := by
    unfold Task.arrive Task.pass
    dsimp only
    rw [hq]
    rfl
  have hqueue : (((l.system.tasks k).pass true).arrive i.came).queue = m' :: (ms ++ i.came) := by
    unfold Task.arrive Task.pass
    dsimp only
    rw [hq]
    rfl
  rw [List.append_cons, ← hleft]
  cases hres : ((w.task k).handle i.context m l.system.shared).1 with
  | done => exact absurd hres hend
  | thrown =>
    rw [hres] at hfirst
    -- the interface keeps its turn, and reads
    have hturn : (w.mainStep ros l i).turn = l.turn := by
      apply RoundRobin.turn_kept hk <;> rw [hfirst] <;> exact fun h => by cases h
    refine (show _ <+: _ from ?_).trans (left_reading (by rw [hturn]; exact hk)
      (by rw [hfirst]; rfl) (by rw [hfirst]; exact hqueue) i')
    rw [hfirst]
    exact List.prefix_rfl
  | lost =>
    rw [hres] at hfirst
    refine List.IsPrefix.trans ?_ (RoundRobin.left_run w.task ros _ [i'] k)
    rw [hfirst]
    unfold Task.finish Task.reconnect
    dsimp only
    rw [hqueue]
    exact ⟨(ms ++ i.came).map (·, false), by simp⟩
  | ended => exact absurd hres hgoes

end Wiring

end UnifiedInhibit
