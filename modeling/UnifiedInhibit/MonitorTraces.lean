import UnifiedInhibit.OwnerTracking
import UnifiedInhibit.Lib.Since

/-!
# What a monitor makes of the calls of clients

A trace holds the calls of `Inhibit` and `UnInhibit` that clients make on the bus and the returns
of the implementer. An inhibit is granted by the return of `Inhibit` and released by the call of
`UnInhibit`, but a monitor acts on returns alone: `Watched` says that its inhibits are those that
are granted and whose `UnInhibit` is not returned. A call that expects no reply has no return.
-/

namespace UnifiedInhibit
namespace MonitorTrace

open DBus (Arg Message)
open Trace (Since)

/-! ## Traces -/

inductive Kind where
  /-- a client's call, with the flag that no reply is expected or without it -/
  | call (noReply : Bool)
  /-- the implementer's return of a call -/
  | returnOf (call : Message)

/-- A message on the bus. The monitor sees only `msg`; it handles it at the time `now`, and
`std::remove_if` leaves `tail` behind. -/
structure Event where
  msg : Message
  kind : Kind
  now : ℕ := 0
  tail : List InhibitID := []

section Events

variable (C : OwnerClass) (client : Bytes) (cookie : UInt32)

/-- An `Inhibit` of the client is returned with the cookie. -/
def Event.Grants (e : Event) : Prop :=
  match e.kind with
  | .returnOf call => C.IsInhibit call ∧ call.sender = client ∧ oneUInt32 e.msg.args = some cookie
  | .call _ => False

/-- The client calls `UnInhibit` with the cookie. -/
def Event.Releases (e : Event) : Prop :=
  match e.kind with
  | .call _ => C.IsUnInhibit e.msg ∧ e.msg.sender = client ∧ oneUInt32 e.msg.args = some cookie
  | .returnOf _ => False

/-- An `UnInhibit` of the client with the cookie is returned. -/
def Event.Returns (e : Event) : Prop :=
  match e.kind with
  | .returnOf call => C.IsUnInhibit call ∧ call.sender = client ∧ oneUInt32 call.args = some cookie
  | .call _ => False

end Events

section Kinds

variable {C : OwnerClass} {client : Bytes} {cookie : UInt32} {e : Event}

lemma not_grants_of_call {noReply : Bool} (hk : e.kind = .call noReply) :
    ¬ e.Grants C client cookie := by
  unfold Event.Grants
  rw [hk]
  exact not_false

lemma not_returns_of_call {noReply : Bool} (hk : e.kind = .call noReply) :
    ¬ e.Returns C client cookie := by
  unfold Event.Returns
  rw [hk]
  exact not_false

lemma grants_returnOf {call : Message} (hk : e.kind = .returnOf call) :
    e.Grants C client cookie ↔
      C.IsInhibit call ∧ call.sender = client ∧ oneUInt32 e.msg.args = some cookie := by
  unfold Event.Grants
  rw [hk]

lemma returns_returnOf {call : Message} (hk : e.kind = .returnOf call) :
    e.Returns C client cookie ↔
      C.IsUnInhibit call ∧ call.sender = client ∧ oneUInt32 call.args = some cookie := by
  unfold Event.Returns
  rw [hk]

lemma Event.Grants.kind (h : e.Grants C client cookie) :
    ∃ call, e.kind = .returnOf call ∧ call.sender = client := by
  cases hk : e.kind with
  | call noReply => exact absurd h (not_grants_of_call hk)
  | returnOf call => exact ⟨call, rfl, ((grants_returnOf hk).mp h).2.1⟩

lemma Event.Returns.kind (h : e.Returns C client cookie) : ∃ call, e.kind = .returnOf call := by
  cases hk : e.kind with
  | call noReply => exact absurd h (not_returns_of_call hk)
  | returnOf call => exact ⟨call, rfl⟩

lemma Event.Releases.kind (h : e.Releases C client cookie) :
    ∃ noReply, e.kind = .call noReply := by
  cases hk : e.kind with
  | call noReply => exact ⟨noReply, rfl⟩
  | returnOf call =>
    unfold Event.Releases at h
    rw [hk] at h
    exact h.elim

/-- The return of a call is a return with the client and the cookie of that call. -/
lemma returns_iff_releases {f : Event} {noReply : Bool} (he : e.kind = .call noReply)
    (hf : f.kind = .returnOf e.msg) : f.Returns C client cookie ↔ e.Releases C client cookie := by
  rw [returns_returnOf hf]
  unfold Event.Releases
  rw [he]

end Kinds

variable (C : OwnerClass) (mName mName2 : Bytes)

/-- The client is granted the cookie and has not released it since. -/
def Held (past : List Event) (client : Bytes) (cookie : UInt32) : Prop :=
  Since (Event.Grants C client cookie) (Event.Releases C client cookie) past

/-- The call expects a reply that is still to come. -/
def Waiting (past : List Event) (call : Message) : Prop :=
  (∃ f ∈ past, f.kind = .call false ∧ f.msg = call) ∧ ∀ f ∈ past, f.kind ≠ .returnOf call

/-- A client calls under a new serial, and expects a reply of `Inhibit`. -/
structure CallOk (past : List Event) (msg : Message) (noReply : Bool) : Prop where
  sender : ClientName msg.sender
  serial : ∀ f ∈ past, ∀ b, f.kind = .call b → f.msg.serial ≠ msg.serial
  member : C.IsInhibit msg ∧ (C.inhibitArgs msg.args).isSome ∧ noReply = false ∨
    C.IsUnInhibit msg ∧ (oneUInt32 msg.args).isSome

/-- The implementer returns a call that waits for it, and grants a cookie not in use. -/
structure ReturnOk (past : List Event) (call msg : Message) : Prop where
  waiting : Waiting past call
  returns : DBus.Returns call msg
  fresh : C.IsInhibit call → ∃ cookie, oneUInt32 msg.args = some cookie ∧
    ∀ client, ¬ Held C past client cookie

/-- What may follow `past` on the bus. Neither side is the monitor's process. -/
def Allowed (past : List Event) (e : Event) : Prop :=
  (e.msg.sender ≠ mName ∧ e.msg.sender ≠ mName2) ∧
    match e.kind with
    | .call noReply => CallOk C past e.msg noReply
    | .returnOf call => ReturnOk C past call e.msg

/-- Each message is allowed after those before it. -/
def Permitted (trace : List Event) : Prop :=
  Transition.Along (fun past e => past ++ [e]) (Allowed C mName mName2) [] trace

/-- A trace in which each call that expects a reply is returned. -/
structure BusTrace (trace : List Event) : Prop where
  allowed : Permitted C mName mName2 trace
  returned : ∀ call, ¬ Waiting trace call

/-! ## Places in a trace -/

section Places

variable {C mName mName2}

lemma run_snoc_nil (trace : List Event) :
    Transition.run (fun past (e : Event) => past ++ [e]) [] trace = trace := by
  induction trace using List.reverseRecOn with
  | nil => rfl
  | append_singleton past e ih => rw [Transition.run_snoc, ih]

lemma permitted_snoc {past : List Event} {e : Event} :
    Permitted C mName mName2 (past ++ [e]) ↔
      Permitted C mName mName2 past ∧ Allowed C mName mName2 past e := by
  unfold Permitted
  rw [Transition.along_snoc, run_snoc_nil]

lemma Permitted.split {pre post : List Event} {e : Event}
    (h : Permitted C mName mName2 (pre ++ e :: post)) :
    Permitted C mName mName2 pre ∧ Allowed C mName mName2 pre e := by
  obtain ⟨hpre, he, -⟩ := Transition.along_append.mp h
  rw [run_snoc_nil] at he
  exact ⟨hpre, he⟩

lemma Permitted.mem {past : List Event} {e : Event} (h : Permitted C mName mName2 past)
    (he : e ∈ past) : ∃ pre, Permitted C mName mName2 pre ∧ Allowed C mName mName2 pre e := by
  obtain ⟨pre, post, hpast⟩ := List.append_of_mem he
  rw [hpast] at h
  exact ⟨pre, h.split⟩

lemma Allowed.call {past : List Event} {e : Event} {noReply : Bool}
    (h : Allowed C mName mName2 past e) (hk : e.kind = .call noReply) :
    CallOk C past e.msg noReply := by
  have hcase := h.2
  rw [hk] at hcase
  exact hcase

lemma Allowed.returnOf {past : List Event} {e : Event} {call : Message}
    (h : Allowed C mName mName2 past e) (hk : e.kind = .returnOf call) :
    ReturnOk C past call e.msg := by
  have hcase := h.2
  rw [hk] at hcase
  exact hcase

/-- A call that waits was allowed. -/
lemma Waiting.callOk {past : List Event} {call : Message}
    (h : Permitted C mName mName2 past)
    (hcall : Waiting past call) :
    (call.sender ≠ mName ∧ call.sender ≠ mName2) ∧ ∃ pre, CallOk C pre call false := by
  obtain ⟨⟨f, hf, hk, hmsg⟩, -⟩ := hcall
  obtain ⟨pre, -, hpre⟩ := h.mem hf
  rw [← hmsg]
  exact ⟨hpre.1, pre, hpre.call hk⟩

/-- What waits after one more message. -/
lemma waiting_snoc {past : List Event} {e : Event} {call : Message}
    (h : Waiting (past ++ [e]) call) :
    e.kind ≠ .returnOf call ∧ (Waiting past call ∨ e.kind = .call false ∧ e.msg = call) := by
  obtain ⟨⟨f, hf, hk, hmsg⟩, hnot⟩ := h
  refine ⟨hnot e (List.mem_append_right _ (List.mem_singleton_self e)), ?_⟩
  rcases List.mem_append.mp hf with hf | hf
  · exact Or.inl ⟨⟨f, hf, hk, hmsg⟩, fun g hg => hnot g (List.mem_append_left _ hg)⟩
  · rw [List.mem_singleton.mp hf] at hk hmsg
    exact Or.inr ⟨hk, hmsg⟩

end Places

/-! ## The monitor -/

/-- The monitor handles the next message. -/
def step (s : DBus.State (Alone OwnerFields)) (e : Event) : DBus.State (Alone OwnerFields) :=
  (C.aloneDispatcher mName mName2 e.now e.tail).deliver s e.msg

/-- What holds of the monitor after `past`. -/
structure Watched (past : List Event) (s : DBus.State (Alone OwnerFields)) : Prop where
  recorded : ∀ n, n ∈ s.methodCalls → ∃ f ∈ past, ∃ b, f.kind = .call b ∧ f.msg.serial = n
  waiting : ∀ call, Waiting past call → s.methodCalls[call.serial]? = some call
  active : ∀ id, id ∈ s.world.obj.activeInhibits ↔ ∃ client cookie, ClientName client ∧
    id = OwnerId.mkId C.toOwnerConfig client cookie ∧
      Since (Event.Grants C client cookie) (Event.Returns C client cookie) past

section Steps

variable {C mName mName2} {past : List Event} {s : DBus.State (Alone OwnerFields)} {e : Event}

lemma initial_watched : Watched C [] OwnerKind.initial where
  recorded n hn := absurd hn (by simp [OwnerKind.initial])
  waiting call h := by
    obtain ⟨⟨f, hf, -⟩, -⟩ := h
    exact absurd hf List.not_mem_nil
  active id := by
    constructor
    · intro hid
      exact absurd hid (by simp [OwnerKind.initial])
    · intro h
      obtain ⟨client, cookie, -, -, hsince⟩ := h
      exact absurd hsince Trace.since_nil

/-- A client's call is in the table of methods. -/
lemma CallOk.listed {msg : Message} {noReply : Bool} (h : CallOk C past msg noReply)
    (hne : C.unInhibitMember ≠ "Inhibit") (hname : msg.sender ≠ mName ∧ msg.sender ≠ mName2)
    (now : ℕ) (tail : List InhibitID) :
    (C.aloneDispatcher mName mName2 now tail).Listed msg := by
  rcases h.member with ⟨hin, -, -⟩ | ⟨hun, -⟩
  · exact ⟨hname, hin.1, _, DBus.lookup_head _ hin.2.2.symm hin.2.1⟩
  · have hskip : ¬ ("Inhibit" = msg.member ∧ C.interface = C.interface) := by
      rw [hun.2.2]
      intro h
      exact hne h.1.symm
    exact ⟨hname, hun.1, _, (DBus.lookup_skip _ hun.2.1 hskip).trans
      (DBus.lookup_head _ hun.2.2.symm hun.2.1)⟩

/-- A call is recorded and changes nothing else. -/
lemma Watched.call (hmon : C.monitor = true) (hne : C.unInhibitMember ≠ "Inhibit")
    (h : Watched C past s) {noReply : Bool} (hk : e.kind = .call noReply)
    (hname : e.msg.sender ≠ mName ∧ e.msg.sender ≠ mName2) (hok : CallOk C past e.msg noReply) :
    Watched C (past ++ [e]) (step C mName mName2 s e) := by
  have hstep : step C mName mName2 s e =
      { s with methodCalls := s.methodCalls.insertIfNew e.msg.serial e.msg } :=
    DBus.deliver_call_eq hmon s (hok.listed hne hname e.now e.tail)
  -- what is recorded under the serial would be an earlier call of that serial
  have hfree : s.methodCalls[e.msg.serial]? = none := by
    by_contra hsome
    obtain ⟨c, hc⟩ := Option.ne_none_iff_exists'.mp hsome
    obtain ⟨f, hf, b, hkf, hserial⟩ := h.recorded _ ((StdMap.mem_iff _ _).mpr ⟨c, hc⟩)
    exact hok.serial f hf b hkf hserial
  rw [hstep]
  refine ⟨fun n hn => ?_, fun call hcall => ?_, fun id => ?_⟩
  · rcases (StdMap.mem_insertIfNew _ _ _ _).mp hn with hn | hn
    · exact ⟨e, by simp, noReply, hk, hn.symm⟩
    · obtain ⟨f, hf, hcalled⟩ := h.recorded n hn
      exact ⟨f, List.mem_append_left _ hf, hcalled⟩
  · show (s.methodCalls.insertIfNew e.msg.serial e.msg)[call.serial]? = some call
    rw [StdMap.getElem?_insertIfNew]
    rcases (waiting_snoc hcall).2 with hold | ⟨-, hmsg⟩
    · have hrec := h.waiting call hold
      rw [if_neg]
      · exact hrec
      · intro hand
        rw [hand.1, hfree] at hrec
        cases hrec
    · rw [hmsg] at hfree ⊢
      rw [if_pos ⟨rfl, hfree⟩]
  · simp only [Trace.since_snoc, not_grants_of_call hk, not_returns_of_call hk, false_or,
      not_false_eq_true, and_true]
    exact h.active id

/-- Erasing the record of the returned call keeps the records of the other calls. -/
lemma Watched.erase (h : Watched C past s) {call : Message} (hk : e.kind = .returnOf call)
    (hwait : Waiting past call) {s' : DBus.State (Alone OwnerFields)}
    (hcalls : s'.methodCalls = s.methodCalls.erase call.serial)
    (hactive : ∀ id, id ∈ s'.world.obj.activeInhibits ↔ ∃ client cookie, ClientName client ∧
      id = OwnerId.mkId C.toOwnerConfig client cookie ∧
        Since (Event.Grants C client cookie) (Event.Returns C client cookie) (past ++ [e])) :
    Watched C (past ++ [e]) s' := by
  have hrec := h.waiting call hwait
  refine ⟨fun n hn => ?_, fun other hother => ?_, hactive⟩
  · rw [hcalls] at hn
    obtain ⟨f, hf, hcalled⟩ := h.recorded n ((StdMap.mem_erase _ _ _).mp hn).1
    exact ⟨f, List.mem_append_left _ hf, hcalled⟩
  · obtain ⟨hne, hold | ⟨hcall, -⟩⟩ := waiting_snoc hother
    · have hother := h.waiting other hold
      rw [hcalls, StdMap.getElem?_erase, if_neg]
      · exact hother
      · -- two recorded calls of one serial are the same
        intro hserial
        rw [hserial, hrec] at hother
        rw [Option.some.inj hother] at hk
        exact hne hk
    · rw [hk] at hcall
      cases hcall

variable (mName mName2) in
/-- A return is handed to the handler of the recorded call, which is then forgotten. -/
lemma step_return (hobs : e.msg.sender ≠ mName ∧ e.msg.sender ≠ mName2) {call : Message}
    (hret : DBus.Returns call e.msg) (hrec : s.methodCalls[call.serial]? = some call)
    {method : DBus.MethodCB (Alone OwnerFields)}
    (hfind : (C.aloneDispatcher mName mName2 e.now e.tail).myMethods.find?
      (fun m => m.member = call.member) = some method) {w' : Alone OwnerFields}
    (hrun : method.callback call (some e.msg) s.world = (.ok (), w')) :
    (step C mName mName2 s e).methodCalls = s.methodCalls.erase call.serial ∧
      (step C mName mName2 s e).world = w' := by
  have hstep := DBus.deliver_return_ok (D := C.aloneDispatcher mName mName2 e.now e.tail) hobs
    hret.1 (by rw [hret.2.1]; exact hrec) hfind hrun
  rw [hret.2.1] at hstep
  unfold step
  rw [hstep]
  exact ⟨rfl, rfl⟩

variable (mName mName2) in
/-- The return of `Inhibit` adds the inhibit of the client and the cookie. -/
lemma step_return_inhibit (hv : OnlySends C.overrides) (hobs : e.msg.sender ≠ mName ∧
      e.msg.sender ≠ mName2) {call : Message} (hret : DBus.Returns call e.msg)
    (hrec : s.methodCalls[call.serial]? = some call) (hin : C.IsInhibit call)
    {args : Bytes × Bytes × InhibitType} (hargs : C.inhibitArgs call.args = some args)
    {cookie : UInt32} (hcookie : oneUInt32 e.msg.args = some cookie) :
    (step C mName mName2 s e).methodCalls = s.methodCalls.erase call.serial ∧
      ∀ id, id ∈ (step C mName mName2 s e).world.obj.activeInhibits ↔
        id = OwnerId.mkId C.toOwnerConfig call.sender cookie ∨
          id ∈ s.world.obj.activeInhibits := by
  obtain ⟨w', hrun, howned⟩ := handleInhibitMsg_return_owned C.toOwnerConfig hv C.nextCookie e.now
    hargs hcookie s.world
  -- the handler is looked up by the member of the recorded call
  have hfind : (C.aloneDispatcher mName mName2 e.now e.tail).myMethods.find?
      (fun m => m.member = call.member) = some _ :=
    List.find?_cons_of_pos (by simp [hin.2.2])
  obtain ⟨hcalls, hworld⟩ := step_return mName mName2 hobs hret hrec hfind hrun
  refine ⟨hcalls, fun id => ?_⟩
  rw [hworld]
  have hactive : w'.obj.activeInhibits = ((Owned.of s.world).apply (.track call.sender
      (newInhibit C.toOwnerConfig e.now call cookie args))).active := by
    rw [← howned]
    rfl
  show id ∈ w'.obj.activeInhibits ↔ _
  rw [hactive, Owned.apply_track]
  exact StdMap.mem_insertIfNew _ _ _ _

variable (mName mName2) in
/-- The return of `UnInhibit` removes the inhibit of the client and the cookie. -/
lemma step_return_unInhibit (hv : OnlySends C.overrides) (hne : C.unInhibitMember ≠ "Inhibit")
    (hobs : e.msg.sender ≠ mName ∧ e.msg.sender ≠ mName2) {call : Message}
    (hret : DBus.Returns call e.msg) (hrec : s.methodCalls[call.serial]? = some call)
    (hun : C.IsUnInhibit call) {cookie : UInt32} (hcookie : oneUInt32 call.args = some cookie) :
    (step C mName mName2 s e).methodCalls = s.methodCalls.erase call.serial ∧
      ∀ id, id ∈ (step C mName mName2 s e).world.obj.activeInhibits ↔
        id ∈ s.world.obj.activeInhibits ∧
          id ≠ OwnerId.mkId C.toOwnerConfig call.sender cookie := by
  obtain ⟨w', hrun, howned, -⟩ := handleUnInhibitMsg_owned C.toOwnerConfig hv C.replyUnInhibit
    e.tail hcookie (some e.msg) s.world
  have hfind : (C.aloneDispatcher mName mName2 e.now e.tail).myMethods.find?
      (fun m => m.member = call.member) = some _ :=
    (List.find?_cons_of_neg (by simpa [hun.2.2] using hne.symm)).trans
      (List.find?_cons_of_pos (by simp [hun.2.2]))
  obtain ⟨hcalls, hworld⟩ := step_return mName mName2 hobs hret hrec hfind hrun
  refine ⟨hcalls, fun id => ?_⟩
  rw [hworld]
  have hactive : w'.obj.activeInhibits = ((Owned.of s.world).apply (.untrack call.sender
      (OwnerId.mkId C.toOwnerConfig call.sender cookie) e.tail)).active := by
    rw [← howned]
    rfl
  show id ∈ w'.obj.activeInhibits ↔ _
  -- what `std::remove_if` leaves behind is in the list of owners only
  rw [hactive, Std.ExtTreeMap.mem_iff_isSome_getElem?, Owned.active_untrack,
    Std.ExtTreeMap.mem_iff_isSome_getElem?]
  split
  · rename_i heq
    simp [heq]
  · rename_i hneq
    exact ⟨fun h => ⟨h, hneq⟩, And.left⟩

/-- The return of `Inhibit` keeps the invariant. -/
lemma Watched.granted (hv : OnlySends C.overrides) (hne : C.unInhibitMember ≠ "Inhibit")
    (h : Watched C past s) {call : Message} (hk : e.kind = .returnOf call)
    (hobs : e.msg.sender ≠ mName ∧ e.msg.sender ≠ mName2) (hok : ReturnOk C past call e.msg)
    (hclient : ClientName call.sender) (hin : C.IsInhibit call)
    (hargs : (C.inhibitArgs call.args).isSome) :
    Watched C (past ++ [e]) (step C mName mName2 s e) := by
  obtain ⟨args, hargs⟩ := Option.isSome_iff_exists.mp hargs
  obtain ⟨cookie, hcookie, -⟩ := hok.fresh hin
  obtain ⟨hcalls, hactive⟩ := step_return_inhibit mName mName2 hv hobs hok.returns
    (h.waiting call hok.waiting) hin hargs hcookie
  have hgrants : ∀ client c, e.Grants C client c ↔ call.sender = client ∧ cookie = c := by
    intro client c
    rw [grants_returnOf hk]
    simp [hin, hcookie]
  have hreturns : ∀ client c, ¬ e.Returns C client c := by
    intro client c hreturn
    exact hne (((returns_returnOf hk).mp hreturn).1.2.2.symm.trans hin.2.2)
  refine h.erase hk hok.waiting hcalls fun id => ?_
  simp only [Trace.since_snoc, hgrants, hreturns, not_false_eq_true, and_true]
  rw [hactive, h.active]
  constructor
  · intro hid
    rcases hid with hnew | ⟨client, c, hname, heq, hsince⟩
    · exact ⟨_, _, hclient, hnew, Or.inl ⟨rfl, rfl⟩⟩
    · exact ⟨client, c, hname, heq, Or.inr hsince⟩
  · intro hid
    obtain ⟨client, c, hname, heq, hnew | hsince⟩ := hid
    · rw [hnew.1, hnew.2]
      exact Or.inl heq
    · exact Or.inr ⟨client, c, hname, heq, hsince⟩

/-- The return of `UnInhibit` keeps the invariant. -/
lemma Watched.released (hv : OnlySends C.overrides) (hne : C.unInhibitMember ≠ "Inhibit")
    (h : Watched C past s) {call : Message} (hk : e.kind = .returnOf call)
    (hobs : e.msg.sender ≠ mName ∧ e.msg.sender ≠ mName2) (hok : ReturnOk C past call e.msg)
    (hclient : ClientName call.sender) (hun : C.IsUnInhibit call)
    (hargs : (oneUInt32 call.args).isSome) :
    Watched C (past ++ [e]) (step C mName mName2 s e) := by
  obtain ⟨cookie, hcookie⟩ := Option.isSome_iff_exists.mp hargs
  obtain ⟨hcalls, hactive⟩ := step_return_unInhibit mName mName2 hv hne hobs hok.returns
    (h.waiting call hok.waiting) hun hcookie
  have hgrants : ∀ client c, ¬ e.Grants C client c := by
    intro client c hgrant
    exact hne (hun.2.2.symm.trans ((grants_returnOf hk).mp hgrant).1.2.2)
  have hreturns : ∀ client c, e.Returns C client c ↔ call.sender = client ∧ cookie = c := by
    intro client c
    rw [returns_returnOf hk]
    simp [hun, hcookie]
  refine h.erase hk hok.waiting hcalls fun id => ?_
  simp only [Trace.since_snoc, hgrants, hreturns, false_or]
  rw [hactive, h.active]
  constructor
  · intro hid
    obtain ⟨⟨client, c, hname, heq, hsince⟩, hother⟩ := hid
    refine ⟨client, c, hname, heq, hsince, fun hsame => hother ?_⟩
    rw [heq, hsame.1, hsame.2]
  · intro hid
    obtain ⟨client, c, hname, heq, hsince, hother⟩ := hid
    refine ⟨⟨client, c, hname, heq, hsince⟩, fun hsame => hother ?_⟩
    -- an id determines its client and cookie
    rw [heq] at hsame
    obtain ⟨hsender, hc⟩ := (OwnerId.mkId_inj _ hname.fits hclient.fits).mp hsame
    exact ⟨hsender.symm, hc.symm⟩

/-- Every message of a trace keeps the invariant. -/
lemma Watched.message (hv : OnlySends C.overrides) (hmon : C.monitor = true)
    (hne : C.unInhibitMember ≠ "Inhibit") (h : Watched C past s)
    (htrace : Permitted C mName mName2 past)
    (hok : Allowed C mName mName2 past e) :
    Watched C (past ++ [e]) (step C mName mName2 s e) := by
  cases hk : e.kind with
  | call noReply => exact h.call hmon hne hk hok.1 (hok.call hk)
  | returnOf call =>
    have hreturn := hok.returnOf hk
    obtain ⟨-, pre, hcall⟩ := hreturn.waiting.callOk htrace
    rcases hcall.member with ⟨hin, hargs, -⟩ | ⟨hun, hargs⟩
    · exact h.granted hv hne hk hok.1 hreturn hcall.sender hin hargs
    · exact h.released hv hne hk hok.1 hreturn hcall.sender hun hargs

lemma Watched.run (hv : OnlySends C.overrides) (hmon : C.monitor = true)
    (hne : C.unInhibitMember ≠ "Inhibit") {trace : List Event}
    (htrace : Permitted C mName mName2 trace) :
    Watched C trace (Transition.run (step C mName mName2) OwnerKind.initial trace) := by
  induction trace using List.reverseRecOn with
  | nil => exact initial_watched
  | append_singleton past e ih =>
    obtain ⟨hpast, he⟩ := permitted_snoc.mp htrace
    rw [Transition.run_snoc]
    exact (ih hpast).message hv hmon hne hpast he

end Steps

/-! ## What the monitor misses -/

/-- What is active is what the clients hold. -/
def Exact (trace : List Event) (s : DBus.State (Alone OwnerFields)) : Prop :=
  ∀ id, id ∈ s.world.obj.activeInhibits ↔
    ∃ client cookie, id = OwnerId.mkId C.toOwnerConfig client cookie ∧ Held C trace client cookie

/-- After the last grant of a cookie to a client, the client calls `UnInhibit` with it exactly when
it does so with a reply expected, or an earlier such call is returned only there. -/
def ReleasesReturned (trace : List Event) : Prop :=
  ∀ client cookie pre grant post, trace = pre ++ grant :: post → grant.Grants C client cookie →
    (∀ e ∈ post, ¬ e.Grants C client cookie) →
      ((∃ e ∈ post, e.Releases C client cookie) ↔
        (∃ e ∈ post, e.Releases C client cookie ∧ e.kind = .call false) ∨
          ∃ e ∈ pre, e.Releases C client cookie ∧ ∃ f ∈ post, f.kind = .returnOf e.msg)

section Exactness

variable {C mName mName2} {client : Bytes} {cookie : UInt32}

/-- Cookies are granted to clients. -/
lemma clientName_of_grants {trace : List Event}
    (h : Permitted C mName mName2 trace)
    {e : Event} (he : e ∈ trace) (hgrant : e.Grants C client cookie) : ClientName client := by
  obtain ⟨call, hk, hsender⟩ := hgrant.kind
  obtain ⟨pre, hpre, hok⟩ := h.mem he
  obtain ⟨-, pre', hcall⟩ := (hok.returnOf hk).waiting.callOk hpre
  rw [← hsender]
  exact hcall.sender

/-- The monitor is exact when it sees a release exactly where there is one. -/
lemma Watched.exact_iff {trace : List Event}
    (h : Permitted C mName mName2 trace)
    {s : DBus.State (Alone OwnerFields)} (hs : Watched C trace s) :
    Exact C trace s ↔ ∀ client cookie, Held C trace client cookie ↔
      Since (Event.Grants C client cookie) (Event.Returns C client cookie) trace := by
  have hname : ∀ {client cookie} {clear : Event → Prop},
      Since (Event.Grants C client cookie) clear trace → ClientName client := by
    intro client cookie clear hsince
    obtain ⟨e, he, hgrant⟩ := hsince.exists_set
    exact clientName_of_grants h he hgrant
  -- ids of clients determine client and cookie, so the two sets of ids are compared pair by pair
  constructor
  · intro hexact client cookie
    have hid := (hs.active (OwnerId.mkId C.toOwnerConfig client cookie)).symm.trans (hexact _)
    constructor
    · intro hheld
      obtain ⟨client', cookie', hclient, heq, hsince⟩ := hid.mpr ⟨client, cookie, rfl, hheld⟩
      obtain ⟨rfl, rfl⟩ := (OwnerId.mkId_inj _ (hname hheld).fits hclient.fits).mp heq
      exact hsince
    · intro hsince
      obtain ⟨client', cookie', heq, hheld⟩ := hid.mp ⟨client, cookie, hname hsince, rfl, hsince⟩
      obtain ⟨rfl, rfl⟩ := (OwnerId.mkId_inj _ (hname hsince).fits (hname hheld).fits).mp heq
      exact hheld
  · intro hiff id
    rw [hs.active]
    constructor
    · intro hid
      obtain ⟨client, cookie, -, heq, hsince⟩ := hid
      exact ⟨client, cookie, heq, (hiff client cookie).mpr hsince⟩
    · intro hid
      obtain ⟨client, cookie, heq, hheld⟩ := hid
      exact ⟨client, cookie, hname hheld, heq, (hiff client cookie).mp hheld⟩

/-- A call is returned after it is made. -/
lemma return_after_call {pre post : List Event} {e : Event} {noReply : Bool}
    (h : Permitted C mName mName2 (pre ++ e :: post)) (hk : e.kind = .call noReply) {f : Event}
    (hf : f ∈ pre ++ e :: post) (hret : f.kind = .returnOf e.msg) : f ∈ post := by
  obtain ⟨hpre, hok⟩ := h.split
  rcases List.mem_append.mp hf with hf | hf
  · -- then a call of this serial is there before `e`
    exfalso
    obtain ⟨front, back, hsplit⟩ := List.append_of_mem hf
    rw [hsplit] at hpre
    obtain ⟨⟨g, hg, hkg, hmsg⟩, -⟩ := (hpre.split.2.returnOf hret).waiting
    have hmem : g ∈ pre := by
      rw [hsplit]
      exact List.mem_append_left _ hg
    exact (hok.call hk).serial g hmem false hkg (by rw [hmsg])
  · rcases List.mem_cons.mp hf with heq | hf
    · rw [heq, hk] at hret
      cases hret
    · exact hf

/-- The releases that the monitor sees after a grant. -/
lemma returns_after {pre post : List Event} {grant : Event}
    (h : BusTrace C mName mName2 (pre ++ grant :: post)) (hgrant : grant.Grants C client cookie) :
    (∃ f ∈ post, f.Returns C client cookie) ↔
      (∃ e ∈ post, e.Releases C client cookie ∧ e.kind = .call false) ∨
        ∃ e ∈ pre, e.Releases C client cookie ∧ ∃ f ∈ post, f.kind = .returnOf e.msg := by
  constructor
  · intro hex
    obtain ⟨f, hf, hret⟩ := hex
    obtain ⟨call, hkf⟩ := hret.kind
    -- the returned call was made before its return: before the grant or after it
    obtain ⟨front, back, hsplit⟩ := List.append_of_mem hf
    have hallowed := h.allowed
    rw [hsplit, ← List.cons_append, ← List.append_assoc] at hallowed
    obtain ⟨⟨g, hg, hkg, hmsg⟩, -⟩ := (hallowed.split.2.returnOf hkf).waiting
    rw [← hmsg] at hkf
    have hrel := (returns_iff_releases hkg hkf).mp hret
    rcases List.mem_append.mp hg with hg | hg
    · exact Or.inr ⟨g, hg, hrel, f, hf, hkf⟩
    · rcases List.mem_cons.mp hg with heq | hg
      · obtain ⟨call', hk', -⟩ := hgrant.kind
        rw [← heq, hkg] at hk'
        cases hk'
      · exact Or.inl ⟨g, by rw [hsplit]; exact List.mem_append_left _ hg, hrel, hkg⟩
  · intro hex
    rcases hex with ⟨e, he, hrel, hk⟩ | ⟨e, -, hrel, f, hf, hret⟩
    · -- the trace is complete, so the call has its return, and it stands behind the call
      have hreturned : ∃ f ∈ pre ++ grant :: post, f.kind = .returnOf e.msg := by
        by_contra hnot
        push Not at hnot
        have hmem : e ∈ pre ++ grant :: post :=
          List.mem_append_right _ (List.mem_cons_of_mem _ he)
        exact h.returned e.msg ⟨⟨e, hmem, hk, rfl⟩, hnot⟩
      obtain ⟨f, hf, hret⟩ := hreturned
      obtain ⟨front, back, hsplit⟩ := List.append_of_mem he
      have hallowed := h.allowed
      rw [hsplit, ← List.cons_append, ← List.append_assoc] at hallowed hf
      have hback := return_after_call hallowed hk hf hret
      refine ⟨f, ?_, (returns_iff_releases hk hret).mpr hrel⟩
      rw [hsplit]
      exact List.mem_append_right _ (List.mem_cons_of_mem _ hback)
    · obtain ⟨noReply, hk⟩ := hrel.kind
      exact ⟨f, hf, (returns_iff_releases hk hret).mpr hrel⟩

/-- A monitor of a class is exact after a trace when it sees the releases after the last grants. -/
lemma exact_iff_releasesReturned (hv : OnlySends C.overrides) (hmon : C.monitor = true)
    (hne : C.unInhibitMember ≠ "Inhibit") {trace : List Event}
    (h : BusTrace C mName mName2 trace) :
    Exact C trace (Transition.run (step C mName mName2) OwnerKind.initial trace) ↔
      ReleasesReturned C trace := by
  rw [(Watched.run hv hmon hne h.allowed).exact_iff h.allowed]
  unfold Held
  simp only [Trace.since_iff_since]
  unfold ReleasesReturned
  refine forall_congr' fun client => forall_congr' fun cookie => forall_congr' fun pre =>
    forall_congr' fun grant => forall_congr' fun post => ?_
  constructor
  · intro hiff htrace hgrant hlast
    rw [hiff htrace hgrant hlast]
    rw [htrace] at h
    exact returns_after h hgrant
  · intro hiff htrace hgrant hlast
    rw [hiff htrace hgrant hlast]
    rw [htrace] at h
    exact (returns_after h hgrant).symm

end Exactness

/-! ## `SimpleDBusInhibitInterface` -/

section SimpleDBus

variable (cfg : SimpleDBusInhibitInterface.Config)

/-- The handlers and the values of the class. -/
abbrev simpleDBus : OwnerClass := (OwnerKind.simpleDBus cfg).toClass

/-- The monitor handles the next message. -/
def monitor (s : DBus.State (Alone OwnerFields)) (e : Event) : DBus.State (Alone OwnerFields) :=
  (SimpleDBusInhibitInterface.dispatcher cfg Alone.this Alone.callbacks mName mName2 e.now
    e.tail).deliver s e.msg

lemma monitor_eq : monitor mName mName2 cfg = step (simpleDBus cfg) mName mName2 := rfl

lemma onlySends_simpleDBus : OnlySends (simpleDBus cfg).overrides where
  inhibitEvent _ s := ⟨[], (OwnerFields.sendAll_nil s).symm⟩
  unInhibitEvent _ s := ⟨[], (OwnerFields.sendAll_nil s).symm⟩
  stateChanged _ _ _ := ⟨_, rfl⟩

/-- A monitor is exact after a trace exactly when, after the last grant of each cookie, it sees a
release where the client makes one. -/
theorem monitor_exact_iff (hmon : cfg.monitor = true) {trace : List Event}
    (h : BusTrace (simpleDBus cfg) mName mName2 trace) :
    Exact (simpleDBus cfg) trace
        (Transition.run (monitor mName mName2 cfg) OwnerKind.initial trace) ↔
      ReleasesReturned (simpleDBus cfg) trace := by
  rw [monitor_eq]
  have hne : (simpleDBus cfg).unInhibitMember ≠ "Inhibit" := by
    show "UnInhibit" ≠ "Inhibit"
    decide
  exact exact_iff_releasesReturned (onlySends_simpleDBus cfg) hmon hne h

end SimpleDBus

/-! ## Some traces -/

/-- A monitor of the screen saver of the desktop. -/
def screenSaver : SimpleDBusInhibitInterface.Config :=
  FreedesktopScreenSaverInhibitInterface { instanceId := 0, monitor := true }

def inhibitCall : Message :=
  { type := .methodCall, sender := lit ":1.1", serial := 1,
    interface := some "org.freedesktop.ScreenSaver", member := "Inhibit",
    args := [.string (lit "player"), .string (lit "playing")] }

def inhibitReturn : Message :=
  { type := .methodReturn, sender := lit ":1.5", destination := some (lit ":1.1"),
    replySerial := 1, args := [.uint32 5] }

def unInhibitCall : Message :=
  { type := .methodCall, sender := lit ":1.1", serial := 2,
    interface := some "org.freedesktop.ScreenSaver", member := "UnInhibit",
    args := [.uint32 5] }

def unInhibitReturn : Message :=
  { type := .methodReturn, sender := lit ":1.5", destination := some (lit ":1.1"),
    replySerial := 2 }

/-- The client is granted the cookie 5 and calls `UnInhibit` with it. -/
def release (noReply : Bool) : List Event :=
  [{ msg := inhibitCall, kind := .call false },
   { msg := inhibitReturn, kind := .returnOf inhibitCall },
   { msg := unInhibitCall, kind := .call noReply }]

lemma release_allowed (noReply : Bool) :
    Permitted (simpleDBus screenSaver) (lit ":1.9") (lit ":1.8") (release noReply) := by
  have hclient : lit ":1.1" ≠ lit ":1.9" ∧ lit ":1.1" ≠ lit ":1.8" := by decide
  have himplementer : lit ":1.5" ≠ lit ":1.9" ∧ lit ":1.5" ≠ lit ":1.8" := by decide
  refine ⟨⟨hclient, ?_⟩, ⟨himplementer, ?_⟩, ⟨hclient, ?_⟩, trivial⟩
  · exact ⟨OwnerKind.clientName_one, fun f hf => absurd hf List.not_mem_nil,
      Or.inl ⟨⟨rfl, rfl, rfl⟩, rfl, rfl⟩⟩
  · refine ⟨⟨⟨_, List.mem_singleton_self _, rfl, rfl⟩, fun f hf => ?_⟩, ⟨rfl, rfl, rfl⟩,
      fun _ => ⟨5, rfl, fun client hheld => ?_⟩⟩
    · rw [List.mem_singleton.mp hf]
      intro hk
      cases hk
    · obtain ⟨e, he, hgrant⟩ := hheld.exists_set
      rw [List.mem_singleton.mp he] at hgrant
      exact hgrant.elim
  · refine ⟨OwnerKind.clientName_one, fun f hf b hk => ?_, Or.inr ⟨⟨rfl, rfl, rfl⟩, rfl⟩⟩
    rcases List.mem_cons.mp hf with heq | hf
    · rw [heq]
      show (1 : UInt32) ≠ 2
      decide
    · rw [List.mem_singleton.mp hf] at hk
      cases hk

/-- `UnInhibit` of a client that expects no reply is not noticed. -/
theorem monitor_exact_fails :
    BusTrace (simpleDBus screenSaver) (lit ":1.9") (lit ":1.8") (release true) ∧
      ¬ Exact (simpleDBus screenSaver) (release true)
        (Transition.run (monitor (lit ":1.9") (lit ":1.8") screenSaver) OwnerKind.initial
          (release true)) := by
  have hallowed := release_allowed true
  have htrace : BusTrace (simpleDBus screenSaver) (lit ":1.9") (lit ":1.8") (release true) := by
    refine ⟨hallowed, fun call hwait => ?_⟩
    obtain ⟨⟨f, hf, hk, hmsg⟩, hnot⟩ := hwait
    simp only [release, List.mem_cons, List.not_mem_nil, or_false] at hf
    rcases hf with rfl | rfl | rfl
    · exact hnot _ (List.mem_cons_of_mem _ List.mem_cons_self) (congrArg Kind.returnOf hmsg)
    · cases hk
    · cases hk
  refine ⟨htrace, fun hexact => ?_⟩
  have hwatched := Watched.run (onlySends_simpleDBus screenSaver) rfl (by decide) hallowed
  have hiff := (hwatched.exact_iff hallowed).mp hexact (lit ":1.1") 5
  have hsince : Since (Event.Grants (simpleDBus screenSaver) (lit ":1.1") 5)
      (Event.Returns (simpleDBus screenSaver) (lit ":1.1") 5) (release true) := by
    refine ⟨[{ msg := inhibitCall, kind := .call false }],
      { msg := inhibitReturn, kind := .returnOf inhibitCall },
      [{ msg := unInhibitCall, kind := .call true }], rfl, ⟨⟨rfl, rfl, rfl⟩, rfl, rfl⟩,
      fun f hf hret => ?_⟩
    rw [List.mem_singleton.mp hf] at hret
    exact hret
  have hheld := hiff.mpr hsince
  have hsplit : release true = (release true).take 2 ++
    [{ msg := unInhibitCall, kind := .call true }] := rfl
  unfold Held at hheld
  rw [hsplit, Trace.since_snoc] at hheld
  rcases hheld with hgrant | ⟨-, hnot⟩
  · exact hgrant
  · exact hnot ⟨⟨rfl, rfl, rfl⟩, rfl, rfl⟩

/-- The same with a reply. -/
def answered : List Event :=
  release false ++ [{ msg := unInhibitReturn, kind := .returnOf unInhibitCall }]

lemma answered_busTrace :
    BusTrace (simpleDBus screenSaver) (lit ":1.9") (lit ":1.8") answered where
  allowed := by
    have himplementer : lit ":1.5" ≠ lit ":1.9" ∧ lit ":1.5" ≠ lit ":1.8" := by decide
    refine permitted_snoc.mpr ⟨release_allowed false, himplementer,
      ⟨⟨{ msg := unInhibitCall, kind := .call false }, ?_, rfl, rfl⟩, ?_⟩,
      ⟨rfl, rfl, rfl⟩, fun hin => absurd hin.2.2 (by decide)⟩
    · exact List.mem_cons_of_mem _ (List.mem_cons_of_mem _ (List.mem_singleton_self _))
    · intro f hf hk
      simp only [release, List.mem_cons, List.not_mem_nil, or_false] at hf
      rcases hf with rfl | rfl | rfl
      · cases hk
      · exact absurd (Kind.returnOf.inj hk) (by decide)
      · cases hk
  returned := by
    intro call hwait
    obtain ⟨⟨f, hf, hk, hmsg⟩, hnot⟩ := hwait
    simp only [answered, release, List.cons_append, List.nil_append, List.mem_cons,
      List.not_mem_nil, or_false] at hf
    rcases hf with rfl | rfl | rfl | rfl
    · exact hnot _ (List.mem_cons_of_mem _ List.mem_cons_self) (congrArg Kind.returnOf hmsg)
    · cases hk
    · exact hnot _ (List.mem_append_right _ (List.mem_singleton_self _))
        (congrArg Kind.returnOf hmsg)
    · cases hk

/-- Only the second message grants a cookie, and the third expects a reply. -/
lemma answered_releasesReturned : ReleasesReturned (simpleDBus screenSaver) answered := by
  intro client cookie pre grant post hsplit hgrant hlast
  constructor
  · intro hex
    obtain ⟨e, he, hrel⟩ := hex
    refine Or.inl ⟨e, he, hrel, ?_⟩
    have hmem : e ∈ answered := by
      rw [hsplit]
      exact List.mem_append_right _ (List.mem_cons_of_mem _ he)
    simp only [answered, release, List.cons_append, List.nil_append, List.mem_cons,
      List.not_mem_nil, or_false] at hmem
    rcases hmem with rfl | rfl | rfl | rfl
    · rfl
    · exact hrel.elim
    · rfl
    · exact hrel.elim
  · intro hex
    rcases hex with ⟨e, he, hrel, -⟩ | ⟨e, he, hrel, -⟩
    · exact ⟨e, he, hrel⟩
    · -- no `UnInhibit` is called before the grant
      exfalso
      rcases pre with _ | ⟨a, _ | ⟨b, pre⟩⟩
      · exact absurd he List.not_mem_nil
      · obtain ⟨hfirst, -⟩ := List.cons.inj hsplit
        rw [List.mem_singleton.mp he, ← hfirst] at hrel
        exact absurd hrel.1.2.2 (by decide)
      · have hmem : grant ∈ answered.drop 2 := by
          rw [hsplit]
          simp
        simp only [answered, release, List.cons_append, List.nil_append, List.drop_succ_cons,
          List.drop_zero, List.mem_cons, List.not_mem_nil, or_false] at hmem
        rcases hmem with rfl | rfl
        · exact hgrant.elim
        · exact absurd hgrant.1.2.2 (by decide)

theorem monitor_exact_answered :
    Exact (simpleDBus screenSaver) answered
      (Transition.run (monitor (lit ":1.9") (lit ":1.8") screenSaver) OwnerKind.initial
        answered) :=
  (monitor_exact_iff (lit ":1.9") (lit ":1.8") screenSaver rfl answered_busTrace).mpr
    answered_releasesReturned

end MonitorTrace
end UnifiedInhibit
