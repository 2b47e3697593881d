import UnifiedInhibit.OwnerTracking
import UnifiedInhibit.Lib.Grants

/-!
# Locks that a monitor asks the implementer for

In monitor mode `inhibit` calls the implementer and waits for the cookie with a timeout, and
`unInhibit` sends the cookie back. The model holds the interface object, the implementer's cookies
and the messages between the two; an implementer may take any time over a reply, or send none. The
return of `UnInhibit`, which nothing reads, is left out.

`toGrants` reads off what `Lib/Grants` is about, and each step is a step there (`toGrants_step`).
-/

namespace UnifiedInhibit
namespace RemoteLocks

open DBus (Arg Message)

/-! ## Model -/

/-- An `inhibit` that waits in `sendAwait`. -/
structure Awaiting where
  now : ℕ
  request : InhibitRequest
  serial : ℕ

/-- `queue` holds the messages on their way to the implementer with their serials, and `replies`
the cookies on their way back by the serial of the call. -/
structure State where
  obj : InhibitInterface OwnerFields := { sub := {} }
  waiting : Option Awaiting := none
  nextSerial : ℕ := 0
  queue : List (ℕ × Sent) := []
  replies : StdMap ℕ UInt32 := ∅
  held : Finset UInt32 := ∅

inductive Event where
  | inhibit (now : ℕ) (r : InhibitRequest)
  | unInhibit (id : InhibitID)
  /-- The implementer handles the next message. It grants `cookie` if that is an `Inhibit`, and
  replies to it if `replies`. -/
  | handle (cookie : UInt32) (replies : Bool)
  /-- The reply to a call arrives. -/
  | deliver (serial : ℕ)
  /-- The 500 ms are over. -/
  | timeout

/-- The messages sent in between. -/
def sentSince (s s' : OwnerFields) : List Sent := s'.sent.drop s.sent.length

/-- The return of `Inhibit`. Its sender is not looked at. -/
def grantReturn (cookie : UInt32) : Message :=
  { type := .methodReturn, sender := [], args := [.uint32 cookie] }

section Model

variable (K : OwnerKind)

/-- What a message asks of the implementer. -/
def asks : ℕ × Sent → Option (Grants.Msg UInt32)
  | (serial, .methodCall _ _ interface member args) =>
    if interface = K.toClass.interface ∧ member = "Inhibit" then some (.request serial)
    else if interface = K.toClass.interface ∧ member = K.toClass.unInhibitMember then
      (oneUInt32 args).map .release
    else none
  | _ => none

/-- The call whose reply `doInhibit` waits for. -/
def inhibitCalls (now : ℕ) (r : InhibitRequest) (s : OwnerFields) : List Sent :=
  sentSince s (K.toClass.overrides.doInhibit now r { s with replies := [] }).2

/-- The call that `doUnInhibit` sends. -/
def unInhibitCalls (id : InhibitID) (o : InhibitInterface OwnerFields) : List Sent :=
  if id ∈ o.activeInhibits then
    sentSince o.sub (K.toClass.overrides.doUnInhibit o.toBase id o.sub).2
  else []

/-- `sendAwait` ends with `answer`, and `inhibit` goes on. -/
def finish (a : Awaiting) (answer : Except Exn (Option Message)) (s : State) : State :=
  { s with
    waiting := none
    obj := (InhibitInterface.inhibit K.toClass.overrides a.now a.request
      { s.obj with sub := { s.obj.sub with replies := [answer] } }).2 }

def dropReply (serial : ℕ) (s : State) : State := { s with replies := s.replies.erase serial }

/-- While it waits the daemon makes no other call. A reply that it does not wait for is dropped. -/
def step (s : State) : Event → State
  | .inhibit now r =>
    if s.waiting.isSome then s
    else match inhibitCalls K now r s.obj.sub with
      | [] => { s with obj := (InhibitInterface.inhibit K.toClass.overrides now r s.obj).2 }
      | call :: _ =>
        { s with
          waiting := some ⟨now, r, s.nextSerial⟩
          nextSerial := s.nextSerial + 1
          queue := s.queue ++ [(s.nextSerial, call)] }
  | .unInhibit id =>
    if s.waiting.isSome then s
    else
      let calls := unInhibitCalls K id s.obj
      { s with
        obj := (InhibitInterface.unInhibit K.toClass.overrides id s.obj).2
        nextSerial := s.nextSerial + calls.length
        queue := s.queue ++ calls.map fun call => (s.nextSerial, call) }
  | .handle cookie replies =>
    match s.queue with
    | [] => s
    | msg :: rest =>
      match asks K msg with
      | some (.request serial) =>
        { s with
          queue := rest
          held := insert cookie s.held
          replies := if replies then s.replies.insert serial cookie else s.replies }
      | some (.release cookie) => { s with queue := rest, held := s.held.erase cookie }
      | none => { s with queue := rest }
  | .deliver serial =>
    match s.replies[serial]? with
    | none => s
    | some cookie =>
      match s.waiting with
      | some a =>
        if a.serial = serial then
          finish K a (.ok (some (grantReturn cookie))) (dropReply serial s)
        else dropReply serial s
      | none => dropReply serial s
  | .timeout =>
    match s.waiting with
    | some a => finish K a (.error DBus.noReply) s
    | none => s

/-- The implementer grants cookies that it does not hold for the daemon already. -/
def Allowed (s : State) : Event → Prop
  | .handle cookie _ => ∀ msg rest serial, s.queue = msg :: rest →
    asks K msg = some (.request serial) → cookie ∉ s.held
  | _ => True

/-- The implementer handles an `Inhibit` while the daemon waits for it, and replies to it; and the
reply arrives before the timeout. -/
def Timely (s : State) : Event → Prop
  | .handle _ replies => ∀ msg rest serial, s.queue = msg :: rest →
    asks K msg = some (.request serial) →
      s.waiting.map Awaiting.serial = some serial ∧ replies = true
  | .timeout => ∀ a, s.waiting = some a → s.replies[a.serial]? = none
  | _ => True

end Model

/-- No message is in flight. -/
def Quiet (s : State) : Prop := s.queue = [] ∧ s.replies = ∅

/-- Some active inhibit has the owner "us" and the cookie. -/
def OwnCookie (s : State) (cookie : UInt32) : Prop :=
  ∃ id ∈ s.obj.activeInhibits, CStruct.cstr (id.drop 8) = lit "us" ∧ OwnerId.cookie id = cookie

/-- The implementer holds the cookies of the active inhibits with the owner "us". -/
def Agree (s : State) : Prop := ∀ cookie, cookie ∈ s.held ↔ OwnCookie s cookie

/-! ## What the daemon's calls send -/

section Calls

/-- Awaiting a cookie sends the call. -/
lemma awaitCookie_sent (call : Sent) (s : OwnerFields) :
    (s.awaitCookie call).2.sent = s.sent ++ [call] := by
  unfold OwnerFields.awaitCookie
  dsimp only
  split <;> rfl

lemma awaitCookie_return (call : Sent) (s : OwnerFields) (cookie : UInt32) :
    (({ s with replies := [.ok (some (grantReturn cookie))] } : OwnerFields).awaitCookie call).1 =
      .ok cookie := rfl

lemma awaitCookie_noReply (call : Sent) (s : OwnerFields) :
    (({ s with replies := [.error DBus.noReply] } : OwnerFields).awaitCookie call).1 =
      .error .noResponse := rfl

lemma sentSince_snoc {s s' : OwnerFields} {call : Sent} (h : s'.sent = s.sent ++ [call]) :
    sentSince s s' = [call] := by
  unfold sentSince
  rw [h]
  exact List.drop_left

lemma asks_inhibit (K : OwnerKind) (destination : String) (path : Bytes) (args : List Arg)
    (serial : ℕ) :
    asks K (serial, .methodCall destination path K.toClass.interface "Inhibit" args) =
      some (.request serial) :=
  if_pos ⟨rfl, rfl⟩

lemma asks_unInhibit {K : OwnerKind} (hne : K.toClass.unInhibitMember ≠ "Inhibit")
    (destination : String) (path : Bytes) (cookie : UInt32) (serial : ℕ) :
    asks K (serial, .methodCall destination path K.toClass.interface K.toClass.unInhibitMember
      [.uint32 cookie]) = some (.release cookie) :=
  (if_neg fun h => hne h.2).trans (if_pos ⟨rfl, rfl⟩)

/-- What the two calls of the daemon do in monitor mode. -/
structure RemoteCalls (K : OwnerKind) : Prop where
  inhibit : ∀ now r, (∀ s, K.toClass.overrides.doInhibit now r s = (.error .unsupportedType, s)) ∨
    ∃ (call : Sent) (i : UInt32 → Inhibit),
      (∀ serial, asks K (serial, call) = some (.request serial)) ∧
      (∀ cookie, (i cookie).id = K.mkId (lit "us") cookie) ∧
      ∀ s, K.toClass.overrides.doInhibit now r s =
        ((s.awaitCookie call).1.map i, (s.awaitCookie call).2)
  unInhibit : ∀ b id s, ∃ call,
    (∀ serial, asks K (serial, call) = some (.release (OwnerId.cookie id))) ∧
      K.toClass.overrides.doUnInhibit b id s = (.ok (), s.send call)

lemma remoteCalls (K : OwnerKind) (hmon : K.config.monitor = true) : RemoteCalls K := by
  cases K with
  | simpleDBus cfg =>
    have hmon : cfg.monitor = true := hmon
    constructor
    · intro now r
      by_cases htype : r.type &&& cfg.inhibitType = InhibitType.NONE
      · exact Or.inl fun s => if_pos htype
      · refine Or.inr ⟨.methodCall cfg.interface (lit ("/" ++ cfg.path)) cfg.interface "Inhibit"
          [.string r.appname, .string r.reason], fun cookie =>
            { r with
              type := cfg.inhibitType
              id := SimpleDBusInhibitInterface.mkId cfg (lit "us") cookie
              created := now }, asks_inhibit (.simpleDBus cfg) _ _ _, fun cookie => rfl,
            fun s => ?_⟩
        show SimpleDBusInhibitInterface.doInhibit cfg now r s = _
        unfold SimpleDBusInhibitInterface.doInhibit
        rw [if_neg htype, if_pos hmon]
        dsimp only
        cases (s.awaitCookie _).1 <;> rfl
    · intro b id s
      have hne : (OwnerKind.simpleDBus cfg).toClass.unInhibitMember ≠ "Inhibit" := by
        show "UnInhibit" ≠ "Inhibit"
        decide
      exact ⟨.methodCall cfg.interface (lit ("/" ++ cfg.path)) cfg.interface "UnInhibit"
        [.uint32 (OwnerId.cookie id)], asks_unInhibit hne _ _ _, if_pos hmon⟩
  | gnomeSessionManager cfg =>
    have hmon : cfg.monitor = true := hmon
    constructor
    · intro now r
      by_cases htype : GnomeSessionManagerInhibitInterface.us2gnomeType r.type =
          GnomeSessionManagerInhibitInterface.GnomeInhibitType.NONE
      · exact Or.inl fun s => if_pos htype
      · refine Or.inr ⟨.methodCall GnomeSessionManagerInhibitInterface.INTERFACE
          (lit GnomeSessionManagerInhibitInterface.PATH)
          GnomeSessionManagerInhibitInterface.INTERFACE "Inhibit"
          [.string r.appname, .uint32 0, .string r.reason,
            .uint32 (GnomeSessionManagerInhibitInterface.us2gnomeType r.type)], fun cookie =>
            { r with
              type := GnomeSessionManagerInhibitInterface.gnomeType2us
                (GnomeSessionManagerInhibitInterface.us2gnomeType r.type)
              id := GnomeSessionManagerInhibitInterface.mkId cfg (lit "us") cookie
              created := now }, asks_inhibit (.gnomeSessionManager cfg) _ _ _,
            fun cookie => rfl, fun s => ?_⟩
        show GnomeSessionManagerInhibitInterface.doInhibit cfg now r s = _
        unfold GnomeSessionManagerInhibitInterface.doInhibit
        rw [if_neg htype, if_pos hmon]
        dsimp only
        cases (s.awaitCookie _).1 <;> rfl
    · intro b id s
      have hne : (OwnerKind.gnomeSessionManager cfg).toClass.unInhibitMember ≠ "Inhibit" := by
        show "Uninhibit" ≠ "Inhibit"
        decide
      exact ⟨.methodCall GnomeSessionManagerInhibitInterface.INTERFACE
        (lit GnomeSessionManagerInhibitInterface.PATH)
        GnomeSessionManagerInhibitInterface.INTERFACE "Uninhibit"
        [.uint32 (OwnerId.cookie id)], asks_unInhibit hne _ _ _, if_pos hmon⟩

variable {K : OwnerKind}

/-- An `inhibit` whose type is not supported sends nothing and changes nothing of what is active;
another one sends its call. -/
lemma RemoteCalls.inhibitCalls (hK : RemoteCalls K) (now : ℕ) (r : InhibitRequest) :
    (∀ o : InhibitInterface OwnerFields, inhibitCalls K now r o.sub = [] ∧
        (InhibitInterface.inhibit K.toClass.overrides now r o).2.activeInhibits =
          o.activeInhibits) ∨
      ∃ call, (∀ sub, inhibitCalls K now r sub = [call]) ∧
        ∀ serial, asks K (serial, call) = some (.request serial) := by
  rcases hK.inhibit now r with hrefuse | ⟨call, i, hasks, -, hdo⟩
  · refine Or.inl fun o => ⟨?_, ?_⟩
    · unfold RemoteLocks.inhibitCalls
      rw [hrefuse]
      exact List.drop_length
    · rw [InhibitInterface.inhibit_error _ (hrefuse o.sub)]
  · refine Or.inr ⟨call, fun sub => ?_, hasks⟩
    unfold RemoteLocks.inhibitCalls
    rw [hdo]
    exact sentSince_snoc (awaitCookie_sent call _)

/-- An `inhibit` that sent its call makes the cookie of the return active. -/
lemma RemoteCalls.active_return (hK : RemoteCalls K) {now : ℕ} {r : InhibitRequest}
    {o : InhibitInterface OwnerFields} (hcalls : RemoteLocks.inhibitCalls K now r o.sub ≠ [])
    (cookie : UInt32) (id : InhibitID) :
    id ∈ (InhibitInterface.inhibit K.toClass.overrides now r
        { o with sub := { o.sub with
          replies := [.ok (some (grantReturn cookie))] } }).2.activeInhibits ↔
      id = K.mkId (lit "us") cookie ∨ id ∈ o.activeInhibits := by
  rcases hK.inhibit now r with hrefuse | ⟨call, i, -, hid, hdo⟩
  · exfalso
    apply hcalls
    unfold RemoteLocks.inhibitCalls
    rw [hrefuse]
    exact List.drop_length
  · have hok := hdo { o.sub with replies := [.ok (some (grantReturn cookie))] }
    rw [awaitCookie_return] at hok
    rw [(InhibitInterface.inhibit_ok _ hok).2, StdMap.mem_insertIfNew, hid]

/-- A timeout changes nothing of what is active. -/
lemma RemoteCalls.active_noReply (hK : RemoteCalls K) (now : ℕ) (r : InhibitRequest)
    (o : InhibitInterface OwnerFields) :
    (InhibitInterface.inhibit K.toClass.overrides now r
        { o with sub := { o.sub with replies := [.error DBus.noReply] } }).2.activeInhibits =
      o.activeInhibits := by
  rcases hK.inhibit now r with hrefuse | ⟨call, i, -, -, hdo⟩
  · rw [InhibitInterface.inhibit_error _ (hrefuse _)]
  · have herror := hdo { o.sub with replies := [.error DBus.noReply] }
    rw [awaitCookie_noReply] at herror
    rw [InhibitInterface.inhibit_error _ herror]

/-- An `unInhibit` of an active inhibit sends its cookie back. -/
lemma RemoteCalls.unInhibitCalls (hK : RemoteCalls K) {id : InhibitID}
    {o : InhibitInterface OwnerFields} (hactive : id ∈ o.activeInhibits) :
    ∃ call, unInhibitCalls K id o = [call] ∧
      ∀ serial, asks K (serial, call) = some (.release (OwnerId.cookie id)) := by
  obtain ⟨call, hasks, hdo⟩ := hK.unInhibit o.toBase id o.sub
  refine ⟨call, ?_, hasks⟩
  unfold RemoteLocks.unInhibitCalls
  rw [if_pos hactive, hdo]
  exact sentSince_snoc rfl

lemma RemoteCalls.active_unInhibit (hK : RemoteCalls K) (id : InhibitID)
    (o : InhibitInterface OwnerFields) :
    (InhibitInterface.unInhibit K.toClass.overrides id o).2.activeInhibits =
      o.activeInhibits.erase id := by
  refine (InhibitInterface.unInhibit_ok _ id o fun b s => ?_).2
  obtain ⟨call, -, hdo⟩ := hK.unInhibit b id s
  rw [hdo]

end Calls

/-! ## Steps -/

section Steps

variable (K : OwnerKind)

/-- What counts of a state: a cookie is active under the id with owner "us". -/
def toGrants (s : State) : Grants.State UInt32 where
  active := {cookie | K.mkId (lit "us") cookie ∈ s.obj.activeInhibits}
  waiting := s.waiting.map Awaiting.serial
  next := s.nextSerial
  queue := s.queue.filterMap (asks K)
  replies serial := s.replies[serial]?
  held := {cookie | cookie ∈ s.held}

/-- What an event comes to: an `inhibit` may be refused, an `unInhibit` may find nothing active. -/
def toEvent (s : State) : Event → Grants.Event UInt32
  | .inhibit now r => if inhibitCalls K now r s.obj.sub = [] then .idle else .request
  | .unInhibit id => if id ∈ s.obj.activeInhibits then .release (OwnerId.cookie id) else .idle
  | .handle cookie replies =>
    match s.queue.head?.bind (asks K) with
    | none => .idle
    | some _ => .handle cookie replies
  | .deliver serial => .deliver serial
  | .timeout => .timeout

/-- Only inhibits of the daemon are active, and it waits only for calls it has sent. -/
structure Own (s : State) : Prop where
  ids : ∀ id ∈ s.obj.activeInhibits, ∃ cookie, id = K.mkId (lit "us") cookie
  waiting : ∀ a, s.waiting = some a → ∀ sub, inhibitCalls K a.now a.request sub ≠ []

variable {K} {s : State}

lemma isSome_waiting (s : State) : (toGrants K s).waiting.isSome = s.waiting.isSome :=
  Option.isSome_map

/-- A cookie determines its id. -/
lemma mkId_us_inj {c d : UInt32} : K.mkId (lit "us") c = K.mkId (lit "us") d ↔ c = d := by
  unfold OwnerKind.mkId
  rw [OwnerId.mkId_inj _ fits_us fits_us]
  simp

lemma step_inhibit (hK : RemoteCalls K) (h : Own K s) (now : ℕ) (r : InhibitRequest) :
    Own K (step K s (.inhibit now r)) ∧ toGrants K (step K s (.inhibit now r)) =
      Grants.step (toGrants K s) (toEvent K s (.inhibit now r)) := by
  unfold step toEvent
  dsimp only
  by_cases hwait : s.waiting.isSome
  · refine ⟨by rw [if_pos hwait]; exact h, ?_⟩
    rw [if_pos hwait]
    split
    · rfl
    · unfold Grants.step
      dsimp only
      rw [if_pos (by rw [isSome_waiting]; exact hwait)]
  · rw [if_neg hwait]
    rcases hK.inhibitCalls now r with hrefuse | ⟨call, hcall, hasks⟩
    · -- the type is not supported, and nothing is sent
      obtain ⟨hnil, hactive⟩ := hrefuse s.obj
      rw [hnil, if_pos rfl]
      dsimp only
      refine ⟨⟨fun id hid => ?_, h.waiting⟩, ?_⟩
      · dsimp only at hid
        rw [hactive] at hid
        exact h.ids id hid
      · unfold toGrants
        dsimp only
        rw [hactive]
        rfl
    · -- the call is sent, and the daemon waits
      rw [hcall, if_neg (by simp)]
      dsimp only
      refine ⟨⟨h.ids, fun a ha sub => ?_⟩, ?_⟩
      · rw [← Option.some.inj ha, hcall]
        simp
      · unfold Grants.step
        dsimp only
        rw [if_neg (by rw [isSome_waiting]; exact hwait)]
        unfold toGrants Grants.State.request
        simp [hasks]

lemma step_unInhibit (hK : RemoteCalls K) (h : Own K s) (id : InhibitID) :
    Own K (step K s (.unInhibit id)) ∧ toGrants K (step K s (.unInhibit id)) =
      Grants.step (toGrants K s) (toEvent K s (.unInhibit id)) := by
  unfold step toEvent
  dsimp only
  by_cases hwait : s.waiting.isSome
  · refine ⟨by rw [if_pos hwait]; exact h, ?_⟩
    rw [if_pos hwait]
    split
    · unfold Grants.step
      dsimp only
      rw [if_pos (Or.inl (by rw [isSome_waiting]; exact hwait))]
    · rfl
  · rw [if_neg hwait]
    have hactive := hK.active_unInhibit id s.obj
    have howns : ∀ k ∈ (InhibitInterface.unInhibit K.toClass.overrides id s.obj).2.activeInhibits,
        ∃ cookie, k = K.mkId (lit "us") cookie := by
      intro k hk
      rw [hactive] at hk
      exact h.ids k ((StdMap.mem_erase _ _ _).mp hk).1
    refine ⟨⟨howns, h.waiting⟩, ?_⟩
    by_cases hid : id ∈ s.obj.activeInhibits
    · -- the id is the one of the cookie that is sent back
      obtain ⟨cookie, hcookie⟩ := h.ids id hid
      have hsame : OwnerId.cookie id = cookie := by
        rw [hcookie]
        exact OwnerId.cookie_mkId _ fits_us cookie
      obtain ⟨call, hcall, hasks⟩ := hK.unInhibitCalls hid
      have hmem : OwnerId.cookie id ∈ (toGrants K s).active := by
        show K.mkId (lit "us") (OwnerId.cookie id) ∈ s.obj.activeInhibits
        rw [hsame, ← hcookie]
        exact hid
      rw [if_pos hid, hcall]
      unfold Grants.step
      dsimp only
      rw [if_neg (by
        rw [isSome_waiting]
        exact not_or.mpr ⟨hwait, not_not.mpr hmem⟩)]
      unfold toGrants Grants.State.release
      dsimp only
      rw [hactive]
      ext1
      · ext d
        simp only [Set.mem_ofPred_eq, StdMap.mem_erase, Set.mem_sdiff, Set.mem_singleton_iff]
        rw [hsame, hcookie, ne_eq, mkId_us_inj]
      · rfl
      · rfl
      · simp [hasks]
      · rfl
      · rfl
    · -- erasing an id that is not there changes nothing
      have hnil : unInhibitCalls K id s.obj = [] := if_neg hid
      rw [if_neg hid, hnil]
      unfold toGrants Grants.step
      dsimp only
      rw [hactive]
      ext1
      · ext d
        simp only [Set.mem_ofPred_eq, StdMap.mem_erase]
        constructor
        · exact And.left
        · intro hd
          refine ⟨hd, fun heq => hid ?_⟩
          rw [← heq]
          exact hd
      · rfl
      · rfl
      · simp
      · rfl
      · rfl

lemma step_handle (h : Own K s) (cookie : UInt32) (replies : Bool) :
    Own K (step K s (.handle cookie replies)) ∧ toGrants K (step K s (.handle cookie replies)) =
      Grants.step (toGrants K s) (toEvent K s (.handle cookie replies)) := by
  unfold step toEvent
  dsimp only
  cases hqueue : s.queue with
  | nil => exact ⟨h, rfl⟩
  | cons msg rest =>
    dsimp only [List.head?_cons, Option.bind_some]
    cases hasks : asks K msg with
    | none =>
      -- a message that asks for nothing is not in the queue of grants
      refine ⟨⟨h.ids, h.waiting⟩, ?_⟩
      unfold toGrants Grants.step
      dsimp only
      rw [hqueue, List.filterMap_cons_none hasks]
    | some m =>
      have hhead : (toGrants K s).queue = m :: rest.filterMap (asks K) := by
        unfold toGrants
        dsimp only
        rw [hqueue, List.filterMap_cons_some hasks]
      cases m with
      | request serial =>
        refine ⟨⟨h.ids, h.waiting⟩, ?_⟩
        unfold Grants.step
        dsimp only
        rw [hhead]
        dsimp only
        unfold toGrants Grants.State.grant
        ext1
        · rfl
        · rfl
        · rfl
        · rfl
        · ext n
          cases replies
          · rfl
          · simp only [if_true, StdMap.getElem?_insert, Function.update_apply]
        · ext c
          simp
      | release token =>
        refine ⟨⟨h.ids, h.waiting⟩, ?_⟩
        unfold Grants.step
        dsimp only
        rw [hhead]
        dsimp only
        unfold toGrants Grants.State.takeBack
        ext1
        · rfl
        · rfl
        · rfl
        · rfl
        · rfl
        · ext c
          simp [and_comm]

lemma toGrants_dropReply (s : State) (serial : ℕ) :
    toGrants K (dropReply serial s) = (toGrants K s).drop serial := by
  have hreplies : (toGrants K (dropReply serial s)).replies =
      Function.update (toGrants K s).replies serial none := by
    ext1 n
    rw [Function.update_apply]
    exact StdMap.getElem?_erase _ _ _
  unfold Grants.State.drop
  rw [← hreplies]
  rfl

lemma Own.dropReply (h : Own K s) (serial : ℕ) : Own K (dropReply serial s) :=
  ⟨h.ids, h.waiting⟩

/-- The reply that the daemon waits for makes its cookie active. -/
lemma step_accept (hK : RemoteCalls K) (h : Own K s) {a : Awaiting} (hwait : s.waiting = some a)
    (cookie : UInt32) :
    let s' := finish K a (.ok (some (grantReturn cookie))) (dropReply a.serial s)
    Own K s' ∧ toGrants K s' = (toGrants K s).accept a.serial cookie := by
  intro s'
  have hactive : ∀ id, id ∈ s'.obj.activeInhibits ↔
      id = K.mkId (lit "us") cookie ∨ id ∈ s.obj.activeInhibits :=
    hK.active_return (h.waiting a hwait s.obj.sub) cookie
  refine ⟨⟨fun id hid => ?_, fun b hb => by cases hb⟩, ?_⟩
  · rcases (hactive id).mp hid with heq | hold
    · exact ⟨cookie, heq⟩
    · exact h.ids id hold
  · have hreplies : (toGrants K (dropReply a.serial s)).replies =
        ((toGrants K s).drop a.serial).replies := by rw [toGrants_dropReply]
    ext1
    · ext d
      refine (hactive (K.mkId (lit "us") d)).trans ?_
      rw [mkId_us_inj]
      rfl
    · rfl
    · rfl
    · rfl
    · exact hreplies
    · rfl

lemma step_deliver (hK : RemoteCalls K) (h : Own K s) (serial : ℕ) :
    Own K (step K s (.deliver serial)) ∧ toGrants K (step K s (.deliver serial)) =
      Grants.step (toGrants K s) (toEvent K s (.deliver serial)) := by
  unfold step toEvent Grants.step
  dsimp only
  rw [show (toGrants K s).replies serial = s.replies[serial]? from rfl,
    show (toGrants K s).waiting = s.waiting.map Awaiting.serial from rfl]
  cases s.replies[serial]? with
  | none => exact ⟨h, rfl⟩
  | some cookie =>
    dsimp only
    split
    · rename_i a hwait
      rw [hwait, Option.map_some]
      by_cases hserial : a.serial = serial
      · rw [if_pos hserial, if_pos (by rw [hserial]), ← hserial]
        exact step_accept hK h hwait cookie
      · rw [if_neg hserial, if_neg (by simpa using hserial)]
        exact ⟨h.dropReply serial, toGrants_dropReply s serial⟩
    · rename_i hwait
      rw [hwait, Option.map_none, if_neg (by simp)]
      exact ⟨h.dropReply serial, toGrants_dropReply s serial⟩

lemma step_timeout (hK : RemoteCalls K) (h : Own K s) :
    Own K (step K s .timeout) ∧ toGrants K (step K s .timeout) =
      Grants.step (toGrants K s) (toEvent K s .timeout) := by
  unfold step toEvent Grants.step Grants.State.giveUp
  dsimp only
  cases hwait : s.waiting with
  | none =>
    refine ⟨h, ?_⟩
    unfold toGrants
    rw [hwait]
    rfl
  | some a =>
    have hactive := hK.active_noReply a.now a.request s.obj
    refine ⟨⟨fun id hid => ?_, fun b hb => by cases hb⟩, ?_⟩
    · rw [show (finish K a (.error DBus.noReply) s).obj.activeInhibits = s.obj.activeInhibits
        from hactive] at hid
      exact h.ids id hid
    · unfold toGrants finish
      dsimp only
      rw [hactive]
      rfl

/-- Each step is a step of the client and the server of grants. -/
theorem toGrants_step (hK : RemoteCalls K) (h : Own K s) (e : Event) :
    Own K (step K s e) ∧
      toGrants K (step K s e) = Grants.step (toGrants K s) (toEvent K s e) := by
  cases e with
  | inhibit now r => exact step_inhibit hK h now r
  | unInhibit id => exact step_unInhibit hK h id
  | handle cookie replies => exact step_handle h cookie replies
  | deliver serial => exact step_deliver hK h serial
  | timeout => exact step_timeout hK h

/-- The request that the implementer handles next. -/
lemma forall_request {m : Grants.Msg UInt32} (hm : s.queue.head?.bind (asks K) = some m)
    (P : ℕ → Prop) :
    (∀ serial rest, (toGrants K s).queue = .request serial :: rest → P serial) ↔
      ∀ msg rest serial, s.queue = msg :: rest → asks K msg = some (.request serial) →
        P serial := by
  cases hqueue : s.queue with
  | nil =>
    rw [hqueue] at hm
    cases hm
  | cons msg rest =>
    rw [hqueue] at hm
    have hasks : asks K msg = some m := hm
    have hhead : (toGrants K s).queue = m :: rest.filterMap (asks K) := by
      unfold toGrants
      dsimp only
      rw [hqueue, List.filterMap_cons_some hasks]
    rw [hhead]
    constructor
    · intro h msg' rest' serial heq hasks'
      rw [← (List.cons.inj heq).1, hasks] at hasks'
      exact h serial _ (by rw [Option.some.inj hasks'])
    · intro h serial rest' heq
      exact h msg rest serial rfl (by rw [hasks, (List.cons.inj heq).1])

lemma no_request (hnone : s.queue.head?.bind (asks K) = none) {msg : ℕ × Sent}
    {rest : List (ℕ × Sent)} {serial : ℕ} (hqueue : s.queue = msg :: rest) :
    asks K msg ≠ some (.request serial) := by
  intro hasks
  rw [hqueue] at hnone
  exact absurd (hasks.symm.trans hnone) (by simp)

lemma allowed_toGrants {e : Event} (h : Allowed K s e) :
    Grants.Allowed (toGrants K s) (toEvent K s e) := by
  cases e with
  | inhibit now r =>
    unfold toEvent
    dsimp only
    split <;> trivial
  | unInhibit id =>
    unfold toEvent
    dsimp only
    split <;> trivial
  | handle cookie replies =>
    unfold toEvent
    dsimp only
    split
    · trivial
    · rename_i m hm
      exact (forall_request hm fun _ => cookie ∉ s.held).mpr h
  | deliver serial => trivial
  | timeout => trivial

lemma timely_toGrants (e : Event) :
    Grants.Timely (toGrants K s) (toEvent K s e) ↔ Timely K s e := by
  cases e with
  | inhibit now r =>
    unfold toEvent
    dsimp only
    split <;> exact Iff.rfl
  | unInhibit id =>
    unfold toEvent
    dsimp only
    split <;> exact Iff.rfl
  | handle cookie replies =>
    unfold toEvent
    dsimp only
    split
    · rename_i hnone
      constructor
      · intro _ msg rest serial hqueue hasks
        exact absurd hasks (no_request hnone hqueue)
      · intro _
        trivial
    · rename_i m hm
      exact forall_request hm fun serial =>
        s.waiting.map Awaiting.serial = some serial ∧ replies = true
  | deliver serial => exact Iff.rfl
  | timeout =>
    show (∀ serial, s.waiting.map Awaiting.serial = some serial → _) ↔
      ∀ a, s.waiting = some a → _
    cases s.waiting with
    | none => simp
    | some a =>
      constructor
      · intro h b hb
        rw [← Option.some.inj hb]
        exact h a.serial rfl
      · intro h serial hserial
        rw [← Option.some.inj hserial]
        exact h a rfl

/-- The cookies of our own inhibits are those under which something is active. -/
lemma Own.ownCookie_iff (h : Own K s) (cookie : UInt32) :
    OwnCookie s cookie ↔ cookie ∈ (toGrants K s).active := by
  constructor
  · intro hown
    obtain ⟨id, hid, -, hcookie⟩ := hown
    obtain ⟨c, hc⟩ := h.ids id hid
    have hsame : c = cookie := by
      rw [← hcookie, hc]
      exact (OwnerId.cookie_mkId _ fits_us c).symm
    show K.mkId (lit "us") cookie ∈ s.obj.activeInhibits
    rw [← hsame, ← hc]
    exact hid
  · intro hactive
    exact ⟨_, hactive, OwnerId.sender_mkId _ fits_us cookie,
      OwnerId.cookie_mkId _ fits_us cookie⟩

lemma initial_own : Own K {} where
  ids id hid := absurd hid (by simp)
  waiting a ha := by cases ha

lemma initial_invariant : Grants.Invariant (toGrants K {}) where
  active c hc := absurd hc (by simp [toGrants])
  released c hc := absurd hc List.not_mem_nil
  nodup := List.nodup_nil
  awaited c hc := by
    obtain ⟨serial, hw, -⟩ := hc
    cases hw
  requests serial hmem := absurd hmem List.not_mem_nil
  replies serial _ := rfl
  waiting serial hw := by cases hw

end Steps

/-! ## Agreement -/

/-- Whenever no message is in flight, the implementer holds the cookies of our own inhibits
exactly when each `Inhibit` so far was handled and answered in time. -/
theorem remote_agree_iff (K : OwnerKind) (hmon : K.config.monitor = true) {es : List Event}
    (hrun : Transition.Along (step K) (Allowed K) {} es)
    (hquiet : Quiet (Transition.run (step K) {} es)) :
    Agree (Transition.run (step K) {} es) ↔ Transition.Along (step K) (Timely K) {} es := by
  have hK := remoteCalls K hmon
  have hstep : ∀ s e, Own K s ∧ Grants.Invariant (toGrants K s) → Allowed K s e →
      Own K (step K s e) ∧ Grants.Invariant (toGrants K (step K s e)) := by
    intro s e h he
    obtain ⟨hown, heq⟩ := toGrants_step hK h.1 e
    rw [heq]
    exact ⟨hown, h.2.step (allowed_toGrants he)⟩
  obtain ⟨hown, hinv⟩ := Transition.invariant ⟨initial_own, initial_invariant⟩ hstep hrun
  have hlost := Transition.run_iff_along (P := fun s => ∀ c, ¬ Grants.Lost (toGrants K s) c)
    (Q := Timely K) ⟨initial_own, initial_invariant⟩ hstep (fun s e h he => by
      rw [(toGrants_step hK h.1 e).2, Grants.lost_step h.2 (allowed_toGrants he),
        timely_toGrants]) hrun
  have hnone : ∀ c, ¬ Grants.Lost (toGrants K {}) c := fun c hc => absurd hc.1 (by simp [toGrants])
  have hquiet' : Grants.Quiet (toGrants K (Transition.run (step K) {} es)) := by
    constructor
    · unfold toGrants
      rw [hquiet.1]
      rfl
    · intro serial
      unfold toGrants
      rw [hquiet.2]
      exact Std.ExtTreeMap.getElem?_empty
  rw [and_iff_right hnone] at hlost
  rw [← hlost, ← Grants.agree_iff hinv hquiet', Set.ext_iff]
  exact forall_congr' fun c => iff_congr Iff.rfl (hown.ownCookie_iff c)

/-! ## Some runs -/

def exampleConfig : OwnerConfig := { instanceId := 0, monitor := true }

def screenSaver : OwnerKind := .simpleDBus (FreedesktopScreenSaverInhibitInterface exampleConfig)

def sessionManager : OwnerKind := .gnomeSessionManager exampleConfig

def request : InhibitRequest := { type := InhibitType.SCREENSAVER }

lemma erase_insert_empty (serial : ℕ) (cookie : UInt32) :
    ((∅ : StdMap ℕ UInt32).insert serial cookie).erase serial = ∅ := by
  refine Std.ExtTreeMap.ext_getElem? fun n => ?_
  rw [StdMap.getElem?_erase, StdMap.getElem?_insert]
  split <;> simp

/-- The implementer handles the call after the timeout, and its reply is dropped. -/
def late : List Event := [.inhibit 0 request, .timeout, .handle 5 true, .deliver 0]

/-- The implementer holds the cookie for good, and nothing is active. -/
theorem remote_agree_fails :
    Transition.Along (step screenSaver) (Allowed screenSaver) {} late ∧
      Quiet (Transition.run (step screenSaver) {} late) ∧
      ¬ Agree (Transition.run (step screenSaver) {} late) := by
  refine ⟨⟨trivial, trivial, fun _ _ _ _ _ => Finset.notMem_empty 5, trivial, trivial⟩,
    ⟨rfl, erase_insert_empty 0 5⟩, fun hagree => ?_⟩
  have hheld : (Transition.run (step screenSaver) {} late).held = {5} := rfl
  obtain ⟨id, hid, -⟩ := (hagree 5).mp (by rw [hheld]; exact Finset.mem_singleton_self 5)
  have hactive : (Transition.run (step screenSaver) {} late).obj.activeInhibits = ∅ := rfl
  rw [hactive] at hid
  exact absurd hid (by simp)

/-- The reply arrives before the timeout. -/
def inTime : List Event := [.inhibit 0 request, .handle 5 true, .deliver 0]

theorem remote_agree_in_time : Agree (Transition.run (step sessionManager) {} inTime) := by
  have hallowed : Transition.Along (step sessionManager) (Allowed sessionManager) {} inTime :=
    ⟨trivial, fun _ _ _ _ _ => Finset.notMem_empty 5, trivial, trivial⟩
  have hquiet : Quiet (Transition.run (step sessionManager) {} inTime) :=
    ⟨rfl, erase_insert_empty 0 5⟩
  refine (remote_agree_iff sessionManager rfl hallowed hquiet).mpr
    ⟨trivial, fun msg rest serial hqueue hasks => ?_, trivial, trivial⟩
  -- the call with the serial 0 is the only message
  obtain ⟨hmsg, -⟩ := List.cons.inj hqueue
  rw [← hmsg] at hasks
  have hserial : Grants.Msg.request 0 = .request serial := Option.some.inj hasks
  rw [← Grants.Msg.request.inj hserial]
  exact ⟨rfl, rfl⟩

end RemoteLocks
end UnifiedInhibit
