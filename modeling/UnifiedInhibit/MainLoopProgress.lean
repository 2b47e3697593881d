import UnifiedInhibit.MainLoopFaults

/-!
# No interface is starved

`start` ends its interface's turn only in `co_await`, once its queue is empty and `poll` has
returned. Handling a message neither loses the connection nor ends the daemon
(`Wiring.handle_keeps`), so that as long as the connections stay up the turns go round, and what has
come for an interface leaves its queue within a bound that counts the interfaces and the messages
(`Wiring.all_served`).
-/

namespace UnifiedInhibit

open DBus (Message lookup)
open MessageLoop (Input)
open RoundRobin (AtTurn Steady)
open OwnerHandlers (QueryMethod)

/-! ## What handlers do not throw -/

/-- The coroutine goes on after the exception, with the next message or by reading again. -/
def Exn.Survived (e : Exn) : Prop := endingOf (.error e) = .done ∨ endingOf (.error e) = .thrown

instance (e : Exn) : Decidable e.Survived := inferInstanceAs (Decidable (_ ∨ _))

lemma endingOf_survived {r : Except Exn Unit} (h : ∀ e, r = .error e → e.Survived) :
    endingOf r = .done ∨ endingOf r = .thrown := by
  cases r with
  | ok _ => exact .inl rfl
  | error e => exact h e rfl

lemma survived_std (what : String) : (Exn.std what).Survived := .inr rfl

lemma survived_of_lookup {α : Type} {interface member : α → String} {msg : Message}
    {as : List α} {e : Exn} (h : lookup interface member msg as = .error e) : e.Survived := by
  induction as with
  | nil => cases h
  | cons a as ih =>
    unfold lookup at h
    split at h
    · split at h
      · cases h
        exact survived_std _
      · split at h
        · cases h
        · exact ih h
    · exact ih h

namespace OwnerKind

variable {K : OwnerKind}

/-- The methods that a subclass adds throw nothing that the coroutine does not survive. -/
def Added (K : OwnerKind) : Prop :=
  ∀ cfg, K = .simpleDBus cfg → ∀ q ∈ cfg.myMethods, ∀ msg b e,
    q.answer msg b = .error e → e.Survived

/-- Most classes add none. -/
lemma added_of_nil (h : ∀ cfg, K = .simpleDBus cfg → cfg.myMethods = []) : K.Added := by
  intro cfg hcfg q hq
  rw [h cfg hcfg] at hq
  exact absurd hq List.not_mem_nil

/-- The power manager adds `HasInhibit`, which does not throw. -/
lemma added_powerManager (base : OwnerConfig) :
    (simpleDBus (FreedesktopPowerManagerInhibitInterface base)).Added := by
  intro cfg hcfg q hq msg b e h
  cases hcfg
  rw [List.mem_singleton.mp hq] at h
  have h : FreedesktopPowerManagerInhibitInterface.handleHasInhibitMsg base msg b = .error e := h
  unfold FreedesktopPowerManagerInhibitInterface.handleHasInhibitMsg at h
  split at h <;> cases h

lemma getArgs_survived {α : Type} (expected : List DBus.Arg → Option α) (msg : Message) {e : Exn}
    (h : msg.getArgs expected = .error e) : e.Survived := by
  unfold Message.getArgs at h
  split at h
  · cases h
  · cases h
    decide

lemma cookie_survived {path : Bytes} {e : Exn}
    (h : GnomeSessionManagerInhibitInterface.inhibitorPathToCookie path = .error e) :
    e.Survived := by
  unfold GnomeSessionManagerInhibitInterface.inhibitorPathToCookie at h
  dsimp only at h
  split at h
  · cases h
  · split at h
    · cases h
    · cases h
      exact survived_std _

/-- What the three handlers of inhibitor objects throw is about the path. -/
lemma inhibitor_survived (cfg : OwnerConfig) (read : Inhibit → DBus.Arg) (default : DBus.Arg)
    (msg : Message) (b : Base) {e : Exn}
    (h : GnomeSessionManagerInhibitInterface.handleInhibitor cfg read default msg b = .error e) :
    e.Survived := by
  unfold GnomeSessionManagerInhibitInterface.handleInhibitor
    GnomeSessionManagerInhibitInterface.inhibitFromCookie at h
  split at h
  · cases h
  · cases hcookie : GnomeSessionManagerInhibitInterface.inhibitorPathToCookie msg.path with
    | error e' =>
      rw [hcookie] at h
      cases h
      exact cookie_survived hcookie
    | ok cookie =>
      rw [hcookie] at h
      dsimp only at h
      -- an unknown cookie is answered with the default
      cases hfind : b.activeInhibits.toList.find? _ <;> rw [hfind] at h <;> cases h

/-- Introspection throws for a call without a destination, or for a cookie that is no `int`. -/
lemma introspect_survived (cfg : OwnerConfig) (msg : Message) (b : Base) {e : Exn}
    (h : GnomeSessionManagerInhibitInterface.handleIntrospect cfg msg b = .error e) :
    e.Survived := by
  unfold GnomeSessionManagerInhibitInterface.handleIntrospect at h
  split at h
  · cases h
  · cases hdestination : msg.destination with
    | none =>
      rw [hdestination] at h
      cases h
      exact survived_std _
    | some destination =>
      rw [hdestination] at h
      dsimp only at h
      split at h
      · cases h
      split at h
      · cases h
      split at h
      · cases h
      split at h
      · cases hcookie : GnomeSessionManagerInhibitInterface.inhibitorPathToCookie msg.path with
        | error e' =>
          rw [hcookie] at h
          cases h
          exact cookie_survived hcookie
        | ok cookie =>
          rw [hcookie] at h
          cases h
      · cases h

lemma isInhibited_survived (cfg : OwnerConfig) (msg : Message) (b : Base) {e : Exn}
    (h : GnomeSessionManagerInhibitInterface.handleIsInhibitedMsg cfg msg b = .error e) :
    e.Survived := by
  unfold GnomeSessionManagerInhibitInterface.handleIsInhibitedMsg at h
  split at h
  · cases h
  · cases hargs : msg.getArgs oneUInt32 with
    | error e' =>
      rw [hargs] at h
      cases h
      exact getArgs_survived oneUInt32 msg hargs
    | ok flags =>
      rw [hargs] at h
      cases h

lemma property_survived (cfg : OwnerConfig) (msg : Message) (b : Base) {e : Exn}
    (h : GnomeSessionManagerInhibitInterface.handleGetProperty cfg msg b = .error e) :
    e.Survived := by
  unfold GnomeSessionManagerInhibitInterface.handleGetProperty at h
  split at h
  · cases h
  · cases hargs : msg.getArgs twoStrings with
    | error e' =>
      rw [hargs] at h
      cases h
      exact getArgs_survived twoStrings msg hargs
    | ok strings =>
      rw [hargs] at h
      dsimp only at h
      split at h <;> cases h

/-- What answers throw. -/
lemma answer_survived (hadded : K.Added) {q : QueryMethod} (hq : q ∈ K.toClass.queries)
    {msg : Message} {b : Base} {e : Exn} (h : q.answer msg b = .error e) : e.Survived := by
  cases K with
  | simpleDBus cfg =>
    rcases List.mem_cons.mp hq with rfl | hq
    · have h : SimpleDBusInhibitInterface.handleIntrospect cfg msg b = .error e := h
      unfold SimpleDBusInhibitInterface.handleIntrospect at h
      dsimp only at h
      split at h
      · cases h
      · split at h
        · cases h
          exact survived_std _
        · split at h <;> cases h
    · exact hadded cfg rfl q hq msg b e h
  | gnomeSessionManager cfg =>
    -- the queries in the order of their table
    rcases List.mem_cons.mp hq with rfl | hq
    · exact isInhibited_survived cfg msg b h
    rcases List.mem_cons.mp hq with rfl | hq
    · have h : GnomeSessionManagerInhibitInterface.handleGetInhibitors cfg msg b = .error e := h
      unfold GnomeSessionManagerInhibitInterface.handleGetInhibitors at h
      split at h <;> cases h
    rcases List.mem_cons.mp hq with rfl | hq
    · exact inhibitor_survived cfg _ _ msg b h
    rcases List.mem_cons.mp hq with rfl | hq
    · exact inhibitor_survived cfg _ _ msg b h
    rcases List.mem_cons.mp hq with rfl | hq
    · exact inhibitor_survived cfg _ _ msg b h
    rcases List.mem_cons.mp hq with rfl | hq
    · exact property_survived cfg msg b h
    · obtain rfl := List.mem_singleton.mp hq
      exact introspect_survived cfg msg b h

variable {now : ℕ} {tail : List InhibitID} {msg : Message}

/-- What the dispatcher throws. -/
lemma dispatch_survived (hadded : K.Added) (hsends : OnlySends K.toClass.overrides)
    (hmon : K.config.monitor = false) {mName : Bytes} (a : State) (hcalls : a.methodCalls = ∅)
    {e : Exn} (h : ((K.toClass.aloneDispatcher mName [] now tail).dispatch msg a).1 = .error e) :
    e.Survived := by
  have hargs : e = DBus.invalidArgs → e.Survived := by
    intro he
    rw [he]
    decide
  by_cases hobs : (K.toClass.aloneDispatcher mName [] now tail).Observed msg
  swap
  · rw [DBus.dispatch_own hobs] at h
    cases h
  cases htype : msg.type with
  | methodCall =>
    cases hlookup : lookup DBus.MethodCB.interface DBus.MethodCB.member msg
        (K.toClass.aloneDispatcher mName [] now tail).myMethods with
    | error e' =>
      rw [DBus.dispatch_call_error hobs htype hlookup] at h
      cases h
      exact survived_of_lookup hlookup
    | ok found =>
      cases found with
      | none =>
        rw [DBus.dispatch_call_none hobs htype hlookup] at h
        cases h
      | some m =>
        rw [DBus.dispatch_call hobs hmon htype hlookup] at h
        -- `Inhibit` and `UnInhibit` stand first in the table, the queries behind them
        rcases List.mem_cons.mp (DBus.lookup_ok hlookup).1 with rfl | hm
        · exact hargs (calm_inhibit hsends a.world h)
        rcases List.mem_cons.mp hm with rfl | hm
        · exact hargs (calm_unInhibit hsends a.world h)
        obtain ⟨q, hq, rfl⟩ := List.mem_map.mp hm
        unfold DBus.State.call QueryMethod.methodCB at h
        dsimp only at h
        cases hanswer : q.answer msg (Alone.this.get a.world).toBase with
        | error e' =>
          rw [hanswer] at h
          cases h
          exact answer_survived hadded hq hanswer
        | ok out =>
          rw [hanswer] at h
          cases h
  | signal =>
    cases hlookup : lookup DBus.SignalCB.interface DBus.SignalCB.member msg
        (K.toClass.aloneDispatcher mName [] now tail).mySignals with
    | error e' =>
      rw [DBus.dispatch_signal_error hobs htype hlookup] at h
      cases h
      exact survived_of_lookup hlookup
    | ok found =>
      cases found with
      | none =>
        rw [DBus.dispatch_signal_none hobs htype hlookup] at h
        cases h
      | some m =>
        rw [DBus.dispatch_signal hobs htype hlookup,
          List.mem_singleton.mp (DBus.lookup_ok hlookup).1] at h
        exact hargs (calm_nameLost hsends a.world h)
  | methodReturn =>
    rw [DBus.dispatch_reply hobs hcalls (.inl htype)] at h
    cases h
  | error =>
    rw [DBus.dispatch_reply hobs hcalls (.inr htype)] at h
    cases h

end OwnerKind

/-! ## The wired daemon -/

namespace Wiring

variable {σ : Type} {w : Wiring σ}

/-- In a reached state the coroutine goes on after each message. -/
lemma handle_keeps {es : List Event} {s : State σ} (hr : w.Reached es s) {k : ℕ} {c : Context}
    {msg : Message} (hadded : ∀ K, w.kind k = some K → K.Added) (hends : c.ends = .done)
    (hlegal : Transition.Along w.step w.Legal s (w.eventsOf (.handled k c msg))) :
    ((w.task k).handle c msg s).1 = .done ∨ ((w.task k).handle c msg s).1 = .thrown := by
  unfold task
  unfold eventsOf at hlegal
  dsimp only at hlegal ⊢
  cases hK : w.kind k with
  | none => exact .inl hends
  | some K =>
    rw [hK] at hlegal
    have hmon := w.implementation k K hK
    obtain ⟨hagree, -⟩ := message_agree hK hr.sound (hr.methodCalls k K hK) hlegal.1
      (a := { world := { obj := w.view k s.daemon } }) rfl rfl
    have hresult := hagree.result
    dsimp only at hresult ⊢
    rw [hresult, OwnerKind.dispatcher_eq]
    exact endingOf_survived fun e he => OwnerKind.dispatch_survived (hadded K hK)
      (OwnerKind.ownCalls K hmon).sends hmon
      { world := { obj := w.view k s.daemon } } rfl he

lemma poll_done {s : State σ} {k : ℕ} {c : Context} (hends : c.ends = .done) :
    ((w.task k).poll c s).1 = .done := by
  unfold task
  dsimp only
  cases w.kind k with
  | none => exact hends
  | some K => rfl

/-- The connection stays up, and a class that does not track owners throws nothing. -/
def Up (i : Input Context Message) : Prop := i.connected = true ∧ i.context.ends = .done

lemma steady_of_up {d₀ : Daemon σ} (h₀ : w.Initial d₀)
    (hadded : ∀ k K, w.kind k = some K → K.Added)
    {s : MessageLoop.State ℕ Context Message (State σ)} {k : ℕ} {i : Input Context Message}
    (hr : w.Run d₀ s) (hgoing : RoundRobin.Going s) (hlaw : w.Lawful s (k, i))
    (hup : Up i) : Steady w.task s (k, i) := by
  unfold Steady
  dsimp only
  cases hplace : (s.tasks k).place with
  | reading => exact hup.1
  | taking =>
    cases hq : (s.tasks k).queue with
    | nil => exact poll_done hup.2
    | cons m ms =>
      obtain ⟨es, hes⟩ := hr.reached h₀
      exact handle_keeps hes (hadded k) hup.2 (hlaw.handled hplace hq)
  | waiting => trivial
  | stopped => exact (hgoing k).1 hplace
  | ended => exact (hgoing k).2 hplace

/-- As long as the connections stay up, so many steps after any moment all that had come for an
interface by then has left its queue. -/
theorem all_served {d₀ : Daemon σ} (h₀ : w.Initial d₀)
    (hadded : ∀ k K, w.kind k = some K → K.Added) {ros : List ℕ}
    {is js : List (Input Context Message)} {l : MainLoop σ}
    (hl : l = Transition.run (w.mainStep ros) (.start d₀) is)
    (his : Transition.Along (w.mainStep ros) (AtTurn ros w.Lawful) (.start d₀) is)
    (hjs : Transition.Along (w.mainStep ros) (AtTurn ros fun s e => w.Lawful s e ∧ Up e.2) l js)
    (hgoing : RoundRobin.Going l.system)
    (hlen : 3 * ros.length + 2 * (l.waiting ros + RoundRobin.arrivals js) ≤ js.length)
    {k : ℕ} (hk : k ∈ ros) :
    let t := (Transition.run (w.mainStep ros) l js).system.tasks k
    (l.system.tasks k).came <+: t.left.map Prod.fst ∧
      (t.Complete → (l.system.tasks k).came <+: t.handled) := by
  intro t
  have hrecorded := w.recorded ros d₀ is
  have hrun := run_of_lawful his
  rw [← hl] at hrecorded hrun
  have hturn : l.turn < ros.length := by
    rw [hl]
    exact Transition.invariant_all (I := fun l : MainLoop σ => l.turn < ros.length)
      (List.length_pos_of_mem hk) (fun l i h => RoundRobin.turn_lt w.task i h) is
  have hsched := (RoundRobin.along_schedule l js).mpr hjs
  have hsteady := Transition.along_imp
    (I := fun s => w.Run d₀ s ∧ RoundRobin.Going s) (Q := Steady w.task) ⟨hrun, hgoing⟩
    (fun s e hs he hsteady => ⟨hs.1.step he.1, hs.2.step hsteady⟩)
    (fun s e hs he _ => steady_of_up h₀ hadded hs.1 hs.2 he.1 he.2) hsched hsched
  have hserved := RoundRobin.served hrecorded hturn
    ((RoundRobin.along_schedule l js).mp hsteady) hlen hk
  refine ⟨hserved, fun hcomplete => ?_⟩
  have hall : t.left.filter Prod.snd = t.left := List.filter_eq_self.mpr hcomplete
  show _ <+: (t.left.filter Prod.snd).map Prod.fst
  rw [hall]
  exact hserved

/-- With nothing waiting and nothing coming, a step is lawful and the next one like it. -/
lemma lawful_quiet {ros : List ℕ} {i : Input Context Message} (hcame : i.came = [])
    (hregisters : i.context.registers = []) (hup : Up i) (n : ℕ) {l : MainLoop σ}
    (hl : ∀ k, (l.system.tasks k).queue = []) :
    Transition.Along (w.mainStep ros) (AtTurn ros fun s e => w.Lawful s e ∧ Up e.2) l
      (List.replicate n i) := by
  induction n generalizing l with
  | zero => trivial
  | succ n ih =>
    refine ⟨fun k hk => ⟨?_, hup⟩, ih fun k => ?_⟩
    · unfold Lawful
      dsimp only
      -- the only step that does anything is a poll, and nothing is registered in it
      rw [hl k]
      cases (l.system.tasks k).place with
      | taking =>
        unfold eventsOf Context.events
        dsimp only
        rw [hregisters]
        cases w.kind k <;> trivial
      | reading => trivial
      | waiting => trivial
      | stopped => trivial
      | ended => trivial
    · cases hk : ros[l.turn]? with
      | none =>
        rw [RoundRobin.system_step_none hk]
        exact hl k
      | some j =>
        rw [RoundRobin.system_step_some hk]
        exact List.suffix_nil.mp (hl k ▸ MessageLoop.queue_step hcame k)

lemma added_pair (k : ℕ) (K : OwnerKind) (hK : pair.kind k = some K) : K.Added := by
  refine OwnerKind.added_of_nil fun cfg hcfg => ?_
  unfold pair at hK
  dsimp only at hK
  subst hcfg
  split at hK
  · cases hK
    rfl
  · split at hK <;> cases hK

/-- The screensaver's interface has read the call. -/
structure PairTaken (l : MainLoop OwnerFields) : Prop where
  turn : l.turn = 0
  tasks : l.system.tasks = Function.update (fun _ => {}) 0
    { queue := [pairCall], place := .taking, came := [pairCall] }
  shared : l.system.shared = { daemon := pairDaemon }

section PairTaken

variable {l : MainLoop OwnerFields} (h : PairTaken l)
include h

lemma PairTaken.other {k : ℕ} (hk : k ≠ 0) : l.system.tasks k = {} := by
  rw [h.tasks, Function.update_of_ne hk]

lemma PairTaken.screensaver : l.system.tasks 0 =
    { queue := [pairCall], place := .taking, came := [pairCall] } := by
  rw [h.tasks, Function.update_self]

lemma PairTaken.going : RoundRobin.Going l.system := by
  intro k
  by_cases hk : k = 0
  · rw [hk, h.screensaver]
    exact ⟨nofun, nofun⟩
  · rw [h.other hk]
    exact ⟨nofun, nofun⟩

/-- The call is handled in the first step, and nothing is left for the others. -/
lemma PairTaken.lawful {i : Input Context Message} (hcame : i.came = [])
    (hcontext : i.context = { now := 1000 }) (hup : Up i) (n : ℕ) :
    Transition.Along (pair.mainStep [0, 1])
      (AtTurn [0, 1] fun s e => pair.Lawful s e ∧ Up e.2) l (List.replicate n i) := by
  have hturn : [0, 1][l.turn]? = some 0 := by
    rw [h.turn]
    rfl
  have hplace : (l.system.tasks 0).place = .taking := by rw [h.screensaver]
  have hqueue : (l.system.tasks 0).queue = [pairCall] := by rw [h.screensaver]
  cases n with
  | zero => trivial
  | succ n =>
    refine ⟨fun k hk => ⟨?_, hup⟩, lawful_quiet hcame (by rw [hcontext]) hup n fun k => ?_⟩
    · obtain rfl : 0 = k := Option.some.inj (hturn.symm.trans hk)
      unfold Lawful
      dsimp only
      rw [hplace, hqueue, h.shared, hcontext]
      exact pairEvents_legal
    · rw [RoundRobin.system_step_some hturn]
      by_cases hk : k = 0
      · rw [hk, MessageLoop.step_handles hplace hqueue]
        dsimp only
        rw [Function.update_self]
        refine List.suffix_nil.mp ((MessageLoop.Task.queue_finish_suffix ..).trans ?_)
        show (l.system.tasks 0).queue.tail ++ i.came <:+ []
        rw [hqueue, hcame]
        exact List.suffix_rfl
      · rw [MessageLoop.tasks_step_of_ne hk, h.other hk]

lemma PairTaken.waiting : l.waiting [0, 1] = 1 := by
  unfold RoundRobin.Loop.waiting
  rw [show [0, 1].toFinset = {0, 1} from rfl, Finset.sum_pair (by decide), h.screensaver,
    h.other (by decide)]
  rfl

end PairTaken

/-- The call has left the screensaver's queue after eight steps. -/
theorem all_served_pair :
    [pairCall] <+: ((Transition.run (pair.mainStep [0, 1])
      (Transition.run (pair.mainStep [0, 1]) (.start pairDaemon)
        [{ came := [pairCall], context := { now := 1000 } }])
      (List.replicate 8 { context := { now := 1000 } })).system.tasks 0).left.map Prod.fst := by
  have his : Transition.Along (pair.mainStep [0, 1]) (AtTurn [0, 1] pair.Lawful) (.start pairDaemon)
      [{ came := [pairCall], context := { now := 1000 } }] := by
    refine ⟨fun k hk => ?_, trivial⟩
    obtain rfl : 0 = k := Option.some.inj hk
    trivial
  have htaken : PairTaken (Transition.run (pair.mainStep [0, 1]) (.start pairDaemon)
      [{ came := [pairCall], context := { now := 1000 } }]) := ⟨rfl, rfl, rfl⟩
  generalize hl : Transition.run (pair.mainStep [0, 1]) (.start pairDaemon)
      [{ came := [pairCall], context := { now := 1000 } }] = l at htaken ⊢
  have hjs := htaken.lawful (i := { context := { now := 1000 } }) rfl rfl ⟨rfl, rfl⟩ 8
  have hlen : 3 * [0, 1].length + 2 * (l.waiting [0, 1] + RoundRobin.arrivals (List.replicate 8
      ({ context := { now := 1000 } } : Input Context Message))) ≤ 8 := by
    rw [htaken.waiting]
    exact le_refl 8
  have hserved := (all_served pair_initial added_pair hl.symm his hjs htaken.going hlen
    List.mem_cons_self).1
  rw [htaken.screensaver] at hserved
  exact hserved

end Wiring

end UnifiedInhibit
