import UnifiedInhibit.Lib.RoundRobin
import UnifiedInhibit.WiredDaemon

/-!
# The main loop

`main` resumes the coroutines that the interfaces' `start` returned, one after the other. At a D-Bus
interface `DBusInhibitInterface::start` reads for 40 ms, takes what has come off the connection
message by message, calls `poll` and waits for its next turn. The interfaces are the tasks of a
message loop over the daemon; what they do is a run of the daemon, so that what holds for all its
runs holds for the main loop (`Wiring.main_loop_runs`).

A coroutine that could not reconnect has ended, and its frame is gone (`final_suspend` is
`suspend_never`). `main` resumes it all the same when its turn comes round, and that is the end of
the loop. The exceptions of `myExcept.hpp` inherit `std::exception` privately, so that
`catch (std::exception &e)` does not catch them and they end the daemon in `std::terminate`.

`readWriteDispatch` lets libdbus dispatch a message that is already waiting. The daemon registers no
object path and no filter with it, so such a message is lost for the interface.
-/

namespace UnifiedInhibit

open DBus (Message)
open MessageLoop (Ending Handler Input Act Task)
open RoundRobin (AtTurn)

/-- `DBus::DisconnectedError` -/
def DBus.disconnected : Exn := .dbus "org.freedesktop.DBus.Error.Disconnected"

/-- The `catch` clauses of `start`. The inner loop goes on after an `InvalidArgsError`, and nothing
after a call that does not return. -/
def endingOf : Except Exn Unit → Ending
  | .ok () => .done
  | .error e =>
    match e with
    | .unsupportedType | .noResponse | .notFound => .ended
    | .hang => .ended
    | .dbus _ | .std _ =>
      if e = DBus.invalidArgs then .done
      else if e = DBus.disconnected then .lost
      else .thrown

namespace Wiring

variable {σ : Type}

/-- What a watcher thread or another class has queued for registration. -/
inductive Registration where
  | inhibit (i : Inhibit)
  | unInhibit (id : InhibitID)

def Registration.event (now k : ℕ) : Registration → Event
  | .inhibit i => .registerInhibit now k i
  | .unInhibit id => .registerUnInhibit now k id

/-- What the surroundings supply in a step: the time, what `std::remove_if` leaves behind, and at an
interface that does not track owners what it registers and how this ends. -/
structure Context where
  now : ℕ
  tail : List InhibitID := []
  registers : List Registration := []
  ends : Ending := .done

def Context.events (k : ℕ) (c : Context) : List Event :=
  c.registers.map (Registration.event c.now k)

/-- The part of `start` between two calls on the connection. The owner-tracking classes have an
empty `poll`. -/
def task (w : Wiring σ) (k : ℕ) : Handler Context Message (State σ) where
  handle c msg s :=
    match w.kind k with
    | none => (c.ends, Transition.run w.step s (c.events k))
    | some K =>
      (endingOf ((w.dispatcher k K c.now c.tail).dispatch msg
        { methodCalls := s.methodCalls k, world := s.daemon }).1,
        w.step s (.message k c.now c.tail msg))
  poll c s :=
    match w.kind k with
    | none => (c.ends, Transition.run w.step s (c.events k))
    | some _ => (.done, s)

/-- The events of an act. -/
def eventsOf (w : Wiring σ) : Act ℕ Context Message → List Event
  | .handled k c msg =>
    match w.kind k with
    | none => c.events k
    | some _ => [.message k c.now c.tail msg]
  | .polled k c =>
    match w.kind k with
    | none => c.events k
    | some _ => []

/-- The coroutines with the daemon, and the place of the one whose turn it is. -/
abbrev MainLoop (σ : Type) := RoundRobin.Loop ℕ Context Message (State σ)

/-- `for (auto& inhibitor : inhibitors) ros.push_back(inhibitor->start())`: nothing has come yet,
and each coroutine starts to read in its first turn. -/
def MainLoop.start (d : Daemon σ) : MainLoop σ where
  system := { tasks := fun _ => {}, shared := { daemon := d } }

/-- `while(1) for (auto& r : ros) r.handle.resume()`, one step of the coroutine whose turn it is. It
keeps its turn up to its `co_await`. -/
abbrev mainStep (w : Wiring σ) (ros : List ℕ) :
    MainLoop σ → Input Context Message → MainLoop σ :=
  RoundRobin.step w.task ros

/-- The events of the daemon so far. -/
def MainLoop.events (w : Wiring σ) (l : MainLoop σ) : List Event :=
  l.system.acts.flatMap w.eventsOf

/-! ## The main loop is a run of the daemon -/

section Runs

variable (w : Wiring σ)

lemma act_eq (s : State σ) (a : Act ℕ Context Message) :
    MessageLoop.act w.task s a = Transition.run w.step s (w.eventsOf a) := by
  cases a with
  | handled k c msg =>
    unfold MessageLoop.act task eventsOf
    dsimp only
    cases w.kind k <;> rfl
  | polled k c =>
    unfold MessageLoop.act task eventsOf
    dsimp only
    cases w.kind k <;> rfl

lemma recorded (ros : List ℕ) (d₀ : Daemon σ) (is : List (Input Context Message)) :
    MessageLoop.Recorded w.task { daemon := d₀ }
      (Transition.run (w.mainStep ros) (.start d₀) is).system := by
  exact RoundRobin.recorded_run ros (MessageLoop.Recorded.initial _) is

end Runs

/-! ## Legal runs -/

variable {w : Wiring σ}

/-- What is performed in a step is legal. -/
def Lawful (w : Wiring σ) (s : MessageLoop.State ℕ Context Message (State σ))
    (e : ℕ × Input Context Message) : Prop :=
  let (k, i) := e
  let t := s.tasks k
  match t.place, t.queue with
  | .taking, [] => Transition.Along w.step w.Legal s.shared (w.eventsOf (.polled k i.context))
  | .taking, m :: _ =>
    Transition.Along w.step w.Legal s.shared (w.eventsOf (.handled k i.context m))
  | _, _ => True

/-- The daemon has got here by a legal run. -/
structure Run (w : Wiring σ) (d₀ : Daemon σ)
    (s : MessageLoop.State ℕ Context Message (State σ)) : Prop where
  legal : Transition.Along w.step w.Legal { daemon := d₀ } (s.acts.flatMap w.eventsOf)
  shared : s.shared = Transition.run w.step { daemon := d₀ } (s.acts.flatMap w.eventsOf)

section Steps

variable {s s' : MessageLoop.State ℕ Context Message (State σ)} {k : ℕ}
  {i : Input Context Message} {d₀ : Daemon σ}

lemma Run.reached (h₀ : w.Initial d₀) (h : w.Run d₀ s) : ∃ es, w.Reached es s.shared := by
  rw [h.shared]
  exact ⟨_, Wiring.reached h₀ h.legal⟩

lemma Run.idle (h : w.Run d₀ s) (hsame : s'.shared = s.shared ∧ s'.acts = s.acts) :
    w.Run d₀ s' := by
  constructor <;> rw [hsame.2]
  · exact h.legal
  · rw [hsame.1]
    exact h.shared

/-- An act whose events are legal. -/
lemma Run.act (h : w.Run d₀ s) {a : Act ℕ Context Message}
    (ha : Transition.Along w.step w.Legal s.shared (w.eventsOf a))
    (hshared : s'.shared = MessageLoop.act w.task s.shared a) (hacts : s'.acts = s.acts ++ [a]) :
    w.Run d₀ s' := by
  rw [h.shared] at ha
  constructor <;> rw [hacts, List.flatMap_append, List.flatMap_singleton]
  · exact Transition.along_append.mpr ⟨h.legal, ha⟩
  · rw [hshared, act_eq, h.shared, Transition.run_append]

lemma Lawful.handled (h : w.Lawful s (k, i)) (hplace : (s.tasks k).place = .taking) {m : Message}
    {ms : List Message} (hq : (s.tasks k).queue = m :: ms) :
    Transition.Along w.step w.Legal s.shared (w.eventsOf (.handled k i.context m)) := by
  unfold Lawful at h
  dsimp only at h
  rw [hplace, hq] at h
  exact h

lemma Lawful.polled (h : w.Lawful s (k, i)) (hplace : (s.tasks k).place = .taking)
    (hq : (s.tasks k).queue = []) :
    Transition.Along w.step w.Legal s.shared (w.eventsOf (.polled k i.context)) := by
  unfold Lawful at h
  dsimp only at h
  rw [hplace, hq] at h
  exact h

lemma Run.step (hr : w.Run d₀ s) (h : w.Lawful s (k, i)) :
    w.Run d₀ (MessageLoop.step w.task s (k, i)) := by
  cases hplace : (s.tasks k).place with
  | reading => exact hr.idle (MessageLoop.shared_reading hplace)
  | taking =>
    cases hq : (s.tasks k).queue with
    | nil =>
      rw [MessageLoop.step_polls hplace hq]
      exact hr.act (h.polled hplace hq) rfl rfl
    | cons m ms =>
      rw [MessageLoop.step_handles hplace hq]
      exact hr.act (h.handled hplace hq) rfl rfl
  | waiting => exact hr.idle (MessageLoop.shared_waiting hplace)
  | stopped => exact hr.idle (by rw [MessageLoop.step_stopped hplace]; exact ⟨rfl, rfl⟩)
  | ended => exact hr.idle (by rw [MessageLoop.step_ended hplace]; exact ⟨rfl, rfl⟩)

end Steps

/-- A lawful run of the main loop is a legal run of the daemon. -/
lemma run_of_lawful {d₀ : Daemon σ} {ros : List ℕ} {is : List (Input Context Message)}
    (his : Transition.Along (w.mainStep ros) (AtTurn ros w.Lawful) (.start d₀) is) :
    w.Run d₀ (Transition.run (w.mainStep ros) (.start d₀) is).system := by
  rw [RoundRobin.system_run]
  exact Transition.invariant (I := w.Run d₀) ⟨trivial, rfl⟩ (fun s e hs he => hs.step he)
    ((RoundRobin.along_schedule (MainLoop.start d₀) is).mpr his)

/-- The screensaver's client sends its `Inhibit`. -/
def pairCall : Message :=
  OwnerKind.exampleScreenSaver.inhibitCall ":1.1" [.string (lit "a"), .string (lit "b")]

def pairDaemon : Daemon OwnerFields :=
  { inhibitors := [0, 1], object := fun _ => { sub := {} } }

/-- A client's calls come at once, and none later. -/
def pairInputs (ms : List Message) : List (Input Context Message) :=
  [{ came := ms, context := { now := 1000 } }, { context := { now := 1000 } }]

end Wiring

end UnifiedInhibit
