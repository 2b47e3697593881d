import UnifiedInhibit.Lib.Run

/-!
# Tasks that take messages off a queue

Several tasks share a state `S`. Each reads what has come for it, takes the messages off its queue
one after the other and handles them, and polls and waits for its next turn when none is left. A
step of a task goes up to its next call on the connection.

An exception sends the task back to reading. A task that reads although messages are waiting misses
the first of them, and one that loses its connection misses all that are waiting. Nothing else is
missed, and what is not is handled once and in order (`Task.Accounted`, `missed_nothing_iff`).
-/

namespace MessageLoop

/-- How the handling of a message ends: the next message follows, an exception sends the task back
to reading, the connection is lost, or nothing goes on any more. -/
inductive Ending where
  | done
  | thrown
  | lost
  | ended
deriving DecidableEq

/-- What a task does with the shared state. `X` is what its surroundings supply. -/
structure Handler (X M S : Type) where
  handle : X → M → S → Ending × S
  poll : X → S → Ending × S

/-- Where a task goes on, if it has neither stopped nor ended with all others. -/
inductive Place where
  | reading
  | taking
  | waiting
  | stopped
  | ended
deriving DecidableEq

/-- A task. `came` and `left` record all that has come and what has left the queue, with whether it
was handled. -/
structure Task (M : Type) where
  queue : List M := []
  place : Place := .reading
  came : List M := []
  left : List (M × Bool) := []

/-- What happens around a step. -/
structure Input (X M : Type) where
  came : List M := []
  connected : Bool := true
  reconnects : Bool := true
  context : X

/-- What a task has done with the shared state. -/
inductive Act (ι X M : Type) where
  | handled (k : ι) (x : X) (m : M)
  | polled (k : ι) (x : X)

namespace Task

variable {M : Type}

def arrive (ms : List M) (t : Task M) : Task M :=
  { t with queue := t.queue ++ ms, came := t.came ++ ms }

/-- The first waiting message, if there is one, leaves the queue. -/
def pass (handled : Bool) (t : Task M) : Task M :=
  { t with queue := t.queue.tail, left := t.left ++ (t.queue.head?.map (·, handled)).toList }

/-- The connection is lost, with all that was waiting; the task goes on with a new one. -/
def reconnect (reconnects : Bool) (t : Task M) : Task M :=
  { t with queue := []
           place := if reconnects then .reading else .stopped
           left := t.left ++ t.queue.map (·, false) }

/-- `next` is where the task goes on. -/
def finish (e : Ending) (next : Place) (reconnects : Bool) (t : Task M) : Task M :=
  match e with
  | .done => { t with place := next }
  | .thrown => { t with place := .reading }
  | .lost => t.reconnect reconnects
  | .ended => { t with place := .ended }

/-- What came is what has left the queue and what is waiting. -/
def Accounted (t : Task M) : Prop := t.came = t.left.map Prod.fst ++ t.queue

/-- What was handled. -/
def handled (t : Task M) : List M := (t.left.filter Prod.snd).map Prod.fst

/-- Nothing was missed. -/
def Complete (t : Task M) : Prop := ∀ p ∈ t.left, p.2 = true

section Lemmas

variable {t : Task M}

lemma Accounted.arrive (h : t.Accounted) (ms : List M) : (t.arrive ms).Accounted := by
  unfold Accounted Task.arrive at *
  dsimp only
  rw [h, List.append_assoc]

lemma Accounted.pass (h : t.Accounted) (b : Bool) : (t.pass b).Accounted := by
  unfold Accounted Task.pass at *
  dsimp only
  rw [h]
  cases t.queue with
  | nil => simp
  | cons m ms => simp

lemma Accounted.reconnect (h : t.Accounted) (b : Bool) : (t.reconnect b).Accounted := by
  unfold Accounted Task.reconnect at *
  dsimp only
  rw [h, List.map_append, List.map_map]
  simp [Function.comp_def]

lemma Accounted.finish (h : t.Accounted) (e : Ending) (next : Place) (b : Bool) :
    (t.finish e next b).Accounted := by
  cases e with
  | done => exact h
  | thrown => exact h
  | lost => exact h.reconnect b
  | ended => exact h

/-- What was handled is among what came, in the same order. -/
lemma Accounted.sublist (h : t.Accounted) : t.handled.Sublist t.came := by
  rw [h]
  exact (List.filter_sublist.map _).trans (List.sublist_append_left _ _)

/-- If nothing was missed, all that came was handled or is waiting. -/
lemma Accounted.complete_iff (h : t.Accounted) : t.Complete ↔ t.came = t.handled ++ t.queue := by
  rw [h]
  constructor
  · intro hall
    unfold handled
    rw [List.filter_eq_self.mpr hall]
  · intro heq
    have hmap : t.left.map Prod.fst = t.handled := List.append_cancel_right heq
    have hlen := congrArg List.length hmap
    unfold handled at hlen
    rw [List.length_map, List.length_map] at hlen
    exact List.filter_eq_self.mp (List.filter_sublist.eq_of_length hlen.symm)

@[simp] lemma handled_arrive (t : Task M) (ms : List M) : (t.arrive ms).handled = t.handled := rfl

lemma handled_pass_true {m : M} {ms : List M} (hq : t.queue = m :: ms) :
    (t.pass true).handled = t.handled ++ [m] := by
  unfold handled pass
  rw [hq]
  simp

lemma handled_pass_false (t : Task M) : (t.pass false).handled = t.handled := by
  unfold handled pass
  cases t.queue <;> simp

lemma handled_reconnect (t : Task M) (b : Bool) : (t.reconnect b).handled = t.handled := by
  unfold handled reconnect
  dsimp only
  have hnone : (t.queue.map (fun m => (m, false))).filter Prod.snd = [] := by
    rw [List.filter_eq_nil_iff]
    intro p hp
    obtain ⟨m, -, rfl⟩ := List.mem_map.mp hp
    exact Bool.false_ne_true
  rw [List.filter_append, hnone, List.append_nil]

lemma handled_finish (t : Task M) (e : Ending) (next : Place) (b : Bool) :
    (t.finish e next b).handled = t.handled := by
  cases e with
  | done => rfl
  | thrown => rfl
  | lost => exact t.handled_reconnect b
  | ended => rfl

end Lemmas

end Task

/-! ## Steps -/

/-- The tasks `ι`, the state they share, and what they have done with it. -/
structure State (ι X M S : Type) where
  tasks : ι → Task M
  shared : S
  acts : List (Act ι X M) := []

variable {ι X M S : Type} [DecidableEq ι] (v : ι → Handler X M S)

/-- The next step of the task `k`. One that has stopped makes none; what becomes of the others then
is up to those who schedule them. -/
def step (s : State ι X M S) (e : ι × Input X M) : State ι X M S :=
  let (k, i) := e
  let t := s.tasks k
  match t.place with
  | .reading =>
    let t := if i.connected then { (t.pass false).arrive i.came with place := .taking }
      else t.reconnect i.reconnects
    { s with tasks := Function.update s.tasks k t }
  | .taking =>
    match t.queue with
    | [] =>
      let r := (v k).poll i.context s.shared
      { tasks := Function.update s.tasks k ((t.arrive i.came).finish r.1 .waiting i.reconnects)
        shared := r.2
        acts := s.acts ++ [.polled k i.context] }
    | m :: _ =>
      let r := (v k).handle i.context m s.shared
      { tasks := Function.update s.tasks k
          (((t.pass true).arrive i.came).finish r.1 .taking i.reconnects)
        shared := r.2
        acts := s.acts ++ [.handled k i.context m] }
  | .waiting => { s with tasks := Function.update s.tasks k { t with place := .reading } }
  | .stopped => s
  | .ended => s

/-- An act on the shared state. -/
def act (x : S) : Act ι X M → S
  | .handled k c m => ((v k).handle c m x).2
  | .polled k c => ((v k).poll c x).2

/-- What an act has handled at `k`. -/
def Act.handledAt (k : ι) : Act ι X M → Option M
  | .handled j _ m => if j = k then some m else none
  | .polled _ _ => none

/-! ### What a step does -/

section Steps

variable {v} {s : State ι X M S} {k : ι} {i : Input X M}

/-- Only the task whose step it is changes. -/
lemma tasks_step_of_ne {j : ι} (hj : j ≠ k) : (step v s (k, i)).tasks j = s.tasks j := by
  unfold step
  dsimp only
  cases (s.tasks k).place with
  | reading => exact Function.update_of_ne hj _ _
  | taking => cases (s.tasks k).queue <;> exact Function.update_of_ne hj _ _
  | waiting => exact Function.update_of_ne hj _ _
  | stopped => rfl
  | ended => rfl

lemma tasks_reading (h : (s.tasks k).place = .reading) :
    (step v s (k, i)).tasks k =
      if i.connected then { ((s.tasks k).pass false).arrive i.came with place := .taking }
      else (s.tasks k).reconnect i.reconnects := by
  unfold step
  dsimp only
  rw [h]
  exact Function.update_self ..

lemma shared_reading (h : (s.tasks k).place = .reading) :
    (step v s (k, i)).shared = s.shared ∧ (step v s (k, i)).acts = s.acts := by
  unfold step
  dsimp only
  rw [h]
  exact ⟨rfl, rfl⟩

lemma step_polls (h : (s.tasks k).place = .taking) (hq : (s.tasks k).queue = []) :
    step v s (k, i) =
      { tasks := Function.update s.tasks k (((s.tasks k).arrive i.came).finish
          ((v k).poll i.context s.shared).1 .waiting i.reconnects)
        shared := ((v k).poll i.context s.shared).2
        acts := s.acts ++ [.polled k i.context] } := by
  unfold step
  dsimp only
  rw [h, hq]

lemma step_handles (h : (s.tasks k).place = .taking) {m : M} {ms : List M}
    (hq : (s.tasks k).queue = m :: ms) :
    step v s (k, i) =
      { tasks := Function.update s.tasks k ((((s.tasks k).pass true).arrive i.came).finish
          ((v k).handle i.context m s.shared).1 .taking i.reconnects)
        shared := ((v k).handle i.context m s.shared).2
        acts := s.acts ++ [.handled k i.context m] } := by
  unfold step
  dsimp only
  rw [h, hq]

lemma tasks_waiting (h : (s.tasks k).place = .waiting) :
    (step v s (k, i)).tasks k = { s.tasks k with place := .reading } := by
  unfold step
  dsimp only
  rw [h]
  exact Function.update_self ..

lemma shared_waiting (h : (s.tasks k).place = .waiting) :
    (step v s (k, i)).shared = s.shared ∧ (step v s (k, i)).acts = s.acts := by
  unfold step
  dsimp only
  rw [h]
  exact ⟨rfl, rfl⟩

lemma step_stopped (h : (s.tasks k).place = .stopped) : step v s (k, i) = s := by
  unfold step
  dsimp only
  rw [h]

lemma step_ended (h : (s.tasks k).place = .ended) : step v s (k, i) = s := by
  unfold step
  dsimp only
  rw [h]

end Steps

/-! ### Records -/

/-- The records are right: each task accounts for all that came, what it handled are its acts, and
the acts make up the shared state. -/
structure Recorded (x₀ : S) (s : State ι X M S) : Prop where
  accounted : ∀ k, (s.tasks k).Accounted
  handled : ∀ k, (s.tasks k).handled = s.acts.filterMap (Act.handledAt k)
  shared : s.shared = Transition.run (act v) x₀ s.acts

section Runs

variable {v} {x₀ : S} {s : State ι X M S} {k : ι} {i : Input X M}

/-- A step without an act. -/
lemma Recorded.idle {s' : State ι X M S} (h : Recorded v x₀ s)
    (hothers : ∀ j ≠ k, s'.tasks j = s.tasks j) (haccounted : (s'.tasks k).Accounted)
    (hhandled : (s'.tasks k).handled = (s.tasks k).handled)
    (hshared : s'.shared = s.shared ∧ s'.acts = s.acts) : Recorded v x₀ s' where
  accounted j := by
    by_cases hj : j = k
    · rw [hj]
      exact haccounted
    · rw [hothers j hj]
      exact h.accounted j
  handled j := by
    rw [hshared.2, ← h.handled j]
    by_cases hj : j = k
    · rw [hj]
      exact hhandled
    · rw [hothers j hj]
  shared := by rw [hshared.1, hshared.2, h.shared]

/-- A step with an act. -/
lemma Recorded.acts {t : Task M} {a : Act ι X M} (h : Recorded v x₀ s)
    (haccounted : t.Accounted) (hhandled : t.handled = (s.tasks k).handled ++
      (a.handledAt k).toList) (hothers : ∀ j ≠ k, a.handledAt j = none) :
    Recorded v x₀ { tasks := Function.update s.tasks k t
                    shared := act v s.shared a
                    acts := s.acts ++ [a] } where
  accounted j := by
    by_cases hj : j = k
    · subst hj
      dsimp only
      rw [Function.update_self]
      exact haccounted
    · dsimp only
      rw [Function.update_of_ne hj]
      exact h.accounted j
  handled j := by
    dsimp only
    rw [List.filterMap_append, ← h.handled j]
    by_cases hj : j = k
    · subst hj
      rw [Function.update_self, hhandled]
      cases ha : a.handledAt j <;> simp [ha]
    · rw [Function.update_of_ne hj]
      simp [hothers j hj]
  shared := by
    dsimp only
    rw [Transition.run_snoc, ← h.shared]

lemma Recorded.step (h : Recorded v x₀ s) : Recorded v x₀ (step v s (k, i)) := by
  have hk := h.accounted k
  cases hplace : (s.tasks k).place with
  | reading =>
    refine h.idle (fun j hj => tasks_step_of_ne hj) ?_ ?_ (shared_reading hplace)
    · rw [tasks_reading hplace]
      split
      · exact (hk.pass false).arrive i.came
      · exact hk.reconnect i.reconnects
    · rw [tasks_reading hplace]
      split
      · exact Task.handled_pass_false _
      · exact Task.handled_reconnect _ _
  | taking =>
    cases hq : (s.tasks k).queue with
    | nil =>
      rw [step_polls hplace hq]
      refine h.acts (a := .polled k i.context) ((hk.arrive i.came).finish _ _ _) ?_ fun _ _ => rfl
      rw [Task.handled_finish, Task.handled_arrive]
      exact (List.append_nil _).symm
    | cons m ms =>
      rw [step_handles hplace hq]
      -- what leaves the queue is what is handled
      refine h.acts (a := .handled k i.context m) (((hk.pass true).arrive i.came).finish _ _ _) ?_
        fun j hj => if_neg hj.symm
      rw [Task.handled_finish, Task.handled_arrive, Task.handled_pass_true hq]
      unfold Act.handledAt
      dsimp only
      rw [if_pos rfl]
      rfl
  | waiting =>
    refine h.idle (fun j hj => tasks_step_of_ne hj) ?_ ?_ (shared_waiting hplace)
    · rw [tasks_waiting hplace]
      exact hk
    · rw [tasks_waiting hplace]
      rfl
  | stopped =>
    rw [step_stopped hplace]
    exact h
  | ended =>
    rw [step_ended hplace]
    exact h

omit k i s in
/-- At the start nothing has come. -/
lemma Recorded.initial (x₀ : S) :
    Recorded v x₀ ({ tasks := fun _ => {}, shared := x₀ } : State ι X M S) :=
  ⟨fun _ => rfl, fun _ => rfl, rfl⟩

/-- In every run the records are right. -/
theorem Recorded.run (h : Recorded v x₀ s) (es : List (ι × Input X M)) :
    Recorded v x₀ (Transition.run (MessageLoop.step v) s es) :=
  Transition.invariant_all h (fun _ _ h => h.step) es

/-- What has left a queue stays on record. -/
lemma left_step (j : ι) : (s.tasks j).left <+: ((step v s (k, i)).tasks j).left := by
  have hfinish : ∀ (t : Task M) (e : Ending) (next : Place) (b : Bool),
      t.left <+: (t.finish e next b).left := by
    intro t e next b
    cases e with
    | done => exact List.prefix_rfl
    | thrown => exact List.prefix_rfl
    | lost => exact List.prefix_append _ _
    | ended => exact List.prefix_rfl
  by_cases hj : j = k
  · subst hj
    cases hplace : (s.tasks j).place with
    | reading =>
      rw [tasks_reading hplace]
      split <;> exact List.prefix_append _ _
    | taking =>
      cases hq : (s.tasks j).queue with
      | nil =>
        rw [step_polls hplace hq]
        dsimp only
        rw [Function.update_self]
        exact hfinish ((s.tasks j).arrive i.came) _ _ _
      | cons m ms =>
        rw [step_handles hplace hq]
        dsimp only
        rw [Function.update_self]
        exact (List.prefix_append _ _).trans
          (hfinish (((s.tasks j).pass true).arrive i.came) _ _ _)
    | waiting => rw [tasks_waiting hplace]
    | stopped => rw [step_stopped hplace]
    | ended => rw [step_ended hplace]
  · rw [tasks_step_of_ne hj]

/-- What comes in a step of a task is on record, unless the task does not look for it. -/
lemma came_step_cases : ((step v s (k, i)).tasks k).came = (s.tasks k).came ++ i.came ∨
    ((step v s (k, i)).tasks k).came = (s.tasks k).came := by
  have hfinish : ∀ (t : Task M) (e : Ending) (next : Place) (b : Bool),
      (t.finish e next b).came = t.came := by
    intro t e next b
    cases e <;> rfl
  cases hplace : (s.tasks k).place with
  | reading =>
    rw [tasks_reading hplace]
    split
    · exact .inl rfl
    · exact .inr rfl
  | taking =>
    cases hq : (s.tasks k).queue with
    | nil =>
      rw [step_polls hplace hq]
      dsimp only
      rw [Function.update_self, hfinish]
      exact .inl rfl
    | cons m ms =>
      rw [step_handles hplace hq]
      dsimp only
      rw [Function.update_self, hfinish]
      exact .inl rfl
  | waiting =>
    rw [tasks_waiting hplace]
    exact .inr rfl
  | stopped =>
    rw [step_stopped hplace]
    exact .inr rfl
  | ended =>
    rw [step_ended hplace]
    exact .inr rfl

/-- What has come stays on record as well. -/
lemma came_step (j : ι) : (s.tasks j).came <+: ((step v s (k, i)).tasks j).came := by
  by_cases hj : j = k
  · subst hj
    have hcases : ((step v s (j, i)).tasks j).came = (s.tasks j).came ++ i.came ∨
        ((step v s (j, i)).tasks j).came = (s.tasks j).came := came_step_cases
    rcases hcases with heq | heq <;> rw [heq]
    exact List.prefix_append _ _
  · rw [tasks_step_of_ne hj]

/-- What comes for `k` in a run. -/
def arrivals (k : ι) (es : List (ι × Input X M)) : List M :=
  (es.filter fun e => e.1 = k).flatMap fun e => e.2.came

omit [DecidableEq ι] in
lemma Task.queue_finish_suffix (t : Task M) (e : Ending) (next : Place) (b : Bool) :
    (t.finish e next b).queue <:+ t.queue := by
  cases e with
  | done => exact List.suffix_rfl
  | thrown => exact List.suffix_rfl
  | lost => exact List.nil_suffix
  | ended => exact List.suffix_rfl

/-- Queues grow by what comes only. -/
lemma queue_step (hcame : i.came = []) (j : ι) :
    ((step v s (k, i)).tasks j).queue <:+ (s.tasks j).queue := by
  have harrive : ∀ t : Task M, (t.arrive i.came).queue = t.queue := by
    intro t
    show t.queue ++ i.came = t.queue
    rw [hcame, List.append_nil]
  by_cases hj : j = k
  · subst hj
    cases hplace : (s.tasks j).place with
    | reading =>
      rw [tasks_reading hplace]
      split
      · show (((s.tasks j).pass false).arrive i.came).queue <:+ _
        rw [harrive]
        exact List.tail_suffix _
      · exact List.nil_suffix
    | taking =>
      cases hq : (s.tasks j).queue with
      | nil =>
        rw [step_polls hplace hq]
        dsimp only
        rw [Function.update_self, ← hq, ← harrive (s.tasks j)]
        exact Task.queue_finish_suffix ..
      | cons m ms =>
        rw [step_handles hplace hq]
        dsimp only
        rw [Function.update_self, ← hq]
        refine (Task.queue_finish_suffix ..).trans ?_
        -- the first message leaves the queue
        rw [harrive]
        exact List.tail_suffix _
    | waiting => rw [tasks_waiting hplace]
    | stopped => rw [step_stopped hplace]
    | ended => rw [step_ended hplace]
  · rw [tasks_step_of_ne hj]

/-! ### What is missed -/

/-- The task keeps what is waiting: it does not read with messages waiting, nor lose them with its
connection. -/
def Keeps (v : ι → Handler X M S) (s : State ι X M S) (e : ι × Input X M) : Prop :=
  let (k, i) := e
  let t := s.tasks k
  match t.place, t.queue with
  | .reading, waiting => waiting = []
  | .taking, [] => ((v k).poll i.context s.shared).1 = .lost → i.came = []
  | .taking, m :: ms => ((v k).handle i.context m s.shared).1 = .lost → ms ++ i.came = []
  | .waiting, _ => True
  | .stopped, _ => True
  | .ended, _ => True

lemma Task.complete_arrive {t : Task M} (ms : List M) : (t.arrive ms).Complete ↔ t.Complete :=
  Iff.rfl

lemma Task.complete_pass_true {t : Task M} : (t.pass true).Complete ↔ t.Complete := by
  unfold Task.Complete Task.pass
  cases t.queue with
  | nil => simp
  | cons m ms => simp [or_imp, forall_and]

lemma Task.complete_pass_false {t : Task M} :
    (t.pass false).Complete ↔ t.Complete ∧ t.queue = [] := by
  unfold Task.Complete Task.pass
  cases t.queue with
  | nil => simp
  | cons m ms => simp [or_imp, forall_and]

lemma Task.complete_reconnect {t : Task M} (b : Bool) :
    (t.reconnect b).Complete ↔ t.Complete ∧ t.queue = [] := by
  unfold Task.Complete Task.reconnect
  cases t.queue with
  | nil => simp
  | cons m ms => simp [or_imp, forall_and]

lemma Task.complete_finish {t : Task M} (e : Ending) (next : Place) (b : Bool) :
    (t.finish e next b).Complete ↔ t.Complete ∧ (e = .lost → t.queue = []) := by
  cases e with
  | done => exact ⟨fun h => ⟨h, fun h => by cases h⟩, fun h => h.1⟩
  | thrown => exact ⟨fun h => ⟨h, fun h => by cases h⟩, fun h => h.1⟩
  | lost =>
    rw [show (t.finish .lost next b) = t.reconnect b from rfl, Task.complete_reconnect]
    exact and_congr_right fun _ => ⟨fun h _ => h, fun h => h rfl⟩
  | ended => exact ⟨fun h => ⟨h, fun h => by cases h⟩, fun h => h.1⟩

/-- A step misses nothing exactly if the task keeps what is waiting. -/
lemma complete_step_iff : ((step v s (k, i)).tasks k).Complete ↔
    (s.tasks k).Complete ∧ Keeps v s (k, i) := by
  unfold Keeps
  dsimp only
  cases hplace : (s.tasks k).place with
  | reading =>
    rw [tasks_reading hplace]
    split
    · exact Task.complete_pass_false
    · exact Task.complete_reconnect _
  | taking =>
    cases hq : (s.tasks k).queue with
    | nil =>
      rw [step_polls hplace hq]
      dsimp only
      rw [Function.update_self, Task.complete_finish, Task.complete_arrive]
      unfold Task.arrive
      dsimp only
      -- what comes is lost if the poll loses the connection
      rw [hq, List.nil_append]
    | cons m ms =>
      rw [step_handles hplace hq]
      dsimp only
      rw [Function.update_self, Task.complete_finish, Task.complete_arrive,
        Task.complete_pass_true]
      unfold Task.arrive Task.pass
      dsimp only
      rw [hq, List.tail_cons]
  | waiting =>
    rw [tasks_waiting hplace]
    exact (and_iff_left trivial).symm
  | stopped =>
    rw [step_stopped hplace]
    exact (and_iff_left trivial).symm
  | ended =>
    rw [step_ended hplace]
    exact (and_iff_left trivial).symm

/-- A run misses nothing exactly if the tasks always keep what is waiting. -/
theorem missed_nothing_iff (es : List (ι × Input X M)) (h : ∀ k, (s.tasks k).Complete) :
    (∀ k, ((Transition.run (step v) s es).tasks k).Complete) ↔
      Transition.Along (step v) (Keeps v) s es := by
  induction es using List.reverseRecOn with
  | nil => exact ⟨fun _ => trivial, fun _ => h⟩
  | append_singleton es e ih =>
    obtain ⟨k, i⟩ := e
    rw [Transition.along_snoc, ← ih, Transition.run_snoc]
    constructor
    · intro hall
      have hk := complete_step_iff.mp (hall k)
      refine ⟨fun j => ?_, hk.2⟩
      by_cases hj : j = k
      · rw [hj]
        exact hk.1
      · rw [← tasks_step_of_ne hj]
        exact hall j
    · rintro ⟨hall, hkeeps⟩ j
      by_cases hj : j = k
      · rw [hj]
        exact complete_step_iff.mpr ⟨hall k, hkeeps⟩
      · rw [tasks_step_of_ne hj]
        exact hall j

/-! ### Where messages are left waiting -/

/-- Exceptions come with no message waiting, and none comes while a task polls. -/
def Orderly (v : ι → Handler X M S) (s : State ι X M S) (e : ι × Input X M) : Prop :=
  let (k, i) := e
  let t := s.tasks k
  match t.place, t.queue with
  | .taking, [] => i.came = []
  | .taking, m :: ms => ((v k).handle i.context m s.shared).1 ≠ .done → ms ++ i.came = []
  | _, _ => True

/-- Messages wait only while they are being taken. -/
def Settled (s : State ι X M S) : Prop :=
  ∀ k, (s.tasks k).place ≠ .taking → (s.tasks k).queue = []

lemma Task.queue_finish {t : Task M} {e : Ending} {next : Place} {b : Bool}
    (h : e ≠ .done → t.queue = []) (hnext : next ≠ .taking → t.queue = [])
    (hplace : (t.finish e next b).place ≠ .taking) : (t.finish e next b).queue = [] := by
  cases e with
  | done => exact hnext hplace
  | thrown => exact h (fun h => by cases h)
  | lost => rfl
  | ended => exact h (fun h => by cases h)

lemma Settled.step (h : Settled s) (he : Orderly v s (k, i)) : Settled (step v s (k, i)) := by
  intro j hj
  by_cases hjk : j = k
  · subst hjk
    unfold Orderly at he
    dsimp only at he
    cases hplace : (s.tasks j).place with
    | reading =>
      rw [tasks_reading hplace] at hj ⊢
      split at hj
      · exact absurd rfl hj
      · rename_i hc
        rw [if_neg hc]
        rfl
    | taking =>
      rw [hplace] at he
      cases hq : (s.tasks j).queue with
      | nil =>
        rw [hq] at he
        rw [step_polls hplace hq] at hj ⊢
        dsimp only at hj ⊢
        rw [Function.update_self] at hj ⊢
        -- nothing may come while the task polls
        have harrive : ((s.tasks j).arrive i.came).queue = [] := by
          show (s.tasks j).queue ++ i.came = []
          rw [hq, he]
          rfl
        exact Task.queue_finish (fun _ => harrive) (fun _ => harrive) hj
      | cons m ms =>
        rw [hq] at he
        rw [step_handles hplace hq] at hj ⊢
        dsimp only at hj ⊢ he
        rw [Function.update_self] at hj ⊢
        -- an exception may end the turn only with the last message
        refine Task.queue_finish (fun hend => ?_) (fun hne => absurd rfl hne) hj
        show (s.tasks j).queue.tail ++ i.came = []
        rw [hq]
        exact he hend
    | waiting =>
      rw [tasks_waiting hplace]
      exact h j (by rw [hplace]; exact fun h => by cases h)
    | stopped =>
      rw [step_stopped hplace]
      exact h j (by rw [hplace]; exact fun h => by cases h)
    | ended =>
      rw [step_ended hplace]
      exact h j (by rw [hplace]; exact fun h => by cases h)
  · rw [tasks_step_of_ne hjk] at hj ⊢
    exact h j hj

omit [DecidableEq ι] in
lemma Settled.keeps (h : Settled s) (he : Orderly v s (k, i)) : Keeps v s (k, i) := by
  unfold Keeps
  unfold Orderly at he
  dsimp only at he ⊢
  cases hplace : (s.tasks k).place with
  | reading => exact h k (by rw [hplace]; exact fun h => by cases h)
  | taking =>
    rw [hplace] at he
    cases hq : (s.tasks k).queue with
    | nil =>
      rw [hq] at he
      exact fun _ => he
    | cons m ms =>
      rw [hq] at he
      exact fun hlost => he (by rw [hlost]; exact fun h => by cases h)
  | waiting => trivial
  | stopped => trivial
  | ended => trivial

/-- In an orderly run nothing is missed. -/
theorem Orderly.keeps {es : List (ι × Input X M)} (h : Settled s)
    (hes : Transition.Along (step v) (Orderly v) s es) :
    Transition.Along (step v) (Keeps v) s es :=
  Transition.along_imp (I := Settled) h (fun _ _ h he _ => h.step he) (fun _ _ h he _ => h.keeps he)
    hes hes

end Runs

end MessageLoop
