import UnifiedInhibit.Lib.MessageLoop

/-!
# Tasks that take turns

The tasks of a message loop are resumed one after the other, round and round. The one whose turn it
is keeps it until it waits again, so that a run is one of the message loop (`system_run`). A task
that has stopped is gone, and resuming it again ends the loop.

As long as no task stops and no `poll` throws, no task is kept from its turn: the steps of a run are
bounded by the turns that have ended and the messages (`length_le`). After so many steps each task
has had its turn, and all that had come for it has left its queue (`served`).
-/

namespace RoundRobin

open MessageLoop (Handler Input Task Act Place Recorded)

/-- The tasks, and the place of the one whose turn it is. -/
structure Loop (ι X M S : Type) where
  system : MessageLoop.State ι X M S
  turn : ℕ := 0

variable {ι X M S : Type} [DecidableEq ι] (v : ι → Handler X M S) (ros : List ι)

/-- One step of the task whose turn it is. When the turn of a stopped task comes, the loop is over:
it stays as it is. -/
def step (l : Loop ι X M S) (i : Input X M) : Loop ι X M S :=
  match ros[l.turn]? with
  | none => l
  | some k =>
    if (l.system.tasks k).place = .stopped then l
    else
      let s := MessageLoop.step v l.system (k, i)
      { system := s
        turn := if (s.tasks k).place = .waiting ∨ (s.tasks k).place = .stopped then
            (l.turn + 1) % ros.length else l.turn }

/-- The steps of the tasks, in the order in which the loop resumes them. -/
def schedule : Loop ι X M S → List (Input X M) → List (ι × Input X M)
  | _, [] => []
  | l, i :: is =>
    match ros[l.turn]? with
    | none => schedule (step v ros l i) is
    | some k => (k, i) :: schedule (step v ros l i) is

/-- A condition on the step of the task whose turn it is. -/
def AtTurn (P : MessageLoop.State ι X M S → ι × Input X M → Prop) (l : Loop ι X M S)
    (i : Input X M) : Prop :=
  ∀ k, ros[l.turn]? = some k → P l.system (k, i)

/-! ## The loop is a run of its tasks -/

section Runs

variable {v} {ros} {l : Loop ι X M S} {k : ι}

lemma system_step_some (hk : ros[l.turn]? = some k) (i : Input X M) :
    (step v ros l i).system = MessageLoop.step v l.system (k, i) := by
  unfold step
  rw [hk]
  dsimp only
  split
  · rename_i hstopped
    exact (MessageLoop.step_stopped hstopped).symm
  · rfl

/-- The turn after a step of a task that has not stopped. -/
lemma turn_step (hk : ros[l.turn]? = some k) (h : (l.system.tasks k).place ≠ .stopped)
    (i : Input X M) :
    (step v ros l i).turn =
      if ((step v ros l i).system.tasks k).place = .waiting ∨
          ((step v ros l i).system.tasks k).place = .stopped then (l.turn + 1) % ros.length
      else l.turn := by
  rw [system_step_some hk]
  unfold step
  rw [hk]
  dsimp only
  rw [if_neg h]

/-- When the turn of a stopped task comes, nothing goes on. -/
lemma step_over (hk : ros[l.turn]? = some k) (h : (l.system.tasks k).place = .stopped)
    (i : Input X M) : step v ros l i = l := by
  unfold step
  rw [hk]
  exact if_pos h

lemma system_step_none (hk : ros[l.turn]? = none) (i : Input X M) :
    (step v ros l i).system = l.system := by
  unfold step
  rw [hk]

lemma schedule_cons (l : Loop ι X M S) (i : Input X M) (is : List (Input X M)) :
    schedule v ros l (i :: is) = ((ros[l.turn]?).map (·, i)).toList ++
      schedule v ros (step v ros l i) is := by
  rw [schedule]
  cases ros[l.turn]? <;> rfl

variable (v ros) in
lemma system_run (l : Loop ι X M S) (is : List (Input X M)) :
    (Transition.run (step v ros) l is).system =
      Transition.run (MessageLoop.step v) l.system (schedule v ros l is) := by
  induction is generalizing l with
  | nil => rfl
  | cons i is ih =>
    rw [Transition.run_cons, ih, schedule_cons, Transition.run_append]
    cases hk : ros[l.turn]? with
    | none =>
      rw [system_step_none hk]
      rfl
    | some k =>
      rw [system_step_some hk]
      rfl

lemma along_schedule {P : MessageLoop.State ι X M S → ι × Input X M → Prop} (l : Loop ι X M S)
    (is : List (Input X M)) :
    Transition.Along (MessageLoop.step v) P l.system (schedule v ros l is) ↔
      Transition.Along (step v ros) (AtTurn ros P) l is := by
  induction is generalizing l with
  | nil => exact Iff.rfl
  | cons i is ih =>
    rw [Transition.along_cons, ← ih, schedule_cons, Transition.along_append]
    unfold AtTurn
    cases hk : ros[l.turn]? with
    | none =>
      rw [system_step_none hk]
      refine and_congr_left fun _ => ⟨fun _ k h => ?_, fun _ => trivial⟩
      cases h
    | some k =>
      rw [system_step_some hk]
      refine and_congr_left fun _ => ⟨fun h j hj => ?_, fun h => ⟨h k rfl, trivial⟩⟩
      rw [← Option.some.inj hj]
      exact h.1

variable (ros) in
lemma recorded_run {x₀ : S} (h : Recorded v x₀ l.system) (is : List (Input X M)) :
    Recorded v x₀ (Transition.run (step v ros) l is).system := by
  rw [system_run]
  exact h.run _

variable (v ros l) in
/-- What has left a queue stays on record. -/
lemma left_run (is : List (Input X M)) (j : ι) :
    (l.system.tasks j).left <+: ((Transition.run (step v ros) l is).system.tasks j).left := by
  rw [system_run]
  exact Transition.invariant_all
    (I := fun s : MessageLoop.State ι X M S => (l.system.tasks j).left <+: (s.tasks j).left)
    List.prefix_rfl (fun _ _ h => h.trans (MessageLoop.left_step j)) _

variable (v ros l) in
/-- So does what has come. -/
lemma came_run (is : List (Input X M)) (j : ι) :
    (l.system.tasks j).came <+: ((Transition.run (step v ros) l is).system.tasks j).came := by
  rw [system_run]
  exact Transition.invariant_all
    (I := fun s : MessageLoop.State ι X M S => (l.system.tasks j).came <+: (s.tasks j).came)
    List.prefix_rfl (fun _ _ h => h.trans (MessageLoop.came_step j)) _

end Runs

/-! ## Turns -/

/-- The task stays connected, neither stops nor ends, and its `poll` does not throw. -/
def Steady (s : MessageLoop.State ι X M S) (e : ι × Input X M) : Prop :=
  let (k, i) := e
  let t := s.tasks k
  match t.place, t.queue with
  | .reading, _ => i.connected = true
  | .taking, [] => ((v k).poll i.context s.shared).1 = .done
  | .taking, m :: _ =>
    let e := ((v k).handle i.context m s.shared).1
    e = .done ∨ e = .thrown
  | .waiting, _ => True
  | .stopped, _ => False
  | .ended, _ => False

/-- No task has stopped or ended. -/
def Going (s : MessageLoop.State ι X M S) : Prop :=
  ∀ k, (s.tasks k).place ≠ .stopped ∧ (s.tasks k).place ≠ .ended

/-- The steps that a task has made in its turn, apart from those that handle messages. -/
def begun : Place → ℕ
  | .waiting => 0
  | .reading => 1
  | .taking => 2
  | .stopped => 0
  | .ended => 0

/-- An act ends the turn of its task. -/
def endsTurn : Act ι X M → Bool
  | .polled _ _ => true
  | .handled _ _ _ => false

namespace Loop

/-- The turns that have ended. -/
def turns (l : Loop ι X M S) : ℕ := l.system.acts.countP endsTurn

/-- The messages that are waiting at the tasks. -/
def waiting (l : Loop ι X M S) : ℕ := ∑ k ∈ ros.toFinset, (l.system.tasks k).queue.length

/-- The steps of the turn that has not ended. -/
def begun (l : Loop ι X M S) : ℕ :=
  match ros[l.turn]? with
  | some k => RoundRobin.begun (l.system.tasks k).place
  | none => 0

end Loop

/-- The task whose turn it is polls. -/
def Polls (l : Loop ι X M S) (k : ι) : Prop :=
  ros[l.turn]? = some k ∧ (l.system.tasks k).place = .taking ∧ (l.system.tasks k).queue = []

section Turns

variable {v} {ros} {l : Loop ι X M S} {k : ι} {i : Input X M}

/-- A steady step stops no task. -/
lemma Going.step {s : MessageLoop.State ι X M S} {e : ι × Input X M} (hs : Going s)
    (h : Steady v s e) : Going (MessageLoop.step v s e) := by
  obtain ⟨k, i⟩ := e
  intro j
  by_cases hj : j = k
  · subst hj
    unfold Steady at h
    dsimp only at h
    cases hplace : (s.tasks j).place with
    | reading =>
      rw [hplace] at h
      rw [MessageLoop.tasks_reading hplace, if_pos h]
      exact ⟨nofun, nofun⟩
    | taking =>
      rw [hplace] at h
      cases hq : (s.tasks j).queue with
      | nil =>
        rw [hq] at h
        rw [MessageLoop.step_polls hplace hq, h]
        dsimp only
        rw [Function.update_self]
        exact ⟨nofun, nofun⟩
      | cons m ms =>
        rw [hq] at h
        rw [MessageLoop.step_handles hplace hq]
        dsimp only
        rw [Function.update_self]
        rcases h with hend | hend <;> rw [hend] <;> exact ⟨nofun, nofun⟩
    | waiting =>
      rw [MessageLoop.tasks_waiting hplace]
      exact ⟨nofun, nofun⟩
    | stopped => exact absurd hplace (hs j).1
    | ended => exact absurd hplace (hs j).2
  · rw [MessageLoop.tasks_step_of_ne hj]
    exact hs j

omit [DecidableEq ι] in
lemma begun_le (ros : List ι) (l : Loop ι X M S) : l.begun ros ≤ 2 := by
  unfold Loop.begun
  split
  · rename_i k hk
    cases (l.system.tasks k).place <;> decide
  · exact Nat.zero_le _

omit [DecidableEq ι] in
lemma begun_some (hk : ros[l.turn]? = some k) :
    l.begun ros = begun (l.system.tasks k).place := by
  unfold Loop.begun
  rw [hk]

/-- Only the queue of the task whose step it is changes. -/
lemma waiting_step (hk : ros[l.turn]? = some k) :
    (step v ros l i).waiting ros + (l.system.tasks k).queue.length =
      l.waiting ros + ((step v ros l i).system.tasks k).queue.length := by
  have hmem : k ∈ ros.toFinset := List.mem_toFinset.mpr (List.mem_of_getElem? hk)
  have hrest : ∑ j ∈ ros.toFinset.erase k, ((step v ros l i).system.tasks j).queue.length =
      ∑ j ∈ ros.toFinset.erase k, (l.system.tasks j).queue.length := by
    refine Finset.sum_congr rfl fun j hj => ?_
    rw [system_step_some hk, MessageLoop.tasks_step_of_ne (Finset.ne_of_mem_erase hj)]
  unfold Loop.waiting
  rw [← Finset.add_sum_erase _ _ hmem, ← Finset.add_sum_erase _ _ hmem, hrest]
  omega

/-- A step that does not end the turn. -/
lemma turn_kept (hk : ros[l.turn]? = some k)
    (hwaiting : ((step v ros l i).system.tasks k).place ≠ .waiting)
    (hstopped : ((step v ros l i).system.tasks k).place ≠ .stopped) :
    (step v ros l i).turn = l.turn := by
  by_cases hover : (l.system.tasks k).place = .stopped
  · rw [step_over hk hover]
  · rw [turn_step hk hover]
    exact if_neg fun h => h.elim hwaiting hstopped

/-- A step of a task that keeps its turn. -/
structure Kept (ros : List ι) (l l' : Loop ι X M S) (i : Input X M) : Prop where
  turn : l'.turn = l.turn
  turns : l'.turns = l.turns
  steps : 2 * l'.waiting ros + l.begun ros + 1 ≤
    2 * l.waiting ros + 2 * i.came.length + l'.begun ros

/-- A step that ends the turn. -/
structure Ended (ros : List ι) (l l' : Loop ι X M S) (i : Input X M) : Prop where
  turn : l'.turn = (l.turn + 1) % ros.length
  turns : l'.turns = l.turns + 1
  waiting : l'.waiting ros = l.waiting ros + i.came.length
  begun : l.begun ros = 2

/-- A task that stays in its turn gets on with it, or has a message less to handle. -/
lemma kept_of (place : Place) (n : ℕ) (hk : ros[l.turn]? = some k)
    (hplace : ((step v ros l i).system.tasks k).place = place)
    (hqueue : ((step v ros l i).system.tasks k).queue.length = n)
    (hacts : (step v ros l i).turns = l.turns) (hstay : place = .reading ∨ place = .taking)
    (hsteps : 2 * n + begun (l.system.tasks k).place + 1 ≤
      2 * (l.system.tasks k).queue.length + 2 * i.came.length + begun place) :
    Kept ros l (step v ros l i) i := by
  have hturn : (step v ros l i).turn = l.turn := by
    apply turn_kept hk <;> rw [hplace] <;> rintro rfl <;> rcases hstay with h | h <;> cases h
  have hwaiting := waiting_step (v := v) (i := i) hk
  have hbegun := begun_some hk
  have hbegun' := begun_some (show ros[(step v ros l i).turn]? = some k by rw [hturn]; exact hk)
  rw [hqueue] at hwaiting
  rw [hplace] at hbegun'
  refine ⟨hturn, hacts, ?_⟩
  omega

/-- A turn ends exactly when its task polls. -/
lemma steady_step (hk : ros[l.turn]? = some k) (h : Steady v l.system (k, i)) :
    Polls ros l k ∧ Ended ros l (step v ros l i) i ∨
      ¬ Polls ros l k ∧ Kept ros l (step v ros l i) i := by
  have hsystem := system_step_some (v := v) hk i
  have hturns : ∀ as, (step v ros l i).system.acts = l.system.acts ++ as →
      (step v ros l i).turns = l.turns + as.countP endsTurn := by
    intro as has
    unfold Loop.turns
    rw [has, List.countP_append]
  unfold Steady at h
  dsimp only at h
  cases hplace : (l.system.tasks k).place with
  | reading =>
    rw [hplace] at h
    -- a message that is waiting is passed over, and the task goes on to take the others
    have htask := MessageLoop.tasks_reading (v := v) (i := i) hplace
    rw [if_pos h, ← hsystem] at htask
    have hlen : ((step v ros l i).system.tasks k).queue.length =
        (l.system.tasks k).queue.tail.length + i.came.length := by
      rw [htask]
      exact List.length_append
    refine .inr ⟨fun hp => ?_, kept_of .taking _ hk (by rw [htask]) hlen (hturns [] ?_)
      (.inr rfl) ?_⟩
    · have hother := hp.2.1
      rw [hplace] at hother
      cases hother
    · rw [hsystem, (MessageLoop.shared_reading hplace).2, List.append_nil]
    · rw [hplace, List.length_tail]
      show _ + 1 + 1 ≤ _ + _ + 2
      omega
  | taking =>
    rw [hplace] at h
    cases hq : (l.system.tasks k).queue with
    | nil =>
      rw [hq] at h
      -- the queue is empty: the task polls and waits
      have hpolls := MessageLoop.step_polls (v := v) (i := i) hplace hq
      rw [← hsystem, h] at hpolls
      have htask : (step v ros l i).system.tasks k =
          { (l.system.tasks k).arrive i.came with place := .waiting } := by
        rw [hpolls]
        exact Function.update_self ..
      refine .inl ⟨⟨hk, hplace, hq⟩, ?_, hturns [.polled k i.context] ?_, ?_, ?_⟩
      · rw [turn_step hk (by rw [hplace]; exact nofun)]
        exact if_pos (.inl (by rw [htask]))
      · rw [hpolls]
      · have hwaiting := waiting_step (v := v) (i := i) hk
        rw [htask, hq] at hwaiting
        unfold Task.arrive at hwaiting
        dsimp only at hwaiting
        rw [hq, List.nil_append] at hwaiting
        exact hwaiting
      · rw [begun_some hk, hplace]
        rfl
    | cons m ms =>
      rw [hq] at h
      -- one message less is waiting, and at worst the task reads again
      have hhandles := MessageLoop.step_handles (v := v) (i := i) hplace hq
      rw [← hsystem] at hhandles
      have htask : (step v ros l i).system.tasks k =
          (((l.system.tasks k).pass true).arrive i.came).finish
            ((v k).handle i.context m l.system.shared).1 .taking i.reconnects := by
        rw [hhandles]
        exact Function.update_self ..
      have hpolls : ¬ Polls ros l k := fun hp => by
        have hnil := hp.2.2
        rw [hq] at hnil
        cases hnil
      have hacts := hturns [.handled k i.context m] (by rw [hhandles])
      have hlen : (((l.system.tasks k).pass true).arrive i.came).queue.length =
          ms.length + i.came.length := by
        show ((l.system.tasks k).queue.tail ++ i.came).length = _
        rw [hq, List.tail_cons, List.length_append]
      rcases h with hend | hend
      · rw [hend] at htask
        refine .inr ⟨hpolls, kept_of .taking _ hk (by rw [htask]; rfl)
          ((congrArg (·.queue.length) htask).trans hlen) hacts (.inr rfl) ?_⟩
        rw [hplace, hq, List.length_cons]
        show _ + 2 + 1 ≤ _ + _ + 2
        omega
      · rw [hend] at htask
        refine .inr ⟨hpolls, kept_of .reading _ hk (by rw [htask]; rfl)
          ((congrArg (·.queue.length) htask).trans hlen) hacts (.inl rfl) ?_⟩
        rw [hplace, hq, List.length_cons]
        show _ + 2 + 1 ≤ _ + _ + 1
        omega
  | waiting =>
    have htask := MessageLoop.tasks_waiting (v := v) (i := i) hplace
    rw [← hsystem] at htask
    refine .inr ⟨fun hp => ?_, kept_of .reading (l.system.tasks k).queue.length hk
      (by rw [htask]) (by rw [htask]) (hturns [] ?_) (.inl rfl) ?_⟩
    · have hother := hp.2.1
      rw [hplace] at hother
      cases hother
    · rw [hsystem, (MessageLoop.shared_waiting hplace).2, List.append_nil]
    · rw [hplace]
      show _ + 0 + 1 ≤ _ + _ + 1
      omega
  | stopped =>
    rw [hplace] at h
    exact h.elim
  | ended =>
    rw [hplace] at h
    exact h.elim

/-! ## Progress -/

/-- The messages that come. -/
def arrivals (is : List (Input X M)) : ℕ := (is.map (·.came.length)).sum

variable {is : List (Input X M)}

variable (v i) in
lemma turn_lt (hturn : l.turn < ros.length) : (step v ros l i).turn < ros.length := by
  have hk : ros[l.turn]? = some ros[l.turn] := List.getElem?_eq_getElem hturn
  by_cases hover : (l.system.tasks ros[l.turn]).place = .stopped
  · rw [step_over hk hover]
    exact hturn
  · rw [turn_step hk hover]
    split
    · exact Nat.mod_lt _ (by omega)
    · exact hturn

/-- The steps of a run are bounded by the turns that have ended and the messages. -/
lemma length_le (hturn : l.turn < ros.length)
    (h : Transition.Along (step v ros) (AtTurn ros (Steady v)) l is) :
    is.length + 2 * (Transition.run (step v ros) l is).waiting ros + 3 * l.turns + l.begun ros ≤
      3 * (Transition.run (step v ros) l is).turns + 2 * l.waiting ros + 2 * arrivals is +
        (Transition.run (step v ros) l is).begun ros := by
  induction is generalizing l with
  | nil =>
    rw [Transition.run_nil]
    show 0 + _ + _ + _ ≤ _ + _ + 2 * 0 + _
    omega
  | cons i is ih =>
    have hk : ros[l.turn]? = some ros[l.turn] := List.getElem?_eq_getElem hturn
    have hrest := ih (turn_lt v i hturn) h.2
    have harrivals : arrivals (i :: is) = i.came.length + arrivals is := rfl
    rw [Transition.run_cons, List.length_cons, harrivals]
    rcases steady_step hk (h.1 _ hk) with ⟨-, hended⟩ | ⟨-, hkept⟩
    · have hturns := hended.turns
      have hwaiting := hended.waiting
      have hbegun := hended.begun
      omega
    · have hturns := hkept.turns
      have hsteps := hkept.steps
      omega

/-- The turns come round: after `n` more turns it is that of the `n`-th task from here. -/
lemma exists_polls {n : ℕ} (hturn : l.turn < ros.length)
    (h : Transition.Along (step v ros) (AtTurn ros (Steady v)) l is)
    (hn : l.turns + n < (Transition.run (step v ros) l is).turns) :
    ∃ fs gs k, is = fs ++ gs ∧ ros[(l.turn + n) % ros.length]? = some k ∧
      Polls ros (Transition.run (step v ros) l fs) k := by
  induction is generalizing l n with
  | nil => exact absurd hn (by rw [Transition.run_nil]; omega)
  | cons i is ih =>
    have hk : ros[l.turn]? = some ros[l.turn] := List.getElem?_eq_getElem hturn
    rw [Transition.run_cons] at hn
    rcases steady_step hk (h.1 _ hk) with ⟨hpolls, hended⟩ | ⟨-, hkept⟩
    · cases n with
      | zero =>
        refine ⟨[], i :: is, ros[l.turn], rfl, ?_, hpolls⟩
        rw [Nat.add_zero, Nat.mod_eq_of_lt hturn]
        exact hk
      | succ n =>
        have hturns := hended.turns
        obtain ⟨fs, gs, k, his, hat, hp⟩ := ih (n := n) (turn_lt v i hturn) h.2 (by omega)
        refine ⟨i :: fs, gs, k, by rw [his]; rfl, ?_, hp⟩
        rw [hended.turn, Nat.mod_add_mod] at hat
        rw [← hat]
        congr 2
        omega
    · obtain ⟨fs, gs, k, his, hat, hp⟩ := ih (n := n) (turn_lt v i hturn) h.2
        (by rw [hkept.turns]; exact hn)
      refine ⟨i :: fs, gs, k, by rw [his]; rfl, ?_, hp⟩
      rw [hkept.turn] at hat
      exact hat

/-- After enough steps each task has had its turn, and all that had come for it has left its
queue. -/
theorem served {x₀ : S} (hrecorded : Recorded v x₀ l.system) (hturn : l.turn < ros.length)
    (h : Transition.Along (step v ros) (AtTurn ros (Steady v)) l is)
    (hlen : 3 * ros.length + 2 * (l.waiting ros + arrivals is) ≤ is.length) (hk : k ∈ ros) :
    (l.system.tasks k).came <+:
      ((Transition.run (step v ros) l is).system.tasks k).left.map Prod.fst := by
  obtain ⟨p, hp, hat⟩ := List.getElem_of_mem hk
  have hbound := length_le hturn h
  have hbegun := begun_le ros (Transition.run (step v ros) l is)
  -- the turn of `k` is among the next `ros.length` ones
  obtain ⟨n, hn, hmod⟩ : ∃ n < ros.length, (l.turn + n) % ros.length = p := by
    by_cases hle : l.turn ≤ p
    · exact ⟨p - l.turn, by omega, by rw [Nat.add_sub_cancel' hle, Nat.mod_eq_of_lt hp]⟩
    · refine ⟨ros.length + p - l.turn, by omega, ?_⟩
      rw [show l.turn + (ros.length + p - l.turn) = p + ros.length by omega, Nat.add_mod_right,
        Nat.mod_eq_of_lt hp]
  obtain ⟨fs, gs, j, his, hj, hpolls⟩ := exists_polls (n := n) hturn h (by omega)
  rw [hmod, List.getElem?_eq_getElem hp, hat] at hj
  obtain rfl := Option.some.inj hj
  have haccounted := (recorded_run ros hrecorded fs).accounted k
  rw [Task.Accounted, hpolls.2.2, List.append_nil] at haccounted
  have hcame := came_run v ros l fs k
  rw [haccounted] at hcame
  rw [his, Transition.run_append]
  exact hcame.trans ((left_run v ros _ gs k).map Prod.fst)

end Turns

end RoundRobin
