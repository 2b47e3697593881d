import UnifiedInhibit.Lib.Run

/-!
# Grants requested over a network with a timeout

A client asks a server for tokens and gives them back. It waits for the answer to a request, but
not for ever: after a timeout it goes on as if the request had failed, and drops the answer when it
comes. The server grants a token when it handles the request. A granted token is `Lost` once it is
not going to become active at the client any more, although the client has not given it back.

`lost_step` says exactly which steps lose tokens. When nothing is in flight the client and the
server agree exactly when no token is lost.
-/

namespace Grants

inductive Msg (T : Type*) where
  | request (serial : ℕ)
  | release (token : T)

/-- `replies` holds the answers on their way to the client, by the serial of their request. -/
@[ext] structure State (T : Type*) where
  active : Set T
  waiting : Option ℕ
  next : ℕ
  queue : List (Msg T)
  replies : ℕ → Option T
  held : Set T

inductive Event (T : Type*) where
  | request
  | release (token : T)
  /-- The server handles the next message. It grants `token` if that is a request, and answers it
  if `replies`. -/
  | handle (token : T) (replies : Bool)
  /-- The answer to a request arrives. -/
  | deliver (serial : ℕ)
  | timeout
  | idle

variable {T : Type*}

/-! ## Steps -/

namespace State

/-- The client sends a request and waits for its answer. -/
def request (s : State T) : State T :=
  { s with
    waiting := some s.next
    next := s.next + 1
    queue := s.queue ++ [.request s.next] }

/-- The client gives a token back. -/
def release (token : T) (s : State T) : State T :=
  { s with
    active := s.active \ {token}
    next := s.next + 1
    queue := s.queue ++ [.release token] }

/-- The server grants a token, with `rest` left to handle. -/
def grant (serial : ℕ) (token : T) (replies : Bool) (rest : List (Msg T)) (s : State T) : State T :=
  { s with
    queue := rest
    held := insert token s.held
    replies := if replies then Function.update s.replies serial (some token) else s.replies }

/-- The server takes a token back. -/
def takeBack (token : T) (rest : List (Msg T)) (s : State T) : State T :=
  { s with
    queue := rest
    held := s.held \ {token} }

/-- The client uses the token it has waited for. -/
def accept (serial : ℕ) (token : T) (s : State T) : State T :=
  { s with
    replies := Function.update s.replies serial none
    waiting := none
    active := insert token s.active }

/-- The client drops an answer that it does not wait for. -/
def drop (serial : ℕ) (s : State T) : State T :=
  { s with replies := Function.update s.replies serial none }

/-- The client waits no longer. -/
def giveUp (s : State T) : State T := { s with waiting := none }

end State

open Classical in
/-- A client that waits does nothing else. -/
noncomputable def step (s : State T) : Event T → State T
  | .request => if s.waiting.isSome then s else s.request
  | .release token => if s.waiting.isSome ∨ token ∉ s.active then s else s.release token
  | .handle token replies =>
    match s.queue with
    | [] => s
    | .request serial :: rest => s.grant serial token replies rest
    | .release token :: rest => s.takeBack token rest
  | .deliver serial =>
    match s.replies serial with
    | none => s
    | some token => if s.waiting = some serial then s.accept serial token else s.drop serial
  | .timeout => s.giveUp
  | .idle => s

/-- The server grants tokens that it does not hold yet. -/
def Allowed (s : State T) : Event T → Prop
  | .handle token _ => ∀ serial rest, s.queue = .request serial :: rest → token ∉ s.held
  | _ => True

/-- Requests are handled while the client waits for them, and answered before it stops waiting. -/
def Timely (s : State T) : Event T → Prop
  | .handle _ replies => ∀ serial rest, s.queue = .request serial :: rest →
    s.waiting = some serial ∧ replies = true
  | .timeout => ∀ serial, s.waiting = some serial → s.replies serial = none
  | _ => True

/-- The answer that the client waits for is on its way and brings the token. -/
def Awaited (s : State T) (token : T) : Prop :=
  ∃ serial, s.waiting = some serial ∧ s.replies serial = some token

/-- The server holds the token and the client will neither use it nor give it back. -/
def Lost (s : State T) (token : T) : Prop :=
  token ∈ s.held ∧ token ∉ s.active ∧ .release token ∉ s.queue ∧ ¬ Awaited s token

/-- What is active or on its way is held, and is so only once. -/
structure Invariant (s : State T) : Prop where
  active : ∀ token ∈ s.active, token ∈ s.held
  released : ∀ token, .release token ∈ s.queue → token ∈ s.held ∧ token ∉ s.active
  nodup : s.queue.Nodup
  awaited : ∀ token, Awaited s token →
    token ∈ s.held ∧ token ∉ s.active ∧ .release token ∉ s.queue
  requests : ∀ serial, .request serial ∈ s.queue → serial < s.next ∧ s.replies serial = none
  replies : ∀ serial, s.next ≤ serial → s.replies serial = none
  waiting : ∀ serial, s.waiting = some serial → serial < s.next

/-! ## Each step -/

section Steps

variable {s : State T}

/-- A client that does not wait awaits nothing. -/
lemma not_awaited_of_idle (h : s.waiting = none) (token : T) : ¬ Awaited s token := by
  intro ha
  obtain ⟨serial, hw, -⟩ := ha
  rw [h] at hw
  cases hw

lemma Invariant.request (h : Invariant s) : Invariant s.request where
  active := h.active
  released token hmem := h.released token (by simpa [State.request] using hmem)
  nodup := by
    refine List.Nodup.append h.nodup (List.nodup_singleton _) ?_
    -- a queued request has an older serial
    intro msg hmsg hnew
    rw [List.mem_singleton.mp hnew] at hmsg
    exact absurd (h.requests _ hmsg).1 (lt_irrefl _)
  awaited token ha := by
    obtain ⟨serial, hw, hreply⟩ := ha
    rw [← Option.some.inj hw] at hreply
    exact absurd (hreply.symm.trans (h.replies s.next le_rfl)) (by simp)
  requests serial hmem := by
    rcases List.mem_append.mp hmem with hmem | hmem
    · exact ⟨Nat.lt_succ_of_lt (h.requests serial hmem).1, (h.requests serial hmem).2⟩
    · rw [List.mem_singleton, Msg.request.injEq] at hmem
      rw [hmem]
      exact ⟨Nat.lt_succ_self _, h.replies s.next le_rfl⟩
  replies serial hle := h.replies serial (Nat.le_of_succ_le hle)
  waiting serial hw := by
    rw [← Option.some.inj hw]
    exact Nat.lt_succ_self _

lemma lost_request (h : Invariant s) (hidle : s.waiting = none) (token : T) :
    Lost s.request token ↔ Lost s token := by
  -- no answer to the new request is there yet, and none was awaited before
  have hnew : ¬ Awaited s.request token := by
    intro ha
    obtain ⟨serial, hw, hreply⟩ := ha
    rw [← Option.some.inj hw] at hreply
    exact absurd (hreply.symm.trans (h.replies s.next le_rfl)) (by simp)
  have hold := not_awaited_of_idle hidle token
  unfold Lost
  simp only [hnew, hold]
  simp [State.request]

lemma Invariant.release (h : Invariant s) (hidle : s.waiting = none) {token : T}
    (hactive : token ∈ s.active) : Invariant (s.release token) where
  active t ht := h.active t ht.1
  released t hmem := by
    rcases List.mem_append.mp hmem with hmem | hmem
    · obtain ⟨hheld, hnot⟩ := h.released t hmem
      exact ⟨hheld, fun ht => hnot ht.1⟩
    · rw [List.mem_singleton, Msg.release.injEq] at hmem
      rw [hmem]
      exact ⟨h.active token hactive, fun ht => ht.2 rfl⟩
  nodup := by
    refine List.Nodup.append h.nodup (List.nodup_singleton _) ?_
    -- a token that is on its way back is not active
    intro msg hmsg hnew
    rw [List.mem_singleton.mp hnew] at hmsg
    exact (h.released token hmsg).2 hactive
  awaited t ha := absurd ha (not_awaited_of_idle hidle t)
  requests serial hmem := by
    obtain ⟨hlt, hnone⟩ := h.requests serial (by simpa [State.release] using hmem)
    exact ⟨Nat.lt_succ_of_lt hlt, hnone⟩
  replies serial hle := h.replies serial (Nat.le_of_succ_le hle)
  waiting serial hw := Nat.lt_succ_of_lt (h.waiting serial hw)

lemma lost_release (hidle : s.waiting = none) {token : T} (hactive : token ∈ s.active) (t : T) :
    Lost (s.release token) t ↔ Lost s t := by
  have hnew : ¬ Awaited (s.release token) t := not_awaited_of_idle hidle t
  have hold := not_awaited_of_idle hidle t
  unfold Lost
  simp only [hnew, hold, not_false_eq_true, and_true]
  simp only [State.release, List.mem_append, List.mem_singleton, Msg.release.injEq,
    Set.mem_sdiff, Set.mem_singleton_iff, not_or]
  by_cases heq : t = token
  · -- it was active before, and is on its way back now
    rw [heq]
    simp [hactive]
  · simp [heq]

/-- What is awaited after a grant. -/
lemma awaited_grant {serial : ℕ} (hnone : s.replies serial = none) (token : T) (replies : Bool)
    (rest : List (Msg T)) (t : T) : Awaited (s.grant serial token replies rest) t ↔
      Awaited s t ∨ t = token ∧ s.waiting = some serial ∧ replies = true := by
  have hreply : ∀ n, (s.grant serial token replies rest).replies n =
      if n = serial ∧ replies = true then some token else s.replies n := by
    intro n
    unfold State.grant
    cases replies
    · simp
    · simp [Function.update_apply]
  constructor
  · intro ha
    obtain ⟨n, hw, hn⟩ := ha
    rw [hreply] at hn
    split at hn
    · rename_i hserial
      rw [hserial.1] at hw
      exact Or.inr ⟨(Option.some.inj hn).symm, hw, hserial.2⟩
    · exact Or.inl ⟨n, hw, hn⟩
  · intro ha
    rcases ha with ⟨n, hw, hn⟩ | ⟨ht, hw, hr⟩
    · refine ⟨n, hw, ?_⟩
      rw [hreply, if_neg]
      · exact hn
      · intro hserial
        rw [hserial.1, hnone] at hn
        cases hn
    · refine ⟨serial, hw, ?_⟩
      rw [hreply, if_pos ⟨rfl, hr⟩, ht]

lemma Invariant.grant (h : Invariant s) {serial : ℕ} {token : T} {rest : List (Msg T)}
    (hqueue : s.queue = .request serial :: rest) (hfresh : token ∉ s.held) (replies : Bool) :
    Invariant (s.grant serial token replies rest) := by
  obtain ⟨hlt, hnone⟩ := h.requests serial (by simp [hqueue])
  have hrest : ∀ msg ∈ rest, msg ∈ s.queue := fun msg hmsg => by
    rw [hqueue]
    exact List.mem_cons_of_mem _ hmsg
  have hnodup := h.nodup
  rw [hqueue] at hnodup
  -- the answers to other requests stay
  have hreply : ∀ n, n ≠ serial →
      (s.grant serial token replies rest).replies n = s.replies n := by
    intro n hn
    unfold State.grant
    cases replies
    · rfl
    · exact Function.update_of_ne hn _ _
  refine ⟨fun t ht => ?_, fun t hmem => ?_, hnodup.of_cons, fun t ha => ?_, fun n hmem => ?_,
    fun n hle => ?_, h.waiting⟩
  · exact Or.inr (h.active t ht)
  · obtain ⟨hheld, hnot⟩ := h.released t (hrest _ hmem)
    exact ⟨Or.inr hheld, hnot⟩
  · -- a fresh token is neither active nor on its way back
    rcases (awaited_grant hnone token replies rest t).mp ha with ha | ⟨ht, -, -⟩
    · obtain ⟨hheld, hnot, hrel⟩ := h.awaited t ha
      exact ⟨Or.inr hheld, hnot, fun hmem => hrel (hrest _ hmem)⟩
    · rw [ht]
      exact ⟨Or.inl rfl, fun hact => hfresh (h.active token hact),
        fun hmem => hfresh (h.released token (hrest _ hmem)).1⟩
  · -- the request is not queued a second time
    have hne : n ≠ serial := by
      intro heq
      rw [heq] at hmem
      exact (List.nodup_cons.mp hnodup).1 hmem
    rw [hreply n hne]
    exact h.requests n (hrest _ hmem)
  · have hne : n ≠ serial := by
      intro heq
      rw [heq] at hle
      exact absurd hlt (Nat.not_lt.mpr hle)
    rw [hreply n hne]
    exact h.replies n hle

/-- A granted token is lost unless its answer is awaited and sent. -/
lemma lost_grant (h : Invariant s) {serial : ℕ} {token : T} {rest : List (Msg T)}
    (hqueue : s.queue = .request serial :: rest) (hfresh : token ∉ s.held) (replies : Bool)
    (t : T) : Lost (s.grant serial token replies rest) t ↔
      Lost s t ∨ t = token ∧ ¬ (s.waiting = some serial ∧ replies = true) := by
  obtain ⟨-, hnone⟩ := h.requests serial (by simp [hqueue])
  unfold Lost
  rw [awaited_grant hnone, hqueue]
  simp only [State.grant, Set.mem_insert_iff, List.mem_cons, reduceCtorEq, false_or]
  by_cases ht : t = token
  · -- before the grant the token is nowhere
    rw [ht]
    have hactive : token ∉ s.active := fun hact => hfresh (h.active token hact)
    have hrel : Msg.release token ∉ rest := by
      intro hmem
      exact hfresh (h.released token (by rw [hqueue]; exact List.mem_cons_of_mem _ hmem)).1
    have hawait : ¬ Awaited s token := fun ha => hfresh (h.awaited token ha).1
    simp [hfresh, hactive, hrel, hawait]
  · simp [ht]

lemma Invariant.takeBack (h : Invariant s) {token : T} {rest : List (Msg T)}
    (hqueue : s.queue = .release token :: rest) : Invariant (s.takeBack token rest) := by
  have hrest : ∀ msg ∈ rest, msg ∈ s.queue := fun msg hmsg => by
    rw [hqueue]
    exact List.mem_cons_of_mem _ hmsg
  have hmem : Msg.release token ∈ s.queue := by simp [hqueue]
  have hnot := (h.released token hmem).2
  have hnodup := h.nodup
  rw [hqueue, List.nodup_cons] at hnodup
  refine ⟨fun t ht => ⟨h.active t ht, ?_⟩, fun t ht => ?_, hnodup.2, fun t ha => ?_,
    fun n hn => h.requests n (hrest _ hn), h.replies, h.waiting⟩
  · intro heq
    rw [Set.mem_singleton_iff.mp heq] at ht
    exact hnot ht
  · obtain ⟨hheld, hinactive⟩ := h.released t (hrest _ ht)
    refine ⟨⟨hheld, fun heq => ?_⟩, hinactive⟩
    rw [Set.mem_singleton_iff.mp heq] at ht
    exact hnodup.1 ht
  · obtain ⟨hheld, hinactive, hrel⟩ := h.awaited t ha
    refine ⟨⟨hheld, fun heq => ?_⟩, hinactive, fun ht => hrel (hrest _ ht)⟩
    rw [Set.mem_singleton_iff.mp heq] at hrel
    exact hrel hmem

lemma lost_takeBack {token : T} {rest : List (Msg T)}
    (hqueue : s.queue = .release token :: rest) (t : T) :
    Lost (s.takeBack token rest) t ↔ Lost s t := by
  have hawait : Awaited (s.takeBack token rest) t ↔ Awaited s t := Iff.rfl
  -- the token taken back is queued before and not held behind it, so it is lost in neither state
  unfold Lost
  rw [hawait, hqueue]
  simp only [State.takeBack, Set.mem_sdiff, Set.mem_singleton_iff, List.mem_cons,
    Msg.release.injEq, not_or]
  tauto

/-- Removing an answer brings none. -/
lemma replies_drop (serial : ℕ) {n : ℕ} (h : s.replies n = none) :
    (s.drop serial).replies n = none := by
  show Function.update s.replies serial none n = none
  rw [Function.update_apply]
  split
  · rfl
  · exact h

lemma Invariant.accept (h : Invariant s) {serial : ℕ} {token : T}
    (hreply : s.replies serial = some token) (hwait : s.waiting = some serial) :
    Invariant (s.accept serial token) := by
  obtain ⟨hheld, -, hrel⟩ := h.awaited token ⟨serial, hwait, hreply⟩
  have hnone : ∀ n, s.replies n = none → (s.accept serial token).replies n = none :=
    fun n hn => replies_drop serial hn
  refine ⟨fun t ht => ?_, fun t hmem => ?_, h.nodup, fun t ha => ?_, fun n hmem => ?_,
    fun n hle => hnone n (h.replies n hle), fun n hw => by cases hw⟩
  · rcases ht with heq | ht
    · rw [heq]
      exact hheld
    · exact h.active t ht
  · obtain ⟨hheld', hnot⟩ := h.released t hmem
    refine ⟨hheld', fun ht => ?_⟩
    rcases ht with heq | ht
    · rw [heq] at hmem
      exact hrel hmem
    · exact hnot ht
  · exact absurd ha (not_awaited_of_idle rfl t)
  · exact ⟨(h.requests n hmem).1, hnone n (h.requests n hmem).2⟩

lemma lost_accept {serial : ℕ} {token : T} (hreply : s.replies serial = some token)
    (hwait : s.waiting = some serial) (t : T) :
    Lost (s.accept serial token) t ↔ Lost s t := by
  have hnew : ¬ Awaited (s.accept serial token) t := not_awaited_of_idle rfl t
  -- the client awaits this token only, and has it now
  have hold : Awaited s t ↔ t = token := by
    constructor
    · intro ha
      obtain ⟨n, hw, hn⟩ := ha
      rw [hwait] at hw
      rw [← Option.some.inj hw, hreply] at hn
      exact (Option.some.inj hn).symm
    · intro ht
      exact ⟨serial, hwait, by rw [ht]; exact hreply⟩
  unfold Lost
  simp only [hnew, hold, not_false_eq_true, and_true]
  simp only [State.accept, Set.mem_insert_iff, not_or]
  tauto

lemma awaited_drop {serial : ℕ} (hwait : s.waiting ≠ some serial) (t : T) :
    Awaited (s.drop serial) t ↔ Awaited s t := by
  unfold Awaited
  refine exists_congr fun n => and_congr_right fun hw => ?_
  have hne : n ≠ serial := by
    intro heq
    have hw : s.waiting = some n := hw
    rw [heq] at hw
    exact hwait hw
  show Function.update s.replies serial none n = some t ↔ _
  rw [Function.update_of_ne hne]

lemma Invariant.drop (h : Invariant s) {serial : ℕ} (hwait : s.waiting ≠ some serial) :
    Invariant (s.drop serial) := by
  have hnone : ∀ n, s.replies n = none → (s.drop serial).replies n = none :=
    fun n hn => replies_drop serial hn
  refine ⟨h.active, h.released, h.nodup, fun t ha => ?_, fun n hmem => ?_,
    fun n hle => hnone n (h.replies n hle), h.waiting⟩
  · exact h.awaited t ((awaited_drop hwait t).mp ha)
  · exact ⟨(h.requests n hmem).1, hnone n (h.requests n hmem).2⟩

lemma lost_drop {serial : ℕ} (hwait : s.waiting ≠ some serial) (t : T) :
    Lost (s.drop serial) t ↔ Lost s t := by
  unfold Lost
  rw [awaited_drop hwait]
  rfl

lemma Invariant.giveUp (h : Invariant s) : Invariant s.giveUp where
  active := h.active
  released := h.released
  nodup := h.nodup
  awaited t ha := absurd ha (not_awaited_of_idle rfl t)
  requests := h.requests
  replies := h.replies
  waiting n hw := by cases hw

/-- Waiting no longer loses the token whose answer is on its way. -/
lemma lost_giveUp (h : Invariant s) (t : T) :
    Lost s.giveUp t ↔ Lost s t ∨ Awaited s t := by
  have hnew : ¬ Awaited s.giveUp t := not_awaited_of_idle rfl t
  -- an awaited token is held, and neither active nor on its way back
  have hold := h.awaited t
  unfold Lost
  simp only [hnew, not_false_eq_true, and_true]
  simp only [State.giveUp]
  tauto

end Steps

/-! ## Runs -/

/-- Nothing is in flight. -/
def Quiet (s : State T) : Prop := s.queue = [] ∧ ∀ serial, s.replies serial = none

theorem Invariant.step {s : State T} (h : Invariant s) {e : Event T} (he : Allowed s e) :
    Invariant (step s e) := by
  cases e with
  | request =>
    unfold Grants.step
    dsimp only
    -- a caller that waits for an answer asks nothing
    split
    · exact h
    · exact h.request
  | release token =>
    unfold Grants.step
    dsimp only
    split
    · exact h
    · rename_i hnot
      push Not at hnot
      exact h.release (by simpa using hnot.1) hnot.2
  | handle token replies =>
    unfold Grants.step
    dsimp only
    split
    · exact h
    · rename_i serial rest hqueue
      exact h.grant hqueue (he serial rest hqueue) replies
    · rename_i token' rest hqueue
      exact h.takeBack hqueue
  | deliver serial =>
    unfold Grants.step
    dsimp only
    split
    · exact h
    · rename_i token hreply
      split
      · rename_i hwait
        exact h.accept hreply hwait
      · rename_i hwait
        exact h.drop hwait
  | timeout => exact h.giveUp
  | idle => exact h

/-- No token is lost after a step exactly when none was lost before and the step is timely. -/
theorem lost_step {s : State T} (h : Invariant s) {e : Event T} (he : Allowed s e) :
    (∀ t, ¬ Lost (step s e) t) ↔ (∀ t, ¬ Lost s t) ∧ Timely s e := by
  cases e with
  | request =>
    unfold step
    dsimp only
    split
    · simp [Timely]
    · rename_i hnot
      simp only [lost_request h (by simpa using hnot)]
      simp [Timely]
  | release token =>
    unfold step
    dsimp only
    split
    · simp [Timely]
    · rename_i hnot
      push Not at hnot
      simp only [lost_release (by simpa using hnot.1) hnot.2]
      simp [Timely]
  | handle token replies =>
    unfold step Timely
    dsimp only
    split
    · rename_i hqueue
      simp [hqueue]
    · rename_i serial rest hqueue
      simp only [lost_grant h hqueue (he serial rest hqueue), hqueue, List.cons.injEq,
        Msg.request.injEq]
      -- the token that the step may lose is the one it grants
      constructor
      · intro hlost
        refine ⟨fun t ht => hlost t (Or.inl ht), fun n rest' hn => ?_⟩
        rw [← hn.1]
        by_contra hnot
        exact hlost token (Or.inr ⟨rfl, hnot⟩)
      · intro hboth t ht
        rcases ht with ht | ⟨-, hnot⟩
        · exact hboth.1 t ht
        · exact hnot (hboth.2 serial rest ⟨rfl, rfl⟩)
    · rename_i token' rest hqueue
      simp only [lost_takeBack hqueue, hqueue]
      simp
  | deliver serial =>
    unfold step
    dsimp only
    split
    · simp [Timely]
    · rename_i token hreply
      split
      · rename_i hwait
        simp only [lost_accept hreply hwait]
        simp [Timely]
      · rename_i hwait
        simp only [lost_drop hwait]
        simp [Timely]
  | timeout =>
    unfold step Timely
    dsimp only
    simp only [lost_giveUp h, not_or, forall_and]
    refine and_congr_right fun _ => ?_
    constructor
    · intro hawait serial hw
      by_contra hsome
      obtain ⟨token, htoken⟩ := Option.ne_none_iff_exists'.mp hsome
      exact hawait token ⟨serial, hw, htoken⟩
    · intro htimely t ha
      obtain ⟨serial, hw, hreply⟩ := ha
      rw [htimely serial hw] at hreply
      cases hreply
  | idle => simp [step, Timely]

/-- When nothing is in flight, the two sides agree exactly when no token is lost. -/
theorem agree_iff {s : State T} (h : Invariant s) (hquiet : Quiet s) :
    s.held = s.active ↔ ∀ t, ¬ Lost s t := by
  have hlost : ∀ t, Lost s t ↔ t ∈ s.held ∧ t ∉ s.active := by
    intro t
    unfold Lost Awaited
    simp [hquiet.1, hquiet.2]
  simp only [hlost, not_and, not_not]
  constructor
  · intro heq t ht
    rw [← heq]
    exact ht
  · intro hsub
    exact Set.Subset.antisymm hsub h.active

end Grants
