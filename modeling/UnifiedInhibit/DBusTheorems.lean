import UnifiedInhibit.DBus

/-!
# Pairing of calls and returns in monitor mode

`methodCalls` is keyed by the serial alone. `Paired` is the invariant that ties it and the
callbacks made to the messages seen so far; a message keeps it as long as it does not meet the
recorded call of another connection (`Uncrossed`).
-/

namespace UnifiedInhibit
namespace DBus

variable {W : Type} {D : Dispatcher W}

/-! ## Looking a method up -/

/-- A method found by member and interface is also found by the member alone. -/
lemma find?_of_lookup {msg : Message} {method : MethodCB W} {methods : List (MethodCB W)}
    (h : lookup MethodCB.interface MethodCB.member msg methods = .ok (some method)) :
    ∃ m, methods.find? (fun m => m.member = msg.member) = some m := by
  induction methods with
  | nil => cases h
  | cons a as ih =>
    rw [List.find?_cons]
    by_cases hmem : a.member = msg.member
    · exact ⟨a, by rw [decide_eq_true hmem]⟩
    · unfold lookup at h
      rw [if_neg hmem] at h
      rw [decide_eq_false hmem]
      exact ih h

/-! ## What one message does in implementation mode -/

/-- An observed call is handed to the callback of the method that is found. -/
lemma deliver_method (hmon : D.monitor = false) {msg : Message} (hobs : D.Observed msg)
    (htype : msg.type = .methodCall) {method : MethodCB W}
    (h : lookup MethodCB.interface MethodCB.member msg D.myMethods = .ok (some method))
    (s : State W) : D.deliver s msg = (s.call method msg none).2 := by
  unfold Dispatcher.deliver Dispatcher.dispatch
  rw [if_neg hobs.1, if_neg hobs.2, htype]
  dsimp only
  rw [h]
  dsimp only
  rw [if_neg (by rw [hmon]; decide)]

/-- An observed signal is handed to the callback that is found. -/
lemma deliver_signal {msg : Message} (hobs : D.Observed msg) (htype : msg.type = .signal)
    {signal : SignalCB W}
    (h : lookup SignalCB.interface SignalCB.member msg D.mySignals = .ok (some signal))
    (s : State W) : D.deliver s msg = { s with world := (signal.callback msg s.world).2 } := by
  unfold Dispatcher.deliver Dispatcher.dispatch
  rw [if_neg hobs.1, if_neg hobs.2, htype]
  dsimp only
  rw [h]

/-! ## What every message keeps -/

/-- What each callback keeps is kept by each message. -/
lemma deliver_keeps {I : W → Prop}
    (hmethods : ∀ method ∈ D.myMethods, ∀ msg ret w, I w → I (method.callback msg ret w).2)
    (hsignals : ∀ signal ∈ D.mySignals, ∀ msg w, I w → I (signal.callback msg w).2)
    {s : State W} (hs : I s.world) (msg : Message) : I (D.deliver s msg).world := by
  unfold Dispatcher.deliver Dispatcher.dispatch
  split
  · exact hs
  split
  · exact hs
  split
  · split
    · exact hs
    · exact hs
    · rename_i method hfound
      split
      · exact hs
      · exact hmethods method (lookup_ok hfound).1 msg none s.world hs
  · split
    · exact hs
    · rename_i callMsg _
      split
      · exact hs
      · rename_i method hfound
        -- the recorded call is handed over together with its return
        have hkeep := hmethods method (List.mem_of_find?_eq_some hfound) callMsg (some msg)
          s.world hs
        split
        · rename_i hcall
          exact (congrArg (fun r => I r.2.world) hcall) ▸ hkeep
        · rename_i hcall
          exact (congrArg (fun r => I r.2.world) hcall) ▸ hkeep
  · split
    · exact hs
    · exact hs
    · rename_i signal hfound
      exact hsignals signal (lookup_ok hfound).1 msg s.world hs
  · exact hs

/-! ## What one message does in monitor mode -/

/-- The callbacks made for the call `msg`. -/
def usesOf (msg : Message) (s : State W) : List (Message × Option Message) :=
  s.invoked.filter fun p => p.1 = msg

/-- A message other than a listed call and an observed return leaves the recorded calls and the
callbacks alone. -/
lemma deliver_other {s : State W} {msg : Message} (hcall : ¬ D.Listed msg)
    (hret : ¬ (D.Observed msg ∧ msg.type = .methodReturn)) :
    (D.deliver s msg).methodCalls = s.methodCalls ∧ (D.deliver s msg).invoked = s.invoked := by
  unfold Dispatcher.deliver Dispatcher.dispatch
  split
  · exact ⟨rfl, rfl⟩
  rename_i hname
  split
  · exact ⟨rfl, rfl⟩
  rename_i hname2
  have hobs : D.Observed msg := ⟨hname, hname2⟩
  split
  · rename_i htype
    split
    · exact ⟨rfl, rfl⟩
    · exact ⟨rfl, rfl⟩
    · rename_i method hlookup
      exact absurd ⟨hobs, htype, method, hlookup⟩ hcall
  · rename_i htype
    exact absurd ⟨hobs, htype⟩ hret
  · split
    · exact ⟨rfl, rfl⟩
    · exact ⟨rfl, rfl⟩
    · exact ⟨rfl, rfl⟩
  · exact ⟨rfl, rfl⟩

/-- A listed call is recorded unless its serial is already taken. -/
lemma deliver_call_eq (hmon : D.monitor = true) (s : State W) {msg : Message} (h : D.Listed msg) :
    D.deliver s msg = { s with methodCalls := s.methodCalls.insertIfNew msg.serial msg } := by
  obtain ⟨hobs, htype, method, hlookup⟩ := h
  unfold Dispatcher.deliver Dispatcher.dispatch
  rw [if_neg hobs.1, if_neg hobs.2, htype]
  dsimp only
  rw [hlookup]
  dsimp only
  rw [if_pos hmon]

lemma deliver_call (hmon : D.monitor = true) {s : State W} {msg : Message} (h : D.Listed msg) :
    (D.deliver s msg).methodCalls = s.methodCalls.insertIfNew msg.serial msg ∧
      (D.deliver s msg).invoked = s.invoked := by
  rw [deliver_call_eq hmon s h]
  exact ⟨rfl, rfl⟩

/-- A return whose serial is not recorded does nothing. -/
lemma deliver_return_none {s : State W} {msg : Message} (hobs : D.Observed msg)
    (htype : msg.type = .methodReturn) (h : s.methodCalls[msg.replySerial]? = none) :
    D.deliver s msg = s := by
  unfold Dispatcher.deliver Dispatcher.dispatch
  rw [if_neg hobs.1, if_neg hobs.2, htype]
  dsimp only
  rw [h]

/-- A return whose serial is recorded is given to a callback with the recorded call, and the
record is erased unless the callback throws. -/
lemma deliver_return_some {s : State W} {msg c : Message} (hobs : D.Observed msg)
    (htype : msg.type = .methodReturn) (h : s.methodCalls[msg.replySerial]? = some c)
    (hc : D.Listed c) :
    (D.deliver s msg).invoked = s.invoked ++ [(c, some msg)] ∧
      ((D.deliver s msg).methodCalls = s.methodCalls ∨
        (D.deliver s msg).methodCalls = s.methodCalls.erase msg.replySerial) := by
  obtain ⟨-, -, method, hlookup⟩ := hc
  obtain ⟨m, hm⟩ := find?_of_lookup hlookup
  unfold Dispatcher.deliver Dispatcher.dispatch
  rw [if_neg hobs.1, if_neg hobs.2, htype]
  dsimp only
  rw [h]
  dsimp only
  rw [hm]
  dsimp only
  unfold State.call
  rcases m.callback c (some msg) s.world with ⟨res, w⟩
  cases res with
  | error e => exact ⟨rfl, Or.inl rfl⟩
  | ok u => exact ⟨rfl, Or.inr rfl⟩

/-- A return of a recorded call whose callback returns. -/
lemma deliver_return_ok {s : State W} {msg c : Message} (hobs : D.Observed msg)
    (htype : msg.type = .methodReturn) (h : s.methodCalls[msg.replySerial]? = some c)
    {method : MethodCB W}
    (hmethod : D.myMethods.find? (fun m => m.member = c.member) = some method) {w : W}
    (hw : method.callback c (some msg) s.world = (.ok (), w)) :
    D.deliver s msg =
      { methodCalls := s.methodCalls.erase msg.replySerial
        world := w
        invoked := s.invoked ++ [(c, some msg)] } := by
  unfold Dispatcher.deliver Dispatcher.dispatch
  rw [if_neg hobs.1, if_neg hobs.2, htype]
  dsimp only
  rw [h]
  dsimp only
  rw [hmethod]
  dsimp only
  unfold State.call
  rw [hw]

/-! ## The invariant -/

/-- The message does not meet the recorded call of another connection: a listed call arrives while
its serial is not recorded, and a return whose serial is recorded is addressed to the sender of
the recorded call. -/
def Uncrossed (D : Dispatcher W) (s : State W) (msg : Message) : Prop :=
  (D.Listed msg → s.methodCalls[msg.serial]? = none) ∧
    (D.Observed msg → msg.type = .methodReturn → ∀ c, s.methodCalls[msg.replySerial]? = some c →
      msg.destination = some c.sender)

/-- What holds after the messages `seen`. -/
structure Paired (D : Dispatcher W) (seen : List Message) (s : State W) : Prop where
  recorded : ∀ n c, s.methodCalls[n]? = some c → c.serial = n ∧ c ∈ seen ∧ D.Listed c
  paired : ∀ c x, (c, x) ∈ s.invoked →
    c ∈ seen ∧ D.Listed c ∧ ∃ r ∈ seen, x = some r ∧ Returns c r
  pending : ∀ c ∈ seen, D.Listed c → usesOf c s = [] → s.methodCalls[c.serial]? = some c
  once : ∀ c, usesOf c s = [] ∨ ∃ r, usesOf c s = [(c, some r)]
  answered : ∀ c r, [c, r].Sublist seen → D.Listed c → D.Observed r → Returns c r →
    usesOf c s = [(c, some r)]

lemma Paired.initial (w : W) : Paired D [] { world := w } where
  recorded n c h := by
    rw [show ({ world := w } : State W).methodCalls = ∅ from rfl, Std.ExtTreeMap.getElem?_empty]
      at h
    cases h
  paired c x h := absurd h List.not_mem_nil
  pending c h := absurd h List.not_mem_nil
  once c := Or.inl rfl
  answered c r h := by
    have := h.length_le
    simp at this

/-- The pairs of a list with one more element at its end. -/
lemma pair_sublist_snoc {α : Type} {a b x : α} {l : List α} :
    [a, b].Sublist (l ++ [x]) → [a, b].Sublist l ∨ (a ∈ l ∧ b = x) := by
  intro h
  obtain ⟨l₁, l₂, hab, h₁, h₂⟩ := List.sublist_append_iff.mp h
  have hlen := h₂.length_le
  rcases l₂ with _ | ⟨y, _ | ⟨z, l₂⟩⟩
  · left
    rw [List.append_nil] at hab
    rw [hab]
    exact h₁
  · right
    have hy : y = x := by
      have := h₂.subset (List.mem_singleton_self y)
      exact List.mem_singleton.mp this
    have hcons : [a] ++ [b] = l₁ ++ [y] := hab
    obtain ⟨ha, hb⟩ := List.append_inj' hcons rfl
    refine ⟨h₁.subset (by rw [← ha]; exact List.mem_singleton_self a), ?_⟩
    rw [← hy]
    exact (List.cons.inj hb).1
  · simp at hlen

/-- A call whose return arrives only now has not been used. -/
lemma Paired.unused {seen : List Message} {s : State W} (h : Paired D seen s) {c msg : Message}
    (hret : ∀ r ∈ seen, r.type = .methodReturn → msg.type = .methodReturn →
      r.destination = msg.destination → r.replySerial ≠ msg.replySerial)
    (hmsg : Returns c msg) : usesOf c s = [] := by
  rcases h.once c with hnil | ⟨r, hr⟩
  · exact hnil
  · have hmem : (c, some r) ∈ usesOf c s := by
      rw [hr]
      exact List.mem_singleton_self _
    obtain ⟨-, -, r', hr', heq, hret'⟩ := h.paired c _ (List.mem_filter.mp hmem).1
    rw [← Option.some.inj heq] at hr' hret'
    exact absurd (hret'.2.1.trans hmsg.2.1.symm)
      (hret r hr' hret'.1 hmsg.1 (hret'.2.2.trans hmsg.2.2.symm))

/-- A message that leaves records and callbacks alone, and is neither a listed call nor a return
of a call waiting for one, keeps the invariant. -/
lemma Paired.same {seen : List Message} {s s' : State W} (h : Paired D seen s) {msg : Message}
    (hcalls : s'.methodCalls = s.methodCalls) (hinv : s'.invoked = s.invoked)
    (hcall : ¬ D.Listed msg)
    (hret : ∀ c ∈ seen, D.Listed c → D.Observed msg → Returns c msg → False) :
    Paired D (seen ++ [msg]) s' := by
  have huses : ∀ c, usesOf c s' = usesOf c s := fun c => by
    unfold usesOf
    rw [hinv]
  refine ⟨fun n c hc => ?_, fun c x hx => ?_, fun c hc hl hu => ?_, fun c => ?_,
    fun c r hcr hl ho hr => ?_⟩
  · rw [hcalls] at hc
    obtain ⟨hn, hmem, hl⟩ := h.recorded n c hc
    exact ⟨hn, List.mem_append_left _ hmem, hl⟩
  · rw [hinv] at hx
    obtain ⟨hmem, hl, r, hr, hxr, hret⟩ := h.paired c x hx
    exact ⟨List.mem_append_left _ hmem, hl, r, List.mem_append_left _ hr, hxr, hret⟩
  · rcases List.mem_append.mp hc with hc | hc
    · rw [hcalls]
      exact h.pending c hc hl (by rw [← huses]; exact hu)
    · rw [List.mem_singleton.mp hc] at hl
      exact absurd hl hcall
  · rw [huses]
    exact h.once c
  · rw [huses]
    rcases pair_sublist_snoc hcr with hold | ⟨hc, heq⟩
    · exact h.answered c r hold hl ho hr
    · rw [heq] at ho hr
      exact (hret c hc hl ho hr).elim

/-- Recording a listed call under a free serial keeps the invariant. -/
lemma Paired.record {seen : List Message} {s s' : State W} (h : Paired D seen s) {msg : Message}
    (hl : D.Listed msg) (hfree : s.methodCalls[msg.serial]? = none)
    (hcalls : s'.methodCalls = s.methodCalls.insertIfNew msg.serial msg)
    (hinv : s'.invoked = s.invoked) : Paired D (seen ++ [msg]) s' := by
  -- no callback is called
  have huses : ∀ c, usesOf c s' = usesOf c s := fun c => by
    unfold usesOf
    rw [hinv]
  have hlook : ∀ n, s'.methodCalls[n]? =
      if n = msg.serial then some msg else s.methodCalls[n]? := by
    intro n
    rw [hcalls, StdMap.getElem?_insertIfNew]
    simp only [hfree, and_true]
  refine ⟨fun n c hc => ?_, fun c x hx => ?_, fun c hc hl hu => ?_, fun c => ?_,
    fun c r hcr hl' ho hr => ?_⟩
  · rw [hlook] at hc
    split at hc
    · rename_i hn
      cases hc
      exact ⟨hn.symm, List.mem_append_right _ (List.mem_singleton_self _), hl⟩
    · obtain ⟨hn, hmem, hl⟩ := h.recorded n c hc
      exact ⟨hn, List.mem_append_left _ hmem, hl⟩
  · rw [hinv] at hx
    obtain ⟨hmem, hl, r, hr, hxr, hret⟩ := h.paired c x hx
    exact ⟨List.mem_append_left _ hmem, hl, r, List.mem_append_left _ hr, hxr, hret⟩
  · rw [hlook]
    rcases List.mem_append.mp hc with hc | hc
    · have hold := h.pending c hc hl (by rw [← huses]; exact hu)
      rw [if_neg]
      · exact hold
      · intro heq
        rw [heq, hfree] at hold
        cases hold
    · rw [List.mem_singleton.mp hc, if_pos rfl]
  · rw [huses]
    exact h.once c
  · rw [huses]
    rcases pair_sublist_snoc hcr with hold | ⟨-, heq⟩
    · exact h.answered c r hold hl' ho hr
    · -- a call is not a return
      have htype := hr.1
      rw [heq, hl.2.1] at htype
      cases htype

/-- Handing a recorded call and its return to a callback keeps the invariant, whether the record
is erased or not. -/
lemma Paired.use {seen : List Message} {s s' : State W} (h : Paired D seen s) {msg c₀ : Message}
    (hret : ∀ r ∈ seen, r.type = .methodReturn → msg.type = .methodReturn →
      r.destination = msg.destination → r.replySerial ≠ msg.replySerial)
    (hrec : s.methodCalls[msg.replySerial]? = some c₀) (hmsg : Returns c₀ msg)
    (hinv : s'.invoked = s.invoked ++ [(c₀, some msg)])
    (hcalls : s'.methodCalls = s.methodCalls ∨
      s'.methodCalls = s.methodCalls.erase msg.replySerial) :
    Paired D (seen ++ [msg]) s' := by
  obtain ⟨hserial, hseen, hl₀⟩ := h.recorded _ _ hrec
  have huses : ∀ c, usesOf c s' = usesOf c s ++ if c₀ = c then [(c₀, some msg)] else [] := by
    intro c
    unfold usesOf
    rw [hinv, List.filter_append, List.filter_cons, List.filter_nil]
    by_cases hc : c₀ = c <;> simp [hc]
  -- an earlier use would have been of a return with the same serial
  have hunused : usesOf c₀ s = [] := h.unused hret hmsg
  have hnotcall : ¬ D.Listed msg := by
    intro hl
    have htype := hl.2.1
    rw [hmsg.1] at htype
    cases htype
  -- erasing only takes records away
  have hkept : ∀ (n : UInt32) (c : Message),
      s'.methodCalls[n]? = some c → s.methodCalls[n]? = some c := by
    intro n c hc
    rcases hcalls with hsame | herase
    · rw [hsame] at hc
      exact hc
    · rw [herase, StdMap.getElem?_erase] at hc
      split at hc
      · cases hc
      · exact hc
  refine ⟨fun n c hc => ?_, fun c x hx => ?_, fun c hc hl hu => ?_, fun c => ?_,
    fun c r hcr hl ho hr => ?_⟩
  · obtain ⟨hn, hmem, hl⟩ := h.recorded n c (hkept n c hc)
    exact ⟨hn, List.mem_append_left _ hmem, hl⟩
  · -- the pairing is the new one or an old one
    rw [hinv] at hx
    rcases List.mem_append.mp hx with hx | hx
    · obtain ⟨hmem, hl, r, hr, hxr, hret⟩ := h.paired c x hx
      exact ⟨List.mem_append_left _ hmem, hl, r, List.mem_append_left _ hr, hxr, hret⟩
    · cases List.mem_singleton.mp hx
      exact ⟨List.mem_append_left _ hseen, hl₀, msg,
        List.mem_append_right _ (List.mem_singleton_self _), rfl, hmsg⟩
  · rw [huses] at hu
    obtain ⟨hold, hif⟩ := List.append_eq_nil_iff.mp hu
    have hne : c₀ ≠ c := by
      intro heq
      rw [if_pos heq] at hif
      cases hif
    rcases List.mem_append.mp hc with hc | hc
    · have hpend := h.pending c hc hl hold
      rcases hcalls with hsame | herase
      · rw [hsame]
        exact hpend
      · -- the erased record is the one of `c₀`, not of `c`
        rw [herase, StdMap.getElem?_erase, if_neg]
        · exact hpend
        · intro heq
          rw [heq, hrec] at hpend
          exact hne (Option.some.inj hpend)
    · rw [List.mem_singleton.mp hc] at hl
      exact absurd hl hnotcall
  · rw [huses]
    by_cases hc : c₀ = c
    · rw [← hc, hunused, if_pos rfl]
      exact Or.inr ⟨msg, rfl⟩
    · rw [if_neg hc, List.append_nil]
      exact h.once c
  · rw [huses]
    rcases pair_sublist_snoc hcr with hold | ⟨hc, heq⟩
    · have hused := h.answered c r hold hl ho hr
      have hne : c₀ ≠ c := by
        intro heq
        rw [← heq, hunused] at hused
        cases hused
      rw [if_neg hne, List.append_nil]
      exact hused
    · -- the return is this message, and the call's record is the one it meets
      subst heq
      have hnone := h.unused hret hr
      have hpend := h.pending c hc hl hnone
      rw [← hr.2.1, hrec] at hpend
      have hsame := Option.some.inj hpend
      rw [hnone, if_pos hsame, hsame]
      rfl

/-- Every message that does not meet another connection's record keeps the invariant. -/
lemma Paired.deliver (hmon : D.monitor = true) {seen : List Message} {s : State W} {msg : Message}
    (h : Paired D seen s) (hwf : ReturnsUnique (seen ++ [msg])) (hok : Uncrossed D s msg) :
    Paired D (seen ++ [msg]) (D.deliver s msg) := by
  have hret := fun m hm => (List.pairwise_append.mp hwf).2.2 m hm msg
    (List.mem_singleton_self _)
  by_cases hcall : D.Listed msg
  · obtain ⟨hcalls, hinv⟩ := deliver_call hmon (s := s) hcall
    exact h.record hcall (hok.1 hcall) hcalls hinv
  · by_cases hreturn : D.Observed msg ∧ msg.type = .methodReturn
    · obtain ⟨hobs, htype⟩ := hreturn
      cases hrec : s.methodCalls[msg.replySerial]? with
      | none =>
        rw [deliver_return_none hobs htype hrec]
        refine h.same rfl rfl hcall fun c hc hl _ hmsg => ?_
        have hpend := h.pending c hc hl (h.unused hret hmsg)
        rw [← hmsg.2.1, hrec] at hpend
        cases hpend
      | some c₀ =>
        obtain ⟨hs, -, hl₀⟩ := h.recorded _ _ hrec
        obtain ⟨hinv, hcalls⟩ := deliver_return_some hobs htype hrec hl₀
        exact h.use hret hrec ⟨htype, hs.symm, hok.2 hobs htype c₀ hrec⟩ hinv hcalls
    · obtain ⟨hcalls, hinv⟩ := deliver_other (s := s) hcall hreturn
      exact h.same hcalls hinv hcall fun c _ _ hobs hmsg => hreturn ⟨hobs, hmsg.1⟩

lemma Paired.run (hmon : D.monitor = true) (w : W) {msgs : List Message}
    (hwf : ReturnsUnique msgs)
    (hrun : Transition.Along D.deliver (Uncrossed D) { world := w } msgs) :
    Paired D msgs (Transition.run D.deliver { world := w } msgs) := by
  induction msgs using List.reverseRecOn with
  | nil => exact Paired.initial w
  | append_singleton seen msg ih =>
    obtain ⟨hseen, hok⟩ := Transition.along_snoc.mp hrun
    have hwf' : ReturnsUnique seen := (List.pairwise_append.mp hwf).1
    rw [Transition.run_snoc]
    exact (ih hwf' hseen).deliver hmon hwf hok

/-- A callback gets a call and the return addressed to that call's sender; a listed call followed
by its return gets exactly the one callback with it; and no call is used twice. -/
structure RepliesPaired (D : Dispatcher W) (msgs : List Message) (s : State W) : Prop where
  own_return : ∀ c x, (c, x) ∈ s.invoked →
    ∃ r, x = some r ∧ r.replySerial = c.serial ∧ r.destination = some c.sender
  answered : ∀ c r, [c, r].Sublist msgs → D.Listed c → D.Observed r → Returns c r →
    usesOf c s = [(c, some r)]
  once : ∀ c, (usesOf c s).length ≤ 1

/-- Replies are paired, whatever the callbacks throw, as long as no message meets the record of
another connection. -/
theorem reply_pairing (hmon : D.monitor = true) (w : W) {msgs : List Message}
    (hwf : ReturnsUnique msgs)
    (hrun : Transition.Along D.deliver (Uncrossed D) { world := w } msgs) :
    RepliesPaired D msgs (Transition.run D.deliver { world := w } msgs) := by
  have h := Paired.run hmon w hwf hrun
  refine ⟨fun c x hx => ?_, h.answered, fun c => ?_⟩
  · obtain ⟨-, -, r, -, hxr, hret⟩ := h.paired c x hx
    exact ⟨r, hxr, hret.2.1, hret.2.2⟩
  · rcases h.once c with hnil | ⟨r, hr⟩
    · rw [hnil]
      exact Nat.zero_le 1
    · rw [hr]
      exact le_refl 1

/-- A monitor of `Inhibit` calls whose callback does nothing. -/
def listener : Dispatcher Unit where
  monitor := true
  mName := lit ":1.9"
  mName2 := lit ":1.8"
  myMethods := [⟨"org.freedesktop.ScreenSaver", "Inhibit", fun _ _ w => (.ok (), w)⟩]
  mySignals := []

/-- The `Inhibit` call with serial 7 of the connection `sender`. -/
def inhibitCall (sender : String) : Message :=
  { type := .methodCall, sender := lit sender, serial := 7,
    interface := some "org.freedesktop.ScreenSaver", member := "Inhibit" }

/-- The return for `inhibitCall client`. -/
def inhibitReturn (client : String) : Message :=
  { type := .methodReturn, sender := lit ":1.5", destination := some (lit client),
    replySerial := 7 }

/-- Two clients happen to use the same serial; the return for the second is handed out with the
call of the first. -/
theorem reply_pairing_fails :
    let msgs := [inhibitCall ":1.1", inhibitCall ":1.2", inhibitReturn ":1.2"]
    SerialsUnique msgs ∧ ReturnsUnique msgs ∧
      (Transition.run listener.deliver { world := () } msgs).invoked =
        [(inhibitCall ":1.1", some (inhibitReturn ":1.2"))] ∧
      ¬ RepliesPaired listener msgs (Transition.run listener.deliver { world := () } msgs) := by
  intro msgs
  have hinv : (Transition.run listener.deliver { world := () } msgs).invoked =
      [(inhibitCall ":1.1", some (inhibitReturn ":1.2"))] := by decide
  refine ⟨?_, ?_, hinv, fun h => ?_⟩
  · unfold SerialsUnique
    decide
  · unfold ReturnsUnique
    decide
  · obtain ⟨r, hr, -, hdest⟩ := h.own_return (inhibitCall ":1.1") (some (inhibitReturn ":1.2"))
      (by rw [hinv]; exact List.mem_singleton_self _)
    rw [← Option.some.inj hr] at hdest
    exact absurd hdest (by decide)

/-- One client whose call is answered. -/
theorem reply_pairing_one :
    usesOf (inhibitCall ":1.1") (Transition.run listener.deliver { world := () }
      [inhibitCall ":1.1", inhibitReturn ":1.1"]) =
        [(inhibitCall ":1.1", some (inhibitReturn ":1.1"))] := by
  have hwf : ReturnsUnique [inhibitCall ":1.1", inhibitReturn ":1.1"] := by
    unfold ReturnsUnique
    decide
  have hcall : listener.Listed (inhibitCall ":1.1") :=
    ⟨⟨by decide, by decide⟩, rfl, _, rfl⟩
  have hrun : Transition.Along listener.deliver (Uncrossed listener) { world := () }
      [inhibitCall ":1.1", inhibitReturn ":1.1"] := by
    refine ⟨⟨fun _ => rfl, fun _ htype => by cases htype⟩, ⟨fun hl => ?_, fun _ _ c hc => ?_⟩,
      trivial⟩
    · have htype := hl.2.1
      cases htype
    · have hrec : some (inhibitCall ":1.1") = some c := hc
      rw [← Option.some.inj hrec]
      rfl
  exact (reply_pairing rfl () hwf hrun).answered _ _ (List.Sublist.refl _) hcall
    ⟨by decide, by decide⟩ ⟨rfl, rfl, rfl⟩

end DBus
end UnifiedInhibit
