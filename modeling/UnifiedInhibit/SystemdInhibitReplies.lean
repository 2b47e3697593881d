import UnifiedInhibit.SystemdInhibitIds

/-!
# One answer for each request to login1

A request is a line with exactly three tabs. `handleMsg` answers it with one number and returns
exactly when login1 answers every call made for it with a message or with AccessDenied. Any other
error is thrown out of `handleMsg` and ends the child, so that the `doInhibit` waiting for the
answer reads nothing.

Between `doInhibit` and `handleMsg` stands a `read` of at most 1024 bytes. A request that fills it
is handled in parts, and each part with three tabs is answered, so that requests of the interface
are taken to be shorter.
-/

namespace UnifiedInhibit

namespace SystemdInhibitFork

open NewlineMessageFork (newline)

/-! ## The lines of the child -/

/-- The child handles a line. -/
def serve (login1 : Login1) (s : State) (line : Bytes) : State := (handleMsg login1 line s).2

/-- `line` is answered with the number `n` only, and `doRun` goes on with the next line. -/
structure Answers (login1 : Login1) (s : State) (line : Bytes) (n : ℤ) : Prop where
  returns : (handleMsg login1 line s).1 = .ok ()
  out : (serve login1 s line).out = s.out ++ (Decimal.toString n ++ [newline])

/-- The first field of a line. -/
def whatOf (line : Bytes) : Bytes := line.takeWhile (· ≠ tab)

/-- login1 answers all calls that are made for the line with a message or with AccessDenied. -/
def Served (login1 : Login1) (s : State) (line : Bytes) : Prop :=
  Granted login1 s.calls.length (whatOf line) ∨ Refused login1 s.calls.length (whatOf line)

lemma fields_eq (what who why mode : Bytes) :
    fields what who why mode = what ++ tab :: (who ++ tab :: (why ++ tab :: mode)) := by
  unfold fields
  simp

/-- A line with three tabs has four fields. -/
lemma exists_fields {line : Bytes} (h : line.count tab = 3) :
    ∃ what who why mode, tab ∉ what ∧ tab ∉ who ∧ tab ∉ why ∧ tab ∉ mode ∧
      line = fields what who why mode := by
  -- the bytes up to the next tab, and those behind it
  have hnext : ∀ (k : ℕ) (xs : Bytes), xs.count tab = k + 1 →
      ∃ x ys, tab ∉ x ∧ xs = x ++ tab :: ys ∧ ys.count tab = k := by
    intro k xs hk
    have hmem : tab ∈ xs := List.count_pos_iff.mp (by omega)
    obtain ⟨x, ys, hxs, hx⟩ := List.eq_append_cons_of_mem hmem
    refine ⟨x, ys, hx, hxs, ?_⟩
    rw [hxs, List.count_append, List.count_cons_self, List.count_eq_zero.mpr hx] at hk
    omega
  obtain ⟨what, xs, hwhat, hline, hxs⟩ := hnext 2 line h
  obtain ⟨who, ys, hwho, hxs', hys⟩ := hnext 1 xs hxs
  obtain ⟨why, mode, hwhy, hys', hmode⟩ := hnext 0 ys hys
  refine ⟨what, who, why, mode, hwhat, hwho, hwhy, List.count_eq_zero.mp hmode, ?_⟩
  rw [hline, hxs', hys', fields_eq]

lemma whatOf_fields {what : Bytes} (h : tab ∉ what) (who why mode : Bytes) :
    whatOf (fields what who why mode) = what := by
  have hne : ∀ b ∈ what, decide (b ≠ tab) = true := by
    intro b hb
    exact decide_eq_true fun heq => h (heq ▸ hb)
  unfold whatOf
  rw [fields_eq, List.takeWhile_append_of_pos hne, List.takeWhile_cons_of_neg (by simp),
    List.append_nil]

variable {login1 : Login1}

variable (login1) in
/-- A call is answered with a message, denied, or ends `handleMsg`. -/
lemma call_cases (k : ℕ) :
    (∃ file, login1 k = .ok (.fd file)) ∨ login1 k = .ok .null ∨
      login1 k = .error DBus.accessDenied ∨
      ∀ what who why mode (s : State), s.calls.length = k →
        ∃ e s', call login1 what who why mode s = (.error e, s') ∧ e ≠ DBus.accessDenied := by
  unfold call
  dsimp only
  rcases hanswer : login1 k with e | reply
  · by_cases hdenied : e = DBus.accessDenied
    · rw [hdenied]
      exact .inr (.inr (.inl rfl))
    · refine .inr (.inr (.inr fun what who why mode s hk => ?_))
      rw [hk, hanswer]
      refine ⟨_, _, rfl, ?_⟩
      -- NoReply becomes another exception, and no other error is translated
      split
      · simp [DBus.accessDenied]
      · exact hdenied
  · cases reply with
    | null => exact .inr (.inl rfl)
    | fd file => exact .inl ⟨file, rfl⟩
    | other =>
      refine .inr (.inr (.inr fun what who why mode s hk => ?_))
      rw [hk, hanswer]
      exact ⟨_, _, rfl, by decide⟩

/-- A request that is not served ends `handleMsg` with an exception. -/
lemma handleMsg_error {what who why mode : Bytes} (hwhat : tab ∉ what) (hwho : tab ∉ who)
    (hwhy : tab ∉ why) (hmode : tab ∉ mode) {s : State}
    (hgrant : ¬ Granted login1 s.calls.length what)
    (hrefuse : ¬ Refused login1 s.calls.length what) :
    ∃ e s', handleMsg login1 (fields what who why mode) s = (.error e, s') := by
  unfold fields
  rw [handleMsg_fields hwhat hwho hwhy hmode]
  rcases call_cases login1 s.calls.length with hfd | hnull | hdenied | herror
  · exact absurd (.inl hfd) hgrant
  · exact absurd (.inl hnull) hrefuse
  · have hidle : (justIdle what).length > 0 := by
      by_contra hzero
      exact hrefuse (.inr ⟨hdenied, .inl (by omega)⟩)
    rw [call_denied hdenied]
    dsimp only
    rw [if_pos rfl, if_pos hidle]
    -- the retry is the next call
    rcases call_cases login1 (s.calls.length + 1) with hfd | hnull | hagain | herror
    · exact absurd (.inr ⟨hdenied, hidle, hfd⟩) hgrant
    · exact absurd (.inr ⟨hdenied, .inr (.inl hnull)⟩) hrefuse
    · exact absurd (.inr ⟨hdenied, .inr (.inr hagain)⟩) hrefuse
    · obtain ⟨e, s', hcall, hne⟩ := herror (justIdle what) who why mode
        { s with calls := s.calls ++ [⟨what, who, why, mode⟩] } (by simp)
      rw [hcall]
      dsimp only
      rw [if_neg hne]
      exact ⟨e, s', rfl⟩
  · obtain ⟨e, s', hcall, hne⟩ := herror what who why mode s rfl
    rw [hcall]
    dsimp only
    rw [if_neg hne]
    exact ⟨e, s', rfl⟩

/-- A request that is served is answered with one number. -/
lemma handleMsg_served {line : Bytes} (htabs : line.count tab = 3) {s : State}
    (hs : Served login1 s line) :
    ∃ (n : ℤ) (s' : State), handleMsg login1 line s = (.ok (), s') ∧
      s'.out = s.out ++ (Decimal.toString n ++ [newline]) ∧
      (n = Descriptors.secondFree s.fds ∨ n = -1) := by
  obtain ⟨what, who, why, mode, hwhat, hwho, hwhy, hmode, hline⟩ := exists_fields htabs
  unfold Served at hs
  rw [hline, whatOf_fields hwhat] at hs
  rw [hline]
  rcases hs with hgrant | hrefuse
  · obtain ⟨file, s', hmsg, -, hout⟩ := handleMsg_granted hwhat hwho hwhy hmode hgrant
    exact ⟨_, s', hmsg, hout, .inl rfl⟩
  · obtain ⟨s', hmsg, -, hout⟩ := handleMsg_refused hwhat hwho hwhy hmode hrefuse
    exact ⟨_, s', hmsg, hout, .inr rfl⟩

lemma answers_of_handleMsg {line : Bytes} {s s' : State} {n : ℤ}
    (hmsg : handleMsg login1 line s = (.ok (), s'))
    (hout : s'.out = s.out ++ (Decimal.toString n ++ [newline])) : Answers login1 s line n := by
  constructor
  · rw [hmsg]
  · unfold serve
    rw [hmsg]
    exact hout

/-- A request is answered if and only if it is served. -/
lemma answers_iff {line : Bytes} (htabs : line.count tab = 3) {s : State} :
    (∃ n, Answers login1 s line n) ↔ Served login1 s line := by
  constructor
  · intro hanswer
    obtain ⟨n, hreturns, -⟩ := hanswer
    obtain ⟨what, who, why, mode, hwhat, hwho, hwhy, hmode, hline⟩ := exists_fields htabs
    by_contra hnot
    unfold Served at hnot
    rw [hline, whatOf_fields hwhat, not_or] at hnot
    obtain ⟨e, s', herror⟩ := handleMsg_error hwhat hwho hwhy hmode hnot.1 hnot.2
    rw [hline, herror] at hreturns
    cases hreturns
  · intro hserved
    obtain ⟨n, s', hmsg, hout, -⟩ := handleMsg_served htabs hserved
    exact ⟨n, answers_of_handleMsg hmsg hout⟩

/-- The lines are all answered once, in order, if and only if they are all served. -/
lemma all_answered_iff {s : State} {lines : List Bytes} (h : ∀ l ∈ lines, l.count tab = 3) :
    Transition.Along (serve login1) (fun s line => ∃ n, Answers login1 s line n) s lines ↔
      Transition.Along (serve login1) (Served login1) s lines := by
  induction lines generalizing s with
  | nil => exact Iff.rfl
  | cons line lines ih =>
    rw [Transition.along_cons, Transition.along_cons, answers_iff (h line List.mem_cons_self),
      ih fun l hl => h l (List.mem_cons_of_mem _ hl)]

end SystemdInhibitFork

namespace SystemdInhibitInterface

open DBus (Message)
open SystemdInhibitFork (tab Answers serve Granted Refused)
open NewlineMessageFork (newline Idle)

/-! ## The requests of the interface -/

variable (cfg : SystemdConfig)

/-- A request for the child is one line with three tabs, which one `read` takes. -/
structure Request (r : InhibitRequest) : Prop where
  tabs : (inhibitLine r).count tab = 3
  newline : newline ∉ inhibitLine r
  short : (inhibitMessage r).length < Fork.bufSize

/-- What the event sends is a request. -/
def OneLine : Event → Prop
  | .inhibit _ _ r => Request r
  | _ => True

/-- The number that `doInhibit` reads is the one answer of the child to this request, and the child
waits for the next line. -/
def ReadsOwn (s : Run) : Event → Prop
  | .inhibit setup now r => Supported r → ∃ n,
      Answers cfg.login1 s.world.obj.sub.fork.state (inhibitLine r) n ∧
        (doInhibit cfg setup now r s.world.obj.sub).1 =
          .ok { r with id := mkId cfg n, created := now } ∧
        Idle (doInhibit cfg setup now r s.world.obj.sub).2.fork
  | _ => True

/-- The child waits, and all its answers have been read. -/
structure Waiting (s : SystemdFields) : Prop where
  idle : Idle s.fork
  out : s.fork.state.out = []

variable {cfg} {s : Run}

/-- Three tabs are left when neither string has one. -/
lemma Request.oneRead {r : InhibitRequest} (h : Request r) : OneRead r := by
  have hwhat := List.count_eq_zero.mpr (us2systemdType_plain r.type).1
  have hmode : (lit "block").count tab = 0 := by decide
  have htabs := h.tabs
  have hnewline := h.newline
  unfold inhibitLine at htabs hnewline
  simp only [List.count_append, List.count_singleton_self, hwhat, hmode] at htabs
  simp only [List.mem_append, not_or] at hnewline
  have hwho : r.appname.count tab = 0 := by omega
  have hwhy : r.reason.count tab = 0 := by omega
  obtain ⟨⟨⟨⟨⟨⟨-, -⟩, hwho'⟩, -⟩, hwhy'⟩, -⟩, -⟩ := hnewline
  exact ⟨⟨⟨List.count_eq_zero.mp hwho, hwho'⟩, List.count_eq_zero.mp hwhy, hwhy'⟩, h.short⟩

lemma whatOf_inhibitLine (r : InhibitRequest) :
    SystemdInhibitFork.whatOf (inhibitLine r) = us2systemdType r.type :=
  SystemdInhibitFork.whatOf_fields (us2systemdType_plain r.type).1 r.appname r.reason (lit "block")

/-- A `doInhibit` whose request is served reads the answer to it. -/
lemma doInhibit_served {f : SystemdFields} (hmon : cfg.monitor = true) (hw : Waiting f)
    {r : InhibitRequest} (hr : Supported r) (hline : Request r) (hstrings : CStrings r)
    (hroom : Room f.fork.state.fds)
    (hserved : SystemdInhibitFork.Served cfg.login1 f.fork.state (inhibitLine r))
    (setup : FifoSetup) (now : ℕ) :
    ∃ (n : ℤ) (child : SystemdInhibitFork.State),
      Answers cfg.login1 f.fork.state (inhibitLine r) n ∧ child.out = [] ∧
        doInhibit cfg setup now r f =
          (.ok { r with id := mkId cfg n, created := now },
            { f with fork := { state := child } }) := by
  obtain ⟨n, c, hmsg, hout, hn⟩ := SystemdInhibitFork.handleMsg_served hline.tabs hserved
  have hfree := hroom.secondFree_lt
  have hlow : -2 ^ 31 ≤ n := by omega
  have hhigh : n < 2 ^ 31 := by omega
  exact ⟨n, { c with out := [] }, SystemdInhibitFork.answers_of_handleMsg hmsg hout, rfl,
    doInhibit_answered hmon hr hw.idle hw.out hline.oneRead hstrings hlow hhigh hmsg hout⟩

/-- A client's message leaves the child alone. -/
lemma fork_handleAsking (hmon : cfg.monitor = true) {ret : Option Message}
    (hret : ret.isSome = cfg.monitor) (setup : FifoSetup) (now : ℕ)
    (creds : Except Exn (UInt32 × UInt32)) (readable : Bool) (msg : Message)
    (w : Alone SystemdFields) :
    (handleAsking cfg setup now creds readable msg ret w).obj.sub.fork = w.obj.sub.fork := by
  obtain ⟨pidUid, hw⟩ :=
    handleAsking_monitor setup msg ret now creds readable w hmon hret
  rw [hw]
  by_cases h : Requests cfg msg ret
  · obtain ⟨i, threads, -, -, hsub, -⟩ := handleAlone_monitor setup now pidUid readable w hmon h
    rw [hsub]
  · rw [handleAlone_other now pidUid readable w hret h]

/-- The release of an inhibit is a line that the child does not answer. -/
lemma Waiting.unInhibit (hmon : cfg.monitor = true) {o : InhibitInterface SystemdFields}
    (h : Waiting o.sub) (id : InhibitID) :
    Waiting (InhibitInterface.unInhibit (overrides cfg {}) id o).2.sub := by
  have hrelease := doUnInhibit_fdOf hmon h.idle o.toBase id
  cases hactive : o.activeInhibits[id]? with
  | none =>
    unfold InhibitInterface.unInhibit
    rw [hactive]
    exact h
  | some i =>
    rw [(noEvents cfg {}).unInhibit_sub hactive hrelease]
    constructor
    · exact ⟨rfl, rfl⟩
    · show (SystemdInhibitFork.close (fdOf id) o.sub.fork.state).out = []
      rw [SystemdInhibitFork.close_out, h.out]

/-- What the condition says about a supported request. -/
lemma served_inhibit_iff (hmon : cfg.monitor = true) {setup : FifoSetup} {now : ℕ}
    {r : InhibitRequest} (hr : Supported r) (hline : Request r) :
    Served cfg s (.inhibit setup now r) ↔
      SystemdInhibitFork.Served cfg.login1 s.world.obj.sub.fork.state (inhibitLine r) := by
  unfold SystemdInhibitFork.Served
  rw [whatOf_inhibitLine]
  constructor
  · intro h
    exact (h hr hmon).2
  · intro h _ _
    exact ⟨hline.oneRead, h⟩

/-- The child waits again after each step whose request is served. -/
lemma Waiting.step (hmon : cfg.monitor = true) (h : Waiting s.world.obj.sub) {e : Event}
    (hlegal : Legal cfg s e) (hline : OneLine e) (hserved : Served cfg s e) :
    Waiting (SystemdInhibitInterface.step cfg s e).world.obj.sub := by
  -- only a request wakes the child
  have hsame : ∀ {f : SystemdFields}, f.fork = s.world.obj.sub.fork → Waiting f := by
    intro f hf
    constructor
    · rw [hf]
      exact h.idle
    · rw [hf]
      exact h.out
  cases e with
  | message setup now creds readable msg ret =>
    exact hsame (fork_handleAsking hmon hlegal.1 setup now creds readable msg s.world)
  | inhibit setup now r =>
    show Waiting (InhibitInterface.inhibit (overrides cfg setup) now r s.world.obj).2.sub
    by_cases hr : Supported r
    · obtain ⟨n, child, -, hout, hdo⟩ := doInhibit_served hmon h hr hline hlegal.1 hlegal.2.2
        ((served_inhibit_iff hmon hr hline).mp hserved) setup now
      rw [(noEvents cfg setup).inhibit_sub (overrides_doInhibit hdo)]
      exact ⟨⟨rfl, rfl⟩, hout⟩
    · -- nothing is sent to the child
      rw [InhibitInterface.inhibit_error _ (overrides_doInhibit (doInhibit_unsupported hr))]
      exact h
  | unInhibit id => exact h.unInhibit hmon id
  | release k =>
    apply hsame
    show (release k s.world.obj.sub).fork = _
    unfold release
    split <;> rfl
  | poll =>
    obtain ⟨w', hw', -, -, hfork, -⟩ := poll_alone cfg {} s.world
    apply hsame
    rw [← hfork, ← hw']
    rfl
  | opened file => exact hsame rfl
  | closed n => exact hsame rfl

/-- In a step the right number is read if and only if the request is served. -/
lemma readsOwn_iff (hmon : cfg.monitor = true) (h : Waiting s.world.obj.sub) {e : Event}
    (hlegal : Legal cfg s e) (hline : OneLine e) : ReadsOwn cfg s e ↔ Served cfg s e := by
  cases e with
  | inhibit setup now r =>
    constructor
    · intro hreads hr
      obtain ⟨n, hn, -⟩ := hreads hr
      have hserved := (SystemdInhibitFork.answers_iff hline.tabs).mp ⟨n, hn⟩
      have hcond : Served cfg s (.inhibit setup now r) :=
        (served_inhibit_iff hmon hr hline).mpr hserved
      exact hcond hr
    · intro hserved hr
      obtain ⟨n, child, hn, -, hdo⟩ := doInhibit_served hmon h hr hline hlegal.1 hlegal.2.2
        ((served_inhibit_iff hmon hr hline).mp hserved) setup now
      rw [hdo]
      exact ⟨n, hn, rfl, rfl, rfl⟩
  | _ => exact Iff.rfl

/-- Each request is answered once and each `doInhibit` reads its own answer, if and only if login1
answers every call that is made for the requests with a message or with AccessDenied. -/
theorem answered_in_step {cfg : SystemdConfig} (hmon : cfg.monitor = true) {s : Run}
    (hs : Waiting s.world.obj.sub) (child : SystemdInhibitFork.State) {lines : List Bytes}
    (hlines : ∀ l ∈ lines, l.count tab = 3) {es : List Event}
    (hes : Transition.Along (step cfg) (fun s e => Legal cfg s e ∧ OneLine e) s es) :
    (Transition.Along (serve cfg.login1) (fun c line => ∃ n, Answers cfg.login1 c line n)
        child lines ↔
      Transition.Along (serve cfg.login1) (SystemdInhibitFork.Served cfg.login1) child lines) ∧
    (Transition.Along (step cfg) (ReadsOwn cfg) s es ↔
      Transition.Along (step cfg) (Served cfg) s es) := by
  refine ⟨SystemdInhibitFork.all_answered_iff hlines, ?_⟩
  constructor
  · intro hreads
    refine Transition.along_imp (I := fun s => Waiting s.world.obj.sub) hs
      (fun s e hw hok hserved => ?_) (fun s e hw hok hr => ?_) hes hreads
    · exact hw.step hmon hok.1 hok.2 hserved
    · exact (readsOwn_iff hmon hw hok.1 hok.2).mp hr
  · intro hserved
    refine Transition.along_imp (I := fun s => Waiting s.world.obj.sub) hs
      (fun s e hw hok hr => ?_) (fun s e hw hok h => ?_) hes hserved
    · exact hw.step hmon hok.1 hok.2 ((readsOwn_iff hmon hw hok.1 hok.2).mp hr)
    · exact (readsOwn_iff hmon hw hok.1 hok.2).mpr h

/-- A call that login1 does not answer in time. -/
theorem answered_in_step_fails :
    let cfg : SystemdConfig :=
      { instanceId := 0, monitor := true, forkSender := lit ":1.0"
        login1 := fun _ => .error DBus.noReply }
    let r : InhibitRequest := { type := InhibitType.SUSPEND, appname := lit "a", reason := lit "b" }
    let s : Run := { world := { obj := { sub := {} } } }
    let es : List Event := [.inhibit {} 0 r]
    Waiting s.world.obj.sub ∧
      Transition.Along (step cfg) (fun s e => Legal cfg s e ∧ OneLine e) s es ∧
      ¬ (∃ n, Answers cfg.login1 s.world.obj.sub.fork.state (inhibitLine r) n) ∧
      ¬ Transition.Along (step cfg) (ReadsOwn cfg) s es := by
  intro cfg r s es
  have hline : Request r := ⟨by decide, by decide, by decide⟩
  have hunanswered : ¬ ∃ n, Answers cfg.login1 s.world.obj.sub.fork.state (inhibitLine r) n := by
    rw [SystemdInhibitFork.answers_iff hline.tabs]
    unfold SystemdInhibitFork.Served Granted Refused
    simp [cfg, DBus.noReply, DBus.accessDenied]
  refine ⟨⟨⟨rfl, rfl⟩, rfl⟩,
    ⟨⟨⟨⟨by decide, by decide⟩, by decide, by decide⟩, hline⟩, trivial⟩, hunanswered, fun h => ?_⟩
  obtain ⟨n, hn, -⟩ := h.1 (by unfold Supported; decide)
  exact hunanswered ⟨n, hn⟩

/-- Requests that are denied twice. -/
theorem answered_in_step_denied :
    let cfg : SystemdConfig :=
      { instanceId := 0, monitor := true, forkSender := lit ":1.0"
        login1 := fun _ => .error DBus.accessDenied }
    let r : InhibitRequest := { type := InhibitType.SUSPEND, appname := lit "a", reason := lit "b" }
    let s : Run := { world := { obj := { sub := {} } } }
    Transition.Along (serve cfg.login1) (fun c line => ∃ n, Answers cfg.login1 c line n)
        s.world.obj.sub.fork.state [inhibitLine r, inhibitLine r] ∧
      Transition.Along (step cfg) (ReadsOwn cfg) s [.inhibit {} 0 r, .poll] := by
  intro cfg r s
  have hline : Request r := ⟨by decide, by decide, by decide⟩
  have hrefused : ∀ k what, Refused cfg.login1 k what := fun _ _ => .inr ⟨rfl, .inr (.inr rfl)⟩
  have hmon : cfg.monitor = true := rfl
  have hlines : ∀ l ∈ [inhibitLine r, inhibitLine r], l.count tab = 3 := by simp [hline.tabs]
  have hes : Transition.Along (step cfg) (fun s e => Legal cfg s e ∧ OneLine e) s
      [.inhibit {} 0 r, .poll] :=
    ⟨⟨⟨⟨by decide, by decide⟩, by decide, by decide⟩, hline⟩, ⟨trivial, trivial⟩, trivial⟩
  have hwaiting : Waiting s.world.obj.sub := ⟨⟨rfl, rfl⟩, rfl⟩
  have hboth := answered_in_step hmon hwaiting s.world.obj.sub.fork.state hlines hes
  refine ⟨hboth.1.mpr ⟨.inr (hrefused _ _), .inr (hrefused _ _), trivial⟩, hboth.2.mpr ?_⟩
  exact ⟨fun _ _ => ⟨hline.oneRead, .inr (hrefused _ _)⟩, trivial, trivial⟩

end SystemdInhibitInterface

end UnifiedInhibit
