import UnifiedInhibit.ForkTheorems
import UnifiedInhibit.SystemdInhibitInterface

/-!
# The requests that reach login1

A request goes to the child as one line with three tabs. It arrives as it was made exactly when
neither appname nor reason contains a tab or a newline.
-/

namespace UnifiedInhibit

namespace SystemdInhibitFork

open NewlineMessageFork (newline handleAll)

variable {login1 : Login1}

/-! ## What the child does with a line -/

lemma call_calls (what who why mode : Bytes) (s : State) :
    (call login1 what who why mode s).2.calls = s.calls ++ [⟨what, who, why, mode⟩] := by
  unfold call
  dsimp only
  split <;> rfl

/-- A call that is granted returns the second free number, which stays open. -/
lemma call_fd {what who why mode file : Bytes} {s : State}
    (h : login1 s.calls.length = .ok (.fd file)) :
    call login1 what who why mode s = (.ok (Descriptors.secondFree s.fds : ℤ), { s with
      calls := s.calls ++ [⟨what, who, why, mode⟩]
      fds := s.fds.insert (Descriptors.secondFree s.fds) file }) := by
  unfold call
  rw [h]
  dsimp only
  rw [Descriptors.receive_eq]

/-- A call whose strings have no delimiter in them. -/
def Plain (c : Call) : Prop := (tab ∉ c.who ∧ newline ∉ c.who) ∧ tab ∉ c.why ∧ newline ∉ c.why

/-- A line adds calls with the fields of the line only. -/
lemma handleMsg_plain {msg : Bytes} (hmsg : newline ∉ msg) {s : State}
    (hs : ∀ c ∈ s.calls, Plain c) : ∀ c ∈ (handleMsg login1 msg s).2.calls, Plain c := by
  have hpiece : ∀ x ∈ msg.splitOn tab, tab ∉ x ∧ newline ∉ x := by
    intro x hx
    obtain ⟨hnot, hsub⟩ := Lines.mem_splitOn hx
    exact ⟨hnot, fun hmem => hmsg (hsub hmem)⟩
  -- a call with fields of the line
  have hcall : ∀ {s : State} (what who why mode : Bytes), (∀ c ∈ s.calls, Plain c) →
      who ∈ msg.splitOn tab → why ∈ msg.splitOn tab →
        ∀ c ∈ (call login1 what who why mode s).2.calls, Plain c := by
    intro s what who why mode hs hwho hwhy c hc
    rw [call_calls] at hc
    rcases List.mem_append.mp hc with hc | hc
    · exact hs c hc
    · rw [List.mem_singleton.mp hc]
      exact ⟨hpiece who hwho, hpiece why hwhy⟩
  unfold handleMsg
  split
  · exact hs
  split
  · split
    · rename_i what who why mode rest hsplit
      rw [hsplit] at hcall
      have hfirst := hcall what who why mode hs (by simp) (by simp)
      split
      · rename_i heq
        rw [heq] at hfirst
        exact hfirst
      · rename_i e s' heq
        rw [heq] at hfirst
        have hsecond := hcall (justIdle what) who why mode hfirst (by simp) (by simp)
        split
        · split
          · split
            · rename_i heq
              rw [heq] at hsecond
              exact hsecond
            · rename_i heq
              rw [heq] at hsecond
              split <;> exact hsecond
          · exact hfirst
        · exact hfirst
    · exact hs
  split
  · exact hs
  · exact hs

/-- Where login1 grants every call, each line is handled without an exception. -/
lemma handleMsg_ok (hgrant : ∀ k, ∃ file, login1 k = .ok (.fd file)) (msg : Bytes) (s : State) :
    ∃ s', handleMsg login1 msg s = (.ok (), s') := by
  have hcall : ∀ what who why mode s, ∃ fd s',
      call login1 what who why mode s = (.ok fd, s') := by
    intro what who why mode s
    obtain ⟨file, hfile⟩ := hgrant s.calls.length
    unfold call
    rw [hfile]
    exact ⟨_, _, rfl⟩
  unfold handleMsg
  split
  · exact ⟨_, rfl⟩
  split
  · split
    · rename_i what who why mode rest hsplit
      obtain ⟨fd, s', hs'⟩ := hcall what who why mode s
      rw [hs']
      exact ⟨_, rfl⟩
    · exact ⟨_, rfl⟩
  split
  · exact ⟨_, rfl⟩
  · exact ⟨_, rfl⟩

/-- A line of four fields without tabs is one call. -/
lemma handleMsg_fields {what who why mode : Bytes} (hwhat : tab ∉ what) (hwho : tab ∉ who)
    (hwhy : tab ∉ why) (hmode : tab ∉ mode) (s : State) :
    handleMsg login1 (what ++ [tab] ++ who ++ [tab] ++ why ++ [tab] ++ mode) s =
      match call login1 what who why mode s with
      | (.ok fd, s) => (.ok (), tx (Decimal.toString fd ++ [newline]) s)
      | (.error e, s) =>
        if e = DBus.accessDenied then
          if (justIdle what).length > 0 then
            match call login1 (justIdle what) who why mode s with
            | (.ok fd, s) => (.ok (), tx (Decimal.toString fd ++ [newline]) s)
            | (.error e, s) =>
              if e = DBus.accessDenied then (.ok (), tx (lit "-1" ++ [newline]) s)
              else (.error e, s)
          else (.ok (), tx (lit "-1" ++ [newline]) s)
        else (.error e, s) := by
  have hmsg : what ++ [tab] ++ who ++ [tab] ++ why ++ [tab] ++ mode =
      what ++ tab :: (who ++ tab :: (why ++ tab :: mode)) := by simp
  have hsplit : (what ++ tab :: (who ++ tab :: (why ++ tab :: mode))).splitOn tab =
      [what, who, why, mode] := by
    rw [List.splitOn_append_cons_self_of_not_mem hwhat,
      List.splitOn_append_cons_self_of_not_mem hwho,
      List.splitOn_append_cons_self_of_not_mem hwhy, List.splitOn_eq_singleton hmode]
  have hcount : (what ++ tab :: (who ++ tab :: (why ++ tab :: mode))).count tab = 3 := by
    simp only [List.count_append, List.count_cons_self, List.count_eq_zero.mpr hwhat,
      List.count_eq_zero.mpr hwho, List.count_eq_zero.mpr hwhy, List.count_eq_zero.mpr hmode]
  have hlen : (what ++ tab :: (who ++ tab :: (why ++ tab :: mode))).length ≠ 0 := by simp
  rw [hmsg]
  unfold handleMsg
  rewrite [if_neg hlen, if_pos hcount, hsplit]
  rfl

end SystemdInhibitFork

namespace SystemdInhibitInterface

open SystemdInhibitFork (tab Call Plain handleMsg)
open NewlineMessageFork (newline handleAll doRun WholeReads)

/-! ## Requests -/

/-- The call that a request asks for. -/
def requestedCall (r : InhibitRequest) : Call :=
  ⟨us2systemdType r.type, r.appname, r.reason, lit "block"⟩

/-- A request without delimiters in its strings. -/
def PlainRequest (r : InhibitRequest) : Prop := Plain (requestedCall r)

/-- A request without its newline. -/
def inhibitLine (r : InhibitRequest) : Bytes :=
  us2systemdType r.type ++ [tab] ++ r.appname ++ [tab] ++ r.reason ++ [tab] ++ lit "block"

lemma us2systemdType_plain (t : InhibitType) :
    tab ∉ us2systemdType t ∧ newline ∉ us2systemdType t := by
  unfold us2systemdType
  cases t.has InhibitType.SCREENSAVER <;> cases t.has InhibitType.SUSPEND <;> decide

lemma newline_notMem_inhibitLine {r : InhibitRequest} (h : PlainRequest r) :
    newline ∉ inhibitLine r := by
  obtain ⟨⟨-, hwho⟩, -, hwhy⟩ := h
  have hwho : newline ∉ r.appname := hwho
  have hwhy : newline ∉ r.reason := hwhy
  have hwhat := (us2systemdType_plain r.type).2
  have htab : newline ∉ [tab] := by decide
  have hmode : newline ∉ lit "block" := by decide
  unfold inhibitLine
  simp only [List.mem_append, not_or]
  exact ⟨⟨⟨⟨⟨⟨hwhat, htab⟩, hwho⟩, htab⟩, hwhy⟩, htab⟩, hmode⟩

variable {login1 : Login1}

/-- What the child does with a plain request that is granted. -/
lemma handleMsg_inhibitLine {r : InhibitRequest} (h : PlainRequest r)
    {s : SystemdInhibitFork.State} {file : Bytes}
    (hgrant : login1 s.calls.length = .ok (.fd file)) :
    handleMsg login1 (inhibitLine r) s =
      (.ok (), { s with
        calls := s.calls ++ [requestedCall r]
        fds := s.fds.insert (Descriptors.secondFree s.fds) file
        out := s.out ++ (Decimal.toString (Descriptors.secondFree s.fds) ++ [newline]) }) := by
  have hwho : tab ∉ r.appname := h.1.1
  have hwhy : tab ∉ r.reason := h.2.1
  unfold inhibitLine
  rw [SystemdInhibitFork.handleMsg_fields (us2systemdType_plain r.type).1 hwho hwhy (by decide),
    SystemdInhibitFork.call_fd hgrant]
  rfl

/-- Plain requests are all called, in order, and nothing is closed. -/
lemma handleAll_inhibitLines (hgrant : ∀ k, ∃ file, login1 k = .ok (.fd file))
    {requests : List InhibitRequest} (h : ∀ r ∈ requests, PlainRequest r)
    {s s' : SystemdInhibitFork.State}
    (hs' : handleAll (handleMsg login1) (requests.map inhibitLine) s = (.ok (), s')) :
    s'.calls = s.calls ++ requests.map requestedCall ∧ s'.closed = s.closed := by
  induction requests generalizing s with
  | nil =>
    cases hs'
    exact ⟨(List.append_nil _).symm, rfl⟩
  | cons r requests ih =>
    obtain ⟨file, hfile⟩ := hgrant s.calls.length
    have hr := handleMsg_inhibitLine (h r List.mem_cons_self) hfile
    rw [List.map_cons, NewlineMessageFork.handleAll_cons, hr] at hs'
    obtain ⟨hcalls, hclosed⟩ := ih (fun r hr => h r (List.mem_cons_of_mem _ hr)) hs'
    refine ⟨?_, hclosed⟩
    rw [hcalls, List.map_cons, List.append_assoc, List.singleton_append]

/-- The requests arrive as they were made, one call for each, and no descriptor is closed, if and
only if no appname and no reason contains a tab or a newline. -/
theorem requests_arrive_iff {login1 : Login1} (hgrant : ∀ k, ∃ file, login1 k = .ok (.fd file))
    {requests : List InhibitRequest} {strs : List Bytes}
    (hstrs : WholeReads (requests.map inhibitMessage) strs) :
    let child := (doRun (handleMsg login1) strs {}).state
    (child.calls = requests.map requestedCall ∧ child.closed = []) ↔
      ∀ r ∈ requests, (tab ∉ r.appname ∧ newline ∉ r.appname) ∧
        tab ∉ r.reason ∧ newline ∉ r.reason := by
  intro child
  constructor
  · intro h r hr
    -- no call that the child makes has a delimiter in its strings
    have hplain : ∀ c ∈ child.calls, Plain c :=
      NewlineMessageFork.doRun_invariant
        (P := fun s : SystemdInhibitFork.State => ∀ c ∈ s.calls, Plain c)
        (fun msg s hmsg hs => SystemdInhibitFork.handleMsg_plain hmsg hs)
        (fun c hc => absurd hc List.not_mem_nil) strs
    apply hplain (requestedCall r)
    rw [h.1]
    exact List.mem_map_of_mem hr
  · intro h
    have hbodies : ∀ b ∈ requests.map inhibitLine, newline ∉ b := by
      intro b hb
      obtain ⟨r, hr, heq⟩ := List.mem_map.mp hb
      rw [← heq]
      exact newline_notMem_inhibitLine (h r hr)
    have hmsgs : requests.map inhibitMessage = (requests.map inhibitLine).map (· ++ [newline]) := by
      rw [List.map_map]
      rfl
    rw [hmsgs] at hstrs
    have hall := NewlineMessageFork.doRun_whole (SystemdInhibitFork.handleMsg_ok hgrant) hbodies
      hstrs {}
    have hcalls := handleAll_inhibitLines hgrant h hall
    rw [List.nil_append] at hcalls
    exact hcalls

/-- A reason with a line break in front of a number. -/
theorem requests_arrive_fails :
    let login1 : Login1 := fun _ => .ok (.fd [])
    let r : InhibitRequest :=
      { type := InhibitType.SUSPEND, appname := lit "a", reason := lit "b\n5\nc" }
    let child := (doRun (handleMsg login1) [inhibitMessage r] {}).state
    WholeReads ([r].map inhibitMessage) [inhibitMessage r] ∧
      ¬ (child.calls = [r].map requestedCall ∧ child.closed = []) := by
  intro login1 r child
  refine ⟨⟨[[inhibitMessage r]], rfl, by simp, by simp⟩, fun h => ?_⟩
  have hplain : ∀ c ∈ child.calls, Plain c :=
    NewlineMessageFork.doRun_invariant
      (P := fun s : SystemdInhibitFork.State => ∀ c ∈ s.calls, Plain c)
      (fun msg s hmsg hs => SystemdInhibitFork.handleMsg_plain hmsg hs)
      (fun c hc => absurd hc List.not_mem_nil) [inhibitMessage r]
  have hr := hplain (requestedCall r) (by rw [h.1]; exact List.mem_singleton_self _)
  exact absurd hr.2.2 (by decide)

/-- Two requests, read one after the other. -/
theorem requests_arrive_two :
    let login1 : Login1 := fun _ => .ok (.fd [])
    let r : InhibitRequest :=
      { type := InhibitType.SUSPEND, appname := lit "a", reason := lit "b" }
    let r' : InhibitRequest :=
      { type := InhibitType.SCREENSAVER, appname := lit "c", reason := lit "d" }
    let child := (doRun (handleMsg login1) [inhibitMessage r, inhibitMessage r'] {}).state
    child.calls = [r, r'].map requestedCall ∧ child.closed = [] := by
  intro login1 r r'
  have hstrs : WholeReads ([r, r'].map inhibitMessage) [inhibitMessage r, inhibitMessage r'] :=
    ⟨[[inhibitMessage r], [inhibitMessage r']], rfl, by simp, by simp⟩
  refine (requests_arrive_iff (fun k => ⟨[], rfl⟩) hstrs).mpr ?_
  intro q hq
  rcases List.mem_cons.mp hq with heq | hq
  · rw [heq]
    exact ⟨⟨by decide, by decide⟩, by decide, by decide⟩
  · rw [List.mem_singleton.mp hq]
    exact ⟨⟨by decide, by decide⟩, by decide, by decide⟩

end SystemdInhibitInterface

end UnifiedInhibit
