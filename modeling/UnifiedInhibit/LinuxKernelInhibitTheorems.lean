import UnifiedInhibit.ForkTheorems
import UnifiedInhibit.LinuxKernelInhibitInterface

/-!
# One wakelock for each inhibit

An inhibit is taken and released with two messages. The child takes and drops the same lock for
them exactly when the first message is one line, up to newlines at its end, that does not begin
with a tab.
-/

namespace UnifiedInhibit

open NewlineMessageFork (newline handleAll doRun WholeReads InStep)

namespace LinuxKernelInhibitFork

/-! ## What the child writes -/

/-- What a line makes the child write. -/
def writesOf (line : Bytes) : List Write :=
  if line = [] then []
  else if (strip line).headD 0 = tab then [.unlock ((strip line).drop 1)]
  else [.lock (strip line)]

lemma handleMsg_eq (line : Bytes) (writes : List Write) :
    handleMsg line writes = (.ok (), writes ++ writesOf line) := by
  unfold handleMsg writesOf
  by_cases hnil : line = []
  · rw [hnil]
    simp
  · rw [if_neg (fun hlen => hnil (List.length_eq_zero_iff.mp hlen)), if_neg hnil]
    dsimp only
    split <;> rfl

lemma handleAll_eq (lines : List Bytes) (writes : List Write) :
    handleAll handleMsg lines writes = (.ok (), writes ++ lines.flatMap writesOf) := by
  induction lines generalizing writes with
  | nil => simp [handleAll]
  | cons line lines ih =>
    rw [NewlineMessageFork.handleAll_cons, handleMsg_eq]
    dsimp only
    rw [ih, List.flatMap_cons, List.append_assoc]

lemma length_writesOf_le (line : Bytes) : (writesOf line).length ≤ 1 := by
  unfold writesOf
  split
  · simp
  · split <;> simp

lemma writesOf_eq_nil_iff (line : Bytes) : writesOf line = [] ↔ line = [] := by
  unfold writesOf
  split
  · simp_all
  · split <;> simp_all

lemma strip_append (s t : Bytes) : strip (s ++ t) = strip s ++ strip t := List.filter_append _ _

lemma strip_of_notMem {s : Bytes} (h : (32 : UInt8) ∉ s) : strip s = s := by
  apply List.filter_eq_self.mpr
  intro b hb
  apply decide_eq_true
  intro heq
  rw [heq] at hb
  exact h hb

/-- A line with a tab in front drops the lock that the line takes. -/
lemma writesOf_tab (line : Bytes) : writesOf (tab :: line) = [.unlock (strip line)] := by
  have hstrip : strip (tab :: line) = tab :: strip line := rfl
  unfold writesOf
  rw [if_neg (List.cons_ne_nil _ _), hstrip]
  rfl

/-- The lines of the two messages of a name. -/
lemma lines_messages {m x : Bytes} {ps : List Bytes} (hsplit : m.splitOn newline = x :: ps) :
    Lines.lines newline (m ++ [newline] ++ ([tab] ++ m ++ [newline])) =
      (x :: ps) ++ ((tab :: x) :: ps) := by
  have htabSplit : (tab :: m).splitOn newline = (tab :: x) :: ps := by
    rw [List.splitOn_cons_eq_if_modifyHead, if_neg (by decide), hsplit]
    rfl
  rw [Lines.lines_append, Lines.rest_snoc, List.nil_append, Lines.lines_snoc, hsplit]
  congr 1
  exact (Lines.lines_snoc (tab :: m)).trans htabSplit

/-- The first message of a name leaves no more behind its first line than the buffer may hold. -/
def FitsBuffer (m : Bytes) : Prop :=
  ∀ l xs, m ++ [newline] = l ++ newline :: xs → newline ∉ l → xs.length ≤ 1024 * 1024

/-- The child handles all lines of the two messages of a name that fits. -/
lemma state_of_fits {m : Bytes} (hfits : FitsBuffer m) {strs : List Bytes}
    (h : WholeReads [m ++ [newline], [tab] ++ m ++ [newline]] strs) {x : Bytes}
    {ps : List Bytes} (hsplit : m.splitOn newline = x :: ps) :
    (doRun handleMsg strs []).state = ((x :: ps) ++ ((tab :: x) :: ps)).flatMap writesOf := by
  have hmem : newline ∈ m ++ [newline] := by simp
  have hfits' : ∀ l xs, [tab] ++ m ++ [newline] = l ++ newline :: xs → newline ∉ l →
      xs.length ≤ 1024 * 1024 := by
    intro l xs hm hl
    rcases l with _ | ⟨c, l⟩
    · exact absurd (List.cons.inj hm).1 (by decide)
    · exact hfits l xs (List.cons.inj hm).2 fun hmem => hl (List.mem_cons_of_mem _ hmem)
  have hin : InStep handleMsg [] (doRun handleMsg strs [])
      (m ++ [newline] ++ ([tab] ++ m ++ [newline])) := by
    have hstart := NewlineMessageFork.inStep_nil handleMsg []
    rcases h.two with heq | ⟨heq, hlen⟩
    · have hfirst := hstart.step hmem hfits (handleAll_eq _ _)
      have hsecond := hfirst.step (by simp) hfits' (handleAll_eq _ _)
      rw [heq]
      exact hsecond
    · have hboth := hstart.step (List.mem_append_left _ hmem) (fun l xs hm hl => by
        rw [hm, List.length_append, List.length_cons] at hlen
        omega) (handleAll_eq _ _)
      rw [heq]
      exact hboth
  have hstate := hin.state
  rw [handleAll_eq, lines_messages hsplit] at hstate
  exact (Prod.mk.inj hstate).2.symm

/-- A message that overruns the buffer ends the child after its first line. -/
lemma state_of_overrun {m : Bytes} (hlong : ¬ FitsBuffer m) {strs : List Bytes}
    (h : WholeReads [m ++ [newline], [tab] ++ m ++ [newline]] strs) :
    ∃ x, (doRun handleMsg strs []).state = writesOf x := by
  unfold FitsBuffer at hlong
  push Not at hlong
  obtain ⟨l, xs, hm, hl, hsize⟩ := hlong
  rcases h.two with heq | ⟨-, hlen⟩
  · have hstep := NewlineMessageFork.step_overflow (c := { state := [] }) rfl rfl hl hsize
      (handleMsg_eq l [])
    have hrun : doRun handleMsg strs [] = NewlineMessageFork.step handleMsg
        (NewlineMessageFork.step handleMsg { state := [] } (l ++ newline :: xs))
        ([tab] ++ m ++ [newline]) := by
      rw [heq, hm]
      rfl
    refine ⟨l, ?_⟩
    rw [hrun, hstep, NewlineMessageFork.step_ended rfl]
    rfl
  · -- together they would not have been longer than the buffer
    have hcount := congrArg List.length hm
    simp only [List.length_append, List.length_cons, List.length_nil] at hlen hcount
    omega

lemma headD_eq_tab_iff (s : Bytes) : s.headD 0 = tab ↔ s.head? = some tab := by
  rcases s with _ | ⟨c, s⟩
  · exact iff_of_false (by decide) (by simp)
  · simp

/-- A name that is one line up to newlines at its end fits if they do. -/
lemma fitsBuffer_replicate {x : Bytes} (hx : newline ∉ x) (k : ℕ) :
    FitsBuffer (x ++ List.replicate k newline) ↔ k ≤ 1024 * 1024 := by
  have hm : x ++ List.replicate k newline ++ [newline] =
      x ++ newline :: List.replicate k newline := by
    rw [List.append_assoc, ← List.replicate_succ', List.replicate_succ]
  constructor
  · intro h
    have hlen := h x _ hm hx
    rw [List.length_replicate] at hlen
    exact hlen
  · intro hk l xs heq hl
    have hsplit := congrArg (List.splitOn newline) (hm.symm.trans heq)
    rw [List.splitOn_append_cons_self_of_not_mem hx, List.splitOn_append_cons_self_of_not_mem hl]
      at hsplit
    obtain ⟨hxl, -⟩ := List.cons.inj hsplit
    have hlen := congrArg List.length (hm.symm.trans heq)
    simp only [List.length_append, List.length_cons, List.length_replicate, hxl] at hlen
    omega

/-! ## Names -/

/-- The child writes one name to `wake_lock`, and then the same to `wake_unlock`, exactly when the
name is one line, up to newlines at its end, that does not begin with a tab. -/
lemma writes_iff {m : Bytes} (hdash : (45 : UInt8) ∈ m) {strs : List Bytes}
    (h : WholeReads [m ++ [newline], [tab] ++ m ++ [newline]] strs) (n : Bytes) :
    (doRun handleMsg strs []).state = [.lock n, .unlock n] ↔
      ∃ x k, m = x ++ List.replicate k newline ∧ newline ∉ x ∧ (strip x).head? ≠ some tab ∧
        k ≤ 1024 * 1024 ∧ n = strip x := by
  rcases List.exists_cons_of_ne_nil (List.splitOn_ne_nil newline m) with ⟨x, ps, hsplit⟩
  constructor
  · intro hwrites
    have hfits : FitsBuffer m := by
      by_contra hlong
      obtain ⟨l, hl⟩ := state_of_overrun hlong h
      have hlen := length_writesOf_le l
      rw [← hl, hwrites] at hlen
      exact absurd hlen (by simp)
    have hstate := state_of_fits hfits h hsplit
    rw [hwrites, List.flatMap_append, List.flatMap_cons, List.flatMap_cons, writesOf_tab] at hstate
    -- two writes in all: one for the first line, none for those behind it
    have hcount := congrArg List.length hstate
    have hone := length_writesOf_le x
    simp only [List.length_append, List.length_cons, List.length_nil] at hcount
    have hrest : (ps.flatMap writesOf).length = 0 := by omega
    have hrest : ps.flatMap writesOf = [] := List.length_eq_zero_iff.mp hrest
    rw [hrest, List.append_nil, List.append_nil] at hstate
    have hfirst : writesOf x = [.lock n] ∧ strip x = n := by
      have hlen : (writesOf x).length = 1 := by
        rw [hrest] at hcount
        simp only [List.length_nil] at hcount
        omega
      obtain ⟨w, hw⟩ := List.length_eq_one_iff.mp hlen
      rw [hw] at hstate ⊢
      obtain ⟨hlock, htail⟩ := List.cons.inj hstate
      obtain ⟨hunlock, -⟩ := List.cons.inj htail
      rw [← hlock]
      exact ⟨rfl, (Write.unlock.inj hunlock).symm⟩
    have hps : ∀ p ∈ ps, p = [] := by
      intro p hp
      have hnone := List.flatMap_eq_nil_iff.mp hrest p hp
      exact (writesOf_eq_nil_iff p).mp hnone
    obtain ⟨hx, hm⟩ := Lines.eq_append_replicate hsplit hps
    refine ⟨x, ps.length, hm, hx, ?_, ?_, hfirst.2.symm⟩
    · intro htab
      have hx1 := hfirst.1
      unfold writesOf at hx1
      rw [if_pos ((headD_eq_tab_iff _).mpr htab)] at hx1
      split at hx1 <;> simp at hx1
    · rw [hm] at hfits
      exact (fitsBuffer_replicate hx _).mp hfits
  · intro hex
    obtain ⟨y, k, hm, hy, htab, hk, hn⟩ := hex
    have hfits : FitsBuffer m := by
      rw [hm]
      exact (fitsBuffer_replicate hy k).mpr hk
    have hsplit' := hsplit
    rw [hm, Lines.splitOn_append_replicate hy] at hsplit'
    obtain ⟨hyx, hps⟩ := List.cons.inj hsplit'
    have hne : y ≠ [] := by
      intro hnil
      rw [hm, hnil, List.nil_append] at hdash
      exact absurd (List.eq_of_mem_replicate hdash) (by decide)
    have hfirst : writesOf x = [.lock (strip x)] := by
      unfold writesOf
      rw [← hyx, if_neg hne, if_neg (fun heq => htab ((headD_eq_tab_iff _).mp heq))]
    have hrest : ps.flatMap writesOf = [] := by
      rw [← hps]
      apply List.flatMap_eq_nil_iff.mpr
      intro p hp
      exact (writesOf_eq_nil_iff p).mpr (List.eq_of_mem_replicate hp)
    rw [state_of_fits hfits h hsplit, List.flatMap_append, List.flatMap_cons, List.flatMap_cons,
      writesOf_tab, hfirst, hrest, hn, ← hyx]
    rfl

end LinuxKernelInhibitFork

namespace LinuxKernelInhibitInterface

open LinuxKernelInhibitFork

/-! ## The name in the id -/

lemma zero_notMem_strip {s : Bytes} (h : (0 : UInt8) ∉ s) : (0 : UInt8) ∉ strip s :=
  fun hmem => h (List.mem_filter.mp hmem).1

/-- The id stores the name without its spaces, cut to fit. -/
lemma lockName_mkId (instanceId : UInt64) {m : Bytes} (h : (0 : UInt8) ∉ m) :
    lockName (mkId instanceId m) = (strip m).take (lockNameSize - 1) := by
  have hstrip : (0 : UInt8) ∉ strip m := zero_notMem_strip h
  have htake : (0 : UInt8) ∉ (strip m).take (lockNameSize - 1) :=
    fun hmem => hstrip (List.mem_of_mem_take hmem)
  have hclean : strip (CStruct.cstr m) = strip m := by rw [CStruct.cstr_of_notMem h]
  unfold lockName mkId
  dsimp only
  rw [List.drop_append_of_le_length (by rw [CStruct.length_leBytes]), List.drop_of_length_le
    (by rw [CStruct.length_leBytes]), List.nil_append, hclean]
  unfold CStruct.strncpy
  rw [CStruct.cstr_of_notMem hstrip]
  -- behind the name stands at least the NUL at the end of the field
  rcases (lockNameSize - 1 - (strip m).length) with _ | k
  · rw [List.replicate_zero, List.append_nil]
    exact CStruct.cstr_append_zero htake []
  · rw [List.replicate_succ, List.append_assoc]
    exact CStruct.cstr_append_zero htake _

/-- The id stores a name that is written, when it has room for it, exactly when no newline was
cut off or the newlines fell off the end of the field. -/
lemma lockName_eq_iff (instanceId : UInt64) {x : Bytes} {k : ℕ}
    (h : (0 : UInt8) ∉ x ++ List.replicate k newline) :
    ((strip x).length < lockNameSize →
        lockName (mkId instanceId (x ++ List.replicate k newline)) = strip x) ↔
      k = 0 ∨ lockNameSize - 1 ≤ (strip x).length := by
  have hnewlines : strip (List.replicate k newline) = List.replicate k newline := by
    apply strip_of_notMem
    intro hmem
    exact absurd (List.eq_of_mem_replicate hmem) (by decide)
  rw [lockName_mkId instanceId h, strip_append, hnewlines]
  constructor
  · intro hname
    by_contra hnot
    push Not at hnot
    obtain ⟨hk, hlen⟩ := hnot
    have hcount := congrArg List.length (hname (by omega))
    rw [List.length_take, List.length_append, List.length_replicate] at hcount
    omega
  · intro hcases hlen
    rcases hcases with hk | hlong
    · rw [hk, List.replicate_zero, List.append_nil]
      exact List.take_of_length_le (by omega)
    · have hfull : (strip x).length = lockNameSize - 1 := by omega
      rw [← hfull]
      exact List.take_left

/-! ## The messages of one inhibit -/

variable {instanceId : UInt64}

lemma noEvents (instanceId : UInt64) : (overrides instanceId).NoEvents :=
  ⟨fun _ _ => rfl, fun _ _ => rfl, fun _ _ _ => rfl⟩

/-- A granted inhibit is active under the id of its name, and the child is told. -/
lemma inhibit_granted {now : ℕ} {r : InhibitRequest} {o o' : InhibitInterface LinuxKernelFields}
    {i : Inhibit} (hnone : o.activeInhibits = ∅)
    (h : InhibitInterface.inhibit (overrides instanceId) now r o = (.ok i, o')) :
    i.id = mkId instanceId (requestName r.appname r.reason) ∧
      requestName i.appname i.reason = requestName r.appname r.reason ∧
      o'.activeInhibits[i.id]? = some i ∧
      o'.sub.written = o.sub.written ++ [requestName r.appname r.reason ++ [newline]] := by
  unfold InhibitInterface.inhibit at h
  by_cases htype : r.type &&& InhibitType.SUSPEND = InhibitType.NONE
  · have herr : (overrides instanceId).doInhibit now r o.sub = (.error .unsupportedType, o.sub) :=
      if_pos htype
    rw [herr] at h
    cases h
  · have hgrant : (overrides instanceId).doInhibit now r o.sub = _ := if_neg htype
    rw [hgrant] at h
    obtain ⟨hi, ho'⟩ := Prod.mk.inj h
    have hi := Except.ok.inj hi
    refine ⟨by rw [← hi], by rw [← hi], ?_, ?_⟩
    · rw [← ho', InhibitInterface.callEvent_activeInhibits, hnone, StdMap.getElem?_insertIfNew, hi,
        if_pos ⟨rfl, by simp⟩]
    · rw [← ho', (noEvents instanceId).callEvent_sub]

/-- An inhibit of a type with `SUSPEND` is granted. -/
lemma inhibit_suspend {now : ℕ} {r : InhibitRequest} (o : InhibitInterface LinuxKernelFields)
    (htype : r.type &&& InhibitType.SUSPEND ≠ InhibitType.NONE) :
    InhibitInterface.inhibit (overrides instanceId) now r o =
      (.ok { type := InhibitType.SUSPEND, appname := r.appname, reason := r.reason,
             id := mkId instanceId (requestName r.appname r.reason), created := now },
        (InhibitInterface.inhibit (overrides instanceId) now r o).2) := by
  have hgrant : (overrides instanceId).doInhibit now r o.sub = _ := if_neg htype
  exact Prod.ext (InhibitInterface.inhibit_ok _ hgrant).1 rfl

lemma doUnInhibit_returns (id : InhibitID) (b : Base) (s : LinuxKernelFields) :
    ((overrides instanceId).doUnInhibit b id s).1 = .ok () := by
  show (doUnInhibit instanceId b id s).1 = .ok ()
  unfold doUnInhibit
  split <;> rfl

/-- A release returns. -/
lemma unInhibit_returns (id : InhibitID) (o : InhibitInterface LinuxKernelFields) :
    InhibitInterface.unInhibit (overrides instanceId) id o =
      (.ok (), (InhibitInterface.unInhibit (overrides instanceId) id o).2) :=
  Prod.ext (InhibitInterface.unInhibit_ok _ id o (doUnInhibit_returns id)).1 rfl

/-- The release of an active inhibit takes its id out and is told to the child. -/
lemma doUnInhibit_active {b : Base} {id : InhibitID} {i : Inhibit}
    (hactive : b.activeInhibits[id]? = some i) (s : LinuxKernelFields) :
    (overrides instanceId).doUnInhibit b id s =
      (.ok (), { ourInhibits := s.ourInhibits.erase
                   (mkId instanceId (requestName i.appname i.reason))
                 written := s.written ++
                   [[tab] ++ requestName i.appname i.reason ++ [newline]] }) := by
  show doUnInhibit instanceId b id s = _
  unfold doUnInhibit
  rw [hactive]

lemma unInhibit_active {o o' : InhibitInterface LinuxKernelFields} {id : InhibitID} {i : Inhibit}
    (hactive : o.activeInhibits[id]? = some i)
    (h : InhibitInterface.unInhibit (overrides instanceId) id o = (.ok (), o')) :
    o'.sub.written = o.sub.written ++
      [[tab] ++ requestName i.appname i.reason ++ [newline]] := by
  have hsub := (noEvents instanceId).unInhibit_sub hactive (doUnInhibit_active hactive o.sub)
  rw [h] at hsub
  dsimp only at hsub
  rw [hsub]

/-- The messages for the first inhibit of all and its release. -/
lemma written_first (r : InhibitRequest)
    (htype : r.type &&& InhibitType.SUSPEND ≠ InhibitType.NONE) :
    let o₁ := (InhibitInterface.inhibit (overrides instanceId) 0 r { sub := {} }).2
    (InhibitInterface.unInhibit (overrides instanceId)
        (mkId instanceId (requestName r.appname r.reason)) o₁).2.sub.written =
      [requestName r.appname r.reason ++ [newline],
        [tab] ++ requestName r.appname r.reason ++ [newline]] := by
  intro o₁
  have hin : InhibitInterface.inhibit (overrides instanceId) 0 r { sub := {} } = (_, o₁) :=
    inhibit_suspend _ htype
  obtain ⟨-, -, hactive, hwritten⟩ := inhibit_granted rfl hin
  rw [unInhibit_active hactive (unInhibit_returns _ o₁), hwritten]
  rfl

/-- Two messages that are read one after the other. -/
lemma wholeReads_self (m m' : Bytes) : WholeReads [m, m'] [m, m'] :=
  ⟨[[m], [m']], rfl, by simp, by simp⟩

/-- The child takes one lock and drops the same, and an id with room for its name stores it. -/
def SameLock (writes : List Write) (id : InhibitID) : Prop :=
  ∃ n, writes = [.lock n, .unlock n] ∧ (n.length < lockNameSize → lockName id = n)

/-- One inhibit takes and drops the lock that its id names, if and only if `appname-reason` is a
line that does not begin with a tab, up to newlines that its id has no room for. -/
theorem same_lock_iff {instanceId : UInt64} {now : ℕ} {r : InhibitRequest}
    {o o₁ o₂ : InhibitInterface LinuxKernelFields} {i : Inhibit} {msgs strs : List Bytes}
    (happ : (0 : UInt8) ∉ r.appname) (hreason : (0 : UInt8) ∉ r.reason)
    (hnone : o.activeInhibits = ∅)
    (hin : InhibitInterface.inhibit (overrides instanceId) now r o = (.ok i, o₁))
    (hun : InhibitInterface.unInhibit (overrides instanceId) i.id o₁ = (.ok (), o₂))
    (hmsgs : o₂.sub.written = o.sub.written ++ msgs) (hstrs : WholeReads msgs strs) :
    SameLock (doRun handleMsg strs []).state i.id ↔
      ∃ x k, requestName r.appname r.reason = x ++ List.replicate k newline ∧ newline ∉ x ∧
        (strip x).head? ≠ some tab ∧
        (k = 0 ∨ k ≤ 1024 * 1024 ∧ lockNameSize - 1 ≤ (strip x).length) := by
  obtain ⟨hid, hname, hactive, hwritten⟩ := inhibit_granted hnone hin
  have hboth := unInhibit_active hactive hun
  rw [hmsgs, hname, hwritten, List.append_assoc] at hboth
  rw [List.append_cancel_left hboth] at hstrs
  have hdash : (45 : UInt8) ∈ requestName r.appname r.reason := by
    have hmem : (45 : UInt8) ∈ lit "-" := by decide
    exact List.mem_append_left _ (List.mem_append_right _ hmem)
  have hnul : (0 : UInt8) ∉ requestName r.appname r.reason := by
    have hlit : (0 : UInt8) ∉ lit "-" := by decide
    unfold requestName
    simp only [List.mem_append, not_or]
    exact ⟨⟨happ, hlit⟩, hreason⟩
  constructor
  · intro hsame
    obtain ⟨n, hwrites, hname⟩ := hsame
    obtain ⟨x, k, hm, hx, htab, hk, hn⟩ := (writes_iff hdash hstrs n).mp hwrites
    rw [hid, hm, hn] at hname
    rw [hm] at hnul
    have hroom := (lockName_eq_iff instanceId hnul).mp hname
    exact ⟨x, k, hm, hx, htab, hroom.imp id fun hlong => ⟨hk, hlong⟩⟩
  · intro hline
    obtain ⟨x, k, hm, hx, htab, hroom⟩ := hline
    have hk : k ≤ 1024 * 1024 := by
      rcases hroom with hk | ⟨hk, -⟩ <;> omega
    refine ⟨strip x, (writes_iff hdash hstrs (strip x)).mpr ⟨x, k, hm, hx, htab, hk, rfl⟩, ?_⟩
    rw [hid, hm]
    rw [hm] at hnul
    exact (lockName_eq_iff instanceId hnul).mpr (hroom.imp id And.right)

/-- A reason with a line break: the lock named behind it is taken twice and never dropped. -/
theorem same_lock_fails :
    let r : InhibitRequest :=
      { type := InhibitType.SUSPEND, appname := lit "a", reason := lit "b\nc" }
    let o : InhibitInterface LinuxKernelFields := { sub := {} }
    let id := mkId 0 (requestName r.appname r.reason)
    let o₁ := (InhibitInterface.inhibit (overrides 0) 0 r o).2
    let o₂ := (InhibitInterface.unInhibit (overrides 0) id o₁).2
    let child := doRun handleMsg o₂.sub.written []
    WholeReads o₂.sub.written o₂.sub.written ∧
      child.state = [.lock (lit "a-b"), .lock (lit "c"), .unlock (lit "a-b"), .lock (lit "c")] ∧
      ¬ SameLock child.state id := by
  intro r o id o₁ o₂ child
  have hstrs : WholeReads o₂.sub.written o₂.sub.written := by
    rw [written_first r (by decide)]
    exact wholeReads_self _ _
  have hstate : child.state =
      [.lock (lit "a-b"), .lock (lit "c"), .unlock (lit "a-b"), .lock (lit "c")] := by
    have hfits : FitsBuffer (requestName r.appname r.reason) := by
      intro l xs h _
      have hlen := congrArg List.length h
      have hshort : (requestName r.appname r.reason ++ [newline]).length = 6 := by decide
      rw [hshort, List.length_append, List.length_cons] at hlen
      omega
    have hsplit : (requestName r.appname r.reason).splitOn newline = [lit "a-b", lit "c"] := by
      decide
    have hreads := hstrs
    show (doRun handleMsg o₂.sub.written []).state = _
    rw [written_first r (by decide)] at hreads ⊢
    rw [state_of_fits hfits hreads hsplit]
    decide
  refine ⟨hstrs, hstate, fun hsame => ?_⟩
  obtain ⟨n, hn, -⟩ := hsame
  rw [hstate] at hn
  exact absurd (congrArg List.length hn) (by simp)

/-- The lock `a-b`. -/
theorem same_lock_one :
    let r : InhibitRequest :=
      { type := InhibitType.SUSPEND, appname := lit "a", reason := lit "b" }
    let o : InhibitInterface LinuxKernelFields := { sub := {} }
    let id := mkId 0 (requestName r.appname r.reason)
    let o₁ := (InhibitInterface.inhibit (overrides 0) 0 r o).2
    let o₂ := (InhibitInterface.unInhibit (overrides 0) id o₁).2
    WholeReads o₂.sub.written o₂.sub.written ∧
      SameLock (doRun handleMsg o₂.sub.written []).state id := by
  intro r o id o₁ o₂
  have hstrs : WholeReads o₂.sub.written o₂.sub.written := by
    rw [written_first r (by decide)]
    exact wholeReads_self _ _
  refine ⟨hstrs, ?_⟩
  have htype : r.type &&& InhibitType.SUSPEND ≠ InhibitType.NONE := by decide
  apply (same_lock_iff (by decide) (by decide) rfl (inhibit_suspend o htype)
    (unInhibit_returns id o₁) rfl hstrs).mpr
  exact ⟨requestName r.appname r.reason, 0, by simp, by decide, by decide, .inl rfl⟩

end LinuxKernelInhibitInterface

end UnifiedInhibit
