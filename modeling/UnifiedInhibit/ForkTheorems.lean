import UnifiedInhibit.Fork
import UnifiedInhibit.Lib.Lines

/-!
# Framing

`doRun` hands the lines of what it has read to `handleMsg` as long as each read brings a newline.
The first that does not delivers a line that is not finished.
-/

namespace UnifiedInhibit

/-! ## Reading -/

namespace Fork

lemma rx_eq {r : Read} (hnul : 0 ∉ r.got) (hlen : r.got.length ≤ bufSize) :
    rx r = if r.got.length < bufSize then r.got else r.got ++ CStruct.cstr r.behind := by
  have hbuf : CStruct.overwrite (List.replicate bufSize 0) 0 r.got =
      r.got ++ List.replicate (bufSize - r.got.length) 0 := by
    unfold CStruct.overwrite
    rw [List.take_zero, List.nil_append, Nat.zero_add, List.drop_replicate]
  unfold rx
  rw [hbuf]
  split
  · rename_i hlt
    exact CStruct.cstr_padded hnul (Nat.sub_pos_of_lt hlt) _
  · rename_i hge
    have hzero : bufSize - r.got.length = 0 := by omega
    have hgot : ∀ b ∈ r.got, decide (b ≠ 0) = true := by
      intro b hb
      apply decide_eq_true
      intro heq
      rw [heq] at hb
      exact hnul hb
    rw [hzero, List.replicate_zero, List.append_nil]
    unfold CStruct.cstr
    rw [List.takeWhile_append_of_pos hgot]

lemma rx_short {r : Read} (hnul : 0 ∉ r.got) (hlen : r.got.length < bufSize) : rx r = r.got := by
  rw [rx_eq hnul (Nat.le_of_lt hlen), if_pos hlen]

/-- What leaves room in `buf` is returned in one piece. -/
lemma rxAll_short {str : Bytes} (hne : str ≠ []) (hnul : 0 ∉ str) (hlen : str.length < bufSize)
    (behind : Bytes) : rxAll behind str = [str] := by
  obtain ⟨n, hn⟩ := Nat.exists_eq_succ_of_ne_zero (fun h => hne (List.length_eq_zero_iff.mp h))
  have hrest : pieces n (str.drop bufSize) = [] := by
    rw [List.drop_of_length_le (Nat.le_of_lt hlen)]
    cases n <;> rfl
  unfold rxAll
  rw [hn, pieces, if_neg hne, List.take_of_length_le (Nat.le_of_lt hlen), hrest]
  exact congrArg (fun s => [s]) (rx_short hnul hlen)

end Fork

namespace NewlineMessageFork

open Lines (lines rest)

variable {σ : Type} {handleMsg : Bytes → σ → Outcome σ Unit}

/-! ## Rounds -/

/-- `handleMsg` on one message after the other. -/
def handleAll (handleMsg : Bytes → σ → Outcome σ Unit) : List Bytes → σ → Outcome σ Unit
  | [], s => (.ok (), s)
  | msg :: msgs, s =>
    match handleMsg msg s with
    | (.error e, s) => (.error e, s)
    | (.ok (), s) => handleAll handleMsg msgs s

lemma handleAll_cons (msg : Bytes) (msgs : List Bytes) (s : σ) :
    handleAll handleMsg (msg :: msgs) s =
      match handleMsg msg s with
      | (.error e, s) => (.error e, s)
      | (.ok (), s) => handleAll handleMsg msgs s := rfl

lemma handleAll_append (ms ms' : List Bytes) (s : σ) :
    handleAll handleMsg (ms ++ ms') s =
      match handleAll handleMsg ms s with
      | (.error e, s) => (.error e, s)
      | (.ok (), s) => handleAll handleMsg ms' s := by
  induction ms generalizing s with
  | nil => rfl
  | cons m ms ih =>
    rw [List.cons_append, handleAll_cons, handleAll_cons]
    rcases handleMsg m s with ⟨e | u, s'⟩
    · rfl
    · exact ih s'

lemma rounds_of_round_error {buf : Bytes} {s s' : σ} {e : Exn}
    (h : round handleMsg buf s = (.error e, s')) : rounds handleMsg buf s = (.error e, s') := by
  rw [rounds]
  split
  · rename_i heq
    rw [h] at heq
    cases heq
    rfl
  · rename_i heq
    rw [h] at heq
    cases heq

lemma rounds_of_round_ok {buf buf' : Bytes} {s s' : σ}
    (h : round handleMsg buf s = (.ok buf', s')) :
    rounds handleMsg buf s =
      if newline ∈ buf' then rounds handleMsg buf' s' else (.ok buf', s') := by
  rw [rounds]
  split
  · rename_i heq
    rw [h] at heq
    cases heq
  · rename_i heq
    rw [h] at heq
    cases heq
    split <;> rfl

/-- A line is handled and removed, and the buffer behind it is checked. -/
lemma round_line (handleMsg : Bytes → σ → Outcome σ Unit) {l : Bytes} (hl : newline ∉ l)
    (xs : Bytes) (s : σ) :
    round handleMsg (l ++ newline :: xs) s =
      match handleMsg l s with
      | (.error e, s) => (.error e, s)
      | (.ok (), s) =>
        if xs.length > 1024 * 1024 then (.error (.std "Buffer overflow"), s) else (.ok xs, s) := by
  have hfront : ∀ b ∈ l, decide (b ≠ newline) = true := by
    intro b hb
    apply decide_eq_true
    intro heq
    rw [heq] at hb
    exact hl hb
  have hout : (l ++ newline :: xs).takeWhile (· ≠ newline) = l := by
    rw [List.takeWhile_append_of_pos hfront, List.takeWhile_cons_of_neg (by simp), List.append_nil]
  have hdrop : (l ++ newline :: xs).drop (l.length + 1) = xs := by
    rw [← List.drop_drop, List.drop_left]
    rfl
  have hmem : newline ∈ l ++ newline :: xs := by simp
  unfold round
  dsimp only
  rewrite [hout, if_pos hmem, hdrop]
  rfl

/-- A line that is not finished is handled all the same, and stays in `buf`. -/
lemma round_unfinished (handleMsg : Bytes → σ → Outcome σ Unit) {buf : Bytes}
    (h : newline ∉ buf) (s : σ) :
    round handleMsg buf s =
      match handleMsg buf s with
      | (.error e, s) => (.error e, s)
      | (.ok (), s) =>
        if buf.length > 1024 * 1024 then (.error (.std "Buffer overflow"), s)
        else (.ok buf, s) := by
  have hout : buf.takeWhile (· ≠ newline) = buf := by
    apply List.takeWhile_eq_self_iff.mpr
    intro b hb
    apply decide_eq_true
    intro heq
    rw [heq] at hb
    exact h hb
  unfold round
  dsimp only
  rewrite [hout, if_neg h]
  rfl

/-- What the rounds make of a buffer with a line in it. -/
lemma rounds_line (handleMsg : Bytes → σ → Outcome σ Unit) {l xs : Bytes} (hl : newline ∉ l)
    (hsize : xs.length ≤ 1024 * 1024) (s : σ) :
    rounds handleMsg (l ++ newline :: xs) s =
      match handleAll handleMsg (lines newline (l ++ newline :: xs)) s with
      | (.error e, s) => (.error e, s)
      | (.ok (), s) => (.ok (rest newline xs), s) := by
  rw [Lines.lines_line hl]
  induction xs using Lines.line_induction newline generalizing l s with
  | h0 xs hxs =>
    have hround := round_line handleMsg hl xs s
    simp only [gt_iff_lt, Nat.not_lt.mpr hsize, if_false] at hround
    rw [handleAll_cons]
    rcases hmsg : handleMsg l s with ⟨e | u, s'⟩
    · rw [hmsg] at hround
      exact rounds_of_round_error hround
    · rw [hmsg] at hround
      rw [rounds_of_round_ok hround, if_neg hxs, Lines.lines_of_notMem hxs,
        Lines.rest_of_notMem hxs]
      rfl
  | h1 l' xs hl' ih =>
    have hround := round_line handleMsg hl (l' ++ newline :: xs) s
    simp only [gt_iff_lt, Nat.not_lt.mpr hsize, if_false] at hround
    have hmem : newline ∈ l' ++ newline :: xs := by simp
    have hsize' : xs.length ≤ 1024 * 1024 := by
      rw [List.length_append, List.length_cons] at hsize
      omega
    rw [Lines.lines_line hl', Lines.rest_line hl']
    rcases hmsg : handleMsg l s with ⟨e | u, s'⟩
    · rw [hmsg] at hround
      rw [rounds_of_round_error hround, handleAll_cons, hmsg]
    · rw [hmsg] at hround
      rw [rounds_of_round_ok hround, if_pos hmem, ih hl' hsize' s']
      conv_rhs => rw [handleAll_cons, hmsg]

/-! ## Runs -/

/-- The child has handled the lines of `stream` and holds its rest. -/
structure InStep (handleMsg : Bytes → σ → Outcome σ Unit) (s₀ : σ) (c : Child σ) (stream : Bytes) :
    Prop where
  exn : c.exn = none
  buf : c.buf = rest newline stream
  state : handleAll handleMsg (lines newline stream) s₀ = (.ok (), c.state)

lemma step_ok {c : Child σ} {str buf : Bytes} {s : σ} (hexn : c.exn = none)
    (h : rounds handleMsg (c.buf ++ str) c.state = (.ok buf, s)) :
    step handleMsg c str = { buf, state := s } := by
  unfold step
  rw [hexn]
  dsimp only
  rw [h]

lemma step_error {c : Child σ} {str : Bytes} {s : σ} {e : Exn} (hexn : c.exn = none)
    (h : rounds handleMsg (c.buf ++ str) c.state = (.error e, s)) :
    (step handleMsg c str).state = s := by
  unfold step
  rw [hexn]
  dsimp only
  rw [h]

/-- A string with a newline in it, all of whose lines are handled, keeps the child in step. -/
lemma InStep.step {s₀ : σ} {c : Child σ} {stream : Bytes} (h : InStep handleMsg s₀ c stream)
    {str : Bytes} (hmem : newline ∈ str)
    (hsize : ∀ l xs, str = l ++ newline :: xs → newline ∉ l → xs.length ≤ 1024 * 1024) {s : σ}
    (hall : handleAll handleMsg (lines newline (stream ++ str)) s₀ = (.ok (), s)) :
    InStep handleMsg s₀ (NewlineMessageFork.step handleMsg c str) (stream ++ str) := by
  obtain ⟨hl, hstr⟩ := Lines.exists_line hmem
  set l := str.takeWhile (· ≠ newline)
  set xs := str.drop (l.length + 1)
  have hfront : newline ∉ c.buf ++ l := by
    rw [h.buf, List.mem_append, not_or]
    exact ⟨Lines.notMem_rest newline stream, hl⟩
  have hbuf : c.buf ++ str = (c.buf ++ l) ++ newline :: xs := by
    rw [List.append_assoc, ← hstr]
  have hrounds := rounds_line handleMsg hfront (hsize l xs hstr hl) c.state
  rw [← hbuf] at hrounds
  -- the lines that are new
  rw [Lines.lines_append, ← h.buf, handleAll_append, h.state] at hall
  dsimp only at hall
  rw [hall] at hrounds
  have hrest : rest newline xs = rest newline (stream ++ str) := by
    rw [Lines.rest_append, ← h.buf, hbuf, Lines.rest_line hfront]
  rw [step_ok h.exn hrounds]
  refine ⟨rfl, hrest, ?_⟩
  rw [Lines.lines_append, ← h.buf, handleAll_append, h.state]
  exact hall

/-- A string whose first line leaves too much behind ends the child after that line. -/
lemma step_overflow {c : Child σ} (hexn : c.exn = none) (hbuf : c.buf = []) {l xs : Bytes}
    (hl : newline ∉ l) (hsize : 1024 * 1024 < xs.length) {s : σ}
    (hmsg : handleMsg l c.state = (.ok (), s)) :
    step handleMsg c (l ++ newline :: xs) =
      { c with state := s, exn := some (.std "Buffer overflow") } := by
  have hround := round_line handleMsg hl xs c.state
  rw [hmsg] at hround
  simp only [gt_iff_lt, hsize, if_true] at hround
  have hrounds := rounds_of_round_error hround
  unfold step
  rw [hexn, hbuf, List.nil_append]
  dsimp only
  rw [hrounds]

lemma step_ended {c : Child σ} {e : Exn} (hexn : c.exn = some e) (str : Bytes) :
    step handleMsg c str = c := by
  unfold step
  rw [hexn]

lemma inStep_nil (handleMsg : Bytes → σ → Outcome σ Unit) (s : σ) :
    InStep handleMsg s { state := s } [] := by
  refine ⟨rfl, ?_, ?_⟩
  · rw [Lines.rest_of_notMem List.not_mem_nil]
  · rw [Lines.lines_of_notMem List.not_mem_nil]
    rfl

/-! ### A child that waits for a line -/

/-- The child waits for a message and has no part of it. -/
structure Idle (c : Child σ) : Prop where
  exn : c.exn = none
  buf : c.buf = []

/-- A line that is handled leaves the child waiting again. -/
lemma Idle.step_line {c : Child σ} (h : Idle c) {l : Bytes} (hl : newline ∉ l) {s : σ}
    (hmsg : handleMsg l c.state = (.ok (), s)) :
    NewlineMessageFork.step handleMsg c (l ++ [newline]) = { state := s } := by
  have hempty : ([] : Bytes).length ≤ 1024 * 1024 := by simp
  have hrounds := rounds_line handleMsg hl hempty c.state
  rw [Lines.lines_line hl, Lines.lines_of_notMem List.not_mem_nil, handleAll_cons, hmsg,
    Lines.rest_of_notMem List.not_mem_nil] at hrounds
  apply step_ok h.exn
  rw [h.buf, List.nil_append]
  exact hrounds

/-! ### What every run keeps -/

section Invariant

variable {P : σ → Prop} (hmsg : ∀ msg s, newline ∉ msg → P s → P (handleMsg msg s).2)
include hmsg

lemma round_invariant {buf : Bytes} {s : σ} (hs : P s) : P (round handleMsg buf s).2 := by
  have hout : newline ∉ buf.takeWhile (· ≠ newline) := by
    intro hmem
    have hne := List.mem_takeWhile_imp hmem
    simp at hne
  have hP := hmsg _ s hout hs
  unfold round
  dsimp only
  split
  · rename_i heq
    rw [heq] at hP
    exact hP
  · rename_i heq
    rw [heq] at hP
    split <;> split <;> exact hP

lemma rounds_invariant (buf : Bytes) {s : σ} (hs : P s) : P (rounds handleMsg buf s).2 := by
  induction hn : buf.length using Nat.strong_induction_on generalizing buf s with
  | h n ih =>
    have hP : P (round handleMsg buf s).2 := round_invariant hmsg hs
    rcases hround : round handleMsg buf s with ⟨e | buf', s'⟩
    · rw [hround] at hP
      rw [rounds_of_round_error hround]
      exact hP
    · rw [hround] at hP
      rw [rounds_of_round_ok hround]
      split
      · rename_i hmem
        have hlt := round_length_lt handleMsg hround hmem
        rw [hn] at hlt
        exact ih _ hlt buf' hP rfl
      · exact hP

/-- What `handleMsg` keeps on every line, `doRun` keeps on every input. -/
lemma doRun_invariant {s : σ} (hs : P s) (strs : List Bytes) :
    P (doRun handleMsg strs s).state := by
  have hstep : ∀ (c : Child σ) (str : Bytes), P c.state → P (step handleMsg c str).state := by
    intro c str hc
    have hP := rounds_invariant hmsg (c.buf ++ str) hc
    unfold step
    split
    · exact hc
    · split
      · rename_i heq
        rw [heq] at hP
        exact hP
      · rename_i heq
        rw [heq] at hP
        exact hP
  exact Transition.invariant_all (I := fun c : Child σ => P c.state) hs hstep strs

end Invariant

/-! ### Whole messages -/

/-- Each string is one message, or several that do not overrun `buf`. -/
def WholeReads (msgs strs : List Bytes) : Prop :=
  ∃ groups : List (List Bytes), groups.flatten = msgs ∧ strs = groups.map List.flatten ∧
    ∀ g ∈ groups, g ≠ [] ∧ (g.length = 1 ∨ g.flatten.length ≤ 1024 * 1024)

/-- Nothing follows the newline of a message that is one line. -/
lemma eq_nil_of_line {body l xs : Bytes} (hbody : newline ∉ body) (hl : newline ∉ l)
    (h : body ++ [newline] = l ++ newline :: xs) : xs = [] := by
  have hlines := congrArg (lines newline) h
  have hrest := congrArg (rest newline) h
  rw [Lines.lines_line hbody, Lines.lines_line hl, Lines.lines_of_notMem List.not_mem_nil] at hlines
  rw [Lines.rest_line hbody, Lines.rest_line hl, Lines.rest_of_notMem List.not_mem_nil] at hrest
  have hnone : newline ∉ xs := Lines.lines_eq_nil_iff.mp (List.cons.inj hlines).2.symm
  rw [Lines.rest_of_notMem hnone] at hrest
  exact hrest.symm

/-- Messages of one line each are handled one after the other. -/
lemma doRun_whole (htotal : ∀ msg s, ∃ s', handleMsg msg s = (.ok (), s'))
    {bodies strs : List Bytes}
    (hbodies : ∀ b ∈ bodies, newline ∉ b) (h : WholeReads (bodies.map (· ++ [newline])) strs)
    (s : σ) : handleAll handleMsg bodies s = (.ok (), (doRun handleMsg strs s).state) := by
  have hall : ∀ (msgs : List Bytes) (s : σ), ∃ s', handleAll handleMsg msgs s = (.ok (), s') := by
    intro msgs
    induction msgs with
    | nil => exact fun s => ⟨s, rfl⟩
    | cons msg msgs ih =>
      intro s
      obtain ⟨s', hs'⟩ := htotal msg s
      rw [handleAll_cons, hs']
      exact ih s'
  obtain ⟨groups, hgroups, hstrs, hsize⟩ := h
  -- the buffer is read a group at a time, and each group ends in a newline
  have hin : InStep handleMsg s (doRun handleMsg (groups.map List.flatten) s)
      groups.flatten.flatten := by
    have hline : ∀ g ∈ groups, ∀ m ∈ g, ∃ b, newline ∉ b ∧ m = b ++ [newline] := by
      intro g hg m hm
      have hmem : m ∈ bodies.map (· ++ [newline]) := by
        rw [← hgroups]
        exact List.mem_flatten.mpr ⟨g, hg, hm⟩
      obtain ⟨b, hb, heq⟩ := List.mem_map.mp hmem
      exact ⟨b, hbodies b hb, heq.symm⟩
    clear hgroups hstrs
    induction groups using List.reverseRecOn with
    | nil => exact inStep_nil handleMsg s
    | append_singleton groups g ih =>
      have ih := ih (fun g hg => hsize g (List.mem_append_left _ hg))
        fun g hg => hline g (List.mem_append_left _ hg)
      have hg : g ∈ groups ++ [g] := List.mem_append_right _ (List.mem_singleton_self g)
      obtain ⟨hne, hsize⟩ := hsize g hg
      have hmem : newline ∈ g.flatten := by
        rcases List.exists_cons_of_ne_nil hne with ⟨m, ms, hms⟩
        obtain ⟨b, -, hb⟩ := hline g hg m (by rw [hms]; exact List.mem_cons_self)
        rw [hms, List.flatten_cons, hb]
        simp
      -- a group is one message, or fits into one read
      obtain ⟨s', hs'⟩ := hall (lines newline (groups.flatten.flatten ++ g.flatten)) s
      have hnext := ih.step hmem (fun l xs hxs hl => by
        rcases hsize with hone | hsize
        · obtain ⟨m, hm⟩ := List.length_eq_one_iff.mp hone
          obtain ⟨b, hb, hmb⟩ := hline g hg m (by rw [hm]; exact List.mem_singleton_self m)
          rw [hm, List.flatten_singleton, hmb] at hxs
          rw [eq_nil_of_line hb hl hxs]
          exact Nat.zero_le _
        · rw [hxs, List.length_append, List.length_cons] at hsize
          omega) hs'
      unfold doRun at hnext ⊢
      rw [List.map_append, List.map_singleton, Transition.run_snoc]
      simpa using hnext
  have hstate := hin.state
  rw [hgroups, Lines.lines_flatten hbodies, ← hstrs] at hstate
  exact hstate

/-- Two messages are read one by one or together. -/
lemma WholeReads.two {m m' : Bytes} {strs : List Bytes} (h : WholeReads [m, m'] strs) :
    strs = [m, m'] ∨ strs = [m ++ m'] ∧ (m ++ m').length ≤ 1024 * 1024 := by
  obtain ⟨groups, hgroups, hstrs, hsize⟩ := h
  have hempty : ∀ gs : List (List Bytes), (∀ g ∈ gs, g ≠ []) → gs.flatten = [] → gs = [] := by
    intro gs hgs hnil
    rcases gs with _ | ⟨g, gs⟩
    · rfl
    · rw [List.flatten_cons, List.append_eq_nil_iff] at hnil
      exact absurd hnil.1 (hgs g List.mem_cons_self)
  rcases groups with _ | ⟨_ | ⟨a, g⟩, gs⟩
  · exact absurd hgroups (by simp)
  · exact absurd rfl (hsize [] List.mem_cons_self).1
  rw [List.flatten_cons, List.cons_append] at hgroups
  obtain ⟨ha, htail⟩ := List.cons.inj hgroups
  rcases g with _ | ⟨b, g⟩
  · left
    rcases gs with _ | ⟨_ | ⟨b, g⟩, gs⟩
    · exact absurd htail (by simp)
    · exact absurd rfl (hsize [] (by simp)).1
    · rw [List.nil_append, List.flatten_cons, List.cons_append] at htail
      obtain ⟨hb, hnil⟩ := List.cons.inj htail
      obtain ⟨hg, hgs⟩ := List.append_eq_nil_iff.mp hnil
      have hgs := hempty gs (fun g hg => (hsize g (by simp [hg])).1) hgs
      rw [hstrs, hgs, hg, ha, hb]
      simp
  · right
    rw [List.cons_append] at htail
    obtain ⟨hb, hnil⟩ := List.cons.inj htail
    obtain ⟨hg, hgs⟩ := List.append_eq_nil_iff.mp hnil
    have hgs := hempty gs (fun g hg => (hsize g (by simp [hg])).1) hgs
    have hlen := (hsize (a :: b :: g) List.mem_cons_self).2
    rw [hg, ha, hb] at hlen
    rw [hstrs, hgs, hg, ha, hb]
    simpa using hlen

/-! ## Framing -/

/-- A `handleMsg` that only records. -/
def record (msg : Bytes) (log : List Bytes) : Outcome (List Bytes) Unit := (.ok (), log ++ [msg])

lemma handleAll_record (msgs log : List Bytes) :
    handleAll record msgs log = (.ok (), log ++ msgs) := by
  induction msgs generalizing log with
  | nil => rw [List.append_nil]; rfl
  | cons msg msgs ih =>
    show handleAll record msgs (log ++ [msg]) = _
    rw [ih, List.append_assoc, List.singleton_append]

/-- The messages that `doRun` passes to `handleMsg`. -/
def handled (reads : List Fork.Read) : List Bytes := (doRun record (reads.map Fork.rx) []).state

/-- Whenever `doRun` waits for input, it has handled the lines that have arrived. -/
def Framed (reads : List Fork.Read) : Prop :=
  ∀ rs, rs <+: reads → handled rs = lines newline (rs.map Fork.Read.got).flatten

/-- The child that has read `reads` and waits for more. -/
def recorded (reads : List Fork.Read) : Child (List Bytes) :=
  { buf := rest newline (reads.map Fork.Read.got).flatten
    state := lines newline (reads.map Fork.Read.got).flatten }

/-- What a read that follows good ones adds. -/
lemma handled_snoc {reads : List Fork.Read}
    (h : doRun record (reads.map Fork.rx) [] = recorded reads) (r : Fork.Read) :
    handled (reads ++ [r]) = (step record (recorded reads) (Fork.rx r)).state := by
  unfold handled
  rw [List.map_append, List.map_singleton]
  unfold doRun at h ⊢
  rw [Transition.run_snoc, h]

/-- Reads that each bring a newline and leave room for the NUL keep `doRun` in step. -/
lemma doRun_recorded {reads : List Fork.Read} (hnul : ∀ r ∈ reads, 0 ∉ r.got)
    (hgood : ∀ r ∈ reads, newline ∈ r.got ∧ r.got.length < Fork.bufSize) :
    doRun record (reads.map Fork.rx) [] = recorded reads := by
  induction reads using List.reverseRecOn with
  | nil => rfl
  | append_singleton reads r ih =>
    have ih := ih (fun r hr => hnul r (List.mem_append_left _ hr))
      fun r hr => hgood r (List.mem_append_left _ hr)
    have hr : r ∈ reads ++ [r] := List.mem_append_right _ (List.mem_singleton_self r)
    obtain ⟨hmem, hlen⟩ := hgood r hr
    set stream := (reads.map Fork.Read.got).flatten with hstream
    have hstream' : ((reads ++ [r]).map Fork.Read.got).flatten = stream ++ r.got := by
      simp [hstream]
    have hin : InStep record [] (recorded reads) stream := by
      refine ⟨rfl, rfl, ?_⟩
      rw [handleAll_record]
      rfl
    have hnext := hin.step hmem (fun l xs hxs _ => by
      rw [hxs, List.length_append, List.length_cons] at hlen
      unfold Fork.bufSize at hlen
      omega) (handleAll_record _ _)
    have hstate := hnext.state
    rw [handleAll_record] at hstate
    unfold doRun at ih ⊢
    rw [List.map_append, List.map_singleton, Transition.run_snoc, ih,
      Fork.rx_short (hnul r hr) hlen]
    rcases hc : step record (recorded reads) r.got with ⟨buf, log, exn⟩
    rw [hc] at hnext hstate
    have hbuf : buf = rest newline (stream ++ r.got) := hnext.buf
    have hexn : exn = none := hnext.exn
    have hlog : lines newline (stream ++ r.got) = log := (Prod.mk.inj hstate).2
    unfold recorded
    rw [hstream', hbuf, hexn, hlog]

/-- A read without a newline has `doRun` handle a line that is not finished. -/
lemma handled_unfinished {reads : List Fork.Read}
    (h : doRun record (reads.map Fork.rx) [] = recorded reads) {r : Fork.Read}
    (hmem : newline ∉ Fork.rx r) :
    handled (reads ++ [r]) = lines newline (reads.map Fork.Read.got).flatten ++
      [rest newline (reads.map Fork.Read.got).flatten ++ Fork.rx r] := by
  have hbuf : newline ∉ (recorded reads).buf ++ Fork.rx r := by
    rw [List.mem_append, not_or]
    exact ⟨Lines.notMem_rest newline _, hmem⟩
  have hround := round_unfinished record hbuf (recorded reads).state
  rw [handled_snoc h]
  unfold record at hround
  dsimp only at hround
  split at hround
  · exact step_error rfl (rounds_of_round_error hround)
  · have hrounds := rounds_of_round_ok hround
    rw [if_neg hbuf] at hrounds
    exact congrArg Child.state (step_ok rfl hrounds)

/-- A read that fills `buf`, with a newline behind it in memory, has `doRun` handle a line that
was never sent. -/
lemma handled_behind {reads : List Fork.Read}
    (h : doRun record (reads.map Fork.rx) [] = recorded reads) {r : Fork.Read}
    (hmem : newline ∈ r.got) (hlen : r.got.length ≤ Fork.bufSize)
    (hrx : Fork.rx r = r.got ++ [newline]) :
    handled (reads ++ [r]) =
      lines newline ((reads.map Fork.Read.got).flatten ++ (r.got ++ [newline])) := by
  have hin : InStep record [] (recorded reads) (reads.map Fork.Read.got).flatten := by
    refine ⟨rfl, rfl, ?_⟩
    rw [handleAll_record]
    rfl
  have hnext := hin.step (show newline ∈ r.got ++ [newline] from List.mem_append_left _ hmem)
    (fun l xs hxs _ => by
      have hlen' := congrArg List.length hxs
      simp only [List.length_append, List.length_cons, List.length_nil] at hlen'
      unfold Fork.bufSize at hlen
      omega) (handleAll_record _ _)
  have hstate := hnext.state
  rw [handleAll_record] at hstate
  rw [handled_snoc h, hrx]
  exact (Prod.mk.inj hstate).2.symm

/-! ### Reads that break the framing -/

section Last

variable {reads : List Fork.Read} (h : doRun record (reads.map Fork.rx) [] = recorded reads)
  {c : Bytes} (hnul : 0 ∉ c) (hlen : c.length ≤ Fork.bufSize)
include h hnul hlen

/-- A last read without a newline has `doRun` handle its part of a line. -/
lemma newline_mem_of_handled (hlast : handled (reads ++ [⟨c, []⟩]) =
    lines newline ((reads.map Fork.Read.got).flatten ++ c)) : newline ∈ c := by
  by_contra hnot
  have hrx : Fork.rx ⟨c, []⟩ = c := by
    rw [Fork.rx_eq hnul hlen]
    show (if c.length < Fork.bufSize then c else c ++ CStruct.cstr []) = c
    split
    · rfl
    · exact List.append_nil c
  have hun := handled_unfinished h (r := ⟨c, []⟩) (by rw [hrx]; exact hnot)
  have hnone : lines newline (rest newline (reads.map Fork.Read.got).flatten ++ c) = [] := by
    apply Lines.lines_of_notMem
    rw [List.mem_append, not_or]
    exact ⟨Lines.notMem_rest newline _, hnot⟩
  rw [hlast, Lines.lines_append, hnone] at hun
  have hcount := congrArg List.length hun
  rw [List.length_append, List.length_append, List.length_singleton, List.length_nil] at hcount
  omega

/-- A last read that fills `buf` takes a newline behind it for its own. -/
lemma length_lt_of_handled (hmem : newline ∈ c) (hlast : handled (reads ++ [⟨c, [newline, 0]⟩]) =
    lines newline ((reads.map Fork.Read.got).flatten ++ c)) : c.length < Fork.bufSize := by
  by_contra hfull
  have hrx : Fork.rx ⟨c, [newline, 0]⟩ = c ++ [newline] := by
    rw [Fork.rx_eq hnul hlen]
    exact if_neg hfull
  have hbehind := handled_behind h (r := ⟨c, [newline, 0]⟩) hmem hlen hrx
  have hline := Lines.lines_line
    (Lines.notMem_rest newline ((reads.map Fork.Read.got).flatten ++ c)) []
  rw [hlast, ← List.append_assoc,
    Lines.lines_append ((reads.map Fork.Read.got).flatten ++ c), hline] at hbehind
  have hcount := congrArg List.length hbehind
  rw [List.length_append, List.length_cons] at hcount
  omega

end Last

/-- Whatever stands behind `buf`, `doRun` handles exactly the lines that have arrived if and only
if each read brings a newline and does not fill `buf`. -/
theorem framed_iff (chunks : List Bytes)
    (hchunks : ∀ c ∈ chunks, 0 ∉ c ∧ 1 ≤ c.length ∧ c.length ≤ Fork.bufSize) :
    (∀ reads : List Fork.Read, reads.map Fork.Read.got = chunks → Framed reads) ↔
      ∀ c ∈ chunks, newline ∈ c ∧ c.length < Fork.bufSize := by
  -- good reads are all recorded
  have hrecorded : ∀ {chunks : List Bytes} (reads : List Fork.Read),
      (∀ c ∈ chunks, 0 ∉ c ∧ newline ∈ c ∧ c.length < Fork.bufSize) →
      (∀ r ∈ reads, r.got ∈ chunks) →
      doRun record (reads.map Fork.rx) [] = recorded reads := fun reads hgood hmem =>
    doRun_recorded (fun r hr => (hgood _ (hmem r hr)).1) fun r hr => (hgood _ (hmem r hr)).2
  constructor
  · intro h
    induction chunks using List.reverseRecOn with
    | nil =>
      intro c hc
      exact absurd hc List.not_mem_nil
    | append_singleton chunks c ih =>
      have hc := hchunks c (List.mem_append_right _ (List.mem_singleton_self c))
      have hprev : ∀ c ∈ chunks, newline ∈ c ∧ c.length < Fork.bufSize := by
        apply ih fun c hc => hchunks c (List.mem_append_left _ hc)
        intro reads hreads rs hrs
        apply h (reads ++ [⟨c, []⟩])
        · rw [List.map_append, hreads]
          rfl
        · exact hrs.trans (List.prefix_append reads _)
      -- the good reads, with nothing behind `buf`
      set reads : List Fork.Read := chunks.map fun c => ⟨c, []⟩ with hreads
      have hgot : reads.map Fork.Read.got = chunks := by
        rw [hreads, List.map_map]
        exact List.map_id _
      have hgood := hrecorded reads
        (fun c hc => ⟨(hchunks c (List.mem_append_left _ hc)).1, hprev c hc⟩) fun r hr => by
          rw [← hgot]
          exact List.mem_map_of_mem hr
      have hlast : ∀ behind, handled (reads ++ [⟨c, behind⟩]) =
          lines newline ((reads.map Fork.Read.got).flatten ++ c) := by
        intro behind
        have hframed := h (reads ++ [⟨c, behind⟩]) (by rw [List.map_append, hgot]; rfl)
          (reads ++ [⟨c, behind⟩]) (List.prefix_refl _)
        rw [hframed, List.map_append]
        simp
      have hmem := newline_mem_of_handled hgood hc.1 hc.2.2 (hlast [])
      intro c' hc'
      rcases List.mem_append.mp hc' with hc' | hc'
      · exact hprev c' hc'
      · rw [List.mem_singleton.mp hc']
        exact ⟨hmem, length_lt_of_handled hgood hc.1 hc.2.2 hmem (hlast [newline, 0])⟩
  · intro hgood reads hreads rs hrs
    have hmem : ∀ r ∈ rs, r.got ∈ chunks := by
      intro r hr
      rw [← hreads]
      exact List.mem_map_of_mem (hrs.subset hr)
    unfold handled
    rw [hrecorded rs (fun c hc => ⟨(hchunks c hc).1, hgood c hc⟩) hmem]
    rfl

/-- The line `ab` arrives in two reads. -/
theorem framed_fails :
    let reads : List Fork.Read := [⟨lit "a", []⟩, ⟨lit "b" ++ [newline], []⟩]
    (∀ r ∈ reads, 0 ∉ r.got ∧ 1 ≤ r.got.length ∧ r.got.length ≤ Fork.bufSize) ∧ ¬ Framed reads := by
  intro reads
  refine ⟨by decide, fun h => ?_⟩
  have hfirst := h [⟨lit "a", []⟩] (by simp [reads])
  have hrx : Fork.rx ⟨lit "a", []⟩ = lit "a" := Fork.rx_short (by decide) (by decide)
  have hmem : newline ∉ Fork.rx ⟨lit "a", []⟩ := by
    rw [hrx]
    decide
  have hempty : doRun record (List.map Fork.rx []) [] = recorded [] := rfl
  have hun := handled_unfinished hempty hmem
  rw [List.nil_append, hrx, hfirst] at hun
  have hlen := congrArg List.length hun
  have hnone : lines newline ([(⟨lit "a", []⟩ : Fork.Read)].map Fork.Read.got).flatten = [] :=
    Lines.lines_of_notMem (by decide)
  rw [hnone] at hlen
  simp at hlen

/-- Two lines in one read. -/
theorem framed_two : Framed [⟨lit "a" ++ [newline] ++ lit "b" ++ [newline], []⟩] :=
  (framed_iff [lit "a" ++ [newline] ++ lit "b" ++ [newline]] (by decide)).mpr (by decide)
    [⟨lit "a" ++ [newline] ++ lit "b" ++ [newline], []⟩] rfl

end NewlineMessageFork

end UnifiedInhibit
