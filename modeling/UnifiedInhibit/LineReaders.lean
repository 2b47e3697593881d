import UnifiedInhibit.ForkTheorems

/-!
# Two readers of lines

`Fork::rxLine` of `src/Fork/Fork.cpp` keeps its buffer in the object and returns a string with each
call. `NewlineMessageFork::doRun` keeps it in a local and hands the strings to `handleMsg`. Both are
followed call by call and pass by pass, over the strings that `rx` returns.
-/

namespace UnifiedInhibit

open NewlineMessageFork (newline)

/-- What a reader carries, and how many strings of `rx` it has taken. -/
structure LineReader where
  lineBuf : Bytes := []
  consumed : ℕ := 0

/-- Why a reader does not go on. -/
inductive Stop where
  /-- `rx` waits for input -/
  | waiting
  /-- the buffer has grown too large -/
  | overflow
  /-- `handleMsg` has thrown -/
  | threw (e : Exn)

namespace Fork

variable (chunks : List Bytes)

/-- `if (lineBuf.find('\n') == npos) lineBuf += rx()` -/
def fill (r : LineReader) : Option LineReader :=
  if newline ∈ r.lineBuf then some r
  else chunks[r.consumed]?.map fun str =>
    { lineBuf := r.lineBuf ++ str, consumed := r.consumed + 1 }

/-- What stands in front of the newline, or all. -/
def out (buf : Bytes) : Bytes := buf.takeWhile (· ≠ newline)

/-- `if (newline >= 0) lineBuf.erase(0, newline+1)` -/
def eraseLine (r : LineReader) : LineReader :=
  if newline ∈ r.lineBuf then { r with lineBuf := r.lineBuf.drop ((out r.lineBuf).length + 1) }
  else r

/-- `Fork::rxLine` -/
def rxLine (r : LineReader) : Except Stop Bytes × LineReader :=
  match fill chunks r with
  | none => (.error .waiting, r)
  | some r =>
    let out := out r.lineBuf
    let r := eraseLine r
    if r.lineBuf.length > 1024 * 1024 then (.error .overflow, r) else (.ok out, r)

/-- The strings that calls of `rxLine` have returned. -/
structure Calls where
  returned : List Bytes := []
  stop : Option Stop := none
  reader : LineReader := {}

/-- One more call of `rxLine`, unless one has not returned. -/
def call (c : Calls) : Calls :=
  match c.stop with
  | some _ => c
  | none =>
    match rxLine chunks c.reader with
    | (.error stop, reader) => { c with stop := some stop, reader }
    | (.ok out, reader) => { c with returned := c.returned ++ [out], reader }

end Fork

namespace NewlineMessageFork

open Fork (fill out eraseLine)

variable {σ : Type} (chunks : List Bytes) (handleMsg : Bytes → σ → Outcome σ Unit)

/-- The strings that `doRun` has passed to `handleMsg`. -/
structure Passes (σ : Type) where
  passed : List Bytes := []
  stop : Option Stop := none
  reader : LineReader := {}
  state : σ

/-- One more pass of the loop of `doRun`, unless it has ended. -/
def pass (p : Passes σ) : Passes σ :=
  match p.stop with
  | some _ => p
  | none =>
    match fill chunks p.reader with
    | none => { p with stop := some .waiting }
    | some r =>
      let out := out r.lineBuf
      let p := { p with passed := p.passed ++ [out], reader := r }
      match handleMsg out p.state with
      | (.error e, state) => { p with stop := some (.threw e), state }
      | (.ok (), state) =>
        let r := eraseLine r
        { p with stop := if r.lineBuf.length > 1024 * 1024 then some .overflow else none
                 reader := r, state }

/-! ## Step by step -/

/-- The readers have delivered the same and carry the same, unless `handleMsg` has thrown. -/
structure Agree (c : Fork.Calls) (p : Passes σ) : Prop where
  passed : p.passed <+: c.returned
  same : (∀ e, p.stop ≠ some (.threw e)) →
    p.passed = c.returned ∧ p.reader = c.reader ∧ p.stop = c.stop

variable {chunks} {handleMsg}

section Spec

variable {c : Fork.Calls} {p : Passes σ} {r : LineReader}

/-- Calls only add to what has been returned. -/
lemma returned_prefix_call (c : Fork.Calls) : c.returned <+: (Fork.call chunks c).returned := by
  unfold Fork.call
  split
  · exact List.prefix_refl _
  · split
    · exact List.prefix_refl _
    · exact List.prefix_append _ _

lemma call_stopped {stop : Stop} (hstop : c.stop = some stop) : Fork.call chunks c = c := by
  unfold Fork.call
  rw [hstop]

lemma pass_stopped {stop : Stop} (hstop : p.stop = some stop) : pass chunks handleMsg p = p := by
  unfold pass
  rw [hstop]

lemma call_waiting (hstop : c.stop = none) (hfill : fill chunks c.reader = none) :
    Fork.call chunks c = { c with stop := some .waiting } := by
  unfold Fork.call Fork.rxLine
  rw [hstop, hfill]

lemma pass_waiting (hstop : p.stop = none) (hfill : fill chunks p.reader = none) :
    pass chunks handleMsg p = { p with stop := some .waiting } := by
  unfold pass
  rw [hstop, hfill]

/-- A buffer that stays small lets `rxLine` return. -/
lemma call_filled (hstop : c.stop = none) (hfill : fill chunks c.reader = some r)
    (hsize : (Fork.call chunks c).reader.lineBuf.length ≤ 1024 * 1024) :
    (eraseLine r).lineBuf.length ≤ 1024 * 1024 ∧
      Fork.call chunks c =
        { c with returned := c.returned ++ [out r.lineBuf], reader := eraseLine r } := by
  have hcall : Fork.call chunks c =
      if (eraseLine r).lineBuf.length > 1024 * 1024 then
        { c with stop := some .overflow, reader := eraseLine r }
      else { c with returned := c.returned ++ [out r.lineBuf], reader := eraseLine r } := by
    unfold Fork.call Fork.rxLine
    rw [hstop, hfill]
    dsimp only
    split
    · rename_i heq
      split at heq <;> cases heq
      rw [if_pos ‹_›]
    · rename_i heq
      split at heq <;> cases heq
      rw [if_neg ‹_›]
  by_cases hlarge : (eraseLine r).lineBuf.length > 1024 * 1024
  · rw [hcall, if_pos hlarge] at hsize
    exact absurd hlarge (Nat.not_lt.mpr hsize)
  · exact ⟨Nat.not_lt.mp hlarge, by rw [hcall, if_neg hlarge]⟩

lemma pass_threw (hstop : p.stop = none) (hfill : fill chunks p.reader = some r) {e : Exn} {s : σ}
    (hmsg : handleMsg (out r.lineBuf) p.state = (.error e, s)) :
    pass chunks handleMsg p = { passed := p.passed ++ [out r.lineBuf], stop := some (.threw e),
                                reader := r, state := s } := by
  unfold pass
  rw [hstop, hfill]
  dsimp only
  rw [hmsg]

lemma pass_handled (hstop : p.stop = none) (hfill : fill chunks p.reader = some r) {s : σ}
    (hmsg : handleMsg (out r.lineBuf) p.state = (.ok (), s)) :
    pass chunks handleMsg p =
      { passed := p.passed ++ [out r.lineBuf]
        stop := if (eraseLine r).lineBuf.length > 1024 * 1024 then some .overflow else none
        reader := eraseLine r, state := s } := by
  unfold pass
  rw [hstop, hfill]
  dsimp only
  rw [hmsg]

/-- A pass waits only where there is nothing to take. -/
lemma fill_of_waiting (hstop : p.stop = none)
    (hwait : (pass chunks handleMsg p).stop = some .waiting) : fill chunks p.reader = none := by
  cases hfill : fill chunks p.reader with
  | none => rfl
  | some r =>
    rcases hmsg : handleMsg (out r.lineBuf) p.state with ⟨e | u, s⟩
    · rw [pass_threw hstop hfill hmsg] at hwait
      cases hwait
    · rw [pass_handled hstop hfill hmsg] at hwait
      dsimp only at hwait
      split at hwait <;> cases hwait

end Spec

/-- Where `rxLine` returns a string, the pass hands it over, and erases the same from the same
buffer, unless `handleMsg` throws. -/
lemma Agree.next {c : Fork.Calls} {p : Passes σ} (h : Agree c p)
    (hsize : (Fork.call chunks c).reader.lineBuf.length ≤ 1024 * 1024) :
    Agree (Fork.call chunks c) (pass chunks handleMsg p) := by
  cases hstop : p.stop with
  | some stop =>
    rw [pass_stopped hstop]
    refine ⟨h.passed.trans (returned_prefix_call c), fun hthrew => ?_⟩
    obtain ⟨hpassed, hreader, hsame⟩ := h.same hthrew
    rw [call_stopped (hsame.symm.trans hstop)]
    exact ⟨hpassed, hreader, hsame⟩
  | none =>
    -- neither has stopped, so both take the same from the same buffer
    obtain ⟨hpassed, hreader, hsame⟩ := h.same (by rw [hstop]; simp)
    have hrunning : c.stop = none := hsame.symm.trans hstop
    cases hfill : fill chunks p.reader with
    | none =>
      rw [pass_waiting hstop hfill, call_waiting hrunning (by rwa [← hreader])]
      exact ⟨h.passed, fun _ => ⟨hpassed, hreader, rfl⟩⟩
    | some r =>
      obtain ⟨hsmall, hcall⟩ := call_filled hrunning (by rwa [← hreader]) hsize
      have hnext : p.passed ++ [out r.lineBuf] = c.returned ++ [out r.lineBuf] := by rw [hpassed]
      rw [hcall]
      rcases hmsg : handleMsg (out r.lineBuf) p.state with ⟨e | u, s⟩
      · rw [pass_threw hstop hfill hmsg]
        exact ⟨hnext ▸ List.prefix_refl _, fun hthrew => absurd rfl (hthrew e)⟩
      · rw [pass_handled hstop hfill hmsg, if_neg (Nat.not_lt.mpr hsmall)]
        exact ⟨hnext ▸ List.prefix_refl _, fun _ => ⟨hnext, rfl, hrunning.symm⟩⟩

/-! ## The passes and the child

The passes are those of `doRun`: where they come to wait for input, the child holds the same. -/

lemma run_ended {c : Child σ} {e : Exn} (hexn : c.exn = some e) (strs : List Bytes) :
    Transition.run (step handleMsg) c strs = c := by
  induction strs with
  | nil => rfl
  | cons str strs ih => rw [Transition.run_cons, step_ended hexn, ih]

/-- A string that lets the child wait again in the end has been handled. -/
lemma run_cons_waiting {c c' : Child σ} {str : Bytes} {strs : List Bytes} (hexn : c.exn = none)
    (h : Transition.run (step handleMsg) c (str :: strs) = c') (hend : c'.exn = none) :
    ∃ buf s, rounds handleMsg (c.buf ++ str) c.state = (.ok buf, s) ∧
      Transition.run (step handleMsg) { buf, state := s } strs = c' := by
  rw [Transition.run_cons] at h
  rcases hrounds : rounds handleMsg (c.buf ++ str) c.state with ⟨e | buf, s⟩
  · have hstep : step handleMsg c str = { c with state := s, exn := some e } := by
      unfold step
      rw [hexn]
      dsimp only
      rw [hrounds]
    rw [hstep, run_ended rfl] at h
    rw [← h] at hend
    cases hend
  · rw [step_ok hexn hrounds] at h
    exact ⟨buf, s, rfl, h⟩

variable (chunks) (handleMsg) in
/-- What the child makes of the strings that are left. -/
def resume (p : Passes σ) : Child σ :=
  let left := chunks.drop p.reader.consumed
  if newline ∈ p.reader.lineBuf then
    Transition.run (step handleMsg) { state := p.state } (p.reader.lineBuf :: left)
  else Transition.run (step handleMsg) { buf := p.reader.lineBuf, state := p.state } left

/-- The child takes the buffer where it has a line, and the next string of `rx` with it
elsewhere. -/
lemma resume_filled {p : Passes σ} {r : LineReader} (hfill : fill chunks p.reader = some r)
    {buf : Bytes} {s : σ} (hrounds : rounds handleMsg r.lineBuf p.state = (.ok buf, s)) :
    resume chunks handleMsg p =
      Transition.run (step handleMsg) { buf, state := s } (chunks.drop r.consumed) := by
  unfold fill at hfill
  unfold resume
  by_cases hmem : newline ∈ p.reader.lineBuf
  · rw [if_pos hmem] at hfill ⊢
    cases hfill
    rw [Transition.run_cons, step_ok (c := { state := p.state }) rfl hrounds]
  · rw [if_neg hmem] at hfill ⊢
    obtain ⟨str, hstr, hr⟩ := Option.map_eq_some_iff.mp hfill
    subst hr
    have hlt : p.reader.consumed < chunks.length := (List.getElem?_eq_some_iff.mp hstr).1
    have hget : chunks[p.reader.consumed] = str := (List.getElem?_eq_some_iff.mp hstr).2
    rw [List.drop_eq_getElem_cons hlt, hget, Transition.run_cons,
      step_ok (c := { buf := p.reader.lineBuf, state := p.state }) rfl hrounds]

/-- With nothing left the child stays as it is. -/
lemma resume_waiting {p : Passes σ} (hfill : fill chunks p.reader = none) :
    resume chunks handleMsg p = { buf := p.reader.lineBuf, state := p.state } := by
  unfold fill at hfill
  unfold resume
  by_cases hmem : newline ∈ p.reader.lineBuf
  · rw [if_pos hmem] at hfill
    cases hfill
  · rw [if_neg hmem] at hfill ⊢
    have hnone := List.getElem?_eq_none_iff.mp (Option.map_eq_none_iff.mp hfill)
    rw [List.drop_of_length_le hnone]
    rfl

lemma eraseLine_consumed (r : LineReader) : (eraseLine r).consumed = r.consumed := by
  unfold eraseLine
  split <;> rfl

lemma round_eraseLine {r : LineReader} {s s' : σ}
    (hmsg : handleMsg (out r.lineBuf) s = (.ok (), s'))
    (hsize : ¬ (eraseLine r).lineBuf.length > 1024 * 1024) :
    round handleMsg r.lineBuf s = (.ok (eraseLine r).lineBuf, s') := by
  have herase : (eraseLine r).lineBuf =
      if newline ∈ r.lineBuf then r.lineBuf.drop ((out r.lineBuf).length + 1) else r.lineBuf := by
    unfold eraseLine
    split <;> rfl
  rw [herase] at hsize ⊢
  unfold round
  dsimp only
  rw [show r.lineBuf.takeWhile (· ≠ newline) = out r.lineBuf from rfl, hmsg]
  dsimp only
  rw [if_neg hsize]

/-- A pass that goes on has handled a string. -/
lemma pass_running {p : Passes σ} (hstop : p.stop = none)
    (hnext : (pass chunks handleMsg p).stop = none) :
    ∃ r s, fill chunks p.reader = some r ∧ (pass chunks handleMsg p).reader = eraseLine r ∧
      (pass chunks handleMsg p).state = s ∧
      round handleMsg r.lineBuf p.state = (.ok (eraseLine r).lineBuf, s) := by
  cases hfill : fill chunks p.reader with
  | none =>
    rw [pass_waiting hstop hfill] at hnext
    cases hnext
  | some r =>
    rcases hmsg : handleMsg (out r.lineBuf) p.state with ⟨e | u, s⟩
    · rw [pass_threw hstop hfill hmsg] at hnext
      cases hnext
    · rw [pass_handled hstop hfill hmsg] at hnext ⊢
      have hsize : ¬ (eraseLine r).lineBuf.length > 1024 * 1024 := by
        intro hlarge
        rw [if_pos hlarge] at hnext
        cases hnext
      exact ⟨r, s, rfl, rfl, rfl, round_eraseLine hmsg hsize⟩

/-- A pass is a round of the child. -/
lemma resume_pass {p : Passes σ} (hstop : p.stop = none)
    (hnext : (pass chunks handleMsg p).stop = none)
    (hend : (resume chunks handleMsg (pass chunks handleMsg p)).exn = none) :
    resume chunks handleMsg p = resume chunks handleMsg (pass chunks handleMsg p) := by
  obtain ⟨r, s, hfill, hreader, hstate, hround⟩ := pass_running hstop hnext
  have hrounds := rounds_of_round_ok hround
  have hresume : resume chunks handleMsg (pass chunks handleMsg p) =
      if newline ∈ (eraseLine r).lineBuf then
        Transition.run (step handleMsg) { state := s }
          ((eraseLine r).lineBuf :: chunks.drop r.consumed)
      else Transition.run (step handleMsg) { buf := (eraseLine r).lineBuf, state := s }
        (chunks.drop r.consumed) := by
    unfold resume
    rw [hreader, hstate, eraseLine_consumed]
  by_cases hmem : newline ∈ (eraseLine r).lineBuf
  · rw [if_pos hmem] at hrounds hresume
    obtain ⟨buf, s', hrest, hrun⟩ := run_cons_waiting rfl hresume.symm hend
    rw [← hrun]
    exact resume_filled hfill (hrounds.trans hrest)
  · rw [if_neg hmem] at hrounds hresume
    rw [hresume]
    exact resume_filled hfill hrounds

/-- Passes that come to wait for input have the child's buffer and state. -/
lemma doRun_of_waiting (chunks : List Bytes) (s : σ) (n : ℕ)
    (hwait : ((pass chunks handleMsg)^[n] { state := s }).stop = some .waiting) :
    doRun handleMsg chunks s =
      { buf := ((pass chunks handleMsg)^[n] { state := s }).reader.lineBuf
        state := ((pass chunks handleMsg)^[n] { state := s }).state } := by
  have hall : ∀ p : Passes σ, p.stop = none → ((pass chunks handleMsg)^[n] p).stop = some .waiting →
      resume chunks handleMsg p = { buf := ((pass chunks handleMsg)^[n] p).reader.lineBuf
                                    state := ((pass chunks handleMsg)^[n] p).state } := by
    clear hwait
    induction n with
    | zero =>
      intro p hstop hwait
      rw [Function.iterate_zero_apply] at hwait
      rw [hstop] at hwait
      cases hwait
    | succ n ih =>
      intro p hstop hwait
      rw [Function.iterate_succ_apply] at hwait ⊢
      cases hnext : (pass chunks handleMsg p).stop with
      | none =>
        have hrest := ih _ hnext hwait
        rw [resume_pass hstop hnext (by rw [hrest]), hrest]
      | some stop =>
        -- the pass that waits has found nothing left
        have hsame : (pass chunks handleMsg)^[n] (pass chunks handleMsg p) =
            pass chunks handleMsg p := Function.iterate_fixed (pass_stopped hnext) n
        rw [hsame] at hwait ⊢
        have hfill := fill_of_waiting hstop hwait
        rw [pass_waiting hstop hfill]
        exact resume_waiting hfill
  exact hall { state := s } rfl hwait

/-- While the buffer stays within 1 MiB, the strings that `doRun` has passed on after `n` passes are
those that `n` calls of `rxLine` have returned, and the buffers are the same; only an exception of
`handleMsg` ends `doRun` before. -/
theorem readers_agree (chunks : List Bytes) (handleMsg : Bytes → σ → Outcome σ Unit) (s : σ) (n : ℕ)
    (hsize : ∀ m ≤ n, ((Fork.call chunks)^[m] {}).reader.lineBuf.length ≤ 1024 * 1024) :
    Agree ((Fork.call chunks)^[n] {}) ((pass chunks handleMsg)^[n] { state := s }) := by
  induction n with
  | zero => exact ⟨List.prefix_refl _, fun _ => ⟨rfl, rfl, rfl⟩⟩
  | succ n ih =>
    have hlast := hsize (n + 1) (le_refl _)
    rw [Function.iterate_succ_apply'] at hlast ⊢
    rw [Function.iterate_succ_apply']
    exact (ih fun m hm => hsize m (Nat.le_succ_of_le hm)).next hlast

/-- Two lines in three strings, one of them cut. -/
theorem readers_agree_two :
    let chunks := [lit "a\nb", lit "", lit "c\n"]
    Agree ((Fork.call chunks)^[4] {}) ((pass chunks record)^[4] { state := [] }) := by
  intro chunks
  have hsize : ∀ m ≤ 4, ((Fork.call chunks)^[m] {}).reader.lineBuf.length ≤ 1024 * 1024 := by
    decide +kernel
  exact readers_agree chunks record [] 4 hsize

end NewlineMessageFork

end UnifiedInhibit
