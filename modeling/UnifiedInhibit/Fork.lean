import UnifiedInhibit.Types
import UnifiedInhibit.Lib.CStruct
import UnifiedInhibit.Lib.Run

/-!
# `Fork` and `NewlineMessageFork`

`src/Fork/Fork.cpp` and `src/Fork/NewlineMessageFork.cpp`: the child process that reads messages
from a pipe and handles them line by line.
-/

namespace UnifiedInhibit

namespace Fork

/-- `sizeof(buf)` in `rx` -/
def bufSize : ℕ := 1024

/-- A `read` from the pipe: the bytes it stores in `buf`, and those that happen to stand behind
`buf` in memory. -/
structure Read where
  got : Bytes
  behind : Bytes := []

/-- `Fork::rx`. `buf` is zeroed, and then turned into a string up to its first NUL. A read that
fills it leaves no NUL. -/
def rx (r : Read) : Bytes :=
  CStruct.cstr (CStruct.overwrite (List.replicate bufSize 0) 0 r.got ++ r.behind)

/-- What each `read` takes of `str`, at most `n` times. -/
def pieces : ℕ → Bytes → List Bytes
  | 0, _ => []
  | n + 1, str => if str = [] then [] else str.take bufSize :: pieces n (str.drop bufSize)

/-- The strings that `rx` returns when `str` has been written to the pipe, read by itself. -/
def rxAll (behind str : Bytes) : List Bytes :=
  (pieces str.length str).map fun got => rx { got, behind }

end Fork

namespace NewlineMessageFork

/-- `'\n'` -/
def newline : UInt8 := 10

variable {σ : Type} (handleMsg : Bytes → σ → Outcome σ Unit)

/-- The loop body of `doRun` behind the `rx`. -/
def round (buf : Bytes) (s : σ) : Outcome σ Bytes :=
  let out := buf.takeWhile (· ≠ newline)
  match handleMsg out s with
  | (.error e, s) => (.error e, s)
  | (.ok (), s) =>
    let buf := if newline ∈ buf then buf.drop (out.length + 1) else buf
    if buf.length > 1024 * 1024 then (.error (.std "Buffer overflow"), s) else (.ok buf, s)

/-- A message that ends with a newline is removed from `buf`. -/
lemma round_length_lt {buf buf' : Bytes} {s s' : σ}
    (h : round handleMsg buf s = (.ok buf', s')) (hmem : newline ∈ buf') :
    buf'.length < buf.length := by
  unfold round at h
  by_cases hin : newline ∈ buf
  · have hpos : 0 < buf.length := List.length_pos_of_mem hin
    simp only [hin, if_true] at h
    split at h
    · cases h
    · split at h
      · cases h
      · cases h
        rw [List.length_drop]
        omega
  · simp only [hin, if_false] at h
    split at h
    · cases h
    · split at h
      · cases h
      · cases h
        exact absurd hmem hin

/-- The rounds up to the next `rx`. -/
def rounds (buf : Bytes) (s : σ) : Outcome σ Bytes :=
  match _h : round handleMsg buf s with
  | (.error e, s) => (.error e, s)
  | (.ok buf', s) => if _hmem : newline ∈ buf' then rounds buf' s else (.ok buf', s)
termination_by buf.length
decreasing_by exact round_length_lt handleMsg _h _hmem

/-- The child in `doRun`: it waits in `rx`, or an exception has ended it. -/
structure Child (σ : Type) where
  buf : Bytes := []
  state : σ
  exn : Option Exn := none

/-- The next `rx` returns `str`. -/
def step (c : Child σ) (str : Bytes) : Child σ :=
  match c.exn with
  | some _ => c
  | none =>
    match rounds handleMsg (c.buf ++ str) c.state with
    | (.ok buf, s) => { c with buf, state := s }
    | (.error e, s) => { c with state := s, exn := some e }

/-- `doRun`, as far as the strings that `rx` returns take it. -/
def doRun (strs : List Bytes) (s : σ) : Child σ :=
  Transition.run (step handleMsg) { state := s } strs

end NewlineMessageFork

end UnifiedInhibit
