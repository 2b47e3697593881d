import UnifiedInhibit.LockWatcherTheorems

/-!
# Reading `wake_lock` in chunks

The loop of `watcherThread` that reads the file two bytes at a time. What it has after some chunks
depends only on the bytes in them, and `locks.back()` can be taken of an empty list only behind a
newline.
-/

namespace UnifiedInhibit

namespace LinuxKernelInhibitInterface

/-! ## The loop -/

/-- The body of the inner loop for the byte `c`, on `locks` and `prevChar`. `none` is
`locks.back()` of an empty list. -/
def readByte (st : List Bytes × UInt8) (c : UInt8) : Option (List Bytes × UInt8) :=
  let locks := if st.2 = 32 ∧ c ≠ 32 ∧ c ≠ 10 then st.1 ++ [[]] else st.1
  if c ≠ 32 ∧ c ≠ 10 then
    if locks = [] then none else some (pushBack c locks, c)
  else some (locks, c)

/-- `for (int i = 0; i < got; i++)` -/
def readBytes (buf : Bytes) (got : ℕ) (st : List Bytes × UInt8) : Option (List Bytes × UInt8) :=
  (List.range got).foldlM (fun st i => readByte st (buf.getD i 0)) st

/-- `while ((got = read(wakeLockFile, buf, 2)) > 0)`. A read stores its chunk at the front of
`buf`. -/
def readChunks (buf : Bytes) (st : List Bytes × UInt8) :
    List Bytes → Option (List Bytes × UInt8)
  | [] => some st
  | chunk :: chunks =>
    let buf := CStruct.overwrite buf 0 chunk
    if chunk.length > 0 then
      (readBytes buf chunk.length st).bind fun st => readChunks buf st chunks
    else some st

/-- `locks` behind the loop. -/
def locksRead (chunks : List Bytes) : Option (List Bytes) :=
  (readChunks (List.replicate 4096 0) ([], 32) chunks).map Prod.fst

/-! ## Chunks -/

lemma readBytes_chunk (buf chunk : Bytes) (st : List Bytes × UInt8) :
    readBytes (CStruct.overwrite buf 0 chunk) chunk.length st = chunk.foldlM readByte st := by
  have hfront : CStruct.overwrite buf 0 chunk = chunk ++ buf.drop chunk.length := by
    unfold CStruct.overwrite
    rw [List.take_zero, List.nil_append, Nat.zero_add]
  -- the bytes behind the chunk are those of an earlier read, and are not looked at
  have hbytes : (List.range chunk.length).map
      (fun i => (CStruct.overwrite buf 0 chunk).getD i 0) = chunk := by
    apply List.ext_getElem
    · rw [List.length_map, List.length_range]
    · intro i hi hi'
      rw [List.getElem_map, List.getElem_range, hfront, List.getD_append _ _ _ _ hi',
        List.getD_eq_getElem _ _ hi']
  unfold readBytes
  conv_rhs => rw [← hbytes]
  rw [List.foldlM_map]

/-- The loop reads byte after byte, however the text falls into chunks. -/
lemma readChunks_eq {chunks : List Bytes} (h : ∀ c ∈ chunks, 0 < c.length) (buf : Bytes)
    (st : List Bytes × UInt8) :
    readChunks buf st chunks = chunks.flatten.foldlM readByte st := by
  induction chunks generalizing buf st with
  | nil => rfl
  | cons chunk chunks ih =>
    have hrest := ih fun c hc => h c (List.mem_cons_of_mem _ hc)
    unfold readChunks
    dsimp only
    rw [if_pos (h chunk List.mem_cons_self), readBytes_chunk, List.flatten_cons,
      List.foldlM_append]
    exact Option.bind_congr fun st' _ => hrest _ st'

/-! ## The last lock -/

/-- The next byte finds a lock that it can be appended to, or begins one. -/
def Opened (st : List Bytes × UInt8) : Prop := st.1 = [] → st.2 = 32

lemma Opened.exists_last {st : List Bytes × UInt8} (h : Opened st) {c : UInt8}
    (hc : c ≠ 32 ∧ c ≠ 10) :
    ∃ v w, (if st.2 = 32 ∧ c ≠ 32 ∧ c ≠ 10 then st.1 ++ [[]] else st.1) = v ++ [w] := by
  by_cases hblank : st.2 = 32
  · exact ⟨st.1, [], if_pos ⟨hblank, hc⟩⟩
  · have hne : st.1 ≠ [] := fun hempty => hblank (h hempty)
    refine ⟨st.1.dropLast, st.1.getLast hne, ?_⟩
    rw [if_neg fun hand => hblank hand.1, List.dropLast_concat_getLast]

lemma Opened.readByte_eq {st : List Bytes × UInt8} (h : Opened st) (c : UInt8) :
    readByte st c = some (readChar st c) := by
  unfold readByte readChar
  by_cases hc : c ≠ 32 ∧ c ≠ 10
  · obtain ⟨v, w, hlast⟩ := h.exists_last hc
    dsimp only
    rw [hlast, if_pos hc, if_pos hc, if_neg (List.concat_ne_nil w v)]
  · dsimp only
    rw [if_neg hc, if_neg hc]

lemma Opened.readChar {st : List Bytes × UInt8} (h : Opened st) {c : UInt8} (hnewline : c ≠ 10) :
    Opened (readChar st c) := by
  intro hempty
  by_contra hblank
  have hc : c ≠ 32 ∧ c ≠ 10 := ⟨hblank, hnewline⟩
  obtain ⟨v, w, hlast⟩ := h.exists_last hc
  unfold LinuxKernelInhibitInterface.readChar at hempty
  dsimp only at hempty
  rw [hlast, if_pos hc, pushBack_snoc] at hempty
  exact List.concat_ne_nil _ v hempty

/-- In front of a newline no byte needs a lock that is not there. -/
lemma Opened.foldlM_readByte {st : List Bytes × UInt8} (h : Opened st) {text : Bytes}
    (hnewline : 10 ∉ text) :
    text.foldlM readByte st = some (text.foldl LinuxKernelInhibitInterface.readChar st) ∧
      Opened (text.foldl LinuxKernelInhibitInterface.readChar st) := by
  induction text generalizing st with
  | nil => exact ⟨rfl, h⟩
  | cons c text ih =>
    rw [List.mem_cons, not_or] at hnewline
    obtain ⟨hfold, hopened⟩ := ih (h.readChar (Ne.symm hnewline.1)) hnewline.2
    rw [List.foldlM_cons, h.readByte_eq]
    exact ⟨hfold, hopened⟩

/-! ## The whole file -/

lemma newline_notMem_intercalate {words : List Bytes} (h : ∀ w ∈ words, 10 ∉ w) :
    10 ∉ List.intercalate [32] words := by
  induction words with
  | nil => exact List.not_mem_nil
  | cons w words ih =>
    have hw := h w List.mem_cons_self
    have hrest := ih fun u hu => h u (List.mem_cons_of_mem _ hu)
    cases words with
    | nil =>
      rw [List.intercalate_singleton]
      exact hw
    | cons w' words =>
      rw [List.intercalate_cons_cons, List.mem_append, List.mem_append, not_or, not_or]
      exact ⟨⟨hw, by decide⟩, hrest⟩

/-- The chunks give what the watcher is said to read at once. -/
lemma locksRead_eq {names chunks : List Bytes} (hnames : ∀ n ∈ names, 10 ∉ n)
    (hchunks : ∀ c ∈ chunks, 0 < c.length) (htext : chunks.flatten = wakeLockFile names) :
    locksRead chunks = some (readLocks (wakeLockFile names)) := by
  have hopened : Opened ([], 32) := fun _ => rfl
  obtain ⟨hfold, hlast⟩ := hopened.foldlM_readByte (newline_notMem_intercalate hnames)
  unfold locksRead readLocks
  rw [readChunks_eq hchunks, htext]
  unfold wakeLockFile
  -- the newline comes last, and needs no lock
  rw [List.foldlM_append, hfold, List.foldl_append]
  show ((readByte _ 10).bind some).map Prod.fst = _
  rw [hlast.readByte_eq]
  rfl

/-- The names that the kernel shows are read back, and each time that the back of the list is
taken there is one. -/
theorem wake_lock_read_back {names chunks : List Bytes}
    (hnames : ∀ n ∈ names, n ≠ [] ∧ 32 ∉ n ∧ 10 ∉ n)
    (hchunks : ∀ c ∈ chunks, c.length = 1 ∨ c.length = 2)
    (htext : chunks.flatten = wakeLockFile names) : locksRead chunks = some names := by
  have hpos : ∀ c ∈ chunks, 0 < c.length := by
    intro c hc
    have := hchunks c hc
    omega
  rw [locksRead_eq (fun n hn => (hnames n hn).2.2) hpos htext,
    readLocks_wakeLockFile fun n hn => (hnames n hn).2]
  congr 1
  exact List.filter_eq_self.mpr fun n hn => decide_eq_true (hnames n hn).1

/-- Two names, with the blank between them in front of a chunk. -/
theorem wake_lock_read_back_two :
    locksRead [lit "ab", lit " c", lit "\n"] = some [lit "ab", lit "c"] :=
  wake_lock_read_back (by decide) (by decide) rfl

end LinuxKernelInhibitInterface

end UnifiedInhibit
