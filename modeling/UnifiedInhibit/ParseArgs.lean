import UnifiedInhibit.Lib.CommandLine
import UnifiedInhibit.UserCommandsInhibitInterface

/-!
# `parseArgs`

`src/main.cpp`: the words of the command line. The dashes in front of a word are counted in a
`uint8_t`.
-/

namespace UnifiedInhibit

/-- `Args` in `include/util.hpp`. -/
structure Args where
  flags : Finset UInt8 := ∅
  params : UserCommandsInhibitInterface.Params := ∅

/-- `exit` and what has been printed before it. -/
structure Exit where
  code : ℕ
  printed : Bytes

namespace ParseArgs

/-- The locals of `parseArgs`, and whether `front` has been called on an empty string. -/
structure Locals where
  ret : Args := {}
  lastArg : Bytes := []
  emptyFront : Bool := false

/-- `for (auto c : arg) { if (c == '-') leadingDashes++; else break; }`. 45 is the dash. -/
def leadingDashes (n : UInt8) : Bytes → UInt8
  | [] => n
  | c :: cs => if c = 45 then leadingDashes (n + 1) cs else n

/-- `while(arg.front() == '-') arg.erase(0,1)`, and whether the string was empty in the end. -/
def removeDashes : Bytes → Bytes × Bool
  | [] => ([], true)
  | c :: cs => if c = 45 then removeDashes cs else (c :: cs, false)

def specifiedTwice (arg : Bytes) : Exit where
  code := 1
  printed := lit "\x1b[31mError: argument --" ++ arg ++ lit " specified twice\n\x1b[0m"

/-- `ret.flags.insert(c)` for all but the dashes. -/
def insertFlags (arg : Bytes) (flags : Finset UInt8) : Finset UInt8 :=
  arg.foldl (fun flags c => if c = 45 then flags else insert c flags) flags

/-- The body of the loop. -/
def parseArg (st : Locals) (arg : Bytes) : Except Exit Locals :=
  let leadingDashes := leadingDashes 0 arg
  let st := if leadingDashes = 1 then
      { st with ret.flags := insertFlags arg st.ret.flags } else st
  if leadingDashes ≥ 2 then
    let (arg, empty) := removeDashes arg
    if arg ∈ st.ret.params then .error (specifiedTwice arg)
    else .ok { ret.flags := st.ret.flags, ret.params := st.ret.params.insertIfNew arg [],
               lastArg := arg, emptyFront := st.emptyFront || empty }
  else if leadingDashes = 0 then
    match st.ret.params[st.lastArg]? with
    | none => .ok st
    | some values =>
      .ok { st with ret.params := st.ret.params.insert st.lastArg (values ++ [arg]) }
  else .ok st

/-- `parseArgs`. It returns `ret`. -/
def parseArgs (argv : List Bytes) : Except Exit Locals := (argv.drop 1).foldlM parseArg {}

/-! ## The grammar -/

abbrev Word := CommandLine.Word Bytes UInt8 Bytes

/-- The number of dashes in front of a word. -/
def dashes (arg : Bytes) : ℕ := (arg.takeWhile (· = 45)).length

/-- What follows them. -/
def undashed (arg : Bytes) : Bytes := arg.dropWhile (· = 45)

/-- A word that is taken to have `n` dashes. -/
def asWord (n : ℕ) (arg : Bytes) : Word :=
  if 2 ≤ n then .param (undashed arg)
  else if n = 1 then .flags (arg.filter (· ≠ 45))
  else .value arg

def words (argv : List Bytes) : List Word := (argv.drop 1).map fun arg => asWord (dashes arg) arg

/-- The words as they are with the count of dashes cut to eight bits. -/
def heard (argv : List Bytes) : List Word :=
  (argv.drop 1).map fun arg => asWord (dashes arg % 256) arg

/-- The arguments stand for these words. -/
structure Means (ws : List Word) (ret : Args) : Prop where
  flags : ret.flags = (CommandLine.flags ws).toFinset
  params : ∀ name, ret.params[name]? = CommandLine.valuesOf ws name

/-- The words are parsed as the grammar says. -/
structure Follows (argv : List Bytes) (r : Except Exit Locals) : Prop where
  distinct : (CommandLine.names (words argv)).Nodup →
    ∃ st, r = .ok st ∧ Means (words argv) st.ret ∧ st.emptyFront = false
  repeated : ¬ (CommandLine.names (words argv)).Nodup → ∃ e, r = .error e

/-- The code counts two dashes or more wherever there are two or more, and something follows them;
or it counts so for two words with one name. -/
def Counted (argv : List Bytes) : Prop :=
  (CommandLine.names (words argv)).Nodup ∧
      (∀ arg ∈ argv.drop 1, 2 ≤ dashes arg → 2 ≤ dashes arg % 256 ∧ undashed arg ≠ []) ∨
    ¬ (CommandLine.names (heard argv)).Nodup

/-! ## One word -/

/-- What the code does with a word once it has its kind. -/
def hear (st : Locals) : Word → Except Exit Locals
  | .param name =>
    if name ∈ st.ret.params then .error (specifiedTwice name)
    else .ok { ret.flags := st.ret.flags, ret.params := st.ret.params.insertIfNew name [],
               lastArg := name, emptyFront := st.emptyFront || decide (name = []) }
  | .flags cs => .ok { st with ret.flags := st.ret.flags ∪ cs.toFinset }
  | .value v =>
    match st.ret.params[st.lastArg]? with
    | none => .ok st
    | some values =>
      .ok { st with ret.params := st.ret.params.insert st.lastArg (values ++ [v]) }

lemma leadingDashes_toNat (n : UInt8) (arg : Bytes) :
    (leadingDashes n arg).toNat = (n.toNat + dashes arg) % 256 := by
  induction arg generalizing n with
  | nil =>
    have hlt := n.toNat_lt
    show n.toNat = (n.toNat + 0) % 256
    omega
  | cons c cs ih =>
    unfold leadingDashes dashes
    by_cases hc : c = 45
    · rw [if_pos hc, List.takeWhile_cons_of_pos (by simpa using hc), List.length_cons, ih,
        UInt8.toNat_add]
      unfold dashes
      show ((n.toNat + 1) % 256 + _) % 256 = _
      omega
    · have hlt := n.toNat_lt
      rw [if_neg hc, List.takeWhile_cons_of_neg (by simpa using hc)]
      show n.toNat = (n.toNat + 0) % 256
      omega

lemma removeDashes_eq (arg : Bytes) :
    removeDashes arg = (undashed arg, decide (undashed arg = [])) := by
  unfold undashed
  induction arg with
  | nil => rfl
  | cons c cs ih =>
    unfold removeDashes
    by_cases hc : c = 45
    · rw [if_pos hc, ih, List.dropWhile_cons_of_pos (by simpa using hc)]
    · rw [if_neg hc, List.dropWhile_cons_of_neg (by simpa using hc)]
      simp

lemma insertFlags_eq (arg : Bytes) (flags : Finset UInt8) :
    insertFlags arg flags = flags ∪ (arg.filter (· ≠ 45)).toFinset := by
  unfold insertFlags
  induction arg generalizing flags with
  | nil => simp
  | cons c cs ih =>
    rw [List.foldl_cons, ih]
    by_cases hc : c = 45
    · rw [if_pos hc, List.filter_cons_of_neg (by simpa using hc)]
    · rw [if_neg hc, List.filter_cons_of_pos (by simpa using hc), List.toFinset_cons]
      ext b
      simp only [Finset.mem_union, Finset.mem_insert]
      tauto

/-- The kind of a word depends on the count in eight bits. -/
lemma parseArg_eq (st : Locals) (arg : Bytes) :
    parseArg st arg = hear st (asWord (dashes arg % 256) arg) := by
  have hcount : (leadingDashes 0 arg).toNat = dashes arg % 256 := by
    rw [leadingDashes_toNat, UInt8.toNat_zero, Nat.zero_add]
  have hone : leadingDashes 0 arg = 1 ↔ dashes arg % 256 = 1 := by
    rw [← hcount, ← UInt8.toNat_inj]
    rfl
  have hzero : leadingDashes 0 arg = 0 ↔ dashes arg % 256 = 0 := by
    rw [← hcount, ← UInt8.toNat_inj]
    rfl
  have htwo : leadingDashes 0 arg ≥ 2 ↔ 2 ≤ dashes arg % 256 := by
    rw [← hcount, ge_iff_le, UInt8.le_iff_toNat_le]
    rfl
  unfold parseArg asWord
  dsimp only
  by_cases h2 : 2 ≤ dashes arg % 256
  · have hnot : ¬ leadingDashes 0 arg = 1 := fun h => absurd (hone.mp h) (by omega)
    rw [if_pos (htwo.mpr h2), if_pos h2, if_neg hnot, removeDashes_eq]
    rfl
  have hnot : ¬ leadingDashes 0 arg ≥ 2 := fun h => h2 (htwo.mp h)
  rw [if_neg hnot, if_neg h2]
  by_cases h1 : dashes arg % 256 = 1
  · have hnotZero : ¬ leadingDashes 0 arg = 0 := fun h => absurd (hzero.mp h) (by omega)
    rw [if_neg hnotZero, if_pos (hone.mpr h1), if_pos h1, insertFlags_eq]
    rfl
  · have hnotOne : ¬ leadingDashes 0 arg = 1 := fun h => h1 (hone.mp h)
    rw [if_pos (hzero.mpr (by omega)), if_neg hnotOne, if_neg h1]
    rfl

/-! ## All words -/

lemma parseArgs_eq (argv : List Bytes) : parseArgs argv = (heard argv).foldlM hear {} := by
  have hfold (l : List Bytes) (st : Locals) : l.foldlM parseArg st =
      (l.map fun arg => asWord (dashes arg % 256) arg).foldlM hear st := by
    induction l generalizing st with
    | nil => rfl
    | cons arg l ih =>
      rw [List.foldlM_cons, List.map_cons, List.foldlM_cons, parseArg_eq]
      cases hear st (asWord (dashes arg % 256) arg) with
      | error e => rfl
      | ok st' => exact ih st'
  exact hfold _ {}

/-- The values in front of the next parameter go to the last one that has been opened. -/
def extended (st : Locals) (ws : List Word) (name : Bytes) : Option (List Bytes) :=
  st.ret.params[name]?.map fun values =>
    if name = st.lastArg then values ++ (CommandLine.sections ws).1 else values

lemma extended_of_none {st : Locals} {ws : List Word} {name : Bytes}
    (h : st.ret.params[name]? = none) : extended st ws name = none := by
  unfold extended
  rw [h]
  rfl

lemma extended_of_ne {st : Locals} {ws : List Word} {name : Bytes} (h : name ≠ st.lastArg) :
    extended st ws name = st.ret.params[name]? := by
  unfold extended
  simp only [if_neg h, Option.map_id']

lemma extended_lastArg {st : Locals} {ws : List Word} {values : List Bytes}
    (h : st.ret.params[st.lastArg]? = some values) :
    extended st ws st.lastArg = some (values ++ (CommandLine.sections ws).1) := by
  unfold extended
  rw [h, Option.map_some, if_pos rfl]

/-- A parameter that is opened has the values that follow. -/
lemma extended_param {st st₁ : Locals} {n : Bytes} (ws : List Word) (hn : n ∉ st.ret.params)
    (hparams : st₁.ret.params = st.ret.params.insertIfNew n []) (hlast : st₁.lastArg = n)
    (name : Bytes) :
    (extended st₁ ws name).or (CommandLine.valuesOf ws name) =
      (extended st (.param n :: ws) name).or (CommandLine.valuesOf (.param n :: ws) name) := by
  have hnone : st.ret.params[n]? = none := Std.ExtTreeMap.getElem?_eq_none hn
  have hkept : extended st (.param n :: ws) name = st.ret.params[name]? := by
    unfold extended
    simp [CommandLine.sections]
  have hget (j : Bytes) : st₁.ret.params[j]? =
      if j = n then some [] else st.ret.params[j]? := by
    rw [hparams, StdMap.getElem?_insertIfNew, hnone]
    simp
  rw [hkept, CommandLine.valuesOf_param]
  by_cases heq : name = n
  · have hopened : st₁.ret.params[st₁.lastArg]? = some [] := by rw [hget, hlast, if_pos rfl]
    rw [if_pos (beq_iff_eq.mpr heq), heq, hnone, ← hlast, extended_lastArg hopened]
    rfl
  · rw [if_neg (fun hb => heq (beq_iff_eq.mp hb)), extended_of_ne (by rwa [hlast]), hget,
      if_neg heq]

/-- A value goes to the last parameter. -/
lemma extended_value {st st₁ : Locals} {v : Bytes} {values : List Bytes} (ws : List Word)
    (hlast : st.ret.params[st.lastArg]? = some values)
    (hst₁ : st₁ = { st with ret.params := st.ret.params.insert st.lastArg (values ++ [v]) })
    (name : Bytes) : extended st₁ ws name = extended st (.value v :: ws) name := by
  have hget (j : Bytes) : st₁.ret.params[j]? =
      if j = st.lastArg then some (values ++ [v]) else st.ret.params[j]? := by
    rw [hst₁]
    exact StdMap.getElem?_insert _ _ _ _
  have hsame : st₁.lastArg = st.lastArg := by rw [hst₁]
  by_cases heq : name = st.lastArg
  · have hopened : st₁.ret.params[st₁.lastArg]? = some (values ++ [v]) := by
      rw [hget, hsame, if_pos rfl]
    have hfirst : extended st₁ ws st₁.lastArg = _ := extended_lastArg hopened
    rw [hsame] at hfirst
    rw [heq, hfirst, extended_lastArg hlast, CommandLine.sections, List.append_assoc]
    rfl
  · rw [extended_of_ne (by rwa [hsame]), extended_of_ne heq, hget, if_neg heq]

section Hear

variable {st st₁ : Locals} {n v : Bytes}

lemma foldlM_hear_cons {w : Word} (h : hear st w = .ok st₁) (ws : List Word) :
    (w :: ws).foldlM hear st = ws.foldlM hear st₁ := by
  rw [List.foldlM_cons, h]
  rfl

/-- A new parameter is opened. -/
lemma hear_param (h : n ∉ st.ret.params) :
    hear st (.param n) = .ok { ret.flags := st.ret.flags,
                               ret.params := st.ret.params.insertIfNew n [], lastArg := n,
                               emptyFront := st.emptyFront || decide (n = []) } := if_neg h

/-- A value before the first parameter is dropped. -/
lemma hear_value_none (h : st.ret.params[st.lastArg]? = none) : hear st (.value v) = .ok st := by
  unfold hear
  rw [h]

lemma hear_value_some {values : List Bytes} (h : st.ret.params[st.lastArg]? = some values) :
    hear st (.value v) =
      .ok { st with ret.params := st.ret.params.insert st.lastArg (values ++ [v]) } := by
  unfold hear
  rw [h]

/-- The last parameter is one of those that have been opened. -/
lemma mem_insert_lastArg {values : List Bytes} (h : st.ret.params[st.lastArg]? = some values)
    (name : Bytes) :
    name ∈ st.ret.params.insert st.lastArg (values ++ [v]) ↔ name ∈ st.ret.params := by
  rw [Std.ExtTreeMap.mem_insert]
  refine or_iff_right_of_imp fun heq => ?_
  rw [← Std.LawfulEqCmp.eq_of_compare heq]
  exact (StdMap.mem_iff _ _).mpr ⟨values, h⟩

end Hear

/-- Where no name comes twice, the parameters keep their values, the last one gets those in front of
the next one, and the parameters that are opened get theirs. -/
lemma hear_ok (ws : List Word) (st : Locals) (hnodup : (CommandLine.names ws).Nodup)
    (hnew : ∀ name ∈ CommandLine.names ws, name ∉ st.ret.params) :
    ∃ st', ws.foldlM hear st = .ok st' ∧
      st'.ret.flags = st.ret.flags ∪ (CommandLine.flags ws).toFinset ∧
      (∀ name, st'.ret.params[name]? =
        (extended st ws name).or (CommandLine.valuesOf ws name)) ∧
      (st'.emptyFront = true ↔ st.emptyFront = true ∨ [] ∈ CommandLine.names ws) := by
  induction ws generalizing st with
  | nil =>
    refine ⟨st, rfl, by simp [CommandLine.flags], fun name => ?_, by simp [CommandLine.names]⟩
    unfold extended CommandLine.valuesOf CommandLine.sections
    simp
  | cons w ws ih =>
    cases w with
    | param n =>
      obtain ⟨hn, htail⟩ := List.nodup_cons.mp hnodup
      have hfresh : n ∉ st.ret.params := hnew n List.mem_cons_self
      rw [foldlM_hear_cons (hear_param hfresh)]
      set st₁ : Locals := { ret.flags := st.ret.flags, ret.params := st.ret.params.insertIfNew n [],
                            lastArg := n, emptyFront := st.emptyFront || decide (n = []) } with hst₁
      -- the rest does not open the new parameter again
      obtain ⟨st', hrun, hflags, hparams, hempty⟩ := ih st₁ htail fun name hname hmem => by
        rcases (StdMap.mem_insertIfNew _ _ _ _).mp hmem with rfl | hmem
        · exact hn hname
        · exact hnew name (List.mem_cons_of_mem _ hname) hmem
      refine ⟨st', hrun, hflags, fun name => ?_, ?_⟩
      · rw [hparams]
        exact extended_param ws hfresh rfl rfl name
      · rw [hempty, CommandLine.names, List.mem_cons, hst₁]
        simp only [Bool.or_eq_true, decide_eq_true_eq, or_assoc, eq_comm (a := n)]
    | flags cs =>
      obtain ⟨st', hrun, hflags, hparams, hempty⟩ := ih
        { st with ret.flags := st.ret.flags ∪ cs.toFinset } hnodup hnew
      refine ⟨st', hrun, ?_, hparams, hempty⟩
      rw [hflags, CommandLine.flags, List.toFinset_append, Finset.union_assoc]
    | value v =>
      cases hlast : st.ret.params[st.lastArg]? with
      | none =>
        rw [foldlM_hear_cons (hear_value_none hlast)]
        obtain ⟨st', hrun, hflags, hparams, hempty⟩ := ih st hnodup hnew
        refine ⟨st', hrun, hflags, fun name => ?_, hempty⟩
        rw [hparams]
        by_cases heq : name = st.lastArg
        · rw [extended_of_none (by rwa [heq]), extended_of_none (by rwa [heq])]
          rfl
        · rw [extended_of_ne heq, extended_of_ne heq]
          rfl
      | some values =>
        rw [foldlM_hear_cons (hear_value_some hlast)]
        obtain ⟨st', hrun, hflags, hparams, hempty⟩ := ih
          { st with ret.params := st.ret.params.insert st.lastArg (values ++ [v]) } hnodup
          fun name hname hin => hnew name hname ((mem_insert_lastArg hlast name).mp hin)
        refine ⟨st', hrun, hflags, fun name => ?_, hempty⟩
        rw [hparams, extended_value ws hlast rfl]
        rfl

/-- A name that comes twice ends the program. -/
lemma hear_error (ws : List Word) (st : Locals)
    (h : (CommandLine.names ws).Nodup → ∃ name ∈ CommandLine.names ws, name ∈ st.ret.params) :
    ∃ e, ws.foldlM hear st = .error e := by
  induction ws generalizing st with
  | nil =>
    obtain ⟨name, hname, -⟩ := h List.nodup_nil
    exact absurd hname List.not_mem_nil
  | cons w ws ih =>
    cases w with
    | param n =>
      by_cases hmem : n ∈ st.ret.params
      · have hstep : hear st (.param n) = .error (specifiedTwice n) := if_pos hmem
        refine ⟨specifiedTwice n, ?_⟩
        rw [List.foldlM_cons, hstep]
        rfl
      rw [foldlM_hear_cons (hear_param hmem)]
      -- the name that comes twice is this one, or one of the rest
      refine ih _ fun htail => ?_
      by_cases hn : n ∈ CommandLine.names ws
      · exact ⟨n, hn, (StdMap.mem_insertIfNew _ _ _ _).mpr (.inl rfl)⟩
      obtain ⟨name, hname, hin⟩ := h (List.nodup_cons.mpr ⟨hn, htail⟩)
      rcases List.mem_cons.mp hname with rfl | hname
      · exact absurd hin hmem
      · exact ⟨name, hname, (StdMap.mem_insertIfNew _ _ _ _).mpr (.inr hin)⟩
    | flags cs => exact ih { st with ret.flags := st.ret.flags ∪ cs.toFinset } h
    | value v =>
      cases hlast : st.ret.params[st.lastArg]? with
      | none =>
        rw [foldlM_hear_cons (hear_value_none hlast)]
        exact ih st h
      | some values =>
        rw [foldlM_hear_cons (hear_value_some hlast)]
        refine ih _ fun hnodup => ?_
        obtain ⟨name, hname, hin⟩ := h hnodup
        exact ⟨name, hname, (mem_insert_lastArg hlast name).mpr hin⟩

/-- The code follows the grammar for the words as it hears them. -/
lemma parseArgs_heard (argv : List Bytes) (h : (CommandLine.names (heard argv)).Nodup) :
    ∃ st, parseArgs argv = .ok st ∧ Means (heard argv) st.ret ∧
      (st.emptyFront = true ↔ [] ∈ CommandLine.names (heard argv)) := by
  have hfresh : ∀ name ∈ CommandLine.names (heard argv), name ∉ ({} : Locals).ret.params :=
    fun name _ => Std.ExtTreeMap.not_mem_empty
  obtain ⟨st, hrun, hflags, hparams, hempty⟩ := hear_ok (heard argv) {} h hfresh
  rw [parseArgs_eq]
  refine ⟨st, hrun, ⟨?_, fun name => ?_⟩, ?_⟩
  · rw [hflags]
    exact Finset.empty_union _
  · rw [hparams, extended_of_none Std.ExtTreeMap.getElem?_empty]
    rfl
  · rw [hempty]
    exact or_iff_right (by decide)

lemma parseArgs_repeated (argv : List Bytes) (h : ¬ (CommandLine.names (heard argv)).Nodup) :
    ∃ e, parseArgs argv = .error e := by
  rw [parseArgs_eq]
  exact hear_error (heard argv) {} fun hnodup => absurd hnodup h

/-! ## The two readings of a word -/

lemma names_asWord (count : Bytes → ℕ) (args : List Bytes) :
    CommandLine.names (args.map fun arg => asWord (count arg) arg) =
      (args.filter fun arg => 2 ≤ count arg).map undashed := by
  induction args with
  | nil => rfl
  | cons arg args ih =>
    rw [List.map_cons]
    unfold asWord
    by_cases h2 : 2 ≤ count arg
    · rw [if_pos h2, List.filter_cons_of_pos (by simpa using h2), List.map_cons,
        CommandLine.names]
      exact congrArg (undashed arg :: ·) ih
    · rw [if_neg h2, List.filter_cons_of_neg (by simpa using h2)]
      by_cases h1 : count arg = 1
      · rw [if_pos h1]
        exact ih
      · rw [if_neg h1]
        exact ih

lemma names_words (argv : List Bytes) : CommandLine.names (words argv) =
    ((argv.drop 1).filter fun arg => 2 ≤ dashes arg).map undashed := names_asWord dashes _

lemma names_heard (argv : List Bytes) : CommandLine.names (heard argv) =
    ((argv.drop 1).filter fun arg => 2 ≤ dashes arg % 256).map undashed :=
  names_asWord (fun arg => dashes arg % 256) _

/-- The code hears no parameter that is not there. -/
lemma names_heard_sublist (argv : List Bytes) :
    (CommandLine.names (heard argv)).Sublist (CommandLine.names (words argv)) := by
  rw [names_words, names_heard]
  refine (List.monotone_filter_right _ fun arg h => ?_).map undashed
  have hle := Nat.mod_le (dashes arg) 256
  exact decide_eq_true ((of_decide_eq_true h).trans hle)

/-- Where it counts right, the code hears each word as it is. -/
lemma heard_eq_words {argv : List Bytes}
    (h : ∀ arg ∈ argv.drop 1, 2 ≤ dashes arg → 2 ≤ dashes arg % 256) : heard argv = words argv := by
  apply List.map_congr_left
  intro arg harg
  unfold asWord
  by_cases h2 : 2 ≤ dashes arg
  · rw [if_pos (h arg harg h2), if_pos h2]
  · rw [Nat.mod_eq_of_lt (by omega)]

/-- Without an empty name, `front` has been called on characters only. -/
lemma follows_of_eq {argv : List Bytes} (hheard : heard argv = words argv)
    (hn : (CommandLine.names (words argv)).Nodup) (hname : [] ∉ CommandLine.names (words argv)) :
    Follows argv (parseArgs argv) := by
  obtain ⟨st, hrun, hmeans, hempty⟩ := parseArgs_heard argv (by rwa [hheard])
  rw [hheard] at hmeans hempty
  refine ⟨fun _ => ⟨st, hrun, hmeans, ?_⟩, fun hnot => absurd hn hnot⟩
  rw [← Bool.not_eq_true, hempty]
  exact hname

/-- Where the code follows the grammar, it hears all parameters, and none is the empty one. -/
lemma names_of_follows {argv : List Bytes} (hn : (CommandLine.names (words argv)).Nodup)
    (h : Follows argv (parseArgs argv)) :
    [] ∉ CommandLine.names (heard argv) ∧
      ∀ name, name ∈ CommandLine.names (words argv) ↔ name ∈ CommandLine.names (heard argv) := by
  obtain ⟨st, hrun, hmeans, hempty⟩ :=
    parseArgs_heard argv (hn.sublist (names_heard_sublist argv))
  obtain ⟨st', hrun', hmeans', hempty'⟩ := h.distinct hn
  rw [hrun] at hrun'
  cases hrun'
  constructor
  · rw [← hempty, hempty']
    decide
  · intro name
    rw [← CommandLine.isSome_valuesOf, ← CommandLine.isSome_valuesOf, ← hmeans.params,
      ← hmeans'.params]

/-- The grammar is followed exactly where the dashes are counted right and a name follows them. -/
theorem parseArgs_follows_iff (argv : List Bytes) :
    Follows argv (parseArgs argv) ↔ Counted argv := by
  constructor
  · intro h
    by_cases hn : (CommandLine.names (words argv)).Nodup
    · obtain ⟨hnonempty, hsame⟩ := names_of_follows hn h
      refine .inl ⟨hn, fun arg harg h2 => ?_⟩
      have hmem : undashed arg ∈ CommandLine.names (words argv) := by
        rw [names_words]
        exact List.mem_map_of_mem (List.mem_filter.mpr ⟨harg, decide_eq_true h2⟩)
      -- the name is heard, but it could be that of another word
      have hheard := (hsame _).mp hmem
      refine ⟨?_, fun hnil => hnonempty (by rwa [hnil] at hheard)⟩
      rw [names_heard, List.mem_map] at hheard
      obtain ⟨arg', harg', heq⟩ := hheard
      obtain ⟨hin', hcount'⟩ := List.mem_filter.mp harg'
      have h2' : 2 ≤ dashes arg' % 256 := of_decide_eq_true hcount'
      -- the names are distinct, so that the word is the same
      rw [names_words] at hn
      have hword : arg' = arg := List.inj_on_of_nodup_map hn
        (List.mem_filter.mpr ⟨hin', decide_eq_true (h2'.trans (Nat.mod_le _ _))⟩)
        (List.mem_filter.mpr ⟨harg, decide_eq_true h2⟩) heq
      rwa [hword] at h2'
    · refine .inr fun hheard => ?_
      obtain ⟨st, hrun, -⟩ := parseArgs_heard argv hheard
      obtain ⟨e, herror⟩ := h.repeated hn
      rw [hrun] at herror
      cases herror
  · rintro (⟨hn, hall⟩ | hrepeated)
    · have hheard := heard_eq_words fun arg harg h2 => (hall arg harg h2).1
      refine follows_of_eq hheard hn fun hmem => ?_
      rw [names_words, List.mem_map] at hmem
      obtain ⟨arg, harg, hnil⟩ := hmem
      obtain ⟨hin, hcount⟩ := List.mem_filter.mp harg
      exact (hall arg hin (of_decide_eq_true hcount)).2 hnil
    · refine ⟨fun hn => ?_, fun _ => parseArgs_repeated argv hrepeated⟩
      exact absurd (hn.sublist (names_heard_sublist argv)) hrepeated

/-- `--` alone, and a parameter behind 256 dashes. -/
theorem parseArgs_follows_fails :
    ¬ Follows [lit "uinhibitd", lit "--"] (parseArgs [lit "uinhibitd", lit "--"]) ∧
      ¬ Follows [lit "uinhibitd", List.replicate 256 45 ++ lit "help"]
        (parseArgs [lit "uinhibitd", List.replicate 256 45 ++ lit "help"]) := by
  constructor
  · intro h
    have hnames : CommandLine.names (heard [lit "uinhibitd", lit "--"]) = [[]] := by decide
    have hnonempty := (names_of_follows (by decide) h).1
    rw [hnames] at hnonempty
    exact hnonempty List.mem_cons_self
  · intro h
    have hsame := (names_of_follows (by decide +kernel) h).2 (lit "help")
    exact absurd (hsame.mp (by decide +kernel)) (by decide +kernel)

end ParseArgs

end UnifiedInhibit
