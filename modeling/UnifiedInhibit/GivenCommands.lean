import UnifiedInhibit.ParseArgs
import UnifiedInhibit.WiredCommands

/-!
# From the command line to the commands that are run

`parseArgs` collects the words behind a parameter, and the constructor of
`UserCommandsInhibitInterface` joins them to a command. Whatever that class runs while the daemon
runs has been given so on the command line (`Wiring.commands_as_given`).
-/

namespace UnifiedInhibit

namespace UserCommandsInhibitInterface

open InhibitType (NONE SCREENSAVER SUSPEND)

/-! ## The parameters -/

/-- The parameters that give the command for `t`. The first one that is there counts. -/
def paramsFor (inhibit : Bool) (t : InhibitType) : List String :=
  if t = NONE then
    [if inhibit then "inhibit-action" else "uninhibit-action", if inhibit then "ia" else "uia"]
  else
    [inhibitTypeToString t ++ if inhibit then "-inhibit-action" else "-uninhibit-action",
     inhibitTypeToString t ++ if inhibit then "-ia" else "-uia"]

/-- The command for `t` that the words of a command line give. -/
def given (ws : List ParseArgs.Word) (inhibit : Bool) (t : InhibitType) : Option Bytes :=
  ((paramsFor inhibit t).findSome? fun name => CommandLine.valuesOf ws (lit name)).map
    fun words => strMerge words 32

section Construct

variable (params : Params)

lemma getElem?_insertParam (param : String) (t : InhibitType) (m : StdMap InhibitType Bytes)
    (u : InhibitType) : (insertParam params param t m)[u]? =
      if u = t then m[u]?.or (params[lit param]?.map fun words => strMerge words 32)
      else m[u]? := by
  unfold insertParam
  cases params[lit param]? with
  | none =>
    dsimp only
    rw [Option.map_none, Option.or_none, ite_self]
  | some words =>
    dsimp only
    rw [StdMap.getElem?_insertIfNew]
    by_cases hu : u = t
    · subst hu
      cases m[u]? <;> simp
    · rw [if_neg fun h => hu h.1, if_neg hu]

lemma getElem?_insertGeneral (param short : String) (u : InhibitType) :
    (insertGeneral params param short ∅)[u]? =
      if u = NONE then (params[lit param]?.or params[lit short]?).map fun words => strMerge words 32
      else none := by
  unfold insertGeneral
  cases hparam : params[lit param]? with
  | none =>
    rw [if_neg (by simp), getElem?_insertParam, Std.ExtTreeMap.getElem?_empty]
    rfl
  | some words =>
    rw [if_pos (by simp), getElem?_insertParam, Std.ExtTreeMap.getElem?_empty, hparam]
    rfl

lemma inhibitTypeStrings_eq : inhibitTypeStrings = ["screensaver", "suspend"] := by decide +kernel

/-- The loop of the constructor over the names of the types. -/
lemma getElem?_typed (long short : String) (m : StdMap InhibitType Bytes) (u : InhibitType) :
    (inhibitTypeStrings.foldl (fun m t => insertParam params (t ++ short) (stringToInhibitType t)
      (insertParam params (t ++ long) (stringToInhibitType t) m)) m)[u]? =
      if u ∈ inhibitTypes then m[u]?.or ((params[lit (inhibitTypeToString u ++ long)]?.or
        params[lit (inhibitTypeToString u ++ short)]?).map fun words => strMerge words 32)
      else m[u]? := by
  have hscreensaver : stringToInhibitType "screensaver" = SCREENSAVER := by decide
  have hsuspend : stringToInhibitType "suspend" = SUSPEND := by decide
  rw [inhibitTypeStrings_eq, inhibitTypes_eq]
  simp only [List.foldl_cons, List.foldl_nil, getElem?_insertParam, hscreensaver, hsuspend]
  by_cases hu : u = SCREENSAVER
  · subst hu
    rw [if_neg (by decide), if_neg (by decide), if_pos rfl, if_pos rfl,
      if_pos List.mem_cons_self, Option.map_or, Option.or_assoc]
    rfl
  by_cases hu' : u = SUSPEND
  · subst hu'
    rw [if_pos rfl, if_pos rfl, if_neg hu, if_neg hu, if_pos (by decide), Option.map_or,
      Option.or_assoc]
    rfl
  · rw [if_neg hu', if_neg hu', if_neg hu, if_neg hu, if_neg (by simp [hu, hu'])]

/-- The general parameters are looked at first, then those of each type. -/
lemma getElem?_commands (param short typeParam typeShort : String) {t : InhibitType}
    (ht : t ∈ inhibitTypes ++ [NONE]) :
    (inhibitTypeStrings.foldl (fun m t => insertParam params (t ++ typeShort)
      (stringToInhibitType t) (insertParam params (t ++ typeParam) (stringToInhibitType t) m))
      (insertGeneral params param short ∅))[t]? =
      (if t = NONE then params[lit param]?.or params[lit short]?
        else params[lit (inhibitTypeToString t ++ typeParam)]?.or
          params[lit (inhibitTypeToString t ++ typeShort)]?).map fun words =>
            strMerge words 32 := by
  rw [getElem?_typed, getElem?_insertGeneral]
  by_cases htype : t = NONE
  · have hnot : t ∉ inhibitTypes := by
      rw [inhibitTypes_eq, htype]
      decide
    rw [if_neg hnot, if_pos htype, if_pos htype]
  · have hmem : t ∈ inhibitTypes :=
      (List.mem_append.mp ht).resolve_right fun h => htype (List.mem_singleton.mp h)
    rw [if_pos hmem, if_neg htype, if_neg htype, Option.none_or]

lemma findSome?_pair (long short : String) :
    ([long, short].findSome? fun name => params[lit name]?) =
      params[lit long]?.or params[lit short]? := by
  cases h : params[lit long]? <;> cases h' : params[lit short]? <;> simp [h, h']

/-- The constructor takes the commands from these parameters. -/
lemma commandFor_construct (inhibit : Bool) {t : InhibitType} (ht : t ∈ inhibitTypes ++ [NONE]) :
    (construct params).commandFor inhibit t =
      ((paramsFor inhibit t).findSome? fun name => params[lit name]?).map
        fun words => strMerge words 32 := by
  unfold paramsFor
  rw [apply_ite (List.findSome? fun name => params[lit name]?), findSome?_pair, findSome?_pair]
  cases inhibit with
  | false => exact getElem?_commands params "uninhibit-action" "uia" "-uninhibit-action" "-uia" ht
  | true => exact getElem?_commands params "inhibit-action" "ia" "-inhibit-action" "-ia" ht

end Construct

/-! ## What is run -/

/-- The command is the one that the class has for its type. -/
def Listed (cfg : Commands) (r : Ran) : Prop :=
  r.type ∈ inhibitTypes ++ [NONE] ∧ cfg.commandFor r.inhibit r.type = some r.command

lemma listed_of_edges {cfg : Commands} {before after : InhibitType → Bool} {r : Ran}
    (h : r ∈ edges cfg before after) : Listed cfg r := by
  obtain ⟨t, ht, hr⟩ := List.mem_flatMap.mp h
  unfold edge at hr
  split at hr
  · cases hr
  · obtain ⟨command, hcommand, rfl⟩ := List.mem_map.mp hr
    exact ⟨ht, Option.mem_toList.mp hcommand⟩

/-- What is run at a change is listed. -/
lemma listed_hear {cfg : Commands} {x : InhibitType × InhibitType × List Ran}
    (h : ∀ r ∈ x.2.2, Listed cfg r) (t : InhibitType) :
    ∀ r ∈ (StateChanges.hear (onChange cfg) x t).2.2, Listed cfg r := by
  unfold StateChanges.hear StateChanges.noted onChange
  dsimp only
  split
  · exact h
  split
  · intro r hr
    rcases List.mem_append.mp hr with hr | hr
    · exact h r hr
    · exact listed_of_edges hr
  · exact h

end UserCommandsInhibitInterface

/-- What `parseArgs` returns stands for the words as they are heard. -/
lemma ParseArgs.means_heard {argv : List Bytes} {st : Locals} (h : parseArgs argv = .ok st) :
    Means (heard argv) st.ret := by
  by_cases hnodup : (CommandLine.names (heard argv)).Nodup
  · obtain ⟨st', hst', hmeans, -⟩ := parseArgs_heard argv hnodup
    rw [h] at hst'
    cases hst'
    exact hmeans
  · obtain ⟨e, he⟩ := parseArgs_repeated argv hnodup
    rw [h] at he
    cases he

namespace Wiring

open UserCommandsInhibitInterface (construct given seen onChange Listed)
open ParseArgs (Locals parseArgs words dashes)

variable {σ : Type} {w : Wiring σ}

/-- Of the user's commands, made from a command line whose dashes are counted right, there are those
that are given, and nothing else is run while the daemon runs. -/
theorem commands_as_given {argv : List Bytes} {st : Locals} (hargs : parseArgs argv = .ok st)
    (hcounted : ∀ arg ∈ argv.drop 1, 2 ≤ dashes arg → 2 ≤ dashes arg % 256)
    {d₀ : Daemon σ} (h₀ : w.Initial d₀) {es : List Event}
    (hes : Transition.Along w.step w.Legal { daemon := d₀ } es) {k : ℕ} (hkind : w.kind k = none)
    {P : Part σ UserCommandsInhibitInterface.Fields} {instanceId : UInt64} (hother : w.other k =
      (UserCommandsInhibitInterface.overrides (construct st.ret.params) instanceId).within P)
    (hstart : (d₀.object k).part P = { sub := {} }) (hplace : ∀ e ∈ es, e.place ≠ k) :
    (∀ inhibit, ∀ t ∈ inhibitTypes ++ [InhibitType.NONE],
      (construct st.ret.params).commandFor inhibit t = given (words argv) inhibit t) ∧
    ∀ r ∈ (P.get ((Transition.run w.step { daemon := d₀ } es).daemon.object k).sub).ran,
      given (words argv) r.inhibit r.type = some r.command := by
  have htable : ∀ inhibit, ∀ t ∈ inhibitTypes ++ [InhibitType.NONE],
      (construct st.ret.params).commandFor inhibit t = given (words argv) inhibit t := by
    intro inhibit t ht
    have hmeans := ParseArgs.means_heard hargs
    rw [ParseArgs.heard_eq_words hcounted] at hmeans
    rw [UserCommandsInhibitInterface.commandFor_construct _ inhibit ht]
    unfold given
    simp only [hmeans.params]
  refine ⟨htable, fun r hr => ?_⟩
  have hnotes : StateChanges.Notes (w.overrides k) (fun s => seen (P.get s))
      (onChange (construct st.ret.params)) := by
    rw [w.overrides_other hkind, hother]
    exact (UserCommandsInhibitInterface.overrides_notes (construct st.ret.params)
      instanceId).within P
  obtain ⟨-, ts, hts⟩ := told_run hnotes h₀ hes hplace
  have hlisted : ∀ r ∈ (StateChanges.heard (fun s => seen (P.get s))
      ((Transition.run w.step { daemon := d₀ } es).daemon.object k)).2.2,
      Listed (construct st.ret.params) r := by
    rw [hts]
    refine Transition.invariant_all
      (I := fun x : InhibitType × InhibitType × List UserCommandsInhibitInterface.Ran =>
        ∀ r ∈ x.2.2, Listed (construct st.ret.params) r) ?_
      (fun x t h => UserCommandsInhibitInterface.listed_hear h t) ts
    -- nothing has been run at the start
    have hsub : P.get (d₀.object k).sub = {} := congrArg (fun o => o.sub) hstart
    unfold StateChanges.heard
    dsimp only
    rw [hsub]
    exact fun r hr => absurd hr List.not_mem_nil
  obtain ⟨ht, hcommand⟩ := hlisted r hr
  rw [← htable r.inhibit r.type ht]
  exact hcommand

/-- A command line that gives general commands. -/
def commandedArgv : List Bytes :=
  [lit "uinhibitd", lit "--ia", lit "notify", lit "on", lit "--uia", lit "notify"]

lemma parseArgs_commandedArgv : parseArgs commandedArgv =
    .ok { ret := { params := UserCommandsInhibitInterface.exampleParams },
          lastArg := lit "uia" } := rfl

/-- The client's call runs what stands behind `--ia`. -/
theorem commands_as_given_call :
    let s := Transition.run commanded.step { daemon := commandedDaemon } pairEvents
    (s.daemon.object 1).sub.2.ran =
      [{ type := InhibitType.NONE, inhibit := true, command := lit "notify on" }] ∧
    given (words commandedArgv) true InhibitType.NONE = some (lit "notify on") := by
  intro s
  have hran : (s.daemon.object 1).sub.2.ran =
      [{ type := InhibitType.NONE, inhibit := true, command := lit "notify on" }] := by
    decide +kernel
  have hplace : ∀ e ∈ pairEvents, e.place ≠ 1 := by
    intro e he
    obtain rfl := List.mem_singleton.mp he
    exact Nat.zero_ne_one
  obtain ⟨-, hgiven⟩ := commands_as_given parseArgs_commandedArgv (by decide) commanded_initial
    (along_legal commanded_disciplined commanded_meets) (k := 1) rfl (P := Part.snd) rfl rfl hplace
  exact ⟨hran, hgiven _ (hran ▸ List.mem_singleton_self _)⟩

end Wiring

end UnifiedInhibit
