import UnifiedInhibit.InhibitInterface
import UnifiedInhibit.Lib.CStruct
import UnifiedInhibit.Lib.Run

/-!
# `UserCommandsInhibitInterface`

`src/InhibitInterface/UserCommandsInhibitInterface.cpp`, with the type names of
`include/InhibitInterface.hpp`. The constructor reads the commands from the parameters of the
command line and they stay fixed; the key `NONE` holds the general ones. The return codes of
`system` are ignored. The field `ran` is not in the source and records the commands that were run.
-/

namespace UnifiedInhibit

def inhibitTypeToString (t : InhibitType) : String :=
  if t = InhibitType.NONE then "none"
  else if t.has InhibitType.SCREENSAVER then "screensaver"
  else if t.has InhibitType.SUSPEND then "suspend"
  else ""

/-- The names of the flags up to the first one that has none. -/
def inhibitTypeStrings : List String :=
  ((List.range 101).map fun i => inhibitTypeToString (InhibitType.SCREENSAVER <<< i)).takeWhile
    (· ≠ "")

def stringToInhibitType (str : String) : InhibitType :=
  if str = "screensaver" then InhibitType.SCREENSAVER
  else if str = "suspend" then InhibitType.SUSPEND
  else InhibitType.NONE

def inhibitTypes : List InhibitType := inhibitTypeStrings.map stringToInhibitType

namespace UserCommandsInhibitInterface

/-- `strMerge`: the words with `sep` between them. -/
def strMerge (strings : List Bytes) (sep : UInt8) : Bytes :=
  (strings.flatMap fun str => str ++ [sep]).dropLast

/-- `args.params`: the words that follow each `--parameter`. -/
abbrev Params := StdMap Bytes (List Bytes)

/-- What the constructor sets up. -/
structure Commands where
  cmds : StdMap InhibitType Bytes := ∅
  uncmds : StdMap InhibitType Bytes := ∅
  ok : Bool := false

/-- `insert({t, strMerge(args.params.at(param), ' ')})` if there is such a parameter. -/
def insertParam (params : Params) (param : String) (t : InhibitType)
    (m : StdMap InhibitType Bytes) : StdMap InhibitType Bytes :=
  match params[lit param]? with
  | none => m
  | some words => m.insertIfNew t (strMerge words 32)

/-- The general command, under its long or else its short name. -/
def insertGeneral (params : Params) (param short : String) (m : StdMap InhibitType Bytes) :
    StdMap InhibitType Bytes :=
  if (params[lit param]?).isSome then insertParam params param InhibitType.NONE m
  else insertParam params short InhibitType.NONE m

/-- The constructor. -/
def construct (params : Params) : Commands :=
  let cmds := insertGeneral params "inhibit-action" "ia" ∅
  let uncmds := insertGeneral params "uninhibit-action" "uia" ∅
  let cmds := inhibitTypeStrings.foldl (fun cmds t =>
    insertParam params (t ++ "-ia") (stringToInhibitType t)
      (insertParam params (t ++ "-inhibit-action") (stringToInhibitType t) cmds)) cmds
  let uncmds := inhibitTypeStrings.foldl (fun uncmds t =>
    insertParam params (t ++ "-uia") (stringToInhibitType t)
      (insertParam params (t ++ "-uninhibit-action") (stringToInhibitType t) uncmds)) uncmds
  { cmds, uncmds, ok := cmds.size + uncmds.size > 0 }

/-- A command that was run, with the entry of `cmds` or `uncmds` it came from. -/
structure Ran where
  type : InhibitType
  inhibit : Bool
  command : Bytes
deriving DecidableEq

structure Fields where
  lastInhibited : InhibitType := InhibitType.NONE
  lastCookie : UInt64 := 0
  ran : List Ran := []

variable (cfg : Commands) (instanceId : UInt64)

/-- `system(this->cmds.at(t).c_str())`, or the same for `uncmds`, if there is a command for
`t`. -/
def runCommand (inhibit : Bool) (t : InhibitType) (s : Fields) : Fields :=
  match (if inhibit then cfg.cmds else cfg.uncmds)[t]? with
  | none => s
  | some command => { s with ran := s.ran ++ [{ type := t, inhibit, command }] }

/-- One pass of the loop over `inhibitTypes()`. -/
def handleType (inhibited : InhibitType) (s : Fields) (t : InhibitType) : Fields :=
  if inhibited &&& t ≠ s.lastInhibited &&& t then runCommand cfg (inhibited.has t) t s else s

def handleInhibitStateChanged (inhibited : InhibitType) (_inhibit : Inhibit) (s : Fields) :
    Fields :=
  if !cfg.ok then s
  else
    let s := inhibitTypes.foldl (handleType cfg inhibited) s
    let s :=
      if s.lastInhibited ≠ inhibited then
        let s :=
          if inhibited ≠ InhibitType.NONE ∧ s.lastInhibited = InhibitType.NONE then
            runCommand cfg true InhibitType.NONE s
          else s
        if inhibited = InhibitType.NONE ∧ s.lastInhibited ≠ InhibitType.NONE then
          runCommand cfg false InhibitType.NONE s
        else s
      else s
    { s with lastInhibited := inhibited }

/-- The structure {instance id, cookie} as bytes. -/
def mkId (cookie : UInt64) : InhibitID :=
  CStruct.leBytes 8 instanceId.toNat ++ CStruct.leBytes 8 cookie.toNat

/-- `lastCookie++`, skipping 0. -/
def nextCookie (lastCookie : UInt64) : UInt64 :=
  if lastCookie + 1 = 0 then 1 else lastCookie + 1

def doInhibit (now : ℕ) (r : InhibitRequest) (s : Fields) : Outcome Fields Inhibit :=
  let s := { s with lastCookie := nextCookie s.lastCookie }
  (.ok { r with id := mkId instanceId s.lastCookie, created := now }, s)

def overrides : Overrides Fields where
  doInhibit := doInhibit instanceId
  handleInhibitStateChanged := handleInhibitStateChanged cfg

/-! ## Runs -/

inductive Call where
  | inhibit (now : ℕ) (r : InhibitRequest)
  | unInhibit (id : InhibitID)

/-- The object and the inhibits that were granted and not yet released, oldest first. -/
structure State where
  obj : InhibitInterface Fields := { sub := {} }
  unreleased : List Inhibit := []

def step (s : State) : Call → State
  | .inhibit now r =>
    match InhibitInterface.inhibit (overrides cfg instanceId) now r s.obj with
    | (.ok i, o) => ⟨o, s.unreleased ++ [i]⟩
    | (.error _, o) => { s with obj := o }
  | .unInhibit id =>
    ⟨(InhibitInterface.unInhibit (overrides cfg instanceId) id s.obj).2,
      s.unreleased.filter fun i => i.id ≠ id⟩

/-- The number of requests among the calls. -/
def requests (calls : List Call) : ℕ :=
  calls.countP fun
    | .inhibit .. => true
    | .unInhibit _ => false

/-! ## What is to be run -/

/-- `u` has the type `t`, or any type at all if `t` is `NONE`. -/
def hasType (u t : InhibitType) : Bool :=
  if t = InhibitType.NONE then u ≠ InhibitType.NONE else u.has t

/-- Some unreleased request has the type. -/
def Requested (unreleased : List Inhibit) (t : InhibitType) : Bool :=
  unreleased.any fun i => hasType i.type t

/-- The command for `t`, as far as there is one, when `t` goes from `before` to `after`. -/
def edge (t : InhibitType) (before after : Bool) : List Ran :=
  if before = after then []
  else ((if after then cfg.cmds else cfg.uncmds)[t]?).toList.map fun command =>
    { type := t, inhibit := after, command }

/-- The commands for all types, and then the general one. -/
def edges (before after : InhibitType → Bool) : List Ran :=
  (inhibitTypes ++ [InhibitType.NONE]).flatMap fun t => edge cfg t (before t) (after t)

/-- The command for `t` that the class has. -/
def Commands.commandFor (inhibit : Bool) (t : InhibitType) : Option Bytes :=
  (if inhibit then cfg.cmds else cfg.uncmds)[t]?

end UserCommandsInhibitInterface
end UnifiedInhibit
