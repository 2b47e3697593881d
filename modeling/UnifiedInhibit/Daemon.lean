import UnifiedInhibit.InhibitInterface
import UnifiedInhibit.Lib.Run

/-!
# The daemon: `src/main.cpp`

The interfaces live in `object`, named by their `instanceId` (the constructor of the base class
gives each a different one); `inhibitors` is main's vector of pointers to them. `inhibitCB` and
`unInhibitCB` forward the events of one interface to all others and record in `releasePlan` what
has to be released again.

What is only printed is left out, except `lastInhibitType`, which `printInhibited` keeps. The
field `calls` is not in the source: it records the `inhibit` calls main has made.
-/

namespace UnifiedInhibit

structure Daemon (σ : Type) where
  inhibitors : List ℕ
  object : ℕ → InhibitInterface σ
  lastInhibitType : InhibitType := InhibitType.NONE
  releasePlan : StdMap InhibitID (List (ℕ × InhibitID)) := ∅
  calls : List (ℕ × InhibitRequest) := []

namespace Daemon

variable {σ : Type} (v : ℕ → Overrides σ)

def setObject (k : ℕ) (o : InhibitInterface σ) (d : Daemon σ) : Daemon σ :=
  { d with object := Function.update d.object k o }

/-- The interface with `instanceId` `k`. -/
def this (k : ℕ) : This (Daemon σ) σ where
  get d := d.object k
  set := setObject k
  get_set o d := by simp [setObject]
  set_get d := by simp [setObject]
  set_set o o' d := by simp [setObject]

/-- `inhibited()` of main.cpp: bit flags of all types inhibited at any interface. -/
def inhibited (d : Daemon σ) : InhibitType :=
  d.inhibitors.foldl (fun i k => i ||| (d.object k).inhibited) InhibitType.NONE

def printInhibited (d : Daemon σ) : Daemon σ :=
  let i := d.inhibited
  if d.lastInhibitType ≠ i then { d with lastInhibitType := i } else d

/-- `ai->inhibit(r)`. -/
def inhibitAt (now ai : ℕ) (r : InhibitRequest) (d : Daemon σ) : Outcome (Daemon σ) Inhibit :=
  let (res, o) := InhibitInterface.inhibit (v ai) now r (d.object ai)
  (res, { d.setObject ai o with calls := d.calls ++ [(ai, r)] })

/-- `ai->unInhibit(id)`. -/
def unInhibitAt (ai : ℕ) (id : InhibitID) (d : Daemon σ) : Outcome (Daemon σ) Unit :=
  let (res, o) := InhibitInterface.unInhibit (v ai) id (d.object ai)
  (res, d.setObject ai o)

/-- `releasePlan[o].push_back(p)`. -/
def pushRelease (o : InhibitID) (p : ℕ × InhibitID) (d : Daemon σ) : Daemon σ :=
  { d with releasePlan := d.releasePlan.insert o ((d.releasePlan[o]?).getD [] ++ [p]) }

/-- The loop of `inhibitCB` over the interfaces `ais`: forward `inhibit` to each but the
originator. -/
def forward (now inhibitor : ℕ) (inhibit : Inhibit) :
    List ℕ → Daemon σ → Outcome (Daemon σ) Unit
  | [], d => (.ok (), d)
  | ai :: ais, d =>
    if ai ≠ inhibitor then
      match inhibitAt v now ai inhibit.toInhibitRequest d with
      | (.ok newInhibit, d) =>
        forward now inhibitor inhibit ais (d.pushRelease inhibit.id (ai, newInhibit.id))
      | (.error .unsupportedType, d) => forward now inhibitor inhibit ais d
      | (.error e, d) => (.error e, d)
    else forward now inhibitor inhibit ais d

def inhibitCB (now inhibitor : ℕ) (inhibit : Inhibit) (d : Daemon σ) : Outcome (Daemon σ) Unit :=
  match forward v now inhibitor inhibit d.inhibitors d with
  | (.ok (), d) => (.ok (), d.printInhibited)
  | (.error .noResponse, d) => (.ok (), d.printInhibited)
  | (.error e, d) => (.error e, d)

/-- The loop that `unInhibitCB` and `handleExit` run over the planned releases `rs`. -/
def release : List (ℕ × InhibitID) → Daemon σ → Outcome (Daemon σ) Unit
  | [], d => (.ok (), d)
  | r :: rs, d =>
    match unInhibitAt v r.1 r.2 d with
    | (.ok (), d) => release rs d
    | (.error .unsupportedType, d) => release rs d
    | (.error e, d) => (.error e, d)

def unInhibitCB (inhibit : Inhibit) (d : Daemon σ) : Outcome (Daemon σ) Unit :=
  match d.releasePlan[inhibit.id]? with
  | none => (.ok (), d.printInhibited)
  | some plan =>
    match release v plan d with
    | (.ok (), d) =>
      (.ok (), { d with releasePlan := d.releasePlan.erase inhibit.id }.printInhibited)
    | (.error .noResponse, d) => (.ok (), d.printInhibited)
    | (.error e, d) => (.error e, d)

/-- The two nested loops run over the entries of `releasePlan` in key order. -/
def handleExit (d : Daemon σ) : Outcome (Daemon σ) Unit :=
  match release v (d.releasePlan.toList.flatMap Prod.snd) d with
  | (.ok (), d) => (.ok (), { d with releasePlan := ∅ })
  | (.error e, d) => (.error e, d)

/-- The callbacks main wires to the interface `k`. -/
def callbacks (now k : ℕ) : Callbacks (Daemon σ) where
  inhibitCB := inhibitCB v now k
  unInhibitCB := unInhibitCB v

/-- `registerInhibit` called by the interface `k`. -/
def registerInhibit (now k : ℕ) (i : Inhibit) (d : Daemon σ) : Outcome (Daemon σ) Unit :=
  (this k).registerInhibit (v k) (callbacks v now k) i d

/-- `registerUnInhibit` called by the interface `k`. -/
def registerUnInhibit (now k : ℕ) (id : InhibitID) (d : Daemon σ) : Outcome (Daemon σ) Unit :=
  (this k).registerUnInhibit (v k) (callbacks v now k) id d

/-! ## Reading the state -/

/-- The inhibit that interface `k` has active under `id`. -/
def active (d : Daemon σ) (k : ℕ) (id : InhibitID) : Option Inhibit :=
  (d.object k).activeInhibits[id]?

/-- The pairs in `releasePlan[o]`. -/
def planOf (d : Daemon σ) (o : InhibitID) : List (ℕ × InhibitID) :=
  (d.releasePlan[o]?).getD []

/-- Some interface has `id` active. -/
def InUse (d : Daemon σ) (id : InhibitID) : Prop := ∃ k, (d.active k id).isSome

lemma printInhibited_eq (d : Daemon σ) :
    d.printInhibited = { d with lastInhibitType := d.inhibited } := by
  simp only [printInhibited]
  split
  · rfl
  · rename_i h
    rw [← not_not.mp h]

@[simp] lemma calls_printInhibited (d : Daemon σ) : d.printInhibited.calls = d.calls := by
  rw [printInhibited_eq]

@[simp] lemma active_printInhibited (d : Daemon σ) (k : ℕ) (id : InhibitID) :
    d.printInhibited.active k id = d.active k id := by
  rw [printInhibited_eq]
  rfl

@[simp] lemma planOf_printInhibited (d : Daemon σ) (o : InhibitID) :
    d.printInhibited.planOf o = d.planOf o := by
  rw [printInhibited_eq]
  rfl

@[simp] lemma active_pushRelease (o : InhibitID) (p : ℕ × InhibitID) (d : Daemon σ) (k : ℕ)
    (id : InhibitID) : (d.pushRelease o p).active k id = d.active k id := rfl

lemma planOf_pushRelease (o : InhibitID) (p : ℕ × InhibitID) (d : Daemon σ) (o' : InhibitID) :
    (d.pushRelease o p).planOf o' = if o' = o then d.planOf o ++ [p] else d.planOf o' := by
  unfold planOf pushRelease
  grind

/-- Writing an object back changes what is active at that object only. -/
lemma active_setObject (d : Daemon σ) (k : ℕ) (o : InhibitInterface σ) (j : ℕ) (id : InhibitID) :
    (d.setObject k o).active j id =
      if j = k then o.activeInhibits[id]? else d.active j id := by
  unfold active setObject
  by_cases h : j = k
  · subst h; simp
  · simp [h]

/-- Writing the fields of an interface changes nothing that is active. -/
@[simp] lemma active_modifySub (k : ℕ) (f : σ → σ) (d : Daemon σ) (j : ℕ) (id : InhibitID) :
    ((this k).modifySub f d).active j id = d.active j id := by
  refine (active_setObject d k _ j id).trans ?_
  split
  · rename_i h
    rw [h]
    rfl
  · rfl

end Daemon

end UnifiedInhibit
