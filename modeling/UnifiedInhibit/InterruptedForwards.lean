import UnifiedInhibit.DaemonTheorems
import UnifiedInhibit.SxmoInhibitInterface

/-!
# Exit in the middle of forwarding

A signal can stop `inhibitCB` anywhere, and `handleExit` then releases what `releasePlan` lists.
Here the loop of `inhibitCB` goes in small steps: `doInhibit`, the insertion into `activeInhibits`,
the event handlers and the entry in `releasePlan` of one interface after the other.
-/

namespace UnifiedInhibit

/-! ## Locks -/

/-- The fields of an interface, and the locks it has: the ids that `doInhibit` has returned and
`doUnInhibit` has not been called with since. The latter are not in the source. -/
structure Locked (σ : Type) where
  sub : σ
  held : Finset InhibitID := ∅

/-- The class, with a record of its locks. -/
def Overrides.locked {σ : Type} (v : Overrides σ) : Overrides (Locked σ) where
  doInhibit now r s :=
    match v.doInhibit now r s.sub with
    | (.ok ii, sub) => (.ok ii, { sub, held := insert ii.id s.held })
    | (.error e, sub) => (.error e, { s with sub })
  doUnInhibit b id s :=
    ((v.doUnInhibit b id s.sub).1,
      { sub := (v.doUnInhibit b id s.sub).2, held := s.held.erase id })
  handleInhibitEvent i s := { s with sub := v.handleInhibitEvent i s.sub }
  handleUnInhibitEvent i s := { s with sub := v.handleUnInhibitEvent i s.sub }
  handleInhibitStateChanged t i s := { s with sub := v.handleInhibitStateChanged t i s.sub }

namespace Daemon

variable {σ : Type}

/-! ## The loop in small steps -/

/-- Where the loop of `inhibitCB` stands: in front of the next interface, behind its `doInhibit`,
behind the insertion, behind the event handlers, or at the end. -/
inductive Stage where
  | next
  | granted (newInhibit : Inhibit)
  | inserted (newInhibit : Inhibit)
  | noted (newInhibit : Inhibit)
  | ended (res : Except Exn Unit)

/-- The loop with the interfaces that are left, the first of which is the one at hand. -/
structure Loop (σ : Type) where
  ais : List ℕ
  stage : Stage := .next
  daemon : Daemon σ

variable (v : ℕ → Overrides σ) (now inhibitor : ℕ) (inhibit : Inhibit)

/-- The `doInhibit` in `ai->inhibit(r)`. -/
def doInhibitAt (ai : ℕ) (r : InhibitRequest) (d : Daemon σ) : Outcome (Daemon σ) Inhibit :=
  let (res, s) := (v ai).doInhibit now r (d.object ai).sub
  (res, { d.setObject ai { d.object ai with sub := s } with calls := d.calls ++ [(ai, r)] })

/-- Where the loop goes on when the interface `ai` has answered. A refused type is caught. -/
def Loop.answered (ai : ℕ) (ais : List ℕ) : Outcome (Daemon σ) Inhibit → Loop σ
  | (.ok newInhibit, daemon) => { ais := ai :: ais, stage := .granted newInhibit, daemon }
  | (.error .unsupportedType, daemon) => { ais, daemon }
  | (.error e, daemon) => { ais := ai :: ais, stage := .ended (.error e), daemon }

def Loop.step (l : Loop σ) : Loop σ :=
  match l.stage, l.ais with
  | .next, [] => { l with stage := .ended (.ok ()) }
  | .next, ai :: ais =>
    if ai ≠ inhibitor then
      Loop.answered ai ais (doInhibitAt v now ai inhibit.toInhibitRequest l.daemon)
    else { l with ais }
  | .granted newInhibit, ai :: _ =>
    { l with stage := .inserted newInhibit, daemon := l.daemon.insertActive ai newInhibit }
  | .inserted newInhibit, ai :: _ =>
    { l with
      stage := .noted newInhibit
      daemon := (this ai).modify (InhibitInterface.callEvent (v ai) true newInhibit) l.daemon }
  | .noted newInhibit, ai :: ais =>
    { ais, daemon := l.daemon.pushRelease inhibit.id (ai, newInhibit.id) }
  | _, _ => l

/-- The loop after `n` steps. -/
def Loop.after (ais : List ℕ) (d : Daemon σ) (n : ℕ) : Loop σ :=
  (Loop.step v now inhibitor inhibit)^[n] { ais, daemon := d }

variable {v now inhibitor inhibit}

/-- What `inhibit` does at an interface is what the loop does between two entries. -/
lemma inhibitAt_eq (ai : ℕ) (r : InhibitRequest) (d : Daemon σ) :
    inhibitAt v now ai r d =
      match doInhibitAt v now ai r d with
      | (.ok ii, d) =>
        (.ok ii,
          (this ai).modify (InhibitInterface.callEvent (v ai) true ii) (d.insertActive ai ii))
      | (.error e, d) => (.error e, d) := by
  unfold inhibitAt doInhibitAt InhibitInterface.inhibit
  rcases hdo : (v ai).doInhibit now r (d.object ai).sub with ⟨res, s⟩
  cases res with
  | error e => rfl
  | ok ii => simp [insertActive, This.modify, this, setObject]

lemma step_next {ai : ℕ} (hai : ai ≠ inhibitor) (ais : List ℕ) (d : Daemon σ) :
    Loop.step v now inhibitor inhibit { ais := ai :: ais, daemon := d } =
      Loop.answered ai ais (doInhibitAt v now ai inhibit.toInhibitRequest d) := if_pos hai

lemma step_skip {ai : ℕ} (hai : ¬ ai ≠ inhibitor) (ais : List ℕ) (d : Daemon σ) :
    Loop.step v now inhibitor inhibit { ais := ai :: ais, daemon := d } =
      { ais, daemon := d } := if_neg hai

/-- The small steps run the loop as it stands. -/
lemma after_forward (v : ℕ → Overrides σ) (now inhibitor : ℕ) (inhibit : Inhibit) (ais : List ℕ)
    (d : Daemon σ) :
    ∃ n, (Loop.after v now inhibitor inhibit ais d n).stage =
        .ended (forward v now inhibitor inhibit ais d).1 ∧
      (Loop.after v now inhibitor inhibit ais d n).daemon =
        (forward v now inhibitor inhibit ais d).2 := by
  unfold Loop.after
  induction ais generalizing d with
  | nil => exact ⟨1, rfl, rfl⟩
  | cons ai ais ih =>
    unfold forward
    by_cases hai : ai ≠ inhibitor
    · have hstep : Loop.step v now inhibitor inhibit { ais := ai :: ais, daemon := d } = _ :=
        step_next hai ais d
      rw [if_pos hai, inhibitAt_eq]
      rcases hdo : doInhibitAt v now ai inhibit.toInhibitRequest d with ⟨res, d₁⟩
      rw [hdo] at hstep
      rcases res with e | ii
      · cases e with
        | unsupportedType =>
          -- a refused type is one step
          obtain ⟨n, hn⟩ := ih d₁
          refine ⟨n + 1, ?_⟩
          rw [Function.iterate_succ_apply, hstep]
          exact hn
        | _ =>
          -- any other exception ends the loop
          refine ⟨1, ?_⟩
          rw [Function.iterate_one, hstep]
          exact ⟨rfl, rfl⟩
      · -- insertion, event handlers and the entry follow
        obtain ⟨n, hn⟩ := ih (((this ai).modify (InhibitInterface.callEvent (v ai) true ii)
          (d₁.insertActive ai ii)).pushRelease inhibit.id (ai, ii.id))
        refine ⟨n + 4, ?_⟩
        rw [Function.iterate_add_apply _ n 4, show (4 : ℕ) = 3 + 1 from rfl,
          Function.iterate_succ_apply, hstep]
        exact hn
    · rw [if_neg hai]
      obtain ⟨n, hn⟩ := ih d
      refine ⟨n + 1, ?_⟩
      rw [Function.iterate_succ_apply, step_skip hai]
      exact hn

/-! ## Locks and the release plan -/

/-- The locks that the interface `k` has. -/
def held (d : Daemon (Locked σ)) (k : ℕ) : Finset InhibitID := (d.object k).sub.held

/-- `handleExit` gets to `doUnInhibit` for this id. -/
def Planned (d : Daemon σ) (k : ℕ) (id : InhibitID) : Prop :=
  (d.active k id).isSome ∧ ∃ o, (k, id) ∈ d.planOf o

/-- The lock of the interface at hand, from `doInhibit` to the entry in `releasePlan`. -/
def Loop.pending (l : Loop σ) : Option (ℕ × InhibitID) :=
  match l.stage, l.ais with
  | .granted ii, ai :: _ | .inserted ii, ai :: _ | .noted ii, ai :: _ => some (ai, ii.id)
  | _, _ => none

/-- Every lock is planned, except for `p`. -/
def CoveredBut (p : Option (ℕ × InhibitID)) (d : Daemon (Locked σ)) : Prop :=
  ∀ k, ∀ id ∈ d.held k, p = some (k, id) ∨ Planned d k id

lemma Planned.mono {d d' : Daemon σ} {k : ℕ} {id : InhibitID} (h : Planned d k id)
    (hactive : (d.active k id).isSome → (d'.active k id).isSome)
    (hplan : ∀ o, (k, id) ∈ d.planOf o → (k, id) ∈ d'.planOf o) : Planned d' k id := by
  obtain ⟨hsome, o, ho⟩ := h
  exact ⟨hactive hsome, o, hplan o ho⟩

/-- What has the same locks, and plans no less, covers the same. -/
lemma CoveredBut.mono {p : Option (ℕ × InhibitID)} {d d' : Daemon (Locked σ)}
    (h : CoveredBut p d) (hheld : ∀ k, d'.held k = d.held k)
    (hactive : ∀ k id, (d.active k id).isSome → (d'.active k id).isSome)
    (hplan : ∀ k id o, (k, id) ∈ d.planOf o → (k, id) ∈ d'.planOf o) : CoveredBut p d' := by
  intro k id hid
  rw [hheld] at hid
  rcases h k id hid with hp | hp
  · exact .inl hp
  · exact .inr (hp.mono (hactive k id) (hplan k id))

lemma held_setObject (k : ℕ) (o : InhibitInterface (Locked σ)) (d : Daemon (Locked σ)) (j : ℕ) :
    (d.setObject k o).held j = if j = k then o.sub.held else d.held j := by
  unfold held setObject
  by_cases h : j = k
  · subst h
    simp
  · simp [h]

/-- A change of an interface that keeps its locks. -/
lemma held_modify {k : ℕ} {f : InhibitInterface (Locked σ) → InhibitInterface (Locked σ)}
    (hf : ∀ o, (f o).sub.held = o.sub.held) (d : Daemon (Locked σ)) (j : ℕ) :
    ((this k).modify f d).held j = d.held j := by
  refine (held_setObject k _ d j).trans ?_
  split
  · rename_i h
    rw [h]
    exact hf _
  · rfl

lemma held_insertActive (k : ℕ) (i : Inhibit) (d : Daemon (Locked σ)) (j : ℕ) :
    (d.insertActive k i).held j = d.held j := by
  unfold insertActive
  apply held_modify
  intro o
  rfl

lemma held_printInhibited (d : Daemon (Locked σ)) (j : ℕ) :
    d.printInhibited.held j = d.held j := by
  rw [printInhibited_eq]
  rfl

section Covered

variable {u : ℕ → Overrides σ}

/-- The classes with a record of their locks. -/
def lockedAll (u : ℕ → Overrides σ) (k : ℕ) : Overrides (Locked σ) := (u k).locked

/-- The event handlers leave the locks alone. -/
lemma callEvent_held (k : ℕ) (b : Bool) (i : Inhibit) (o : InhibitInterface (Locked σ)) :
    (InhibitInterface.callEvent (lockedAll u k) b i o).sub.held = o.sub.held := by
  unfold InhibitInterface.callEvent
  cases b <;> dsimp only <;> split <;> rfl

lemma held_callEvent (k : ℕ) (b : Bool) (i : Inhibit) (d : Daemon (Locked σ)) (j : ℕ) :
    ((this k).modify (InhibitInterface.callEvent (lockedAll u k) b i) d).held j = d.held j :=
  held_modify (callEvent_held k b i) d j

lemma planned_insertActive {k : ℕ} {i : Inhibit} {d : Daemon σ} {j : ℕ} {id : InhibitID}
    (h : (d.active j id).isSome) : ((d.insertActive k i).active j id).isSome := by
  rw [active_insertActive]
  split
  · rfl
  · exact h

/-- A `doInhibit` takes the lock that it returns and nothing else. -/
lemma doInhibitAt_spec (u : ℕ → Overrides σ) (now ai : ℕ) (r : InhibitRequest)
    (d : Daemon (Locked σ)) :
    (∀ k id, (doInhibitAt (lockedAll u) now ai r d).2.active k id = d.active k id) ∧
      (∀ o, (doInhibitAt (lockedAll u) now ai r d).2.planOf o = d.planOf o) ∧
      ∀ k, (doInhibitAt (lockedAll u) now ai r d).2.held k =
        match (doInhibitAt (lockedAll u) now ai r d).1 with
        | .ok ii => if k = ai then insert ii.id (d.held k) else d.held k
        | .error _ => d.held k := by
  refine ⟨fun k id => ?_, fun _ => rfl, fun k => ?_⟩
  · refine (active_setObject d ai _ k id).trans ?_
    split
    · rename_i h
      rw [h]
      rfl
    · rfl
  · refine (held_setObject ai _ d k).trans ?_
    unfold doInhibitAt lockedAll Overrides.locked
    dsimp only
    rcases (u ai).doInhibit now r (d.object ai).sub.sub with ⟨res, s⟩
    cases res with
    | error e =>
      dsimp only
      split
      · rename_i h
        rw [h]
        rfl
      · rfl
    | ok ii =>
      dsimp only
      split
      · rename_i h
        rw [h]
        rfl
      · rfl

/-- The invariant of the loop: the lock at hand is a lock, is active once it is inserted, and all
others are planned. -/
structure Loop.Kept (l : Loop (Locked σ)) : Prop where
  covered : CoveredBut l.pending l.daemon
  pending : ∀ p, l.pending = some p → p.2 ∈ l.daemon.held p.1
  active : ∀ p, l.pending = some p →
    (∀ ii, l.stage ≠ .granted ii) → (l.daemon.active p.1 p.2).isSome

lemma Loop.Kept.of_none {l : Loop (Locked σ)} (hp : l.pending = none)
    (h : CoveredBut none l.daemon) : l.Kept where
  covered := hp ▸ h
  pending p h' := absurd (hp.symm.trans h') (by simp)
  active p h' := absurd (hp.symm.trans h') (by simp)

lemma Loop.Kept.answered {ai : ℕ} {ais : List ℕ} {d : Daemon (Locked σ)}
    (h : CoveredBut none d) (r : InhibitRequest) :
    (Loop.answered ai ais (doInhibitAt (lockedAll u) now ai r d)).Kept := by
  obtain ⟨hactive, hplan, hheld⟩ := doInhibitAt_spec u now ai r d
  rcases hdo : doInhibitAt (lockedAll u) now ai r d with ⟨res, d₁⟩
  rw [hdo] at hactive hplan hheld
  have hplanned {k : ℕ} {id : InhibitID} (hp : Planned d k id) : Planned d₁ k id :=
    hp.mono (by rw [hactive]; exact fun h => h) fun o ho => by rwa [hplan]
  rcases res with e | ii
  · have hsame : CoveredBut none d₁ := h.mono hheld (fun k id hid => by rwa [hactive])
      fun k id o ho => by rwa [hplan]
    cases e with
    | unsupportedType => exact .of_none rfl hsame
    | _ => exact .of_none rfl hsame
  · have hheld : ∀ k, d₁.held k = if k = ai then insert ii.id (d.held k) else d.held k := hheld
    refine ⟨fun k id hid => ?_, fun p hp => ?_, fun p _ hnot => absurd rfl (hnot ii)⟩
    · have hid : id ∈ d₁.held k := hid
      by_cases heq : (ai, ii.id) = (k, id)
      · exact .inl (congrArg some heq)
      · have hold : id ∈ d.held k := by
          rw [hheld] at hid
          split at hid
          · rename_i hk
            refine (Finset.mem_insert.mp hid).resolve_left fun hid => heq ?_
            rw [hk, hid]
          · exact hid
        exact .inr (hplanned ((h k id hold).resolve_left (by simp)))
    · rw [← Option.some.inj hp]
      show ii.id ∈ d₁.held ai
      rw [hheld, if_pos rfl]
      exact Finset.mem_insert_self _ _

lemma Loop.Kept.step {l : Loop (Locked σ)} (h : l.Kept) :
    (Loop.step (lockedAll u) now inhibitor inhibit l).Kept := by
  obtain ⟨ais, stage, d⟩ := l
  cases stage with
  | next =>
    cases ais with
    | nil => exact .of_none rfl h.covered
    | cons ai ais =>
      have hcovered : CoveredBut none d := h.covered
      by_cases hai : ai ≠ inhibitor
      · rw [step_next hai]
        exact .answered hcovered _
      · rw [step_skip hai]
        exact .of_none rfl hcovered
  | granted ii =>
    cases ais with
    | nil => exact h
    | cons ai ais =>
      -- no lock is taken or given back until the entry is made
      refine ⟨?_, fun p hp => ?_, fun p hp _ => ?_⟩
      · exact h.covered.mono (held_insertActive ai ii d) (fun k id => planned_insertActive)
          fun k id o ho => ho
      · exact (held_insertActive ai ii d p.1).symm ▸ h.pending p hp
      · rw [← Option.some.inj hp]
        show ((d.insertActive ai ii).active ai ii.id).isSome
        rw [active_insertActive]
        split
        · rfl
        · rename_i hnot
          rw [Option.isSome_iff_ne_none]
          exact fun hnone => hnot ⟨rfl, rfl, hnone⟩
  | inserted ii =>
    cases ais with
    | nil => exact h
    | cons ai ais =>
      have hactive (k : ℕ) (id : InhibitID) :
          ((this ai).modify (InhibitInterface.callEvent (lockedAll u ai) true ii) d).active k id =
            d.active k id := active_callEvent ai true ii d k id
      refine ⟨?_, fun p hp => ?_, fun p hp _ => ?_⟩
      · exact h.covered.mono (held_callEvent ai true ii d) (fun k id hid => by
          rw [← hactive] at hid
          exact hid) fun k id o ho => ho
      · exact (held_callEvent (u := u) ai true ii d p.1).symm ▸ h.pending p hp
      · have hsome := h.active p hp (by simp)
        rw [← hactive] at hsome
        exact hsome
  | noted ii =>
    cases ais with
    | nil => exact h
    | cons ai ais =>
      apply Loop.Kept.of_none rfl
      intro k id hid
      rcases h.covered k id hid with hp | ⟨hsome, o, ho⟩
      · -- the entry is for the lock at hand
        have hp : (ai, ii.id) = (k, id) := Option.some.inj hp
        refine .inr ⟨h.active (k, id) (congrArg some hp) (by simp), inhibit.id, ?_⟩
        show (k, id) ∈ (d.pushRelease inhibit.id (ai, ii.id)).planOf inhibit.id
        rw [planOf_pushRelease, if_pos rfl, hp]
        exact List.mem_append_right _ List.mem_cons_self
      · refine .inr ⟨hsome, o, ?_⟩
        show (k, id) ∈ (d.pushRelease inhibit.id (ai, ii.id)).planOf o
        rw [planOf_pushRelease]
        split
        · rename_i heq
          rw [← heq]
          exact List.mem_append_left _ ho
        · exact ho
  | ended res => exact h

lemma Loop.Kept.after {ais : List ℕ} {d : Daemon (Locked σ)} (h : CoveredBut none d) (n : ℕ) :
    (Loop.after (lockedAll u) now inhibitor inhibit ais d n).Kept := by
  induction n with
  | zero => exact .of_none rfl h
  | succ n ih =>
    unfold Loop.after at ih ⊢
    rw [Function.iterate_succ_apply']
    exact ih.step

/-! ## Exit -/

variable (hun : UnInhibits u)
include hun

lemma unInhibits_locked : UnInhibits (lockedAll u) := fun k b id s => hun k b id s.sub

/-- `unInhibit` gives the lock back if the id is active. -/
lemma held_unInhibitAt (ai : ℕ) (id : InhibitID) (d : Daemon (Locked σ)) (k : ℕ)
    (j : InhibitID) :
    j ∈ (unInhibitAt (lockedAll u) ai id d).2.held k ↔
      j ∈ d.held k ∧ ¬ ((k, j) = (ai, id) ∧ (d.active k j).isSome) := by
  have hheld : (unInhibitAt (lockedAll u) ai id d).2.held k =
      if k = ai then ((d.object ai).unInhibit (lockedAll u ai) id).2.sub.held else d.held k :=
    held_setObject ai _ d k
  rw [hheld]
  by_cases hk : k = ai
  · subst hk
    rw [if_pos rfl]
    unfold InhibitInterface.unInhibit
    cases hmid : (d.object k).activeInhibits[id]? with
    | none =>
      have hnone : d.active k id = none := hmid
      refine (and_iff_left ?_).symm
      rintro ⟨heq, hsome⟩
      rw [(Prod.mk.inj heq).2, hnone] at hsome
      cases hsome
    | some mid =>
      have hsome : d.active k id = some mid := hmid
      -- `doUnInhibit` is called for an active id only
      have hres := unInhibits_locked hun k (d.object k).toBase id (d.object k).sub
      rcases hdo : (lockedAll u k).doUnInhibit (d.object k).toBase id (d.object k).sub with ⟨res, s⟩
      rw [hdo] at hres
      have hres : res = .ok () := hres
      have hs : s.held = (d.held k).erase id := (congrArg (fun x => x.2.held) hdo).symm
      rw [hres]
      dsimp only
      rw [callEvent_held, hs, Finset.mem_erase]
      apply Iff.intro
      · rintro ⟨hne, hj⟩
        exact ⟨hj, fun h => hne (Prod.mk.inj h.1).2⟩
      · rintro ⟨hj, hnot⟩
        refine ⟨?_, hj⟩
        rintro rfl
        exact hnot ⟨rfl, by rw [hsome]; rfl⟩
  · rw [if_neg hk]
    exact (and_iff_left fun h => hk (Prod.mk.inj h.1).1).symm

/-- The planned releases that are active take their locks back, and no others. -/
lemma held_release (rs : List (ℕ × InhibitID)) (d : Daemon (Locked σ)) (k : ℕ) (id : InhibitID) :
    id ∈ (release (lockedAll u) rs d).2.held k ↔
      id ∈ d.held k ∧ ¬ ((k, id) ∈ rs ∧ (d.active k id).isSome) := by
  induction rs generalizing d with
  | nil => exact (and_iff_left fun h => absurd h.1 List.not_mem_nil).symm
  | cons r rs ih =>
    obtain ⟨hok, hactive⟩ := unInhibitAt_spec (unInhibits_locked hun) r.1 r.2 d
    have hheld := held_unInhibitAt hun r.1 r.2 d k id
    have hrelease : release (lockedAll u) (r :: rs) d =
        release (lockedAll u) rs (unInhibitAt (lockedAll u) r.1 r.2 d).2 := by
      rw [release]
      rcases hat : unInhibitAt (lockedAll u) r.1 r.2 d with ⟨res, d₁⟩
      rw [hat] at hok
      have hok : res = .ok () := hok
      rw [hok]
    rw [hrelease, ih, hheld, hactive, List.mem_cons]
    by_cases heq : (k, id) = r
    · rw [if_pos heq]
      simp [heq]
    · rw [if_neg heq]
      simp [heq]

omit hun in
/-- A whole loop plans the locks that it takes. -/
lemma CoveredBut.forward {ais : List ℕ} {d : Daemon (Locked σ)} (h : CoveredBut none d) :
    CoveredBut none (Daemon.forward (lockedAll u) now inhibitor inhibit ais d).2 := by
  obtain ⟨n, hstage, hdaemon⟩ := after_forward (lockedAll u) now inhibitor inhibit ais d
  have hkept : (Loop.after (lockedAll u) now inhibitor inhibit ais d n).Kept := .after h n
  have hpending : (Loop.after (lockedAll u) now inhibitor inhibit ais d n).pending = none := by
    unfold Loop.pending
    rw [hstage]
  have hcovered := hkept.covered
  rwa [hpending, hdaemon] at hcovered

omit hun in
lemma CoveredBut.printInhibited {d : Daemon (Locked σ)} (h : CoveredBut none d) :
    CoveredBut none d.printInhibited :=
  h.mono (held_printInhibited d) (fun k id hid => by rwa [active_printInhibited])
    fun k id o ho => by rwa [planOf_printInhibited]

omit hun in
lemma CoveredBut.inhibitCB {d : Daemon (Locked σ)} (h : CoveredBut none d) :
    CoveredBut none (Daemon.inhibitCB (lockedAll u) now inhibitor inhibit d).2 := by
  have hforward : CoveredBut none
      (Daemon.forward (lockedAll u) now inhibitor inhibit d.inhibitors d).2 := h.forward
  unfold Daemon.inhibitCB
  rcases hres : Daemon.forward (lockedAll u) now inhibitor inhibit d.inhibitors d with ⟨res, d₁⟩
  rw [hres] at hforward
  rcases res with e | _
  · cases e with
    | noResponse => exact hforward.printInhibited
    | _ => exact hforward
  · exact hforward.printInhibited

omit hun in
lemma CoveredBut.callEvent {d : Daemon (Locked σ)} (h : CoveredBut none d) (k : ℕ) (b : Bool)
    (i : Inhibit) :
    CoveredBut none ((this k).modify (InhibitInterface.callEvent (lockedAll u k) b i) d) :=
  h.mono (held_callEvent k b i d) (fun j id hid => by rwa [active_callEvent])
    fun _ _ _ ho => ho

omit hun in
lemma CoveredBut.registerInhibit {d : Daemon (Locked σ)} (h : CoveredBut none d) (now k : ℕ)
    (i : Inhibit) : CoveredBut none (Daemon.registerInhibit (lockedAll u) now k i d).2 := by
  have hinsert : CoveredBut none (d.insertActive k i) :=
    h.mono (held_insertActive k i d) (fun j id => planned_insertActive) fun _ _ _ ho => ho
  have hcb : CoveredBut none
      ((callbacks (lockedAll u) now k).inhibitCB i (d.insertActive k i)).2 := hinsert.inhibitCB
  unfold Daemon.registerInhibit This.registerInhibit
  dsimp only
  rcases hres : (callbacks (lockedAll u) now k).inhibitCB i (d.insertActive k i) with ⟨res, d₁⟩
  rw [hres] at hcb
  unfold insertActive at hres
  rw [hres]
  cases res with
  | error e => exact hcb
  | ok _ => exact hcb.callEvent k true i

/-- `unInhibitCB` takes locks back together with the entries for them. -/
lemma CoveredBut.unInhibitCB {d : Daemon (Locked σ)} (h : CoveredBut none d) (mid : Inhibit) :
    CoveredBut none (Daemon.unInhibitCB (lockedAll u) mid d).2 := by
  unfold Daemon.unInhibitCB
  cases hplan : d.releasePlan[mid.id]? with
  | none => exact h.printInhibited
  | some plan =>
    obtain ⟨hok, hactive, hplans⟩ := release_spec (unInhibits_locked hun) plan d
    have hheld := held_release hun plan d
    rcases hrelease : release (lockedAll u) plan d with ⟨res, d₁⟩
    rw [hrelease] at hok hactive hplans hheld
    have hok : res = .ok () := hok
    dsimp only
    rw [hrelease, hok]
    refine CoveredBut.printInhibited fun k id hid => .inr ?_
    -- a lock that is left is not in the plan of this inhibit
    obtain ⟨hid, hnot⟩ := (hheld k id).mp hid
    obtain ⟨hsome, o, ho⟩ := (h k id hid).resolve_left (by simp)
    have hmem : (k, id) ∉ plan := fun hmem => hnot ⟨hmem, hsome⟩
    refine ⟨?_, o, ?_⟩
    · show (d₁.active k id).isSome
      rw [hactive, if_neg hmem]
      exact hsome
    · have hne : o ≠ mid.id := by
        rintro rfl
        unfold planOf at ho
        rw [hplan] at ho
        exact hmem ho
      rw [← hplans] at ho
      unfold planOf at ho ⊢
      dsimp only
      rw [StdMap.getElem?_erase, if_neg hne]
      exact ho

/-- An interface that reports an inhibit of its own keeps the locks covered. -/
lemma CoveredBut.registerUnInhibit {d : Daemon (Locked σ)} (h : CoveredBut none d) (now : ℕ)
    {k : ℕ} {id : InhibitID} (hnot : id ∉ d.held k) :
    CoveredBut none (Daemon.registerUnInhibit (lockedAll u) now k id d).2 := by
  unfold Daemon.registerUnInhibit This.registerUnInhibit
  split
  · exact h
  rename_i mid hmid
  set d₁ := (this k).modify (fun o => { o with activeInhibits := o.activeInhibits.erase id }) d
    with hd₁
  have hheld (j : ℕ) : d₁.held j = d.held j := by
    rw [hd₁]
    apply held_modify
    intro o
    rfl
  -- what becomes inactive is not a lock, so the others stay covered
  have herase : CoveredBut none d₁ := by
    intro j id' hid'
    rw [hheld] at hid'
    refine .inr (((h j id' hid').resolve_left (by simp)).mono (fun hsome => ?_) fun o ho => ho)
    have hactive : d₁.active j id' =
        if j = k then ((d.object k).activeInhibits.erase id)[id']? else d.active j id' :=
      active_setObject d k _ j id'
    rw [hactive]
    split
    · rename_i hj
      have hne : id' ≠ id := by
        rintro rfl
        exact hnot (hj ▸ hid')
      rw [StdMap.getElem?_erase, if_neg hne]
      exact hj ▸ hsome
    · exact hsome
  have hcb : CoveredBut none ((callbacks (lockedAll u) now k).unInhibitCB mid d₁).2 :=
    herase.unInhibitCB hun mid
  dsimp only
  rcases hres : (callbacks (lockedAll u) now k).unInhibitCB mid d₁ with ⟨res, d₂⟩
  rw [hres] at hcb
  cases res with
  | error e => exact hcb
  | ok _ => exact hcb.callEvent k false mid

end Covered

section Runs

variable {u : ℕ → Overrides σ}

end Runs

end Daemon
end UnifiedInhibit
