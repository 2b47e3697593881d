import UnifiedInhibit.CallReplies
import UnifiedInhibit.DaemonFaults
import UnifiedInhibit.DaemonTheorems
import UnifiedInhibit.OwnerIds
import UnifiedInhibit.OwnerWorlds

/-!
# The daemon and its owner-tracking interfaces

The interfaces of main, some of them implementations of the two owner-tracking classes. Messages
arrive at these; of the other interfaces only the calls of `registerInhibit` and
`registerUnInhibit` are seen. Forwarding gives an owner-tracking interface its own calls `inhibit`
and `unInhibit`, and does not touch the interface it starts from, so that every run of the daemon is
a run of each of these interfaces on its own (`runs_project`).

What this leaves out: owner-tracking interfaces that are monitors (their `doInhibit` asks another
process, and what it throws aborts the handler that forwards, see `FailedForwards`),
`GnomeScreenSaverInhibitInterface`, which tracks owners in its own way (see
`GnomeScreenSaverOwners`) and counts as one of the others here, and others that throw what main does
not catch.
-/

namespace UnifiedInhibit

open DBus (Arg Message)
open InhibitInterface (inserted erased)

/-! ## A class within an object -/

namespace InhibitInterface

variable {σ ρ : Type} (P : Part σ ρ)

/-- The object as its class sees it. -/
def part (o : InhibitInterface σ) : InhibitInterface ρ :=
  { toBase := o.toBase, sub := P.get o.sub }

/-- The object with the part `a` in place of its own. -/
def withPart (o : InhibitInterface σ) (a : InhibitInterface ρ) : InhibitInterface σ :=
  { toBase := a.toBase, sub := P.set a.sub o.sub }

@[simp] lemma part_withPart (a : InhibitInterface ρ) (o : InhibitInterface σ) :
    (o.withPart P a).part P = a := by
  unfold part withPart
  rw [P.get_set]

@[simp] lemma withPart_part (o : InhibitInterface σ) : o.withPart P (o.part P) = o := by
  unfold part withPart
  rw [P.set_get]

@[simp] lemma withPart_withPart (a b : InhibitInterface ρ) (o : InhibitInterface σ) :
    (o.withPart P a).withPart P b = o.withPart P b := by
  unfold withPart
  rw [P.set_set]

end InhibitInterface

namespace Overrides

variable {σ ρ : Type} (P : Part σ ρ) (u : Overrides ρ)

lemma within_handler (b : Bool) (i : Inhibit) (s : σ) :
    (if b then (u.within P).handleInhibitEvent i s else (u.within P).handleUnInhibitEvent i s) =
      P.set (if b then u.handleInhibitEvent i (P.get s) else u.handleUnInhibitEvent i (P.get s))
        s := by
  cases b <;> rfl

lemma callEvent_within (b : Bool) (i : Inhibit) (o : InhibitInterface σ) :
    InhibitInterface.callEvent (u.within P) b i o =
      o.withPart P (InhibitInterface.callEvent u b i (o.part P)) := by
  unfold InhibitInterface.callEvent InhibitInterface.withPart InhibitInterface.part
  rw [within_handler]
  dsimp only
  split
  · show InhibitInterface.mk _ (P.set (u.handleInhibitStateChanged _ i (P.get (P.set _ _)))
      (P.set _ _)) = _
    rw [P.get_set, P.set_set]
  · rfl

lemma doInhibit_within (now : ℕ) (r : InhibitRequest) (s : σ) :
    (u.within P).doInhibit now r s =
      ((u.doInhibit now r (P.get s)).1, P.set (u.doInhibit now r (P.get s)).2 s) := rfl

lemma doUnInhibit_within (b : Base) (id : InhibitID) (s : σ) :
    (u.within P).doUnInhibit b id s =
      ((u.doUnInhibit b id (P.get s)).1, P.set (u.doUnInhibit b id (P.get s)).2 s) := rfl

lemma inhibit_within (now : ℕ) (r : InhibitRequest) (o : InhibitInterface σ) :
    InhibitInterface.inhibit (u.within P) now r o =
      ((InhibitInterface.inhibit u now r (o.part P)).1,
        o.withPart P (InhibitInterface.inhibit u now r (o.part P)).2) := by
  unfold InhibitInterface.inhibit
  rw [doInhibit_within, show (o.part P).sub = P.get o.sub from rfl]
  rcases u.doInhibit now r (P.get o.sub) with ⟨res, s⟩
  cases res with
  | error e => rfl
  | ok i =>
    dsimp only
    rw [callEvent_within]
    unfold InhibitInterface.withPart InhibitInterface.part
    rw [P.get_set, P.set_set]

lemma unInhibit_within (id : InhibitID) (o : InhibitInterface σ) :
    InhibitInterface.unInhibit (u.within P) id o =
      ((InhibitInterface.unInhibit u id (o.part P)).1,
        o.withPart P (InhibitInterface.unInhibit u id (o.part P)).2) := by
  unfold InhibitInterface.unInhibit
  rw [show (o.part P).activeInhibits = o.activeInhibits from rfl,
    show (o.part P).toBase = o.toBase from rfl, show (o.part P).sub = P.get o.sub from rfl]
  cases o.activeInhibits[id]? with
  | none => exact Prod.ext rfl (InhibitInterface.withPart_part P o).symm
  | some mid =>
    dsimp only
    rw [doUnInhibit_within]
    rcases u.doUnInhibit o.toBase id (P.get o.sub) with ⟨res, s⟩
    cases res with
    | error e => rfl
    | ok _ =>
      dsimp only
      rw [callEvent_within]
      unfold InhibitInterface.withPart InhibitInterface.part
      rw [P.get_set, P.set_set]

end Overrides

/-! ## Own calls -/

namespace OwnerKind

/-- What an event delivers. -/
def Event.received : Event → Option (ℕ × List InhibitID × Message)
  | .message now tail msg => some (now, tail, msg)
  | _ => none

/-- Own calls alone lead from one object to the other. -/
def Calls (K : OwnerKind) (mName : Bytes) (o o' : InhibitInterface OwnerFields) : Prop :=
  ∃ fs : List Event, (∀ e ∈ fs, e.received = none) ∧ ∀ s : State, s.world.obj = o →
    (Transition.run (K.step mName) s fs).world.obj = o' ∧
      (Transition.run (K.step mName) s fs).methodCalls = s.methodCalls

namespace Calls

variable {K : OwnerKind} {mName : Bytes} {o o' o'' : InhibitInterface OwnerFields}

lemma refl (K : OwnerKind) (mName : Bytes) (o : InhibitInterface OwnerFields) :
    K.Calls mName o o :=
  ⟨[], fun _ h => absurd h List.not_mem_nil, fun _ hs => ⟨hs, rfl⟩⟩

lemma trans (h : K.Calls mName o o') (h' : K.Calls mName o' o'') : K.Calls mName o o'' := by
  obtain ⟨fs, hfs, hrun⟩ := h
  obtain ⟨fs', hfs', hrun'⟩ := h'
  refine ⟨fs ++ fs', fun e he => ?_, fun s hs => ?_⟩
  · exact (List.mem_append.mp he).elim (hfs e) (hfs' e)
  · obtain ⟨hobj, hcalls⟩ := hrun s hs
    obtain ⟨hobj', hcalls'⟩ := hrun' _ hobj
    rw [Transition.run_append]
    exact ⟨hobj', hcalls'.trans hcalls⟩

lemma inhibit (now : ℕ) (r : InhibitRequest) :
    K.Calls mName o (InhibitInterface.inhibit K.toClass.overrides now r o).2 := by
  refine ⟨[.inhibit now r], fun e he => ?_, fun s hs => ?_⟩
  · rw [List.mem_singleton.mp he]
    rfl
  · rw [← hs]
    exact ⟨rfl, rfl⟩

lemma unInhibit (cookie : UInt32) : K.Calls mName o
    (InhibitInterface.unInhibit K.toClass.overrides (K.mkId (lit "us") cookie) o).2 := by
  refine ⟨[.unInhibit cookie], fun e he => ?_, fun s hs => ?_⟩
  · rw [List.mem_singleton.mp he]
    rfl
  · rw [← hs]
    exact ⟨rfl, rfl⟩

end Calls

/-- What an own `inhibit` of an implementation returns. -/
lemma inhibit_fst {K : OwnerKind} (hmon : K.config.monitor = false) (now : ℕ) (r : InhibitRequest)
    (o : InhibitInterface OwnerFields) :
    (InhibitInterface.inhibit K.toClass.overrides now r o).1 = .error .unsupportedType ∨
      ∃ i c, (InhibitInterface.inhibit K.toClass.overrides now r o).1 = .ok i ∧
        i.id = K.mkId (lit "us") c := by
  rcases (ownCalls K hmon).inhibit now r o.sub with hrefuse | ⟨i, hid, hok⟩
  · exact .inl (congrArg Prod.fst (InhibitInterface.inhibit_error _ hrefuse))
  · exact .inr ⟨i, _, (InhibitInterface.inhibit_ok _ hok).1, hid⟩

end OwnerKind

/-! ## The interfaces of main -/

/-- What main catches around the call of one interface or around all of them. -/
def Exn.Handled (e : Exn) : Prop := e = .unsupportedType ∨ e = .noResponse

/-- The interfaces of main. The fields of those that are implementations of the owner-tracking
classes are a part of the fields of an object; the other interfaces throw nothing but what main
catches. -/
structure Wiring (σ : Type) where
  part : Part σ OwnerFields
  kind : ℕ → Option OwnerKind
  other : ℕ → Overrides σ
  mName : ℕ → Bytes
  implementation : ∀ k K, kind k = some K → K.config.monitor = false
  instances : ∀ j k J K, kind j = some J → kind k = some K →
    J.config.instanceId = K.config.instanceId → j = k
  inhibits : ∀ k now r s e, ((other k).doInhibit now r s).1 = .error e → e.Handled
  unInhibits : ∀ k b id s e, ((other k).doUnInhibit b id s).1 = .error e → e.Handled

namespace Wiring

variable {σ : Type} (w : Wiring σ)

def overrides (k : ℕ) : Overrides σ :=
  match w.kind k with
  | some K => K.toClass.overrides.within w.part
  | none => w.other k

/-- The interface `k` as an owner-tracking class sees it. -/
def view (k : ℕ) (d : Daemon σ) : InhibitInterface OwnerFields := (d.object k).part w.part

lemma overrides_owner {k : ℕ} {K : OwnerKind} (hK : w.kind k = some K) :
    w.overrides k = K.toClass.overrides.within w.part := by
  unfold overrides
  rw [hK]

lemma overrides_other {k : ℕ} (hK : w.kind k = none) : w.overrides k = w.other k := by
  unfold overrides
  rw [hK]

lemma view_congr {k : ℕ} {d d' : Daemon σ} (h : d'.object k = d.object k) :
    w.view k d' = w.view k d := by
  unfold view
  rw [h]

/-! ## Whose id it is -/

/-- An id of the interface `k`, and of no other one that is an owner-tracking interface. -/
def Mine (k : ℕ) (id : InhibitID) : Prop :=
  ∀ j J, w.kind j = some J → (OwnerId.instanceID id = J.config.instanceId ↔ j = k)

/-- At owner-tracking interfaces, an inhibit carries their instance id, and what is planned for
release is an own inhibit that another interface has started. -/
structure Sound (d : Daemon σ) : Prop where
  plans : ∀ o, ∀ p ∈ d.planOf o, ∀ K, w.kind p.1 = some K →
    OwnerId.instanceID o ≠ K.config.instanceId ∧ ∃ c, p.2 = K.mkId (lit "us") c
  branded : ∀ k K, w.kind k = some K → ∀ id i, d.active k id = some i →
    OwnerId.instanceID i.id = K.config.instanceId

variable {w}

lemma Sound.congr {d d' : Daemon σ} (h : w.Sound d) (hplan : ∀ o, d'.planOf o = d.planOf o)
    (hact : ∀ k id, d'.active k id = d.active k id) : w.Sound d' where
  plans o p hp := by
    rw [hplan] at hp
    exact h.plans o p hp
  branded k K hK id i hi := by
    rw [hact] at hi
    exact h.branded k K hK id i hi

/-- What main does to the other interfaces for the interface `k`: those that track owners see own
calls, and `k`, if it is one of them, sees nothing. -/
structure Called (w : Wiring σ) (k : ℕ) (d d' : Daemon σ) : Prop where
  sound : w.Sound d → w.Sound d'
  originator : (w.kind k).isSome → d'.object k = d.object k
  calls : ∀ j J, w.kind j = some J → J.Calls (w.mName j) (w.view j d) (w.view j d')

lemma Called.refl (w : Wiring σ) (k : ℕ) (d : Daemon σ) : w.Called k d d where
  sound h := h
  originator _ := rfl
  calls _ J _ := OwnerKind.Calls.refl J _ _

lemma Called.trans {k : ℕ} {d d' d'' : Daemon σ} (h : w.Called k d d') (h' : w.Called k d' d'') :
    w.Called k d d'' where
  sound hs := h'.sound (h.sound hs)
  originator hk := (h'.originator hk).trans (h.originator hk)
  calls j J hJ := (h.calls j J hJ).trans (h'.calls j J hJ)

/-- What leaves the interfaces and the plans alone. -/
lemma Called.of_same {k : ℕ} {d d' : Daemon σ} (hobj : d'.object = d.object)
    (hplan : ∀ o, d'.planOf o = d.planOf o) : w.Called k d d' where
  sound hs := hs.congr hplan fun j id => by unfold Daemon.active; rw [hobj]
  originator _ := by rw [hobj]
  calls j J _ := by
    rw [w.view_congr (congrFun hobj j)]
    exact OwnerKind.Calls.refl J _ _

/-! ## One call -/

/-- What `inhibit` of the interface `j` returns. -/
lemma inhibitAt_fst_cases (w : Wiring σ) (now j : ℕ) (r : InhibitRequest) (d : Daemon σ) :
    (∃ i, (Daemon.inhibitAt w.overrides now j r d).1 = .ok i ∧
      ∀ J, w.kind j = some J → ∃ c, i.id = J.mkId (lit "us") c) ∨
    ∃ e, (Daemon.inhibitAt w.overrides now j r d).1 = .error e ∧ e.Handled := by
  show (∃ i, ((d.object j).inhibit (w.overrides j) now r).1 = .ok i ∧ _) ∨
    ∃ e, ((d.object j).inhibit (w.overrides j) now r).1 = .error e ∧ _
  cases hJ : w.kind j with
  | none =>
    rw [w.overrides_other hJ]
    unfold InhibitInterface.inhibit
    rcases hdo : (w.other j).doInhibit now r (d.object j).sub with ⟨res, s⟩
    cases res with
    | error e => exact .inr ⟨e, rfl, w.inhibits j now r _ e (congrArg Prod.fst hdo)⟩
    | ok i => exact .inl ⟨i, rfl, fun J hJ' => absurd hJ' (by simp)⟩
  | some J =>
    rw [w.overrides_owner hJ, Overrides.inhibit_within]
    rcases OwnerKind.inhibit_fst (w.implementation j J hJ) now r ((d.object j).part w.part) with
      hrefuse | ⟨i, c, hi, hid⟩
    · exact .inr ⟨_, hrefuse, .inl rfl⟩
    · refine .inl ⟨i, hi, fun J' hJ' => ⟨c, ?_⟩⟩
      rw [← Option.some.inj hJ']
      exact hid

lemma inhibitAt_called (w : Wiring σ) {now k j : ℕ} (hjk : j ≠ k) (r : InhibitRequest)
    (d : Daemon σ) : w.Called k d (Daemon.inhibitAt w.overrides now j r d).2 where
  sound hs := by
    refine ⟨hs.plans, fun l K hK id i hi => ?_⟩
    rcases w.inhibitAt_fst_cases now j r d with ⟨i', hres, hown⟩ | ⟨e, hres, -⟩
    · rw [Daemon.active_inhibitAt_ok hres] at hi
      split at hi
      · rename_i hl
        cases hi
        obtain ⟨c, hc⟩ := hown K (hl.1 ▸ hK)
        rw [hc]
        exact OwnerId.instanceID_mkId K.config fits_us c
      · exact hs.branded l K hK id i hi
    · rw [Daemon.active_inhibitAt_error hres] at hi
      exact hs.branded l K hK id i hi
  originator _ := Daemon.object_inhibitAt_of_ne hjk.symm now r d
  calls l K hK := by
    by_cases hl : l = j
    · have hview : w.view l (Daemon.inhibitAt w.overrides now j r d).2 =
          (InhibitInterface.inhibit K.toClass.overrides now r (w.view l d)).2 := by
        have hat : (Daemon.inhibitAt w.overrides now l r d).2.object l =
            ((d.object l).inhibit (w.overrides l) now r).2 := (Daemon.this l).get_set _ _
        unfold view
        rw [← hl, hat, w.overrides_owner hK, Overrides.inhibit_within,
          InhibitInterface.part_withPart]
      rw [hview]
      exact .inhibit now r
    · rw [w.view_congr (Daemon.object_inhibitAt_of_ne hl now r d)]
      exact .refl K _ _

/-- What `unInhibit` of the interface `j` returns. -/
lemma unInhibitAt_fst_cases (w : Wiring σ) (j : ℕ) (id : InhibitID) (d : Daemon σ) :
    (Daemon.unInhibitAt w.overrides j id d).1 = .ok () ∨
      ∃ e, (Daemon.unInhibitAt w.overrides j id d).1 = .error e ∧ e.Handled := by
  show ((d.object j).unInhibit (w.overrides j) id).1 = .ok () ∨
    ∃ e, ((d.object j).unInhibit (w.overrides j) id).1 = .error e ∧ _
  cases hJ : w.kind j with
  | none =>
    rw [w.overrides_other hJ]
    unfold InhibitInterface.unInhibit
    cases (d.object j).activeInhibits[id]? with
    | none => exact .inl rfl
    | some mid =>
      dsimp only
      rcases hdo : (w.other j).doUnInhibit (d.object j).toBase id (d.object j).sub with ⟨res, s⟩
      cases res with
      | error e => exact .inr ⟨e, rfl, w.unInhibits j _ id _ e (congrArg Prod.fst hdo)⟩
      | ok _ => exact .inl rfl
  | some J =>
    rw [w.overrides_owner hJ, Overrides.unInhibit_within]
    refine .inl (InhibitInterface.unInhibit_ok _ _ _ fun b s => ?_).1
    rw [(OwnerKind.ownCalls J (w.implementation j J hJ)).unInhibit]

lemma unInhibitAt_called (w : Wiring σ) {k j : ℕ} {id : InhibitID}
    (hown : ∀ J, w.kind j = some J → j ≠ k ∧ ∃ c, id = J.mkId (lit "us") c) (d : Daemon σ) :
    w.Called k d (Daemon.unInhibitAt w.overrides j id d).2 := by
  have hne : ∀ l, l ≠ j → (Daemon.unInhibitAt w.overrides j id d).2.object l = d.object l :=
    fun l hl => Function.update_of_ne hl _ _
  have hat : (Daemon.unInhibitAt w.overrides j id d).2.object j =
      ((d.object j).unInhibit (w.overrides j) id).2 := (Daemon.this j).get_set _ _
  refine ⟨fun hs => ⟨hs.plans, fun l K hK id' i hi => ?_⟩, fun hk => ?_, fun l K hK => ?_⟩
  · -- nothing becomes active
    refine hs.branded l K hK id' i ?_
    by_cases hl : l = j
    · have hact := (InhibitInterface.unInhibit_ok K.toClass.overrides id ((d.object j).part w.part)
        fun b s => by
          rw [(OwnerKind.ownCalls K (w.implementation l K hK)).unInhibit]).2
      unfold Daemon.active at hi ⊢
      rw [hl, hat, ← hl, w.overrides_owner hK, Overrides.unInhibit_within, hl] at hi
      have hi : (InhibitInterface.unInhibit K.toClass.overrides id
        ((d.object j).part w.part)).2.activeInhibits[id']? = some i := hi
      rw [hact, StdMap.getElem?_erase] at hi
      split at hi
      · cases hi
      · rw [hl]
        exact hi
    · unfold Daemon.active at hi ⊢
      rw [hne l hl] at hi
      exact hi
  · obtain ⟨K, hK⟩ := Option.isSome_iff_exists.mp hk
    -- an owner-tracking interface is not called for its own inhibit
    by_cases hkj : k = j
    · exact absurd hkj.symm (hown K (hkj ▸ hK)).1
    · exact hne k hkj
  · by_cases hl : l = j
    · obtain ⟨c, rfl⟩ := (hown K (hl ▸ hK)).2
      unfold view
      rw [hl, hat, ← hl, w.overrides_owner hK, Overrides.unInhibit_within,
        InhibitInterface.part_withPart]
      exact .unInhibit c
    · rw [w.view_congr (hne l hl)]
      exact .refl K _ _

/-! ## The loops of main -/

/-- Planning a release of an inhibit that the interface `k` has started. -/
lemma pushRelease_called {k j : ℕ} {o id : InhibitID}
    (hown : ∀ J, w.kind j = some J →
      OwnerId.instanceID o ≠ J.config.instanceId ∧ ∃ c, id = J.mkId (lit "us") c)
    (d : Daemon σ) : w.Called k d (d.pushRelease o (j, id)) where
  sound hs := by
    refine ⟨fun o' p hp K hK => ?_, hs.branded⟩
    rw [Daemon.planOf_pushRelease] at hp
    split at hp
    · rename_i ho
      rcases List.mem_append.mp hp with hp | hp
      · rw [ho]
        exact hs.plans o p hp K hK
      · obtain rfl := List.mem_singleton.mp hp
        rw [ho]
        exact hown K hK
    · exact hs.plans o' p hp K hK
  originator _ := rfl
  calls j J _ := OwnerKind.Calls.refl J _ _

/-- Forwarding ends, at worst because an interface does not respond. -/
lemma forward_called (w : Wiring σ) (now : ℕ) {k : ℕ} {i : Inhibit} (hmine : w.Mine k i.id)
    (ais : List ℕ) (d : Daemon σ) :
    ((Daemon.forward w.overrides now k i ais d).1 = .ok () ∨
      (Daemon.forward w.overrides now k i ais d).1 = .error .noResponse) ∧
      w.Called k d (Daemon.forward w.overrides now k i ais d).2 := by
  induction ais generalizing d with
  | nil => exact ⟨.inl rfl, .refl w k d⟩
  | cons j ais ih =>
    unfold Daemon.forward
    by_cases hjk : j ≠ k
    · rw [if_pos hjk]
      have hcalled : w.Called k d (Daemon.inhibitAt w.overrides now j i.toInhibitRequest d).2 :=
        w.inhibitAt_called hjk i.toInhibitRequest d
      have hres := w.inhibitAt_fst_cases now j i.toInhibitRequest d
      rcases hat : Daemon.inhibitAt w.overrides now j i.toInhibitRequest d with ⟨res, d₁⟩
      rw [hat] at hcalled hres
      rcases hres with ⟨i', hi', hown⟩ | ⟨e, he, hhandled⟩
      · obtain rfl : res = .ok i' := hi'
        have hpush : w.Called k d₁ (d₁.pushRelease i.id (j, i'.id)) :=
          pushRelease_called (fun J hJ => ⟨fun heq => hjk ((hmine j J hJ).mp heq), hown J hJ⟩) d₁
        obtain ⟨hend, hrest⟩ := ih (d₁.pushRelease i.id (j, i'.id))
        exact ⟨hend, (hcalled.trans hpush).trans hrest⟩
      · obtain rfl : res = .error e := he
        rcases hhandled with rfl | rfl
        · obtain ⟨hend, hrest⟩ := ih d₁
          exact ⟨hend, hcalled.trans hrest⟩
        · exact ⟨.inr rfl, hcalled⟩
    · rw [if_neg hjk]
      exact ih d

/-- Releasing ends in the same way. -/
lemma release_called (w : Wiring σ) {k : ℕ} {rs : List (ℕ × InhibitID)}
    (hown : ∀ p ∈ rs, ∀ J, w.kind p.1 = some J → p.1 ≠ k ∧ ∃ c, p.2 = J.mkId (lit "us") c)
    (d : Daemon σ) :
    ((Daemon.release w.overrides rs d).1 = .ok () ∨
      (Daemon.release w.overrides rs d).1 = .error .noResponse) ∧
      w.Called k d (Daemon.release w.overrides rs d).2 := by
  induction rs generalizing d with
  | nil => exact ⟨.inl rfl, .refl w k d⟩
  | cons r rs ih =>
    have ih := fun d => ih (fun p hp => hown p (List.mem_cons_of_mem r hp)) d
    have hcalled := w.unInhibitAt_called (hown r List.mem_cons_self) d
    have hres := w.unInhibitAt_fst_cases r.1 r.2 d
    unfold Daemon.release
    rcases hat : Daemon.unInhibitAt w.overrides r.1 r.2 d with ⟨res, d₁⟩
    rw [hat] at hcalled hres
    rcases hres with hok | ⟨e, he, hhandled⟩
    · obtain rfl : res = .ok () := hok
      exact ⟨(ih d₁).1, hcalled.trans (ih d₁).2⟩
    · obtain rfl : res = .error e := he
      rcases hhandled with rfl | rfl
      · exact ⟨(ih d₁).1, hcalled.trans (ih d₁).2⟩
      · exact ⟨.inr rfl, hcalled⟩

/-! ## The callbacks -/

lemma printInhibited_called (w : Wiring σ) (k : ℕ) (d : Daemon σ) :
    w.Called k d d.printInhibited := by
  refine .of_same ?_ fun o => Daemon.planOf_printInhibited d o
  rw [Daemon.printInhibited_eq]

lemma inhibitCB_called (w : Wiring σ) (now : ℕ) {k : ℕ} {i : Inhibit} (hmine : w.Mine k i.id)
    (d : Daemon σ) :
    (Daemon.inhibitCB w.overrides now k i d).1 = .ok () ∧
      w.Called k d (Daemon.inhibitCB w.overrides now k i d).2 := by
  obtain ⟨hend, hcalled⟩ := w.forward_called now hmine d.inhibitors d
  unfold Daemon.inhibitCB
  rcases hfw : Daemon.forward w.overrides now k i d.inhibitors d with ⟨res, d₁⟩
  rw [hfw] at hend hcalled
  rcases hend with hok | hsilent
  · obtain rfl : res = .ok () := hok
    exact ⟨rfl, hcalled.trans (w.printInhibited_called k d₁)⟩
  · obtain rfl : res = .error .noResponse := hsilent
    exact ⟨rfl, hcalled.trans (w.printInhibited_called k d₁)⟩

lemma unInhibitCB_called (w : Wiring σ) {k : ℕ} {i : Inhibit} {d : Daemon σ} (hs : w.Sound d)
    (hmine : ∀ K, w.kind k = some K → OwnerId.instanceID i.id = K.config.instanceId) :
    (Daemon.unInhibitCB w.overrides i d).1 = .ok () ∧
      w.Called k d (Daemon.unInhibitCB w.overrides i d).2 := by
  unfold Daemon.unInhibitCB
  cases hplan : d.releasePlan[i.id]? with
  | none => exact ⟨rfl, w.printInhibited_called k d⟩
  | some plan =>
    -- what is planned was started by `k` and lies elsewhere
    have hmem : ∀ p ∈ plan, p ∈ d.planOf i.id := by
      intro p hp
      unfold Daemon.planOf
      rw [hplan]
      exact hp
    have hown : ∀ p ∈ plan, ∀ J, w.kind p.1 = some J →
        p.1 ≠ k ∧ ∃ c, p.2 = J.mkId (lit "us") c := by
      intro p hp J hJ
      obtain ⟨hne, hc⟩ := hs.plans i.id p (hmem p hp) J hJ
      refine ⟨fun heq => hne (hmine J ?_), hc⟩
      rw [← heq]
      exact hJ
    obtain ⟨hend, hcalled⟩ := w.release_called hown d
    dsimp only
    rcases hrel : Daemon.release w.overrides plan d with ⟨res, d₁⟩
    rw [hrel] at hend hcalled
    rcases hend with hok | hsilent
    · obtain rfl : res = .ok () := hok
      have herase : w.Called k d₁ { d₁ with releasePlan := d₁.releasePlan.erase i.id } := by
        refine ⟨fun hs => ⟨fun o p hp => hs.plans o p ?_, hs.branded⟩, fun _ => rfl,
          fun j J _ => .refl J _ _⟩
        unfold Daemon.planOf at hp ⊢
        dsimp only at hp
        rw [StdMap.getElem?_erase] at hp
        split at hp
        · exact absurd hp List.not_mem_nil
        · exact hp
      exact ⟨rfl, (hcalled.trans herase).trans (w.printInhibited_called k _)⟩
    · obtain rfl : res = .error .noResponse := hsilent
      exact ⟨rfl, hcalled.trans (w.printInhibited_called k d₁)⟩

/-! ## Registrations -/

/-- What a registration of the interface `k` does: `f` to its own object, and own calls to the
other ones. -/
structure Registered (w : Wiring σ) (k : ℕ)
    (f : OwnerKind → InhibitInterface OwnerFields → InhibitInterface OwnerFields)
    (d d' : Daemon σ) : Prop where
  sound : w.Sound d'
  own : ∀ K, w.kind k = some K → w.view k d' = f K (w.view k d)
  calls : ∀ j J, w.kind j = some J → j ≠ k → J.Calls (w.mName j) (w.view j d) (w.view j d')

lemma object_modify_of_ne {k j : ℕ} (hj : j ≠ k) (f : InhibitInterface σ → InhibitInterface σ)
    (d : Daemon σ) : ((Daemon.this k).modify f d).object j = d.object j :=
  Function.update_of_ne hj _ _

lemma view_modify_self (w : Wiring σ) (k : ℕ) (f : InhibitInterface σ → InhibitInterface σ)
    (d : Daemon σ) : w.view k ((Daemon.this k).modify f d) = (f (d.object k)).part w.part := by
  unfold view This.modify
  rw [show (((Daemon.this k).set (f ((Daemon.this k).get d)) d)).object k =
    f ((Daemon.this k).get d) from (Daemon.this k).get_set _ _]
  rfl

/-- A registration changes the table of `k`, lets main act and ends with the event. -/
lemma registered_of_called {k : ℕ} {b : Bool} {i : Inhibit} {d d₂ : Daemon σ}
    {g : InhibitInterface σ → InhibitInterface σ}
    {h : InhibitInterface OwnerFields → InhibitInterface OwnerFields}
    (hg : ∀ o, (g o).part w.part = h (o.part w.part))
    (hs : w.Sound ((Daemon.this k).modify g d))
    (hcalled : w.Called k ((Daemon.this k).modify g d) d₂) :
    w.Registered k (fun K o => InhibitInterface.callEvent K.toClass.overrides b i (h o)) d
      ((Daemon.this k).modify (InhibitInterface.callEvent (w.overrides k) b i) d₂) where
  sound := (hcalled.sound hs).congr (fun _ => rfl) fun j id =>
    Daemon.active_callEvent k b i d₂ j id
  own K hK := by
    have hview : w.view k d₂ = h (w.view k d) := by
      rw [w.view_congr (hcalled.originator (by rw [hK]; rfl)), w.view_modify_self]
      exact hg _
    rw [w.view_modify_self, w.overrides_owner hK, Overrides.callEvent_within,
      InhibitInterface.part_withPart, ← hview]
    rfl
  calls j J hJ hj := by
    have hcalls := hcalled.calls j J hJ
    rw [w.view_congr (object_modify_of_ne hj g d)] at hcalls
    rw [w.view_congr (object_modify_of_ne hj _ d₂)]
    exact hcalls

lemma registerInhibit_registered (w : Wiring σ) (now : ℕ) {k : ℕ} {i : Inhibit}
    (hmine : w.Mine k i.id) {d : Daemon σ} (hs : w.Sound d) :
    (Daemon.registerInhibit w.overrides now k i d).1 = .ok () ∧
      w.Registered k (fun K => inserted K.toClass.overrides i) d
        (Daemon.registerInhibit w.overrides now k i d).2 := by
  have hs₁ : w.Sound (d.insertActive k i) := by
    refine ⟨hs.plans, fun l K hK id i' hi' => ?_⟩
    rw [Daemon.active_insertActive] at hi'
    split at hi'
    · rename_i hl
      cases hi'
      exact (hmine l K hK).mpr hl.1
    · exact hs.branded l K hK id i' hi'
  obtain ⟨hok, hcalled⟩ := w.inhibitCB_called now hmine (d.insertActive k i)
  unfold Daemon.registerInhibit This.registerInhibit
  dsimp only [Daemon.callbacks]
  rw [show (Daemon.this k).modify _ d = d.insertActive k i from rfl]
  rcases hcb : Daemon.inhibitCB w.overrides now k i (d.insertActive k i) with ⟨res, d₂⟩
  rw [hcb] at hok hcalled
  obtain rfl : res = .ok () := hok
  exact ⟨rfl, registered_of_called (b := true) (i := i) (fun _ => rfl) hs₁ hcalled⟩

lemma registerUnInhibit_registered (w : Wiring σ) (now k : ℕ) (id : InhibitID) {d : Daemon σ}
    (hs : w.Sound d) :
    (Daemon.registerUnInhibit w.overrides now k id d).1 = .ok () ∧
      w.Registered k (fun K => erased K.toClass.overrides id) d
        (Daemon.registerUnInhibit w.overrides now k id d).2 := by
  cases hmid : d.active k id with
  | none =>
    rw [Daemon.registerUnInhibit_none now hmid]
    refine ⟨rfl, hs, fun K _ => ?_, fun j J _ _ => .refl J _ _⟩
    have hnone : (w.view k d).activeInhibits[id]? = none := hmid
    unfold erased
    rw [hnone]
  | some mid =>
    set g : InhibitInterface σ → InhibitInterface σ :=
      fun o => { o with activeInhibits := o.activeInhibits.erase id } with hg
    -- erasing brings no new inhibit
    have hs₁ : w.Sound ((Daemon.this k).modify g d) := by
      refine ⟨hs.plans, fun l K hK id' i hi => hs.branded l K hK id' i ?_⟩
      by_cases hl : l = k
      · subst hl
        have hi : (((Daemon.this l).get ((Daemon.this l).set
            (g (d.object l)) d))).activeInhibits[id']? = some i := hi
        rw [(Daemon.this l).get_set, hg] at hi
        dsimp only at hi
        rw [StdMap.getElem?_erase] at hi
        split at hi
        · cases hi
        · exact hi
      · unfold Daemon.active at hi ⊢
        rw [object_modify_of_ne hl] at hi
        exact hi
    obtain ⟨hok, hcalled⟩ := w.unInhibitCB_called hs₁ (k := k) (i := mid)
      fun K hK => hs.branded k K hK id mid hmid
    unfold Daemon.registerUnInhibit This.registerUnInhibit
    rw [show ((Daemon.this k).get d).activeInhibits[id]? = some mid from hmid]
    dsimp only [Daemon.callbacks]
    rw [← hg]
    rcases hcb : Daemon.unInhibitCB w.overrides mid ((Daemon.this k).modify g d) with ⟨res, d₂⟩
    rw [hcb] at hok hcalled
    obtain rfl : res = .ok () := hok
    -- the callback works on the daemon without the inhibit
    have hreg := registered_of_called (b := false) (i := mid)
      (h := fun o => { o with activeInhibits := o.activeInhibits.erase id }) (fun _ => rfl) hs₁
      hcalled
    refine ⟨rfl, hreg.sound, fun K hK => (hreg.own K hK).trans ?_, hreg.calls⟩
    have hsome : (w.view k d).activeInhibits[id]? = some mid := hmid
    unfold erased
    rw [hsome]

/-! ### The class makes the same registrations -/

section Class

variable {k : ℕ} {K : OwnerKind} (hK : w.kind k = some K)
include hK

lemma callEvent_part (b : Bool) (i : Inhibit) (d : Daemon σ) :
    ((Daemon.this k).part w.part).modify (InhibitInterface.callEvent K.toClass.overrides b i) d =
      (Daemon.this k).modify (InhibitInterface.callEvent (w.overrides k) b i) d := by
  unfold This.modify
  rw [w.overrides_owner hK, Overrides.callEvent_within]
  rfl

lemma registerInhibit_part (now : ℕ) (i : Inhibit) (d : Daemon σ) :
    ((Daemon.this k).part w.part).registerInhibit K.toClass.overrides
        (Daemon.callbacks w.overrides now k) i d =
      Daemon.registerInhibit w.overrides now k i d := by
  have hinsert : ((Daemon.this k).part w.part).modify (fun o =>
      { o with activeInhibits := o.activeInhibits.insertIfNew i.id i }) d =
      (Daemon.this k).modify (fun o =>
        { o with activeInhibits := o.activeInhibits.insertIfNew i.id i }) d := by
    show (Daemon.this k).set { activeInhibits := _, lastInhibitState := _,
                               sub := w.part.set (w.part.get _) _ } d = _
    rw [w.part.set_get]
    rfl
  unfold Daemon.registerInhibit This.registerInhibit
  rw [hinsert]
  dsimp only
  rcases (Daemon.callbacks w.overrides now k).inhibitCB i _ with ⟨res, d'⟩
  cases res with
  | error e => rfl
  | ok _ =>
    dsimp only
    rw [callEvent_part hK]

lemma registerUnInhibit_part (now : ℕ) (id : InhibitID) (d : Daemon σ) :
    ((Daemon.this k).part w.part).registerUnInhibit K.toClass.overrides
        (Daemon.callbacks w.overrides now k) id d =
      Daemon.registerUnInhibit w.overrides now k id d := by
  have herase : ((Daemon.this k).part w.part).modify (fun o =>
      { o with activeInhibits := o.activeInhibits.erase id }) d =
      (Daemon.this k).modify (fun o =>
        { o with activeInhibits := o.activeInhibits.erase id }) d := by
    show (Daemon.this k).set { activeInhibits := _, lastInhibitState := _,
                               sub := w.part.set (w.part.get _) _ } d = _
    rw [w.part.set_get]
    rfl
  unfold Daemon.registerUnInhibit This.registerUnInhibit
  rw [herase, show (((Daemon.this k).part w.part).get d).activeInhibits[id]? =
    ((Daemon.this k).get d).activeInhibits[id]? from rfl]
  cases ((Daemon.this k).get d).activeInhibits[id]? with
  | none => rfl
  | some mid =>
    dsimp only
    rcases (Daemon.callbacks w.overrides now k).unInhibitCB mid _ with ⟨res, d'⟩
    cases res with
    | error e => rfl
    | ok _ =>
      dsimp only
      rw [callEvent_part hK]

end Class

/-! ## Messages -/

/-- An owner-tracking interface starts inhibits under its own ids. -/
lemma mine_of_instanceID {k : ℕ} {K : OwnerKind} (hK : w.kind k = some K) {id : InhibitID}
    (h : OwnerId.instanceID id = K.config.instanceId) : w.Mine k id := by
  intro j J hJ
  constructor
  · intro hid
    exact w.instances j k J K hJ hK (hid.symm.trans h)
  · rintro rfl
    rw [hK] at hJ
    rw [← Option.some.inj hJ]
    exact h

/-- Since the state `d₀`, the owner-tracking interfaces other than `k` have seen own calls only. -/
structure OthersCalled (w : Wiring σ) (k : ℕ) (d₀ d : Daemon σ) : Prop where
  sound : w.Sound d
  calls : ∀ j J, w.kind j = some J → j ≠ k → J.Calls (w.mName j) (w.view j d₀) (w.view j d)

lemma OthersCalled.registered {k : ℕ} {d₀ d d' : Daemon σ} {f : OwnerKind →
    InhibitInterface OwnerFields → InhibitInterface OwnerFields} (h : w.OthersCalled k d₀ d)
    (hreg : w.Registered k f d d') : w.OthersCalled k d₀ d' where
  sound := hreg.sound
  calls j J hJ hj := (h.calls j J hJ hj).trans (hreg.calls j J hJ hj)

lemma othersCalled_keptByFields (w : Wiring σ) (k : ℕ) (d₀ : Daemon σ) :
    KeptByFields ((Daemon.this k).part w.part) (w.OthersCalled k d₀) := by
  intro f d h
  refine ⟨h.sound.congr (fun _ => rfl) fun j id => Daemon.active_modifySub k
    (fun s => w.part.set (f (w.part.get s)) s) d j id, fun j J hJ hj => ?_⟩
  have hobj : (((Daemon.this k).part w.part).modifySub f d).object j = d.object j :=
    Function.update_of_ne hj _ _
  rw [w.view_congr hobj]
  exact h.calls j J hJ hj

lemma undisturbed {k : ℕ} {K : OwnerKind} (hK : w.kind k = some K) (now : ℕ) (d₀ : Daemon σ) :
    Undisturbed ((Daemon.this k).part w.part) K.toClass.overrides
      (Daemon.callbacks w.overrides now k) (w.OthersCalled k d₀) (w.OthersCalled k d₀)
      (fun i _ => w.Mine k i.id) fun _ => True where
  fields := w.othersCalled_keptByFields k d₀
  fields' := w.othersCalled_keptByFields k d₀
  weaken _ h := h
  registerInhibit i d h hmine := by
    obtain ⟨hok, hreg⟩ := w.registerInhibit_registered now hmine h.sound
    rw [registerInhibit_part hK]
    exact ⟨_, Prod.ext hok rfl, h.registered hreg, hreg.own K hK⟩
  registerUnInhibit id d h _ := by
    obtain ⟨hok, hreg⟩ := w.registerUnInhibit_registered now k id h.sound
    rw [registerUnInhibit_part hK]
    exact ⟨_, Prod.ext hok rfl, h.registered hreg, hreg.own K hK⟩

/-- What the registrations of an interface keep. -/
lemma undisturbed_keeps {k : ℕ} {K : OwnerKind} (hK : w.kind k = some K) (now : ℕ)
    {I : Daemon σ → Prop} (hfields : KeptByFields ((Daemon.this k).part w.part) I)
    (hin : ∀ i d, w.Sound d → w.Mine k i.id → I d →
      I (Daemon.registerInhibit w.overrides now k i d).2)
    (hun : ∀ id d, w.Sound d → I d → I (Daemon.registerUnInhibit w.overrides now k id d).2) :
    Undisturbed ((Daemon.this k).part w.part) K.toClass.overrides
      (Daemon.callbacks w.overrides now k) (fun d => w.Sound d ∧ I d) (fun d => w.Sound d ∧ I d)
      (fun i _ => w.Mine k i.id) fun _ => True := by
  have hboth : KeptByFields ((Daemon.this k).part w.part) fun d => w.Sound d ∧ I d :=
    fun f d hd => ⟨hd.1.congr (fun _ => rfl) fun j id => Daemon.active_modifySub k
      (fun s => w.part.set (f (w.part.get s)) s) d j id, hfields f d hd.2⟩
  refine ⟨hboth, hboth, fun _ h => h, fun i d hd hmine => ?_, fun id d hd _ => ?_⟩
  · obtain ⟨hok, hreg⟩ := w.registerInhibit_registered now hmine hd.1
    rw [registerInhibit_part hK]
    exact ⟨_, Prod.ext hok rfl, ⟨hreg.sound, hin i d hd.1 hmine hd.2⟩, hreg.own K hK⟩
  · obtain ⟨hok, hreg⟩ := w.registerUnInhibit_registered now k id hd.1
    rw [registerUnInhibit_part hK]
    exact ⟨_, Prod.ext hok rfl, ⟨hreg.sound, hun id d hd.1 hd.2⟩, hreg.own K hK⟩

/-! ## Runs -/

/-- What can happen to the daemon: a message arrives at an owner-tracking interface, or another
interface registers or unregisters an inhibit. -/
inductive Event where
  | message (k now : ℕ) (tail : List InhibitID) (msg : Message)
  | registerInhibit (now k : ℕ) (i : Inhibit)
  | registerUnInhibit (now k : ℕ) (id : InhibitID)

/-- The interface at which an event happens. -/
def Event.place : Event → ℕ
  | .message k _ _ _ => k
  | .registerInhibit _ k _ => k
  | .registerUnInhibit _ k _ => k

/-- What an event delivers to the interface `k`. -/
def Event.receivedAt (k : ℕ) : Event → Option (ℕ × List InhibitID × Message)
  | .message j now tail msg => if j = k then some (now, tail, msg) else none
  | _ => none

/-- The daemon, the calls that each interface has recorded, and (not in the source) what the other
interfaces have registered and not unregistered. -/
structure State (σ : Type) where
  daemon : Daemon σ
  methodCalls : ℕ → StdMap UInt32 Message := fun _ => ∅
  registered : Finset (ℕ × InhibitID) := ∅

/-- The dispatcher of the interface `k`. -/
def dispatcher (w : Wiring σ) (k : ℕ) (K : OwnerKind) (now : ℕ) (tail : List InhibitID) :
    DBus.Dispatcher (Daemon σ) :=
  K.toClass.dispatcher ((Daemon.this k).part w.part) (Daemon.callbacks w.overrides now k)
    (w.mName k) [] now tail

def step (w : Wiring σ) (s : State σ) : Event → State σ
  | .message k now tail msg =>
    match w.kind k with
    | none => s
    | some K =>
      let r := (w.dispatcher k K now tail).deliver
        { methodCalls := s.methodCalls k, world := s.daemon } msg
      { s with daemon := r.world, methodCalls := Function.update s.methodCalls k r.methodCalls }
  | .registerInhibit now k i =>
    { s with daemon := (Daemon.registerInhibit w.overrides now k i s.daemon).2
             registered := insert (k, i.id) s.registered }
  | .registerUnInhibit now k id =>
    { s with daemon := (Daemon.registerUnInhibit w.overrides now k id s.daemon).2
             registered := s.registered.erase (k, id) }

/-- The senders of calls are clients, and an interface that does not track owners uses ids of its
own. -/
def Legal (w : Wiring σ) (s : State σ) : Event → Prop
  | .message k now tail msg => ∀ K, w.kind k = some K →
    K.Truthful { world := { obj := w.view k s.daemon } } (.message now tail msg)
  | .registerInhibit _ k i => w.kind k = none ∧ w.Mine k i.id
  | .registerUnInhibit _ k _ => w.kind k = none

end Wiring

lemma OwnerKind.truthful_congr {K : OwnerKind} {s s' : OwnerKind.State}
    (h : s'.world.obj = s.world.obj) (e : OwnerKind.Event) :
    K.Truthful s' e ↔ K.Truthful s e := by
  cases e with
  | message now tail msg =>
    have howners : (Owned.of s'.world).ownersOf msg.sender =
        (Owned.of s.world).ownersOf msg.sender := by
      unfold Owned.ownersOf Owned.of
      rw [h]
    show (_ ∧ K.LeftoverOf s' tail msg) ↔ (_ ∧ K.LeftoverOf s tail msg)
    unfold LeftoverOf
    rw [howners]
  | inhibit now r => exact Iff.rfl
  | unInhibit cookie => exact Iff.rfl

namespace Wiring

variable {σ : Type} {w : Wiring σ}

/-- The ids that a client's message registers are those of the interface. -/
lemma admits_mine {k : ℕ} {K : OwnerKind} (hK : w.kind k = some K) {s : State σ} {now : ℕ}
    {tail : List InhibitID} {msg : Message} (hmsg : w.Legal s (.message k now tail msg))
    (o : InhibitInterface OwnerFields) :
    Admits K.toClass now (fun i _ => w.Mine k i.id) (fun _ => True) msg o := by
  refine ⟨fun hin args _ => mine_of_instanceID hK ?_, fun _ _ _ => trivial,
    fun _ _ _ _ _ => trivial⟩
  exact OwnerId.instanceID_mkId K.config ((hmsg K hK).1 hin.1).fits _

/-- A message to the interface `k` does to it and returns what it does at an interface on its own,
and the others see own calls. -/
lemma message_agree {k : ℕ} {K : OwnerKind} (hK : w.kind k = some K) {s : State σ}
    (hs : w.Sound s.daemon) (hcalls : s.methodCalls k = ∅) {now : ℕ} {tail : List InhibitID}
    {msg : Message} (hmsg : w.Legal s (.message k now tail msg)) {a : OwnerKind.State}
    (hobj : w.view k s.daemon = a.world.obj) (hcalls' : a.methodCalls = ∅) :
    let r := (w.dispatcher k K now tail).dispatch msg
      { methodCalls := s.methodCalls k, world := s.daemon }
    let r' := (K.dispatcher (w.mName k) now tail).dispatch msg a
    Agree ((Daemon.this k).part w.part) (w.OthersCalled k s.daemon) (r.1, r.2.world)
      (r'.1, r'.2.world) ∧ r.2.methodCalls = ∅ ∧ r'.2.methodCalls = ∅ := by
  have hother : w.OthersCalled k s.daemon s.daemon := ⟨hs, fun j J _ _ => .refl J _ _⟩
  rw [OwnerKind.dispatcher_eq]
  exact dispatch_agree (undisturbed hK now s.daemon) (w.implementation k K hK)
    (w.mName k) [] tail (s := { methodCalls := s.methodCalls k, world := s.daemon })
    hcalls hcalls' hother hobj (admits_mine hK hmsg _)

/-- Only the owner-tracking interfaces have messages. -/
lemma step_message_none {k : ℕ} (hK : w.kind k = none) {now : ℕ} {tail : List InhibitID}
    {msg : Message} {s : State σ} : w.step s (.message k now tail msg) = s := by
  unfold step
  dsimp only
  rw [hK]

/-- The step that delivers a message. -/
lemma message_step {k : ℕ} {K : OwnerKind} (hK : w.kind k = some K) {s : State σ}
    (hs : w.Sound s.daemon) (hcalls : s.methodCalls k = ∅) {now : ℕ} {tail : List InhibitID}
    {msg : Message} (hmsg : w.Legal s (.message k now tail msg)) {a : OwnerKind.State}
    (hobj : w.view k s.daemon = a.world.obj) (hcalls' : a.methodCalls = ∅) :
    let s' := w.step s (.message k now tail msg)
    let a' := K.step (w.mName k) a (.message now tail msg)
    w.OthersCalled k s.daemon s'.daemon ∧ w.view k s'.daemon = a'.world.obj ∧
      s'.methodCalls = Function.update s.methodCalls k ∅ ∧ a'.methodCalls = ∅ := by
  obtain ⟨⟨-, hview, hJ⟩, hnone, hnone'⟩ := message_agree hK hs hcalls hmsg hobj hcalls'
  intro s' a'
  set r := (w.dispatcher k K now tail).deliver
    { methodCalls := s.methodCalls k, world := s.daemon } msg with hr
  have hs' : s' = ⟨r.world, Function.update s.methodCalls k r.methodCalls, s.registered⟩ := by
    show w.step s (.message k now tail msg) = _
    unfold step
    dsimp only
    rw [hK]
  rw [hs']
  exact ⟨hJ, hview, congrArg (Function.update s.methodCalls k) hnone, hnone'⟩

/-- What the run of the daemon up to the state `s` was for the interface `k`. -/
structure Projected (w : Wiring σ) (k : ℕ) (K : OwnerKind)
    (received : List (ℕ × List InhibitID × Message)) (s : State σ)
    (fs : List OwnerKind.Event) : Prop where
  received : fs.filterMap OwnerKind.Event.received = received
  truthful : Transition.Along (K.step (w.mName k)) K.Truthful OwnerKind.initial fs
  object : w.view k s.daemon =
    (Transition.run (K.step (w.mName k)) OwnerKind.initial fs).world.obj
  methodCalls : s.methodCalls k = ∅
  methodCalls' : (Transition.run (K.step (w.mName k)) OwnerKind.initial fs).methodCalls = ∅

/-- Own calls are always truthful. -/
lemma along_truthful_calls {K : OwnerKind} {mName : Bytes} {fs : List OwnerKind.Event}
    (hfs : ∀ e ∈ fs, e.received = none) (a : OwnerKind.State) :
    Transition.Along (K.step mName) K.Truthful a fs := by
  induction fs generalizing a with
  | nil => trivial
  | cons e fs ih =>
    refine ⟨?_, ih (fun e he => hfs e (List.mem_cons_of_mem _ he)) _⟩
    have he := hfs e List.mem_cons_self
    cases e with
    | message now tail msg => cases he
    | inhibit now r => trivial
    | unInhibit cookie => trivial

/-- Own calls that follow. -/
lemma Projected.calls {k : ℕ} {K : OwnerKind} {received : List (ℕ × List InhibitID × Message)}
    {s s' : State σ} {fs : List OwnerKind.Event} (h : w.Projected k K received s fs)
    (hcalls : K.Calls (w.mName k) (w.view k s.daemon) (w.view k s'.daemon))
    (hmethod : s'.methodCalls k = s.methodCalls k) : ∃ fs', w.Projected k K received s' fs' := by
  obtain ⟨gs, hgs, hrun⟩ := hcalls
  obtain ⟨hobj, hcalls'⟩ := hrun _ h.object.symm
  refine ⟨fs ++ gs, ?_, ?_, ?_, hmethod.trans h.methodCalls, ?_⟩
  · rw [List.filterMap_append, h.received, List.filterMap_eq_nil_iff.mpr hgs, List.append_nil]
  · exact Transition.along_append.mpr ⟨h.truthful, along_truthful_calls hgs _⟩
  · rw [Transition.run_append]
    exact hobj.symm
  · rw [Transition.run_append]
    exact hcalls'.trans h.methodCalls'

/-- A message that follows. -/
lemma Projected.message {k : ℕ} {K : OwnerKind} (hK : w.kind k = some K)
    {received : List (ℕ × List InhibitID × Message)} {s : State σ} {fs : List OwnerKind.Event}
    (h : w.Projected k K received s fs) (hs : w.Sound s.daemon) {now : ℕ} {tail : List InhibitID}
    {msg : Message} (hmsg : w.Legal s (.message k now tail msg)) :
    w.Projected k K (received ++ [(now, tail, msg)]) (w.step s (.message k now tail msg))
      (fs ++ [.message now tail msg]) := by
  obtain ⟨-, hview, hmethod, hmethod'⟩ :=
    message_step hK hs h.methodCalls hmsg h.object h.methodCalls'
  refine ⟨?_, ?_, ?_, ?_, ?_⟩
  · rw [List.filterMap_append, h.received]
    rfl
  · refine Transition.along_snoc.mpr ⟨h.truthful, ?_⟩
    exact (OwnerKind.truthful_congr h.object.symm _).mpr (hmsg K hK)
  · rw [Transition.run_snoc]
    exact hview
  · rw [hmethod, Function.update_self]
  · rw [Transition.run_snoc]
    exact hmethod'

/-- The interfaces are new. -/
structure Initial (w : Wiring σ) (d : Daemon σ) : Prop extends d.Initial where
  fields : ∀ k K, w.kind k = some K → w.view k d = { sub := {} }

lemma Initial.sound {d : Daemon σ} (h : w.Initial d) : w.Sound d where
  plans o p hp := by
    unfold Daemon.planOf at hp
    rw [h.releasePlan, Std.ExtTreeMap.getElem?_empty] at hp
    exact absurd hp List.not_mem_nil
  branded k K _ id i hi := by
    unfold Daemon.active at hi
    rw [h.activeInhibits, Std.ExtTreeMap.getElem?_empty] at hi
    cases hi

/-- An event that delivers nothing to the interface `k` is own calls for it. -/
lemma step_calls {k : ℕ} {K : OwnerKind} (hK : w.kind k = some K) {s : State σ}
    (hall : ∀ j J, w.kind j = some J → s.methodCalls j = ∅) (hs : w.Sound s.daemon) {e : Event}
    (he : w.Legal s e) (hnone : e.receivedAt k = none) :
    K.Calls (w.mName k) (w.view k s.daemon) (w.view k (w.step s e).daemon) ∧
      (w.step s e).methodCalls k = s.methodCalls k := by
  cases e with
  | message j now tail msg =>
    have hj : k ≠ j := by
      rintro rfl
      rw [show (Event.message k now tail msg).receivedAt k = some (now, tail, msg) from
        if_pos rfl] at hnone
      cases hnone
    cases hJ : w.kind j with
    | none =>
      rw [step_message_none hJ]
      exact ⟨.refl K _ _, rfl⟩
    | some J =>
      obtain ⟨hother, -, hmethod, -⟩ := message_step hJ hs (hall j J hJ) he
        (a := { world := { obj := w.view j s.daemon } }) rfl rfl
      refine ⟨hother.calls k K hK hj, ?_⟩
      rw [hmethod]
      exact Function.update_of_ne hj _ _
  | registerInhibit now j i =>
    have hreg := (w.registerInhibit_registered now he.2 hs).2
    refine ⟨hreg.calls k K hK fun hkj => ?_, rfl⟩
    rw [hkj, he.1] at hK
    cases hK
  | registerUnInhibit now j id =>
    have hreg := (w.registerUnInhibit_registered now j id hs).2
    refine ⟨hreg.calls k K hK fun hkj => ?_, rfl⟩
    have he : w.kind j = none := he
    rw [hkj, he] at hK
    cases hK

/-- A step of the daemon, for one of its owner-tracking interfaces. -/
lemma Projected.step {k : ℕ} {K : OwnerKind} (hK : w.kind k = some K)
    {received : List (ℕ × List InhibitID × Message)} {s : State σ} {fs : List OwnerKind.Event}
    (h : w.Projected k K received s fs) (hall : ∀ j J, w.kind j = some J → s.methodCalls j = ∅)
    (hs : w.Sound s.daemon) {e : Event} (he : w.Legal s e) :
    ∃ fs', w.Projected k K (received ++ (e.receivedAt k).toList) (w.step s e) fs' := by
  cases hreceived : e.receivedAt k with
  | none =>
    obtain ⟨hcalls, hmethod⟩ := step_calls hK hall hs he hreceived
    rw [Option.toList_none, List.append_nil]
    exact h.calls hcalls hmethod
  | some r =>
    cases e with
    | message j now tail msg =>
      by_cases hj : j = k
      · subst hj
        obtain rfl : (now, tail, msg) = r := Option.some.inj ((if_pos rfl).symm.trans hreceived)
        rw [Option.toList_some]
        exact ⟨_, h.message hK hs he⟩
      · cases (if_neg hj).symm.trans hreceived
    | registerInhibit now j i => cases hreceived
    | registerUnInhibit now j id => cases hreceived

lemma sound_step {s : State σ} (hall : ∀ j J, w.kind j = some J → s.methodCalls j = ∅)
    (hs : w.Sound s.daemon) {e : Event} (he : w.Legal s e) : w.Sound (w.step s e).daemon := by
  cases e with
  | message j now tail msg =>
    cases hJ : w.kind j with
    | none =>
      rw [step_message_none hJ]
      exact hs
    | some J =>
      exact (message_step hJ hs (hall j J hJ) he
        (a := { world := { obj := w.view j s.daemon } }) rfl rfl).1.sound
  | registerInhibit now j i => exact (w.registerInhibit_registered now he.2 hs).2.sound
  | registerUnInhibit now j id => exact (w.registerUnInhibit_registered now j id hs).2.sound

/-- What a run has done to the interfaces. -/
structure Reached (w : Wiring σ) (es : List Event) (s : State σ) : Prop where
  sound : w.Sound s.daemon
  projected : ∀ k K, w.kind k = some K →
    ∃ fs, w.Projected k K (es.filterMap (Event.receivedAt k)) s fs

lemma Reached.methodCalls {es : List Event} {s : State σ} (h : w.Reached es s) (j : ℕ)
    (J : OwnerKind) (hJ : w.kind j = some J) : s.methodCalls j = ∅ := by
  obtain ⟨fs, hfs⟩ := h.projected j J hJ
  exact hfs.methodCalls

/-- What the registrations of an interface keep, is kept by all that happens there. -/
lemma Reached.keeps {es : List Event} {s : State σ} (hr : w.Reached es s) {e : Event}
    (he : w.Legal s e) {I : Daemon σ → Prop}
    (hfields : KeptByFields ((Daemon.this e.place).part w.part) I)
    (hin : ∀ now i d, w.Sound d → w.Mine e.place i.id → I d →
      I (Daemon.registerInhibit w.overrides now e.place i d).2)
    (hun : ∀ now id d, w.Sound d → I d →
      I (Daemon.registerUnInhibit w.overrides now e.place id d).2)
    (h : I s.daemon) : I (w.step s e).daemon := by
  cases e with
  | message j now tail msg =>
    cases hJ : w.kind j with
    | none =>
      rw [step_message_none hJ]
      exact h
    | some J =>
      have hcalls : ({ world := { obj := w.view j s.daemon } } : OwnerKind.State).methodCalls = ∅ :=
        rfl
      have hagree := dispatch_agree (undisturbed_keeps hJ now hfields (hin now) (hun now))
        (w.implementation j J hJ) (w.mName j) [] tail
        (s := { methodCalls := s.methodCalls j, world := s.daemon }) (hr.methodCalls j J hJ) hcalls
        ⟨hr.sound, h⟩ rfl (admits_mine hJ he _)
      unfold step
      dsimp only
      rw [hJ]
      exact hagree.1.inv.2
  | registerInhibit now j i => exact hin now i s.daemon hr.sound he.2 h
  | registerUnInhibit now j id => exact hun now id s.daemon hr.sound h

lemma reached {d₀ : Daemon σ} (h₀ : w.Initial d₀) {es : List Event}
    (hes : Transition.Along w.step w.Legal { daemon := d₀ } es) :
    w.Reached es (Transition.run w.step { daemon := d₀ } es) := by
  induction es using List.reverseRecOn with
  | nil =>
    refine ⟨h₀.sound, fun k K hK => ⟨[], rfl, trivial, h₀.fields k K hK, rfl, rfl⟩⟩
  | append_singleton es e ih =>
    obtain ⟨hes, he⟩ := Transition.along_snoc.mp hes
    have hreached := ih hes
    rw [Transition.run_snoc]
    refine ⟨sound_step hreached.methodCalls hreached.sound he, fun k K hK => ?_⟩
    obtain ⟨fs, hfs⟩ := hreached.projected k K hK
    rw [List.filterMap_append]
    exact hfs.step hK hreached.methodCalls hreached.sound he

/-- Every run of the daemon is, for each of its owner-tracking interfaces, a run of this interface
on its own: the same messages in the same order, and between them own calls. -/
theorem runs_project {d₀ : Daemon σ} (h₀ : w.Initial d₀) {es : List Event}
    (hes : Transition.Along w.step w.Legal { daemon := d₀ } es) {k : ℕ} {K : OwnerKind}
    (hK : w.kind k = some K) :
    let s := Transition.run w.step { daemon := d₀ } es
    ∃ fs : List OwnerKind.Event,
      fs.filterMap OwnerKind.Event.received = es.filterMap (Event.receivedAt k) ∧
      Transition.Along (K.step (w.mName k)) K.Truthful OwnerKind.initial fs ∧
      let a := Transition.run (K.step (w.mName k)) OwnerKind.initial fs
      w.view k s.daemon = a.world.obj ∧ s.methodCalls k = a.methodCalls := by
  intro s
  obtain ⟨fs, h⟩ := (reached h₀ hes).projected k K hK
  exact ⟨fs, h.received, h.truthful, h.object, h.methodCalls.trans h.methodCalls'.symm⟩

/-- A screensaver and a session manager. -/
def pair : Wiring OwnerFields where
  part := Part.all
  kind k := if k = 0 then some OwnerKind.exampleScreenSaver
    else if k = 1 then some (.gnomeSessionManager { instanceId := 1, monitor := false }) else none
  other _ := { doInhibit := fun _ _ s => (.error .unsupportedType, s) }
  mName _ := lit ":1.0"
  implementation k K h := by
    split at h
    · cases h
      rfl
    · split at h
      · cases h
        rfl
      · cases h
  instances j k J K hJ hK h := by
    split at hJ <;> split at hK
    · rename_i hj hk
      rw [hj, hk]
    · split at hK
      · cases hJ
        cases hK
        exact absurd h (by decide)
      · cases hK
    · split at hJ
      · cases hJ
        cases hK
        exact absurd h (by decide)
      · cases hJ
    · split at hJ <;> split at hK
      · rename_i hj hk
        rw [hj, hk]
      · cases hK
      · cases hJ
      · cases hJ
  inhibits _ _ _ _ e h := by
    cases h
    exact .inl rfl
  unInhibits _ _ _ _ e h := by cases h

/-- A client of the screensaver sends its `Inhibit`. -/
def pairEvents : List Event :=
  [.message 0 1000 [] (OwnerKind.exampleScreenSaver.inhibitCall ":1.1"
    [.string (lit "a"), .string (lit "b")])]

lemma pair_initial : pair.Initial { inhibitors := [0, 1], object := fun _ => { sub := {} } } where
  activeInhibits _ := rfl
  releasePlan := rfl
  fields _ _ _ := rfl

lemma pairEvents_legal : Transition.Along pair.step pair.Legal
    { daemon := { inhibitors := [0, 1], object := fun _ => { sub := {} } } } pairEvents := by
  refine ⟨fun K hK => ?_, trivial⟩
  obtain rfl : OwnerKind.exampleScreenSaver = K := Option.some.inj hK
  exact OwnerKind.truthful_inhibitCall (by decide) OwnerKind.clientName_one _ _ _

/-- The session manager does not see the message, but an own call: it has a copy. -/
theorem runs_project_pair :
    let s := Transition.run pair.step
      { daemon := { inhibitors := [0, 1], object := fun _ => { sub := {} } } } pairEvents
    (∃ fs : List OwnerKind.Event, fs.filterMap OwnerKind.Event.received = [] ∧
      pair.view 1 s.daemon = (Transition.run
        ((OwnerKind.gnomeSessionManager { instanceId := 1, monitor := false }).step (lit ":1.0"))
        OwnerKind.initial fs).world.obj) ∧
    (s.daemon.active 1
      (OwnerId.mkId { instanceId := 1, monitor := false } (lit "us") 1)).isSome := by
  intro s
  obtain ⟨fs, hreceived, -, hobj, -⟩ := runs_project pair_initial pairEvents_legal
    (show pair.kind 1 = some _ from rfl)
  exact ⟨⟨fs, hreceived, hobj⟩, by decide +kernel⟩

end Wiring

end UnifiedInhibit
