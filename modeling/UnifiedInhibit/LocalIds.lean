import UnifiedInhibit.DaemonFaults
import UnifiedInhibit.DaemonTheorems
import UnifiedInhibit.FailedForwards

/-!
# Ids that are new to one interface are new to all

The contract of `InhibitInterface.hpp` asks for ids that are not in use at any interface, but an
interface knows its own ids only. Each class keeps to ids of its own (`Ids.own`) and hands out
those that it has not used; the ids of two interfaces differ, and so what is locally new is new.
`Ids.room` says that one more id can be handed out.
-/

namespace UnifiedInhibit

/-- The ids of an interface: which are its own, which it has used, and whether there is room for one
more. -/
structure Ids (σ : Type) where
  own : InhibitID → Prop
  used : InhibitID → σ → Prop
  room : σ → Prop

namespace Ids

variable {σ : Type} (I : Ids σ)

/-- What was used stays used, and room is kept. -/
structure Kept (s s' : σ) : Prop where
  used : ∀ id, I.used id s → I.used id s'
  room : I.room s → I.room s'

variable {I}

lemma Kept.refl (s : σ) : I.Kept s s := ⟨fun _ h => h, fun h => h⟩

lemma Kept.trans {s s' s'' : σ} (h : I.Kept s s') (h' : I.Kept s' s'') : I.Kept s s'' :=
  ⟨fun id hid => h'.used id (h.used id hid), fun hr => h'.room (h.room hr)⟩

end Ids

/-- The class hands out own ids that it has not used, and remembers them. -/
structure Overrides.Obeys {σ : Type} (u : Overrides σ) (I : Ids σ) : Prop where
  fresh : ∀ now r s i, I.room s → (u.doInhibit now r s).1 = .ok i →
    I.own i.id ∧ ¬ I.used i.id s ∧ I.used i.id (u.doInhibit now r s).2
  inhibit : ∀ now r s id, I.room s → I.used id s → I.used id (u.doInhibit now r s).2
  unInhibit : ∀ b id s, I.Kept s (u.doUnInhibit b id s).2
  inhibitEvent : ∀ i s, I.Kept s (u.handleInhibitEvent i s)
  unInhibitEvent : ∀ i s, I.Kept s (u.handleUnInhibitEvent i s)
  stateChanged : ∀ t i s, I.Kept s (u.handleInhibitStateChanged t i s)

namespace Overrides.Obeys

variable {σ : Type} {u : Overrides σ} {I : Ids σ} (hu : u.Obeys I)
include hu

lemma callEvent (b : Bool) (i : Inhibit) (o : InhibitInterface σ) :
    I.Kept o.sub (InhibitInterface.callEvent u b i o).sub := by
  have hfirst : I.Kept o.sub
      (if b then u.handleInhibitEvent i o.sub else u.handleUnInhibitEvent i o.sub) := by
    cases b
    · exact hu.unInhibitEvent i o.sub
    · exact hu.inhibitEvent i o.sub
  unfold InhibitInterface.callEvent
  dsimp only
  split
  · exact hfirst.trans (hu.stateChanged _ i _)
  · exact hfirst

/-- What `unInhibit` leaves. -/
lemma unInhibit_sub (id : InhibitID) (o : InhibitInterface σ) :
    I.Kept o.sub (InhibitInterface.unInhibit u id o).2.sub := by
  unfold InhibitInterface.unInhibit
  cases o.activeInhibits[id]? with
  | none => exact .refl _
  | some mid =>
    have hdo := hu.unInhibit o.toBase id o.sub
    dsimp only
    rcases hres : u.doUnInhibit o.toBase id o.sub with ⟨res, s⟩
    rw [hres] at hdo
    cases res with
    | error e => exact hdo
    | ok _ =>
      have hdo : I.Kept o.sub s := hdo
      exact hdo.trans (hu.callEvent false mid
        { toBase := { o.toBase with activeInhibits := o.activeInhibits.erase id }, sub := s })

/-- What `inhibit` leaves, while there is room. -/
lemma inhibit_used {now : ℕ} {r : InhibitRequest} {o : InhibitInterface σ} (hroom : I.room o.sub)
    {id : InhibitID} (hid : I.used id o.sub ∨
      ∃ i, (u.doInhibit now r o.sub).1 = .ok i ∧ i.id = id) :
    I.used id (InhibitInterface.inhibit u now r o).2.sub := by
  have hdo : I.used id (u.doInhibit now r o.sub).2 := by
    rcases hid with hused | ⟨i, hi, rfl⟩
    · exact hu.inhibit now r o.sub id hroom hused
    · exact (hu.fresh now r o.sub i hroom hi).2.2
  unfold InhibitInterface.inhibit
  rcases hres : u.doInhibit now r o.sub with ⟨res, s⟩
  rw [hres] at hdo
  cases res with
  | error e => exact hdo
  | ok i => exact (hu.callEvent true i _).used id hdo

end Overrides.Obeys

namespace Daemon

variable {σ : Type} {v : ℕ → Overrides σ} (ids : ℕ → Ids σ)

/-- No id belongs to two interfaces. -/
def Separate : Prop := ∀ j k id, (ids j).own id → (ids k).own id → j = k

/-- Each interface has ids of its own active, and those other than `k` have used them. -/
structure Known (k : ℕ) (d : Daemon σ) : Prop where
  own : ∀ j id, (d.active j id).isSome → (ids j).own id
  used : ∀ j id, j ≠ k → (d.active j id).isSome → (ids j).used id (d.object j).sub

/-- Each interface of main other than `k` has room for one more id. -/
structure Rooms (k : ℕ) (d : Daemon σ) : Prop where
  room : ∀ j ∈ d.inhibitors, j ≠ k → (ids j).room (d.object j).sub
  nodup : d.inhibitors.Nodup

variable {ids}

/-- What is new at one interface is new everywhere. -/
lemma Known.not_inUse {k : ℕ} {d : Daemon σ} (h : Known ids k d) (hsep : Separate ids) {j : ℕ}
    {id : InhibitID} (hown : (ids j).own id) (hfree : d.active j id = none) : ¬ d.InUse id := by
  rintro ⟨l, hl⟩
  obtain rfl := hsep l j id (h.own l id hl) hown
  rw [hfree] at hl
  cases hl

/-! ## The calls of main -/

lemma object_unInhibitAt_of_ne {j l : ℕ} (hl : l ≠ j) (id : InhibitID) (d : Daemon σ) :
    (unInhibitAt v j id d).2.object l = d.object l := Function.update_of_ne hl _ _

section Calls

variable (hids : ∀ k, (v k).Obeys (ids k))
include hids

/-- One interface takes a request. -/
lemma Known.inhibitAt {k j : ℕ} {d : Daemon σ} (h : Known ids k d) (now : ℕ) (r : InhibitRequest)
    (hroom : (ids j).room (d.object j).sub) : Known ids k (inhibitAt v now j r d).2 := by
  have hself : (Daemon.inhibitAt v now j r d).2.object j =
      ((d.object j).inhibit (v j) now r).2 := (this j).get_set _ _
  -- what is active afterwards was active before, or has just been granted
  have hactive : ∀ l id, ((Daemon.inhibitAt v now j r d).2.active l id).isSome →
      (d.active l id).isSome ∨
        l = j ∧ ∃ i, ((v j).doInhibit now r (d.object j).sub).1 = .ok i ∧ i.id = id := by
    intro l id hl
    rcases hdo : (v j).doInhibit now r (d.object j).sub with ⟨res, s⟩
    cases res with
    | error e =>
      have hres : (Daemon.inhibitAt v now j r d).1 = .error e :=
        congrArg Prod.fst (InhibitInterface.inhibit_error _ hdo)
      rw [active_inhibitAt_error hres] at hl
      exact .inl hl
    | ok i =>
      have hres : (Daemon.inhibitAt v now j r d).1 = .ok i := (InhibitInterface.inhibit_ok _ hdo).1
      rw [active_inhibitAt_ok hres] at hl
      split at hl
      · rename_i hnew
        exact .inr ⟨hnew.1, i, rfl, hnew.2.1.symm⟩
      · exact .inl hl
  constructor
  · intro l id hl
    rcases hactive l id hl with hold | ⟨rfl, i, hi, rfl⟩
    · exact h.own l id hold
    · exact ((hids l).fresh now r _ i hroom hi).1
  · intro l id hlk hl
    by_cases hlj : l = j
    · subst hlj
      rw [hself]
      refine (hids l).inhibit_used hroom ?_
      rcases hactive l id hl with hold | ⟨-, hnew⟩
      · exact .inl (h.used l id hlk hold)
      · exact .inr hnew
    · rw [object_inhibitAt_of_ne hlj]
      rcases hactive l id hl with hold | ⟨heq, -⟩
      · exact h.used l id hlk hold
      · exact absurd heq hlj

/-- The forwarding loop gets new ids. -/
lemma Known.forward {k : ℕ} {i : Inhibit} {ais : List ℕ} (hnodup : ais.Nodup)
    (hsep : Separate ids) (now : ℕ) {d : Daemon σ} (h : Known ids k d)
    (hroom : ∀ j ∈ ais, j ≠ k → (ids j).room (d.object j).sub) :
    ForwardFresh v now k i ais d ∧ Known ids k (forward v now k i ais d).2 := by
  induction ais generalizing d with
  | nil => exact ⟨trivial, h⟩
  | cons j ais ih =>
    obtain ⟨hnot, hnodup⟩ := List.nodup_cons.mp hnodup
    unfold ForwardFresh Daemon.forward
    by_cases hjk : j ≠ k
    · rw [if_pos hjk, if_pos hjk]
      have hroom' := hroom j List.mem_cons_self hjk
      have hknown := h.inhibitAt hids now i.toInhibitRequest hroom'
      have hgrant : ∀ c, (Daemon.inhibitAt v now j i.toInhibitRequest d).1 = .ok c →
          ¬ d.InUse c.id := by
        intro c hc
        have hdo : ((v j).doInhibit now i.toInhibitRequest (d.object j).sub).1 = .ok c := by
          rcases hdo : (v j).doInhibit now i.toInhibitRequest (d.object j).sub with ⟨res, s⟩
          cases res with
          | error e =>
            have herr : (Daemon.inhibitAt v now j i.toInhibitRequest d).1 = .error e :=
              congrArg Prod.fst (InhibitInterface.inhibit_error _ hdo)
            rw [herr] at hc
            cases hc
          | ok c' =>
            have hok : (Daemon.inhibitAt v now j i.toInhibitRequest d).1 = .ok c' :=
              (InhibitInterface.inhibit_ok _ hdo).1
            exact hok.symm.trans hc
        obtain ⟨hown, hnew, -⟩ := (hids j).fresh now _ _ c hroom' hdo
        refine h.not_inUse hsep hown ?_
        by_contra hactive
        exact hnew (h.used j c.id hjk (Option.isSome_iff_ne_none.mpr hactive))
      -- the others still have their room
      have hrest : ∀ l ∈ ais, l ≠ k →
          (ids l).room ((Daemon.inhibitAt v now j i.toInhibitRequest d).2.object l).sub := by
        intro l hl hlk
        have hlj : l ≠ j := by
          rintro rfl
          exact hnot hl
        rw [object_inhibitAt_of_ne hlj]
        exact hroom l (List.mem_cons_of_mem j hl) hlk
      rcases hat : Daemon.inhibitAt v now j i.toInhibitRequest d with ⟨res, d₁⟩
      rw [hat] at hknown hgrant hrest
      cases res with
      | ok c =>
        have hpush : Known ids k (d₁.pushRelease i.id (j, c.id)) := ⟨hknown.own, hknown.used⟩
        obtain ⟨hfresh, hend⟩ := ih hnodup hpush hrest
        exact ⟨⟨hgrant c rfl, hfresh⟩, hend⟩
      | error e =>
        obtain ⟨hfresh, hend⟩ := ih hnodup hknown hrest
        refine ⟨hfresh, ?_⟩
        cases e with
        | unsupportedType => exact hend
        | _ => exact hknown
    · rw [if_neg hjk, if_neg hjk]
      exact ih hnodup h fun l hl => hroom l (List.mem_cons_of_mem j hl)

end Calls

/-- Nothing becomes active, and each interface keeps its ids and its room. -/
structure Shrinks (ids : ℕ → Ids σ) (d d' : Daemon σ) : Prop where
  inhibitors : d'.inhibitors = d.inhibitors
  active : ∀ j id, (d'.active j id).isSome → (d.active j id).isSome
  kept : ∀ j, (ids j).Kept (d.object j).sub (d'.object j).sub

namespace Shrinks

variable {d d' d'' : Daemon σ}

lemma refl (d : Daemon σ) : Shrinks ids d d := ⟨rfl, fun _ _ h => h, fun _ => .refl _⟩

lemma trans (h : Shrinks ids d d') (h' : Shrinks ids d' d'') : Shrinks ids d d'' where
  inhibitors := h'.inhibitors.trans h.inhibitors
  active j id hj := h.active j id (h'.active j id hj)
  kept j := (h.kept j).trans (h'.kept j)

/-- A change of main's own records. -/
lemma of_object (hinh : d'.inhibitors = d.inhibitors) (hobj : d'.object = d.object) :
    Shrinks ids d d' where
  inhibitors := hinh
  active j id hj := by
    unfold Daemon.active at hj ⊢
    rw [hobj] at hj
    exact hj
  kept j := by
    rw [hobj]
    exact .refl _

lemma printInhibited (d : Daemon σ) : Shrinks ids d d.printInhibited := by
  rw [printInhibited_eq]
  exact .of_object rfl rfl

/-- A change of one object. -/
lemma setObject {k : ℕ} {o : InhibitInterface σ}
    (hactive : ∀ id, (o.activeInhibits[id]?).isSome → (d.active k id).isSome)
    (hkept : (ids k).Kept (d.object k).sub o.sub) : Shrinks ids d (d.setObject k o) where
  inhibitors := rfl
  active j id hj := by
    rw [active_setObject] at hj
    split at hj
    · rename_i hjk
      rw [hjk]
      exact hactive id hj
    · exact hj
  kept j := by
    by_cases hjk : j = k
    · rw [hjk, show (d.setObject k o).object k = o from (this k).get_set o d]
      exact hkept
    · rw [show (d.setObject k o).object j = d.object j from Function.update_of_ne hjk _ _]
      exact .refl _

lemma known (h : Shrinks ids d d') {k : ℕ} (hk : Known ids k d) : Known ids k d' where
  own j id hj := hk.own j id (h.active j id hj)
  used j id hjk hj := (h.kept j).used id (hk.used j id hjk (h.active j id hj))

lemma rooms (h : Shrinks ids d d') {k : ℕ} (hr : Rooms ids k d) : Rooms ids k d' where
  room j hj hjk := by
    rw [h.inhibitors] at hj
    exact (h.kept j).room (hr.room j hj hjk)
  nodup := by
    rw [h.inhibitors]
    exact hr.nodup

end Shrinks

/-! ## Registrations -/

section Registrations

variable (hids : ∀ k, (v k).Obeys (ids k))
include hids

lemma shrinks_callEvent (k : ℕ) (b : Bool) (i : Inhibit) (d : Daemon σ) :
    Shrinks ids d ((this k).modify (InhibitInterface.callEvent (v k) b i) d) := by
  refine .setObject (fun id hid => ?_) ((hids k).callEvent b i _)
  rw [InhibitInterface.callEvent_activeInhibits] at hid
  exact hid

/-- What `registerInhibit` does after the insertion and the loop. -/
lemma shrinks_registered {now k : ℕ} {i : Inhibit} {d : Daemon σ}
    (h : (forward v now k i d.inhibitors (d.insertActive k i)).1 = .ok ()) :
    Shrinks ids (forward v now k i d.inhibitors (d.insertActive k i)).2
      (registerInhibit v now k i d).2 := by
  rw [registerInhibit_eq h]
  exact (Shrinks.printInhibited _).trans (shrinks_callEvent hids k true i _)

/-- An own id that is not active at the interface meets the contract of all interfaces. -/
lemma Known.registerInhibit (hsep : Separate ids) (hin : InhibitsOrRefuses v) {k : ℕ}
    {i : Inhibit} {t : Tracked σ} (h : Known ids k t.daemon) (hrooms : Rooms ids k t.daemon)
    (hown : (ids k).own i.id) (hfree : t.daemon.active k i.id = none) (now : ℕ) :
    Tracked.Contract v t (.registerInhibit now k i) ∧
      Known ids k (Daemon.registerInhibit v now k i t.daemon).2 := by
  have hinsert : Known ids k (t.daemon.insertActive k i) := by
    constructor
    · intro j id hj
      rw [active_insertActive] at hj
      split at hj
      · rename_i hnew
        rw [hnew.1, hnew.2.1]
        exact hown
      · exact h.own j id hj
    · intro j id hjk hj
      rw [active_insertActive, if_neg fun hnew => hjk hnew.1] at hj
      rw [show (t.daemon.insertActive k i).object j = t.daemon.object j from
        Function.update_of_ne hjk _ _]
      exact h.used j id hjk hj
  have hroom : ∀ j ∈ t.daemon.inhibitors, j ≠ k →
      (ids j).room ((t.daemon.insertActive k i).object j).sub := by
    intro j hj hjk
    rw [show (t.daemon.insertActive k i).object j = t.daemon.object j from
      Function.update_of_ne hjk _ _]
    exact hrooms.room j hj hjk
  obtain ⟨hfresh, hknown⟩ := hinsert.forward hids (i := i) hrooms.nodup hsep now hroom
  obtain ⟨hok, -⟩ := forward_spec hin now k i t.daemon.inhibitors _ hfresh
  exact ⟨⟨h.not_inUse hsep hown hfree, hfresh⟩, (shrinks_registered hids hok).known hknown⟩

/-- What is active at the interface that registers. -/
lemma used_registerInhibit (hin : InhibitsOrRefuses v) {now k : ℕ} {i : Inhibit} {d : Daemon σ}
    (h : ∀ id, (d.active k id).isSome → (ids k).used id (d.object k).sub)
    (hused : (ids k).used i.id (d.object k).sub) :
    ∀ id, ((registerInhibit v now k i d).2.active k id).isSome →
      (ids k).used id ((registerInhibit v now k i d).2.object k).sub := by
  intro id hid
  obtain ⟨hok, -⟩ := forward_places hin now k i d.inhibitors (d.insertActive k i)
  have hshrinks : Shrinks ids _ _ := shrinks_registered hids hok
  have hid := hshrinks.active k id hid
  have hobj : (forward v now k i d.inhibitors (d.insertActive k i)).2.object k =
      (d.insertActive k i).object k := object_forward now k i d.inhibitors _
  refine (hshrinks.kept k).used id ?_
  rw [hobj, show (d.insertActive k i).object k = { d.object k with
    activeInhibits := (d.object k).activeInhibits.insertIfNew i.id i } from (this k).get_set _ _]
  unfold active at hid
  rw [hobj] at hid
  have hid : ((d.insertActive k i).active k id).isSome := hid
  rw [active_insertActive] at hid
  split at hid
  · rename_i hnew
    rw [hnew.2.1]
    exact hused
  · exact h id hid

lemma shrinks_unInhibitAt (j : ℕ) (id : InhibitID) (d : Daemon σ) :
    Shrinks ids d (unInhibitAt v j id d).2 := by
  refine .setObject (fun id' hid => ?_) ((hids j).unInhibit_sub id _)
  -- nothing becomes active
  cases hmid : (d.object j).activeInhibits[id]? with
  | none =>
    rw [hmid] at hid
    exact hid
  | some mid =>
    rw [hmid] at hid
    dsimp only at hid
    rcases hdo : (v j).doUnInhibit (d.object j).toBase id (d.object j).sub with ⟨res, s⟩
    rw [hdo] at hid
    cases res with
    | error e => exact hid
    | ok _ =>
      dsimp only at hid
      rw [InhibitInterface.callEvent_activeInhibits, StdMap.getElem?_erase] at hid
      split at hid
      · cases hid
      · exact hid

lemma shrinks_release (rs : List (ℕ × InhibitID)) (d : Daemon σ) :
    Shrinks ids d (release v rs d).2 := by
  induction rs generalizing d with
  | nil => exact .refl d
  | cons r rs ih =>
    have hone : Shrinks ids d (unInhibitAt v r.1 r.2 d).2 := shrinks_unInhibitAt hids r.1 r.2 d
    unfold release
    rcases hat : unInhibitAt v r.1 r.2 d with ⟨res, d₁⟩
    rw [hat] at hone
    rcases res with e | _
    · cases e with
      | unsupportedType => exact hone.trans (ih d₁)
      | _ => exact hone
    · exact hone.trans (ih d₁)

lemma shrinks_unInhibitCB (i : Inhibit) (d : Daemon σ) :
    Shrinks ids d (unInhibitCB v i d).2 := by
  unfold unInhibitCB
  cases hplan : d.releasePlan[i.id]? with
  | none => exact .printInhibited d
  | some plan =>
    have hrel : Shrinks ids d (release v plan d).2 := shrinks_release hids plan d
    dsimp only
    rcases hres : release v plan d with ⟨res, d₂⟩
    rw [hres] at hrel
    rcases res with e | _
    · cases e with
      | noResponse => exact hrel.trans (.printInhibited d₂)
      | _ => exact hrel
    · have herased : Shrinks ids d₂ { d₂ with releasePlan := d₂.releasePlan.erase i.id } :=
        .of_object rfl rfl
      exact (hrel.trans herased).trans (.printInhibited _)

lemma shrinks_registerUnInhibit (now k : ℕ) (id : InhibitID) (d : Daemon σ) :
    Shrinks ids d (registerUnInhibit v now k id d).2 := by
  unfold registerUnInhibit This.registerUnInhibit
  cases ((this k).get d).activeInhibits[id]? with
  | none => exact .refl d
  | some mid =>
    have herase : Shrinks ids d ((this k).modify
        (fun o => { o with activeInhibits := o.activeInhibits.erase id }) d) := by
      refine .setObject (fun id' hid => ?_) (.refl _)
      dsimp only at hid
      rw [StdMap.getElem?_erase] at hid
      split at hid
      · cases hid
      · exact hid
    have hcb : Shrinks ids _ _ := shrinks_unInhibitCB hids mid ((this k).modify
      (fun o => { o with activeInhibits := o.activeInhibits.erase id }) d)
    dsimp only [callbacks]
    rcases hres : unInhibitCB v mid _ with ⟨res, d₂⟩
    rw [hres] at hcb
    cases res with
    | error e => exact herase.trans hcb
    | ok _ => exact (herase.trans hcb).trans (shrinks_callEvent hids k false mid d₂)

end Registrations

end Daemon

end UnifiedInhibit
