import UnifiedInhibit.SimActivityTheorems

/-!
# The keep-alive threads of Cinnamon

In monitor mode each forwarded inhibit has a thread, which is stopped by `doUnInhibit`. An inhibit
that `poll` has expired is not active any more, so that its release does not reach `doUnInhibit` and
the thread goes on.
-/

namespace UnifiedInhibit
namespace CinnamonScreenSaverInhibitInterface

open DBus (Message)

/-! ## Runs -/

/-- The interface, the ids of the forwarded inhibits that have not been released, and the clock. -/
structure Run where
  world : Alone CinnamonFields
  forwarded : List InhibitID := []
  clock : ℕ := 0

inductive Event where
  /-- a forwarded inhibit -/
  | inhibit (now : ℕ) (r : InhibitRequest)
  /-- the release of a forwarded inhibit -/
  | unInhibit (id : InhibitID)
  /-- a client's `SimulateUserActivity` -/
  | message (now : ℕ) (msg : Message) (ret : Option Message)
  | poll (now : ℕ)

variable (cfg : CinnamonConfig)

def step (s : Run) : Event → Run
  | .inhibit now r =>
    let result := InhibitInterface.inhibit (overrides cfg) now r s.world.obj
    { s with
      world.obj := result.2
      forwarded := match result.1 with
        | .ok i => s.forwarded ++ [i.id]
        | .error _ => s.forwarded
      clock := now }
  | .unInhibit id =>
    { s with
      world.obj := (InhibitInterface.unInhibit (overrides cfg) id s.world.obj).2
      forwarded := s.forwarded.erase id }
  | .message now msg ret =>
    { s with
      world := (handleSimActivityMsg cfg Alone.this Alone.callbacks now msg ret s.world).2
      clock := now }
  | .poll now =>
    { s with
      world := (poll cfg Alone.this Alone.callbacks now s.world).2
      clock := now }

/-- Time does not go back, fewer than `2 ^ 32` inhibits are made, and the daemon releases what it
was given and has not released. -/
def Legal (s : Run) : Event → Prop
  | .inhibit now _ => s.clock ≤ now ∧ s.world.obj.sub.lastUsInhibit.toNat + 1 < 2 ^ 32
  | .unInhibit id => id ∈ s.forwarded
  | .message now msg _ => s.clock ≤ now ∧ ClientName msg.sender
  | .poll now => s.clock ≤ now

/-- The threads are those of the inhibits that have not been released, and without such an inhibit
none goes on sending. -/
def Followed (s : Run) : Prop :=
  (∀ sender, sender ∈ s.world.obj.sub.simThreads ↔ sender ∈ s.forwarded.map senderOf) ∧
    (s.forwarded = [] → ∀ thread, ¬ Running s.world.obj.sub thread)

/-- What is released is still active. -/
def StillActive (s : Run) : Event → Prop
  | .unInhibit id => id ∈ s.world.obj.activeInhibits
  | _ => True

/-! ## Names -/

/-- The made-up sender of the `n`-th inhibit. -/
def usName (n : ℕ) : Bytes := lit "us" ++ Decimal.toString n

lemma usName_inj {n m : ℕ} (hn : n < 2 ^ 32) (hm : m < 2 ^ 32) (h : usName n = usName m) :
    n = m := by
  have hread : ∀ {x : ℕ}, x < 2 ^ 32 → Decimal.atol (Decimal.toString x) = x := by
    intro x hx
    have hatol := Decimal.atol_toString (n := x) (by omega) (by omega) Decimal.ends_nil
    rw [List.append_nil] at hatol
    exact hatol
  have hdigits := List.append_cancel_left h
  have hn' := hread hn
  rw [hdigits, hread hm] at hn'
  exact_mod_cast hn'.symm

lemma fits_usName {n : ℕ} (hn : n < 2 ^ 32) : Fits (usName n) := by
  have hlen : (Decimal.toString n).length ≤ 11 := Decimal.length_toString_le (by omega) (by omega)
  constructor
  · show (lit "us" ++ Decimal.toString n).length < 1024
    rw [List.length_append, show (lit "us").length = 2 from rfl]
    omega
  · unfold usName
    rw [List.mem_append, not_or]
    exact ⟨by decide, Decimal.notMem_toString (by decide) (by decide)⟩

/-! ## The invariant -/

/-- The inhibits that have not been released have different senders, each thread belongs to one,
and each running thread is one of them. -/
structure Inv (s : Run) : Prop where
  ids : ∀ id ∈ s.forwarded, ∃ n, n ≤ s.world.obj.sub.lastUsInhibit.toNat ∧ id = mkId cfg (usName n)
  nodup : (s.forwarded.map senderOf).Nodup
  threads : ∀ sender, sender ∈ s.world.obj.sub.simThreads ↔ sender ∈ s.forwarded.map senderOf
  running : ∀ thread, Running s.world.obj.sub thread →
    ∃ sender : Bytes, s.world.obj.sub.simThreads[sender]? = some thread

variable {cfg} {s : Run}

lemma noEvents : (overrides cfg).NoEvents :=
  ⟨fun _ _ => rfl, fun _ _ => rfl, fun _ _ _ => rfl⟩

lemma Inv.followed (h : Inv cfg s) : Followed s := by
  refine ⟨h.threads, fun hnil thread hrunning => ?_⟩
  obtain ⟨sender, hsender⟩ := h.running thread hrunning
  have hmem := (h.threads sender).mp ((StdMap.mem_iff _ _).mpr ⟨thread, hsender⟩)
  rw [hnil] at hmem
  exact absurd hmem List.not_mem_nil

/-- Messages and polls leave the threads alone. -/
lemma Inv.keep (h : Inv cfg s) {f : CinnamonFields} {w : Alone CinnamonFields} {clock : ℕ}
    (hsub : w.obj.sub = f) (hf : ∃ m sent, f = { s.world.obj.sub with inhibitOwners := m, sent }) :
    Inv cfg { s with world := w, clock } := by
  obtain ⟨m, sent, rfl⟩ := hf
  constructor
  · intro id hid
    show ∃ n, n ≤ w.obj.sub.lastUsInhibit.toNat ∧ _
    rw [hsub]
    exact h.ids id hid
  · exact h.nodup
  · intro sender
    show sender ∈ w.obj.sub.simThreads ↔ _
    rw [hsub]
    exact h.threads sender
  · intro thread
    show Running w.obj.sub thread →
      ∃ sender : Bytes, w.obj.sub.simThreads[sender]? = some thread
    rw [hsub]
    exact h.running thread

/-! ## Steps -/

/-- A forwarded inhibit gets a new sender and a new thread. -/
lemma Inv.inhibit (hmon : cfg.monitor = true) (h : Inv cfg s) {now : ℕ} {r : InhibitRequest}
    (hlegal : Legal s (.inhibit now r)) : Inv cfg (step cfg s (.inhibit now r)) := by
  by_cases hr : r.type &&& InhibitType.SCREENSAVER = InhibitType.NONE
  · have hdo : doInhibit cfg now r s.world.obj.sub = (.error .unsupportedType, s.world.obj.sub) :=
      if_pos hr
    have hinhibit := InhibitInterface.inhibit_error (overrides cfg) hdo
    unfold step
    dsimp only
    rw [hinhibit]
    exact h.keep (f := s.world.obj.sub) rfl ⟨_, _, rfl⟩
  set n := s.world.obj.sub.lastUsInhibit.toNat + 1 with hn
  have hbound : n < 2 ^ 32 := hlegal.2
  have hcount : (s.world.obj.sub.lastUsInhibit + 1).toNat = n := by
    rw [UInt32.toNat_add, show (1 : UInt32).toNat = 1 from rfl, Nat.mod_eq_of_lt hbound]
  -- no inhibit has had the name before
  have hnew : usName n ∉ s.world.obj.sub.simThreads := by
    rw [h.threads]
    intro hmem
    obtain ⟨id, hid, hsender⟩ := List.mem_map.mp hmem
    obtain ⟨m, hm, heq⟩ := h.ids id hid
    rw [heq, senderOf_mkId cfg (fits_usName (by omega))] at hsender
    have hmn := usName_inj (by omega) hbound hsender
    omega
  set f : CinnamonFields :=
    emplaceThread (usName n) { s.world.obj.sub with
      lastUsInhibit := s.world.obj.sub.lastUsInhibit + 1 } with hf
  set i : Inhibit := { r with
    type := InhibitType.SCREENSAVER, id := mkId cfg (usName n), created := now }
  have hdo : doInhibit cfg now r s.world.obj.sub = (.ok i, f) := by
    unfold doInhibit
    rw [if_neg hr, hmon]
    dsimp only
    rw [if_pos rfl, hcount]
    rfl
  have hok := (InhibitInterface.inhibit_ok (overrides cfg) hdo).1
  have hsub := noEvents.inhibit_sub hdo
  have hsender : senderOf i.id = usName n := senderOf_mkId cfg (fits_usName hbound)
  rcases hrun : InhibitInterface.inhibit (overrides cfg) now r s.world.obj with ⟨res, o⟩
  rw [hrun] at hok hsub
  dsimp only at hok hsub
  subst hok
  unfold step
  dsimp only
  rw [hrun]
  constructor
  case ids =>
    intro id hid
    show ∃ m, m ≤ o.sub.lastUsInhibit.toNat ∧ _
    rw [hsub, show f.lastUsInhibit.toNat = n from hcount]
    rcases List.mem_append.mp hid with hid | hid
    · obtain ⟨m, hm, heq⟩ := h.ids id hid
      exact ⟨m, by omega, heq⟩
    · exact ⟨n, le_refl n, List.mem_singleton.mp hid⟩
  case nodup =>
    show (List.map senderOf (s.forwarded ++ [i.id])).Nodup
    rw [List.map_append, List.map_singleton, hsender]
    apply List.Nodup.append h.nodup (List.nodup_singleton _)
    intro x hx hx'
    rw [List.mem_singleton.mp hx'] at hx
    exact hnew ((h.threads _).mpr hx)
  case threads =>
    intro sender
    show sender ∈ o.sub.simThreads ↔ sender ∈ List.map senderOf (s.forwarded ++ [i.id])
    rw [hsub, List.map_append, List.map_singleton, hsender, List.mem_append, List.mem_singleton,
      ← h.threads, hf]
    unfold emplaceThread
    rw [StdMap.mem_insertIfNew, or_comm]
  case running =>
    -- the name is new, so `emplace` has kept the thread it started
    intro thread
    show Running o.sub thread → ∃ sender : Bytes, o.sub.simThreads[sender]? = some thread
    rw [hsub, hf]
    unfold emplaceThread Running
    dsimp only
    rw [if_neg hnew, List.append_nil]
    intro hrunning
    by_cases hlast : thread = s.world.obj.sub.started
    · refine ⟨usName n, ?_⟩
      rw [StdMap.getElem?_insertIfNew, if_pos, hlast]
      refine ⟨rfl, ?_⟩
      exact Std.ExtTreeMap.getElem?_eq_none hnew
    · obtain ⟨sender, hsender⟩ := h.running thread ⟨by omega, hrunning.2⟩
      refine ⟨sender, ?_⟩
      rw [StdMap.getElem?_insertIfNew, if_neg, hsender]
      intro hpair
      have hmem : sender ∈ s.world.obj.sub.simThreads := (StdMap.mem_iff _ _).mpr ⟨thread, hsender⟩
      rw [hpair.1] at hmem
      exact hnew hmem

lemma map_erase_nodup {α β : Type} [BEq α] [LawfulBEq α] {f : α → β} {xs : List α}
    (h : (xs.map f).Nodup) {x : α} (hx : x ∈ xs) :
    ((xs.erase x).map f).Nodup ∧ ∀ y, y ∈ (xs.erase x).map f ↔ y ∈ xs.map f ∧ y ≠ f x := by
  have hperm : (xs.map f).Perm (f x :: (xs.erase x).map f) := (List.perm_cons_erase hx).map f
  obtain ⟨hnot, hnodup⟩ := List.nodup_cons.mp (hperm.nodup_iff.mp h)
  refine ⟨hnodup, fun y => ?_⟩
  rw [hperm.mem_iff, List.mem_cons]
  constructor
  · intro hy
    refine ⟨.inr hy, fun heq => ?_⟩
    rw [heq] at hy
    exact hnot hy
  · intro hy
    exact hy.1.resolve_left hy.2

/-- The release of an active inhibit stops its thread. -/
lemma Inv.unInhibit (hmon : cfg.monitor = true) (h : Inv cfg s) {id : InhibitID}
    (hlegal : id ∈ s.forwarded) (hactive : id ∈ s.world.obj.activeInhibits) :
    Inv cfg (step cfg s (.unInhibit id)) := by
  obtain ⟨i, hi⟩ := (StdMap.mem_iff _ _).mp hactive
  have hmem : senderOf id ∈ s.world.obj.sub.simThreads :=
    (h.threads _).mpr (List.mem_map_of_mem hlegal)
  obtain ⟨thread, hthread⟩ := (StdMap.mem_iff _ _).mp hmem
  set f : CinnamonFields := { s.world.obj.sub with
    stopRequested := s.world.obj.sub.stopRequested ++ [thread]
    simThreads := s.world.obj.sub.simThreads.erase (senderOf id) }
  have hdo : doUnInhibit cfg s.world.obj.toBase id s.world.obj.sub = (.ok (), f) := by
    unfold doUnInhibit
    rw [hmon, if_pos rfl, hthread]
  have hsub : (step cfg s (.unInhibit id)).world.obj.sub = f := noEvents.unInhibit_sub hi hdo
  obtain ⟨hnodup, hsenders⟩ := map_erase_nodup h.nodup hlegal
  constructor
  case ids =>
    intro id' hid'
    rw [hsub]
    exact h.ids id' (List.mem_of_mem_erase hid')
  case nodup => exact hnodup
  case threads =>
    intro sender
    rw [hsub]
    refine (StdMap.mem_erase _ _ _).trans ?_
    rw [h.threads]
    exact (hsenders sender).symm
  case running =>
    -- of the threads only the one of `id` is asked to stop
    intro other
    rw [hsub]
    intro hrunning
    obtain ⟨hstarted, hstopped⟩ := hrunning
    have hstopped : other ∉ s.world.obj.sub.stopRequested ++ [thread] := hstopped
    rw [List.mem_append, List.mem_singleton, not_or] at hstopped
    obtain ⟨sender, hsender⟩ := h.running other ⟨hstarted, hstopped.1⟩
    refine ⟨sender, (StdMap.getElem?_erase _ _ _).trans ?_⟩
    rw [if_neg, hsender]
    intro heq
    rw [heq, hthread] at hsender
    cases hsender
    exact hstopped.2 rfl

/-- The release of an inhibit that has expired leaves its thread. -/
lemma Inv.not_followed (h : Inv cfg s) {id : InhibitID} (hlegal : id ∈ s.forwarded)
    (hactive : id ∉ s.world.obj.activeInhibits) : ¬ Followed (step cfg s (.unInhibit id)) := by
  intro hfollowed
  -- `unInhibit` finds nothing and does nothing
  have hsame : (step cfg s (.unInhibit id)).world.obj = s.world.obj := by
    unfold step InhibitInterface.unInhibit
    dsimp only
    rw [Std.ExtTreeMap.getElem?_eq_none hactive]
  have hthreads := hfollowed.1 (senderOf id)
  rw [hsame, h.threads] at hthreads
  have hgone := hthreads.mp (List.mem_map_of_mem hlegal)
  exact (((map_erase_nodup h.nodup hlegal).2 _).mp hgone).2 rfl

lemma foldl_clearOwner (ps : List (InhibitID × Inhibit)) (f : CinnamonFields) :
    ∃ m, ps.foldl (fun f p => (simActivity cfg).clearOwner ((simActivity cfg).sender p.1) f) f =
      { f with inhibitOwners := m } := by
  induction ps generalizing f with
  | nil => exact ⟨_, rfl⟩
  | cons p ps ih =>
    obtain ⟨m, hm⟩ := ih ((simActivity cfg).clearOwner ((simActivity cfg).sender p.1) f)
    exact ⟨m, hm⟩

lemma Inv.step (hmon : cfg.monitor = true) (h : Inv cfg s) {e : Event} (hlegal : Legal s e)
    (hactive : StillActive s e) : Inv cfg (CinnamonScreenSaverInhibitInterface.step cfg s e) := by
  cases e with
  | inhibit now r => exact h.inhibit hmon hlegal
  | unInhibit id => exact h.unInhibit hmon hlegal hactive
  | message now msg ret =>
    obtain ⟨w', hrun, -, hsub⟩ := SimActivity.handleSimActivityMsg_alone (C := simActivity cfg)
      (v := overrides cfg) noEvents now msg ret s.world
    rw [show (simActivity cfg).monitor = cfg.monitor from rfl, hmon] at hsub
    have hstep : CinnamonScreenSaverInhibitInterface.step cfg s (.message now msg ret) =
        { s with world := w', clock := now } :=
      congrArg (fun r : Outcome (Alone CinnamonFields) Unit =>
        ({ s with world := r.2, clock := now } : Run)) hrun
    rw [hstep]
    exact h.keep hsub ⟨_, _, rfl⟩
  | poll now =>
    obtain ⟨w', hrun, -, hsub⟩ := SimActivity.poll_alone (C := simActivity cfg)
      (v := overrides cfg) noEvents now s.world
    obtain ⟨m, hm⟩ := foldl_clearOwner ((simActivity cfg).expiredIn now s.world.obj.toBase)
      s.world.obj.sub
    have hstep : CinnamonScreenSaverInhibitInterface.step cfg s (.poll now) =
        { s with world := w', clock := now } :=
      congrArg (fun r : Outcome (Alone CinnamonFields) Unit =>
        ({ s with world := r.2, clock := now } : Run)) hrun
    rw [hstep]
    exact h.keep (hsub.trans hm) ⟨_, _, rfl⟩

/-- The threads follow the forwarded inhibits through a whole run if and only if each inhibit is
still active when the daemon releases it. -/
theorem threads_follow_iff {cfg : CinnamonConfig} (hmon : cfg.monitor = true) {es : List Event}
    (hes : Transition.Along (step cfg) Legal { world := { obj := { sub := {} } } } es) :
    Transition.Along (step cfg) (fun s e => Followed (step cfg s e))
        { world := { obj := { sub := {} } } } es ↔
      Transition.Along (step cfg) StillActive { world := { obj := { sub := {} } } } es := by
  have hstart : Inv cfg { world := { obj := { sub := {} } } } := by
    refine ⟨fun id hid => absurd hid List.not_mem_nil, List.nodup_nil, fun sender => ?_,
      fun thread hrunning => absurd hrunning.1 (Nat.not_lt_zero _)⟩
    simp
  constructor
  · intro hfollowed
    refine Transition.along_imp hstart (fun s e h hok hactive => h.step hmon hok hactive)
      (fun s e h hok hf => ?_) hes hfollowed
    cases e with
    | unInhibit id =>
      by_contra hactive
      exact h.not_followed hok hactive hf
    | _ => trivial
  · intro hactive
    have hrun := Transition.along_and.mpr ⟨hes, hactive⟩
    refine Transition.along_imp hstart (fun s e h hok _ => h.step hmon hok.1 hok.2)
      (fun s e h hok _ => (h.step hmon hok.1 hok.2).followed) hrun hrun

/-- An inhibit that is released six minutes after it was made. -/
theorem threads_follow_fails :
    let cfg : CinnamonConfig := { instanceId := 0, monitor := true }
    let r : InhibitRequest := { type := InhibitType.SCREENSAVER, appname := lit "a" }
    let es : List Event := [.inhibit 1000 r, .poll 1360, .unInhibit (mkId cfg (usName 1))]
    let s : Run := { world := { obj := { sub := {} } } }
    Transition.Along (step cfg) Legal s es ∧
      ¬ Transition.Along (step cfg) (fun s e => Followed (step cfg s e)) s es ∧
      (Transition.run (step cfg) s es).forwarded = [] ∧
      Running (Transition.run (step cfg) s es).world.obj.sub 0 := by
  intro cfg r es s
  have hrunning : Running (Transition.run (step cfg) s es).world.obj.sub 0 :=
    ⟨by decide +kernel, by decide +kernel⟩
  have hnil : (Transition.run (step cfg) s es).forwarded = [] := by decide +kernel
  have hforwarded : mkId cfg (usName 1) ∈
      (Transition.run (step cfg) s (es.take 2)).forwarded := by decide +kernel
  refine ⟨⟨⟨by decide, by decide⟩, ?_, hforwarded, trivial⟩, fun h => ?_, hnil, hrunning⟩
  · show 1000 ≤ 1360
    omega
  · exact h.2.2.1.2 hnil 0 hrunning

/-- An inhibit that is released in time, while a client's activity comes and goes. -/
theorem threads_follow_in_time :
    let cfg : CinnamonConfig := { instanceId := 0, monitor := true }
    let r : InhibitRequest := { type := InhibitType.SCREENSAVER, appname := lit "a" }
    let msg : Message := { type := .methodCall, sender := lit ":1.5" }
    let es : List Event := [.inhibit 1000 r, .message 1000 msg none, .poll 1200,
      .unInhibit (mkId cfg (usName 1)), .poll 1400]
    Transition.Along (step cfg) (fun s e => Followed (step cfg s e))
      { world := { obj := { sub := {} } } } es := by
  intro cfg r msg es
  have hname : ClientName msg.sender := ⟨by decide, by decide, by decide⟩
  have hforwarded : mkId cfg (usName 1) ∈ (Transition.run (step cfg)
      { world := { obj := { sub := {} } } } (es.take 3)).forwarded := by decide +kernel
  have hactive : mkId cfg (usName 1) ∈ (Transition.run (step cfg)
      { world := { obj := { sub := {} } } } (es.take 3)).world.obj.activeInhibits := by
    decide +kernel
  refine (threads_follow_iff rfl ?_).mpr ?_
  · refine ⟨⟨by decide, by decide⟩, ⟨?_, hname⟩, ?_, hforwarded, ?_, trivial⟩
    · show 1000 ≤ 1000
      omega
    · show 1000 ≤ 1200
      omega
    · show 1200 ≤ 1400
      omega
  · have hsplit : es = es.take 3 ++ es.drop 3 := rfl
    rw [hsplit]
    refine Transition.along_append.mpr ⟨⟨trivial, trivial, trivial, trivial⟩, ?_⟩
    exact ⟨hactive, trivial, trivial⟩

end CinnamonScreenSaverInhibitInterface
end UnifiedInhibit
