import UnifiedInhibit.Daemon

/-!
# Forwarding bookkeeping of the daemon

`releasePlan` must stay in step with the `activeInhibits` of every interface. `forward_spec` says
once what the forwarding loop does (`Forwarded`) and `release_spec` what the releasing loop does;
`Linked` is the invariant that ties `releasePlan` to the interfaces, and every step keeps it
(`Linked.registerInhibit`, `Linked.registerUnInhibit`).
-/

namespace UnifiedInhibit
namespace Daemon

variable {σ : Type} {v : ℕ → Overrides σ}

/-! ## One call at one interface -/

/-- `doInhibit` of every interface returns or refuses the type. -/
def InhibitsOrRefuses (v : ℕ → Overrides σ) : Prop :=
  ∀ k now r s, (∃ i, ((v k).doInhibit now r s).1 = .ok i) ∨
    ((v k).doInhibit now r s).1 = .error .unsupportedType

/-- `doUnInhibit` of every interface returns. -/
def UnInhibits (v : ℕ → Overrides σ) : Prop :=
  ∀ k b id s, ((v k).doUnInhibit b id s).1 = .ok ()

@[simp] lemma planOf_inhibitAt (now ai : ℕ) (r : InhibitRequest) (d : Daemon σ) (o : InhibitID) :
    (inhibitAt v now ai r d).2.planOf o = d.planOf o := rfl

@[simp] lemma planOf_unInhibitAt (ai : ℕ) (id : InhibitID) (d : Daemon σ) (o : InhibitID) :
    (unInhibitAt v ai id d).2.planOf o = d.planOf o := rfl

/-- What `inhibitAt` leaves active, by the object that `inhibit` leaves. -/
lemma active_inhibitAt (now ai : ℕ) (r : InhibitRequest) (d : Daemon σ) (k : ℕ)
    (id : InhibitID) :
    (inhibitAt v now ai r d).2.active k id =
      if k = ai then ((d.object ai).inhibit (v ai) now r).2.activeInhibits[id]?
      else d.active k id :=
  active_setObject d ai _ k id

/-- An `inhibitAt` that returns has put its inhibit under a free id. -/
lemma active_inhibitAt_ok {now ai : ℕ} {r : InhibitRequest} {d : Daemon σ} {ii : Inhibit}
    (h : (inhibitAt v now ai r d).1 = .ok ii) (k : ℕ) (id : InhibitID) :
    (inhibitAt v now ai r d).2.active k id =
      if k = ai ∧ id = ii.id ∧ d.active ai ii.id = none then some ii else d.active k id := by
  rw [active_inhibitAt]
  cases hdo : (v ai).doInhibit now r (d.object ai).sub with
  | mk res s =>
    cases res with
    | error e =>
      simp only [inhibitAt, InhibitInterface.inhibit_error _ hdo] at h
      cases h
    | ok c =>
      obtain ⟨hres, hact⟩ := InhibitInterface.inhibit_ok (v ai) hdo
      have hc : c = ii := by
        simp only [inhibitAt, hres] at h
        exact Except.ok.inj h
      subst hc
      rw [hact]
      unfold active
      grind

/-- An `inhibitAt` that throws leaves what is active alone. -/
lemma active_inhibitAt_error {now ai : ℕ} {r : InhibitRequest} {d : Daemon σ} {e : Exn}
    (h : (inhibitAt v now ai r d).1 = .error e) (k : ℕ) (id : InhibitID) :
    (inhibitAt v now ai r d).2.active k id = d.active k id := by
  rw [active_inhibitAt]
  cases hdo : (v ai).doInhibit now r (d.object ai).sub with
  | mk res s =>
    cases res with
    | error e' =>
      rw [InhibitInterface.inhibit_error _ hdo]
      split
      · rename_i hk
        rw [hk]
        rfl
      · rfl
    | ok c =>
      obtain ⟨hres, _⟩ := InhibitInterface.inhibit_ok (v ai) hdo
      simp only [inhibitAt, hres] at h
      cases h

/-- Under `InhibitsOrRefuses`, `inhibitAt` returns or refuses. -/
lemma inhibitAt_cases (hin : InhibitsOrRefuses v) (now ai : ℕ) (r : InhibitRequest)
    (d : Daemon σ) :
    (∃ ii, (inhibitAt v now ai r d).1 = .ok ii) ∨
      (inhibitAt v now ai r d).1 = .error .unsupportedType := by
  rcases hin ai now r (d.object ai).sub with ⟨ii, h⟩ | h
  · exact Or.inl ⟨ii, (InhibitInterface.inhibit_ok (v ai) (Prod.ext h rfl)).1⟩
  · exact Or.inr (congrArg Prod.fst (InhibitInterface.inhibit_error (v ai) (Prod.ext h rfl)))

/-- Under `UnInhibits`, `unInhibitAt` returns and erases one id at one interface. -/
lemma unInhibitAt_spec (hun : UnInhibits v) (ai : ℕ) (id : InhibitID) (d : Daemon σ) :
    (unInhibitAt v ai id d).1 = .ok () ∧
      ∀ k j, (unInhibitAt v ai id d).2.active k j =
        if (k, j) = (ai, id) then none else d.active k j := by
  obtain ⟨hres, hact⟩ :=
    InhibitInterface.unInhibit_ok (v ai) id (d.object ai) fun b s => hun ai b id s
  refine ⟨hres, fun k j => ?_⟩
  have h := active_setObject d ai ((d.object ai).unInhibit (v ai) id).2 k j
  rw [hact] at h
  refine h.trans ?_
  unfold active
  grind

/-! ## The two loops -/

/-- The id contract along the forwarding loop: an id that `doInhibit` returns is not in use at
any interface. -/
def ForwardFresh (v : ℕ → Overrides σ) (now inhibitor : ℕ) (inhibit : Inhibit) :
    List ℕ → Daemon σ → Prop
  | [], _ => True
  | ai :: ais, d =>
    if ai ≠ inhibitor then
      match inhibitAt v now ai inhibit.toInhibitRequest d with
      | (.ok c, d') =>
        ¬ d.InUse c.id ∧
          ForwardFresh v now inhibitor inhibit ais (d'.pushRelease inhibit.id (ai, c.id))
      | (.error _, d') => ForwardFresh v now inhibitor inhibit ais d'
    else ForwardFresh v now inhibitor inhibit ais d

/-- What forwarding the inhibit `o` of `inhibitor` does: each of `copies` becomes active at its
interface under an id that was free, and is planned for release with `o`. -/
structure Forwarded (inhibitor : ℕ) (o : InhibitID) (copies : List (ℕ × Inhibit))
    (d d' : Daemon σ) : Prop where
  fresh : ∀ p ∈ copies, ¬ d.InUse p.2.id
  distinct : (copies.map fun p => p.2.id).Nodup
  others : ∀ p ∈ copies, p.1 ≠ inhibitor
  copied : ∀ p ∈ copies, d'.active p.1 p.2.id = some p.2
  kept : ∀ k id, (∀ p ∈ copies, (p.1, p.2.id) ≠ (k, id)) → d'.active k id = d.active k id
  plan : ∀ o', d'.planOf o' =
    if o' = o then d.planOf o ++ copies.map (fun p => (p.1, p.2.id)) else d.planOf o'

lemma Forwarded.nil (inhibitor : ℕ) (o : InhibitID) (d : Daemon σ) :
    Forwarded inhibitor o [] d d where
  fresh := by simp
  distinct := by simp
  others := by simp
  copied := by simp
  kept := fun _ _ _ => rfl
  plan := fun o' => by
    split
    · rename_i h
      rw [h, List.map_nil, List.append_nil]
    · rfl

/-- One more forward in front of the rest of the loop. -/
lemma Forwarded.cons {inhibitor ai : ℕ} {o : InhibitID} {c : Inhibit}
    {copies : List (ℕ × Inhibit)} {d d₁ d' : Daemon σ} (hai : ai ≠ inhibitor)
    (hfresh : ¬ d.InUse c.id)
    (hact : ∀ k id, d₁.active k id = if k = ai ∧ id = c.id then some c else d.active k id)
    (hplan : ∀ o', d₁.planOf o' = if o' = o then d.planOf o ++ [(ai, c.id)] else d.planOf o')
    (h : Forwarded inhibitor o copies d₁ d') : Forwarded inhibitor o ((ai, c) :: copies) d d' := by
  -- what was in use before the first forward is in use after it, and so is the new id
  have hmono : ∀ id, d.InUse id → d₁.InUse id := by
    rintro id ⟨k, hk⟩
    refine ⟨k, ?_⟩
    rw [hact]
    split
    · rfl
    · exact hk
  have hnew : d₁.InUse c.id := ⟨ai, by rw [hact, if_pos ⟨rfl, rfl⟩]; rfl⟩
  have hne : ∀ p ∈ copies, p.2.id ≠ c.id := fun p hp heq => h.fresh p hp (heq ▸ hnew)
  refine ⟨?_, ?_, ?_, ?_, ?_, ?_⟩
  · intro p hp
    rcases List.mem_cons.mp hp with rfl | hp
    · exact hfresh
    · exact fun huse => h.fresh p hp (hmono _ huse)
  · rw [List.map_cons, List.nodup_cons]
    refine ⟨fun hmem => ?_, h.distinct⟩
    obtain ⟨p, hp, heq⟩ := List.mem_map.mp hmem
    exact hne p hp heq
  · intro p hp
    rcases List.mem_cons.mp hp with rfl | hp
    · exact hai
    · exact h.others p hp
  · intro p hp
    rcases List.mem_cons.mp hp with rfl | hp
    · rw [h.kept ai c.id fun p hp heq => hne p hp (congrArg Prod.snd heq), hact,
        if_pos ⟨rfl, rfl⟩]
    · exact h.copied p hp
  · intro k id hk
    rw [h.kept k id fun p hp => hk p (List.mem_cons_of_mem _ hp), hact, if_neg]
    rintro ⟨rfl, rfl⟩
    exact hk (k, c) List.mem_cons_self rfl
  · intro o'
    rw [h.plan, hplan, hplan, if_pos rfl]
    split
    · rw [List.map_cons, List.append_assoc, List.singleton_append]
    · rfl

/-- The forwarding loop returns and forwards to some of the interfaces of the list. -/
lemma forward_spec (hin : InhibitsOrRefuses v) (now inhibitor : ℕ) (inhibit : Inhibit) :
    ∀ (ais : List ℕ) (d : Daemon σ), ForwardFresh v now inhibitor inhibit ais d →
      (forward v now inhibitor inhibit ais d).1 = .ok () ∧
        ∃ copies, Forwarded inhibitor inhibit.id copies d
          (forward v now inhibitor inhibit ais d).2 := by
  intro ais
  induction ais with
  | nil => exact fun d _ => ⟨rfl, [], Forwarded.nil _ _ _⟩
  | cons ai ais ih =>
    intro d hf
    unfold ForwardFresh at hf
    unfold forward
    by_cases hai : ai ≠ inhibitor
    · rw [if_pos hai] at hf ⊢
      rcases inhibitAt_cases hin now ai inhibit.toInhibitRequest d with ⟨c, hc⟩ | hrefuse
      · have hact := active_inhibitAt_ok hc
        rcases hat : inhibitAt v now ai inhibit.toInhibitRequest d with ⟨res, d₁⟩
        rw [hat] at hc hf hact
        dsimp only at hc
        subst hc
        -- the contract makes the copy's id new
        have hfree : d.active ai c.id = none := by
          by_contra hsome
          exact hf.1 ⟨ai, Option.isSome_iff_ne_none.mpr hsome⟩
        obtain ⟨hok, copies, hcopies⟩ := ih _ hf.2
        refine ⟨hok, (ai, c) :: copies, Forwarded.cons hai hf.1 ?_ ?_ hcopies⟩
        · intro k id
          rw [active_pushRelease, hact]
          simp only [hfree, and_true]
        · intro o'
          have hp : ∀ o, d₁.planOf o = d.planOf o := fun o => by
            rw [← planOf_inhibitAt (v := v) now ai inhibit.toInhibitRequest d o, hat]
          rw [planOf_pushRelease, hp, hp]
      · -- the interface refuses the type, and the loop goes on with nothing recorded
        have hact := active_inhibitAt_error hrefuse
        rcases hat : inhibitAt v now ai inhibit.toInhibitRequest d with ⟨res, d₁⟩
        rw [hat] at hrefuse hf hact
        dsimp only at hrefuse
        subst hrefuse
        obtain ⟨hok, copies, hcopies⟩ := ih _ hf
        have hp : ∀ o, d₁.planOf o = d.planOf o := fun o => by
          rw [← planOf_inhibitAt (v := v) now ai inhibit.toInhibitRequest d o, hat]
        refine ⟨hok, copies, ⟨?_, hcopies.distinct, hcopies.others, hcopies.copied, ?_, ?_⟩⟩
        · rintro p hmem ⟨k, hk⟩
          exact hcopies.fresh p hmem ⟨k, by rw [hact]; exact hk⟩
        · intro k id hk
          rw [hcopies.kept k id hk, hact]
        · intro o'
          rw [hcopies.plan, hp, hp]
    · rw [if_neg hai] at hf ⊢
      exact ih d hf

/-- The releasing loop returns and erases exactly the pairs of its list. -/
lemma release_spec (hun : UnInhibits v) (rs : List (ℕ × InhibitID)) (d : Daemon σ) :
    (release v rs d).1 = .ok () ∧
      (∀ k id, (release v rs d).2.active k id =
        if (k, id) ∈ rs then none else d.active k id) ∧
      ∀ o, (release v rs d).2.planOf o = d.planOf o := by
  induction rs generalizing d with
  | nil => exact ⟨rfl, fun _ _ => rfl, fun _ => rfl⟩
  | cons r rs ih =>
    obtain ⟨hok, hact⟩ := unInhibitAt_spec hun r.1 r.2 d
    have hplan := planOf_unInhibitAt (v := v) r.1 r.2 d
    unfold release
    rcases hat : unInhibitAt v r.1 r.2 d with ⟨res, d₁⟩
    rw [hat] at hok hact hplan
    dsimp only at hok
    subst hok
    obtain ⟨hrok, hract, hrplan⟩ := ih d₁
    refine ⟨hrok, fun k id => ?_, fun o => (hrplan o).trans (hplan o)⟩
    rw [hract, hact]
    simp only [List.mem_cons, Prod.mk.eta]
    split_ifs <;> tauto

/-- The interface takes each request of the type. -/
def Accepts (v : ℕ → Overrides σ) (j : ℕ) (t : InhibitType) : Prop :=
  ∀ now r s, r.type = t → ∃ i, ((v j).doInhibit now r s).1 = .ok i

/-- Where the copies are made: at most once for each interface of the list, and at each one that
takes the type. -/
lemma forward_places (hin : InhibitsOrRefuses v) (now inhibitor : ℕ) (inhibit : Inhibit)
    (ais : List ℕ) (d : Daemon σ) :
    (forward v now inhibitor inhibit ais d).1 = .ok () ∧
      (forward v now inhibitor inhibit ais d).2.inhibitors = d.inhibitors ∧
      ∃ ps : List (ℕ × InhibitID),
        (∀ o, (forward v now inhibitor inhibit ais d).2.planOf o =
          if o = inhibit.id then d.planOf inhibit.id ++ ps else d.planOf o) ∧
        (ps.map Prod.fst).Sublist ais ∧
        ∀ j ∈ ais, j ≠ inhibitor → Accepts v j inhibit.type → j ∈ ps.map Prod.fst := by
  induction ais generalizing d with
  | nil =>
    refine ⟨rfl, rfl, [], fun o => ?_, List.Sublist.refl _, fun j hj => absurd hj List.not_mem_nil⟩
    rw [List.append_nil]
    split
    · rename_i h
      rw [h]
      rfl
    · rfl
  | cons ai ais ih =>
    unfold forward
    by_cases hai : ai ≠ inhibitor
    · rw [if_pos hai]
      have hplan := planOf_inhibitAt (v := v) now ai inhibit.toInhibitRequest d
      rcases hat : inhibitAt v now ai inhibit.toInhibitRequest d with ⟨res, d₁⟩
      have hinh : d₁.inhibitors = d.inhibitors := by
        have h := congrArg (fun x => x.2.inhibitors) hat
        exact h.symm
      have hres : (inhibitAt v now ai inhibit.toInhibitRequest d).1 = res := by rw [hat]
      rw [hat] at hplan
      rcases inhibitAt_cases hin now ai inhibit.toInhibitRequest d with ⟨c, hc⟩ | hrefuse
      · rw [hres] at hc
        subst hc
        obtain ⟨hok, hinh', ps, hps, hsub, hacc⟩ := ih (d₁.pushRelease inhibit.id (ai, c.id))
        refine ⟨hok, hinh'.trans hinh, (ai, c.id) :: ps, fun o => ?_, hsub.cons_cons ai,
          fun j hj hne hj' => ?_⟩
        · dsimp only
          rw [hps, planOf_pushRelease, planOf_pushRelease, if_pos rfl, hplan, List.append_assoc,
            List.singleton_append]
          split
          · rfl
          · exact hplan o
        · rcases List.mem_cons.mp hj with heq | hj
          · rw [heq, List.map_cons]
            exact List.mem_cons_self
          · exact List.mem_cons_of_mem _ (hacc j hj hne hj')
      · have hrefuse' := hrefuse
        rw [hres] at hrefuse
        subst hrefuse
        obtain ⟨hok, hinh', ps, hps, hsub, hacc⟩ := ih d₁
        refine ⟨hok, hinh'.trans hinh, ps, fun o => ?_, hsub.cons ai, fun j hj hne hj' => ?_⟩
        · dsimp only
          rw [hps, hplan, hplan]
        · rcases List.mem_cons.mp hj with heq | hj
          · -- an interface that takes the type does not refuse it
            obtain ⟨i, hi⟩ := hj' now inhibit.toInhibitRequest (d.object j).sub rfl
            rw [heq] at hi
            have hok := (InhibitInterface.inhibit_ok (v ai) (Prod.ext hi rfl)).1
            exact absurd (hok.symm.trans hrefuse') (by simp)
          · exact hacc j hj hne hj'
    · -- the originator is left out
      rw [if_neg hai]
      obtain ⟨hok, hinh, ps, hps, hsub, hacc⟩ := ih d
      refine ⟨hok, hinh, ps, hps, hsub.cons ai, fun j hj hne hj' => ?_⟩
      rcases List.mem_cons.mp hj with heq | hj
      · exact absurd (heq.trans (not_not.mp hai)) hne
      · exact hacc j hj hne hj'

/-! ## Registering and unregistering -/

/-- `activeInhibits.insert({i.id, i})` at the interface `k`. -/
def insertActive (k : ℕ) (i : Inhibit) (d : Daemon σ) : Daemon σ :=
  (this k).modify
    (fun o => { o with activeInhibits := o.activeInhibits.insertIfNew i.id i }) d

lemma active_insertActive (k : ℕ) (i : Inhibit) (d : Daemon σ) (j : ℕ) (id : InhibitID) :
    (d.insertActive k i).active j id =
      if j = k ∧ id = i.id ∧ d.active k i.id = none then some i else d.active j id := by
  refine (active_setObject d k _ j id).trans ?_
  unfold active
  simp only [this]
  grind

/-- The event hooks change nothing that is active. -/
lemma active_callEvent (k : ℕ) (b : Bool) (i : Inhibit) (d : Daemon σ) (j : ℕ)
    (id : InhibitID) :
    ((this k).modify (InhibitInterface.callEvent (v k) b i) d).active j id = d.active j id := by
  refine (active_setObject d k _ j id).trans ?_
  simp only [InhibitInterface.callEvent_activeInhibits]
  split
  · rename_i h
    rw [h]
    rfl
  · rfl

lemma Forwarded.congr_right {inhibitor : ℕ} {o : InhibitID} {copies : List (ℕ × Inhibit)}
    {d d' d'' : Daemon σ} (h : Forwarded inhibitor o copies d d')
    (hact : ∀ k id, d''.active k id = d'.active k id) (hplan : ∀ p, d''.planOf p = d'.planOf p) :
    Forwarded inhibitor o copies d d'' where
  fresh := h.fresh
  distinct := h.distinct
  others := h.others
  copied p hp := (hact _ _).trans (h.copied p hp)
  kept k id hk := (hact _ _).trans (h.kept k id hk)
  plan o' := (hplan o').trans (h.plan o')

/-- What `registerInhibit` leaves when the loop returns. -/
lemma registerInhibit_eq {now k : ℕ} {i : Inhibit} {d : Daemon σ}
    (h : (forward v now k i d.inhibitors (d.insertActive k i)).1 = .ok ()) :
    registerInhibit v now k i d =
      (.ok (), (this k).modify (InhibitInterface.callEvent (v k) true i)
        (forward v now k i d.inhibitors (d.insertActive k i)).2.printInhibited) := by
  -- the callback runs the loop over the interfaces the insertion left as they were
  have hcb : inhibitCB v now k i (d.insertActive k i) =
      (.ok (), (forward v now k i d.inhibitors (d.insertActive k i)).2.printInhibited) := by
    unfold inhibitCB
    rw [show (d.insertActive k i).inhibitors = d.inhibitors from rfl]
    rcases hfw : forward v now k i d.inhibitors (d.insertActive k i) with ⟨res, d'⟩
    rw [hfw] at h
    dsimp only at h
    subst h
    rfl
  unfold registerInhibit This.registerInhibit
  simp only [callbacks]
  rw [show (this k).modify _ d = d.insertActive k i from rfl, hcb]

/-- `registerInhibit` inserts the inhibit at its interface and forwards it. -/
lemma registerInhibit_spec (hin : InhibitsOrRefuses v) (now k : ℕ) (i : Inhibit) (d : Daemon σ)
    (hf : ForwardFresh v now k i d.inhibitors (d.insertActive k i)) :
    (registerInhibit v now k i d).1 = .ok () ∧
      ∃ copies, Forwarded k i.id copies (d.insertActive k i) (registerInhibit v now k i d).2 := by
  obtain ⟨hok, copies, hcopies⟩ := forward_spec hin now k i d.inhibitors _ hf
  rw [registerInhibit_eq hok]
  refine ⟨rfl, copies, hcopies.congr_right (fun j id => ?_) fun p => ?_⟩
  · rw [active_callEvent, active_printInhibited]
  · exact planOf_printInhibited _ p

/-- `registerInhibit` plans its copies behind those that are planned already. -/
lemma registerInhibit_places (hin : InhibitsOrRefuses v) (now k : ℕ) (i : Inhibit)
    (d : Daemon σ) :
    (registerInhibit v now k i d).2.inhibitors = d.inhibitors ∧
      ∃ ps : List (ℕ × InhibitID),
        (∀ o, (registerInhibit v now k i d).2.planOf o =
          if o = i.id then d.planOf i.id ++ ps else d.planOf o) ∧
        (ps.map Prod.fst).Sublist d.inhibitors ∧
        ∀ j ∈ d.inhibitors, j ≠ k → Accepts v j i.type → j ∈ ps.map Prod.fst := by
  obtain ⟨hok, hinh, ps, hps, hplaces⟩ :=
    forward_places hin now k i d.inhibitors (d.insertActive k i)
  rw [registerInhibit_eq hok]
  refine ⟨?_, ps, fun o => ?_, hplaces⟩
  · rw [printInhibited_eq]
    exact hinh
  · exact (planOf_printInhibited _ o).trans (hps o)

lemma registerUnInhibit_none (now : ℕ) {k : ℕ} {id : InhibitID} {d : Daemon σ}
    (h : d.active k id = none) : registerUnInhibit v now k id d = (.ok (), d) := by
  unfold registerUnInhibit This.registerUnInhibit
  rw [show ((this k).get d).activeInhibits[id]? = none from h]

/-- `registerUnInhibit` of an active id erases it with all its planned copies, and its plan. -/
lemma registerUnInhibit_spec (hun : UnInhibits v) (now k : ℕ) {o : InhibitID} {mid : Inhibit}
    {d : Daemon σ} (hmid : d.active k o = some mid) (hkey : mid.id = o) :
    (registerUnInhibit v now k o d).1 = .ok () ∧
      (∀ j id, (registerUnInhibit v now k o d).2.active j id =
        if (j, id) = (k, o) ∨ (j, id) ∈ d.planOf o then none else d.active j id) ∧
      ∀ p, (registerUnInhibit v now k o d).2.planOf p = if p = o then [] else d.planOf p := by
  subst hkey
  set d₁ := (this k).modify
    (fun ob => { ob with activeInhibits := ob.activeInhibits.erase mid.id }) d with hd₁
  have hact₁ : ∀ j id, d₁.active j id = if (j, id) = (k, mid.id) then none else d.active j id := by
    intro j id
    refine (active_setObject d k _ j id).trans ?_
    unfold active
    simp only [this]
    grind
  have hplan₁ : ∀ p, d₁.planOf p = d.planOf p := fun _ => rfl
  -- what the callback leaves
  have hcb : ∃ d₂, unInhibitCB v mid d₁ = (.ok (), d₂) ∧
      (∀ j id, d₂.active j id = if (j, id) ∈ d.planOf mid.id then none else d₁.active j id) ∧
      ∀ p, d₂.planOf p = if p = mid.id then [] else d.planOf p := by
    unfold unInhibitCB
    cases hpl : d₁.releasePlan[mid.id]? with
    | none =>
      have hnil : d.planOf mid.id = [] := by
        rw [← hplan₁]
        unfold planOf
        rw [hpl]
        rfl
      refine ⟨_, rfl, fun j id => ?_, fun p => ?_⟩
      · rw [active_printInhibited, hnil, if_neg List.not_mem_nil]
      · rw [planOf_printInhibited, hplan₁]
        split
        · rename_i h
          rw [h, hnil]
        · rfl
    | some plan =>
      have hplan : d.planOf mid.id = plan := by
        rw [← hplan₁]
        unfold planOf
        rw [hpl]
        rfl
      obtain ⟨hok, hact, hkeep⟩ := release_spec hun plan d₁
      dsimp only
      rcases hrel : release v plan d₁ with ⟨res, d₂⟩
      rw [hrel] at hok hact hkeep
      dsimp only at hok
      subst hok
      refine ⟨_, rfl, fun j id => ?_, fun p => ?_⟩
      · rw [active_printInhibited, hplan]
        exact hact j id
      · rw [planOf_printInhibited, ← hplan₁, ← hkeep]
        unfold planOf
        grind
  obtain ⟨d₂, hcb, hact₂, hplan₂⟩ := hcb
  have hreg : registerUnInhibit v now k mid.id d =
      (.ok (), (this k).modify (InhibitInterface.callEvent (v k) false mid) d₂) := by
    unfold registerUnInhibit This.registerUnInhibit
    rw [show ((this k).get d).activeInhibits[mid.id]? = some mid from hmid]
    dsimp only [callbacks]
    rw [← hd₁, hcb]
  rw [hreg]
  refine ⟨rfl, fun j id => ?_, fun p => hplan₂ p⟩
  rw [active_callEvent, hact₂, hact₁]
  split_ifs <;> tauto

lemma inhibitors_release (rs : List (ℕ × InhibitID)) (d : Daemon σ) :
    (release v rs d).2.inhibitors = d.inhibitors := by
  induction rs generalizing d with
  | nil => rfl
  | cons r rs ih =>
    have hat : (unInhibitAt v r.1 r.2 d).2.inhibitors = d.inhibitors := rfl
    unfold release
    split
    · rename_i heq
      rw [heq] at hat
      exact (ih _).trans hat
    · rename_i heq
      rw [heq] at hat
      exact (ih _).trans hat
    · rename_i heq
      rw [heq] at hat
      exact hat

lemma inhibitors_unInhibitCB (i : Inhibit) (d : Daemon σ) :
    (unInhibitCB v i d).2.inhibitors = d.inhibitors := by
  unfold unInhibitCB
  split
  · rw [printInhibited_eq]
  · rename_i plan _
    have hrelease := inhibitors_release (v := v) plan d
    split
    · rename_i heq
      rw [heq] at hrelease
      rw [printInhibited_eq]
      exact hrelease
    · rename_i heq
      rw [heq] at hrelease
      rw [printInhibited_eq]
      exact hrelease
    · rename_i heq
      rw [heq] at hrelease
      exact hrelease

lemma inhibitors_registerUnInhibit (now k : ℕ) (id : InhibitID) (d : Daemon σ) :
    (registerUnInhibit v now k id d).2.inhibitors = d.inhibitors := by
  unfold registerUnInhibit This.registerUnInhibit
  split
  · rfl
  · rename_i mid _
    have hcb := inhibitors_unInhibitCB (v := v) mid ((this k).modify
      (fun o => { o with activeInhibits := o.activeInhibits.erase id }) d)
    dsimp only [callbacks]
    split
    · rename_i heq
      rw [heq] at hcb
      exact hcb
    · rename_i heq
      rw [heq] at hcb
      exact hcb

/-- What `handleExit` goes through is what is planned. -/
lemma mem_plans (d : Daemon σ) (p : ℕ × InhibitID) :
    p ∈ d.releasePlan.toList.flatMap Prod.snd ↔ ∃ o, p ∈ d.planOf o := by
  simp only [List.mem_flatMap, Prod.exists, Std.ExtTreeMap.mem_toList_iff_getElem?_eq_some, planOf]
  constructor
  · rintro ⟨o, plan, hplan, hp⟩
    exact ⟨o, by rw [hplan]; exact hp⟩
  · rintro ⟨o, hp⟩
    cases hplan : d.releasePlan[o]? with
    | none => rw [hplan] at hp; exact absurd hp List.not_mem_nil
    | some plan => rw [hplan] at hp; exact ⟨o, plan, hplan, hp⟩

/-- Exiting releases every planned pair and keeps the rest. -/
lemma handleExit_spec (hun : UnInhibits v) (d : Daemon σ) :
    (handleExit v d).1 = .ok () ∧
      ∀ j id, ((∃ o, (j, id) ∈ d.planOf o) → (handleExit v d).2.active j id = none) ∧
        ((∀ o, (j, id) ∉ d.planOf o) → (handleExit v d).2.active j id = d.active j id) := by
  obtain ⟨hok, hact, _⟩ := release_spec hun (d.releasePlan.toList.flatMap Prod.snd) d
  unfold handleExit
  rcases hrel : release v (d.releasePlan.toList.flatMap Prod.snd) d with ⟨res, d₁⟩
  rw [hrel] at hok hact
  dsimp only at hok
  subst hok
  refine ⟨rfl, fun j id => ⟨fun hp => ?_, fun hp => ?_⟩⟩
  · exact (hact j id).trans (if_pos ((mem_plans d _).mpr hp))
  · exact (hact j id).trans (if_neg fun h => not_exists.mpr hp ((mem_plans d _).mp h))

/-! ## Runs of the wired daemon -/

/-- A call that the interface `k` makes on its own behalf. -/
inductive RegEvent where
  | registerInhibit (now k : ℕ) (i : Inhibit)
  | registerUnInhibit (now k : ℕ) (id : InhibitID)

/-- The daemon, and the pairs (interface, id) its interfaces have registered and not yet
unregistered. -/
structure Tracked (σ : Type) where
  daemon : Daemon σ
  registered : Finset (ℕ × InhibitID) := ∅

namespace Tracked

def step (v : ℕ → Overrides σ) (t : Tracked σ) : RegEvent → Tracked σ
  | .registerInhibit now k i =>
    ⟨(registerInhibit v now k i t.daemon).2, insert (k, i.id) t.registered⟩
  | .registerUnInhibit now k id =>
    ⟨(registerUnInhibit v now k id t.daemon).2, t.registered.erase (k, id)⟩

/-- The contract of `InhibitInterface.hpp`: a new id is not in use at any interface, and an
interface unregisters only what it registered. -/
def Contract (v : ℕ → Overrides σ) (t : Tracked σ) : RegEvent → Prop
  | .registerInhibit now k i =>
    ¬ t.daemon.InUse i.id ∧
      ForwardFresh v now k i t.daemon.inhibitors (t.daemon.insertActive k i)
  | .registerUnInhibit _ k id => (t.daemon.active k id).isSome → (k, id) ∈ t.registered

/-- The invariant that ties `releasePlan` to `activeInhibits` of all interfaces. -/
structure Linked (t : Tracked σ) : Prop where
  keyed : ∀ k id i, t.daemon.active k id = some i → i.id = id
  registered_active : ∀ p ∈ t.registered, (t.daemon.active p.1 p.2).isSome
  planned_active : ∀ o, ∀ p ∈ t.daemon.planOf o, (t.daemon.active p.1 p.2).isSome
  planned_copy : ∀ o, ∀ p ∈ t.daemon.planOf o, p ∉ t.registered
  origin : ∀ o, t.daemon.planOf o ≠ [] → ∃ k, (k, o) ∈ t.registered
  copy_planned : ∀ k id, (t.daemon.active k id).isSome → (k, id) ∉ t.registered →
    ∃ o, (k, id) ∈ t.daemon.planOf o
  plan_nodup : ∀ o, (t.daemon.planOf o).Nodup
  plan_disjoint : ∀ o o' p, p ∈ t.daemon.planOf o → p ∈ t.daemon.planOf o' → o = o'

/-- Nothing active and nothing planned. -/
lemma Linked.initial {d : Daemon σ} (hact : ∀ k id, d.active k id = none)
    (hplan : ∀ o, d.planOf o = []) : Linked ⟨d, ∅⟩ where
  keyed k id i h := by rw [hact] at h; cases h
  registered_active p h := absurd h (Finset.notMem_empty p)
  planned_active o p h := by rw [hplan] at h; cases h
  planned_copy o p h := by rw [hplan] at h; cases h
  origin o h := absurd (hplan o) h
  copy_planned k id h := by rw [hact] at h; cases h
  plan_nodup o := by rw [hplan]; exact List.nodup_nil
  plan_disjoint o o' p h := by rw [hplan] at h; cases h

lemma Linked.congr {d d' : Daemon σ} {registered : Finset (ℕ × InhibitID)}
    (h : Linked ⟨d, registered⟩) (hact : ∀ k id, d'.active k id = d.active k id)
    (hplan : ∀ o, d'.planOf o = d.planOf o) : Linked ⟨d', registered⟩ where
  keyed k id i := by rw [hact]; exact h.keyed k id i
  registered_active p := by rw [hact]; exact h.registered_active p
  planned_active o p := by rw [hplan, hact]; exact h.planned_active o p
  planned_copy o p := by rw [hplan]; exact h.planned_copy o p
  origin o := by rw [hplan]; exact h.origin o
  copy_planned k id := by
    simp only [hact, hplan]
    exact h.copy_planned k id
  plan_nodup o := by rw [hplan]; exact h.plan_nodup o
  plan_disjoint o o' p := by rw [hplan, hplan]; exact h.plan_disjoint o o' p

/-- A new inhibit at `k` and the copies its forwarding made keep the invariant. -/
lemma Linked.forwarded {t : Tracked σ} (hl : Linked t) {k : ℕ} {i : Inhibit}
    {copies : List (ℕ × Inhibit)} {d' : Daemon σ} (hfree : ¬ t.daemon.InUse i.id)
    (h : Forwarded k i.id copies (t.daemon.insertActive k i) d') :
    Linked ⟨d', insert (k, i.id) t.registered⟩ := by
  have hins : ∀ j id, (t.daemon.insertActive k i).active j id =
      if j = k ∧ id = i.id then some i else t.daemon.active j id := by
    intro j id
    rw [active_insertActive]
    have hnone : t.daemon.active k i.id = none := by
      by_contra hsome
      exact hfree ⟨k, Option.isSome_iff_ne_none.mpr hsome⟩
    simp only [hnone, and_true]
  -- the ids of the copies differ from the new id and from all old ones
  have hcopy : ∀ p ∈ copies, p.2.id ≠ i.id ∧ ¬ t.daemon.InUse p.2.id := by
    intro p hp
    have hp' := h.fresh p hp
    constructor
    · intro heq
      exact hp' ⟨k, by rw [hins, heq, if_pos ⟨rfl, rfl⟩]; rfl⟩
    · rintro ⟨j, hj⟩
      refine hp' ⟨j, ?_⟩
      rw [hins]
      split
      · rfl
      · exact hj
  have hplanned : ∀ o, t.daemon.planOf o ≠ [] → o ≠ i.id := by
    rintro o ho rfl
    obtain ⟨j, hj⟩ := hl.origin _ ho
    exact hfree ⟨j, hl.registered_active _ hj⟩
  have hnil : t.daemon.planOf i.id = [] := by
    by_contra hne
    exact hplanned _ hne rfl
  have hplan : ∀ o, d'.planOf o =
      if o = i.id then copies.map (fun p => (p.1, p.2.id)) else t.daemon.planOf o := by
    intro o
    rw [h.plan, show (t.daemon.insertActive k i).planOf = t.daemon.planOf from rfl, hnil,
      List.nil_append]
  -- what was active stays, and the rest is the new inhibit and its copies
  have hold : ∀ j id, t.daemon.InUse id → d'.active j id = t.daemon.active j id := by
    intro j id huse
    rw [h.kept j id, hins, if_neg]
    · rintro ⟨-, rfl⟩
      exact hfree huse
    · intro p hp heq
      have hid : p.2.id = id := congrArg Prod.snd heq
      exact (hcopy p hp).2 (hid ▸ huse)
  have hnew : d'.active k i.id = some i := by
    rw [h.kept k i.id, hins, if_pos ⟨rfl, rfl⟩]
    exact fun p hp heq => (hcopy p hp).1 (Prod.ext_iff.mp heq).2
  have hcases : ∀ j id, (d'.active j id).isSome → (j, id) = (k, i.id) ∨
      (∃ p ∈ copies, (p.1, p.2.id) = (j, id)) ∨ (t.daemon.active j id).isSome := by
    intro j id hsome
    by_cases hmem : ∃ p ∈ copies, (p.1, p.2.id) = (j, id)
    · exact Or.inr (Or.inl hmem)
    · rw [h.kept j id fun p hp heq => hmem ⟨p, hp, heq⟩, hins] at hsome
      split at hsome
      · rename_i hk
        exact Or.inl (by rw [hk.1, hk.2])
      · exact Or.inr (Or.inr hsome)
  refine ⟨?_, ?_, ?_, ?_, ?_, ?_, ?_, ?_⟩
  · intro j id c hc
    rcases hcases j id (by rw [hc]; rfl) with heq | ⟨p, hp, heq⟩ | hsome
    · cases heq
      rw [hnew] at hc
      cases hc
      rfl
    · cases heq
      have := h.copied p hp
      rw [hc] at this
      cases this
      rfl
    · rw [hold j id ⟨j, hsome⟩] at hc
      exact hl.keyed j id c hc
  · intro p hp
    rcases Finset.mem_insert.mp hp with rfl | hp
    · rw [hnew]
      rfl
    · have hsome := hl.registered_active p hp
      rw [hold p.1 p.2 ⟨p.1, hsome⟩]
      exact hsome
  · intro o p hp
    rw [hplan] at hp
    split at hp
    · obtain ⟨c, hc, rfl⟩ := List.mem_map.mp hp
      rw [h.copied c hc]
      rfl
    · have hsome := hl.planned_active o p hp
      rw [hold p.1 p.2 ⟨p.1, hsome⟩]
      exact hsome
  · intro o p hp hmem
    rw [hplan] at hp
    split at hp
    · obtain ⟨c, hc, rfl⟩ := List.mem_map.mp hp
      rcases Finset.mem_insert.mp hmem with heq | hmem
      · exact (hcopy c hc).1 (Prod.ext_iff.mp heq).2
      · exact (hcopy c hc).2 ⟨c.1, hl.registered_active _ hmem⟩
    · rcases Finset.mem_insert.mp hmem with rfl | hmem
      · exact hfree ⟨k, hl.planned_active o _ hp⟩
      · exact hl.planned_copy o p hp hmem
  · intro o ho
    rw [hplan] at ho
    split at ho
    · rename_i heq
      exact ⟨k, by rw [heq]; exact Finset.mem_insert_self _ _⟩
    · obtain ⟨j, hj⟩ := hl.origin o ho
      exact ⟨j, Finset.mem_insert_of_mem hj⟩
  · intro j id hsome hnot
    rcases hcases j id hsome with heq | ⟨p, hp, heq⟩ | hsome
    · exact absurd (heq ▸ Finset.mem_insert_self _ _) hnot
    · refine ⟨i.id, ?_⟩
      rw [hplan, if_pos rfl, ← heq]
      exact List.mem_map_of_mem hp
    · obtain ⟨o, ho⟩ := hl.copy_planned j id hsome
        fun hmem => hnot (Finset.mem_insert_of_mem hmem)
      refine ⟨o, ?_⟩
      rw [hplan, if_neg (hplanned o (List.ne_nil_of_mem ho))]
      exact ho
  · intro o
    rw [hplan]
    split
    · apply List.Nodup.of_map Prod.snd
      rw [List.map_map]
      exact h.distinct
    · exact hl.plan_nodup o
  · intro o o' p hp hp'
    -- a copy is planned under the new id only, as it was not active before
    have hstale : ∀ c ∈ copies, ∀ o, (c.1, c.2.id) ∉ t.daemon.planOf o := fun c hc o hmem =>
      (hcopy c hc).2 ⟨c.1, hl.planned_active o _ hmem⟩
    rw [hplan] at hp hp'
    split at hp <;> split at hp'
    · rename_i ho ho'
      rw [ho, ho']
    · obtain ⟨c, hc, rfl⟩ := List.mem_map.mp hp
      exact absurd hp' (hstale c hc o')
    · obtain ⟨c, hc, rfl⟩ := List.mem_map.mp hp'
      exact absurd hp (hstale c hc o)
    · exact hl.plan_disjoint o o' p hp hp'

/-- Erasing a registered pair with its planned copies and its plan keeps the invariant. -/
lemma Linked.released {t : Tracked σ} (hl : Linked t) {k : ℕ} {o : InhibitID} {d' : Daemon σ}
    (hmem : (k, o) ∈ t.registered)
    (hact : ∀ j id, d'.active j id =
      if (j, id) = (k, o) ∨ (j, id) ∈ t.daemon.planOf o then none else t.daemon.active j id)
    (hplan : ∀ p, d'.planOf p = if p = o then [] else t.daemon.planOf p) :
    Linked ⟨d', t.registered.erase (k, o)⟩ := by
  -- what is active afterwards was active before, and is neither the pair nor a copy
  have hactive : ∀ j id, (d'.active j id).isSome → (t.daemon.active j id).isSome ∧
      (j, id) ≠ (k, o) ∧ (j, id) ∉ t.daemon.planOf o := by
    intro j id hsome
    rw [hact] at hsome
    split at hsome
    · cases hsome
    · rename_i hnot
      exact ⟨hsome, fun h => hnot (Or.inl h), fun h => hnot (Or.inr h)⟩
  have hplanned : ∀ o' p, p ∈ d'.planOf o' → o' ≠ o ∧ p ∈ t.daemon.planOf o' := by
    intro o' p hp
    rw [hplan] at hp
    split at hp
    · cases hp
    · rename_i hne
      exact ⟨hne, hp⟩
  refine ⟨?_, ?_, ?_, ?_, ?_, ?_, ?_, ?_⟩
  · intro j id i hi
    rw [hact] at hi
    split at hi
    · cases hi
    · exact hl.keyed j id i hi
  · intro p hp
    obtain ⟨hne, hp⟩ := Finset.mem_erase.mp hp
    rw [hact, if_neg]
    · exact hl.registered_active p hp
    · rintro (heq | hcopy)
      · exact hne heq
      · exact hl.planned_copy o p hcopy hp
  · intro o' p hp
    obtain ⟨hne, hp⟩ := hplanned o' p hp
    rw [hact, if_neg]
    · exact hl.planned_active o' p hp
    · rintro (heq | hcopy)
      · have hpair : p = (k, o) := heq
        exact hl.planned_copy o' p hp (hpair ▸ hmem)
      · exact hne (hl.plan_disjoint o' o p hp hcopy)
  · intro o' p hp hreg
    exact hl.planned_copy o' p (hplanned o' p hp).2 (Finset.mem_of_mem_erase hreg)
  · intro o' ho'
    obtain ⟨p, hp⟩ := List.exists_mem_of_ne_nil _ ho'
    obtain ⟨hne, hp⟩ := hplanned o' p hp
    obtain ⟨j, hj⟩ := hl.origin o' (List.ne_nil_of_mem hp)
    exact ⟨j, Finset.mem_erase.mpr ⟨fun h => hne (Prod.ext_iff.mp h).2, hj⟩⟩
  · -- a copy that stays was planned for another inhibit
    intro j id hsome hnot
    obtain ⟨hsome, hne, hkeep⟩ := hactive j id hsome
    obtain ⟨o', ho'⟩ := hl.copy_planned j id hsome
      fun hreg => hnot (Finset.mem_erase.mpr ⟨hne, hreg⟩)
    refine ⟨o', ?_⟩
    rw [hplan, if_neg]
    · exact ho'
    · rintro rfl
      exact hkeep ho'
  · intro o'
    rw [hplan]
    split
    · exact List.nodup_nil
    · exact hl.plan_nodup o'
  · intro o₁ o₂ p h₁ h₂
    exact hl.plan_disjoint o₁ o₂ p (hplanned o₁ p h₁).2 (hplanned o₂ p h₂).2

/-- Every call an interface makes under the contract keeps the invariant. -/
lemma Linked.step (hin : InhibitsOrRefuses v) (hun : UnInhibits v) (t : Tracked σ) (e : RegEvent)
    (hl : Linked t) (hc : Contract v t e) : Linked (step v t e) := by
  cases e with
  | registerInhibit now k i =>
    obtain ⟨_, copies, hcopies⟩ := registerInhibit_spec hin now k i t.daemon hc.2
    exact hl.forwarded hc.1 hcopies
  | registerUnInhibit now k id =>
    cases hmid : t.daemon.active k id with
    | some mid =>
      have hmem : (k, id) ∈ t.registered := hc (by rw [hmid]; rfl)
      obtain ⟨_, hact, hplan⟩ :=
        registerUnInhibit_spec hun now k hmid (hl.keyed k id mid hmid)
      exact hl.released hmem hact hplan
    | none =>
      -- the id is not active, so the call does nothing
      have hnot : (k, id) ∉ t.registered := by
        intro hmem
        have hsome := hl.registered_active _ hmem
        rw [hmid] at hsome
        cases hsome
      have hnoop := registerUnInhibit_none (v := v) now hmid
      have hstep : Tracked.step v t (.registerUnInhibit now k id) = t := by
        show (⟨(registerUnInhibit v now k id t.daemon).2, t.registered.erase (k, id)⟩ :
          Tracked σ) = t
        rw [hnoop, Finset.erase_eq_of_notMem hnot]
      rw [hstep]
      exact hl

end Tracked

/-- The daemon before any interface has made a call. -/
structure Initial (d : Daemon σ) : Prop where
  activeInhibits : ∀ k, (d.object k).activeInhibits = ∅
  releasePlan : d.releasePlan = ∅

lemma Initial.linked {d : Daemon σ} (h : d.Initial) : Tracked.Linked ⟨d, ∅⟩ := by
  apply Tracked.Linked.initial
  · intro k id
    unfold active
    rw [h.activeInhibits]
    exact Std.ExtTreeMap.getElem?_empty
  · intro o
    unfold planOf
    rw [h.releasePlan, Std.ExtTreeMap.getElem?_empty]
    rfl

/-- Forwarding bookkeeping: in every state reached under the contract, `releasePlan` lists each
copy exactly once under an active origin, unregistering an origin removes it and its copies only,
and exiting leaves exactly what the interfaces registered. -/
theorem forwarding_bookkeeping (hin : InhibitsOrRefuses v) (hun : UnInhibits v) {d₀ : Daemon σ}
    (h₀ : d₀.Initial) {es : List RegEvent}
    (hes : Transition.Along (Tracked.step v) (Tracked.Contract v) ⟨d₀, ∅⟩ es) :
    let t := Transition.run (Tracked.step v) ⟨d₀, ∅⟩ es
    let d := t.daemon
    (∀ p ∈ t.registered, (d.active p.1 p.2).isSome) ∧
    (∀ o, ∀ p ∈ d.planOf o, (d.active p.1 p.2).isSome ∧
      ∃ k, (k, o) ∈ t.registered ∧ (d.active k o).isSome) ∧
    (∀ k id, (d.active k id).isSome → (k, id) ∉ t.registered →
      ∃! o, (d.planOf o).count (k, id) = 1 ∧ ∀ o' ≠ o, (k, id) ∉ d.planOf o') ∧
    (∀ now k o, (k, o) ∈ t.registered →
      (registerUnInhibit v now k o d).1 = .ok () ∧
      ∀ j id, (registerUnInhibit v now k o d).2.active j id =
        if (j, id) = (k, o) ∨ (j, id) ∈ d.planOf o then none else d.active j id) ∧
    (handleExit v d).1 = .ok () ∧
    ∀ j id, (handleExit v d).2.active j id =
      if (j, id) ∈ t.registered then d.active j id else none := by
  intro t d
  have hl : Tracked.Linked t :=
    Transition.invariant h₀.linked (Tracked.Linked.step hin hun) hes
  obtain ⟨hexit, hleft⟩ := handleExit_spec hun d
  refine ⟨hl.registered_active, fun o p hp => ?_, fun k id hsome hnot => ?_,
    fun now k o hmem => ?_, hexit, fun j id => ?_⟩
  · obtain ⟨k, hk⟩ := hl.origin o (List.ne_nil_of_mem hp)
    exact ⟨hl.planned_active o p hp, k, hk, hl.registered_active _ hk⟩
  · obtain ⟨o, ho⟩ := hl.copy_planned k id hsome hnot
    refine ⟨o, ⟨List.count_eq_one_of_mem (hl.plan_nodup o) ho, fun o' hne ho' => ?_⟩, ?_⟩
    · exact hne (hl.plan_disjoint o' o _ ho' ho)
    · rintro o' ⟨hcount, -⟩
      have ho' : (k, id) ∈ d.planOf o' := List.count_pos_iff.mp (by omega)
      exact hl.plan_disjoint o' o _ ho' ho
  · -- a registered origin is active under its own id
    obtain ⟨mid, hmid⟩ := Option.isSome_iff_exists.mp (hl.registered_active _ hmem)
    obtain ⟨hok, hact, _⟩ := registerUnInhibit_spec hun now k hmid (hl.keyed k o mid hmid)
    exact ⟨hok, hact⟩
  · by_cases hmem : (j, id) ∈ t.registered
    · rw [if_pos hmem]
      exact (hleft j id).2 fun o ho => hl.planned_copy o _ ho hmem
    · rw [if_neg hmem]
      by_cases hsome : (d.active j id).isSome
      · exact (hleft j id).1 (hl.copy_planned j id hsome hmem)
      · -- what was not active is not planned, and exiting does not make it active
        have hnone : d.active j id = none := Option.not_isSome_iff_eq_none.mp hsome
        rw [(hleft j id).2 fun o ho => hsome (hl.planned_active o _ ho), hnone]

/-- An interface that grants every request under an id it counts up. -/
def counting : Overrides ℕ where
  doInhibit now r n := (.ok { r with id := [n.toUInt8], created := now }, n + 1)

/-- Two interfaces that have not yet made a call. -/
def idlePair : Daemon ℕ := { inhibitors := [0, 1], object := fun _ => { sub := 0 } }

/-- One registered inhibit, forwarded to the other interface and released on exit. -/
theorem forwarding_bookkeeping_pair :
    let t := Transition.run (Tracked.step fun _ => counting) ⟨idlePair, ∅⟩
      [.registerInhibit 0 0 { id := [9] }]
    (t.daemon.active 1 [0]).isSome ∧
      (handleExit (fun _ => counting) t.daemon).2.active 1 [0] = none := by
  have hempty : ∀ k id, idlePair.active k id = none := fun _ _ => rfl
  have hrun : Transition.Along (Tracked.step fun _ => counting) (Tracked.Contract fun _ => counting)
      ⟨idlePair, ∅⟩ [.registerInhibit 0 0 { id := [9] }] := by
    refine ⟨⟨?_, ?_, trivial⟩, trivial⟩
    · rintro ⟨k, hk⟩
      rw [hempty] at hk
      cases hk
    · rintro ⟨k, hk⟩
      rw [active_insertActive, hempty, if_neg] at hk
      · cases hk
      · rintro ⟨-, h, -⟩
        exact absurd h (by decide)
  have hin : InhibitsOrRefuses fun _ => counting := fun _ now r n =>
    Or.inl ⟨{ r with id := [n.toUInt8], created := now }, rfl⟩
  obtain ⟨-, -, -, -, -, h⟩ := forwarding_bookkeeping hin (fun _ _ _ _ => rfl)
    (⟨fun _ => rfl, rfl⟩ : Initial idlePair) hrun
  exact ⟨by decide, (h 1 [0]).trans (if_neg (by decide))⟩

end Daemon
end UnifiedInhibit
