import UnifiedInhibit.CallReplies
import UnifiedInhibit.Feeders
import UnifiedInhibit.LinuxKernelInhibitInterface
import UnifiedInhibit.SxmoInhibitInterface
import UnifiedInhibit.SystemdInhibitInterface
import UnifiedInhibit.UserCommandsInhibitInterface

/-!
# Every interface shows what is inhibited anywhere

A class takes the requests that share a flag with its mask, and the copy it makes has the flags of
the request as far as the mask goes (`Mirrors`). `Typed` adds this to the bookkeeping of
`releasePlan`, and with it what is inhibited at an interface is the union of what the clients of all
interfaces have registered.
-/

namespace UnifiedInhibit

/-! ## Flags -/

namespace InhibitType

/-- `t'` has the flags of `t` that are in the mask, and none that `t` does not have. -/
structure Copies (mask t t' : InhibitType) : Prop where
  within : t' &&& mask = t &&& mask
  below : t' &&& t = t'

lemma Copies.refl (mask t : InhibitType) : Copies mask t t := ⟨rfl, BitVec.and_self⟩

lemma has_iff (t flag : InhibitType) : t.has flag = true ↔ t &&& flag ≠ 0 := by
  simp [has, NONE]

/-- A flag of the copy is one of the original. -/
lemma Copies.has_of_copy {mask t t' flag : InhibitType} (h : Copies mask t t')
    (hflag : t'.has flag) : t.has flag := by
  rw [has_iff] at hflag ⊢
  intro hzero
  apply hflag
  rw [← h.below, BitVec.and_assoc, hzero]
  exact BitVec.and_zero

/-- A flag of the original in the mask is one of the copy. -/
lemma Copies.has_copy {mask t t' flag : InhibitType} (h : Copies mask t t')
    (hmask : flag &&& mask = flag) (hflag : t.has flag) : t'.has flag := by
  rw [has_iff] at hflag ⊢
  have hread : ∀ s : InhibitType, s &&& flag = (s &&& mask) &&& flag := by
    intro s
    rw [BitVec.and_assoc, BitVec.and_comm mask flag, hmask]
  rw [hread, h.within, ← hread]
  exact hflag

/-- A type with a flag of the mask meets the mask. -/
lemma meets_of_has {mask t flag : InhibitType} (hmask : flag &&& mask = flag) (hflag : t.has flag) :
    t &&& mask ≠ NONE := by
  rw [has_iff] at hflag
  intro hzero
  apply hflag
  have hzero : t &&& mask = 0 := hzero
  rw [← hmask, BitVec.and_comm flag mask, ← BitVec.and_assoc, hzero]
  exact BitVec.zero_and

end InhibitType

open InhibitType (Copies)

/-- The class grants a copy of each request; what it may refuse has no flag of the mask. -/
def Overrides.Mirrors {σ : Type} (u : Overrides σ) (mask : InhibitType) : Prop :=
  ∀ now r s, (∃ i, (u.doInhibit now r s).1 = .ok i ∧ Copies mask r.type i.type) ∨
    (u.doInhibit now r s).1 = .error .unsupportedType ∧ r.type &&& mask = InhibitType.NONE

namespace Daemon

variable {σ : Type} {v : ℕ → Overrides σ} {mask : ℕ → InhibitType}

lemma inhibitsOrRefuses_of_mirrors (hm : ∀ k, (v k).Mirrors (mask k)) : InhibitsOrRefuses v := by
  intro k now r s
  rcases hm k now r s with ⟨i, hi, -⟩ | ⟨hrefuse, -⟩
  · exact .inl ⟨i, hi⟩
  · exact .inr hrefuse

/-- What `doInhibit` grants is a copy of the request. -/
lemma copies_of_granted {u : Overrides σ} {m : InhibitType} (hu : u.Mirrors m) {now : ℕ}
    {r : InhibitRequest} {s : σ} {i : Inhibit} (h : (u.doInhibit now r s).1 = .ok i) :
    Copies m r.type i.type := by
  rcases hu now r s with ⟨i', hi', hcopy⟩ | ⟨hrefuse, -⟩
  · rw [hi'] at h
    cases h
    exact hcopy
  · rw [hrefuse] at h
    cases h

/-- What `inhibit` returns is what `doInhibit` granted. -/
lemma granted_of_inhibitAt {now ai : ℕ} {r : InhibitRequest} {d : Daemon σ} {i : Inhibit}
    (h : (inhibitAt v now ai r d).1 = .ok i) :
    ((v ai).doInhibit now r (d.object ai).sub).1 = .ok i := by
  have h : ((d.object ai).inhibit (v ai) now r).1 = .ok i := h
  unfold InhibitInterface.inhibit at h
  rcases hdo : (v ai).doInhibit now r (d.object ai).sub with ⟨res, s⟩
  rw [hdo] at h
  cases res with
  | error e => cases h
  | ok i' => exact h

/-- What forwarding makes active is a copy. -/
lemma forward_copies (hm : ∀ k, (v k).Mirrors (mask k)) (now inhibitor : ℕ) (inhibit : Inhibit)
    (ais : List ℕ) (d : Daemon σ) (k : ℕ) (id : InhibitID) (c : Inhibit)
    (h : (forward v now inhibitor inhibit ais d).2.active k id = some c) :
    d.active k id = some c ∨ Copies (mask k) inhibit.type c.type := by
  induction ais generalizing d with
  | nil => exact .inl h
  | cons ai ais ih =>
    unfold forward at h
    by_cases hai : ai ≠ inhibitor
    · rw [if_pos hai] at h
      -- what is active behind the first step of the loop
      have hstep : (inhibitAt v now ai inhibit.toInhibitRequest d).2.active k id = some c →
          d.active k id = some c ∨ Copies (mask k) inhibit.type c.type := by
        intro hactive
        rcases hres : (inhibitAt v now ai inhibit.toInhibitRequest d).1 with e | i
        · rw [active_inhibitAt_error hres] at hactive
          exact .inl hactive
        · rw [active_inhibitAt_ok hres] at hactive
          split at hactive
          · rename_i hk
            cases hactive
            rw [hk.1]
            exact .inr (copies_of_granted (hm ai) (granted_of_inhibitAt hres))
          · exact .inl hactive
      rcases hat : inhibitAt v now ai inhibit.toInhibitRequest d with ⟨res, d₁⟩
      rw [hat] at h hstep
      rcases res with e | newInhibit
      · cases e with
        | unsupportedType => exact (ih d₁ h).elim hstep .inr
        | _ => exact hstep h
      · exact (ih _ h).elim hstep .inr
    · rw [if_neg hai] at h
      exact ih d h

/-- What registering makes active is the inhibit or a copy of it. -/
lemma registerInhibit_copies (hm : ∀ k, (v k).Mirrors (mask k)) {now k : ℕ} {i : Inhibit}
    {d : Daemon σ} {j : ℕ} {id : InhibitID} {c : Inhibit}
    (h : (registerInhibit v now k i d).2.active j id = some c) :
    d.active j id = some c ∨ (j, id) = (k, i.id) ∧ c = i ∨ Copies (mask j) i.type c.type := by
  obtain ⟨hok, -⟩ := forward_places (inhibitsOrRefuses_of_mirrors hm) now k i d.inhibitors
    (d.insertActive k i)
  rw [registerInhibit_eq hok, active_callEvent, active_printInhibited] at h
  rcases forward_copies hm now k i d.inhibitors _ j id c h with hold | hcopy
  · rw [active_insertActive] at hold
    split at hold
    · rename_i hk
      cases hold
      exact .inr (.inl ⟨Prod.ext hk.1 hk.2.1, rfl⟩)
    · exact .inl hold
  · exact .inr (.inr hcopy)

lemma accepts_of_meets {j : ℕ} (hj : (v j).Mirrors (mask j)) {t : InhibitType}
    (ht : t &&& mask j ≠ InhibitType.NONE) : Accepts v j t := by
  intro now r s hr
  rcases hj now r s with ⟨i, hi, -⟩ | ⟨-, hnone⟩
  · exact ⟨i, hi⟩
  · rw [hr] at hnone
    exact absurd hnone ht

/-! ## The invariant -/

namespace Tracked

/-- The copies of a registered inhibit have its flags, and every other interface whose mask it
meets has one. No id is registered at two interfaces. -/
structure Typed (mask : ℕ → InhibitType) (t : Tracked σ) : Prop where
  origins : ∀ k k' o, (k, o) ∈ t.registered → (k', o) ∈ t.registered → k = k'
  copies : ∀ k o i, (k, o) ∈ t.registered → t.daemon.active k o = some i →
    ∀ j id c, (j, id) ∈ t.daemon.planOf o → t.daemon.active j id = some c →
      Copies (mask j) i.type c.type
  everywhere : ∀ k o i, (k, o) ∈ t.registered → t.daemon.active k o = some i →
    ∀ j ∈ t.daemon.inhibitors, j ≠ k → i.type &&& mask j ≠ InhibitType.NONE →
      ∃ id, (j, id) ∈ t.daemon.planOf o

/-- What a registration under a new id leaves of the state before it. -/
structure Registration (t : Tracked σ) (k : ℕ) (i : Inhibit) (d' : Daemon σ) : Prop where
  kept : ∀ j id, t.daemon.InUse id → d'.active j id = t.daemon.active j id
  new : d'.active k i.id = some i
  plan : ∀ o, o ≠ i.id → d'.planOf o = t.daemon.planOf o
  fresh : ∀ j id, (j, id) ∈ d'.planOf i.id → ¬ t.daemon.InUse id ∧ id ≠ i.id

lemma Linked.registration (hin : InhibitsOrRefuses v) {t : Tracked σ} (hl : Linked t) {now k : ℕ}
    {i : Inhibit} (hc : Contract v t (.registerInhibit now k i)) :
    Registration t k i (Daemon.registerInhibit v now k i t.daemon).2 := by
  obtain ⟨hfree, hfresh⟩ := hc
  obtain ⟨-, copies, hfw⟩ := registerInhibit_spec hin now k i t.daemon hfresh
  -- the registered id is the only one that the insertion brings into use
  have hins : ∀ id, (t.daemon.insertActive k i).InUse id ↔ id = i.id ∨ t.daemon.InUse id := by
    intro id
    have hnone : t.daemon.active k i.id = none := by
      by_contra hsome
      exact hfree ⟨k, Option.isSome_iff_ne_none.mpr hsome⟩
    unfold InUse
    simp only [active_insertActive, hnone, and_true]
    constructor
    · rintro ⟨j, hj⟩
      split at hj
      · rename_i heq
        exact .inl heq.2
      · exact .inr ⟨j, hj⟩
    · rintro (heq | ⟨j, hj⟩)
      · exact ⟨k, by rw [if_pos ⟨rfl, heq⟩]; rfl⟩
      · refine ⟨j, ?_⟩
        split
        · rfl
        · exact hj
  have hplan := hfw.plan
  -- an id that is not in use has no plan
  have hnil : (t.daemon.insertActive k i).planOf i.id = [] := by
    by_contra hne
    obtain ⟨j, hj⟩ := hl.origin _ hne
    exact hfree ⟨j, hl.registered_active _ hj⟩
  rw [hnil, List.nil_append] at hplan
  refine ⟨fun j id huse => ?_, ?_, fun o ho => ?_, fun j id hp => ?_⟩
  · rw [hfw.kept j id, active_insertActive, if_neg]
    · rintro ⟨-, rfl, -⟩
      exact hfree huse
    · intro p hp heq
      have hid : p.2.id = id := congrArg Prod.snd heq
      exact hfw.fresh p hp ((hins _).mpr (.inr (hid ▸ huse)))
  · rw [hfw.kept k i.id, active_insertActive, if_pos]
    · refine ⟨rfl, rfl, ?_⟩
      by_contra hsome
      exact hfree ⟨k, Option.isSome_iff_ne_none.mpr hsome⟩
    · intro p hp heq
      exact hfw.fresh p hp ((hins _).mpr (.inl (congrArg Prod.snd heq)))
  · rw [hplan, if_neg ho]
    rfl
  · rw [hplan, if_pos rfl] at hp
    obtain ⟨p, hmem, heq⟩ := List.mem_map.mp hp
    have hnot := hfw.fresh p hmem
    rw [hins, not_or, show p.2.id = id from congrArg Prod.snd heq] at hnot
    exact hnot.symm

/-- A registration. -/
lemma Typed.registerInhibit (hm : ∀ k, (v k).Mirrors (mask k)) {t : Tracked σ} (hl : Linked t)
    (h : Typed mask t) {now k : ℕ} {i : Inhibit}
    (hc : Contract v t (.registerInhibit now k i)) :
    Typed mask (step v t (.registerInhibit now k i)) := by
  have hin := inhibitsOrRefuses_of_mirrors hm
  have hreg := hl.registration hin hc
  obtain ⟨hinh, ps, hplaces, -, hacc⟩ := registerInhibit_places hin now k i t.daemon
  have hold : ∀ l o, (l, o) ∈ t.registered → o ≠ i.id := by
    rintro l o hmem rfl
    exact hc.1 ⟨l, hl.registered_active _ hmem⟩
  have hdaemon : (step v t (.registerInhibit now k i)).daemon =
      (Daemon.registerInhibit v now k i t.daemon).2 := rfl
  have hback : ∀ l o i', (l, o) ∈ t.registered →
      (step v t (.registerInhibit now k i)).daemon.active l o = some i' →
      t.daemon.active l o = some i' := by
    intro l o i' hmem hi'
    rw [← hreg.kept l o ⟨l, hl.registered_active _ hmem⟩]
    exact hi'
  constructor
  · intro j j' o hj hj'
    rcases Finset.mem_insert.mp hj with heq | hj <;> rcases Finset.mem_insert.mp hj' with heq' | hj'
    · cases heq
      cases heq'
      rfl
    · cases heq
      exact absurd rfl (hold j' _ hj')
    · cases heq'
      exact absurd rfl (hold j _ hj)
    · exact h.origins j j' o hj hj'
  · intro l o i' hmem hi' j id c hp hj
    rcases Finset.mem_insert.mp hmem with heq | hmem
    · cases heq
      obtain ⟨hunused, hne⟩ := hreg.fresh j id hp
      rw [hdaemon, hreg.new] at hi'
      cases hi'
      -- a copy was not active before and is not the new inhibit itself
      rcases registerInhibit_copies hm hj with hcold | ⟨heq, -⟩ | hcopy
      · exact absurd ⟨j, by rw [hcold]; rfl⟩ hunused
      · exact absurd (Prod.ext_iff.mp heq).2 hne
      · exact hcopy
    · have hp : (j, id) ∈ t.daemon.planOf o := by
        rw [← hreg.plan o (hold l o hmem)]
        exact hp
      have hj : t.daemon.active j id = some c := by
        rw [← hreg.kept j id ⟨j, hl.planned_active o _ hp⟩]
        exact hj
      exact h.copies l o i' hmem (hback l o i' hmem hi') j id c hp hj
  · intro l o i' hmem hi' j hj hjl hmeet
    have hj : j ∈ t.daemon.inhibitors := by
      rw [← hinh]
      exact hj
    rcases Finset.mem_insert.mp hmem with heq | hmem
    · cases heq
      rw [hdaemon, hreg.new] at hi'
      cases hi'
      obtain ⟨p, hp, hpj⟩ := List.mem_map.mp (hacc j hj hjl (accepts_of_meets (hm j) hmeet))
      refine ⟨p.2, ?_⟩
      rw [hdaemon, hplaces, if_pos rfl, ← hpj]
      exact List.mem_append_right _ hp
    · obtain ⟨id, hid⟩ := h.everywhere l o i' hmem (hback l o i' hmem hi') j hj hjl hmeet
      refine ⟨id, ?_⟩
      rw [hdaemon, hreg.plan o (hold l o hmem)]
      exact hid

/-- A removal. -/
lemma Typed.registerUnInhibit (hun : UnInhibits v) {t : Tracked σ} (hl : Linked t)
    (h : Typed mask t) {now k : ℕ} {o : InhibitID}
    (hc : Contract v t (.registerUnInhibit now k o)) :
    Typed mask (step v t (.registerUnInhibit now k o)) := by
  cases hmid : t.daemon.active k o with
  | none =>
    -- nothing is removed
    have hnot : (k, o) ∉ t.registered := by
      intro hmem
      have hsome := hl.registered_active _ hmem
      rw [hmid] at hsome
      cases hsome
    have hstep : step v t (.registerUnInhibit now k o) = t := by
      show (⟨(Daemon.registerUnInhibit v now k o t.daemon).2, t.registered.erase (k, o)⟩ :
        Tracked σ) = t
      rw [registerUnInhibit_none (v := v) now hmid, Finset.erase_eq_of_notMem hnot]
    rw [hstep]
    exact h
  | some mid =>
    have hmem : (k, o) ∈ t.registered := hc (by rw [hmid]; rfl)
    obtain ⟨-, hact, hplan⟩ := registerUnInhibit_spec hun now k hmid (hl.keyed k o mid hmid)
    have hinh := inhibitors_registerUnInhibit (v := v) now k o t.daemon
    set d' := (Daemon.registerUnInhibit v now k o t.daemon).2
    have hother : ∀ l o', (l, o') ∈ t.registered.erase (k, o) → (l, o') ∈ t.registered ∧
        o' ≠ o := by
      intro l o' hreg
      obtain ⟨hne, hreg⟩ := Finset.mem_erase.mp hreg
      refine ⟨hreg, fun heq => hne ?_⟩
      rw [heq] at hreg ⊢
      rw [h.origins l k o hreg hmem]
    have hkept : ∀ j id c, d'.active j id = some c → t.daemon.active j id = some c := by
      intro j id c hj
      rw [hact] at hj
      split at hj
      · cases hj
      · exact hj
    have hplan' : ∀ o', o' ≠ o → d'.planOf o' = t.daemon.planOf o' := by
      intro o' ho'
      rw [hplan, if_neg ho']
    constructor
    · intro l l' o' hreg hreg'
      exact h.origins l l' o' (Finset.mem_of_mem_erase hreg) (Finset.mem_of_mem_erase hreg')
    · intro l o' i' hreg hi' j id c hp hj
      obtain ⟨hreg, hne⟩ := hother l o' hreg
      have hp : (j, id) ∈ t.daemon.planOf o' := by
        rw [← hplan' o' hne]
        exact hp
      exact h.copies l o' i' hreg (hkept l o' i' hi') j id c hp (hkept j id c hj)
    · intro l o' i' hreg hi' j hj hjl hmeet
      obtain ⟨hreg, hne⟩ := hother l o' hreg
      have hj : j ∈ t.daemon.inhibitors := by
        rw [← hinh]
        exact hj
      obtain ⟨id, hid⟩ := h.everywhere l o' i' hreg (hkept l o' i' hi') j hj hjl hmeet
      refine ⟨id, ?_⟩
      show (j, id) ∈ d'.planOf o'
      rw [hplan' o' hne]
      exact hid

/-- Every call an interface makes under the contract keeps both invariants. -/
lemma Typed.step (hm : ∀ k, (v k).Mirrors (mask k)) (hun : UnInhibits v) (t : Tracked σ)
    (e : RegEvent) (h : Linked t ∧ Typed mask t) (hc : Contract v t e) :
    Linked (step v t e) ∧ Typed mask (step v t e) := by
  refine ⟨Linked.step (inhibitsOrRefuses_of_mirrors hm) hun t e h.1 hc, ?_⟩
  cases e with
  | registerInhibit now k i => exact h.2.registerInhibit hm h.1 hc
  | registerUnInhibit now k id => exact h.2.registerUnInhibit hun h.1 hc

lemma Typed.initial (d : Daemon σ) : Typed mask ⟨d, ∅⟩ where
  origins _ _ _ h := absurd h (Finset.notMem_empty _)
  copies _ _ _ h := absurd h (Finset.notMem_empty _)
  everywhere _ _ _ h := absurd h (Finset.notMem_empty _)

end Tracked

/-! ## The union -/

/-- Some registered inhibit has the flag. -/
def Wanted (t : Tracked σ) (flag : InhibitType) : Prop :=
  ∃ p ∈ t.registered, ∃ i, t.daemon.active p.1 p.2 = some i ∧ i.type.has flag

/-- What is active is registered, or a copy of what is registered. -/
lemma Tracked.Linked.wanted_of_active {t : Tracked σ} (hl : Tracked.Linked t)
    (h : Tracked.Typed mask t) {j : ℕ} {id : InhibitID} {c : Inhibit} {flag : InhibitType}
    (hc : t.daemon.active j id = some c) (hflag : c.type.has flag) : Wanted t flag := by
  by_cases hmem : (j, id) ∈ t.registered
  · exact ⟨(j, id), hmem, c, hc, hflag⟩
  · obtain ⟨o, ho⟩ := hl.copy_planned j id (by rw [hc]; rfl) hmem
    obtain ⟨k, hk⟩ := hl.origin o (List.ne_nil_of_mem ho)
    obtain ⟨i, hi⟩ := Option.isSome_iff_exists.mp (hl.registered_active _ hk)
    exact ⟨(k, o), hk, i, hi, (h.copies k o i hk hi j id c ho hc).has_of_copy hflag⟩

/-- What is registered is active at each interface whose mask has the flag. -/
lemma Tracked.Linked.active_of_wanted {t : Tracked σ} (hl : Tracked.Linked t)
    (h : Tracked.Typed mask t) {j : ℕ} (hj : j ∈ t.daemon.inhibitors) {flag : InhibitType}
    (hmask : flag &&& mask j = flag) (hw : Wanted t flag) :
    ∃ id c, t.daemon.active j id = some c ∧ c.type.has flag := by
  obtain ⟨⟨k, o⟩, hk, i, hi, hflag⟩ := hw
  by_cases hjk : j = k
  · exact ⟨o, i, by rw [hjk]; exact hi, hflag⟩
  · obtain ⟨id, hid⟩ := h.everywhere k o i hk hi j hj hjk (InhibitType.meets_of_has hmask hflag)
    obtain ⟨c, hc⟩ := Option.isSome_iff_exists.mp (hl.planned_active o _ hid)
    exact ⟨id, c, hc, (h.copies k o i hk hi j id c hid hc).has_copy hmask hflag⟩

lemma foldl_or_inhibited (d : Daemon σ) (ks : List ℕ) (t flag : InhibitType) :
    (ks.foldl (fun i k => i ||| (d.object k).inhibited) t).has flag = true ↔
      t.has flag = true ∨ ∃ k ∈ ks, (d.object k).inhibited.has flag = true := by
  induction ks generalizing t with
  | nil => simp
  | cons k ks ih =>
    simp only [List.foldl_cons, ih, InhibitType.or_has, Bool.or_eq_true, List.mem_cons,
      exists_eq_or_imp, or_assoc]

/-- A flag is in `inhibited` of main exactly when it is inhibited at some interface. -/
lemma inhibited_has (d : Daemon σ) (flag : InhibitType) :
    d.inhibited.has flag = true ↔
      ∃ k ∈ d.inhibitors, ∃ id i, d.active k id = some i ∧ i.type.has flag := by
  unfold Daemon.inhibited
  rw [foldl_or_inhibited]
  simp only [InhibitType.none_has, Bool.false_eq_true, false_or, Base.inhibited_has]
  rfl

/-- In every state reached under the contract, what is inhibited at an interface, as far as its
mask goes, is the union of what is registered at all interfaces, and so is what main finds
inhibited. -/
theorem unified_state (hm : ∀ k, (v k).Mirrors (mask k)) (hun : UnInhibits v) {d₀ : Daemon σ}
    (h₀ : d₀.Initial) {es : List RegEvent}
    (hes : Transition.Along (Tracked.step v) (Tracked.Contract v) ⟨d₀, ∅⟩ es) :
    let t := Transition.run (Tracked.step v) ⟨d₀, ∅⟩ es
    (∀ j ∈ t.daemon.inhibitors, ∀ flag, flag &&& mask j = flag →
      ((t.daemon.object j).inhibited.has flag ↔ Wanted t flag)) ∧
    ∀ flag, (∀ p ∈ t.registered, p.1 ∈ t.daemon.inhibitors) →
      (t.daemon.inhibited.has flag ↔ Wanted t flag) := by
  intro t
  have hinv : Tracked.Linked t ∧ Tracked.Typed mask t :=
    Transition.invariant ⟨h₀.linked, Tracked.Typed.initial d₀⟩ (Tracked.Typed.step hm hun) hes
  obtain ⟨hl, h⟩ := hinv
  refine ⟨fun j hj flag hmask => ?_, fun flag hplaces => ?_⟩
  · rw [Base.inhibited_has]
    constructor
    · rintro ⟨id, c, hc, hflag⟩
      exact hl.wanted_of_active h hc hflag
    · intro hw
      exact hl.active_of_wanted h hj hmask hw
  · rw [inhibited_has]
    constructor
    · rintro ⟨j, -, id, c, hc, hflag⟩
      exact hl.wanted_of_active h hc hflag
    · intro hw
      obtain ⟨p, hp, i, hi, hflag⟩ := hw
      exact ⟨p.1, hplaces p hp, p.2, i, hi, hflag⟩

end Daemon

/-! ## The classes -/

namespace InhibitType

/-- A type with one flag. -/
def OneFlag (flag : InhibitType) : Prop := flag = SCREENSAVER ∨ flag = SUSPEND

lemma OneFlag.and_eq {flag : InhibitType} (h : OneFlag flag) (t : InhibitType) :
    t &&& flag = if t.has flag then flag else NONE := by
  have hbit : ∃ n, flag = BitVec.twoPow 32 n ∧ flag ≠ NONE := by
    rcases h with rfl | rfl
    · exact ⟨0, by decide, by decide⟩
    · exact ⟨1, by decide, by decide⟩
  obtain ⟨n, htwo, hne⟩ := hbit
  have hread : t &&& flag = flag ∨ t &&& flag = NONE := by
    rw [htwo, BitVec.and_twoPow]
    split
    · exact .inl rfl
    · exact .inr rfl
  rcases hread with h | h
  · rw [if_pos, h]
    simp [has, h, hne]
  · rw [if_neg, h]
    simp [has, h]

/-- A type that has the flag is copied by the flag alone. -/
lemma OneFlag.copies {flag : InhibitType} (h : OneFlag flag) {t : InhibitType}
    (hmeet : t &&& flag ≠ NONE) : Copies flag t flag := by
  have hhas : t &&& flag = flag := by
    rw [h.and_eq] at hmeet ⊢
    split
    · rfl
    · rename_i hnot
      exact absurd (if_neg hnot) hmeet
  refine ⟨?_, ?_⟩
  · rw [hhas]
    exact BitVec.and_self
  · rw [BitVec.and_comm]
    exact hhas

/-- The flags that the daemon knows. -/
lemma and_both (t : InhibitType) :
    t &&& (SCREENSAVER ||| SUSPEND) =
      (if t.has SCREENSAVER then SCREENSAVER else NONE) |||
        if t.has SUSPEND then SUSPEND else NONE := by
  rw [BitVec.and_or_distrib_left, OneFlag.and_eq (.inl rfl), OneFlag.and_eq (.inr rfl)]

end InhibitType

open InhibitType (OneFlag)

/-- An implementation of a locker takes its own type. -/
lemma SimpleDBusInhibitInterface.mirrors {cfg : SimpleDBusInhibitInterface.Config}
    (hmon : cfg.monitor = false) (htype : OneFlag cfg.inhibitType) :
    (SimpleDBusInhibitInterface.overrides cfg).Mirrors cfg.inhibitType := by
  intro now r s
  show (∃ i, (SimpleDBusInhibitInterface.doInhibit cfg now r s).1 = .ok i ∧ _) ∨ _
  unfold SimpleDBusInhibitInterface.doInhibit
  split
  · rename_i hnone
    right
    refine ⟨?_, hnone⟩
    show (SimpleDBusInhibitInterface.doInhibit cfg now r s).1 = _
    unfold SimpleDBusInhibitInterface.doInhibit
    rw [if_pos hnone]
  · rename_i hmeet
    rw [hmon]
    exact .inl ⟨_, rfl, htype.copies hmeet⟩

namespace GnomeSessionManagerInhibitInterface

lemma us2gnomeType_eq_none_iff (t : InhibitType) :
    us2gnomeType t = GnomeInhibitType.NONE ↔
      t &&& (InhibitType.SCREENSAVER ||| InhibitType.SUSPEND) = InhibitType.NONE := by
  rw [InhibitType.and_both]
  unfold us2gnomeType
  cases t.has InhibitType.SUSPEND <;> cases t.has InhibitType.SCREENSAVER <;> decide

/-- The conversion to GNOME's flags and back keeps the flags that the daemon knows. -/
lemma gnomeType2us_us2gnomeType (t : InhibitType) :
    gnomeType2us (us2gnomeType t) =
      t &&& (InhibitType.SCREENSAVER ||| InhibitType.SUSPEND) := by
  rw [InhibitType.and_both]
  unfold us2gnomeType
  cases t.has InhibitType.SUSPEND <;> cases t.has InhibitType.SCREENSAVER <;> decide

lemma mirrors {cfg : OwnerConfig} (hmon : cfg.monitor = false) :
    (overrides cfg).Mirrors (InhibitType.SCREENSAVER ||| InhibitType.SUSPEND) := by
  intro now r s
  show (∃ i, (doInhibit cfg now r s).1 = .ok i ∧ _) ∨ (doInhibit cfg now r s).1 = _ ∧ _
  unfold doInhibit
  split
  · rename_i hnone
    exact .inr ⟨rfl, (us2gnomeType_eq_none_iff r.type).mp hnone⟩
  · rw [hmon]
    refine .inl ⟨_, rfl, ?_, ?_⟩
    · dsimp only
      rw [gnomeType2us_us2gnomeType, BitVec.and_assoc, BitVec.and_self]
    · dsimp only
      rw [gnomeType2us_us2gnomeType, BitVec.and_comm, ← BitVec.and_assoc, BitVec.and_self]

end GnomeSessionManagerInhibitInterface

lemma CinnamonScreenSaverInhibitInterface.mirrors (cfg : CinnamonConfig) :
    (CinnamonScreenSaverInhibitInterface.overrides cfg).Mirrors InhibitType.SCREENSAVER := by
  intro now r s
  show (∃ i, (doInhibit cfg now r s).1 = .ok i ∧ _) ∨ (doInhibit cfg now r s).1 = _ ∧ _
  unfold doInhibit
  split
  · rename_i hnone
    exact .inr ⟨rfl, hnone⟩
  · rename_i hmeet
    exact .inl ⟨_, rfl, OneFlag.copies (.inl rfl) hmeet⟩

lemma LinuxKernelInhibitInterface.mirrors (instanceId : UInt64) :
    (LinuxKernelInhibitInterface.overrides instanceId).Mirrors InhibitType.SUSPEND := by
  intro now r s
  show (∃ i, (doInhibit instanceId now r s).1 = .ok i ∧ _) ∨
    (doInhibit instanceId now r s).1 = _ ∧ _
  unfold doInhibit
  split
  · rename_i hnone
    exact .inr ⟨rfl, hnone⟩
  · rename_i hmeet
    exact .inl ⟨_, rfl, OneFlag.copies (.inr rfl) hmeet⟩

lemma SxmoInhibitInterface.mirrors (cfg : SxmoConfig) :
    (SxmoInhibitInterface.overrides cfg).Mirrors
      (InhibitType.SCREENSAVER ||| InhibitType.SUSPEND) := by
  intro now r s
  show (∃ i, (doInhibit cfg now r s).1 = .ok i ∧ _) ∨ (doInhibit cfg now r s).1 = _ ∧ _
  unfold doInhibit
  split
  · rename_i hnone
    refine .inr ⟨rfl, ?_⟩
    rw [BitVec.and_or_distrib_left, hnone.1, hnone.2]
    decide
  · split
    · exact .inl ⟨_, rfl, Copies.refl _ _⟩
    · exact .inl ⟨_, rfl, Copies.refl _ _⟩

/-- An implementation of login1, as long as it can set up its FIFOs. -/
lemma SystemdInhibitInterface.mirrors {cfg : SystemdConfig} (hmon : cfg.monitor = false)
    {setup : FifoSetup} (hsetup : (setup.mkfifo && setup.openRead && setup.openWrite) = true) :
    (SystemdInhibitInterface.overrides cfg setup).Mirrors
      (InhibitType.SCREENSAVER ||| InhibitType.SUSPEND) := by
  intro now r s
  show (∃ i, (doInhibit cfg setup now r s).1 = .ok i ∧ _) ∨ (doInhibit cfg setup now r s).1 = _ ∧ _
  unfold doInhibit
  split
  · rename_i hnone
    refine .inr ⟨rfl, ?_⟩
    rw [BitVec.and_or_distrib_left, hnone.1, hnone.2]
    decide
  · left
    unfold newLockRef
    rw [hmon]
    dsimp only
    rw [if_pos hsetup]
    exact ⟨_, rfl, Copies.refl _ _⟩

/-- The feeders and the user commands take every type. -/
lemma Feeder.mirrors (f : Feeder) (mask : InhibitType) : f.overrides.Mirrors mask :=
  fun _ _ _ => .inl ⟨_, rfl, Copies.refl _ _⟩

lemma UserCommandsInhibitInterface.mirrors (cfg : Commands) (instanceId : UInt64)
    (mask : InhibitType) : (UserCommandsInhibitInterface.overrides cfg instanceId).Mirrors mask :=
  fun _ _ _ => .inl ⟨_, rfl, Copies.refl _ _⟩

/-! ## Two classes in one daemon -/

lemma Overrides.Mirrors.within {σ ρ : Type} (P : Part σ ρ) {u : Overrides ρ} {mask : InhibitType}
    (hu : u.Mirrors mask) : (u.within P).Mirrors mask := fun now r s => hu now r (P.get s)

/-- The first and the second half of a pair. -/
def Part.fst {σ ρ : Type} : Part (σ × ρ) σ where
  get s := s.1
  set a s := (a, s.2)
  get_set _ _ := rfl
  set_get _ := rfl
  set_set _ _ _ := rfl

def Part.snd {σ ρ : Type} : Part (σ × ρ) ρ where
  get s := s.2
  set a s := (s.1, a)
  get_set _ _ := rfl
  set_get _ := rfl
  set_set _ _ _ := rfl

namespace Daemon

/-- The kernel's wakelocks and the user's commands. -/
def kernelAndCommands (k : ℕ) :
    Overrides (LinuxKernelFields × UserCommandsInhibitInterface.Fields) :=
  if k = 0 then (LinuxKernelInhibitInterface.overrides 0).within Part.fst
  else (UserCommandsInhibitInterface.overrides {} 1).within Part.snd

lemma kernelAndCommands_mirrors (k : ℕ) : (kernelAndCommands k).Mirrors
    (if k = 0 then InhibitType.SUSPEND else InhibitType.SCREENSAVER ||| InhibitType.SUSPEND) := by
  unfold kernelAndCommands
  split
  · exact (LinuxKernelInhibitInterface.mirrors 0).within Part.fst
  · exact (UserCommandsInhibitInterface.mirrors {} 1 _).within Part.snd

/-- A wakelock of another program is inhibited for the user's commands as well. -/
theorem unified_state_wakelock :
    let d₀ : Daemon (LinuxKernelFields × UserCommandsInhibitInterface.Fields) :=
      { inhibitors := [0, 1], object := fun _ => { sub := ({}, {}) } }
    let t := Transition.run (Tracked.step kernelAndCommands) ⟨d₀, ∅⟩
      [.registerInhibit 0 0 { type := InhibitType.SUSPEND, id := [9] }]
    (t.daemon.object 1).inhibited.has InhibitType.SUSPEND ∧
      ¬ (t.daemon.object 1).inhibited.has InhibitType.SCREENSAVER := by
  intro d₀ t
  have hempty : ∀ k id, d₀.active k id = none := fun _ _ => rfl
  have hun : UnInhibits kernelAndCommands := by
    intro k b id s
    unfold kernelAndCommands
    split
    · show (LinuxKernelInhibitInterface.doUnInhibit 0 b id s.1).1 = _
      unfold LinuxKernelInhibitInterface.doUnInhibit
      split <;> rfl
    · rfl
  have hrun : Transition.Along (Tracked.step kernelAndCommands) (Tracked.Contract kernelAndCommands)
      ⟨d₀, ∅⟩ [.registerInhibit 0 0 { type := InhibitType.SUSPEND, id := [9] }] := by
    refine ⟨⟨?_, ?_, trivial⟩, trivial⟩
    · rintro ⟨k, hk⟩
      rw [hempty] at hk
      cases hk
    · rintro ⟨k, hk⟩
      rw [active_insertActive, hempty, if_neg] at hk
      · cases hk
      · rintro ⟨-, h, -⟩
        exact absurd h (by decide)
  obtain ⟨hunion, -⟩ := unified_state kernelAndCommands_mirrors hun
    (⟨fun _ => rfl, rfl⟩ : Initial d₀) hrun
  have hreg : t.registered = {(0, [9])} := rfl
  have hown : t.daemon.active 0 [9] = some { type := InhibitType.SUSPEND, id := [9] } := by decide
  constructor
  · rw [hunion 1 (by decide) InhibitType.SUSPEND (by decide)]
    exact ⟨(0, [9]), by rw [hreg]; decide, _, hown, by decide⟩
  · rw [hunion 1 (by decide) InhibitType.SCREENSAVER (by decide)]
    rintro ⟨p, hp, i, hi, hflag⟩
    rw [hreg] at hp
    rw [Finset.mem_singleton.mp hp, hown] at hi
    cases hi
    exact absurd hflag (by decide)

end Daemon

end UnifiedInhibit
