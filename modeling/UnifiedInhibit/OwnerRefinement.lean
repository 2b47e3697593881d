import UnifiedInhibit.Lib.OwnedLocks
import UnifiedInhibit.OwnerTracking

/-!
# `SimpleDBusInhibitInterface` refines a set of owned locks

An implementation runs next to an `OwnedLocks`, which sees only what the clients, the bus and the
daemon see: the calls, the cookies that are handed out, and who has gone. `Inv` ties the two
together, and `refines_ownedLocks` says what is active and which callbacks were made, after any
run, in terms of the locks alone.
-/

namespace UnifiedInhibit

open DBus (Arg Message)

/-! ## Owners and ids -/

/-- Who can hold a lock: the daemon, or a client. -/
inductive Owner where
  | us
  | client (name : Bytes)
deriving DecidableEq

def Owner.name : Owner → Bytes
  | .us => lit "us"
  | .client name => name

/-- A client goes by its unique name. -/
def Owner.Proper : Owner → Prop
  | .us => True
  | .client name => ClientName name

/-- The id under which a lock is active. -/
def lockId (cfg : OwnerConfig) (p : Owner × UInt32) : InhibitID :=
  OwnerId.mkId cfg p.1.name p.2

lemma Owner.Proper.fits {o : Owner} (h : o.Proper) : Fits o.name := by
  rcases o with _ | name
  · exact fits_us
  · exact ClientName.fits h

lemma lockId_inj {cfg : OwnerConfig} {p q : Owner × UInt32} (hp : p.1.Proper) (hq : q.1.Proper) :
    lockId cfg p = lockId cfg q ↔ p = q := by
  rcases p with ⟨_ | name, c⟩ <;> rcases q with ⟨_ | name', d⟩
  all_goals
    unfold lockId
    rw [OwnerId.mkId_inj cfg hp.fits hq.fits]
    simp only [Owner.name, Prod.mk.injEq, reduceCtorEq, false_and, true_and, Owner.client.injEq]
  · exact iff_of_false (fun h => hq.ne_us h.1.symm) id
  · exact iff_of_false (fun h => hp.ne_us h.1) id

/-! ## Callbacks -/

/-- How often `inhibitCB` was called with `id`. -/
def inhibitCBs (log : List CBCall) (id : InhibitID) : ℕ :=
  log.countP fun
    | .inhibitCB i => i.id = id
    | .unInhibitCB _ => false

/-- How often `unInhibitCB` was called with `id`. -/
def unInhibitCBs (log : List CBCall) (id : InhibitID) : ℕ :=
  log.countP fun
    | .inhibitCB _ => false
    | .unInhibitCB i => i.id = id

@[simp] lemma inhibitCBs_inhibitCB (log : List CBCall) (i : Inhibit) (id : InhibitID) :
    inhibitCBs (log ++ [.inhibitCB i]) id = inhibitCBs log id + if i.id = id then 1 else 0 := by
  simp [inhibitCBs, List.countP_cons]

@[simp] lemma inhibitCBs_unInhibitCB (log : List CBCall) (i : Inhibit) (id : InhibitID) :
    inhibitCBs (log ++ [.unInhibitCB i]) id = inhibitCBs log id := by
  simp [inhibitCBs]

@[simp] lemma unInhibitCBs_inhibitCB (log : List CBCall) (i : Inhibit) (id : InhibitID) :
    unInhibitCBs (log ++ [.inhibitCB i]) id = unInhibitCBs log id := by
  simp [unInhibitCBs]

@[simp] lemma unInhibitCBs_unInhibitCB (log : List CBCall) (i : Inhibit) (id : InhibitID) :
    unInhibitCBs (log ++ [.unInhibitCB i]) id =
      unInhibitCBs log id + if i.id = id then 1 else 0 := by
  simp [unInhibitCBs, List.countP_cons]

/-- An id of the daemon's own. -/
def IsOwn (cfg : OwnerConfig) (id : InhibitID) : Prop := ∃ c, id = OwnerId.mkId cfg (lit "us") c

/-- Each client's inhibit was reported as often as it was reported as released, once more while it
is active. The daemon's own are not reported. -/
structure Balanced (cfg : OwnerConfig) (o : Owned) : Prop where
  keyed : ∀ (id : InhibitID) (i : Inhibit), o.active[id]? = some i → i.id = id
  client : ∀ id, ¬ IsOwn cfg id →
    unInhibitCBs o.cbLog id + (if (o.active[id]?).isSome then 1 else 0) = inhibitCBs o.cbLog id
  own : ∀ id, IsOwn cfg id → inhibitCBs o.cbLog id = 0 ∧ unInhibitCBs o.cbLog id = 0

namespace Balanced

variable {cfg : OwnerConfig} {o : Owned}

lemma setOwners (h : Balanced cfg o) (name : Bytes) (ids : List InhibitID) :
    Balanced cfg (o.setOwners name ids) := ⟨h.keyed, h.client, h.own⟩

lemma register (h : Balanced cfg o) {i : Inhibit} (hi : ¬ IsOwn cfg i.id)
    (hfresh : o.active[i.id]? = none) : Balanced cfg (o.register i) := by
  have hlog : (o.register i).cbLog = o.cbLog ++ [.inhibitCB i] := rfl
  constructor
  · intro id j hj
    rw [Owned.active_register] at hj
    by_cases hid : id = i.id
    · rw [if_pos ⟨hid, hfresh⟩] at hj
      rw [hid, ← Option.some.inj hj]
    · rw [if_neg fun hand => hid hand.1] at hj
      exact h.keyed id j hj
  · intro id hown
    have hbal := h.client id hown
    rw [hlog, inhibitCBs_inhibitCB, unInhibitCBs_inhibitCB, Owned.active_register]
    by_cases hid : id = i.id
    · rw [hid, hfresh] at hbal
      rw [hid]
      simp only [hfresh, and_self, if_true, Option.isSome_some, Option.isSome_none] at hbal ⊢
      simp only [Bool.false_eq_true, if_false] at hbal
      omega
    · simp only [hid, Ne.symm hid, false_and, if_false]
      omega
  · intro id hown
    have hne : i.id ≠ id := fun heq => hi (heq ▸ hown)
    rw [hlog, inhibitCBs_inhibitCB, unInhibitCBs_inhibitCB, if_neg hne]
    exact h.own id hown

lemma unregister (h : Balanced cfg o) {k : InhibitID} (hk : ¬ IsOwn cfg k) :
    Balanced cfg (o.unregister k) := by
  cases hmid : o.active[k]? with
  | none =>
    have hsame : o.unregister k = o := by
      unfold Owned.unregister
      rw [hmid]
    rw [hsame]
    exact h
  | some mid =>
    have hlog : (o.unregister k).cbLog = o.cbLog ++ [.unInhibitCB mid] := by
      unfold Owned.unregister
      rw [hmid]
    have hmidId : mid.id = k := h.keyed k mid hmid
    constructor
    · intro id j hj
      rw [Owned.active_unregister] at hj
      split at hj
      · exact absurd hj (by simp)
      · exact h.keyed id j hj
    · intro id hown
      have hbal := h.client id hown
      rw [hlog, inhibitCBs_unInhibitCB, unInhibitCBs_unInhibitCB, Owned.active_unregister, hmidId]
      by_cases hid : id = k
      · rw [hid, hmid] at hbal
        rw [hid]
        simp only [if_true, Option.isSome_some, Option.isSome_none] at hbal ⊢
        simp only [Bool.false_eq_true, if_false]
        omega
      · rw [if_neg (Ne.symm hid), if_neg hid]
        omega
    · intro id hown
      have hne : k ≠ id := fun heq => hk (heq ▸ hown)
      rw [hlog, inhibitCBs_unInhibitCB, unInhibitCBs_unInhibitCB, hmidId, if_neg hne]
      exact h.own id hown

lemma unregisterAll (h : Balanced cfg o) {ids : List InhibitID}
    (hids : ∀ id ∈ ids, ¬ IsOwn cfg id) : Balanced cfg (ids.foldl Owned.unregister o) := by
  induction ids generalizing o with
  | nil => exact h
  | cons id ids ih =>
    have hfirst : ¬ IsOwn cfg id := hids id List.mem_cons_self
    have hrest : ∀ id ∈ ids, ¬ IsOwn cfg id := fun id hid => hids id (List.mem_cons_of_mem _ hid)
    exact ih (h.unregister hfirst) hrest

/-- A change of the daemon's own inhibits. -/
lemma own_change (h : Balanced cfg o) {active : StdMap InhibitID Inhibit}
    (hkeyed : ∀ (id : InhibitID) (i : Inhibit), active[id]? = some i → i.id = id)
    (hsame : ∀ id, ¬ IsOwn cfg id → active[id]? = o.active[id]?) :
    Balanced cfg { o with active } where
  keyed := hkeyed
  client id hown := by
    show unInhibitCBs o.cbLog id + (if (active[id]?).isSome then 1 else 0) = _
    rw [hsame id hown]
    exact h.client id hown
  own := h.own

end Balanced

/-! ## The invariant -/

abbrev Locks := OwnedLocks Owner UInt32

/-- `lastCookie` counts the locks, so no cookie is handed out twice. -/
structure Counted (lastCookie : UInt32) (l : Locks) : Prop where
  lastCookie : lastCookie.toNat = l.issued.length
  le : ∀ p ∈ l.issued, p.2.toNat ≤ l.issued.length
  nodup : l.issued.Nodup
  proper : ∀ p ∈ l.issued, p.1.Proper
  heldIssued : l.HeldIssued

/-- What is active is what is held, and the callbacks were made for it. -/
structure Inv (cfg : OwnerConfig) (o : Owned) (lastCookie : UInt32) (l : Locks) : Prop where
  owners : OwnersOk cfg o
  balanced : Balanced cfg o
  counted : Counted lastCookie l
  active : ∀ id : InhibitID, (o.active[id]?).isSome ↔ ∃ p ∈ l.held, id = lockId cfg p
  inhibitCB : ∀ id : InhibitID,
    inhibitCBs o.cbLog id = if ∃ p ∈ l.issued, p.1 ≠ .us ∧ id = lockId cfg p then 1 else 0

namespace Counted

variable {lastCookie : UInt32} {l : Locks}

lemma fresh (h : Counted lastCookie l) {o : Owner}
    (hroom : (l.step (.acquire o (SimpleDBusInhibitInterface.nextCookie lastCookie))).issued.length
      < 2 ^ 32 - 1) :
    (SimpleDBusInhibitInterface.nextCookie lastCookie).toNat = l.issued.length + 1 ∧
      (o, SimpleDBusInhibitInterface.nextCookie lastCookie) ∉ l.issued := by
  have hlen : (l.issued ++ [(o, SimpleDBusInhibitInterface.nextCookie lastCookie)]).length
      < 2 ^ 32 - 1 := hroom
  have hlast := h.lastCookie
  rw [List.length_append, List.length_singleton] at hlen
  have hnext := SimpleDBusInhibitInterface.toNat_nextCookie (c := lastCookie) (by omega)
  rw [hlast] at hnext
  refine ⟨hnext, fun hmem => ?_⟩
  have hle : (SimpleDBusInhibitInterface.nextCookie lastCookie).toNat ≤ l.issued.length :=
    h.le _ hmem
  omega

lemma acquire (h : Counted lastCookie l) {o : Owner} (ho : o.Proper)
    (hroom : (l.step (.acquire o (SimpleDBusInhibitInterface.nextCookie lastCookie))).issued.length
      < 2 ^ 32 - 1) :
    Counted (SimpleDBusInhibitInterface.nextCookie lastCookie)
      (l.step (.acquire o (SimpleDBusInhibitInterface.nextCookie lastCookie))) := by
  obtain ⟨hnext, hnew⟩ := h.fresh hroom
  set c := SimpleDBusInhibitInterface.nextCookie lastCookie
  have hissued : (l.step (.acquire o c)).issued = l.issued ++ [(o, c)] := rfl
  have hlen : (l.issued ++ [(o, c)]).length = l.issued.length + 1 := by
    rw [List.length_append, List.length_singleton]
  constructor
  · rw [hissued, hlen, hnext]
  · intro p hp
    rw [hissued] at hp ⊢
    rcases List.mem_append.mp hp with hp | hp
    · have hle := h.le p hp
      omega
    · rw [List.mem_singleton.mp hp]
      show c.toNat ≤ _
      omega
  · rw [hissued]
    exact List.Nodup.append h.nodup (List.nodup_singleton _)
      (List.disjoint_singleton.mpr hnew)
  · intro p hp
    rw [hissued] at hp
    rcases List.mem_append.mp hp with hp | hp
    · exact h.proper p hp
    · rw [List.mem_singleton.mp hp]
      exact ho
  · exact h.heldIssued.step _

/-- Releasing hands nothing out. -/
lemma of_issued (h : Counted lastCookie l) (e : OwnedLocks.Event Owner UInt32)
    (hissued : (l.step e).issued = l.issued) : Counted lastCookie (l.step e) where
  lastCookie := by rw [hissued]; exact h.lastCookie
  le := by rw [hissued]; exact h.le
  nodup := by rw [hissued]; exact h.nodup
  proper := by rw [hissued]; exact h.proper
  heldIssued := h.heldIssued.step e

/-- A fresh lock has a fresh id. -/
lemma lockId_fresh (h : Counted lastCookie l) (cfg : OwnerConfig) {o : Owner} (ho : o.Proper)
    (hroom : (l.step (.acquire o (SimpleDBusInhibitInterface.nextCookie lastCookie))).issued.length
      < 2 ^ 32 - 1) {p : Owner × UInt32} (hp : p ∈ l.issued) :
    lockId cfg (o, SimpleDBusInhibitInterface.nextCookie lastCookie) ≠ lockId cfg p := by
  intro heq
  have hsame := (lockId_inj (p := (o, SimpleDBusInhibitInterface.nextCookie lastCookie)) ho
    (h.proper p hp)).mp heq
  rw [← hsame] at hp
  exact (h.fresh hroom).2 hp

end Counted

/-! ### What is active -/

section Active

variable {cfg : OwnerConfig} {l : Locks} {active active' : StdMap InhibitID Inhibit}
  (h : ∀ id : InhibitID, (active[id]?).isSome ↔ ∃ p ∈ l.held, id = lockId cfg p)
include h

lemma active_acquire {w : Owner} {c : UInt32} {i : Inhibit} (hid : i.id = lockId cfg (w, c))
    (hactive : ∀ id : InhibitID, active'[id]? =
      if id = i.id ∧ active[i.id]? = none then some i else active[id]?) (id : InhibitID) :
    (active'[id]?).isSome ↔ ∃ p ∈ (l.step (.acquire w c)).held, id = lockId cfg p := by
  have hsome : (active'[id]?).isSome ↔ id = i.id ∨ (active[id]?).isSome := by
    rw [hactive]
    by_cases heq : id = i.id
    · rw [heq]
      cases active[i.id]? <;> simp
    · simp [heq]
  have hheld : (l.step (.acquire w c)).held = insert (w, c) l.held := rfl
  rw [hsome, h, hheld, hid]
  simp only [Finset.mem_insert, exists_eq_or_imp]

lemma active_release (hproper : ∀ p ∈ l.held, p.1.Proper) {w : Owner} {c : UInt32}
    (hw : w.Proper)
    (hactive : ∀ id : InhibitID,
      active'[id]? = if id = lockId cfg (w, c) then none else active[id]?)
    (id : InhibitID) :
    (active'[id]?).isSome ↔ ∃ p ∈ (l.step (.release w c)).held, id = lockId cfg p := by
  have hheld : (l.step (.release w c)).held = l.held.erase (w, c) := rfl
  rw [hactive, hheld]
  constructor
  · intro hsome
    split at hsome
    · exact absurd hsome (by decide)
    · rename_i hne
      obtain ⟨p, hp, hid⟩ := (h id).mp hsome
      refine ⟨p, Finset.mem_erase.mpr ⟨fun heq => hne ?_, hp⟩, hid⟩
      rw [hid, heq]
  · intro hex
    obtain ⟨p, hp, hid⟩ := hex
    obtain ⟨hne, hp⟩ := Finset.mem_erase.mp hp
    rw [if_neg]
    · exact (h id).mpr ⟨p, hp, hid⟩
    · intro heq
      exact hne ((lockId_inj (hproper p hp) (q := (w, c)) hw).mp (hid.symm.trans heq))

end Active

/-! ### Steps -/

lemma inhibitCBs_unregister (o : Owned) (k id : InhibitID) :
    inhibitCBs (o.unregister k).cbLog id = inhibitCBs o.cbLog id := by
  unfold Owned.unregister
  split
  · rfl
  · exact inhibitCBs_unInhibitCB _ _ _

lemma inhibitCBs_unregisterAll (ids : List InhibitID) (o : Owned) (id : InhibitID) :
    inhibitCBs (ids.foldl Owned.unregister o).cbLog id = inhibitCBs o.cbLog id := by
  induction ids generalizing o with
  | nil => rfl
  | cons k ids ih => rw [List.foldl_cons, ih, inhibitCBs_unregister]

namespace Inv

variable {cfg : OwnerConfig} {o : Owned} {lastCookie : UInt32} {l : Locks}

lemma not_isOwn {name : Bytes} (hname : ClientName name) (c : UInt32) :
    ¬ IsOwn cfg (OwnerId.mkId cfg name c) := by
  intro hown
  obtain ⟨d, hd⟩ := hown
  exact hname.ne_us ((OwnerId.mkId_inj cfg hname.fits fits_us).mp hd).1

lemma heldProper (h : Inv cfg o lastCookie l) : ∀ p ∈ l.held, p.1.Proper :=
  fun p hp => h.counted.proper p (h.counted.heldIssued p hp)

/-- The next lock of an owner is not active yet. -/
lemma active_fresh (h : Inv cfg o lastCookie l) {w : Owner} (hw : w.Proper)
    (hroom : (l.step (.acquire w (SimpleDBusInhibitInterface.nextCookie lastCookie))).issued.length
      < 2 ^ 32 - 1) :
    o.active[lockId cfg (w, SimpleDBusInhibitInterface.nextCookie lastCookie)]? = none := by
  by_contra hne
  obtain ⟨p, hp, hid⟩ := (h.active _).mp (Option.isSome_iff_ne_none.mpr hne)
  exact h.counted.lockId_fresh cfg hw hroom (h.counted.heldIssued p hp) hid

/-- A client gets a lock. -/
lemma track (h : Inv cfg o lastCookie l) {name : Bytes} (hname : ClientName name) {i : Inhibit}
    (hid : i.id = OwnerId.mkId cfg name (SimpleDBusInhibitInterface.nextCookie lastCookie))
    (hroom : (l.step (.acquire (.client name)
      (SimpleDBusInhibitInterface.nextCookie lastCookie))).issued.length < 2 ^ 32 - 1) :
    Inv cfg (o.apply (.track name i)) (SimpleDBusInhibitInterface.nextCookie lastCookie)
      (l.step (.acquire (.client name) (SimpleDBusInhibitInterface.nextCookie lastCookie))) := by
  have hproper : (Owner.client name).Proper := hname
  have hfresh := h.active_fresh hproper hroom
  have hnew := fun p => h.counted.lockId_fresh cfg hproper hroom (p := p)
  set c := SimpleDBusInhibitInterface.nextCookie lastCookie
  have hlock : i.id = lockId cfg (.client name, c) := hid
  rw [← hlock] at hfresh
  have hnotOwn : ¬ IsOwn cfg i.id := by
    rw [hid]
    exact not_isOwn hname c
  constructor
  · exact h.owners.apply ⟨hname, c, hid⟩
  · rw [Owned.apply_track]
    exact (h.balanced.register hnotOwn hfresh).setOwners _ _
  · exact h.counted.acquire hproper hroom
  · exact active_acquire h.active hlock fun id => Owned.active_track o name i id
  · intro id
    have hlog : (o.apply (.track name i)).cbLog = o.cbLog ++ [.inhibitCB i] := rfl
    have hissued : (l.step (.acquire (.client name) c)).issued = l.issued ++ [(.client name, c)] :=
      rfl
    rw [hlog, inhibitCBs_inhibitCB, h.inhibitCB, hissued]
    by_cases heq : i.id = id
    · -- nothing was called for a fresh id
      have hnone : ¬ ∃ p ∈ l.issued, p.1 ≠ .us ∧ id = lockId cfg p := by
        intro hex
        obtain ⟨p, hp, -, hpid⟩ := hex
        exact hnew p hp (hlock.symm.trans (heq.trans hpid))
      have hsome : ∃ p ∈ l.issued ++ [(Owner.client name, c)], p.1 ≠ .us ∧ id = lockId cfg p :=
        ⟨(.client name, c), by simp, by simp, heq.symm.trans hlock⟩
      rw [if_neg hnone, if_pos heq, if_pos hsome]
    · have hsame : (∃ p ∈ l.issued ++ [(Owner.client name, c)], p.1 ≠ .us ∧ id = lockId cfg p) ↔
          ∃ p ∈ l.issued, p.1 ≠ .us ∧ id = lockId cfg p := by
        constructor
        · intro hex
          obtain ⟨p, hp, hne, hpid⟩ := hex
          -- an id that is not the new one was issued before
          rcases List.mem_append.mp hp with hp | hp
          · exact ⟨p, hp, hne, hpid⟩
          · rw [List.mem_singleton.mp hp] at hpid
            exact absurd (hlock.trans hpid.symm) heq
        · intro hex
          obtain ⟨p, hp, hne, hpid⟩ := hex
          exact ⟨p, List.mem_append_left _ hp, hne, hpid⟩
      rw [if_neg heq, Nat.add_zero]
      exact if_congr hsame.symm rfl rfl

/-- A client gives a lock back, or one it does not hold. -/
lemma untrack (h : Inv cfg o lastCookie l) {name : Bytes} (hname : ClientName name) (c : UInt32)
    {tail : List InhibitID} (htail : Leftover (OwnerId.mkId cfg name c) (o.ownersOf name) tail) :
    Inv cfg (o.apply (.untrack name (OwnerId.mkId cfg name c) tail)) lastCookie
      (l.step (.release (.client name) c)) := by
  have hproper : (Owner.client name).Proper := hname
  constructor
  · exact h.owners.apply ⟨hname, ⟨c, rfl⟩, htail⟩
  · rw [Owned.apply_untrack]
    exact (h.balanced.unregister (not_isOwn hname c)).setOwners _ _
  · exact h.counted.of_issued _ rfl
  · exact active_release h.active h.heldProper hproper
      fun id => Owned.active_untrack o name (OwnerId.mkId cfg name c) tail id
  · intro id
    have hlog : (o.apply (.untrack name (OwnerId.mkId cfg name c) tail)).cbLog =
      (o.unregister (OwnerId.mkId cfg name c)).cbLog := rfl
    rw [hlog, inhibitCBs_unregister]
    exact h.inhibitCB id

/-- A client is gone. -/
lemma lost (h : Inv cfg o lastCookie l) (name : Bytes) :
    Inv cfg (o.apply (.lost name)) lastCookie (l.step (.disconnect (.client name))) := by
  have hnotOwn : ∀ id ∈ o.ownersOf name, ¬ IsOwn cfg id := by
    intro id hid hown
    rcases h.owners.listed name id hid with hnil | ⟨hname, c, hc⟩
    · obtain ⟨d, hd⟩ := hown
      exact OwnerId.mkId_ne_nil cfg fits_us d (hd.symm.trans hnil)
    · rw [hc] at hown
      exact not_isOwn hname c hown
  have hheld : (l.step (.disconnect (.client name))).held =
      l.held.filter fun p => p.1 ≠ .client name := rfl
  constructor
  · exact h.owners.apply trivial
  · rw [Owned.apply_lost]
    exact (h.balanced.unregisterAll hnotOwn).setOwners _ _
  · exact h.counted.of_issued _ rfl
  · intro id
    rw [Owned.active_lost, hheld]
    constructor
    · intro hsome
      split at hsome
      · exact absurd hsome (by decide)
      · rename_i hnot
        obtain ⟨p, hp, hid⟩ := (h.active id).mp hsome
        refine ⟨p, Finset.mem_filter.mpr ⟨hp, fun hclient => hnot ?_⟩, hid⟩
        -- what is active for a client is in its list
        obtain ⟨name', c, hc, hown⟩ := h.owners.active id hsome
        have hfits : Fits name' := hown.elim (fun hus => hus ▸ fits_us) fun hlist => hlist.1.fits
        have hname := h.heldProper p hp
        rw [hid] at hc
        have hsame := ((OwnerId.mkId_inj cfg hname.fits hfits).mp hc).1
        rw [hclient] at hsame hname
        have hname : ClientName name := hname
        rcases hown with hus | hlist
        · exact absurd (hsame.trans hus) hname.ne_us
        · rw [show name' = name from hsame.symm] at hlist
          exact hlist.2
    · intro hex
      obtain ⟨p, hp, hid⟩ := hex
      obtain ⟨hp, hne⟩ := Finset.mem_filter.mp hp
      rw [if_neg]
      · exact (h.active id).mpr ⟨p, hp, hid⟩
      · intro hmem
        have hpproper := h.heldProper p hp
        rcases h.owners.listed name id hmem with hnil | ⟨hname, c, hc⟩
        · exact OwnerId.mkId_ne_nil cfg hpproper.fits p.2 (hid.symm.trans hnil)
        · have heq := (lockId_inj hpproper (q := (.client name, c)) hname).mp (hid.symm.trans hc)
          exact hne (by rw [heq])
  · intro id
    have hlog : (o.apply (.lost name)).cbLog =
      ((o.ownersOf name).foldl Owned.unregister o).cbLog := rfl
    rw [hlog, inhibitCBs_unregisterAll]
    exact h.inhibitCB id

/-- The daemon gets a lock of its own. -/
lemma acquire_us (h : Inv cfg o lastCookie l) {i : Inhibit}
    (hid : i.id = OwnerId.mkId cfg (lit "us") (SimpleDBusInhibitInterface.nextCookie lastCookie))
    (hroom :
      (l.step (.acquire .us (SimpleDBusInhibitInterface.nextCookie lastCookie))).issued.length <
        2 ^ 32 - 1) :
    Inv cfg { o with active := o.active.insertIfNew i.id i }
      (SimpleDBusInhibitInterface.nextCookie lastCookie)
      (l.step (.acquire .us (SimpleDBusInhibitInterface.nextCookie lastCookie))) := by
  set c := SimpleDBusInhibitInterface.nextCookie lastCookie
  have hactive := fun id => StdMap.getElem?_insertIfNew o.active i.id i id
  have hown : IsOwn cfg i.id := ⟨c, hid⟩
  constructor
  · exact h.owners.register_us hid
  · apply h.balanced.own_change
    · intro id j hj
      rw [hactive] at hj
      split at hj
      · rename_i hand
        rw [hand.1, ← Option.some.inj hj]
      · exact h.balanced.keyed id j hj
    · intro id hnot
      rw [hactive, if_neg]
      intro hand
      rw [hand.1] at hnot
      exact hnot hown
  · exact h.counted.acquire trivial hroom
  · exact active_acquire h.active hid hactive
  · intro id
    have hissued : (l.step (.acquire .us c)).issued = l.issued ++ [(.us, c)] := rfl
    have hsame : (∃ p ∈ l.issued ++ [(Owner.us, c)], p.1 ≠ .us ∧ id = lockId cfg p) ↔
        ∃ p ∈ l.issued, p.1 ≠ .us ∧ id = lockId cfg p := by
      simp
    rw [hissued, if_congr hsame rfl rfl]
    exact h.inhibitCB id

/-- The daemon gives a lock of its own back. -/
lemma release_us (h : Inv cfg o lastCookie l) (c : UInt32) :
    Inv cfg { o with active := o.active.erase (OwnerId.mkId cfg (lit "us") c) } lastCookie
      (l.step (.release .us c)) := by
  have hactive := fun id => StdMap.getElem?_erase o.active (OwnerId.mkId cfg (lit "us") c) id
  constructor
  · exact h.owners.unregister_us _
  · apply h.balanced.own_change
    · intro id j hj
      rw [hactive] at hj
      split at hj
      · exact absurd hj (by simp)
      · exact h.balanced.keyed id j hj
    · intro id hnot
      rw [hactive, if_neg]
      intro heq
      exact hnot ⟨c, heq⟩
  · exact h.counted.of_issued _ rfl
  · exact active_release h.active h.heldProper (w := .us) trivial hactive
  · exact h.inhibitCB

end Inv

/-! ## Runs -/

namespace OwnerRefinement

/-- An implementation, and the locks that its clients and the daemon know of. -/
structure State where
  dbus : OwnerKind.State := OwnerKind.initial
  locks : Locks := {}

/-- The cookie in the answer among `sent`; 0 is no cookie. -/
def answeredCookie (sent : List Sent) : UInt32 :=
  (sent.findSome? fun
    | .methodReturn _ [.uint32 c] => some c
    | _ => none).getD 0

/-- The name that a `NameOwnerChanged` reports as gone: it has no new owner. -/
def departed : List Arg → Option Bytes
  | [.string name, .string _, .string newOwner] => if newOwner = [] then some name else none
  | _ => none

variable (cfg : SimpleDBusInhibitInterface.Config) (mName : Bytes)

/-- What the event between `s` and `s'` means to those who hold locks. -/
def lockEvent (s s' : OwnerKind.State) :
    OwnerKind.Event → Option (OwnedLocks.Event Owner UInt32)
  | .message _ _ msg =>
    if (OwnerKind.simpleDBus cfg).toClass.IsInhibit msg then
      (twoStrings msg.args).map fun _ => .acquire (.client msg.sender)
        (answeredCookie (s'.world.obj.sub.sent.drop s.world.obj.sub.sent.length))
    else if (OwnerKind.simpleDBus cfg).toClass.IsUnInhibit msg then
      (oneUInt32 msg.args).map fun cookie => .release (.client msg.sender) cookie
    else if IsNameOwnerChanged msg then
      (departed msg.args).map fun name => .disconnect (.client name)
    else none
  | .inhibit now r =>
    match (InhibitInterface.inhibit (SimpleDBusInhibitInterface.overrides cfg) now r
      s.world.obj).1 with
    | .ok i => some (.acquire .us (OwnerId.cookie i.id))
    | .error _ => none
  | .unInhibit cookie => some (.release .us cookie)

def step (s : State) (e : OwnerKind.Event) : State :=
  let dbus := (OwnerKind.simpleDBus cfg).step mName s.dbus e
  { dbus
    locks := match lockEvent cfg s.dbus dbus e with
      | some a => s.locks.step a
      | none => s.locks }

/-- A `NameOwnerChanged` of the bus daemon. A name that gets an owner was not in use before, since
unique names are not reused and other names do not call. -/
def FromBus (l : Locks) (msg : Message) : Prop :=
  msg.sender = lit "org.freedesktop.DBus" ∧ ∃ name oldOwner newOwner,
    msg.args = [.string name, .string oldOwner, .string newOwner] ∧
      (newOwner ≠ [] → ∀ c, (Owner.client name, c) ∉ l.issued)

/-- What the bus and the clients keep to, and that the cookies do not run out. -/
structure Legal (s : State) (e : OwnerKind.Event) : Prop where
  issued : (step cfg mName s e).locks.issued.length < 2 ^ 32 - 1
  truthful : (OwnerKind.simpleDBus cfg).Truthful s.dbus e
  sender : ∀ now tail msg, e = .message now tail msg → msg.type = .methodCall →
    msg.sender ≠ mName
  fromBus : ∀ now tail msg, e = .message now tail msg → IsNameOwnerChanged msg →
    FromBus s.locks msg

/-- What is active and which callbacks were made, in terms of the locks. -/
structure RefinesLocks (cfg : OwnerConfig) (s : State) : Prop where
  active : ∀ id : InhibitID, (s.dbus.world.obj.activeInhibits[id]?).isSome ↔
    ∃ p ∈ s.locks.held, id = lockId cfg p
  lockId_inj : Set.InjOn (lockId cfg) {p | p ∈ s.locks.issued}
  nodup : s.locks.issued.Nodup
  inhibitCB : ∀ id : InhibitID, inhibitCBs s.dbus.world.cbLog id =
    if ∃ p ∈ s.locks.issued, p.1 ≠ .us ∧ id = lockId cfg p then 1 else 0
  unInhibitCB : ∀ id : InhibitID, unInhibitCBs s.dbus.world.cbLog id =
    if ∃ p ∈ s.locks.issued, p.1 ≠ .us ∧ p ∉ s.locks.held ∧ id = lockId cfg p then 1 else 0

variable {cfg mName}

/-- No call is recorded, and the locks fit the object. -/
structure StateInv (cfg : SimpleDBusInhibitInterface.Config) (s : State) : Prop where
  methodCalls : s.dbus.methodCalls = ∅
  inv : Inv cfg.toOwnerConfig (Owned.of s.dbus.world) s.dbus.world.obj.sub.lastCookie s.locks

lemma initial_inv : StateInv cfg {} where
  methodCalls := rfl
  inv :=
    { owners := (OwnerKind.initial_tracking (K := .simpleDBus cfg)).owners
      balanced :=
        { keyed := fun id i hi => by
            rw [show (Owned.of OwnerKind.initial.world).active = ∅ from rfl,
              Std.ExtTreeMap.getElem?_empty] at hi
            exact absurd hi (by simp)
          client := fun id hid => by
            rw [show (Owned.of OwnerKind.initial.world).active = ∅ from rfl,
              Std.ExtTreeMap.getElem?_empty]
            rfl
          own := fun id hid => ⟨rfl, rfl⟩ }
      counted :=
        { lastCookie := rfl
          le := fun p hp => absurd hp List.not_mem_nil
          nodup := List.nodup_nil
          proper := fun p hp => absurd hp List.not_mem_nil
          heldIssued := fun p hp => absurd hp (Finset.notMem_empty p) }
      active := fun id => by
        rw [show (Owned.of OwnerKind.initial.world).active = ∅ from rfl,
          Std.ExtTreeMap.getElem?_empty]
        simp
      inhibitCB := fun id => by
        simp [Owned.of, OwnerKind.initial, inhibitCBs] }

/-- The cookie is read from the answer to the call. -/
lemma answeredCookie_return (old out : List Sent) (msg : Message) (c : UInt32) :
    answeredCookie ((old ++ .methodReturn msg [.uint32 c] :: out).drop old.length) = c := by
  rw [List.drop_left]
  rfl

section Messages

variable {s : State} {now : ℕ} {tail : List InhibitID} {msg : Message}

lemma step_locks_some {e : OwnerKind.Event} {a : OwnedLocks.Event Owner UInt32}
    (ha : lockEvent cfg s.dbus ((OwnerKind.simpleDBus cfg).step mName s.dbus e) e = some a) :
    (step cfg mName s e).locks = s.locks.step a := by
  unfold step
  simp only [ha]

lemma step_locks_none {e : OwnerKind.Event}
    (ha : lockEvent cfg s.dbus ((OwnerKind.simpleDBus cfg).step mName s.dbus e) e = none) :
    (step cfg mName s e).locks = s.locks := by
  unfold step
  simp only [ha]

/-- To follow a message, find its effect on the object and what it means to the locks. -/
lemma StateInv.of_effect (hmon : cfg.monitor = false) (h : StateInv cfg s) {e : Effect}
    (he : (OwnerKind.simpleDBus cfg).toClass.effect mName [] now tail
      s.dbus.world.obj.sub.lastCookie msg = e) {l : Locks}
    (hlocks : (step cfg mName s (.message now tail msg)).locks = l)
    (hinv : Inv cfg.toOwnerConfig ((Owned.of s.dbus.world).apply e)
      ((OwnerKind.simpleDBus cfg).toClass.cookieAfter s.dbus.world.obj.sub.lastCookie e) l) :
    StateInv cfg (step cfg mName s (.message now tail msg)) := by
  obtain ⟨hcalls, howned, hcookie⟩ := OwnerKind.message_owned (K := .simpleDBus cfg) mName
    (OwnerKind.ownCalls _ hmon) hmon h.methodCalls now tail msg
  rw [he] at howned hcookie
  refine ⟨hcalls, ?_⟩
  rw [hlocks]
  show Inv _ (Owned.of ((OwnerKind.simpleDBus cfg).step mName s.dbus _).world)
    ((OwnerKind.simpleDBus cfg).step mName s.dbus _).world.obj.sub.lastCookie l
  rw [howned, hcookie]
  exact hinv

lemma inhibitArgs_eq (cfg : SimpleDBusInhibitInterface.Config) (args : List Arg) :
    (OwnerKind.simpleDBus cfg).toClass.inhibitArgs args =
      (twoStrings args).map fun p => (p.1, p.2, cfg.inhibitType) := rfl

/-- An `Inhibit` call is answered with the next cookie. -/
lemma sent_inhibit (hmon : cfg.monitor = false) (now : ℕ) (tail : List InhibitID)
    (hin : (OwnerKind.simpleDBus cfg).toClass.IsInhibit msg)
    (hself : ¬ (msg.sender = mName ∨ msg.sender = [])) {strings : Bytes × Bytes}
    (hargs : twoStrings msg.args = some strings) (d : OwnerKind.State) :
    ∃ out, ((OwnerKind.simpleDBus cfg).step mName d (.message now tail msg)).world.obj.sub.sent =
      d.world.obj.sub.sent ++ .methodReturn msg
        [.uint32 (SimpleDBusInhibitInterface.nextCookie d.world.obj.sub.lastCookie)] :: out := by
  have hC := OwnerKind.ownCalls (.simpleDBus cfg) hmon
  have hparsed := inhibitArgs_eq cfg msg.args
  rw [hargs] at hparsed
  have hworld := (OwnerClass.deliver_inhibit now tail hmon hin hself d).2
  obtain ⟨w', hrun, -, -, out, hsent⟩ := handleInhibitMsg_owned cfg.toOwnerConfig hC.sends
    SimpleDBusInhibitInterface.nextCookie now hparsed d.world
  refine ⟨out, ?_⟩
  rw [← hsent]
  show ((OwnerKind.dispatcher mName now tail (.simpleDBus cfg)).deliver d
    msg).world.obj.sub.sent = _
  rw [OwnerKind.dispatcher_eq, hworld]
  exact congrArg (fun r => r.2.obj.sub.sent) hrun

lemma StateInv.inhibitMsg (hmon : cfg.monitor = false) (h : StateInv cfg s)
    (he : Legal cfg mName s (.message now tail msg))
    (hin : (OwnerKind.simpleDBus cfg).toClass.IsInhibit msg)
    (hself : ¬ (msg.sender = mName ∨ msg.sender = [])) :
    StateInv cfg (step cfg mName s (.message now tail msg)) := by
  have hsender : ClientName msg.sender := he.truthful.1 hin.1
  have heffect := OwnerClass.effect_inhibit now tail s.dbus.world.obj.sub.lastCookie hself hin
  rw [inhibitArgs_eq] at heffect
  have hevent : lockEvent cfg s.dbus
      ((OwnerKind.simpleDBus cfg).step mName s.dbus (.message now tail msg))
      (.message now tail msg) = _ := if_pos hin
  cases hargs : twoStrings msg.args with
  | none =>
    rw [hargs] at hevent heffect
    exact h.of_effect hmon heffect (step_locks_none hevent) h.inv
  | some strings =>
    obtain ⟨out, hsent⟩ := sent_inhibit hmon now tail hin hself hargs s.dbus
    rw [hargs, hsent, answeredCookie_return] at hevent
    rw [hargs] at heffect
    have hlocks := step_locks_some hevent
    have hroom := he.issued
    rw [hlocks] at hroom
    exact h.of_effect hmon heffect hlocks (h.inv.track hsender rfl hroom)

lemma StateInv.unInhibitMsg (hmon : cfg.monitor = false) (h : StateInv cfg s)
    (he : Legal cfg mName s (.message now tail msg))
    (hin : ¬ (OwnerKind.simpleDBus cfg).toClass.IsInhibit msg)
    (hun : (OwnerKind.simpleDBus cfg).toClass.IsUnInhibit msg)
    (hself : ¬ (msg.sender = mName ∨ msg.sender = [])) :
    StateInv cfg (step cfg mName s (.message now tail msg)) := by
  have hsender : ClientName msg.sender := he.truthful.1 hun.1
  have heffect :=
    OwnerClass.effect_unInhibit now tail s.dbus.world.obj.sub.lastCookie hself hin hun
  have hevent : lockEvent cfg s.dbus
      ((OwnerKind.simpleDBus cfg).step mName s.dbus (.message now tail msg))
      (.message now tail msg) = _ := (if_neg hin).trans (if_pos hun)
  cases hargs : oneUInt32 msg.args with
  | none =>
    rw [hargs] at hevent heffect
    exact h.of_effect hmon heffect (step_locks_none hevent) h.inv
  | some cookie =>
    have htail := he.truthful.2 cookie hun hargs
    rw [hargs] at hevent heffect
    exact h.of_effect hmon heffect (step_locks_some hevent) (h.inv.untrack hsender cookie htail)

/-- A name that the bus reports as new holds nothing, so it makes no difference that the object
takes it for gone. -/
lemma StateInv.nameLostMsg (hmon : cfg.monitor = false) (h : StateInv cfg s)
    (hbus : FromBus s.locks msg) (hnoc : IsNameOwnerChanged msg)
    (hself : ¬ (msg.sender = mName ∨ msg.sender = [])) :
    StateInv cfg (step cfg mName s (.message now tail msg)) := by
  obtain ⟨-, name, oldOwner, newOwner, hargs, hnew⟩ := hbus
  obtain ⟨hin, hun⟩ :=
    OwnerClass.not_calls_of_nameOwnerChanged (C := (OwnerKind.simpleDBus cfg).toClass) hnoc
  have heffect := OwnerClass.effect_nameOwnerChanged (C := (OwnerKind.simpleDBus cfg).toClass)
    now tail s.dbus.world.obj.sub.lastCookie hself hnoc
  have hevent : lockEvent cfg s.dbus
      ((OwnerKind.simpleDBus cfg).step mName s.dbus (.message now tail msg))
      (.message now tail msg) = _ := (if_neg hin).trans ((if_neg hun).trans (if_pos hnoc))
  rw [hargs] at heffect hevent
  have hlost := h.inv.lost name
  by_cases hgone : newOwner = []
  · rw [show departed [.string name, .string oldOwner, .string newOwner] = some name from
      if_pos hgone] at hevent
    exact h.of_effect hmon heffect (step_locks_some hevent) hlost
  · rw [show departed [.string name, .string oldOwner, .string newOwner] = none from
      if_neg hgone] at hevent
    rw [h.inv.counted.heldIssued.step_disconnect_eq (hnew hgone)] at hlost
    exact h.of_effect hmon heffect (step_locks_none hevent) hlost

end Messages

lemma StateInv.inhibit (hmon : cfg.monitor = false) {s : State} {now : ℕ} {r : InhibitRequest}
    (h : StateInv cfg s) (he : Legal cfg mName s (.inhibit now r)) :
    StateInv cfg (OwnerRefinement.step cfg mName s (.inhibit now r)) := by
  have hC := OwnerKind.ownCalls (.simpleDBus cfg) hmon
  obtain ⟨hcalls, hor⟩ := OwnerKind.inhibit_owned (K := .simpleDBus cfg) mName hC now r s.dbus
  have hevent : lockEvent cfg s.dbus
      ((OwnerKind.simpleDBus cfg).step mName s.dbus (.inhibit now r)) (.inhibit now r) =
      match (InhibitInterface.inhibit (OwnerKind.simpleDBus cfg).toClass.overrides now r
        s.dbus.world.obj).1 with
      | .ok i => some (.acquire .us (OwnerId.cookie i.id))
      | .error _ => none := rfl
  refine ⟨hcalls.trans h.methodCalls, ?_⟩
  show Inv _ (Owned.of ((OwnerKind.simpleDBus cfg).step mName s.dbus _).world)
    ((OwnerKind.simpleDBus cfg).step mName s.dbus _).world.obj.sub.lastCookie _
  rcases hor with ⟨hanswer, howned, hcookie⟩ | ⟨i, hanswer, hid, howned, hcookie⟩
  · rw [hanswer] at hevent
    rw [step_locks_none hevent, howned, hcookie]
    exact h.inv
  · have hread : OwnerId.cookie i.id =
        SimpleDBusInhibitInterface.nextCookie s.dbus.world.obj.sub.lastCookie := by
      rw [hid]
      exact OwnerId.cookie_mkId cfg.toOwnerConfig fits_us _
    rw [hanswer] at hevent
    dsimp only at hevent
    rw [hread] at hevent
    have hroom := he.issued
    rw [step_locks_some hevent] at hroom ⊢
    rw [howned, hcookie]
    exact h.inv.acquire_us hid hroom

lemma StateInv.unInhibit (hmon : cfg.monitor = false) {s : State} (h : StateInv cfg s)
    (cookie : UInt32) : StateInv cfg (OwnerRefinement.step cfg mName s (.unInhibit cookie)) := by
  obtain ⟨hcalls, howned, hcookie⟩ := OwnerKind.unInhibit_owned (K := .simpleDBus cfg) mName
    (OwnerKind.ownCalls (.simpleDBus cfg) hmon) cookie s.dbus
  refine ⟨hcalls.trans h.methodCalls, ?_⟩
  show Inv _ (Owned.of ((OwnerKind.simpleDBus cfg).step mName s.dbus _).world)
    ((OwnerKind.simpleDBus cfg).step mName s.dbus _).world.obj.sub.lastCookie
    (s.locks.step (.release .us cookie))
  rw [howned, hcookie]
  exact h.inv.release_us cookie

lemma StateInv.message (hmon : cfg.monitor = false) (hname : ClientName mName) {s : State}
    {now : ℕ} {tail : List InhibitID} {msg : Message} (h : StateInv cfg s)
    (he : Legal cfg mName s (.message now tail msg)) :
    StateInv cfg (OwnerRefinement.step cfg mName s (.message now tail msg)) := by
  -- only clients call
  have hcall : msg.type = .methodCall → ¬ (msg.sender = mName ∨ msg.sender = []) := by
    intro htype hor
    have hsender : ClientName msg.sender := he.truthful.1 htype
    rcases hor with hself | hnil
    · exact he.sender now tail msg rfl htype hself
    · have hcolon := hsender.colon
      rw [hnil] at hcolon
      exact absurd hcolon (by decide)
  by_cases hin : (OwnerKind.simpleDBus cfg).toClass.IsInhibit msg
  · exact h.inhibitMsg hmon he hin (hcall hin.1)
  by_cases hun : (OwnerKind.simpleDBus cfg).toClass.IsUnInhibit msg
  · exact h.unInhibitMsg hmon he hin hun (hcall hun.1)
  by_cases hnoc : IsNameOwnerChanged msg
  · have hbus := he.fromBus now tail msg rfl hnoc
    have hself : ¬ (msg.sender = mName ∨ msg.sender = []) := by
      rw [hbus.1]
      intro hor
      rcases hor with hself | hnil
      · have hcolon := hname.colon
        rw [← hself] at hcolon
        exact absurd hcolon (by decide)
      · exact absurd hnil (by decide)
    exact h.nameLostMsg hmon hbus hnoc hself
  · have hevent : lockEvent cfg s.dbus
        ((OwnerKind.simpleDBus cfg).step mName s.dbus (.message now tail msg))
        (.message now tail msg) = none :=
      (if_neg hin).trans ((if_neg hun).trans (if_neg hnoc))
    exact h.of_effect hmon (OwnerClass.effect_other now tail _ (Or.inr ⟨hin, hun, hnoc⟩))
      (step_locks_none hevent) h.inv

lemma StateInv.step (hmon : cfg.monitor = false) (hname : ClientName mName) {s : State}
    {e : OwnerKind.Event} (h : StateInv cfg s) (he : Legal cfg mName s e) :
    StateInv cfg (OwnerRefinement.step cfg mName s e) := by
  rcases e with ⟨now, tail, msg⟩ | ⟨now, r⟩ | cookie
  · exact h.message hmon hname he
  · exact h.inhibit hmon he
  · exact h.unInhibit hmon cookie

/-! ## The refinement -/

/-- A client's lock has been reported as released exactly when it is not held any more. -/
lemma Inv.unInhibitCB {cfg : OwnerConfig} {o : Owned} {lastCookie : UInt32} {l : Locks}
    (h : Inv cfg o lastCookie l) (id : InhibitID) :
    unInhibitCBs o.cbLog id =
      if ∃ p ∈ l.issued, p.1 ≠ .us ∧ p ∉ l.held ∧ id = lockId cfg p then 1 else 0 := by
  have hproper := h.counted.proper
  have hin := h.inhibitCB id
  -- our own inhibits are released without a callback
  by_cases hown : IsOwn cfg id
  · rw [(h.balanced.own id hown).2, if_neg]
    intro hex
    obtain ⟨⟨w, c⟩, hp, hne, -, hid⟩ := hex
    rcases w with _ | name
    · exact hne rfl
    · rw [hid] at hown
      exact Inv.not_isOwn (hproper _ hp) c hown
  have hbal := h.balanced.client id hown
  by_cases hissued : ∃ p ∈ l.issued, p.1 ≠ .us ∧ id = lockId cfg p
  · rw [if_pos hissued] at hin
    obtain ⟨p, hp, hne, hid⟩ := hissued
    -- the calls for an id of a client balance what is active
    by_cases hheld : p ∈ l.held
    · have hactive := (h.active id).mpr ⟨p, hheld, hid⟩
      rw [if_pos hactive] at hbal
      rw [if_neg]
      · omega
      · intro hex
        obtain ⟨q, hq, -, hnot, hqid⟩ := hex
        have hpq := (lockId_inj (hproper p hp) (hproper q hq)).mp (hid.symm.trans hqid)
        rw [hpq] at hheld
        exact hnot hheld
    · have hinactive : ¬ (o.active[id]?).isSome := by
        intro hsome
        obtain ⟨q, hq, hqid⟩ := (h.active id).mp hsome
        have hpq := (lockId_inj (hproper p hp) (h.heldProper q hq)).mp (hid.symm.trans hqid)
        rw [← hpq] at hq
        exact hheld hq
      rw [if_neg hinactive] at hbal
      rw [if_pos ⟨p, hp, hne, hheld, hid⟩]
      omega
  · rw [if_neg hissued] at hin
    rw [if_neg]
    · omega
    · intro hex
      obtain ⟨p, hp, hne, -, hid⟩ := hex
      exact hissued ⟨p, hp, hne, hid⟩

/-- After every run, what is active is what is held: the pairs of owner and cookie that were handed
out and neither released by their owner nor lost with it. `inhibitCB` ran once for each pair of a
client, and `unInhibitCB` once for each that is held no more. -/
theorem refines_ownedLocks (cfg : SimpleDBusInhibitInterface.Config) (hmon : cfg.monitor = false)
    {mName : Bytes} (hname : ClientName mName) {es : List OwnerKind.Event}
    (hes : Transition.Along (step cfg mName) (Legal cfg mName) {} es) :
    RefinesLocks cfg.toOwnerConfig (Transition.run (step cfg mName) {} es) := by
  have h : StateInv cfg (Transition.run (step cfg mName) {} es) :=
    Transition.invariant initial_inv (fun s e h he => h.step hmon hname he) hes
  constructor
  · exact h.inv.active
  · intro p hp q hq heq
    exact (lockId_inj (h.inv.counted.proper p hp) (h.inv.counted.proper q hq)).mp heq
  · exact h.inv.counted.nodup
  · exact h.inv.inhibitCB
  · exact Inv.unInhibitCB h.inv

lemma length_issued_step (cfg : SimpleDBusInhibitInterface.Config) (mName : Bytes) (s : State)
    (e : OwnerKind.Event) :
    (step cfg mName s e).locks.issued.length ≤ s.locks.issued.length + 1 := by
  unfold step
  dsimp only
  split
  · exact OwnedLocks.length_issued_step _ _
  · exact Nat.le_succ _

/-- A client takes a lock, the daemon takes one, and the client is gone. -/
theorem refines_ownedLocks_three :
    let cfg := FreedesktopScreenSaverInhibitInterface OwnerKind.exampleConfig
    let es : List OwnerKind.Event :=
      [.message 0 [] ((OwnerKind.simpleDBus cfg).inhibitCall ":1.1" [.string [], .string []]),
        .inhibit 0 { type := InhibitType.SCREENSAVER, appname := [], reason := [] },
        .message 0 [] (OwnerKind.nameLost "org.freedesktop.DBus" ":1.1")]
    RefinesLocks cfg.toOwnerConfig (Transition.run (step cfg (lit ":1.0")) {} es) := by
  intro cfg es
  have hname : ClientName (lit ":1.0") := ⟨by decide, by decide, by decide⟩
  apply refines_ownedLocks cfg rfl hname
  set s₁ := step cfg (lit ":1.0") {} (.message 0 []
    ((OwnerKind.simpleDBus cfg).inhibitCall ":1.1" [.string [], .string []]))
  set s₂ := step cfg (lit ":1.0") s₁
    (.inhibit 0 { type := InhibitType.SCREENSAVER, appname := [], reason := [] })
  have h₁ : s₁.locks.issued.length ≤ 1 := length_issued_step _ _ _ _
  have h₂ : s₂.locks.issued.length ≤ s₁.locks.issued.length + 1 :=
    length_issued_step _ _ _ _
  have h₃ := length_issued_step cfg (lit ":1.0") s₂
    (.message 0 [] (OwnerKind.nameLost "org.freedesktop.DBus" ":1.1"))
  refine ⟨⟨?_, ?_, ?_, ?_⟩, ⟨?_, ?_, ?_, ?_⟩, ⟨?_, ?_, ?_, ?_⟩, trivial⟩
  · show s₁.locks.issued.length < _
    omega
  · exact OwnerKind.truthful_inhibitCall (by decide) OwnerKind.clientName_one _ _ _
  · intro now tail msg heq _
    cases heq
    decide
  · intro now tail msg heq hnoc
    cases heq
    exact absurd hnoc.1 (by decide)
  · show s₂.locks.issued.length < _
    omega
  · trivial
  · intro now tail msg heq
    cases heq
  · intro now tail msg heq
    cases heq
  · show (step cfg _ s₂ _).locks.issued.length < _
    omega
  · exact OwnerKind.truthful_nameLost _ _ _ _
  · intro now tail msg heq hcall
    cases heq
    exact absurd hcall (by decide)
  · intro now tail msg heq _
    cases heq
    exact ⟨rfl, lit ":1.1", lit ":1.1", [], rfl, fun hne => absurd rfl hne⟩

end OwnerRefinement

end UnifiedInhibit
