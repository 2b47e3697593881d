import UnifiedInhibit.GnomeScreenSaverInhibitInterface
import UnifiedInhibit.OwnerTracking

/-!
# The owner lists of `GnomeScreenSaverInhibitInterface`

What a client obtained through `Inhibit` is released when the client disappears, as long as it is in
the client's list. `SimulateUserActivity` and the expiry of its inhibit clear that list.
-/

namespace UnifiedInhibit
namespace GnomeScreenSaverInhibitInterface

open DBus (Message)

/-! ## Runs -/

/-- The interface, and the ids that clients have obtained through `Inhibit`. -/
structure Run where
  world : Alone OwnerFields
  obtained : List (Bytes × InhibitID) := []

inductive Event where
  | inhibit (now : ℕ) (msg : Message)
  | unInhibit (tail : List InhibitID) (msg : Message)
  | simulate (now : ℕ) (msg : Message)
  | poll (now : ℕ)

variable (base : OwnerConfig)

/-- `handleInhibitMsg` on its own, in an implementation. -/
def inhibitAlone (now : ℕ) (msg : Message) (w : Alone OwnerFields) : Alone OwnerFields :=
  (SimpleDBusInhibitInterface.handleInhibitMsg (GnomeScreenSaverInhibitInterface base) Alone.this
    Alone.callbacks now msg none w).2

/-- The ids of the inhibits that a step has registered. -/
def registered (w w' : Alone OwnerFields) : List InhibitID :=
  (w'.cbLog.drop w.cbLog.length).filterMap fun c =>
    match c with
    | .inhibitCB i => some i.id
    | .unInhibitCB _ => none

def step (s : Run) : Event → Run
  | .inhibit now msg =>
    { world := inhibitAlone base now msg s.world
      obtained := s.obtained ++
        (registered s.world (inhibitAlone base now msg s.world)).map fun id => (msg.sender, id) }
  | .unInhibit tail msg =>
    { s with world :=
        (SimpleDBusInhibitInterface.handleUnInhibitMsg (GnomeScreenSaverInhibitInterface base)
          Alone.this Alone.callbacks tail msg none s.world).2 }
  | .simulate now msg =>
    { s with world :=
        (handleSimActivityMsg base Alone.this Alone.callbacks now msg none s.world).2 }
  | .poll now => { s with world := (poll base Alone.this Alone.callbacks now s.world).2 }

/-- Messages come from clients, `lastCookie` does not wrap around, and `std::remove_if` leaves
behind what it may. -/
def Legal (s : Run) : Event → Prop
  | .inhibit _ msg => ClientName msg.sender ∧ s.world.obj.sub.lastCookie.toNat + 1 < 2 ^ 32
  | .unInhibit tail msg => ClientName msg.sender ∧ ∀ c, oneUInt32 msg.args = some c →
    Leftover (OwnerId.mkId base msg.sender c) ((Owned.of s.world).ownersOf msg.sender) tail
  | .simulate _ msg => ClientName msg.sender
  | .poll _ => True

/-- What a client has obtained and not released is in its list. -/
def Listed (s : Run) : Prop :=
  ∀ p ∈ s.obtained, p.2 ∈ s.world.obj.activeInhibits → p.2 ∈ (Owned.of s.world).ownersOf p.1

/-- When a client disappears, nothing that it has obtained stays active. -/
def CrashReleased (s : Run) : Prop :=
  ∀ msg name, oneString msg.args = some name → ∀ p ∈ s.obtained, p.1 = name →
    p.2 ∉ (SimpleDBusInhibitInterface.handleNameLostMsg (GnomeScreenSaverInhibitInterface base)
      Alone.this Alone.callbacks msg s.world).2.obj.activeInhibits

/-- The client holds nothing that it has obtained through `Inhibit`. -/
def HoldsNone (s : Run) (name : Bytes) : Prop :=
  ∀ p ∈ s.obtained, p.1 = name → p.2 ∉ s.world.obj.activeInhibits

/-- `SimulateUserActivity` comes from clients that hold nothing else, and so expires. -/
def Apart (s : Run) : Event → Prop
  | .simulate _ msg => HoldsNone s msg.sender
  | .poll now => ∀ p ∈ (simActivity base).expiredIn now s.world.obj.toBase,
    HoldsNone s ((simActivity base).sender p.1)
  | _ => True

/-! ## The steps as effects -/

variable {base} {s : Run}

variable (base) in
lemma onlySends : OnlySends (overrides base) :=
  ⟨fun _ s => ⟨[], (OwnerFields.sendAll_nil s).symm⟩,
    fun _ s => ⟨[], (OwnerFields.sendAll_nil s).symm⟩, fun _ _ _ => ⟨[], rfl⟩⟩

lemma noEvents : (overrides base).NoEvents :=
  ⟨fun _ _ => rfl, fun _ _ => rfl, fun _ _ s => OwnerFields.sendAll_nil s⟩

variable (base) in
/-- An `Inhibit` with the right arguments tracks an inhibit with the next cookie. -/
lemma inhibitAlone_owned (now : ℕ) {msg : Message} {args : Bytes × Bytes}
    (hargs : twoStrings msg.args = some args) (w : Alone OwnerFields) :
    let c := SimpleDBusInhibitInterface.nextCookie w.obj.sub.lastCookie
    ∃ i, i.id = OwnerId.mkId base msg.sender c ∧
      Owned.of (inhibitAlone base now msg w) = (Owned.of w).apply (.track msg.sender i) ∧
      (inhibitAlone base now msg w).obj.sub.lastCookie = c := by
  intro c
  let expected : List DBus.Arg → Option (Bytes × Bytes × InhibitType) := fun args =>
    (twoStrings args).map fun p => (p.1, p.2, InhibitType.SCREENSAVER)
  have hexpected : expected msg.args = some (args.1, args.2, InhibitType.SCREENSAVER) := by
    show (twoStrings msg.args).map _ = _
    rw [hargs]
    rfl
  obtain ⟨w', hrun, howned, hcookie, -⟩ := handleInhibitMsg_owned base (onlySends base)
    SimpleDBusInhibitInterface.nextCookie now hexpected w
  have hw : inhibitAlone base now msg w = w' := congrArg Prod.snd hrun
  rw [hw]
  exact ⟨_, rfl, howned, hcookie⟩

lemma inhibitAlone_invalid (now : ℕ) {msg : Message} (hargs : twoStrings msg.args = none)
    (w : Alone OwnerFields) : inhibitAlone base now msg w = w := by
  unfold inhibitAlone SimpleDBusInhibitInterface.handleInhibitMsg
  rw [handleInhibitMsg_invalid _ _ _ _ (by rw [hargs]; rfl)]

lemma registered_track {w w' : Alone OwnerFields} {sender : Bytes} {i : Inhibit}
    (h : Owned.of w' = (Owned.of w).apply (.track sender i)) : registered w w' = [i.id] := by
  have hlog : w'.cbLog = w.cbLog ++ [.inhibitCB i] := congrArg Owned.cbLog h
  unfold registered
  rw [hlog, List.drop_left]
  rfl

lemma registered_self (w : Alone OwnerFields) : registered w w = [] := by
  unfold registered
  rw [List.drop_length]
  rfl

variable (base) in
/-- A `SimulateUserActivity` registers the id with cookie 0, which is then all that the list of its
sender holds. -/
lemma simulate_owned (now : ℕ) (msg : Message) :
    (step base s (.simulate now msg)).world.obj.activeInhibits =
        s.world.obj.activeInhibits.insertIfNew (OwnerId.mkId base msg.sender 0)
          ((simActivity base).inhibitOf now msg) ∧
      (∀ name, (Owned.of (step base s (.simulate now msg)).world).ownersOf name =
        if name = msg.sender then [OwnerId.mkId base msg.sender 0]
        else (Owned.of s.world).ownersOf name) ∧
      (step base s (.simulate now msg)).world.obj.sub.lastCookie =
        s.world.obj.sub.lastCookie := by
  obtain ⟨w', hrun, hactive, hsub⟩ := SimActivity.handleSimActivityMsg_alone
    (C := simActivity base) noEvents now msg none s.world
  have hw : (step base s (.simulate now msg)).world = w' := congrArg Prod.snd hrun
  rw [hw]
  refine ⟨hactive, fun name => ?_, ?_⟩
  · have howners : w'.obj.sub.inhibitOwners =
        (s.world.obj.sub.inhibitOwners.insert msg.sender []).insert msg.sender
          (((s.world.obj.sub.inhibitOwners.insert msg.sender [])[msg.sender]?).getD [] ++
            [OwnerId.mkId base msg.sender 0]) := by
      rw [hsub]
      dsimp only
      split <;> rfl
    show (w'.obj.sub.inhibitOwners[name]?).getD [] = _
    rw [howners, StdMap.getElem?_insert, StdMap.getElem?_insert, StdMap.getElem?_insert, if_pos rfl]
    split <;> rfl
  · rw [hsub]
    dsimp only
    split <;> rfl

variable (base) in
lemma foldl_clearOwner (ps : List (InhibitID × Inhibit)) (f : OwnerFields) :
    let f' := ps.foldl
      (fun f p => (simActivity base).clearOwner ((simActivity base).sender p.1) f) f
    f'.lastCookie = f.lastCookie ∧ ∀ name, (f'.inhibitOwners[name]?).getD [] =
      if name ∈ ps.map (fun p => (simActivity base).sender p.1) then []
      else (f.inhibitOwners[name]?).getD [] := by
  induction ps generalizing f with
  | nil => exact ⟨rfl, fun name => rfl⟩
  | cons p ps ih =>
    obtain ⟨hcookie, howners⟩ :=
      ih ((simActivity base).clearOwner ((simActivity base).sender p.1) f)
    refine ⟨hcookie, fun name => (howners name).trans ?_⟩
    have hclear : ((((simActivity base).clearOwner ((simActivity base).sender p.1)
        f).inhibitOwners)[name]?).getD [] =
        if name = (simActivity base).sender p.1 then [] else (f.inhibitOwners[name]?).getD [] := by
      show ((f.inhibitOwners.insert ((simActivity base).sender p.1) [])[name]?).getD [] = _
      rw [StdMap.getElem?_insert]
      split <;> rfl
    rw [hclear]
    simp only [List.map_cons, List.mem_cons]
    split_ifs <;> tauto

variable (base) in
/-- A poll drops what has expired, and clears the lists of the senders. -/
lemma poll_owned (now : ℕ) :
    let ps := (simActivity base).expiredIn now s.world.obj.toBase
    (∀ id, id ∈ (step base s (.poll now)).world.obj.activeInhibits ↔
        id ∈ s.world.obj.activeInhibits ∧ id ∉ ps.map Prod.fst) ∧
      (∀ name, (Owned.of (step base s (.poll now)).world).ownersOf name =
        if name ∈ ps.map (fun p => (simActivity base).sender p.1) then []
        else (Owned.of s.world).ownersOf name) ∧
      (step base s (.poll now)).world.obj.sub.lastCookie = s.world.obj.sub.lastCookie := by
  intro ps
  obtain ⟨w', hrun, hactive, hsub⟩ := SimActivity.poll_alone
    (C := simActivity base) noEvents now s.world
  have hw : (step base s (.poll now)).world = w' := congrArg Prod.snd hrun
  obtain ⟨hcookie, howners⟩ := foldl_clearOwner base ps s.world.obj.sub
  rw [hw]
  refine ⟨hactive, fun name => ?_, ?_⟩
  · show (w'.obj.sub.inhibitOwners[name]?).getD [] = _
    rw [hsub]
    exact howners name
  · rw [hsub]
    exact hcookie

/-! ## The invariant -/

variable (base) in
/-- Cookies of clients are not 0, and the cookie 0 stands for `SimulateUserActivity`. -/
structure Inv (s : Run) : Prop where
  obtained : ∀ p ∈ s.obtained, ClientName p.1 ∧ ∃ c : UInt32, c ≠ 0 ∧ p.2 = OwnerId.mkId base p.1 c
  active : ∀ id ∈ s.world.obj.activeInhibits, ∃ name c, ClientName name ∧
    id = OwnerId.mkId base name c

/-- An obtained id is not that of a `SimulateUserActivity`. -/
lemma Inv.ne_sim (h : Inv base s) {p : Bytes × InhibitID} (hp : p ∈ s.obtained) {name : Bytes}
    (hname : ClientName name) : p.2 ≠ OwnerId.mkId base name 0 := by
  obtain ⟨hfits, c, hc, heq⟩ := h.obtained p hp
  rw [heq]
  intro hsame
  exact hc ((OwnerId.mkId_inj base hfits.fits hname.fits).mp hsame).2

/-- What has expired belongs to a client and has cookie 0. -/
lemma Inv.expired (h : Inv base s) {now : ℕ} {p : InhibitID × Inhibit}
    (hp : p ∈ (simActivity base).expiredIn now s.world.obj.toBase) :
    ∃ name, ClientName name ∧ p.1 = OwnerId.mkId base name 0 ∧
      (simActivity base).sender p.1 = name := by
  obtain ⟨hmem, hsim⟩ := List.mem_filter.mp hp
  have hactive := Std.ExtTreeMap.mem_toList_iff_getElem?_eq_some.mp hmem
  obtain ⟨name, c, hname, heq⟩ := h.active p.1 ((StdMap.mem_iff _ _).mpr ⟨p.2, hactive⟩)
  have hcookie : OwnerId.cookie p.1 = 0 := of_decide_eq_true (Bool.and_eq_true_iff.mp hsim).1
  rw [heq, OwnerId.cookie_mkId base hname.fits] at hcookie
  rw [hcookie] at heq
  refine ⟨name, hname, heq, ?_⟩
  rw [heq]
  exact OwnerId.sender_mkId base hname.fits 0

lemma Listed.crashReleased (h : Listed s) : CrashReleased base s := by
  intro msg name hargs p hp hname
  obtain ⟨w', hrun, howned, -⟩ := handleNameLostMsg_owned (onlySends base) hargs s.world
  have hw : (SimpleDBusInhibitInterface.handleNameLostMsg (GnomeScreenSaverInhibitInterface base)
      Alone.this Alone.callbacks msg s.world).2 = w' := congrArg Prod.snd hrun
  rw [hw]
  intro hmem
  obtain ⟨i, hi⟩ := (StdMap.mem_iff _ _).mp hmem
  have hlost : w'.obj.activeInhibits[p.2]? = _ :=
    (congrArg (fun o : Owned => o.active[p.2]?) howned).trans (Owned.active_lost _ _ _)
  rw [hi] at hlost
  split at hlost
  · cases hlost
  · rename_i hnot
    -- it was active before, so it is in the list
    apply hnot
    rw [← hname]
    exact h p hp ((StdMap.mem_iff _ _).mpr ⟨i, hlost.symm⟩)

/-! ## Steps -/

/-- A new inhibit is listed, and the lists lose nothing. -/
lemma Inv.inhibit (h : Inv base s) {now : ℕ} {msg : Message}
    (hlegal : Legal base s (.inhibit now msg)) :
    Inv base (step base s (.inhibit now msg)) ∧
      (Listed s → Listed (step base s (.inhibit now msg))) := by
  obtain ⟨hname, hroom⟩ := hlegal
  cases hargs : twoStrings msg.args with
  | none =>
    have hsame : step base s (.inhibit now msg) = s := by
      unfold step
      dsimp only
      rw [inhibitAlone_invalid now hargs, registered_self, List.map_nil, List.append_nil]
    rw [hsame]
    exact ⟨h, id⟩
  | some args =>
    obtain ⟨i, hid, howned, -⟩ := inhibitAlone_owned base now hargs s.world
    set c := SimpleDBusInhibitInterface.nextCookie s.world.obj.sub.lastCookie with hc
    -- the counter has room for one more, so it does not come back to 0
    have hzero : c ≠ 0 := by
      intro heq
      have hnext := SimpleDBusInhibitInterface.toNat_nextCookie hroom
      rw [← hc, heq] at hnext
      exact absurd hnext (by simp)
    have hobtained : (step base s (.inhibit now msg)).obtained =
        s.obtained ++ [(msg.sender, i.id)] := by
      show s.obtained ++ (registered _ _).map _ = _
      rw [registered_track howned, List.map_singleton]
    have hactive : ∀ id, id ∈ (step base s (.inhibit now msg)).world.obj.activeInhibits →
        id = i.id ∨ id ∈ s.world.obj.activeInhibits := by
      intro id hmem
      obtain ⟨j, hj⟩ := (StdMap.mem_iff _ _).mp hmem
      have htrack : (step base s (.inhibit now msg)).world.obj.activeInhibits[id]? = _ :=
        (congrArg (fun o : Owned => o.active[id]?) howned).trans (Owned.active_track _ _ _ _)
      rw [hj] at htrack
      split at htrack
      · rename_i hnew
        exact .inl hnew.1
      · exact .inr ((StdMap.mem_iff _ _).mpr ⟨j, htrack.symm⟩)
    have howners : ∀ name, (Owned.of (step base s (.inhibit now msg)).world).ownersOf name = _ :=
      fun name => (congrArg (fun o : Owned => o.ownersOf name) howned).trans
        (Owned.ownersOf_track _ _ _ _)
    constructor
    · constructor
      case obtained =>
        intro p hp
        rw [hobtained] at hp
        rcases List.mem_append.mp hp with hp | hp
        · exact h.obtained p hp
        · rw [List.mem_singleton.mp hp]
          exact ⟨hname, c, hzero, hid⟩
      case active =>
        intro id hmem
        rcases hactive id hmem with hnew | hold
        · exact ⟨msg.sender, c, hname, hnew.trans hid⟩
        · exact h.active id hold
    · intro hlisted p hp hmem
      rw [howners]
      rw [hobtained] at hp
      rcases List.mem_append.mp hp with hp | hp
      · rcases hactive p.2 hmem with hnew | hold
        · -- the same id is of the same client
          obtain ⟨hfits, c', -, heq⟩ := h.obtained p hp
          rw [hid, heq] at hnew
          have hsender := ((OwnerId.mkId_inj base hfits.fits hname.fits).mp hnew).1
          rw [if_pos hsender, heq, hnew, ← hid]
          exact List.mem_append_right _ (List.mem_singleton_self _)
        · have hin := hlisted p hp hold
          split
          · rename_i hsender
            rw [← hsender]
            exact List.mem_append_left _ hin
          · exact hin
      · rw [List.mem_singleton.mp hp, if_pos rfl]
        exact List.mem_append_right _ (List.mem_singleton_self _)

/-- A release takes its own id from the list only. -/
lemma Inv.unInhibit (h : Inv base s) {tail : List InhibitID} {msg : Message}
    (hlegal : Legal base s (.unInhibit tail msg)) :
    Inv base (step base s (.unInhibit tail msg)) ∧
      (Listed s → Listed (step base s (.unInhibit tail msg))) := by
  obtain ⟨hname, htail⟩ := hlegal
  cases hargs : oneUInt32 msg.args with
  | none =>
    have hsame : step base s (.unInhibit tail msg) = s := by
      unfold step SimpleDBusInhibitInterface.handleUnInhibitMsg
      dsimp only
      rw [handleUnInhibitMsg_invalid _ _ _ _ hargs]
    rw [hsame]
    exact ⟨h, id⟩
  | some c =>
    obtain ⟨w', hrun, howned, -⟩ :=
      handleUnInhibitMsg_owned base (onlySends base) true tail hargs none s.world
    have hw : (step base s (.unInhibit tail msg)).world = w' := congrArg Prod.snd hrun
    rw [← hw] at howned
    -- what is active afterwards was active before and is not the id
    have hactive : ∀ id, id ∈ (step base s (.unInhibit tail msg)).world.obj.activeInhibits →
        id ≠ OwnerId.mkId base msg.sender c ∧ id ∈ s.world.obj.activeInhibits := by
      intro id hmem
      obtain ⟨j, hj⟩ := (StdMap.mem_iff _ _).mp hmem
      have huntrack : (step base s (.unInhibit tail msg)).world.obj.activeInhibits[id]? = _ :=
        (congrArg (fun o : Owned => o.active[id]?) howned).trans (Owned.active_untrack _ _ _ _ _)
      rw [hj] at huntrack
      split at huntrack
      · cases huntrack
      · rename_i hne
        exact ⟨hne, (StdMap.mem_iff _ _).mpr ⟨j, huntrack.symm⟩⟩
    refine ⟨⟨h.obtained, fun id hmem => h.active id (hactive id hmem).2⟩,
      fun hlisted p hp hmem => ?_⟩
    obtain ⟨hne, hold⟩ := hactive p.2 hmem
    have hin := hlisted p hp hold
    refine (congrArg (fun o : Owned => p.2 ∈ o.ownersOf p.1) howned).mpr ?_
    rw [Owned.ownersOf_untrack]
    split
    · rename_i hsender
      rw [hsender] at hin
      exact (mem_removeIf (htail c hargs)).1 hin hne
    · exact hin

/-- `SimulateUserActivity` keeps what its sender has obtained listed exactly if there is nothing. -/
lemma Inv.simulate (h : Inv base s) {now : ℕ} {msg : Message} (hname : ClientName msg.sender) :
    Inv base (step base s (.simulate now msg)) ∧
      (Listed s → (Listed (step base s (.simulate now msg)) ↔ HoldsNone s msg.sender)) := by
  obtain ⟨hactive, howners, -⟩ := simulate_owned base (s := s) now msg
  have hmem : ∀ id, id ∈ (step base s (.simulate now msg)).world.obj.activeInhibits ↔
      id = OwnerId.mkId base msg.sender 0 ∨ id ∈ s.world.obj.activeInhibits := by
    intro id
    rw [hactive]
    exact StdMap.mem_insertIfNew _ _ _ _
  refine ⟨⟨h.obtained, fun id hid => ?_⟩, fun hlisted => ?_⟩
  · rcases (hmem id).mp hid with heq | hold
    · exact ⟨msg.sender, 0, hname, heq⟩
    · exact h.active id hold
  · constructor
    · -- an inhibit that is held would be in the list, which has only the simulated one
      intro hlisted' p hp hsender hheld
      have hin := hlisted' p hp ((hmem p.2).mpr (.inr hheld))
      rw [howners, if_pos hsender] at hin
      exact h.ne_sim hp hname (List.mem_singleton.mp hin)
    · intro hnone p hp hheld
      have hold := ((hmem p.2).mp hheld).resolve_left (h.ne_sim hp hname)
      rw [howners, if_neg fun hsender => hnone p hp hsender hold]
      exact hlisted p hp hold

/-- An expiry keeps what the sender has obtained listed exactly if there is nothing. -/
lemma Inv.poll (h : Inv base s) (now : ℕ) :
    Inv base (step base s (.poll now)) ∧
      (Listed s → (Listed (step base s (.poll now)) ↔ Apart base s (.poll now))) := by
  obtain ⟨hactive, howners, -⟩ := poll_owned base (s := s) now
  set ps := (simActivity base).expiredIn now s.world.obj.toBase
  -- only what has the cookie 0 expires
  have hkept : ∀ p ∈ s.obtained, p.2 ∉ ps.map Prod.fst := by
    intro p hp hmem
    obtain ⟨q, hq, heq⟩ := List.mem_map.mp hmem
    obtain ⟨name, hname, hid, -⟩ := h.expired hq
    rw [heq] at hid
    exact h.ne_sim hp hname hid
  refine ⟨⟨h.obtained, fun id hid => h.active id ((hactive id).mp hid).1⟩, fun hlisted => ?_⟩
  constructor
  · intro hlisted' q hq p hp hsender hheld
    have hin := hlisted' p hp ((hactive p.2).mpr ⟨hheld, hkept p hp⟩)
    rw [howners, if_pos (by rw [hsender]; exact List.mem_map_of_mem hq)] at hin
    exact absurd hin List.not_mem_nil
  · intro hapart p hp hheld
    have hold := ((hactive p.2).mp hheld).1
    rw [howners, if_neg]
    · exact hlisted p hp hold
    · intro hmem
      obtain ⟨q, hq, hsender⟩ := List.mem_map.mp hmem
      exact hapart q hq p hp hsender.symm hold

/-- One step keeps the invariant, and keeps what is obtained listed exactly if it is apart. -/
lemma Inv.step (h : Inv base s) {e : Event} (hlegal : Legal base s e) :
    Inv base (GnomeScreenSaverInhibitInterface.step base s e) ∧
      (Listed s → (Listed (GnomeScreenSaverInhibitInterface.step base s e) ↔ Apart base s e)) := by
  cases e with
  | inhibit now msg =>
    obtain ⟨hinv, hlisted⟩ := h.inhibit hlegal
    exact ⟨hinv, fun hl => ⟨fun _ => trivial, fun _ => hlisted hl⟩⟩
  | unInhibit tail msg =>
    obtain ⟨hinv, hlisted⟩ := h.unInhibit hlegal
    exact ⟨hinv, fun hl => ⟨fun _ => trivial, fun _ => hlisted hl⟩⟩
  | simulate now msg => exact h.simulate hlegal
  | poll now => exact h.poll now

/-- What clients obtain through `Inhibit` stays listed, and goes with them, through a whole run if
and only if they call `SimulateUserActivity`, and its inhibits expire, while they hold nothing
else. -/
theorem obtained_listed_iff {base : OwnerConfig} {es : List Event}
    (hes : Transition.Along (step base) (Legal base) { world := { obj := { sub := {} } } } es) :
    Transition.Along (step base)
        (fun s e => Listed (step base s e) ∧ CrashReleased base (step base s e))
        { world := { obj := { sub := {} } } } es ↔
      Transition.Along (step base) (Apart base) { world := { obj := { sub := {} } } } es := by
  have hstart : Inv base { world := { obj := { sub := {} } } } ∧
      Listed { world := { obj := { sub := {} } } } :=
    ⟨⟨fun p hp => absurd hp List.not_mem_nil, fun id hid => absurd hid (by simp)⟩,
      fun p hp => absurd hp List.not_mem_nil⟩
  constructor
  · intro hlisted
    refine Transition.along_imp (I := fun s => Inv base s ∧ Listed s) hstart
      (fun s e h hok hapart => ?_) (fun s e h hok hl => ?_) hes hlisted
    · obtain ⟨hinv, hiff⟩ := h.1.step hok
      exact ⟨hinv, (hiff h.2).mpr hapart⟩
    · exact ((h.1.step hok).2 h.2).mp hl.1
  · intro hapart
    have hrun := Transition.along_and.mpr ⟨hes, hapart⟩
    refine Transition.along_imp (I := fun s => Inv base s ∧ Listed s) hstart
      (fun s e h hok hl => ?_) (fun s e h hok _ => ?_) hrun hrun
    · exact ⟨(h.1.step hok.1).1, hl.1⟩
    · have hlisted := ((h.1.step hok.1).2 h.2).mpr hok.2
      exact ⟨hlisted, hlisted.crashReleased⟩

/-- A client that inhibits and then simulates activity. -/
theorem obtained_listed_fails :
    let base : OwnerConfig := { instanceId := 0, monitor := false }
    let call : Message := { type := .methodCall, sender := lit ":1.5",
                            args := [.string (lit "a"), .string (lit "b")] }
    let lost : Message := { type := .signal, sender := lit "org.freedesktop.DBus",
                            args := [.string (lit ":1.5")] }
    let es : List Event := [.inhibit 1000 call, .simulate 1001 { call with args := [] }]
    let s : Run := { world := { obj := { sub := {} } } }
    let id := OwnerId.mkId base (lit ":1.5") 1
    Transition.Along (step base) (Legal base) s es ∧
      ¬ Transition.Along (step base)
        (fun s e => Listed (step base s e) ∧ CrashReleased base (step base s e)) s es ∧
      (lit ":1.5", id) ∈ (Transition.run (step base) s es).obtained ∧
      id ∈ (SimpleDBusInhibitInterface.handleNameLostMsg (GnomeScreenSaverInhibitInterface base)
        Alone.this Alone.callbacks lost
        (Transition.run (step base) s es).world).2.obj.activeInhibits := by
  intro base call lost es s id
  have hname : ClientName call.sender := ⟨by decide, by decide, by decide⟩
  have hobtained : (lit ":1.5", id) ∈ (Transition.run (step base) s es).obtained := by
    decide +kernel
  have hkept : id ∈ (SimpleDBusInhibitInterface.handleNameLostMsg
      (GnomeScreenSaverInhibitInterface base) Alone.this Alone.callbacks lost
      (Transition.run (step base) s es).world).2.obj.activeInhibits := by
    decide +kernel
  refine ⟨⟨⟨hname, by decide⟩, hname, trivial⟩, fun h => ?_, hobtained, hkept⟩
  have hlast : CrashReleased base (Transition.run (step base) s es) := h.2.1.2
  exact hlast lost (lit ":1.5") rfl _ hobtained rfl hkept

/-- A client that inhibits, and a poll that finds nothing to expire. -/
theorem obtained_listed_apart :
    let base : OwnerConfig := { instanceId := 0, monitor := false }
    let call : Message := { type := .methodCall, sender := lit ":1.5",
                            args := [.string (lit "a"), .string (lit "b")] }
    let es : List Event := [.inhibit 1000 call, .poll 1400]
    Transition.Along (step base)
      (fun s e => Listed (step base s e) ∧ CrashReleased base (step base s e))
      { world := { obj := { sub := {} } } } es := by
  intro base call es
  have hname : ClientName call.sender := ⟨by decide, by decide, by decide⟩
  have hlegal : Transition.Along (step base) (Legal base)
      { world := { obj := { sub := {} } } } es := ⟨⟨hname, by decide⟩, trivial, trivial⟩
  refine (obtained_listed_iff hlegal).mpr ⟨trivial, ?_, trivial⟩
  intro p hp
  have hnone : (simActivity base).expiredIn 1400
      (step base { world := { obj := { sub := {} } } }
        (.inhibit 1000 call)).world.obj.toBase = [] := by
    decide +kernel
  rw [hnone] at hp
  exact absurd hp List.not_mem_nil

end GnomeScreenSaverInhibitInterface
end UnifiedInhibit
