import UnifiedInhibit.CinnamonScreenSaverInhibitInterface
import UnifiedInhibit.DaemonTheorems
import UnifiedInhibit.DBusOwnersTheorems
import UnifiedInhibit.GnomeScreenSaverInhibitInterface

/-!
# `SimulateUserActivity` under the daemon

A message from a sender that has no inhibit starts one, which is forwarded once and lives until the
first poll 300 seconds later. A message from a sender that has one renews nothing: the old entry is
not found, since its `sender` is compared as a pointer, and stays as it is, while the inhibit is
forwarded again.
-/

namespace UnifiedInhibit

open DBus (Message)

/-! ## Ids -/

namespace CinnamonScreenSaverInhibitInterface

/-- The sender is read back from an id. -/
lemma senderOf_mkId (cfg : CinnamonConfig) {s : Bytes} (h : Fits s) :
    senderOf (mkId cfg s) = s := by
  have hlt : s.length < senderSize := h.length
  have hsize : (if s.length > senderSize then senderSize else s.length) = s.length :=
    if_neg (by omega)
  have hfront : 8 = (CStruct.leBytes 8 cfg.instanceId.toNat).length := by
    rw [CStruct.length_leBytes]
  obtain ⟨hwrite, hset⟩ := CStruct.write_string _ [] h.notMem hfront hlt
  rw [List.append_nil] at hset
  rw [List.append_nil, List.append_nil] at hwrite
  have hpad := CStruct.cstr_padded h.notMem (Nat.sub_pos_of_lt hlt) []
  rw [List.append_nil] at hpad
  unfold senderOf mkId
  dsimp only
  rw [hsize, hset, ite_self, hwrite, List.drop_left' (CStruct.length_leBytes 8 _)]
  exact hpad

end CinnamonScreenSaverInhibitInterface

namespace SimActivity

variable {σ : Type}

/-- The ids of clients are told apart, and recognised. -/
structure TellsApart (C : SimActivity σ) : Prop where
  inj : ∀ S T, ClientName S → ClientName T → C.mkId S = C.mkId T → S = T
  isSim : ∀ S, ClientName S → C.isSim (C.mkId S) = true

/-- One of the two classes, as a part of an object. -/
def IsClass (C : SimActivity σ) : Prop :=
  (∃ base get set, C = (GnomeScreenSaverInhibitInterface.simActivity base).embed get set) ∨
    ∃ cfg get set, C = (CinnamonScreenSaverInhibitInterface.simActivity cfg).embed get set

lemma IsClass.tellsApart {C : SimActivity σ} (h : C.IsClass) : C.TellsApart := by
  rcases h with ⟨base, get, set, rfl⟩ | ⟨cfg, get, set, rfl⟩
  · constructor
    · intro S T hS hT heq
      exact ((OwnerId.mkId_inj base hS.fits hT.fits).mp heq).1
    · intro S hS
      exact decide_eq_true (OwnerId.cookie_mkId base hS.fits 0)
  · constructor
    · intro S T hS hT heq
      have hsender := congrArg CinnamonScreenSaverInhibitInterface.senderOf heq
      rw [show (CinnamonScreenSaverInhibitInterface.simActivity cfg |>.embed get set).mkId =
          CinnamonScreenSaverInhibitInterface.mkId cfg from rfl,
        CinnamonScreenSaverInhibitInterface.senderOf_mkId cfg hS.fits,
        CinnamonScreenSaverInhibitInterface.senderOf_mkId cfg hT.fits] at hsender
      exact hsender
    · intro S _
      rfl

end SimActivity

/-! ## The run -/

namespace Daemon

/-- The daemon, the time of the latest `SimulateUserActivity` of each sender, the clock, and whether
the last step was a poll. -/
structure Activity (σ : Type) where
  daemon : Daemon σ
  latest : Bytes → Option ℕ := fun _ => none
  clock : ℕ := 0
  polled : Bool := false

namespace Activity

inductive Event where
  /-- a `SimulateUserActivity` -/
  | message (now : ℕ) (msg : Message) (ret : Option Message)
  | poll (now : ℕ)

def Event.now : Event → ℕ
  | .message now _ _ => now
  | .poll now => now

variable {σ : Type} (v : ℕ → Overrides σ) (k : ℕ) (C : SimActivity σ)

/-- The interface `k` handles the event. -/
def step (s : Activity σ) : Event → Activity σ
  | .message now msg ret =>
    { daemon := (C.handleSimActivityMsg (this k) (v k) (callbacks v now k) now msg ret s.daemon).2
      latest := Function.update s.latest msg.sender (some now)
      clock := now
      polled := false }
  | .poll now =>
    { s with
      daemon := (C.poll (this k) (v k) (callbacks v now k) now s.daemon).2
      clock := now
      polled := true }

/-- Time does not go back and starts at 300, and ids are fresh: no other interface uses the id of
a client here, nor do they hand out one that is in use. -/
def Legal (s : Activity σ) (e : Event) : Prop :=
  s.clock ≤ e.now ∧ 300 ≤ e.now ∧
    match e with
    | .message now msg _ =>
      ClientName msg.sender ∧ (∀ j, j ≠ k → s.daemon.active j (C.mkId msg.sender) = none) ∧
        let d := (C.clearSender (this k) (v k) (callbacks v now k) msg s.daemon).2
        ForwardFresh v now k (C.inhibitOf now msg) d.inhibitors
          (d.insertActive k (C.inhibitOf now msg))
    | .poll _ => True

/-- A message comes from a sender that has no inhibit active. -/
def NoneHeld (s : Activity σ) : Event → Prop
  | .message _ msg _ => s.daemon.active k (C.mkId msg.sender) = none
  | .poll _ => True

/-- The copies that the interface `j` holds on behalf of the inhibit `o`. -/
def copiesAt (d : Daemon σ) (o : InhibitID) (j : ℕ) : List (ℕ × InhibitID) :=
  (d.planOf o).filter fun p => p.1 = j

/-- A sender has at most one inhibit, after a poll it has one exactly if its latest message came
later than 300 seconds ago, and other interfaces hold at most one copy on its behalf. -/
structure Renewed (s : Activity σ) : Prop where
  one : ∀ S, ClientName S → ∀ id i, s.daemon.active k id = some i → i.appname = S → id = C.mkId S
  polled : s.polled = true → ∀ S, ClientName S →
    ((s.daemon.active k (C.mkId S)).isSome ↔ ∃ l, s.latest S = some l ∧ s.clock - 300 < l)
  copies : ∀ S, ClientName S → ∀ j, (copiesAt s.daemon (C.mkId S) j).length ≤ 1
  planned : ∀ j, j ≠ k → ∀ id, (s.daemon.active j id).isSome →
    ∃ S, ClientName S ∧ (j, id) ∈ copiesAt s.daemon (C.mkId S) j

/-! ## The invariant -/

/-- What holds of the daemon: only the interface `k` registers, its inhibits carry the time of
their sender's latest message, and each has one copy at each other interface that takes the type. -/
structure Core (latest : Bytes → Option ℕ) (d : Daemon σ) : Prop where
  linked : ∃ registered : Finset (ℕ × InhibitID), Tracked.Linked ⟨d, registered⟩ ∧
    ∀ p, p ∈ registered ↔ p.1 = k ∧ (d.active k p.2).isSome
  nodup : d.inhibitors.Nodup
  stamped : ∀ id i, d.active k id = some i →
    ClientName i.appname ∧ id = C.mkId i.appname ∧ latest i.appname = some i.created
  copies : ∀ o j, (copiesAt d o j).length ≤ 1
  accepted : ∀ id, (d.active k id).isSome → ∀ j ∈ d.inhibitors, j ≠ k →
    Accepts v j C.inhibitType → 1 ≤ (copiesAt d id j).length

/-- Who has no inhibit has not been active for 300 seconds. -/
structure Inv (s : Activity σ) : Prop where
  core : Core v k C s.latest s.daemon
  gone : ∀ S l, ClientName S → s.latest S = some l →
    (s.daemon.active k (C.mkId S)).isSome ∨ l + 300 ≤ s.clock

variable {v k C}

lemma copiesAt_congr {d d' : Daemon σ} (h : ∀ o, d'.planOf o = d.planOf o) (o : InhibitID)
    (j : ℕ) : copiesAt d' o j = copiesAt d o j := by
  unfold copiesAt
  rw [h]

lemma Core.congr {latest : Bytes → Option ℕ} {d d' : Daemon σ} (h : Core v k C latest d)
    (hact : ∀ j id, d'.active j id = d.active j id) (hplan : ∀ o, d'.planOf o = d.planOf o)
    (hinh : d'.inhibitors = d.inhibitors) : Core v k C latest d' := by
  obtain ⟨registered, hlinked, hreg⟩ := h.linked
  constructor
  · refine ⟨registered, hlinked.congr hact hplan, fun p => ?_⟩
    rw [hact]
    exact hreg p
  · rw [hinh]
    exact h.nodup
  · intro id i
    rw [hact]
    exact h.stamped id i
  · intro o j
    rw [copiesAt_congr hplan]
    exact h.copies o j
  · intro id
    rw [hact, hinh]
    intro hid j
    rw [copiesAt_congr hplan]
    exact h.accepted id hid j

/-- What happens to the fields of `k` alone changes nothing here. -/
lemma Core.modifySub {latest : Bytes → Option ℕ} {d : Daemon σ} (h : Core v k C latest d)
    (f : σ → σ) : Core v k C latest ((this k).modifySub f d) := by
  refine h.congr (fun j id => ?_) (fun _ => rfl) rfl
  exact active_modifySub k f d j id

/-! ## One inhibit is taken or dropped -/

lemma length_filter_le_one {ps : List (ℕ × InhibitID)} (h : (ps.map Prod.fst).Nodup) (j : ℕ) :
    (ps.filter fun p => p.1 = j).length ≤ 1 := by
  have hcount : (ps.filter fun p => p.1 = j).length = (ps.map Prod.fst).count j := by
    rw [List.count_eq_length_filter, List.filter_map, List.length_map]
    rfl
  rw [hcount]
  exact List.nodup_iff_count_le_one.mp h j

lemma one_le_length_filter {ps : List (ℕ × InhibitID)} {j : ℕ} (h : j ∈ ps.map Prod.fst) :
    1 ≤ (ps.filter fun p => p.1 = j).length := by
  obtain ⟨p, hp, hj⟩ := List.mem_map.mp h
  apply List.length_pos_of_mem (a := p)
  exact List.mem_filter.mpr ⟨hp, decide_eq_true hj⟩

/-- Nothing is planned for an inhibit that is not active. -/
lemma Core.planOf_eq_nil {latest : Bytes → Option ℕ} {d : Daemon σ} (h : Core v k C latest d)
    {o : InhibitID} (ho : d.active k o = none) : d.planOf o = [] := by
  obtain ⟨registered, hlinked, hreg⟩ := h.linked
  by_contra hne
  obtain ⟨k', hk'⟩ := hlinked.origin o hne
  obtain ⟨heq, hsome⟩ := (hreg _).mp hk'
  rw [show d.active k (k', o).2 = d.active k o from rfl, ho] at hsome
  cases hsome

/-- No copy is made at the interface itself. -/
lemma Core.notMem_planOf {latest : Bytes → Option ℕ} {d : Daemon σ} (h : Core v k C latest d)
    (o id : InhibitID) : (k, id) ∉ d.planOf o := by
  obtain ⟨registered, hlinked, hreg⟩ := h.linked
  intro hmem
  have hactive := hlinked.planned_active o _ hmem
  exact hlinked.planned_copy o _ hmem ((hreg (k, id)).mpr ⟨rfl, hactive⟩)

lemma Core.unregister (hun : UnInhibits v) {latest : Bytes → Option ℕ} {d : Daemon σ}
    (h : Core v k C latest d) (now : ℕ) (id : InhibitID) :
    (registerUnInhibit v now k id d).1 = .ok () ∧
      Core v k C latest (registerUnInhibit v now k id d).2 ∧
      ∀ id', (registerUnInhibit v now k id d).2.active k id' =
        if id' = id then none else d.active k id' := by
  cases hmid : d.active k id with
  | none =>
    rw [registerUnInhibit_none now hmid]
    refine ⟨rfl, h, fun id' => ?_⟩
    split
    · rename_i heq
      rw [heq, hmid]
    · rfl
  | some mid =>
    obtain ⟨registered, hlinked, hreg⟩ := h.linked
    have hmem : (k, id) ∈ registered := (hreg _).mpr ⟨rfl, by rw [hmid]; rfl⟩
    obtain ⟨hok, hact, hplan⟩ := registerUnInhibit_spec hun now k hmid (hlinked.keyed k id mid hmid)
    have hown : ∀ id', (registerUnInhibit v now k id d).2.active k id' =
        if id' = id then none else d.active k id' := by
      intro id'
      rw [hact]
      by_cases heq : id' = id
      · rw [if_pos (.inl (by rw [heq])), if_pos heq]
      · rw [if_neg heq, if_neg]
        rintro (hpair | hmem)
        · exact heq (congrArg Prod.snd hpair)
        · exact h.notMem_planOf id id' hmem
    refine ⟨hok, ?_, hown⟩
    constructor
    case linked =>
      -- the released inhibit is registered no longer
      refine ⟨registered.erase (k, id), hlinked.released hmem hact hplan, fun p => ?_⟩
      rw [Finset.mem_erase, hreg, hown]
      split
      · rename_i heq
        constructor
        · intro hp
          exact absurd (Prod.ext hp.2.1 heq) hp.1
        · intro hp
          cases hp.2
      · rename_i heq
        constructor
        · exact And.right
        · intro hp
          refine ⟨fun hpair => ?_, hp⟩
          rw [hpair] at heq
          exact heq rfl
    case nodup =>
      rw [inhibitors_registerUnInhibit]
      exact h.nodup
    case stamped =>
      intro id' i
      rw [hown]
      split
      · intro hi
        cases hi
      · exact h.stamped id' i
    case copies =>
      intro o j
      unfold copiesAt
      rw [hplan]
      split
      · simp
      · exact h.copies o j
    case accepted =>
      -- the copies of the other inhibits stay
      intro id' hid' j
      rw [hown] at hid'
      split at hid'
      · cases hid'
      · rename_i hne
        rw [inhibitors_registerUnInhibit]
        have hsame : copiesAt (registerUnInhibit v now k id d).2 id' j = copiesAt d id' j := by
          unfold copiesAt
          rw [hplan, if_neg hne]
        rw [hsame]
        exact h.accepted id' hid' j

lemma Core.eraseAll (hun : UnInhibits v) {latest : Bytes → Option ℕ} (now : ℕ)
    (ids : List InhibitID) {d : Daemon σ} (h : Core v k C latest d) :
    Core v k C latest (SimActivity.eraseAll (this k) (v k) (callbacks v now k) ids d).2 ∧
      ∀ id, (SimActivity.eraseAll (this k) (v k) (callbacks v now k) ids d).2.active k id =
        if id ∈ ids then none else d.active k id := by
  -- each release returns, so the loop reaches the end of the list
  induction ids generalizing d with
  | nil => exact ⟨h, fun id => (if_neg List.not_mem_nil).symm⟩
  | cons id ids ih =>
    obtain ⟨hok, hcore, hact⟩ := h.unregister hun now id
    have hstep : SimActivity.eraseAll (this k) (v k) (callbacks v now k) (id :: ids) d =
        SimActivity.eraseAll (this k) (v k) (callbacks v now k) ids
          (registerUnInhibit v now k id d).2 := by
      rw [SimActivity.eraseAll]
      rcases hrun : registerUnInhibit v now k id d with ⟨res, d'⟩
      rw [hrun] at hok
      dsimp only at hok
      subst hok
      rw [show (this k).registerUnInhibit (v k) (callbacks v now k) id d = _ from hrun]
    obtain ⟨hcore', hact'⟩ := ih hcore
    rw [hstep]
    refine ⟨hcore', fun id' => ?_⟩
    rw [hact', hact]
    simp only [List.mem_cons]
    split_ifs <;> tauto

lemma Core.register (hin : InhibitsOrRefuses v) {latest : Bytes → Option ℕ} {d : Daemon σ}
    (h : Core v k C latest d) {now : ℕ} {msg : Message} (hname : ClientName msg.sender)
    (hfree : d.active k (C.mkId msg.sender) = none)
    (hothers : ∀ j, j ≠ k → d.active j (C.mkId msg.sender) = none)
    (hfresh : ForwardFresh v now k (C.inhibitOf now msg) d.inhibitors
      (d.insertActive k (C.inhibitOf now msg))) :
    Core v k C (Function.update latest msg.sender (some now))
        (registerInhibit v now k (C.inhibitOf now msg) d).2 ∧
      ∀ id, (registerInhibit v now k (C.inhibitOf now msg) d).2.active k id =
        if id = C.mkId msg.sender then some (C.inhibitOf now msg) else d.active k id := by
  set i := C.inhibitOf now msg with hi
  have hid : i.id = C.mkId msg.sender := rfl
  obtain ⟨registered, hlinked, hreg⟩ := h.linked
  obtain ⟨-, copies, hcopies⟩ := registerInhibit_spec hin now k i d hfresh
  obtain ⟨hinh, ps, hplan, hsub, hacc⟩ := registerInhibit_places hin now k i d
  have hunused : ¬ d.InUse i.id := by
    intro huse
    obtain ⟨j, hj⟩ := huse
    by_cases hjk : j = k
    · rw [hjk, hid, hfree] at hj
      cases hj
    · rw [hid, hothers j hjk] at hj
      cases hj
  have hown : ∀ id, (registerInhibit v now k i d).2.active k id =
      if id = C.mkId msg.sender then some i else d.active k id := by
    intro id
    rw [hcopies.kept k id fun p hp hpair => hcopies.others p hp (congrArg Prod.fst hpair),
      active_insertActive, hid, hfree]
    simp only [and_true, true_and]
  have hnil : d.planOf i.id = [] := h.planOf_eq_nil hfree
  rw [hnil, List.nil_append] at hplan
  refine ⟨?_, hown⟩
  constructor
  case linked =>
    refine ⟨insert (k, i.id) registered, hlinked.forwarded hunused hcopies, fun p => ?_⟩
    rw [Finset.mem_insert, hreg, hown]
    split
    · rename_i heq
      constructor
      · intro hp
        rcases hp with hp | hp
        · exact ⟨congrArg Prod.fst hp, rfl⟩
        · exact ⟨hp.1, rfl⟩
      · intro hp
        exact .inl (Prod.ext hp.1 heq)
    · rename_i hne
      constructor
      · intro hp
        rcases hp with hp | hp
        · exact absurd (congrArg Prod.snd hp) hne
        · exact hp
      · exact .inr
  case nodup =>
    rw [hinh]
    exact h.nodup
  case stamped =>
    intro id i'
    rw [hown]
    split
    · rename_i heq
      intro hsome
      cases hsome
      exact ⟨hname, heq, Function.update_self _ _ _⟩
    · rename_i hne
      intro hsome
      obtain ⟨hname', hid', hlatest⟩ := h.stamped id i' hsome
      refine ⟨hname', hid', ?_⟩
      rw [Function.update_of_ne]
      · exact hlatest
      · intro happ
        rw [happ] at hid'
        exact hne hid'
  case copies =>
    -- the plan of the id was empty, and the loop passes each interface once
    intro o j
    unfold copiesAt
    rw [hplan]
    split
    · exact length_filter_le_one (hsub.nodup h.nodup) j
    · exact h.copies o j
  case accepted =>
    intro id hactive j hj hjk haccept
    unfold copiesAt
    rw [hplan]
    rw [hinh] at hj
    split
    · exact one_le_length_filter (hacc j hj hjk haccept)
    · rename_i hne
      rw [hown, if_neg (fun heq => hne (heq.trans hid.symm))] at hactive
      exact h.accepted id hactive j hj hjk haccept

/-! ## The two handlers -/

variable (v k C) in
/-- Before the new inhibit is registered only the list of the owner has been cleared. -/
lemma clearSender_eq (now : ℕ) (msg : Message) (d : Daemon σ) :
    C.clearSender (this k) (v k) (callbacks v now k) msg d =
      (.ok (), (this k).modifySub (C.clearOwner msg.sender) d) := by
  unfold SimActivity.clearSender
  rw [C.sameSender_eq_nil]
  rfl

variable (k C) in
/-- What the message handler leaves is what the registration leaves, but for fields of `k`. -/
lemma handle_eq (hin : InhibitsOrRefuses v) (now : ℕ) (msg : Message) (ret : Option Message)
    (d : Daemon σ) :
    ∃ f : σ → σ, (C.handleSimActivityMsg (this k) (v k) (callbacks v now k) now msg ret d).2 =
      (this k).modifySub f (registerInhibit v now k (C.inhibitOf now msg)
        ((this k).modifySub (C.clearOwner msg.sender) d)).2 := by
  set d₁ := (this k).modifySub (C.clearOwner msg.sender) d
  have hok := (forward_places hin now k (C.inhibitOf now msg) d₁.inhibitors
    (d₁.insertActive k (C.inhibitOf now msg))).1
  have hrun := registerInhibit_eq hok
  rw [hrun]
  unfold SimActivity.handleSimActivityMsg
  rw [clearSender_eq]
  dsimp only
  rw [show (this k).registerInhibit (v k) (callbacks v now k) (C.inhibitOf now msg) d₁ = _
        from hrun]
  dsimp only
  split
  · exact ⟨_, rfl⟩
  · refine ⟨fun s => C.sendReturn msg (C.pushOwner msg.sender (C.mkId msg.sender) s), ?_⟩
    simp only [This.modifySub, This.modify, (this k).get_set, (this k).set_set]

/-- A message from a sender without an inhibit starts one. -/
lemma Inv.message (hin : InhibitsOrRefuses v) {s : Activity σ} (h : Inv v k C s) {now : ℕ}
    {msg : Message} {ret : Option Message} (hlegal : Legal v k C s (.message now msg ret))
    (hnone : NoneHeld k C s (.message now msg ret)) :
    Inv v k C (step v k C s (.message now msg ret)) := by
  obtain ⟨hclock, -, hname, hothers, hfresh⟩ := hlegal
  rw [clearSender_eq] at hfresh
  have hfree : ((this k).modifySub (C.clearOwner msg.sender) s.daemon).active k
      (C.mkId msg.sender) = none := by
    rw [active_modifySub]
    exact hnone
  -- clearing the list of the sender changes nothing that is active
  obtain ⟨hcore, hact⟩ := (h.core.modifySub (C.clearOwner msg.sender)).register hin hname hfree
    (fun j hj => by rw [active_modifySub]; exact hothers j hj) hfresh
  obtain ⟨f, hf⟩ := handle_eq k C hin now msg ret s.daemon
  have hdaemon : (step v k C s (.message now msg ret)).daemon =
      (this k).modifySub f (registerInhibit v now k (C.inhibitOf now msg)
        ((this k).modifySub (C.clearOwner msg.sender) s.daemon)).2 := hf
  constructor
  · rw [hdaemon]
    exact hcore.modifySub f
  · intro S l hS hl
    rw [hdaemon, active_modifySub, hact]
    by_cases hsender : S = msg.sender
    · rw [if_pos (by rw [hsender])]
      exact .inl rfl
    · -- the clock has not gone back
      have hl : Function.update s.latest msg.sender (some now) S = some l := hl
      rw [Function.update_of_ne hsender] at hl
      rcases h.gone S l hS hl with hactive | hgone
      · left
        split
        · rfl
        · rw [active_modifySub]
          exact hactive
      · right
        show l + 300 ≤ now
        have hclock : s.clock ≤ now := hclock
        omega

lemma mem_expiredIn {now : ℕ} (hnow : 300 ≤ now) (hC : C.TellsApart) {s : Activity σ}
    (h : Core v k C s.latest s.daemon) (id : InhibitID) :
    id ∈ (C.expiredIn now ((this k).get s.daemon).toBase).map Prod.fst ↔
      ∃ i, s.daemon.active k id = some i ∧ i.created + 300 ≤ now := by
  unfold SimActivity.expiredIn expired
  simp only [List.mem_map, List.mem_filter, Prod.exists, exists_and_right, exists_eq_right,
    Std.ExtTreeMap.mem_toList_iff_getElem?_eq_some, Bool.and_eq_true, Bool.or_eq_true,
    decide_eq_true_eq]
  constructor
  · intro hex
    obtain ⟨i, hi, -, hold⟩ := hex
    refine ⟨i, hi, ?_⟩
    omega
  · intro hex
    obtain ⟨i, hi, hold⟩ := hex
    obtain ⟨hname, hid, -⟩ := h.stamped id i hi
    refine ⟨i, hi, ?_, .inr (by omega)⟩
    rw [hid]
    exact hC.isSim _ hname

/-- A poll drops what is 300 seconds old. -/
lemma Inv.poll (hun : UnInhibits v) (hC : C.TellsApart) {s : Activity σ} (h : Inv v k C s)
    {now : ℕ} (hlegal : Legal v k C s (.poll now)) :
    Inv v k C (step v k C s (.poll now)) ∧
      ∀ id i, (step v k C s (.poll now)).daemon.active k id = some i ↔
        s.daemon.active k id = some i ∧ now < i.created + 300 := by
  obtain ⟨hclock, hnow, -⟩ := hlegal
  have hclock : s.clock ≤ now := hclock
  have hnow : 300 ≤ now := hnow
  set eraseIDs := C.expiredIn now ((this k).get s.daemon).toBase
  -- the ids are collected first and erased afterwards
  obtain ⟨hcore, hact⟩ := (h.core.modifySub
    (fun f => eraseIDs.foldl (fun f p => C.clearOwner (C.sender p.1) f) f)).eraseAll hun now
    (eraseIDs.map Prod.fst)
  have hown : ∀ id i, (step v k C s (.poll now)).daemon.active k id = some i ↔
      s.daemon.active k id = some i ∧ now < i.created + 300 := by
    intro id i
    have hmem := mem_expiredIn hnow hC h.core id
    have hstep : (step v k C s (.poll now)).daemon.active k id =
        if id ∈ eraseIDs.map Prod.fst then none else s.daemon.active k id := by
      refine (hact id).trans ?_
      rw [active_modifySub]
    rw [hstep]
    split
    · rename_i herase
      obtain ⟨i', hi', hold⟩ := hmem.mp herase
      constructor
      · intro hnone
        cases hnone
      · intro hyoung
        obtain ⟨hi, hyoung⟩ := hyoung
        rw [hi'] at hi
        cases hi
        omega
    · rename_i hkeep
      constructor
      · intro hi
        refine ⟨hi, ?_⟩
        by_contra hold
        exact hkeep (hmem.mpr ⟨i, hi, by omega⟩)
      · exact And.left
  refine ⟨⟨hcore, fun S l hS hl => ?_⟩, hown⟩
  show _ ∨ l + 300 ≤ now
  -- an inhibit that is gone was old before the poll, or is dropped by it
  rcases h.gone S l hS hl with hactive | hgone
  · obtain ⟨i, hi⟩ := Option.isSome_iff_exists.mp hactive
    obtain ⟨hname, hid, hlatest⟩ := h.core.stamped _ i hi
    have hl : s.latest S = some l := hl
    rw [hC.inj S i.appname hS hname hid, hlatest] at hl
    cases hl
    by_cases hyoung : now < i.created + 300
    · left
      rw [(hown _ i).mpr ⟨hi, hyoung⟩]
      rfl
    · right
      omega
  · right
    omega

/-- The property holds where the invariant does. -/
lemma Inv.renewed (hC : C.TellsApart) {s : Activity σ} (h : Inv v k C s)
    (hpolled : s.polled = true → 300 ≤ s.clock ∧
      ∀ id i, s.daemon.active k id = some i → s.clock < i.created + 300) : Renewed k C s := by
  constructor
  · intro S hS id i hi happ
    obtain ⟨-, hid, -⟩ := h.core.stamped id i hi
    rw [hid, happ]
  · intro hp S hS
    obtain ⟨hclock, hyoung⟩ := hpolled hp
    constructor
    · intro hactive
      obtain ⟨i, hi⟩ := Option.isSome_iff_exists.mp hactive
      obtain ⟨hname, hid, hlatest⟩ := h.core.stamped _ i hi
      have hage := hyoung _ i hi
      refine ⟨i.created, ?_, by omega⟩
      rw [hC.inj S i.appname hS hname hid, hlatest]
    · intro hex
      obtain ⟨l, hl, hlate⟩ := hex
      rcases h.gone S l hS hl with hactive | hgone
      · exact hactive
      · omega
  · intro S hS j
    exact h.core.copies _ j
  · intro j hj id hactive
    obtain ⟨registered, hlinked, hreg⟩ := h.core.linked
    have hnot : (j, id) ∉ registered := fun hmem => hj ((hreg _).mp hmem).1
    obtain ⟨o, ho⟩ := hlinked.copy_planned j id hactive hnot
    -- what is planned belongs to an active inhibit of the interface
    obtain ⟨k', hk'⟩ := hlinked.origin o (List.ne_nil_of_mem ho)
    obtain ⟨i, hi⟩ := Option.isSome_iff_exists.mp ((hreg _).mp hk').2
    obtain ⟨hname, hid, -⟩ := h.core.stamped o i hi
    refine ⟨i.appname, hname, List.mem_filter.mpr ⟨?_, decide_eq_true rfl⟩⟩
    rw [← hid]
    exact ho

/-- A message from a sender that has an inhibit makes each interface that takes the type hold a
second copy. -/
lemma Inv.not_renewed (hin : InhibitsOrRefuses v) {s : Activity σ} (h : Inv v k C s) {now : ℕ}
    {msg : Message} {ret : Option Message} (hname : ClientName msg.sender)
    (hheld : ¬ NoneHeld k C s (.message now msg ret)) {j : ℕ} (hj : j ∈ s.daemon.inhibitors)
    (hjk : j ≠ k) (haccept : Accepts v j C.inhibitType) :
    ¬ Renewed k C (step v k C s (.message now msg ret)) := by
  intro hrenewed
  have hactive : (s.daemon.active k (C.mkId msg.sender)).isSome :=
    Option.isSome_iff_ne_none.mpr hheld
  -- one copy is there from the first message, the loop adds another
  have hfirst := h.core.accepted _ hactive j hj hjk haccept
  obtain ⟨-, ps, hplan, -, hacc⟩ := registerInhibit_places hin now k (C.inhibitOf now msg)
    ((this k).modifySub (C.clearOwner msg.sender) s.daemon)
  have hsecond := one_le_length_filter (hacc j hj hjk haccept)
  obtain ⟨f, hf⟩ := handle_eq k C hin now msg ret s.daemon
  have hboth := hrenewed.copies msg.sender hname j
  have hcopies : copiesAt (step v k C s (.message now msg ret)).daemon (C.mkId msg.sender) j =
      copiesAt s.daemon (C.mkId msg.sender) j ++ ps.filter fun p => p.1 = j := by
    have hplan' := (hplan (C.mkId msg.sender)).trans (if_pos rfl)
    have hstep : (step v k C s (.message now msg ret)).daemon.planOf (C.mkId msg.sender) =
        (registerInhibit v now k (C.inhibitOf now msg)
          ((this k).modifySub (C.clearOwner msg.sender) s.daemon)).2.planOf
            (C.mkId msg.sender) := by
      rw [show (step v k C s (.message now msg ret)).daemon = _ from hf]
      rfl
    unfold copiesAt
    rw [← List.filter_append, hstep, hplan']
    rfl
  rw [hcopies, List.length_append] at hboth
  omega

/-! ## Runs -/

lemma Inv.initial {d : Daemon σ} (h : d.Initial) (hnodup : d.inhibitors.Nodup) :
    Inv v k C { daemon := d } := by
  have hnone : ∀ id, d.active k id = none := by
    intro id
    unfold active
    rw [h.activeInhibits]
    exact Std.ExtTreeMap.getElem?_empty
  refine ⟨⟨⟨∅, h.linked, fun p => ?_⟩, hnodup, fun id i hi => ?_, fun o j => ?_,
    fun id hid => ?_⟩, fun S l _ hl => ?_⟩
  · rw [hnone]
    simp
  · rw [hnone] at hi
    cases hi
  · unfold copiesAt planOf
    rw [h.releasePlan]
    simp
  · rw [hnone] at hid
    cases hid
  · cases hl

lemma inhibitors_eraseAll (now : ℕ) (ids : List InhibitID) (d : Daemon σ) :
    (SimActivity.eraseAll (this k) (v k) (callbacks v now k) ids d).2.inhibitors =
      d.inhibitors := by
  induction ids generalizing d with
  | nil => rfl
  | cons id ids ih =>
    have hfirst := inhibitors_registerUnInhibit (v := v) now k id d
    unfold SimActivity.eraseAll
    split
    · rename_i heq
      rw [← hfirst]
      exact (congrArg (fun r : Outcome (Daemon σ) Unit => r.2.inhibitors) heq).symm
    · rename_i heq
      rw [ih, ← hfirst]
      exact (congrArg (fun r : Outcome (Daemon σ) Unit => r.2.inhibitors) heq).symm

lemma inhibitors_step (hin : InhibitsOrRefuses v) (s : Activity σ) (e : Event) :
    (step v k C s e).daemon.inhibitors = s.daemon.inhibitors := by
  cases e with
  | message now msg ret =>
    obtain ⟨f, hf⟩ := handle_eq k C hin now msg ret s.daemon
    have hreg := (registerInhibit_places hin now k (C.inhibitOf now msg)
      ((this k).modifySub (C.clearOwner msg.sender) s.daemon)).1
    rw [show (step v k C s (.message now msg ret)).daemon = _ from hf]
    exact hreg
  | poll now => exact inhibitors_eraseAll now _ _

/-- One step: the invariant and the property hold behind it. -/
lemma Inv.step (hin : InhibitsOrRefuses v) (hun : UnInhibits v) (hC : C.TellsApart)
    {s : Activity σ} (h : Inv v k C s) {e : Event} (hlegal : Legal v k C s e)
    (hnone : NoneHeld k C s e) :
    Inv v k C (Activity.step v k C s e) ∧ Renewed k C (Activity.step v k C s e) := by
  cases e with
  | message now msg ret =>
    have hnext := h.message hin hlegal hnone
    refine ⟨hnext, hnext.renewed hC fun hpolled => ?_⟩
    cases hpolled
  | poll now =>
    obtain ⟨hnext, hown⟩ := h.poll hun hC hlegal
    refine ⟨hnext, hnext.renewed hC fun _ => ⟨hlegal.2.1, fun id i hi => ?_⟩⟩
    exact ((hown id i).mp hi).2

/-- Where each message finds its sender without an inhibit, activity is forwarded once and expires
in time. Where another interface takes the type, this is the only way. -/
theorem activity_renewed {v : ℕ → Overrides σ} (hin : InhibitsOrRefuses v) (hun : UnInhibits v)
    {k : ℕ} {C : SimActivity σ} (hC : C.IsClass) {d : Daemon σ} (hd : d.Initial)
    (hnodup : d.inhibitors.Nodup) {es : List Event}
    (hes : Transition.Along (step v k C) (Legal v k C) { daemon := d } es) :
    (Transition.Along (step v k C) (NoneHeld k C) { daemon := d } es →
      Transition.Along (step v k C) (fun s e => Renewed k C (step v k C s e)) { daemon := d } es) ∧
    ((∃ j ∈ d.inhibitors, j ≠ k ∧ Accepts v j InhibitType.SCREENSAVER) →
      Transition.Along (step v k C) (fun s e => Renewed k C (step v k C s e)) { daemon := d } es →
      Transition.Along (step v k C) (NoneHeld k C) { daemon := d } es) := by
  have hstart : Inv v k C { daemon := d } := Inv.initial hd hnodup
  have hapart := hC.tellsApart
  have htype : C.inhibitType = InhibitType.SCREENSAVER := by
    rcases hC with ⟨base, get, set, rfl⟩ | ⟨cfg, get, set, rfl⟩
    · rfl
    · rfl
  constructor
  · intro hnone
    have hrun := Transition.along_and.mpr ⟨hes, hnone⟩
    refine Transition.along_imp hstart (fun s e h hok _ => ?_) (fun s e h hok _ => ?_) hrun hrun
    · exact (h.step hin hun hapart hok.1 hok.2).1
    · exact (h.step hin hun hapart hok.1 hok.2).2
  · intro haccept hrenewed
    obtain ⟨j, hj, hjk, haccept⟩ := haccept
    -- for the converse the other interface shows the second forward
    rw [← htype] at haccept
    have hstart' : Inv v k C { daemon := d } ∧ j ∈ d.inhibitors := ⟨hstart, hj⟩
    refine Transition.along_imp
      (I := fun s : Activity σ => Inv v k C s ∧ j ∈ s.daemon.inhibitors) hstart'
      (fun s e h hok hnone => ?_) (fun s e h hok hr => ?_) hes hrenewed
    · refine ⟨(h.1.step hin hun hapart hok hnone).1, ?_⟩
      rw [inhibitors_step hin]
      exact h.2
    · cases e with
      | message now msg ret =>
        by_contra hheld
        exact h.1.not_renewed hin hok.2.2.1 hheld h.2 hjk haccept hr
      | poll now => trivial

/-- With no other interface a message changes what is active only if its sender has no inhibit. -/
lemma active_message_alone (hin : InhibitsOrRefuses v) {s : Activity σ}
    (halone : s.daemon.inhibitors = [k]) (now : ℕ) (msg : Message) (ret : Option Message) (j : ℕ)
    (id : InhibitID) :
    (step v k C s (.message now msg ret)).daemon.active j id =
      if j = k ∧ id = C.mkId msg.sender ∧ s.daemon.active k (C.mkId msg.sender) = none then
        some (C.inhibitOf now msg)
      else s.daemon.active j id := by
  set d := (this k).modifySub (C.clearOwner msg.sender) s.daemon with hd
  have hforward : forward v now k (C.inhibitOf now msg) d.inhibitors
      (d.insertActive k (C.inhibitOf now msg)) =
        (.ok (), d.insertActive k (C.inhibitOf now msg)) := by
    rw [show d.inhibitors = [k] from halone, forward, if_neg (not_not.mpr rfl)]
    rfl
  obtain ⟨f, hf⟩ := handle_eq k C hin now msg ret s.daemon
  rw [show (step v k C s (.message now msg ret)).daemon = _ from hf, active_modifySub,
    registerInhibit_eq (by rw [hforward]), hforward, active_callEvent, active_printInhibited,
    active_insertActive, hd, active_modifySub, active_modifySub]
  rfl

/-- With no other interface there is nothing to forward to. -/
lemma forwardFresh_alone {s : Activity σ} (halone : s.daemon.inhibitors = [k]) (now : ℕ)
    (msg : Message) :
    let d := (C.clearSender (this k) (v k) (callbacks v now k) msg s.daemon).2
    ForwardFresh v now k (C.inhibitOf now msg) d.inhibitors
      (d.insertActive k (C.inhibitOf now msg)) := by
  intro d
  have hinh : d.inhibitors = [k] := by
    unfold d
    rw [clearSender_eq]
    exact halone
  rw [hinh]
  unfold ForwardFresh
  rw [if_neg (not_not.mpr rfl)]
  trivial

/-- Three messages of one client: the second renews nothing, and the inhibit expires 100 seconds
after it. -/
theorem activity_renewed_fails :
    let v : ℕ → Overrides OwnerFields :=
      fun _ => { doInhibit := fun _ _ s => (.error .unsupportedType, s) }
    let base : OwnerConfig := { instanceId := 0, monitor := false }
    let C := (GnomeScreenSaverInhibitInterface.simActivity base).embed id fun o _ => o
    let d : Daemon OwnerFields := { inhibitors := [0], object := fun _ => { sub := {} } }
    let msg : Message := { type := .methodCall, sender := lit ":1.5" }
    let es : List Event := [.message 300 msg none, .message 500 msg none, .poll 600]
    C.IsClass ∧ d.Initial ∧ Transition.Along (step v 0 C) (Legal v 0 C) { daemon := d } es ∧
      ¬ Transition.Along (step v 0 C) (fun s e => Renewed 0 C (step v 0 C s e))
        { daemon := d } es := by
  intro v base C d msg es
  have hin : InhibitsOrRefuses v := fun _ _ _ _ => .inr rfl
  have hname : ClientName msg.sender := ⟨by decide, by decide, by decide⟩
  refine ⟨.inl ⟨base, id, _, rfl⟩, ⟨fun _ => rfl, rfl⟩, ?_, fun h => ?_⟩
  · refine ⟨⟨by decide, by decide, hname, fun _ _ => rfl, trivial⟩,
      ⟨by decide, by decide, hname, fun j hj => ?_, ?_⟩, ⟨by decide, by decide, trivial⟩,
      trivial⟩
    · rw [active_message_alone hin rfl, if_neg fun hpair => hj hpair.1]
      rfl
    · exact forwardFresh_alone (inhibitors_step hin _ _) 500 msg
  · -- the message at 500 is recent enough, but the entry is still the one of 300
    have hexpired := (h.2.2.1.polled rfl msg.sender hname).mpr ⟨500, rfl, by decide⟩
    exact absurd hexpired (by decide +kernel)

/-- One message, forwarded to one other interface, which expires. -/
theorem activity_renewed_once :
    let v : ℕ → Overrides (CinnamonFields × ℕ) := fun _ =>
      { doInhibit := fun now r s =>
          (.ok { r with id := [s.2.toUInt8], created := now }, (s.1, s.2 + 1)) }
    let C := (CinnamonScreenSaverInhibitInterface.simActivity
      { instanceId := 0, monitor := false }).embed Prod.fst
        fun f (s : CinnamonFields × ℕ) => (f, s.2)
    let d : Daemon (CinnamonFields × ℕ) :=
      { inhibitors := [0, 1], object := fun _ => { sub := ({}, 0) } }
    let msg : Message := { type := .methodCall, sender := lit ":1.5" }
    Transition.Along (step v 0 C) (fun s e => Renewed 0 C (step v 0 C s e)) { daemon := d }
      [.message 300 msg none, .poll 600] := by
  intro v C d msg
  have hin : InhibitsOrRefuses v := fun _ now r s =>
    .inl ⟨{ r with id := [s.2.toUInt8], created := now }, rfl⟩
  have hname : ClientName msg.sender := ⟨by decide, by decide, by decide⟩
  have hlegal : Transition.Along (step v 0 C) (Legal v 0 C) { daemon := d }
      [.message 300 msg none, .poll 600] := by
    refine ⟨⟨by decide, by decide, hname, fun _ _ => rfl, ?_⟩, ⟨by decide, by decide, trivial⟩,
      trivial⟩
    rw [clearSender_eq]
    refine ⟨fun huse => ?_, trivial⟩
    obtain ⟨j, hj⟩ := huse
    rw [active_insertActive, if_neg fun hpair => absurd hpair.2.1 (by decide),
      active_modifySub] at hj
    cases hj
  have hrun := activity_renewed hin (fun _ _ _ _ => rfl) (.inr ⟨_, _, _, rfl⟩)
    (⟨fun _ => rfl, rfl⟩ : d.Initial) (by decide) hlegal
  exact hrun.1 ⟨rfl, trivial, trivial⟩

end Activity

end Daemon

end UnifiedInhibit
