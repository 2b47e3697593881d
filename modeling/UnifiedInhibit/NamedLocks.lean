import UnifiedInhibit.LinuxKernelInhibitTheorems
import UnifiedInhibit.Lib.Run
import UnifiedInhibit.SxmoInhibitInterface

/-!
# Locks that are known by a name

`LinuxKernelInhibitInterface` and `SxmoInhibitInterface` take a lock for each request and keep it
in `activeInhibits` under an id that holds its name. Requests with one name share that entry: the
first release gives the lock back and removes the entry.
-/

namespace UnifiedInhibit

/-! ## The two classes -/

/-- What the locks of a class are. -/
structure NamedLocks (σ : Type) where
  overrides : Overrides σ
  supported : InhibitRequest → Prop
  mkId : InhibitRequest → InhibitID
  /-- the name in an id -/
  name : InhibitID → Bytes
  /-- the names in the commands to give a lock back, in the order they were issued -/
  unlocks : σ → List Bytes
  /-- the name that the command to take a lock gives back instead -/
  mistaken : InhibitRequest → Option Bytes

namespace LinuxKernelInhibitInterface

open LinuxKernelInhibitFork (tab strip)

/-- The name that a message for the child gives back, up to the newline at its end. The child looks
for a tab behind the spaces. -/
def unlocked (instanceId : UInt64) (msg : Bytes) : Option Bytes :=
  if (strip msg).head? = some tab then
    some (lockName (mkId instanceId ((strip msg).drop 1).dropLast))
  else none

def namedLocks (instanceId : UInt64) : NamedLocks LinuxKernelFields where
  overrides := overrides instanceId
  supported r := r.type &&& InhibitType.SUSPEND ≠ InhibitType.NONE
  mkId r := mkId instanceId (requestName r.appname r.reason)
  name := lockName
  unlocks s := s.written.filterMap (unlocked instanceId)
  mistaken r :=
    if (strip (requestName r.appname r.reason)).head? = some tab then
      some (lockName (mkId instanceId ((strip (requestName r.appname r.reason)).drop 1)))
    else none

end LinuxKernelInhibitInterface

namespace SxmoInhibitInterface

/-- The token that a command frees. -/
def freed (cmd : Bytes) : Option Bytes :=
  let front := lit "sxmo_mutex.sh can_suspend free \""
  if front <+: cmd then some (cmd.drop front.length).dropLast else none

def namedLocks (instanceId : UInt64) : NamedLocks SxmoFields where
  overrides := overrides { instanceId, ok := true }
  supported r := r.type &&& InhibitType.SCREENSAVER ≠ InhibitType.NONE ∨
    r.type &&& InhibitType.SUSPEND ≠ InhibitType.NONE
  mkId r := mkId instanceId (mkToken r.appname r.reason)
  name := token
  unlocks s := s.commands.filterMap freed
  mistaken _ := none

end SxmoInhibitInterface

namespace NamedLocks

inductive IsClass : {σ : Type} → NamedLocks σ → Prop where
  | linuxKernel (instanceId : UInt64) : IsClass (LinuxKernelInhibitInterface.namedLocks instanceId)
  | sxmo (instanceId : UInt64) : IsClass (SxmoInhibitInterface.namedLocks instanceId)

variable {σ : Type} (C : NamedLocks σ)

/-! ## The run -/

/-- The interface, and the inhibits it has returned that are not released yet. -/
structure Run (σ : Type) where
  obj : InhibitInterface σ
  unreleased : List Inhibit := []

inductive Event where
  | inhibit (now : ℕ) (r : InhibitRequest)
  | unInhibit (i : Inhibit)

def step (s : Run σ) : Event → Run σ
  | .inhibit now r =>
    match InhibitInterface.inhibit C.overrides now r s.obj with
    | (.ok i, o) => { obj := o, unreleased := s.unreleased ++ [i] }
    | (.error _, o) => { s with obj := o }
  | .unInhibit i =>
    { obj := (InhibitInterface.unInhibit C.overrides i.id s.obj).2
      unreleased := s.unreleased.erase i }

/-- The type is supported, and an inhibit is released at most once. -/
def Legal (s : Run σ) : Event → Prop
  | .inhibit _ r => C.supported r
  | .unInhibit i => i ∈ s.unreleased

/-- Some request that is not released maps to the name. -/
def Needed (s : Run σ) (n : Bytes) : Prop := ∃ i ∈ s.unreleased, C.name i.id = n

/-- The names that the step gives back. -/
def released (s : Run σ) (e : Event) : List Bytes :=
  (C.unlocks (C.step s e).obj.sub).drop (C.unlocks s.obj.sub).length

/-- Nothing that is still needed is given back, and what the step makes unneeded is. -/
def Held (s : Run σ) (e : Event) : Prop :=
  (∀ n ∈ C.released s e, ¬ C.Needed (C.step s e) n) ∧
    ∀ n, C.Needed s n → ¬ C.Needed (C.step s e) n → n ∈ C.released s e

/-- An inhibit is released while no other with its id is unreleased, and a command to take a lock
is no command to give back one that is needed. -/
def Unshared (s : Run σ) : Event → Prop
  | .inhibit _ r => ∀ n, C.mistaken r = some n → ¬ C.Needed s n ∧ C.name (C.mkId r) ≠ n
  | .unInhibit i => ∀ j ∈ s.unreleased.erase i, j.id ≠ i.id

/-! ## What the classes have in common -/

/-- The id of an inhibit is that of its request. -/
def OfRequest (i : Inhibit) : Prop := i.id = C.mkId i.toInhibitRequest

/-- What the proofs use of a class. -/
structure Lawful : Prop where
  noEvents : C.overrides.NoEvents
  doInhibit : ∀ now r s, C.supported r → ∃ i s', C.overrides.doInhibit now r s = (.ok i, s') ∧
    i.id = C.mkId r ∧ C.OfRequest i ∧ C.unlocks s' = C.unlocks s ++ (C.mistaken r).toList
  doUnInhibit : ∀ b id i s, b.activeInhibits[id]? = some i → i.id = id → C.OfRequest i →
    ∃ s', C.overrides.doUnInhibit b id s = (.ok (), s') ∧
      C.unlocks s' = C.unlocks s ++ [C.name id]
  name_inj : ∀ r r', C.name (C.mkId r) = C.name (C.mkId r') → C.mkId r = C.mkId r'

end NamedLocks

/-! ## Kernel locks -/

namespace LinuxKernelInhibitInterface

open LinuxKernelInhibitFork
open NewlineMessageFork (newline)

/-- Cutting at the first NUL and taking the spaces out commute. -/
lemma cstr_strip (m : Bytes) : CStruct.cstr (strip m) = strip (CStruct.cstr m) := by
  induction m with
  | nil => rfl
  | cons c m ih =>
    unfold strip CStruct.cstr at ih ⊢
    by_cases hspace : c = 32
    · rw [hspace, List.filter_cons_of_neg (by decide), ih, List.takeWhile_cons_of_pos (by decide),
        List.filter_cons_of_neg (by decide)]
    · rw [List.filter_cons_of_pos (by simpa using hspace)]
      by_cases hnul : c = 0
      · rw [hnul, List.takeWhile_cons_of_neg (by decide), List.takeWhile_cons_of_neg (by decide)]
        rfl
      · rw [List.takeWhile_cons_of_pos (by simpa using hnul),
          List.takeWhile_cons_of_pos (by simpa using hnul),
          List.filter_cons_of_pos (by simpa using hspace), ih]

lemma strip_strip (m : Bytes) : strip (strip m) = strip m :=
  strip_of_notMem fun hmem => by
    have h := (List.mem_filter.mp hmem).2
    exact absurd h (by decide)

lemma mkId_strip (instanceId : UInt64) (m : Bytes) :
    mkId instanceId (strip m) = mkId instanceId m := by
  unfold mkId
  rw [cstr_strip, strip_strip]

/-- The name that an id stores. -/
lemma lockName_mkId_eq (instanceId : UInt64) (m : Bytes) :
    lockName (mkId instanceId m) = (strip (CStruct.cstr m)).take (lockNameSize - 1) := by
  have h := lockName_mkId instanceId (CStruct.zero_notMem_cstr m)
  have hid : mkId instanceId (CStruct.cstr m) = mkId instanceId m := by
    unfold mkId
    rw [CStruct.cstr_of_notMem (CStruct.zero_notMem_cstr m)]
  rw [hid] at h
  exact h

/-- The name determines the id. -/
lemma mkId_eq (instanceId : UInt64) (m : Bytes) :
    mkId instanceId m = CStruct.leBytes 8 instanceId.toNat ++
      (lockName (mkId instanceId m) ++
        List.replicate (lockNameSize - 1 - (lockName (mkId instanceId m)).length) 0 ++ [0]) := by
  have hnul : (0 : UInt8) ∉ strip (CStruct.cstr m) :=
    zero_notMem_strip (CStruct.zero_notMem_cstr m)
  rw [lockName_mkId_eq]
  unfold mkId
  dsimp only
  rw [CStruct.strncpy_eq, CStruct.cstr_of_notMem hnul]

lemma strip_line (m : Bytes) : strip (m ++ [newline]) = strip m ++ [newline] := by
  rw [strip_append]
  rfl

/-- The message of a release names its lock. -/
lemma unlocked_release (instanceId : UInt64) (m : Bytes) :
    unlocked instanceId ([tab] ++ m ++ [newline]) = some (lockName (mkId instanceId m)) := by
  have hstrip : strip ([tab] ++ m ++ [newline]) = tab :: (strip m ++ [newline]) := by
    rw [strip_line, strip_append]
    rfl
  unfold unlocked
  rw [hstrip, List.head?_cons, if_pos rfl, List.drop_one, List.tail_cons, List.dropLast_concat,
    mkId_strip]

/-- The message of a request names a lock only if its name begins with a tab. -/
lemma unlocked_request (instanceId : UInt64) {m : Bytes} (hdash : (45 : UInt8) ∈ m) :
    unlocked instanceId (m ++ [newline]) =
      if (strip m).head? = some tab then some (lockName (mkId instanceId ((strip m).drop 1)))
      else none := by
  have hmem : (45 : UInt8) ∈ strip m := List.mem_filter.mpr ⟨hdash, by decide⟩
  obtain ⟨c, cs, hcons⟩ := List.exists_cons_of_ne_nil (List.ne_nil_of_mem hmem)
  -- the newline is not what stands in front, since the dash is kept
  unfold unlocked
  rw [strip_line, hcons, List.cons_append, List.head?_cons, List.head?_cons, List.drop_one,
    List.drop_one, List.tail_cons, List.tail_cons, List.dropLast_concat]

lemma dash_mem_requestName (appname reason : Bytes) :
    (45 : UInt8) ∈ requestName appname reason := by
  have hmem : (45 : UInt8) ∈ lit "-" := by decide
  exact List.mem_append_left _ (List.mem_append_right _ hmem)

lemma lawful (instanceId : UInt64) : (namedLocks instanceId).Lawful where
  noEvents := noEvents instanceId
  doInhibit now r s htype := by
    refine ⟨_, _, if_neg htype, rfl, rfl, ?_⟩
    show (s.written ++ [_]).filterMap (unlocked instanceId) = _
    rw [List.filterMap_append]
    have hone := unlocked_request instanceId (dash_mem_requestName r.appname r.reason)
    show _ = s.written.filterMap (unlocked instanceId) ++ (if _ then _ else _ : Option _).toList
    rw [← hone, List.filterMap_cons, List.filterMap_nil]
    cases unlocked instanceId (requestName r.appname r.reason ++ [newline]) <;> rfl
  doUnInhibit b id i s hactive hid hreq := by
    refine ⟨_, doUnInhibit_active hactive s, ?_⟩
    show (s.written ++ [_]).filterMap (unlocked instanceId) = _
    rw [List.filterMap_append, List.filterMap_cons, unlocked_release, List.filterMap_nil, ← hid]
    rw [show i.id = mkId instanceId (requestName i.appname i.reason) from hreq]
    rfl
  name_inj r r' h := by
    have h : lockName (mkId instanceId (requestName r.appname r.reason)) =
        lockName (mkId instanceId (requestName r'.appname r'.reason)) := h
    show mkId instanceId _ = mkId instanceId _
    rw [mkId_eq, h, ← mkId_eq]

end LinuxKernelInhibitInterface

/-! ## Sxmo tokens -/

namespace SxmoInhibitInterface

lemma freed_freeCommand (t : Bytes) : freed (freeCommand t) = some t := by
  have hfront : lit "sxmo_mutex.sh can_suspend free \"" <+: freeCommand t := by
    unfold freeCommand
    rw [List.append_assoc]
    exact List.prefix_append _ _
  unfold freed
  dsimp only
  rw [if_pos hfront]
  unfold freeCommand
  rw [List.append_assoc, List.drop_left]
  exact congrArg some List.dropLast_concat

/-- A command to lock frees nothing. -/
lemma freed_lockCommand (t : Bytes) : freed (CStruct.cstr (lockCommand t)) = none := by
  have hcut : ∃ rest, CStruct.cstr (lockCommand t) = lit "sxmo_mutex.sh can_suspend l" ++ rest := by
    refine ⟨CStruct.cstr (lit "ock \"" ++ t ++ lit "\""), ?_⟩
    have hlit : lit "sxmo_mutex.sh can_suspend lock \"" =
        lit "sxmo_mutex.sh can_suspend l" ++ lit "ock \"" := by decide
    unfold lockCommand
    rw [hlit, List.append_assoc, List.append_assoc, ← List.append_assoc (lit "ock \"")]
    exact List.takeWhile_append_of_pos (by decide +kernel)
  obtain ⟨rest, hrest⟩ := hcut
  -- the commands part at the first letter of `lock` and `free`
  have hnot : ¬ lit "sxmo_mutex.sh can_suspend free \"" <+: CStruct.cstr (lockCommand t) := by
    intro hprefix
    obtain ⟨rest', h⟩ := hprefix
    rw [hrest] at h
    have hget := congrArg (fun l : Bytes => l[26]?) h
    have hfree : (lit "sxmo_mutex.sh can_suspend free \"" ++ rest')[26]? = some 102 := rfl
    have hlock : (lit "sxmo_mutex.sh can_suspend l" ++ rest)[26]? = some 108 := rfl
    rw [hfree, hlock] at hget
    exact absurd hget (by decide)
  unfold freed
  exact if_neg hnot

lemma lawful (instanceId : UInt64) : (namedLocks instanceId).Lawful where
  noEvents := noEvents _
  doInhibit now r s htype := by
    have hnot : ¬ (r.type &&& InhibitType.SCREENSAVER = InhibitType.NONE ∧
        r.type &&& InhibitType.SUSPEND = InhibitType.NONE) := fun h =>
      htype.elim (fun hne => hne h.1) fun hne => hne h.2
    refine ⟨_, _, if_neg hnot, rfl, rfl, ?_⟩
    show (s.commands ++ [_]).filterMap freed = _
    rw [List.filterMap_append, List.filterMap_cons, freed_lockCommand, List.filterMap_nil]
    rfl
  doUnInhibit b id i s _ _ _ := by
    refine ⟨_, rfl, ?_⟩
    have hcmd := cstr_freeCommand (t := token id) (CStruct.zero_notMem_cstr _)
    show (s.commands ++ [CStruct.cstr (freeCommand (token id))]).filterMap freed = _
    rw [hcmd, List.filterMap_append, List.filterMap_cons, freed_freeCommand, List.filterMap_nil]
    rfl
  name_inj r r' h := by
    have h : token (mkId instanceId (mkToken r.appname r.reason)) =
        token (mkId instanceId (mkToken r'.appname r'.reason)) := h
    rw [token_mkId, token_mkId] at h
    show mkId instanceId _ = mkId instanceId _
    rw [mkId_eq, mkId_eq, h]

end SxmoInhibitInterface

namespace NamedLocks

variable {σ : Type} {C : NamedLocks σ}

lemma IsClass.lawful (h : C.IsClass) : C.Lawful := by
  cases h with
  | linuxKernel instanceId => exact LinuxKernelInhibitInterface.lawful instanceId
  | sxmo instanceId => exact SxmoInhibitInterface.lawful instanceId

/-! ## One step -/

/-- What is not released is active, and what is active goes by the id of its request. -/
structure Inv (C : NamedLocks σ) (s : Run σ) : Prop where
  active : ∀ i ∈ s.unreleased, ∃ j, s.obj.activeInhibits[i.id]? = some j
  keyed : ∀ id j, s.obj.activeInhibits[id]? = some j → j.id = id ∧ C.OfRequest j
  ofRequest : ∀ i ∈ s.unreleased, C.OfRequest i

variable {s : Run σ}

/-- A request adds an inhibit with its id. -/
lemma step_inhibit (hC : C.Lawful) (now : ℕ) {r : InhibitRequest} (hr : C.supported r) :
    ∃ i, i.id = C.mkId r ∧ C.OfRequest i ∧
      (C.step s (.inhibit now r)).unreleased = s.unreleased ++ [i] ∧
      (C.step s (.inhibit now r)).obj.activeInhibits =
        s.obj.activeInhibits.insertIfNew i.id i ∧
      C.released s (.inhibit now r) = (C.mistaken r).toList := by
  obtain ⟨i, f, hdo, hid, hreq, hunlocks⟩ := hC.doInhibit now r s.obj.sub hr
  obtain ⟨hres, hactive⟩ := InhibitInterface.inhibit_ok C.overrides hdo
  have hsub := hC.noEvents.inhibit_sub hdo
  have hstep : C.step s (.inhibit now r) =
      { obj := (InhibitInterface.inhibit C.overrides now r s.obj).2
        unreleased := s.unreleased ++ [i] } := by
    have hrun : InhibitInterface.inhibit C.overrides now r s.obj =
        (.ok i, (InhibitInterface.inhibit C.overrides now r s.obj).2) := Prod.ext hres rfl
    unfold step
    dsimp only
    rw [hrun]
  refine ⟨i, hid, hreq, ?_, ?_, ?_⟩
  · rw [hstep]
  · rw [hstep]
    exact hactive
  · unfold released
    rw [hstep, hsub, hunlocks, List.drop_left]

/-- A release gives the name in the id back. -/
lemma step_unInhibit (hC : C.Lawful) (h : Inv C s) {i : Inhibit} (hi : i ∈ s.unreleased) :
    (∀ id j, (C.step s (.unInhibit i)).obj.activeInhibits[id]? = some j ↔
        id ≠ i.id ∧ s.obj.activeInhibits[id]? = some j) ∧
      C.released s (.unInhibit i) = [C.name i.id] := by
  obtain ⟨j, hj⟩ := h.active i hi
  obtain ⟨hid, hreq⟩ := h.keyed i.id j hj
  obtain ⟨f, hdo, hunlocks⟩ := hC.doUnInhibit s.obj.toBase i.id j s.obj.sub hj hid hreq
  have hsub := hC.noEvents.unInhibit_sub hj hdo
  have hactive : (InhibitInterface.unInhibit C.overrides i.id s.obj).2.activeInhibits =
      s.obj.activeInhibits.erase i.id := by
    unfold InhibitInterface.unInhibit
    rw [hj]
    dsimp only
    rw [hdo]
    exact InhibitInterface.callEvent_activeInhibits _ _ _ _
  constructor
  · intro id j'
    show (InhibitInterface.unInhibit C.overrides i.id s.obj).2.activeInhibits[id]? = _ ↔ _
    rw [hactive, StdMap.getElem?_erase]
    by_cases heq : id = i.id
    · simp [heq]
    · simp [heq]
  · show (C.unlocks (InhibitInterface.unInhibit C.overrides i.id s.obj).2.sub).drop _ = _
    rw [hsub, hunlocks, List.drop_left]

/-- A request gives nothing back that is needed exactly if its name is taken for none. -/
lemma Inv.inhibit (hC : C.Lawful) (h : Inv C s) (now : ℕ) {r : InhibitRequest}
    (hr : C.supported r) :
    Inv C (C.step s (.inhibit now r)) ∧
      (C.Held s (.inhibit now r) ↔ C.Unshared s (.inhibit now r)) := by
  obtain ⟨i, hid, hreq, hunreleased, hactive, hreleased⟩ := step_inhibit (s := s) hC now hr
  have hneeded : ∀ n, C.Needed (C.step s (.inhibit now r)) n ↔
      C.Needed s n ∨ C.name (C.mkId r) = n := by
    intro n
    unfold Needed
    rw [hunreleased, ← hid]
    simp only [List.mem_append, List.mem_singleton, or_and_right, exists_or, exists_eq_left]
  have hget : ∀ id j, (C.step s (.inhibit now r)).obj.activeInhibits[id]? = some j →
      s.obj.activeInhibits[id]? = some j ∨ (id = i.id ∧ j = i) := by
    intro id j hj
    rw [hactive, StdMap.getElem?_insertIfNew] at hj
    split at hj
    · rename_i hnew
      exact .inr ⟨hnew.1, (Option.some.inj hj).symm⟩
    · exact .inl hj
  constructor
  · constructor
    case active =>
      -- `insert` may keep an older entry, but there is one
      intro j hj
      have hmem : j.id ∈ (C.step s (.inhibit now r)).obj.activeInhibits := by
        rw [hactive, StdMap.mem_insertIfNew]
        rw [hunreleased] at hj
        rcases List.mem_append.mp hj with hold | hnew
        · exact .inr ((StdMap.mem_iff _ _).mpr (h.active j hold))
        · rw [List.mem_singleton.mp hnew]
          exact .inl rfl
      exact (StdMap.mem_iff _ _).mp hmem
    case keyed =>
      intro id j hj
      rcases hget id j hj with hold | hnew
      · exact h.keyed id j hold
      · rw [hnew.2, hnew.1]
        exact ⟨rfl, hreq⟩
    case ofRequest =>
      intro j hj
      rw [hunreleased] at hj
      rcases List.mem_append.mp hj with hold | hnew
      · exact h.ofRequest j hold
      · rw [List.mem_singleton.mp hnew]
        exact hreq
  · unfold Held Unshared
    rw [hreleased]
    simp only [hneeded, Option.mem_toList]
    constructor
    · intro hheld n hn
      exact not_or.mp (hheld.1 n hn)
    · intro hmistaken
      refine ⟨fun n hn => not_or.mpr (hmistaken n hn), fun n hn hnot => ?_⟩
      exact absurd (.inl hn) hnot

/-- A release gives nothing back that is needed exactly if no other inhibit has its id. -/
lemma Inv.unInhibit (hC : C.Lawful) (h : Inv C s) {i : Inhibit} (hi : i ∈ s.unreleased) :
    (C.Unshared s (.unInhibit i) → Inv C (C.step s (.unInhibit i))) ∧
      (C.Held s (.unInhibit i) ↔ C.Unshared s (.unInhibit i)) := by
  obtain ⟨hactive, hreleased⟩ := step_unInhibit hC h hi
  have hunreleased : (C.step s (.unInhibit i)).unreleased = s.unreleased.erase i := rfl
  -- an id and its name determine each other
  have hname : ∀ j ∈ s.unreleased, C.name j.id = C.name i.id ↔ j.id = i.id := by
    intro j hj
    constructor
    · intro heq
      rw [h.ofRequest j hj, h.ofRequest i hi] at heq ⊢
      exact hC.name_inj _ _ heq
    · exact fun heq => congrArg C.name heq
  constructor
  · intro hunshared
    constructor
    case active =>
      intro j hj
      rw [hunreleased] at hj
      obtain ⟨j', hj'⟩ := h.active j (List.mem_of_mem_erase hj)
      exact ⟨j', (hactive _ _).mpr ⟨hunshared j hj, hj'⟩⟩
    case keyed =>
      intro id j hj
      exact h.keyed id j ((hactive _ _).mp hj).2
    case ofRequest =>
      intro j hj
      exact h.ofRequest j (List.mem_of_mem_erase hj)
  · unfold Held Unshared
    rw [hreleased]
    constructor
    · intro hheld j hj heq
      exact hheld.1 _ (List.mem_singleton_self _) ⟨j, hj, congrArg C.name heq⟩
    · intro hunshared
      refine ⟨fun n hn hneeded => ?_, fun n hn hnot => ?_⟩
      · -- a name that is needed belongs to another inhibit with this id
        obtain ⟨j, hj, hjn⟩ := hneeded
        rw [List.mem_singleton.mp hn] at hjn
        exact hunshared j hj ((hname j (List.mem_of_mem_erase hj)).mp hjn)
      · -- the only inhibit that went is `i`
        obtain ⟨j, hj, hjn⟩ := hn
        by_cases heq : j = i
        · rw [← hjn, heq]
          exact List.mem_singleton_self _
        · exact absurd ⟨j, (List.mem_erase_of_ne heq).mpr hj, hjn⟩ hnot

/-! ## Runs -/

/-- Through a whole run no name is given back that is needed, and each is given back with its last
request, if and only if no two requests with one id overlap at a release and no request's name
begins with a tab in front of a name that is needed. -/
theorem held_iff (hC : C.IsClass) {f : σ} {es : List Event}
    (hes : Transition.Along C.step C.Legal { obj := { sub := f } } es) :
    Transition.Along C.step C.Held { obj := { sub := f } } es ↔
      Transition.Along C.step C.Unshared { obj := { sub := f } } es := by
  have hlawful := hC.lawful
  have hstart : Inv C { obj := { sub := f } } :=
    ⟨fun i hi => absurd hi List.not_mem_nil, fun id j hj => absurd hj (by simp),
      fun i hi => absurd hi List.not_mem_nil⟩
  have hiff : ∀ s e, Inv C s → C.Legal s e → (C.Held s e ↔ C.Unshared s e) := by
    intro s e h hlegal
    cases e with
    | inhibit now r => exact (h.inhibit hlawful now hlegal).2
    | unInhibit i => exact (h.unInhibit hlawful hlegal).2
  have hstep : ∀ s e, Inv C s → C.Legal s e → C.Unshared s e → Inv C (C.step s e) := by
    intro s e h hlegal hunshared
    cases e with
    | inhibit now r => exact (h.inhibit hlawful now hlegal).1
    | unInhibit i => exact (h.unInhibit hlawful hlegal).1 hunshared
  constructor
  · intro hheld
    exact Transition.along_imp hstart hstep (fun s e h hlegal hh => (hiff s e h hlegal).mp hh)
      hes hheld
  · intro hunshared
    have hboth := Transition.along_and.mpr ⟨hes, hunshared⟩
    exact Transition.along_imp hstart
      (fun s e h hok _ => hstep s e h hok.1 hok.2)
      (fun s e h hok _ => (hiff s e h hok.1).mpr hok.2) hboth hboth

/-- A step that gives back a name which an unreleased inhibit still has. -/
lemma not_held {s : Run σ} {e : Event} {i : Inhibit} (hname : C.name i.id ∈ C.released s e)
    (hi : i ∈ (C.step s e).unreleased) : ¬ C.Held s e :=
  fun h => h.1 _ hname ⟨i, hi, rfl⟩

/-- Two requests with one name: the first release gives the lock back, in both classes. -/
theorem held_fails :
    let r : InhibitRequest :=
      { type := InhibitType.SUSPEND, appname := lit "a", reason := lit "b" }
    let es (i : Inhibit) : List Event := [.inhibit 5 r, .inhibit 6 r, .unInhibit i]
    let K := LinuxKernelInhibitInterface.namedLocks 0
    let i : Inhibit := { r with id := K.mkId r, created := 5 }
    let X := SxmoInhibitInterface.namedLocks 0
    let j : Inhibit := { r with id := X.mkId r, created := 5 }
    (Transition.Along K.step K.Legal { obj := { sub := {} } } (es i) ∧
      ¬ Transition.Along K.step K.Held { obj := { sub := {} } } (es i)) ∧
    (Transition.Along X.step X.Legal { obj := { sub := {} } } (es j) ∧
      ¬ Transition.Along X.step X.Held { obj := { sub := {} } } (es j)) := by
  intro r es K i X j
  have htype : r.type &&& InhibitType.SUSPEND ≠ InhibitType.NONE := by decide
  have hK : i ∈ (K.step (K.step { obj := { sub := {} } } (.inhibit 5 r))
      (.inhibit 6 r)).unreleased := by decide +kernel
  have hX : j ∈ (X.step (X.step { obj := { sub := {} } } (.inhibit 5 r))
      (.inhibit 6 r)).unreleased := by decide +kernel
  -- the second request is still unreleased when the first is released
  refine ⟨⟨⟨htype, htype, hK, trivial⟩, fun h => ?_⟩,
    ⟨⟨.inr htype, .inr htype, hX, trivial⟩, fun h => ?_⟩⟩
  · have hsecond : { i with created := 6 } ∈ (K.step (K.step (K.step { obj := { sub := {} } }
        (.inhibit 5 r)) (.inhibit 6 r)) (.unInhibit i)).unreleased := by decide +kernel
    exact not_held (by decide +kernel) hsecond h.2.2.1
  · have hsecond : { j with created := 6 } ∈ (X.step (X.step (X.step { obj := { sub := {} } }
        (.inhibit 5 r)) (.inhibit 6 r)) (.unInhibit j)).unreleased := by decide +kernel
    exact not_held (by decide +kernel) hsecond h.2.2.1

/-- Two requests with names of their own. -/
theorem held_apart :
    let r : InhibitRequest :=
      { type := InhibitType.SUSPEND, appname := lit "a", reason := lit "b" }
    let K := LinuxKernelInhibitInterface.namedLocks 0
    let i : Inhibit := { r with id := K.mkId r, created := 5 }
    Transition.Along K.step K.Held { obj := { sub := {} } }
      [.inhibit 5 r, .inhibit 6 { r with reason := lit "c" }, .unInhibit i] := by
  intro r K i
  have htype : r.type &&& InhibitType.SUSPEND ≠ InhibitType.NONE := by decide
  have hi : i ∈ (K.step (K.step { obj := { sub := {} } } (.inhibit 5 r))
      (.inhibit 6 { r with reason := lit "c" })).unreleased := by decide +kernel
  have hlegal : Transition.Along K.step K.Legal { obj := { sub := {} } }
      [.inhibit 5 r, .inhibit 6 { r with reason := lit "c" }, .unInhibit i] :=
    ⟨htype, htype, hi, trivial⟩
  have hfirst : K.mistaken r = none := by decide
  have hsecond : K.mistaken { r with reason := lit "c" } = none := by decide
  refine (held_iff (.linuxKernel 0) hlegal).mpr ⟨fun n hn => ?_, fun n hn => ?_, ?_, trivial⟩
  · rw [hfirst] at hn
    exact absurd hn (by simp)
  · rw [hsecond] at hn
    exact absurd hn (by simp)
  · show ∀ j ∈ (K.step (K.step { obj := { sub := {} } } (.inhibit 5 r))
      (.inhibit 6 { r with reason := lit "c" })).unreleased.erase i, j.id ≠ i.id
    decide +kernel

end NamedLocks

end UnifiedInhibit
