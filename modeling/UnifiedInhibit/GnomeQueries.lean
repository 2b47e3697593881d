import UnifiedInhibit.GnomeInhibitors

/-!
# The queries of a session manager

`GetInhibitors` agrees with the signals, the inhibitor objects describe the active inhibits, and
`IsInhibited` and `InhibitedActions` follow the flags that clients asked for. `gnomeType2us` keeps
two of the 32 bits, and `us2gnomeType` writes them back.
-/

namespace UnifiedInhibit
namespace GnomeSessionManagerInhibitInterface

open Announced (additions observe Apt)
open DBus (Message)

/-! ## Flags -/

/-- The flags that the mapping keeps. -/
def supported : GnomeInhibitType := GnomeInhibitType.SUSPEND ||| GnomeInhibitType.SESSIONIDLE

/-- The two have the `SUSPEND` or the `SESSIONIDLE` bit in common. -/
def Share (f g : GnomeInhibitType) : Prop :=
  (f &&& GnomeInhibitType.SUSPEND ≠ 0 ∧ g &&& GnomeInhibitType.SUSPEND ≠ 0) ∨
    (f &&& GnomeInhibitType.SESSIONIDLE ≠ 0 ∧ g &&& GnomeInhibitType.SESSIONIDLE ≠ 0)

/-- The bitwise OR of all flags. -/
def union (flags : List GnomeInhibitType) : GnomeInhibitType := flags.foldl (· ||| ·) 0

lemma pos_iff_ne_zero (f : GnomeInhibitType) : f > 0 ↔ f ≠ 0 := by
  rw [gt_iff_lt, UInt32.lt_iff_toNat_lt, ← UInt32.toNat_inj.ne]
  exact Nat.pos_iff_ne_zero

/-- A single bit is set or not. -/
lemma and_bit (f : GnomeInhibitType) {k : ℕ} {flag : GnomeInhibitType}
    (hflag : flag.toBitVec = BitVec.twoPow 32 k) :
    f &&& flag = if f.toBitVec.getLsbD k then flag else 0 := by
  rw [← UInt32.toBitVec_inj, UInt32.toBitVec_and, hflag, BitVec.and_twoPow]
  split
  · exact hflag.symm
  · rfl

lemma and_suspend (f : GnomeInhibitType) :
    f &&& GnomeInhibitType.SUSPEND =
      if f.toBitVec.getLsbD 2 then GnomeInhibitType.SUSPEND else 0 :=
  and_bit f (by decide)

lemma and_sessionIdle (f : GnomeInhibitType) :
    f &&& GnomeInhibitType.SESSIONIDLE =
      if f.toBitVec.getLsbD 3 then GnomeInhibitType.SESSIONIDLE else 0 :=
  and_bit f (by decide)

lemma and_suspend_ne_zero_iff (f : GnomeInhibitType) :
    f &&& GnomeInhibitType.SUSPEND ≠ 0 ↔ f.toBitVec.getLsbD 2 = true := by
  rw [and_suspend]
  split
  · simp_all [GnomeInhibitType.SUSPEND]
  · simp_all

lemma and_sessionIdle_ne_zero_iff (f : GnomeInhibitType) :
    f &&& GnomeInhibitType.SESSIONIDLE ≠ 0 ↔ f.toBitVec.getLsbD 3 = true := by
  rw [and_sessionIdle]
  split
  · simp_all [GnomeInhibitType.SESSIONIDLE]
  · simp_all

/-- The mapping through one bit each. -/
lemma gnomeType2us_eq (f : GnomeInhibitType) :
    gnomeType2us f =
      (if f.toBitVec.getLsbD 2 then InhibitType.SUSPEND else InhibitType.NONE) |||
        (if f.toBitVec.getLsbD 3 then InhibitType.SCREENSAVER else InhibitType.NONE) := by
  unfold gnomeType2us
  simp only [pos_iff_ne_zero, and_suspend_ne_zero_iff, and_sessionIdle_ne_zero_iff]

lemma gnomeType2us_has_suspend (f : GnomeInhibitType) :
    (gnomeType2us f).has InhibitType.SUSPEND = f.toBitVec.getLsbD 2 := by
  rw [gnomeType2us_eq]
  cases f.toBitVec.getLsbD 2 <;> cases f.toBitVec.getLsbD 3 <;> decide

lemma gnomeType2us_has_screensaver (f : GnomeInhibitType) :
    (gnomeType2us f).has InhibitType.SCREENSAVER = f.toBitVec.getLsbD 3 := by
  rw [gnomeType2us_eq]
  cases f.toBitVec.getLsbD 2 <;> cases f.toBitVec.getLsbD 3 <;> decide

/-- The test of `IsInhibited`, one flag at a time. -/
lemma gnomeType2us_has (f : GnomeInhibitType) (t : InhibitType) :
    (gnomeType2us f).has t = (f.toBitVec.getLsbD 2 && t.has InhibitType.SUSPEND ||
      f.toBitVec.getLsbD 3 && t.has InhibitType.SCREENSAVER) := by
  have hcomm (s : InhibitType) : s.has t = t.has s := by
    unfold InhibitType.has
    rw [BitVec.and_comm]
  rw [gnomeType2us_eq, InhibitType.or_has]
  congr 1
  · cases f.toBitVec.getLsbD 2
    · exact InhibitType.none_has t
    · exact hcomm InhibitType.SUSPEND
  · cases f.toBitVec.getLsbD 3
    · exact InhibitType.none_has t
    · exact hcomm InhibitType.SCREENSAVER

lemma union_append (flags : List GnomeInhibitType) (f : GnomeInhibitType) :
    union (flags ++ [f]) = union flags ||| f := by
  unfold union
  rw [List.foldl_append]
  rfl

lemma getLsbD_union (flags : List GnomeInhibitType) (k : ℕ) :
    (union flags).toBitVec.getLsbD k = true ↔ ∃ f ∈ flags, f.toBitVec.getLsbD k = true := by
  induction flags using List.reverseRecOn with
  | nil => simp [union]
  | append_singleton flags f ih =>
    rw [union_append, UInt32.toBitVec_or, BitVec.getLsbD_or, Bool.or_eq_true, ih]
    simp [or_and_right, exists_or]

/-- What is left of any flags behind the mask. -/
lemma and_supported (f : GnomeInhibitType) :
    f &&& supported =
      (if f.toBitVec.getLsbD 2 then GnomeInhibitType.SUSPEND else GnomeInhibitType.NONE) |||
        (if f.toBitVec.getLsbD 3 then GnomeInhibitType.SESSIONIDLE
          else GnomeInhibitType.NONE) := by
  have hdistrib : f &&& supported =
      (f &&& GnomeInhibitType.SUSPEND) ||| (f &&& GnomeInhibitType.SESSIONIDLE) := by
    unfold supported
    rw [← UInt32.toBitVec_inj]
    simp only [UInt32.toBitVec_and, UInt32.toBitVec_or, BitVec.and_or_distrib_left]
  rw [hdistrib, and_suspend, and_sessionIdle]
  rfl

/-! ## What is active -/

section Good

variable {V : View} {flags : List GnomeInhibitType}

/-- The flags that the active inhibits were asked for with. -/
def activeFlags (V : View) (flags : List GnomeInhibitType) : List GnomeInhibitType :=
  V.active.toList.map fun p => flagsOf flags p.2

lemma mem_activeFlags (f : GnomeInhibitType) :
    f ∈ activeFlags V flags ↔
      ∃ (id : InhibitID) (i : Inhibit), V.active[id]? = some i ∧ flagsOf flags i = f := by
  unfold activeFlags
  simp only [List.mem_map, Prod.exists, Std.ExtTreeMap.mem_toList_iff_getElem?_eq_some]

/-- Where the types of the active inhibits come from their flags, `inhibited` has what any of them
asked for. -/
lemma Good.inhibited_has {b : Base} (h : Good V flags) (hactive : V.active = b.activeInhibits)
    {flag : InhibitType} {k : ℕ}
    (hflag : ∀ f, (gnomeType2us f).has flag = f.toBitVec.getLsbD k) :
    b.inhibited.has flag = true ↔ ∃ f ∈ activeFlags V flags, f.toBitVec.getLsbD k = true := by
  rw [Base.inhibited_has]
  apply Iff.intro
  · rintro ⟨id, i, hi, hhas⟩
    rw [← hactive] at hi
    rw [h.type id i hi, hflag] at hhas
    exact ⟨_, (mem_activeFlags _).mpr ⟨id, i, hi, rfl⟩, hhas⟩
  · rintro ⟨f, hf, hbit⟩
    obtain ⟨id, i, hi, rfl⟩ := (mem_activeFlags f).mp hf
    refine ⟨id, i, hactive ▸ hi, ?_⟩
    rw [h.type id i hi, hflag]
    exact hbit

/-- Distinct active inhibits have distinct paths. -/
lemma Good.nodup_paths (h : Good V flags) :
    (V.active.toList.map fun p => inhibitorPath (OwnerId.cookie p.2.id)).Nodup := by
  refine List.pairwise_map.mpr ?_
  apply List.Pairwise.imp_of_mem _ Std.ExtTreeMap.distinct_keys_toList
  rintro ⟨id, i⟩ ⟨id', i'⟩ hi hi' hne heq
  have hi := Std.ExtTreeMap.mem_toList_iff_getElem?_eq_some.mp hi
  have hi' := Std.ExtTreeMap.mem_toList_iff_getElem?_eq_some.mp hi'
  have hcookie := inhibitorPath_inj heq
  rw [h.keyed id i hi, h.keyed id' i' hi'] at hcookie
  have hsame := h.inj id ((StdMap.mem_iff _ _).mpr ⟨i, hi⟩) id'
    ((StdMap.mem_iff _ _).mpr ⟨i', hi'⟩) hcookie
  rw [hsame] at hne
  exact hne Std.ReflCmp.compare_self

lemma Good.inhibitFromCookie_active {b : Base} (h : Good V flags)
    (hactive : V.active = b.activeInhibits) {id : InhibitID} {i : Inhibit}
    (hi : V.active[id]? = some i) :
    inhibitFromCookie (OwnerId.cookie i.id) b = .ok i := by
  unfold inhibitFromCookie
  rw [← hactive]
  cases hfind : V.active.toList.find? fun p =>
      OwnerId.cookie i.id = OwnerId.cookie p.2.id with
  | none =>
    have hmiss := List.find?_eq_none.mp hfind (id, i)
      (Std.ExtTreeMap.mem_toList_iff_getElem?_eq_some.mpr hi)
    simp at hmiss
  | some p =>
    -- the paths are distinct, so no other inhibit has the cookie
    have hcookie : OwnerId.cookie i.id = OwnerId.cookie p.2.id :=
      of_decide_eq_true (List.find?_some hfind :)
    have hp : p = (id, i) := List.inj_on_of_nodup_map h.nodup_paths
      (List.mem_of_find?_eq_some hfind) (Std.ExtTreeMap.mem_toList_iff_getElem?_eq_some.mpr hi)
      (congrArg inhibitorPath hcookie.symm)
    rw [hp]

lemma inhibitFromCookie_other {b : Base} {cookie : UInt32}
    (h : inhibitorPath cookie ∉
      b.activeInhibits.toList.map fun p => inhibitorPath (OwnerId.cookie p.2.id)) :
    inhibitFromCookie cookie b = .error .notFound := by
  unfold inhibitFromCookie
  have hnone : b.activeInhibits.toList.find? (fun p => cookie = OwnerId.cookie p.2.id) = none := by
    rw [List.find?_eq_none]
    intro p hp heq
    have heq := of_decide_eq_true heq
    exact h (List.mem_map.mpr ⟨p, hp, congrArg inhibitorPath heq.symm⟩)
  rw [hnone]

end Good

/-! ## Answers -/

section Answers

variable {cfg : OwnerConfig} (hmode : cfg.monitor = false)

/-- What the three queries about an inhibitor object answer. -/
structure Describes (cfg : OwnerConfig) (msg : Message) (b : Base) (appname reason : Bytes)
    (flags : GnomeInhibitType) : Prop where
  appId : handleGetAppID cfg msg b = .ok [.methodReturn msg [.string appname]]
  reason : handleGetReason cfg msg b = .ok [.methodReturn msg [.string reason]]
  flags : handleGetFlags cfg msg b = .ok [.methodReturn msg [.uint32 flags]]

lemma inhibitorPathToCookie_path {cookie : UInt32} (h : cookie.toNat < 2 ^ 31) :
    inhibitorPathToCookie (inhibitorPath cookie) = .ok cookie := by
  rw [inhibitorPathToCookie_eq, lastNumber_inhibitorPath, if_pos (by omega)]
  exact congrArg Except.ok UInt32.ofNat_toNat

include hmode

lemma describes_active {msg : Message} {b : Base} {cookie : UInt32} {i : Inhibit}
    (hpath : inhibitorPathToCookie msg.path = .ok cookie)
    (hfind : inhibitFromCookie cookie b = .ok i) :
    Describes cfg msg b i.appname i.reason (us2gnomeType i.type) := by
  constructor
  all_goals
    simp [handleGetAppID, handleGetReason, handleGetFlags, handleInhibitor, hmode, hpath, hfind]

lemma describes_other {msg : Message} {b : Base} {cookie : UInt32}
    (hpath : inhibitorPathToCookie msg.path = .ok cookie)
    (hfind : inhibitFromCookie cookie b = .error .notFound) :
    Describes cfg msg b [] [] 0 := by
  constructor
  all_goals
    simp [handleGetAppID, handleGetReason, handleGetFlags, handleInhibitor, hmode, hpath, hfind]

lemma handleGetInhibitors_eq (msg : Message) (b : Base) :
    handleGetInhibitors cfg msg b = .ok [.methodReturn msg [.objectPaths
      (b.activeInhibits.toList.map fun p => inhibitorPath (OwnerId.cookie p.2.id))]] := by
  unfold handleGetInhibitors
  rw [if_neg (by simp [hmode])]
  rfl

end Answers

/-! ## Runs -/

section Runs

variable (cfg : OwnerConfig) (mName mName2 : Bytes)

/-- The interface after these events. -/
def after (es : List Event) : Run := Transition.run (step cfg mName mName2) {} es

/-- The path of the inhibitor object for this id. -/
def pathOf (id : InhibitID) : Bytes := inhibitorPath (OwnerId.cookie id)

/-- What is active. -/
def Run.base (s : Run) : Base := s.state.world.obj.toBase

variable {cfg mName mName2}

lemma Kept.after (hmode : cfg.monitor = false) {es : List Event}
    (hes : Transition.Along (GnomeSessionManagerInhibitInterface.step cfg mName mName2)
      Truthful {} es)
    (hlt : (GnomeSessionManagerInhibitInterface.after cfg mName mName2 es).flags.length < 2 ^ 32) :
    Good (GnomeSessionManagerInhibitInterface.after cfg mName mName2 es).view
      (GnomeSessionManagerInhibitInterface.after cfg mName mName2 es).flags :=
  (Kept.run hmode hes hlt).good

/-- An observer of the signals holds exactly what `GetInhibitors` answers, and no signal was out of
place. -/
def SignalsMatch (cfg : OwnerConfig) (s : Run) (msg : Message) : Prop :=
  ∃ paths : List Bytes,
    handleGetInhibitors cfg msg s.base = .ok [.methodReturn msg [.objectPaths paths]] ∧
    Transition.run observe ∅ s.view.notices = paths.toFinset ∧
    Transition.Along observe Apt ∅ s.view.notices ∧ (additions s.view.notices).Nodup

/-- The paths that `GetInhibitors` answers are distinct, one for each active inhibit, and describe
it. The paths of all other cookies describe nothing. -/
def InhibitorsDescribed (cfg : OwnerConfig) (s : Run) : Prop :=
  ∃ paths : List Bytes,
    paths = s.base.activeInhibits.keys.map pathOf ∧ paths.Nodup ∧
    (∀ msg, handleGetInhibitors cfg msg s.base = .ok [.methodReturn msg [.objectPaths paths]]) ∧
    (∀ (id : InhibitID) (i : Inhibit), s.base.activeInhibits[id]? = some i →
      ∀ msg, msg.path = pathOf id →
        Describes cfg msg s.base i.appname i.reason (us2gnomeType i.type)) ∧
    ∀ cookie : UInt32, cookie.toNat < 2 ^ 31 → inhibitorPath cookie ∉ paths →
      ∀ msg, msg.path = inhibitorPath cookie → Describes cfg msg s.base [] [] 0

/-- `IsInhibited` and `InhibitedActions` follow the flags that the active inhibits were asked for
with. -/
def QueriesFollowFlags (cfg : OwnerConfig) (s : Run) : Prop :=
  (∀ (msg : Message) (f : GnomeInhibitType), oneUInt32 msg.args = some f →
    ∃ b : Bool, handleIsInhibitedMsg cfg msg s.base = .ok [.methodReturn msg [.boolean b]] ∧
      (b = true ↔ ∃ (id : InhibitID) (i : Inhibit),
        s.base.activeInhibits[id]? = some i ∧ Share (flagsOf s.flags i) f)) ∧
  ∀ msg : Message, twoStrings msg.args = some (lit INTERFACE, lit "InhibitedActions") →
    handleGetProperty cfg msg s.base =
      .ok [.methodReturn msg [.uint32 (union (activeFlags s.view s.flags) &&& supported)]]

/-- Each event issues at most one cookie. -/
lemma length_flags_le (es : List Event) :
    (after cfg mName mName2 es).flags.length ≤ es.length := by
  induction es using List.reverseRecOn with
  | nil => exact le_rfl
  | append_singleton es e ih =>
    have hstep (s : Run) : (step cfg mName mName2 s e).flags.length ≤ s.flags.length + 1 := by
      unfold step
      dsimp only
      split
      · omega
      · rw [List.length_append, List.length_singleton]
    unfold after at ih ⊢
    rw [Transition.run_snoc, List.length_append, List.length_singleton]
    have hle := hstep (Transition.run (step cfg mName mName2) {} es)
    omega

/-- A client asks for everything, the daemon inhibits the screen saver, and the client goes. -/
def exampleEvents : List Event :=
  [.message 0 [] (OwnerKind.exampleSessionManager.inhibitCall ":1.1"
      [.string [], .uint32 0, .string [], .uint32 15]),
    .inhibit 0 { type := InhibitType.SCREENSAVER },
    .message 0 [] (OwnerKind.nameLost "org.freedesktop.DBus" ":1.1")]

lemma truthful_exampleEvents :
    Transition.Along (step OwnerKind.exampleConfig mName mName2) Truthful {} exampleEvents :=
  ⟨fun _ => OwnerKind.clientName_one.fits, trivial, fun h => absurd h (by decide), trivial⟩

/-- Signals and queries agree after every run. -/
theorem signals_match_queries (hmode : cfg.monitor = false) {es : List Event}
    (hes : Transition.Along (step cfg mName mName2) Truthful {} es)
    (hlt : (after cfg mName mName2 es).flags.length < 2 ^ 32) (msg : Message) :
    SignalsMatch cfg (after cfg mName mName2 es) msg := by
  have hgood := Kept.after hmode hes hlt
  exact ⟨_, handleGetInhibitors_eq hmode msg _, hgood.tells.held, hgood.tells.apt, hgood.nodup⟩

theorem signals_match_queries_three :
    SignalsMatch OwnerKind.exampleConfig
      (after OwnerKind.exampleConfig (lit ":1.0") (lit ":1.8") exampleEvents)
      (OwnerKind.exampleSessionManager.inhibitCall ":1.2" []) :=
  signals_match_queries rfl truthful_exampleEvents
    ((length_flags_le exampleEvents).trans_lt (by decide)) _

/-- Inhibitor objects describe their inhibits after every run. -/
theorem inhibitors_described (hmode : cfg.monitor = false) {es : List Event}
    (hes : Transition.Along (step cfg mName mName2) Truthful {} es)
    (hlt : (after cfg mName mName2 es).flags.length < 2 ^ 31) :
    InhibitorsDescribed cfg (after cfg mName mName2 es) := by
  have hgood := Kept.after hmode hes (by omega)
  set s := after cfg mName mName2 es with hs
  have hactive : s.view.active = s.base.activeInhibits := rfl
  have hpaths : (s.base.activeInhibits.toList.map fun p =>
      inhibitorPath (OwnerId.cookie p.2.id)) = s.base.activeInhibits.keys.map pathOf := by
    rw [← Std.ExtTreeMap.map_fst_toList_eq_keys, List.map_map]
    apply List.map_congr_left
    intro p hp
    have hkey := hgood.keyed p.1 p.2 (Std.ExtTreeMap.mem_toList_iff_getElem?_eq_some.mp hp)
    rw [hkey]
    rfl
  refine ⟨_, rfl, ?_, ?_, ?_, ?_⟩
  · rw [← hpaths]
    exact hgood.nodup_paths
  · intro msg
    rw [← hpaths]
    exact handleGetInhibitors_eq hmode msg _
  · intro id i hi msg hmsg
    have hissued := (hgood.issued id ((StdMap.mem_iff _ _).mpr ⟨i, hi⟩)).2
    have hfind := hgood.inhibitFromCookie_active hactive hi
    rw [hgood.keyed id i hi] at hfind
    apply describes_active hmode _ hfind
    rw [hmsg]
    exact inhibitorPathToCookie_path (by omega)
  · intro cookie hcookie hother msg hmsg
    rw [← hpaths] at hother
    apply describes_other hmode _ (inhibitFromCookie_other hother)
    rw [hmsg]
    exact inhibitorPathToCookie_path hcookie

theorem inhibitors_described_three :
    InhibitorsDescribed OwnerKind.exampleConfig
      (after OwnerKind.exampleConfig (lit ":1.0") (lit ":1.8") exampleEvents) :=
  inhibitors_described rfl truthful_exampleEvents
    ((length_flags_le exampleEvents).trans_lt (by decide))

/-- The flag queries match what clients asked for, after every run. -/
theorem queries_follow_flags (hmode : cfg.monitor = false) {es : List Event}
    (hes : Transition.Along (step cfg mName mName2) Truthful {} es)
    (hlt : (after cfg mName mName2 es).flags.length < 2 ^ 32) :
    QueriesFollowFlags cfg (after cfg mName mName2 es) := by
  have hgood := Kept.after hmode hes hlt
  set s := after cfg mName mName2 es with hs
  have hsuspend := hgood.inhibited_has (b := s.base) rfl gnomeType2us_has_suspend
  have hidle := hgood.inhibited_has (b := s.base) rfl gnomeType2us_has_screensaver
  refine ⟨fun msg f hargs => ⟨(gnomeType2us f).has s.base.inhibited, ?_, ?_⟩, fun msg hargs => ?_⟩
  · unfold handleIsInhibitedMsg
    rw [if_neg (by simp [hmode]), getArgs_some hargs]
  · -- one of the two bits of `f` is in what is inhibited
    rw [gnomeType2us_has, Bool.or_eq_true, Bool.and_eq_true, Bool.and_eq_true, hsuspend, hidle]
    unfold Share
    simp only [and_suspend_ne_zero_iff, and_sessionIdle_ne_zero_iff, mem_activeFlags]
    apply Iff.intro
    · rintro (⟨hf, g, ⟨id, i, hi, rfl⟩, hg⟩ | ⟨hf, g, ⟨id, i, hi, rfl⟩, hg⟩)
      · exact ⟨id, i, hi, .inl ⟨hg, hf⟩⟩
      · exact ⟨id, i, hi, .inr ⟨hg, hf⟩⟩
    · rintro ⟨id, i, hi, ⟨hg, hf⟩ | ⟨hg, hf⟩⟩
      · exact .inl ⟨hf, _, ⟨id, i, hi, rfl⟩, hg⟩
      · exact .inr ⟨hf, _, ⟨id, i, hi, rfl⟩, hg⟩
  · rw [← getLsbD_union, ← Bool.eq_iff_iff] at hsuspend hidle
    unfold handleGetProperty
    rw [if_neg (by simp [hmode]), getArgs_some hargs]
    dsimp only
    rw [if_pos ⟨rfl, rfl⟩, and_supported]
    unfold us2gnomeType
    rw [hsuspend, hidle]

theorem queries_follow_flags_three :
    QueriesFollowFlags OwnerKind.exampleConfig
      (after OwnerKind.exampleConfig (lit ":1.0") (lit ":1.8") exampleEvents) :=
  queries_follow_flags rfl truthful_exampleEvents
    ((length_flags_le exampleEvents).trans_lt (by decide))

end Runs

end GnomeSessionManagerInhibitInterface
end UnifiedInhibit
