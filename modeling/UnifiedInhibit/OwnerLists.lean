import UnifiedInhibit.OwnerIsolation

/-!
# The lists of owners

`std::remove_if` moves the ids that stay to the front and leaves the length of the list as it is.
The list of a client is what is active of it until the client releases one of its inhibits.
-/

namespace UnifiedInhibit

open DBus (Arg Message)

namespace Owned

/-- The ids of the active inhibits of a sender. -/
def activeIds (o : Owned) (sender : Bytes) : List InhibitID :=
  o.active.keys.filter fun id => OwnerId.sender id = sender

/-- Each list is, in some order, what is active of the sender. -/
def ListsActive (o : Owned) : Prop := ∀ sender, (o.ownersOf sender).Perm (o.activeIds sender)

/-! ## Effects on the lists -/

lemma mem_activeIds {o : Owned} {sender : Bytes} {id : InhibitID} :
    id ∈ o.activeIds sender ↔ (o.active[id]?).isSome ∧ OwnerId.sender id = sender := by
  unfold activeIds
  rw [List.mem_filter, Std.ExtTreeMap.mem_keys, Std.ExtTreeMap.mem_iff_isSome_getElem?,
    decide_eq_true_eq]

lemma nodup_activeIds (o : Owned) (sender : Bytes) : (o.activeIds sender).Nodup :=
  List.Nodup.filter _ o.active.nodup_keys

/-- No id is listed twice, and exactly those are that are active. -/
lemma listsActive_iff {o : Owned} :
    o.ListsActive ↔ ∀ sender, (o.ownersOf sender).Nodup ∧
      ∀ id, id ∈ o.ownersOf sender ↔ (o.active[id]?).isSome ∧ OwnerId.sender id = sender := by
  refine forall_congr' fun sender => ⟨fun h => ?_, fun h => ?_⟩
  · exact ⟨h.nodup_iff.mpr (nodup_activeIds o sender), fun id => h.mem_iff.trans mem_activeIds⟩
  · rw [List.perm_ext_iff_of_nodup h.1 (nodup_activeIds o sender)]
    exact fun id => (h.2 id).trans mem_activeIds.symm

/-- A new inhibit is listed once. -/
lemma ListsActive.track {o : Owned} (h : o.ListsActive) {sender : Bytes} {i : Inhibit}
    (hsender : OwnerId.sender i.id = sender) (hfresh : o.active[i.id]? = none) :
    (o.apply (.track sender i)).ListsActive := by
  have hactive (id : InhibitID) : (o.apply (.track sender i)).active[id]? =
      if id = i.id then some i else o.active[id]? := by
    rw [active_track, hfresh]
    simp
  rw [listsActive_iff] at h ⊢
  intro name
  obtain ⟨hnodup, hmem⟩ := h name
  have hnot : i.id ∉ o.ownersOf name := by
    rw [hmem, hfresh]
    exact fun hand => absurd hand.1 (by simp)
  rw [ownersOf_track]
  by_cases hname : name = sender
  · subst hname
    rw [if_pos rfl]
    refine ⟨List.nodup_append.mpr ⟨hnodup, List.nodup_singleton _, fun a ha b hb heq => ?_⟩,
      fun id => ?_⟩
    · rw [heq, List.mem_singleton.mp hb] at ha
      exact hnot ha
    · rw [List.mem_append, List.mem_singleton, hmem, hactive]
      by_cases hid : id = i.id
      · rw [if_pos hid, hid, hsender]
        exact iff_of_true (.inr rfl) ⟨rfl, rfl⟩
      · rw [if_neg hid]
        exact or_iff_left hid
  · rw [if_neg hname]
    refine ⟨hnodup, fun id => ?_⟩
    rw [hactive]
    by_cases hid : id = i.id
    · rw [if_pos hid, hid, hsender]
      exact iff_of_false hnot fun hand => hname hand.2.symm
    · rw [if_neg hid, hmem]

/-- The release of an id that is not active finds nothing to move. -/
lemma ListsActive.untrack_inactive {o : Owned} (h : o.ListsActive) {sender : Bytes} {k : InhibitID}
    {tail : List InhibitID} (hk : o.active[k]? = none) (ht : Leftover k (o.ownersOf sender) tail) :
    (o.apply (.untrack sender k tail)).ListsActive := by
  have hlists := listsActive_iff.mp h
  have hnot : ∀ id ∈ o.ownersOf sender, k ≠ id := by
    rintro id hid rfl
    have hactive := (((hlists sender).2 k).mp hid).1
    rw [hk] at hactive
    exact absurd hactive (by simp)
  have hnone : (o.ownersOf sender).filter (fun eid => k = eid) = [] :=
    List.filter_eq_nil_iff.mpr fun id hid => by simpa using hnot id hid
  have htail : tail = [] := by
    rw [← List.length_eq_zero_iff, ht.1, hnone, List.length_nil]
  have hkept : removeIf (fun eid => k = eid) (o.ownersOf sender) tail = o.ownersOf sender := by
    unfold removeIf
    rw [htail, List.append_nil]
    exact List.filter_eq_self.mpr fun id hid => by simpa using hnot id hid
  have howners (name : Bytes) :
      (o.apply (.untrack sender k tail)).ownersOf name = o.ownersOf name := by
    rw [ownersOf_untrack, hkept]
    split
    · rename_i hname
      rw [hname]
    · rfl
  rw [listsActive_iff]
  intro name
  rw [howners]
  refine ⟨(hlists name).1, fun id => ?_⟩
  rw [(hlists name).2, active_untrack]
  split
  · rename_i hid
    rw [hid, hk]
  · exact Iff.rfl

/-- The release of an active id leaves as many ids in the list as there were. -/
lemma not_listsActive_untrack {o : Owned} (h : o.ListsActive) {sender : Bytes} {k : InhibitID}
    {tail : List InhibitID} (hsender : OwnerId.sender k = sender) (hk : (o.active[k]?).isSome)
    (ht : Leftover k (o.ownersOf sender) tail) :
    ¬ (o.apply (.untrack sender k tail)).ListsActive := by
  intro hnew
  obtain ⟨hnodup, hmem⟩ := listsActive_iff.mp h sender
  obtain ⟨hnodup', hmem'⟩ := listsActive_iff.mp hnew sender
  rw [ownersOf_untrack, if_pos rfl] at hnodup' hmem'
  have hlen : (removeIf (fun eid => k = eid) (o.ownersOf sender) tail).length =
      (o.ownersOf sender).length := by
    unfold removeIf
    rw [List.length_append, ht.1, Nat.add_comm]
    exact (List.length_eq_length_filter_add fun eid => decide (k = eid)).symm
  -- what is listed now was listed before, and is not the released id
  have hsub : removeIf (fun eid => k = eid) (o.ownersOf sender) tail ⊆
      (o.ownersOf sender).erase k := by
    intro id hid
    obtain ⟨hactive, hid⟩ := (hmem' id).mp hid
    rw [active_untrack] at hactive
    split at hactive
    · cases hactive
    · rename_i hne
      exact (List.mem_erase_of_ne hne).mpr ((hmem id).mpr ⟨hactive, hid⟩)
  have hle := (List.subperm_of_subset hnodup' hsub).length_le
  have hin : k ∈ o.ownersOf sender := (hmem k).mpr ⟨hk, hsender⟩
  have hpos := List.length_pos_of_mem hin
  rw [hlen, List.length_erase_of_mem hin] at hle
  omega

/-- With a client its whole list goes. -/
lemma ListsActive.lost {o : Owned} (h : o.ListsActive) (name : Bytes) :
    (o.apply (.lost name)).ListsActive := by
  rw [listsActive_iff] at h ⊢
  intro name'
  rw [ownersOf_lost]
  by_cases hname : name' = name
  · rw [if_pos hname, hname]
    refine ⟨List.nodup_nil, fun id => ⟨fun hid => absurd hid List.not_mem_nil, ?_⟩⟩
    rintro ⟨hactive, hsender⟩
    rw [active_lost] at hactive
    split at hactive
    · cases hactive
    · rename_i hnot
      exact absurd (((h name).2 id).mpr ⟨hactive, hsender⟩) hnot
  · rw [if_neg hname]
    refine ⟨(h name').1, fun id => ?_⟩
    rw [(h name').2, active_lost]
    split
    · rename_i hin
      have hsender := (((h name).2 id).mp hin).2
      constructor
      · exact fun hand => absurd (hand.2.symm.trans hsender) hname
      · exact fun hand => absurd hand.1 (by simp)
    · exact Iff.rfl

end Owned

namespace OwnerKind

variable (K : OwnerKind) (mName : Bytes)

/-! ## Steps -/

/-- A message arrives, from a client or from the bus, and an `Inhibit` call gets a cookie under
which its sender has no other inhibit. -/
def DistinctCookies (s : State) : Event → Prop
  | .message now tail msg =>
    K.Truthful s (.message now tail msg) ∧ (K.toClass.IsInhibit msg →
      K.activeOf s msg.sender (K.toClass.nextCookie s.world.obj.sub.lastCookie) = none)
  | _ => False

/-- A client releases an inhibit that is active. -/
def Releases (s : State) : Event → Prop
  | .message _ _ msg =>
    ¬ (msg.sender = mName ∨ msg.sender = []) ∧ K.toClass.IsUnInhibit msg ∧
      ∃ cookie, oneUInt32 msg.args = some cookie ∧ (K.activeOf s msg.sender cookie).isSome
  | _ => False

variable {K} {mName}

lemma not_isInhibit_of_isUnInhibit {msg : Message} (h : K.toClass.IsUnInhibit msg) :
    ¬ K.toClass.IsInhibit msg := by
  intro hin
  have hmember : K.toClass.unInhibitMember = "Inhibit" := h.2.2.symm.trans hin.2.2
  cases K with
  | simpleDBus cfg => exact absurd (show "UnInhibit" = "Inhibit" from hmember) (by decide)
  | gnomeSessionManager cfg =>
    exact absurd (show "Uninhibit" = "Inhibit" from hmember) (by decide)

/-- One step keeps the lists right exactly when it is not the release of an active inhibit. -/
lemma listsActive_step_iff (hmon : K.config.monitor = false) {s : State} {e : Event}
    (hcalls : s.methodCalls = ∅) (h : (Owned.of s.world).ListsActive)
    (he : K.DistinctCookies s e) :
    (Owned.of (K.step mName s e).world).ListsActive ↔ ¬ K.Releases mName s e := by
  cases e with
  | inhibit now r => exact absurd he not_false
  | unInhibit cookie => exact absurd he not_false
  | message now tail msg =>
    obtain ⟨htruth, hdistinct⟩ := he
    obtain ⟨-, howned, -⟩ := message_owned mName (ownCalls K hmon) hmon hcalls now tail msg
    rw [howned]
    by_cases hrelease : K.Releases mName s (.message now tail msg)
    · obtain ⟨hname, hun, cookie, hargs, hactive⟩ := hrelease
      have heffect : K.toClass.effect mName [] now tail s.world.obj.sub.lastCookie msg =
          .untrack msg.sender (K.mkId msg.sender cookie) tail := by
        rw [OwnerClass.effect_unInhibit now tail _ hname (not_isInhibit_of_isUnInhibit hun) hun,
          hargs]
        rfl
      have hsender : OwnerId.sender (K.mkId msg.sender cookie) = msg.sender :=
        OwnerId.sender_mkId K.config (htruth.1 hun.1).fits cookie
      have hnot :=
        Owned.not_listsActive_untrack h hsender hactive (htruth.2 cookie hun hargs)
      rw [heffect]
      exact iff_of_false hnot (not_not.mpr ⟨hname, hun, cookie, hargs, hactive⟩)
    · refine iff_of_true ?_ hrelease
      by_cases hname : msg.sender = mName ∨ msg.sender = []
      · rw [OwnerClass.effect_other now tail _ (.inl hname)]
        exact h
      rcases OwnerClass.effect_cases now tail s.world.obj.sub.lastCookie msg with
        he | ⟨hin, args, he⟩ | ⟨hun, cookie, hargs, he⟩ | ⟨-, lost, -, he⟩
      · rw [he]
        exact h
      · rw [he]
        refine h.track ?_ (hdistinct hin)
        exact OwnerId.sender_mkId K.config (htruth.1 hin.1).fits _
      · rw [he]
        refine h.untrack_inactive ?_ (htruth.2 cookie hun hargs)
        by_contra hactive
        exact hrelease ⟨hname, hun, cookie, hargs, Option.isSome_iff_ne_none.mpr hactive⟩
      · rw [he]
        exact h.lost lost

/-! ## Runs -/

lemma ownersOf_initial (sender : Bytes) : (Owned.of initial.world).ownersOf sender = [] := by
  unfold Owned.ownersOf
  rw [show (Owned.of initial.world).owners = ∅ from rfl, Std.ExtTreeMap.getElem?_empty]
  rfl

lemma initial_listsActive : (Owned.of initial.world).ListsActive := by
  rw [Owned.listsActive_iff]
  intro sender
  rw [ownersOf_initial, show (Owned.of initial.world).active = ∅ from rfl]
  exact ⟨List.nodup_nil, fun id => by simp⟩

lemma methodCalls_step (hmon : K.config.monitor = false) {s : State} {e : Event}
    (hcalls : s.methodCalls = ∅) (he : K.DistinctCookies s e) :
    (K.step mName s e).methodCalls = ∅ := by
  cases e with
  | inhibit now r => exact absurd he not_false
  | unInhibit cookie => exact absurd he not_false
  | message now tail msg =>
    exact (message_owned mName (ownCalls K hmon) hmon hcalls now tail msg).1

/-- Along every run of messages, the list of each sender is what is active of it after every event,
if and only if no client releases an active inhibit. -/
theorem lists_active_iff (K : OwnerKind) (hmon : K.config.monitor = false) (mName : Bytes)
    {es : List Event}
    (hes : Transition.Along (K.step mName) K.DistinctCookies initial es) :
    (∀ fs, fs <+: es →
      (Owned.of (Transition.run (K.step mName) initial fs).world).ListsActive) ↔
      Transition.Along (K.step mName) (fun s e => ¬ K.Releases mName s e) initial es :=
  Transition.forall_prefix_iff_along_of (I := fun s : State => s.methodCalls = ∅)
    (P := fun s : State => (Owned.of s.world).ListsActive) rfl initial_listsActive
    (fun _ _ hcalls he => methodCalls_step hmon hcalls he)
    (fun _ _ hcalls h he => listsActive_step_iff hmon hcalls h he) hes

/-- The call that releases the cookie 1. -/
def unInhibitCall (K : OwnerKind) (client : String) : Message :=
  { type := .methodCall, sender := lit client, interface := some K.toClass.interface,
    member := K.toClass.unInhibitMember, args := [.uint32 1] }

/-- A client's first inhibit. -/
lemma distinctCookies_first {msg : Message} (hclient : ClientName msg.sender)
    (hin : K.toClass.IsInhibit msg) (now : ℕ) :
    K.DistinctCookies initial (.message now [] msg) := by
  refine ⟨⟨fun _ => hclient, fun _ hun => ?_⟩, fun _ => ?_⟩
  · exact absurd hin (not_isInhibit_of_isUnInhibit hun)
  · show (∅ : StdMap InhibitID Inhibit)[_]? = none
    exact Std.ExtTreeMap.getElem?_empty

/-- The first inhibit of a client is alone in its list. -/
lemma ownersOf_first (hmon : K.config.monitor = false) (now : ℕ) {msg : Message}
    (hname : ¬ (msg.sender = mName ∨ msg.sender = [])) (hin : K.toClass.IsInhibit msg)
    {parsed : Bytes × Bytes × InhibitType} (hargs : K.toClass.inhibitArgs msg.args = some parsed) :
    (Owned.of (K.step mName initial (.message now [] msg)).world).ownersOf msg.sender =
      [K.mkId msg.sender (K.toClass.nextCookie 0)] := by
  obtain ⟨-, howned, -⟩ := message_owned mName (ownCalls K hmon) hmon
    (show initial.methodCalls = ∅ from rfl) now [] msg
  rw [howned, OwnerClass.effect_inhibit now [] _ hname hin, hargs]
  dsimp only
  rw [Owned.ownersOf_track, if_pos rfl, ownersOf_initial]
  rfl

/-- `:1.1` takes an inhibit and releases it. -/
lemma not_listsActive_released (hmon : K.config.monitor = false)
    (hcookie : K.toClass.nextCookie 0 = 1) {args : List Arg}
    {parsed : Bytes × Bytes × InhibitType} (hargs : K.toClass.inhibitArgs args = some parsed) :
    let es : List Event := [.message 0 [] (K.inhibitCall ":1.1" args),
      .message 0 [K.mkId (lit ":1.1") 1] (K.unInhibitCall ":1.1")]
    Transition.Along (K.step (lit ":1.0")) K.DistinctCookies initial es ∧
      ¬ (Owned.of (Transition.run (K.step (lit ":1.0")) initial es).world).ListsActive := by
  intro es
  set first : Event := .message 0 [] (K.inhibitCall ":1.1" args)
  set second : Event := .message 0 [K.mkId (lit ":1.1") 1] (K.unInhibitCall ":1.1")
  set s₁ := K.step (lit ":1.0") initial first
  have hself : ¬ (lit ":1.1" = lit ":1.0" ∨ lit ":1.1" = []) := by decide
  have hin : K.toClass.IsInhibit (K.inhibitCall ":1.1" args) := ⟨rfl, rfl, rfl⟩
  have hun : K.toClass.IsUnInhibit (K.unInhibitCall ":1.1") := ⟨rfl, rfl, rfl⟩
  -- the first call
  have hfirst : K.DistinctCookies initial first := distinctCookies_first clientName_one hin 0
  have hnotRelease : ¬ K.Releases (lit ":1.0") initial first := fun hrelease =>
    not_isInhibit_of_isUnInhibit hrelease.2.1 hin
  have hlists : (Owned.of s₁.world).ListsActive :=
    (listsActive_step_iff hmon rfl initial_listsActive hfirst).mpr hnotRelease
  have hcalls : s₁.methodCalls = ∅ := methodCalls_step hmon rfl hfirst
  have hactive := initial_tracking.activeOf_inhibit (lit ":1.0") hmon 0 [] hin hargs hself
  rw [show initial.world.obj.sub.lastCookie = 0 from rfl, hcookie] at hactive
  have howners : (Owned.of s₁.world).ownersOf (lit ":1.1") = [K.mkId (lit ":1.1") 1] := by
    rw [← hcookie]
    exact ownersOf_first hmon 0 hself hin hargs
  -- the second call
  have hsecond : K.DistinctCookies s₁ second := by
    refine ⟨⟨fun _ => clientName_one, fun cookie _ hcookie' => ?_⟩, fun hin' => ?_⟩
    · have hone : cookie = 1 := (Option.some.inj hcookie').symm
      show Leftover _ ((Owned.of s₁.world).ownersOf (lit ":1.1")) _
      rw [howners, hone]
      refine ⟨?_, fun x hx => .inl hx⟩
      simp [unInhibitCall]
    · exact absurd hin' (not_isInhibit_of_isUnInhibit hun)
  have hrelease : K.Releases (lit ":1.0") s₁ second := ⟨hself, hun, 1, rfl, hactive⟩
  refine ⟨⟨hfirst, hsecond, trivial⟩, fun hlast => ?_⟩
  exact (listsActive_step_iff hmon hcalls hlists hsecond).mp hlast hrelease

/-- At both classes the id of a released inhibit stays in the list. -/
theorem lists_active_fails :
    let simple := exampleScreenSaver
    let gnome := exampleSessionManager
    let run (K : OwnerKind) (args : List Arg) : List Event :=
      [.message 0 [] (K.inhibitCall ":1.1" args),
        .message 0 [K.mkId (lit ":1.1") 1] (K.unInhibitCall ":1.1")]
    let simpleArgs : List Arg := [.string [], .string []]
    let gnomeArgs : List Arg := [.string [], .uint32 0, .string [], .uint32 8]
    (Transition.Along (simple.step (lit ":1.0")) simple.DistinctCookies initial
        (run simple simpleArgs) ∧
      ¬ (Owned.of (Transition.run (simple.step (lit ":1.0")) initial
        (run simple simpleArgs)).world).ListsActive) ∧
    (Transition.Along (gnome.step (lit ":1.0")) gnome.DistinctCookies initial
        (run gnome gnomeArgs) ∧
      ¬ (Owned.of (Transition.run (gnome.step (lit ":1.0")) initial
        (run gnome gnomeArgs)).world).ListsActive) :=
  ⟨not_listsActive_released rfl rfl rfl, not_listsActive_released rfl rfl rfl⟩

/-- An inhibit of `:1.1`, and the signal that it is gone. -/
theorem lists_active_three :
    let K := exampleScreenSaver
    let es : List Event := [.message 0 [] (K.inhibitCall ":1.1" [.string [], .string []]),
      .message 0 [] (nameLost "org.freedesktop.DBus" ":1.1")]
    ∀ fs, fs <+: es →
      (Owned.of (Transition.run (K.step (lit ":1.0")) initial fs).world).ListsActive := by
  intro K es
  have hin : K.toClass.IsInhibit (K.inhibitCall ":1.1" [.string [], .string []]) := ⟨rfl, rfl, rfl⟩
  have hes : Transition.Along (K.step (lit ":1.0")) K.DistinctCookies initial es := by
    refine ⟨distinctCookies_first clientName_one hin 0, ⟨truthful_nameLost _ _ _ _, ?_⟩, trivial⟩
    intro hin'
    cases hin'.1
  refine (lists_active_iff K rfl (lit ":1.0") hes).mpr ⟨fun h => ?_, fun h => ?_, trivial⟩
  · exact not_isInhibit_of_isUnInhibit h.2.1 hin
  · cases h.2.1.1

end OwnerKind

end UnifiedInhibit
