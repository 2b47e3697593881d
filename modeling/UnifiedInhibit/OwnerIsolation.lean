import UnifiedInhibit.OwnerTracking

/-!
# Isolation of the clients

The invariant of the owner table leaves one way for a message to take away another client's
inhibits, a `NameOwnerChanged` signal that names it (`isolated_iff`).
-/

namespace UnifiedInhibit

open DBus (Arg Message)

namespace OwnerKind

variable {K : OwnerKind} {mName : Bytes}

/-! ## Isolation -/

/-- A message of `B` takes none of `A`'s inhibits away. -/
def Isolated (K : OwnerKind) (mName A B : Bytes) (s : State) (e : Event) : Prop :=
  ∀ now tail msg, e = .message now tail msg → msg.sender = B → ∀ cookie,
    (K.activeOf s A cookie).isSome →
      K.activeOf (K.step mName s e) A cookie = K.activeOf s A cookie

/-- A message of `B` is not a signal `NameOwnerChanged` about `A` while `A` has an inhibit. -/
def Unforged (K : OwnerKind) (A B : Bytes) (s : State) (e : Event) : Prop :=
  ∀ now tail msg, e = .message now tail msg → msg.sender = B → IsNameOwnerChanged msg →
    oneString msg.args = some A → ∀ cookie, K.activeOf s A cookie = none

lemma effect_untrack {s : State} {now : ℕ} {tail tail' : List InhibitID} {msg : Message}
    {name : Bytes} {id : InhibitID}
    (h : K.toClass.effect mName [] now tail s.world.obj.sub.lastCookie msg =
      .untrack name id tail') : name = msg.sender := by
  rcases OwnerClass.effect_cases now tail s.world.obj.sub.lastCookie msg with
    he | ⟨-, args, he⟩ | ⟨-, cookie, -, he⟩ | ⟨-, lost, -, he⟩
  · cases he.symm.trans h
  · cases he.symm.trans h
  · cases he.symm.trans h
    rfl
  · cases he.symm.trans h

lemma effect_lost {s : State} {now : ℕ} {tail : List InhibitID} {msg : Message} {name : Bytes}
    (h : K.toClass.effect mName [] now tail s.world.obj.sub.lastCookie msg = .lost name) :
    IsNameOwnerChanged msg ∧ oneString msg.args = some name := by
  rcases OwnerClass.effect_cases now tail s.world.obj.sub.lastCookie msg with
    he | ⟨-, args, he⟩ | ⟨-, cookie, -, he⟩ | ⟨hnoc, lost, hargs, he⟩
  · cases he.symm.trans h
  · cases he.symm.trans h
  · cases he.symm.trans h
  · cases he.symm.trans h
    exact ⟨hnoc, hargs⟩

/-- One step keeps `A`'s inhibits exactly when it is not a forged signal. -/
lemma Tracking.isolated_iff (hmon : K.config.monitor = false) {s : State} {e : Event}
    (h : K.Tracking s) (he : K.Truthful s e) {A B : Bytes} (hA : ClientName A) (hB : ClientName B)
    (hAB : A ≠ B) (hself : B ≠ mName) :
    K.Isolated mName A B s e ↔ K.Unforged A B s e := by
  have hC := ownCalls K hmon
  constructor
  · rintro hiso now tail msg rfl rfl hnoc hargs cookie
    by_contra hsome
    have hkeep := hiso now tail msg rfl rfl cookie (Option.isSome_iff_ne_none.mpr hsome)
    obtain ⟨-, howned, -⟩ := message_owned mName hC hmon h.methodCalls now tail msg
    have hne : msg.sender ≠ [] := by
      intro hnil
      have := hB.colon
      rw [hnil] at this
      cases this
    rw [OwnerClass.effect_nameOwnerChanged now tail _ (not_or.mpr ⟨hself, hne⟩) hnoc,
      hargs] at howned
    have hnone := h.owners.apply_lost hA cookie
    rw [← howned] at hnone
    exact hsome (hkeep.symm.trans hnone)
  · rintro hunf now tail msg rfl rfl cookie hsome
    obtain ⟨-, howned, -⟩ := message_owned mName hC hmon h.methodCalls now tail msg
    have hkeep := h.owners.apply_keeps hA cookie (effect_legal mName he)
      (fun id tail' heq => hAB (effect_untrack heq))
      (fun heq => by
        obtain ⟨hnoc, hargs⟩ := effect_lost heq
        have hnone := hunf now tail msg rfl rfl hnoc hargs cookie
        rw [hnone] at hsome
        cases hsome) hsome
    rw [← howned] at hkeep
    exact hkeep

/-- Along every run, the messages of `B` take none of `A`'s inhibits away if and only if none of
them is a signal `NameOwnerChanged` about `A` while `A` has an inhibit. -/
theorem clients_isolated_iff (K : OwnerKind) (hmon : K.config.monitor = false) (mName : Bytes)
    {A B : Bytes} (hA : ClientName A) (hB : ClientName B) (hAB : A ≠ B) (hself : B ≠ mName)
    {es : List Event} (hes : Transition.Along (K.step mName) K.Truthful initial es) :
    Transition.Along (K.step mName) (K.Isolated mName A B) initial es ↔
      Transition.Along (K.step mName) (K.Unforged A B) initial es :=
  Transition.along_congr initial_tracking (fun _ _ h he => h.step mName hmon he)
    (fun _ _ h he => h.isolated_iff hmon he hA hB hAB hself) hes

/-- After an `Inhibit` call its sender has an inhibit. -/
lemma Tracking.activeOf_inhibit (mName : Bytes) (hmon : K.config.monitor = false) {s : State}
    (h : K.Tracking s) (now : ℕ) (tail : List InhibitID) {msg : Message}
    (hin : K.toClass.IsInhibit msg) {args : Bytes × Bytes × InhibitType}
    (hargs : K.toClass.inhibitArgs msg.args = some args)
    (hself : ¬ (msg.sender = mName ∨ msg.sender = [])) :
    (K.activeOf (K.step mName s (.message now tail msg)) msg.sender
      (K.toClass.nextCookie s.world.obj.sub.lastCookie)).isSome := by
  obtain ⟨-, howned, -⟩ :=
    message_owned mName (ownCalls K hmon) hmon h.methodCalls now tail msg
  have heffect : K.toClass.effect mName [] now tail s.world.obj.sub.lastCookie msg =
      .track msg.sender (newInhibit K.config now msg
        (K.toClass.nextCookie s.world.obj.sub.lastCookie) args) := by
    rw [OwnerClass.effect_inhibit now tail _ hself hin, hargs]
    rfl
  rw [heffect] at howned
  have hact := Owned.active_track (Owned.of s.world) msg.sender (newInhibit K.config now msg
    (K.toClass.nextCookie s.world.obj.sub.lastCookie) args)
    (K.mkId msg.sender (K.toClass.nextCookie s.world.obj.sub.lastCookie))
  rw [← howned] at hact
  show ((Owned.of (K.step mName s (.message now tail msg)).world).active[_]?).isSome
  rw [hact]
  split
  · rfl
  · rename_i hused
    by_contra hnone
    exact hused ⟨rfl, Option.not_isSome_iff_eq_none.mp hnone⟩

/-- `:1.1` has an inhibit and `:1.2` broadcasts that `:1.1` is gone. -/
lemma not_isolated_nameLost (hmon : K.config.monitor = false)
    (hne : K.toClass.unInhibitMember ≠ "Inhibit") {args : List Arg}
    {parsed : Bytes × Bytes × InhibitType} (hargs : K.toClass.inhibitArgs args = some parsed) :
    let es : List Event := [.message 0 [] (K.inhibitCall ":1.1" args),
      .message 0 [] (nameLost ":1.2" ":1.1")]
    Transition.Along (K.step (lit ":1.0")) K.Truthful initial es ∧
      ¬ Transition.Along (K.step (lit ":1.0")) (K.Isolated (lit ":1.0") (lit ":1.1") (lit ":1.2"))
        initial es := by
  intro es
  have htruth₁ := truthful_inhibitCall hne clientName_one args initial 0
  have htrack := initial_tracking.step (lit ":1.0") hmon htruth₁
  have htruth₂ := truthful_nameLost (K := K) ":1.2" ":1.1"
    (K.step (lit ":1.0") initial (.message 0 [] (K.inhibitCall ":1.1" args))) 0
  refine ⟨⟨htruth₁, htruth₂, trivial⟩, fun h => ?_⟩
  have hunf := (htrack.isolated_iff hmon htruth₂ clientName_one clientName_two (by decide)
    (by decide)).mp h.2.1
  have hin : K.toClass.IsInhibit (K.inhibitCall ":1.1" args) := ⟨rfl, rfl, rfl⟩
  have hself : ¬ (lit ":1.1" = lit ":1.0" ∨ lit ":1.1" = []) := by decide
  have hsome := initial_tracking.activeOf_inhibit (lit ":1.0") hmon 0 [] hin hargs hself
  have hnone := hunf 0 [] (nameLost ":1.2" ":1.1") rfl rfl ⟨rfl, rfl, rfl⟩ rfl
    (K.toClass.nextCookie initial.world.obj.sub.lastCookie)
  rw [show (K.inhibitCall ":1.1" args).sender = lit ":1.1" from rfl, hnone] at hsome
  cases hsome

/-- At both classes a forged signal takes another client's inhibit away. -/
theorem clients_isolated_fails :
    let simple := exampleScreenSaver
    let gnome := exampleSessionManager
    let run (K : OwnerKind) (args : List Arg) : List Event :=
      [.message 0 [] (K.inhibitCall ":1.1" args), .message 0 [] (nameLost ":1.2" ":1.1")]
    let simpleArgs : List Arg := [.string [], .string []]
    let gnomeArgs : List Arg := [.string [], .uint32 0, .string [], .uint32 8]
    (Transition.Along (simple.step (lit ":1.0")) simple.Truthful initial (run simple simpleArgs) ∧
      ¬ Transition.Along (simple.step (lit ":1.0"))
        (simple.Isolated (lit ":1.0") (lit ":1.1") (lit ":1.2")) initial (run simple simpleArgs)) ∧
    (Transition.Along (gnome.step (lit ":1.0")) gnome.Truthful initial (run gnome gnomeArgs) ∧
      ¬ Transition.Along (gnome.step (lit ":1.0"))
        (gnome.Isolated (lit ":1.0") (lit ":1.1") (lit ":1.2")) initial (run gnome gnomeArgs)) :=
  ⟨not_isolated_nameLost rfl (by decide) rfl, not_isolated_nameLost rfl (by decide) rfl⟩

/-- Two clients that each get an inhibit. -/
theorem clients_isolated_two :
    Transition.Along (exampleScreenSaver.step (lit ":1.0"))
      (exampleScreenSaver.Isolated (lit ":1.0") (lit ":1.1") (lit ":1.2")) initial
      [.message 0 [] (exampleScreenSaver.inhibitCall ":1.1" [.string [], .string []]),
        .message 0 [] (exampleScreenSaver.inhibitCall ":1.2" [.string [], .string []])] := by
  have hne : exampleScreenSaver.toClass.unInhibitMember ≠ "Inhibit" := by decide
  have htruth : Transition.Along (exampleScreenSaver.step (lit ":1.0")) exampleScreenSaver.Truthful
      initial [.message 0 [] (exampleScreenSaver.inhibitCall ":1.1" [.string [], .string []]),
        .message 0 [] (exampleScreenSaver.inhibitCall ":1.2" [.string [], .string []])] :=
    ⟨truthful_inhibitCall hne clientName_one _ _ _, truthful_inhibitCall hne clientName_two _ _ _,
      trivial⟩
  refine (clients_isolated_iff exampleScreenSaver rfl (lit ":1.0") clientName_one clientName_two
    (by decide) (by decide) htruth).mpr ⟨?_, ?_, trivial⟩
  · rintro now tail msg heq - hnoc
    cases heq
    cases hnoc.1
  · rintro now tail msg heq - hnoc
    cases heq
    cases hnoc.1

end OwnerKind

end UnifiedInhibit
