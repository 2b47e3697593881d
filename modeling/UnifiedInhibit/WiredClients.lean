import UnifiedInhibit.OwnerLists
import UnifiedInhibit.WiredDaemon

/-!
# What becomes of a client's inhibits in the daemon

Whatever other clients and other interfaces do, an inhibit stays active at the interface its client
has asked until that client releases it there or is reported gone (`client_inhibits_stay`).
-/

namespace UnifiedInhibit

open DBus (Arg Message)

/-- What an effect takes away. -/
lemma OwnersOk.active_apply {cfg : OwnerConfig} {o : Owned} (h : OwnersOk cfg o) {e : Effect}
    (he : e.Legal cfg o) {A : Bytes} (hA : ClientName A) {c : UInt32}
    (hactive : (o.active[OwnerId.mkId cfg A c]?).isSome) :
    ((o.apply e).active[OwnerId.mkId cfg A c]? = none ↔
        (∃ tail, e = .untrack A (OwnerId.mkId cfg A c) tail) ∨ e = .lost A) ∧
      (¬ ((∃ tail, e = .untrack A (OwnerId.mkId cfg A c) tail) ∨ e = .lost A) →
        (o.apply e).active[OwnerId.mkId cfg A c]? = o.active[OwnerId.mkId cfg A c]?) := by
  -- it is enough to know that the id is taken away or left alone
  have hcases : ∀ P : Prop, (P → (o.apply e).active[OwnerId.mkId cfg A c]? = none) →
      (¬ P → (o.apply e).active[OwnerId.mkId cfg A c]? = o.active[OwnerId.mkId cfg A c]?) →
      ((o.apply e).active[OwnerId.mkId cfg A c]? = none ↔ P) ∧ (¬ P →
        (o.apply e).active[OwnerId.mkId cfg A c]? = o.active[OwnerId.mkId cfg A c]?) := by
    intro P htake hkeep
    refine ⟨⟨fun hnone => ?_, htake⟩, hkeep⟩
    by_contra hP
    rw [← hkeep hP, hnone] at hactive
    cases hactive
  refine hcases _ (fun htake => ?_) fun hkeep => ?_
  · rcases htake with ⟨tail, rfl⟩ | rfl
    · rw [Owned.active_untrack, if_pos rfl]
    · exact h.apply_lost hA c
  · cases e with
    | none => rfl
    | track sender i =>
      rw [Owned.active_track, if_neg]
      rintro ⟨heq, hnone⟩
      rw [heq, hnone] at hactive
      cases hactive
    | untrack sender k tail =>
      obtain ⟨hsender, ⟨c', hc'⟩, -⟩ := he
      rw [Owned.active_untrack, if_neg]
      intro heq
      rw [hc', OwnerId.mkId_inj cfg hA.fits hsender.fits] at heq
      exact hkeep (.inl ⟨tail, by rw [hc', heq.1, heq.2]⟩)
    | lost name =>
      rw [Owned.active_lost, if_neg]
      intro hmem
      rcases h.listed name _ hmem with hnil | ⟨hname, c', hc'⟩
      · exact OwnerId.mkId_ne_nil cfg hA.fits c hnil
      · rw [OwnerId.mkId_inj cfg hA.fits hname.fits] at hc'
        exact hkeep (.inr (by rw [hc'.1]))

namespace OwnerKind

/-- The message takes away the inhibit that the client `A` has under `c`: the client releases it, or
someone says that the client has gone. -/
def Takes (K : OwnerKind) (mName A : Bytes) (c : UInt32) (msg : Message) : Prop :=
  ¬ (msg.sender = mName ∨ msg.sender = []) ∧
    (K.toClass.IsUnInhibit msg ∧ msg.sender = A ∧ oneUInt32 msg.args = some c ∨
      IsNameOwnerChanged msg ∧ oneString msg.args = some A)

variable {K : OwnerKind} {mName : Bytes}

lemma effect_takes_iff {s : State} {now : ℕ} {tail : List InhibitID} {msg : Message}
    (htruth : K.Truthful s (.message now tail msg)) {A : Bytes} (hA : ClientName A) (c : UInt32) :
    ((∃ tail', K.toClass.effect mName [] now tail s.world.obj.sub.lastCookie msg =
          .untrack A (K.mkId A c) tail') ∨
        K.toClass.effect mName [] now tail s.world.obj.sub.lastCookie msg = .lost A) ↔
      K.Takes mName A c msg := by
  constructor
  · intro htake
    have hself : ¬ (msg.sender = mName ∨ msg.sender = []) := by
      intro hself
      rw [OwnerClass.effect_other now tail _ (.inl hself)] at htake
      rcases htake with ⟨tail', h⟩ | h <;> cases h
    refine ⟨hself, ?_⟩
    rcases OwnerClass.effect_cases now tail s.world.obj.sub.lastCookie msg with
      he | ⟨-, args, he⟩ | ⟨hun, cookie, hargs, he⟩ | ⟨hnoc, name, hargs, he⟩
    · rw [he] at htake
      rcases htake with ⟨tail', h⟩ | h <;> cases h
    · rw [he] at htake
      rcases htake with ⟨tail', h⟩ | h <;> cases h
    · rw [he] at htake
      rcases htake with ⟨tail', h⟩ | h
      · injection h with hsender hid
        refine .inl ⟨hun, hsender, ?_⟩
        have hid : OwnerId.mkId K.config msg.sender cookie = OwnerId.mkId K.config A c := hid
        rw [OwnerId.mkId_inj K.config (htruth.1 hun.1).fits hA.fits] at hid
        rw [hargs, hid.2]
      · cases h
    · rw [he] at htake
      rcases htake with ⟨tail', h⟩ | h
      · cases h
      · injection h with hname
        rw [hname] at hargs
        exact .inr ⟨hnoc, hargs⟩
  · rintro ⟨hself, ⟨hun, rfl, hargs⟩ | ⟨hnoc, hargs⟩⟩
    · refine .inl ⟨tail, ?_⟩
      rw [OwnerClass.effect_unInhibit now tail _ hself (not_isInhibit_of_isUnInhibit hun) hun,
        hargs]
      rfl
    · right
      rw [OwnerClass.effect_nameOwnerChanged now tail _ hself hnoc, hargs]

/-- Own calls do not touch what clients have active. -/
lemma activeOf_own_call (hmon : K.config.monitor = false) {A : Bytes} (hA : ClientName A)
    (c : UInt32) {e : Event} (he : e.received = none) (s : State) :
    K.activeOf (K.step mName s e) A c = K.activeOf s A c := by
  have hC := ownCalls K hmon
  have hother : ∀ c', K.mkId A c ≠ K.mkId (lit "us") c' := by
    intro c' heq
    exact hA.ne_us ((OwnerId.mkId_inj K.config hA.fits fits_us).mp heq).1
  show (Owned.of (K.step mName s e).world).active[K.mkId A c]? =
    (Owned.of s.world).active[K.mkId A c]?
  cases e with
  | message now tail msg => cases he
  | inhibit now r =>
    obtain ⟨-, ⟨-, hsame, -⟩ | ⟨i, -, hid, hnew, -⟩⟩ := inhibit_owned mName hC now r s
    · rw [hsame]
    · rw [hnew]
      dsimp only
      rw [StdMap.getElem?_insertIfNew, if_neg fun h => hother _ (h.1.trans hid)]
  | unInhibit cookie =>
    obtain ⟨-, hnew, -⟩ := unInhibit_owned mName hC cookie s
    rw [hnew]
    dsimp only
    rw [StdMap.getElem?_erase, if_neg (hother cookie)]

lemma Calls.active {o o' : InhibitInterface OwnerFields} (h : K.Calls mName o o')
    (hmon : K.config.monitor = false) {A : Bytes} (hA : ClientName A) (c : UInt32) :
    o'.activeInhibits[K.mkId A c]? = o.activeInhibits[K.mkId A c]? := by
  obtain ⟨fs, hfs, hrun⟩ := h
  have hkeep : ∀ s : State, K.activeOf (Transition.run (K.step mName) s fs) A c =
      K.activeOf s A c := by
    clear hrun
    induction fs with
    | nil => exact fun s => rfl
    | cons e fs ih =>
      intro s
      rw [Transition.run_cons, ih fun e he => hfs e (List.mem_cons_of_mem _ he)]
      exact activeOf_own_call hmon hA c (hfs e List.mem_cons_self) s
  rw [← (hrun { world := { obj := o } } rfl).1]
  exact hkeep _

end OwnerKind

namespace Wiring

variable {σ : Type} {w : Wiring σ}

/-- What a run has made of an interface on its own. -/
lemma Projected.tracking {k : ℕ} {K : OwnerKind} (hK : w.kind k = some K)
    {received : List (ℕ × List InhibitID × Message)} {s : State σ} {fs : List OwnerKind.Event}
    (h : w.Projected k K received s fs) :
    K.Tracking (Transition.run (K.step (w.mName k)) OwnerKind.initial fs) :=
  Transition.invariant OwnerKind.initial_tracking
    (fun _ _ ht he => ht.step (w.mName k) (w.implementation k K hK) he) h.truthful

/-- A message that is delivered to the interface `k`. -/
lemma active_message {k : ℕ} {K : OwnerKind} (hK : w.kind k = some K)
    {received : List (ℕ × List InhibitID × Message)} {s : State σ} {fs : List OwnerKind.Event}
    (h : w.Projected k K received s fs) (hs : w.Sound s.daemon) {now : ℕ} {tail : List InhibitID}
    {msg : Message} (he : w.Legal s (.message k now tail msg)) {A : Bytes} (hA : ClientName A)
    {c : UInt32} (hactive : (s.daemon.active k (K.mkId A c)).isSome) :
    let s' := w.step s (.message k now tail msg)
    (s'.daemon.active k (K.mkId A c) = none ↔ K.Takes (w.mName k) A c msg) ∧
      (¬ K.Takes (w.mName k) A c msg →
        s'.daemon.active k (K.mkId A c) = s.daemon.active k (K.mkId A c)) := by
  intro s'
  have hmon := w.implementation k K hK
  set a := Transition.run (K.step (w.mName k)) OwnerKind.initial fs
  have htruth : K.Truthful a (.message now tail msg) :=
    (OwnerKind.truthful_congr h.object.symm _).mpr (he K hK)
  obtain ⟨-, hview, -, -⟩ := message_step hK hs h.methodCalls he h.object h.methodCalls'
  obtain ⟨-, howned, -⟩ := OwnerKind.message_owned (w.mName k) (OwnerKind.ownCalls K hmon) hmon
    h.methodCalls' now tail msg
  have hbefore : s.daemon.active k (K.mkId A c) = (Owned.of a.world).active[K.mkId A c]? := by
    show (w.view k s.daemon).activeInhibits[K.mkId A c]? = _
    rw [h.object]
    rfl
  have hafter : s'.daemon.active k (K.mkId A c) = ((Owned.of a.world).apply (K.toClass.effect
      (w.mName k) [] now tail a.world.obj.sub.lastCookie msg)).active[K.mkId A c]? := by
    rw [← howned]
    show (w.view k s'.daemon).activeInhibits[K.mkId A c]? = _
    rw [hview]
    rfl
  rw [hbefore] at hactive
  rw [hbefore, hafter, ← OwnerKind.effect_takes_iff htruth hA c]
  exact (h.tracking hK).owners.active_apply (OwnerKind.effect_legal (w.mName k) htruth) hA hactive

/-- In every state the daemon can reach, an inhibit of a client goes away in exactly the steps that
deliver, at the interface it was asked from, the client's own release or the signal that the client
has gone. -/
theorem client_inhibits_stay {d₀ : Daemon σ} (h₀ : w.Initial d₀) {es : List Event}
    (hes : Transition.Along w.step w.Legal { daemon := d₀ } es) {e : Event}
    (he : w.Legal (Transition.run w.step { daemon := d₀ } es) e) {k : ℕ} {K : OwnerKind}
    (hK : w.kind k = some K) {A : Bytes} (hA : ClientName A) {c : UInt32} :
    let s := Transition.run w.step { daemon := d₀ } es
    let taken := ∃ now tail msg, e = .message k now tail msg ∧ K.Takes (w.mName k) A c msg
    (s.daemon.active k (K.mkId A c)).isSome →
      ((w.step s e).daemon.active k (K.mkId A c) = none ↔ taken) ∧
      (¬ taken → (w.step s e).daemon.active k (K.mkId A c) = s.daemon.active k (K.mkId A c)) := by
  intro s taken hactive
  have hreached := reached h₀ hes
  cases hreceived : e.receivedAt k with
  | none =>
    -- without a message the interface only sees calls of main for its own inhibits
    have hcalls := (step_calls hK hreached.methodCalls hreached.sound he hreceived).1
    have hkeep : (w.step s e).daemon.active k (K.mkId A c) = s.daemon.active k (K.mkId A c) :=
      hcalls.active (w.implementation k K hK) hA c
    have hnot : ¬ taken := by
      rintro ⟨now, tail, msg, rfl, -⟩
      cases (if_pos rfl).symm.trans hreceived
    refine ⟨iff_of_false (fun hnone => ?_) hnot, fun _ => hkeep⟩
    rw [← hkeep, hnone] at hactive
    cases hactive
  | some r =>
    cases e with
    | message j now tail msg =>
      by_cases hj : j = k
      · subst hj
        -- the step is one of the interface on its own
        obtain ⟨fs, hproj⟩ := hreached.projected j K hK
        have htaken : taken ↔ K.Takes (w.mName j) A c msg := by
          constructor
          · rintro ⟨now', tail', msg', heq, htakes⟩
            cases heq
            exact htakes
          · intro htakes
            exact ⟨now, tail, msg, rfl, htakes⟩
        rw [htaken]
        exact active_message hK hproj hreached.sound he hA hactive
      · cases (if_neg hj).symm.trans hreceived
    | registerInhibit now j i => cases hreceived
    | registerUnInhibit now j id => cases hreceived

/-- The inhibit of the screensaver's client goes away with the signal that the client has gone. -/
theorem client_inhibits_stay_pair :
    let d₀ : Daemon OwnerFields := { inhibitors := [0, 1], object := fun _ => { sub := {} } }
    let s := Transition.run pair.step { daemon := d₀ } pairEvents
    let id := OwnerKind.exampleScreenSaver.mkId (lit ":1.1") 1
    (s.daemon.active 0 id).isSome ∧
      (pair.step s (.message 0 1001 [] (OwnerKind.nameLost ":1.9" ":1.1"))).daemon.active 0 id =
        none := by
  intro d₀ s id
  have hactive : (s.daemon.active 0 id).isSome := by decide +kernel
  have he : pair.Legal s (.message 0 1001 [] (OwnerKind.nameLost ":1.9" ":1.1")) :=
    fun K _ => OwnerKind.truthful_nameLost ":1.9" ":1.1" _ 1001
  obtain ⟨hiff, -⟩ := client_inhibits_stay pair_initial pairEvents_legal he
    (show pair.kind 0 = some OwnerKind.exampleScreenSaver from rfl) OwnerKind.clientName_one hactive
  refine ⟨hactive, hiff.mpr ⟨1001, [], _, rfl, by decide, .inr ⟨by decide, rfl⟩⟩⟩

end Wiring

end UnifiedInhibit
