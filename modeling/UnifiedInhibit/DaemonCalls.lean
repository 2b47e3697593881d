import UnifiedInhibit.AnsweredCalls

/-!
# The calls that the daemon answers

The D-Bus interfaces together, each as one of the daemon's. An advertised call is answered once if
and only if its handler gets to the line that answers it. Every handler is found, except those of
the inhibitor objects of `GnomeSessionManagerInhibitInterface`, and `Uninhibit` there has no such
line.
-/

namespace UnifiedInhibit

open DBus (Arg Message Dispatcher MethodCB lookup lookup_head lookup_skip)
open Introspection (DeclaresNothing)

/-- The D-Bus interfaces, with what stays fixed for each. -/
inductive DBusInterface where
  | freedesktopScreenSaver (base : OwnerConfig)
  | freedesktopPowerManager (base : OwnerConfig)
  | mateScreenSaver (base : OwnerConfig)
  | gnomeScreenSaver (base : OwnerConfig)
  | gnomeSessionManager (base : OwnerConfig)
  | cinnamonScreenSaver (cfg : CinnamonConfig)
  | systemd (cfg : SystemdConfig) (doctype : String)

/-- What the handling of a message meets: the time, what `std::remove_if` leaves behind, how the
FIFO of a lock reference is set up, what the bus knows of the sender, and what is read through the
dangling pointers of `ListInhibitors`. -/
structure Circumstances where
  now : ℕ := 0
  tail : List InhibitID := []
  setup : FifoSetup := {}
  creds : Except Exn (UInt32 × UInt32) := .ok (0, 0)
  readable : Bool := true
  what : InhibitID → Bytes := fun _ => []

namespace DBusInterface

/-- The fields of the class. -/
def Fields : DBusInterface → Type
  | cinnamonScreenSaver _ => CinnamonFields
  | systemd _ _ => SystemdFields
  | _ => OwnerFields

def sent : (I : DBusInterface) → I.Fields → List Sent
  | freedesktopScreenSaver _ => OwnerFields.sent
  | freedesktopPowerManager _ => OwnerFields.sent
  | mateScreenSaver _ => OwnerFields.sent
  | gnomeScreenSaver _ => OwnerFields.sent
  | gnomeSessionManager _ => OwnerFields.sent
  | cinnamonScreenSaver _ => CinnamonFields.sent
  | systemd _ _ => SystemdFields.sent

def monitor : DBusInterface → Bool
  | freedesktopScreenSaver base => base.monitor
  | freedesktopPowerManager base => base.monitor
  | mateScreenSaver base => base.monitor
  | gnomeScreenSaver base => base.monitor
  | gnomeSessionManager base => base.monitor
  | cinnamonScreenSaver cfg => cfg.monitor
  | systemd cfg _ => cfg.monitor

/-- libdbus's `DBUS_INTROSPECT_1_0_XML_DOCTYPE_DECL_NODE`. -/
def doctype : DBusInterface → String
  | freedesktopScreenSaver base => base.doctype
  | freedesktopPowerManager base => base.doctype
  | mateScreenSaver base => base.doctype
  | gnomeScreenSaver base => base.doctype
  | gnomeSessionManager base => base.doctype
  | cinnamonScreenSaver cfg => cfg.doctype
  | systemd _ doctype => doctype

def overrides (c : Circumstances) : (I : DBusInterface) → Overrides I.Fields
  | freedesktopScreenSaver base =>
    SimpleDBusInhibitInterface.overrides (FreedesktopScreenSaverInhibitInterface base)
  | freedesktopPowerManager base =>
    SimpleDBusInhibitInterface.overrides (FreedesktopPowerManagerInhibitInterface base)
  | mateScreenSaver base =>
    SimpleDBusInhibitInterface.overrides (MateScreenSaverInhibitInterface base)
  | gnomeScreenSaver base => GnomeScreenSaverInhibitInterface.overrides base
  | gnomeSessionManager base => GnomeSessionManagerInhibitInterface.overrides base
  | cinnamonScreenSaver cfg => CinnamonScreenSaverInhibitInterface.overrides cfg
  | systemd cfg _ => SystemdInhibitInterface.overrides cfg c.setup

def dispatcher {W : Type} (mName mName2 : Bytes) (c : Circumstances) (cb : Callbacks W) :
    (I : DBusInterface) → This W I.Fields → Dispatcher W
  | freedesktopScreenSaver base, this =>
    SimpleDBusInhibitInterface.dispatcher (FreedesktopScreenSaverInhibitInterface base) this cb
      mName mName2 c.now c.tail
  | freedesktopPowerManager base, this =>
    SimpleDBusInhibitInterface.dispatcher (FreedesktopPowerManagerInhibitInterface base) this cb
      mName mName2 c.now c.tail
  | mateScreenSaver base, this =>
    SimpleDBusInhibitInterface.dispatcher (MateScreenSaverInhibitInterface base) this cb
      mName mName2 c.now c.tail
  | gnomeScreenSaver base, this =>
    GnomeScreenSaverInhibitInterface.dispatcher base this cb mName mName2 c.now c.tail
  | gnomeSessionManager base, this =>
    GnomeSessionManagerInhibitInterface.dispatcher base this cb mName mName2 c.now c.tail
  | cinnamonScreenSaver cfg, this =>
    CinnamonScreenSaverInhibitInterface.dispatcher cfg this cb mName mName2 c.now
  | systemd cfg doctype, this =>
    SystemdInhibitInterface.dispatcher cfg this cb doctype mName mName2 c.setup c.now c.creds
      c.readable c.what

lemma quiet_overrides (c : Circumstances) {I : DBusInterface} (himpl : I.monitor = false) :
    (I.overrides c).Quiet I.sent := by
  cases I with
  | freedesktopScreenSaver base =>
    exact SimpleDBusInhibitInterface.quiet_overrides himpl fun t => rfl
  | freedesktopPowerManager base =>
    refine SimpleDBusInhibitInterface.quiet_overrides himpl fun t => ?_
    show returnsIn (FreedesktopPowerManagerInhibitInterface.handleInhibitStateChanged base t) = []
    unfold FreedesktopPowerManagerInhibitInterface.handleInhibitStateChanged
    split <;> rfl
  | mateScreenSaver base => exact SimpleDBusInhibitInterface.quiet_overrides himpl fun t => rfl
  | gnomeScreenSaver base => exact SimpleDBusInhibitInterface.quiet_overrides himpl fun t => rfl
  | gnomeSessionManager base => exact GnomeSessionManagerInhibitInterface.quiet_overrides himpl
  | cinnamonScreenSaver cfg => exact CinnamonScreenSaverInhibitInterface.quiet_overrides himpl
  | systemd cfg _ => exact SystemdInhibitInterface.quiet_overrides himpl

end DBusInterface

namespace Daemon

variable {σ ρ : Type} {v : ℕ → Overrides σ} {k : ℕ} {P : Part σ ρ}

/-! ## When the registrations get to their end -/

/-- A registration at `k` returns if what the others throw is caught. -/
lemma registerInhibit_returns_iff (u : Overrides ρ) (now : ℕ) (i : Inhibit) (f : ρ → ρ)
    {d : Daemon σ} (hnodup : d.inhibitors.Nodup) :
    (((this k).part P).registerInhibit u (callbacks v now k) i
      (((this k).part P).modifySub f d)).1 = .ok () ↔ Caught v now k i.toInhibitRequest d := by
  set d₁ := ((this k).part P).modify
    (fun o => { o with activeInhibits := o.activeInhibits.insertIfNew i.id i })
    (((this k).part P).modifySub f d) with hd₁
  have hobj : ∀ b, b ≠ k → d₁.object b = d.object b := by
    intro b hb
    exact (Function.update_of_ne hb _ _).trans (Function.update_of_ne hb _ _)
  have hnodup₁ : d₁.inhibitors.Nodup := hnodup
  have hcaught : Caught v now k i.toInhibitRequest d₁ ↔ Caught v now k i.toInhibitRequest d :=
    Caught.congr rfl hobj
  rw [registerInhibit_fst, ← hcaught]
  obtain ⟨d', -, ⟨hyes, hrun⟩ | ⟨hno, e, hrun⟩⟩ := inhibitCB_returns (v := v) now k i hnodup₁
  · refine iff_of_true ?_ hyes
    exact congrArg Prod.fst hrun
  · refine iff_of_false (fun hok => ?_) hno
    have herror : (inhibitCB v now k i d₁).1 = .error e := congrArg Prod.fst hrun
    exact absurd (herror.symm.trans hok) (by simp)

/-- The exception that releasing a lock ends the releasing loop with: that of `doUnInhibit`, if the
lock is active. -/
def releaseFault (v : ℕ → Overrides σ) (r : ℕ × InhibitID) (d : Daemon σ) : Option Exn :=
  match d.active r.1 r.2 with
  | none => none
  | some _ =>
    match ((v r.1).doUnInhibit (d.object r.1).toBase r.2 (d.object r.1).sub).1 with
    | .ok () => none
    | .error .unsupportedType => none
    | .error e => some e

/-- The first of these exceptions, each lock in the state that those before it leave. -/
def firstReleaseFault (v : ℕ → Overrides σ) : List (ℕ × InhibitID) → Daemon σ → Option Exn
  | [], _ => none
  | r :: rs, d =>
    match releaseFault v r d with
    | some e => some e
    | none => firstReleaseFault v rs (unInhibitAt v r.1 r.2 d).2

/-- `unInhibit` passes on what `doUnInhibit` throws. -/
lemma releaseFault_eq (r : ℕ × InhibitID) (d : Daemon σ) :
    releaseFault v r d =
      match (unInhibitAt v r.1 r.2 d).1 with
      | .ok () => none
      | .error .unsupportedType => none
      | .error e => some e := by
  unfold releaseFault unInhibitAt InhibitInterface.unInhibit active
  cases (d.object r.1).activeInhibits[r.2]? with
  | none => rfl
  | some mid =>
    rcases (v r.1).doUnInhibit (d.object r.1).toBase r.2 (d.object r.1).sub with ⟨res, s⟩
    cases res <;> rfl

/-- The loop ends with the first of the exceptions, if there is one. -/
lemma release_result (rs : List (ℕ × InhibitID)) (d : Daemon σ) :
    (release v rs d).1 =
      match firstReleaseFault v rs d with
      | some e => .error e
      | none => .ok () := by
  induction rs generalizing d with
  | nil => rfl
  | cons r rs ih =>
    unfold release firstReleaseFault
    rw [releaseFault_eq]
    rcases unInhibitAt v r.1 r.2 d with ⟨res, d₁⟩
    rcases res with e | _
    · cases e with
      | unsupportedType => exact ih d₁
      | _ => rfl
    · exact ih d₁

/-- `unInhibitCB` returns unless an exception is not caught. -/
lemma unInhibitCB_returns_iff (i : Inhibit) (d : Daemon σ) :
    (unInhibitCB v i d).1 = .ok () ↔
      ∀ e, firstReleaseFault v (d.planOf i.id) d = some e → e = .noResponse := by
  unfold unInhibitCB planOf
  cases d.releasePlan[i.id]? with
  | none => exact iff_of_true rfl fun e he => absurd he (by simp [firstReleaseFault])
  | some plan =>
    have hfst := release_result (v := v) plan d
    dsimp only [Option.getD_some]
    rcases hres : release v plan d with ⟨res, d'⟩
    rw [hres] at hfst
    dsimp only at hfst
    rw [hfst]
    cases firstReleaseFault v plan d with
    | none => exact iff_of_true rfl fun e he => absurd he (by simp)
    | some e =>
      simp only [Option.some.injEq, forall_eq']
      cases e <;> simp

/-- The inhibit `id` of `k` is not active, or what ends the release of its locks, if anything, is a
missing response. -/
def ReleaseCaught (v : ℕ → Overrides σ) (k : ℕ) (id : InhibitID) (d : Daemon σ) : Prop :=
  ∀ mid, d.active k id = some mid → ∀ e,
    firstReleaseFault v (d.planOf mid.id) ((this k).modify
      (fun o => { o with activeInhibits := o.activeInhibits.erase id }) d) = some e →
      e = .noResponse

/-- A removal at `k` returns if what the others throw is caught. -/
lemma registerUnInhibit_returns_iff (u : Overrides ρ) (now : ℕ) (id : InhibitID) (d : Daemon σ) :
    (((this k).part P).registerUnInhibit u (callbacks v now k) id d).1 = .ok () ↔
      ReleaseCaught v k id d := by
  have herase : ((this k).part P).modify
      (fun o => { o with activeInhibits := o.activeInhibits.erase id }) d =
      (this k).modify (fun o => { o with activeInhibits := o.activeInhibits.erase id }) d := by
    unfold This.modify This.part
    dsimp only
    rw [P.set_get]
  rw [registerUnInhibit_fst, herase]
  exact forall₂_congr fun mid _ => unInhibitCB_returns_iff mid _

/-! ## The condition -/

/-- What the removal in front of the answer to `UnInhibit` throws is caught. -/
def UnInhibitReturns (v : ℕ → Overrides σ) (k : ℕ) (base : OwnerConfig) (msg : Message)
    (d : Daemon σ) : Prop :=
  msg.member = "UnInhibit" → ∀ cookie, msg.args = [.uint32 cookie] →
    ReleaseCaught v k (OwnerId.mkId base msg.sender cookie) d

/-- What the registration in front of the answer to `SimulateUserActivity` throws is caught. -/
def SimActivityReturns (v : ℕ → Overrides σ) (now k : ℕ) (msg : Message) (d : Daemon σ) : Prop :=
  msg.member = "SimulateUserActivity" → Caught v now k
    { type := InhibitType.SCREENSAVER, appname := msg.sender
      reason := lit "SimulateUserActivity" } d

/-- The handler of an advertised call gets to the line that answers it. -/
def GetsToAnswer (v : ℕ → Overrides σ) (k : ℕ) (c : Circumstances) (msg : Message)
    (d : Daemon σ) : DBusInterface → Prop
  | .freedesktopScreenSaver base => UnInhibitReturns v k base msg d
  | .freedesktopPowerManager base => UnInhibitReturns v k base msg d
  | .mateScreenSaver base => UnInhibitReturns v k base msg d
  | .gnomeScreenSaver base =>
    UnInhibitReturns v k base msg d ∧ SimActivityReturns v c.now k msg d
  | .gnomeSessionManager _ =>
    msg.interface = some "org.gnome.SessionManager" ∧ msg.member ≠ "Uninhibit"
  | .cinnamonScreenSaver _ => SimActivityReturns v c.now k msg d
  | .systemd cfg _ =>
    msg.member = "Inhibit" → ∀ what who why mode,
      msg.args = [.string what, .string who, .string why, .string mode] →
        SystemdInhibitInterface.Heeded cfg msg why ∧
          SystemdInhibitInterface.FifoSetup.Succeeds c.setup ∧
          SystemdInhibitInterface.CredsKnown c.creds

/-! ## The classes -/

section Simple

open SimpleDBusInhibitInterface (Serves advertised_cases answered_inhibit answered_unInhibit)

variable {P : Part σ OwnerFields} {cfg : SimpleDBusInhibitInterface.Config} {now : ℕ}
  {tail : List InhibitID} {D : Dispatcher (Daemon σ)} {more : List (MethodCB (Daemon σ))}
  {s : DBus.State (Daemon σ)} {msg : Message}

/-- The classes with the two methods of the base class, if `Q` is what it takes for the others to
be answered. -/
lemma simple_answered_iff (hD : Serves cfg ((this k).part P) (callbacks v now k) now tail D more)
    (hmon : cfg.monitor = false)
    (hu : (SimpleDBusInhibitInterface.overrides cfg).Quiet OwnerFields.sent)
    (hcb : (callbacks v now k).Quiet ((this k).part P) OwnerFields.sent)
    (hdoc : DeclaresNothing (text (lit cfg.doctype))) (hpath : Plain cfg.path)
    (hinterface : Plain cfg.interface) {E : List Introspection.Method}
    (hextra : ∀ methods, Introspection.Reader.read
      ⟨.text, [.interface cfg.interface.toList, .node], methods⟩ (text (lit cfg.extraIntrospect)) =
        ⟨.text, [.interface cfg.interface.toList, .node], E ++ methods⟩)
    (hcall : msg.type = .methodCall) {Q : Prop}
    (hown : msg.member = "Inhibit" ∨ msg.member = "UnInhibit" → Q)
    (hothers : ∀ i, msg.interface = some i →
      ⟨i.toList, msg.member.toList, DBus.signature msg.args⟩ ∈ E →
        msg.member ≠ "UnInhibit" ∧ (AnsweredOnce D ((this k).part P) OwnerFields.sent s msg ↔
          D.Observed msg ∧ Q))
    (h : Advertised D ((this k).part P) OwnerFields.sent s msg) :
    AnsweredOnce D ((this k).part P) OwnerFields.sent s msg ↔
      D.Observed msg ∧ UnInhibitReturns v k cfg.toOwnerConfig msg s.world ∧ Q := by
  rcases advertised_cases hD hmon hdoc hpath hinterface hextra h with
    ⟨hi, hmember, appname, reason, hargs⟩ | ⟨hi, hmember, cookie, hargs⟩ | ⟨i, hi, hmem⟩
  · rw [answered_inhibit hD hmon hu hcb hcall hi hmember hargs]
    refine (and_iff_left ⟨fun heq => ?_, hown (.inl hmember)⟩).symm
    rw [hmember] at heq
    exact absurd heq (by decide)
  · rw [answered_unInhibit hD hmon hu hcb hcall hi hmember hargs]
    refine and_congr_right' ?_
    rw [registerUnInhibit_returns_iff]
    refine ⟨fun hend => ⟨fun _ cookie' heq => ?_, hown (.inr hmember)⟩, fun hall => ?_⟩
    · rw [hargs] at heq
      simp only [List.cons.injEq, Arg.uint32.injEq, and_true] at heq
      rw [← heq]
      exact hend
    · exact hall.1 hmember cookie hargs
  · obtain ⟨hne, hiff⟩ := hothers i hi hmem
    rw [hiff]
    refine and_congr_right' (and_iff_right ?_).symm
    exact fun heq => absurd heq hne

/-- A class that adds no methods. -/
lemma plain_answered_iff {mName mName2 : Bytes} (hmon : cfg.monitor = false)
    (hu : (SimpleDBusInhibitInterface.overrides cfg).Quiet OwnerFields.sent)
    (hcb : (callbacks v now k).Quiet ((this k).part P) OwnerFields.sent)
    (hdoc : DeclaresNothing (text (lit cfg.doctype))) (hpath : Plain cfg.path)
    (hinterface : Plain cfg.interface) (hextra : cfg.extraIntrospect = "")
    (hcall : msg.type = .methodCall)
    (h : Advertised (SimpleDBusInhibitInterface.dispatcher cfg ((this k).part P)
      (callbacks v now k) mName mName2 now tail) ((this k).part P) OwnerFields.sent s msg) :
    AnsweredOnce (SimpleDBusInhibitInterface.dispatcher cfg ((this k).part P)
      (callbacks v now k) mName mName2 now tail) ((this k).part P) OwnerFields.sent s msg ↔
      (msg.sender ≠ mName ∧ msg.sender ≠ mName2) ∧
        UnInhibitReturns v k cfg.toOwnerConfig msg s.world := by
  have hserves : Serves cfg ((this k).part P) (callbacks v now k) now tail
      (SimpleDBusInhibitInterface.dispatcher cfg ((this k).part P) (callbacks v now k) mName mName2
        now tail) _ := ⟨rfl, rfl⟩
  have hiff := simple_answered_iff hserves hmon hu hcb hdoc hpath hinterface
    (fun methods => by rw [hextra]; rfl) hcall (fun _ => trivial)
    (fun i _ hmem => absurd hmem List.not_mem_nil) h
  exact hiff.trans (and_congr_right' (iff_of_eq (and_true _)))

lemma plain_freedesktopScreenSaver : Plain "org.freedesktop.ScreenSaver" ∧ Plain "ScreenSaver" :=
  ⟨plain_ofList (by decide) (by decide) (by decide),
    plain_ofList (by decide) (by decide) (by decide)⟩

lemma plain_mateScreenSaver : Plain "org.mate.ScreenSaver" ∧ Plain "org/mate/ScreenSaver" :=
  ⟨plain_ofList (by decide) (by decide) (by decide),
    plain_ofList (by decide) (by decide) (by decide)⟩

section Classes

variable {mName mName2 : Bytes} {base : OwnerConfig}
  (hcb : (callbacks v now k).Quiet ((this k).part P) OwnerFields.sent)
  (hmon : base.monitor = false) (hdoc : DeclaresNothing (text (lit base.doctype)))
  (hcall : msg.type = .methodCall)
include hcb hmon hdoc hcall

lemma powerManager_answered_iff
    (hu : (SimpleDBusInhibitInterface.overrides
      (FreedesktopPowerManagerInhibitInterface base)).Quiet OwnerFields.sent)
    (h : Advertised (SimpleDBusInhibitInterface.dispatcher
      (FreedesktopPowerManagerInhibitInterface base) ((this k).part P) (callbacks v now k) mName
        mName2 now tail) ((this k).part P) OwnerFields.sent s msg) :
    AnsweredOnce (SimpleDBusInhibitInterface.dispatcher
      (FreedesktopPowerManagerInhibitInterface base) ((this k).part P) (callbacks v now k) mName
        mName2 now tail) ((this k).part P) OwnerFields.sent s msg ↔
      (msg.sender ≠ mName ∧ msg.sender ≠ mName2) ∧ UnInhibitReturns v k base msg s.world := by
  have hserves : Serves (FreedesktopPowerManagerInhibitInterface base) ((this k).part P)
      (callbacks v now k) now tail (SimpleDBusInhibitInterface.dispatcher
        (FreedesktopPowerManagerInhibitInterface base) ((this k).part P) (callbacks v now k) mName
        mName2 now tail) _ := ⟨rfl, rfl⟩
  have hiff := simple_answered_iff (Q := True)
    (E := [entry "org.freedesktop.PowerManager" "HasInhibit" ""]) hserves hmon hu hcb hdoc
    (plain_ofList (by decide) (by decide) (by decide))
    (plain_ofList (by decide) (by decide) (by decide))
    (FreedesktopPowerManagerInhibitInterface.read_extraIntrospect base _) hcall
    (fun _ => trivial) (fun i hi hmem => ?_) h
  · exact hiff.trans (and_congr_right' (iff_of_eq (and_true _)))
  · -- `HasInhibit` stands behind the table of the base class
    rw [List.mem_singleton, eq_entry_iff] at hmem
    obtain ⟨hname, hmember, -⟩ := hmem
    rw [hname] at hi
    have hlookup : lookup MethodCB.interface MethodCB.member msg
        (SimpleDBusInhibitInterface.dispatcher (FreedesktopPowerManagerInhibitInterface base)
          ((this k).part P) (callbacks v now k) mName mName2 now tail).myMethods =
        .ok (some (OwnerHandlers.QueryMethod.methodCB ((this k).part P)
          ⟨"org.freedesktop.PowerManager", "HasInhibit",
            FreedesktopPowerManagerInhibitInterface.handleHasInhibitMsg base⟩)) := by
      show lookup _ _ msg (_ :: _ :: _ :: _ :: []) = _
      rw [lookup_skip _ hi (by simp [hmember]), lookup_skip _ hi (by simp [hmember]),
        lookup_skip _ hi (by simp [hmember, OwnerHandlers.QueryMethod.methodCB])]
      exact lookup_head _ hmember.symm hi
    refine ⟨by simp [hmember], ?_⟩
    have hanswer : FreedesktopPowerManagerInhibitInterface.handleHasInhibitMsg base msg
        (((this k).part P).get s.world).toBase = .ok [.methodReturn msg [.boolean
          ((((this k).part P).get s.world).toBase.inhibited.has InhibitType.SUSPEND)]] := by
      unfold FreedesktopPowerManagerInhibitInterface.handleHasInhibitMsg
      rw [hmon, if_neg (by decide)]
    rw [answeredOnce_iff hcall hmon hlookup]
    exact and_congr_right' (iff_of_true (OwnerHandlers.query_replies _ hanswer none) trivial)

lemma gnomeScreenSaver_answered_iff (hnodup : s.world.inhibitors.Nodup)
    (hu : (GnomeScreenSaverInhibitInterface.overrides base).Quiet OwnerFields.sent)
    (h : Advertised (GnomeScreenSaverInhibitInterface.dispatcher base ((this k).part P)
      (callbacks v now k) mName mName2 now tail) ((this k).part P) OwnerFields.sent s msg) :
    AnsweredOnce (GnomeScreenSaverInhibitInterface.dispatcher base ((this k).part P)
      (callbacks v now k) mName mName2 now tail) ((this k).part P) OwnerFields.sent s msg ↔
      (msg.sender ≠ mName ∧ msg.sender ≠ mName2) ∧ UnInhibitReturns v k base msg s.world ∧
        SimActivityReturns v now k msg s.world := by
  have hserves : Serves (GnomeScreenSaverInhibitInterface base) ((this k).part P)
      (callbacks v now k) now tail (GnomeScreenSaverInhibitInterface.dispatcher base
        ((this k).part P) (callbacks v now k) mName mName2 now tail) _ := ⟨rfl, rfl⟩
  refine simple_answered_iff (E := [entry "org.gnome.ScreenSaver" "SimulateUserActivity" ""])
    hserves hmon hu hcb hdoc (plain_ofList (by decide) (by decide) (by decide))
    (plain_ofList (by decide) (by decide) (by decide))
    (GnomeScreenSaverInhibitInterface.read_extraIntrospect base _) hcall
    (fun hown heq => ?_) (fun i hi hmem => ?_) h
  · rw [heq] at hown
    exact absurd hown (by decide)
  · rw [List.mem_singleton, eq_entry_iff] at hmem
    obtain ⟨hname, hmember, -⟩ := hmem
    rw [hname] at hi
    refine ⟨by simp [hmember], ?_⟩
    rw [GnomeScreenSaverInhibitInterface.answered_simActivity hmon hu hcb hcall hi hmember,
      registerInhibit_returns_iff _ _ _ _ hnodup]
    exact and_congr_right' ⟨fun hcaught _ => hcaught, fun hall => hall hmember⟩

end Classes

end Simple

lemma cinnamonScreenSaver_answered_iff {P : Part σ CinnamonFields} {cfg : CinnamonConfig}
    {mName mName2 : Bytes} {now : ℕ} {s : DBus.State (Daemon σ)} {msg : Message}
    (hcb : (callbacks v now k).Quiet ((this k).part P) CinnamonFields.sent)
    (hmon : cfg.monitor = false) (hdoc : DeclaresNothing (text (lit cfg.doctype)))
    (hcall : msg.type = .methodCall) (hnodup : s.world.inhibitors.Nodup)
    (h : Advertised (CinnamonScreenSaverInhibitInterface.dispatcher cfg ((this k).part P)
      (callbacks v now k) mName mName2 now) ((this k).part P) CinnamonFields.sent s msg) :
    AnsweredOnce (CinnamonScreenSaverInhibitInterface.dispatcher cfg ((this k).part P)
      (callbacks v now k) mName mName2 now) ((this k).part P) CinnamonFields.sent s msg ↔
      (msg.sender ≠ mName ∧ msg.sender ≠ mName2) ∧ SimActivityReturns v now k msg s.world := by
  obtain ⟨hi, hmember⟩ := CinnamonScreenSaverInhibitInterface.advertised_cases hmon hdoc h
  rw [CinnamonScreenSaverInhibitInterface.answered_simActivity hmon hcb hcall hi hmember,
    registerInhibit_returns_iff _ _ _ _ hnodup]
  exact and_congr_right' ⟨fun hcaught _ => hcaught, fun hall => hall hmember⟩

/-! ## All of them -/

/-- An advertised call is answered once if and only if it is not one of our own and its handler gets
to the line that answers it. -/
theorem advertised_answered_iff (I : DBusInterface) (c : Circumstances)
    (himpl : I.monitor = false) (hdoc : DeclaresNothing (text (lit I.doctype)))
    {P : Part σ I.Fields} (hv : v k = (I.overrides c).within P) (mName mName2 : Bytes)
    {s : DBus.State (Daemon σ)} (hnodup : s.world.inhibitors.Nodup) {msg : Message}
    (hcall : msg.type = .methodCall)
    (h : Advertised (I.dispatcher mName mName2 c (callbacks v c.now k) ((this k).part P))
      ((this k).part P) I.sent s msg) :
    AnsweredOnce (I.dispatcher mName mName2 c (callbacks v c.now k) ((this k).part P))
        ((this k).part P) I.sent s msg ↔
      (msg.sender ≠ mName ∧ msg.sender ≠ mName2) ∧ GetsToAnswer v k c msg s.world I := by
  have hu := DBusInterface.quiet_overrides c himpl
  have hcb : (callbacks v c.now k).Quiet ((this k).part P) I.sent := by
    apply callbacks_quiet
    rw [hv]
    exact hu.within P
  cases I with
  | freedesktopScreenSaver base =>
    exact plain_answered_iff himpl hu hcb hdoc plain_freedesktopScreenSaver.2
      plain_freedesktopScreenSaver.1 rfl hcall h
  | freedesktopPowerManager base => exact powerManager_answered_iff hcb himpl hdoc hcall hu h
  | mateScreenSaver base =>
    exact plain_answered_iff himpl hu hcb hdoc plain_mateScreenSaver.2 plain_mateScreenSaver.1 rfl
      hcall h
  | gnomeScreenSaver base => exact gnomeScreenSaver_answered_iff hcb himpl hdoc hcall hnodup hu h
  | gnomeSessionManager base =>
    exact GnomeSessionManagerInhibitInterface.answered_iff himpl hcall hdoc hcb h
  | cinnamonScreenSaver cfg =>
    exact cinnamonScreenSaver_answered_iff hcb himpl hdoc hcall hnodup h
  | systemd cfg doctype => exact SystemdInhibitInterface.answered_iff himpl hdoc hcb hcall h

/-! ### Two of the interfaces -/

def advertisingConfig : OwnerConfig where
  instanceId := 0
  monitor := false
  doctype := "<!DOCTYPE node PUBLIC \"-//freedesktop//DTD D-BUS Object Introspection 1.0//EN\">\n"

/-- A daemon with one interface, before any message. -/
def idleDaemon : Daemon OwnerFields where
  inhibitors := [0]
  object _ := { sub := {} }

/-- The dispatcher of the interface in a daemon that has no other. -/
def advertisingDispatcher (I : DBusInterface) (v : Overrides OwnerFields)
    (P : Part OwnerFields I.Fields) : Dispatcher (Daemon OwnerFields) :=
  I.dispatcher (lit ":1.1") [] {} (callbacks (fun _ => v) 0 0) ((this 0).part P)

lemma declaresNothing_advertisingConfig :
    DeclaresNothing (text (lit advertisingConfig.doctype)) := by
  unfold advertisingConfig
  rw [text_ofList]
  decide +kernel

/-- `Uninhibit` of the session manager is advertised, and no answer is sent. -/
theorem uninhibit_unanswered :
    let I := DBusInterface.gnomeSessionManager advertisingConfig
    let D := advertisingDispatcher I (I.overrides {}) Part.all
    let msg : Message :=
      { type := .methodCall, sender := lit ":1.5", path := lit "/org/gnome/SessionManager"
        interface := some "org.gnome.SessionManager", member := "Uninhibit", args := [.uint32 1] }
    I.monitor = false ∧ D.Observed msg ∧
      Advertised D ((this 0).part Part.all) I.sent { world := idleDaemon } msg ∧
      ¬ AnsweredOnce D ((this 0).part Part.all) I.sent { world := idleDaemon } msg := by
  intro I D msg
  have hobs : D.Observed msg := ⟨by decide, by decide⟩
  have hu : (I.overrides {}).Quiet I.sent := DBusInterface.quiet_overrides {} rfl
  have hcb : (callbacks (fun _ => I.overrides {}) 0 0).Quiet ((this 0).part Part.all) I.sent :=
    callbacks_quiet hu 0
  have hintrospects :
      Introspects D ((this 0).part Part.all) I.sent { world := idleDaemon } msg.path _ :=
    GnomeSessionManagerInhibitInterface.introspects_managerXml rfl hobs.1 hobs.2
  have hadv : Advertised D ((this 0).part Part.all) I.sent { world := idleDaemon } msg := by
    refine ⟨_, _, rfl, hintrospects, ?_⟩
    rw [GnomeSessionManagerInhibitInterface.methodsOf_managerXml declaresNothing_advertisingConfig]
    refine List.mem_cons_of_mem _ (List.mem_cons_of_mem _ (List.mem_cons.mpr (.inl ?_)))
    exact (eq_entry_iff _ _ _ _ _ _).mpr ⟨rfl, rfl, rfl⟩
  refine ⟨rfl, hobs, hadv, fun h => ?_⟩
  exact ((GnomeSessionManagerInhibitInterface.answered_iff rfl rfl declaresNothing_advertisingConfig
    hcb hadv).mp h).2.2 rfl

/-- `Inhibit` of a screen saver is answered. -/
theorem inhibit_answered :
    let I := DBusInterface.freedesktopScreenSaver advertisingConfig
    let D := advertisingDispatcher I (I.overrides {}) Part.all
    let msg : Message :=
      { type := .methodCall, sender := lit ":1.5", path := lit "/ScreenSaver"
        interface := some "org.freedesktop.ScreenSaver", member := "Inhibit"
        args := [.string (lit "mpv"), .string (lit "Playing")] }
    AnsweredOnce D ((this 0).part Part.all) I.sent { world := idleDaemon } msg := by
  intro I D msg
  have hobs : D.Observed msg := ⟨by decide, by decide⟩
  have hserves : SimpleDBusInhibitInterface.Serves
      (FreedesktopScreenSaverInhibitInterface advertisingConfig) ((this 0).part Part.all)
      (callbacks (fun _ => I.overrides {}) 0 0) 0 [] D _ := ⟨rfl, rfl⟩
  have hintrospects :
      Introspects D ((this 0).part Part.all) I.sent { world := idleDaemon } msg.path _ :=
    SimpleDBusInhibitInterface.introspects_interfaceXml hserves rfl hobs.1 hobs.2 (by decide)
  have hadv : Advertised D ((this 0).part Part.all) I.sent { world := idleDaemon } msg := by
    have hmethods : Introspection.methodsOf (text (lit (SimpleDBusInhibitInterface.interfaceXml
        (FreedesktopScreenSaverInhibitInterface advertisingConfig)))) = _ :=
      SimpleDBusInhibitInterface.methodsOf_interfaceXml_plain declaresNothing_advertisingConfig
        plain_freedesktopScreenSaver.2 plain_freedesktopScreenSaver.1 rfl
    refine ⟨_, _, rfl, hintrospects, ?_⟩
    rw [hmethods]
    refine List.mem_cons_of_mem _ (List.mem_singleton.mpr ?_)
    exact (eq_entry_iff _ _ _ _ _ _).mpr ⟨rfl, rfl, rfl⟩
  refine (advertised_answered_iff I {} rfl declaresNothing_advertisingConfig rfl (lit ":1.1") []
    (by decide) rfl hadv).mpr ⟨hobs, fun hmember => ?_⟩
  exact absurd hmember (by decide)

end Daemon

end UnifiedInhibit
