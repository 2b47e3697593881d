import UnifiedInhibit.AdvertisedCalls

/-!
# Which advertised calls are answered

For each class, what its objects advertise and what its handlers answer.
-/

namespace UnifiedInhibit

open DBus (Arg Message Dispatcher MethodCB lookup lookup_head lookup_skip)
open Introspection (DeclaresNothing)

/-! ## `SimpleDBusInhibitInterface` and its subclasses -/

namespace SimpleDBusInhibitInterface

variable {W : Type} {cfg : Config} {this : This W OwnerFields} {cb : Callbacks W}

/-- A dispatcher that starts with the table of the base class. -/
structure Serves (cfg : Config) (this : This W OwnerFields) (cb : Callbacks W) (now : ℕ)
    (tail : List InhibitID) (D : Dispatcher W) (more : List (MethodCB W)) : Prop where
  monitor : D.monitor = cfg.monitor
  table : D.myMethods =
    ⟨cfg.interface, "Inhibit", handleInhibitMsg cfg this cb now⟩ ::
    ⟨cfg.interface, "UnInhibit", handleUnInhibitMsg cfg this cb tail⟩ ::
    OwnerHandlers.QueryMethod.methodCB this
      ⟨"org.freedesktop.DBus.Introspectable", "Introspect", handleIntrospect cfg⟩ :: more

lemma quiet_overrides (hmon : cfg.monitor = false)
    (hstate : ∀ t, returnsIn (cfg.stateChanged t) = []) :
    (overrides cfg).Quiet OwnerFields.sent where
  doUnInhibit b id s := by
    show returnsIn (doUnInhibit cfg b id s).2.sent = _
    unfold doUnInhibit
    rw [hmon]
    rfl
  inhibitEvent i s := rfl
  unInhibitEvent i s := rfl
  stateChanged t i s := by
    show returnsIn (s.sent ++ cfg.stateChanged t) = _
    rw [returnsIn_append, hstate, List.append_nil]

/-- The two texts. -/
lemma handleIntrospect_returns {q : Message} {b : Base} {out : List Sent} {xml : Bytes}
    (h : handleIntrospect cfg q b = .ok out)
    (hout : returnsIn out = [.methodReturn q [.string xml]]) :
    xml = lit (rootXml cfg) ∨ xml = lit (interfaceXml cfg) := by
  have hmem := mem_of_returnsIn hout
  unfold handleIntrospect at h
  split at h
  · cases h
    exact absurd hmem List.not_mem_nil
  split at h
  · cases h
  split at h
  · cases h
    exact absurd hmem List.not_mem_nil
  · cases h
    exact text_of_mem hmem

section Served

variable {now : ℕ} {tail : List InhibitID} {D : Dispatcher W} {more : List (MethodCB W)}
  (hD : Serves cfg this cb now tail D more) (hmon : cfg.monitor = false)
  {s : DBus.State W} {msg : Message}
include hD hmon

/-- What an object of the class may say about itself. -/
lemma introspects_cases {path xml : Bytes} (h : Introspects D this OwnerFields.sent s path xml) :
    xml = lit (rootXml cfg) ∨ xml = lit (interfaceXml cfg) := by
  have hlookup : ∀ q : Message, q.interface = some "org.freedesktop.DBus.Introspectable" →
      q.member = "Introspect" → lookup MethodCB.interface MethodCB.member q D.myMethods =
        .ok (some (OwnerHandlers.QueryMethod.methodCB this
          ⟨"org.freedesktop.DBus.Introspectable", "Introspect", handleIntrospect cfg⟩)) := by
    intro q hqi hqm
    rw [hD.table, lookup_skip _ hqi (by simp [hqm]), lookup_skip _ hqi (by simp [hqm])]
    exact lookup_head _ hqm.symm hqi
  obtain ⟨q, -, hsent⟩ := h.handled (hD.monitor.trans hmon) hlookup
  obtain ⟨out, hout, hreturns⟩ := OwnerHandlers.answer_of_returned _ hsent
  exact handleIntrospect_returns (b := (this.get s.world).toBase) hout hreturns

/-- The object at the path of the class describes itself to everyone else. -/
lemma introspects_interfaceXml {sender : Bytes} (hname : sender ≠ D.mName)
    (hname2 : sender ≠ D.mName2) (hroot : lit ("/" ++ cfg.path) ≠ lit "/") :
    Introspects D this OwnerFields.sent s (lit ("/" ++ cfg.path)) (lit (interfaceXml cfg)) := by
  set q : Message :=
    { type := .methodCall, sender, destination := some (lit cfg.interface)
      path := lit ("/" ++ cfg.path), interface := some "org.freedesktop.DBus.Introspectable"
      member := "Introspect" } with hq
  have hlookup : lookup MethodCB.interface MethodCB.member q D.myMethods =
      .ok (some (OwnerHandlers.QueryMethod.methodCB this
        ⟨"org.freedesktop.DBus.Introspectable", "Introspect", handleIntrospect cfg⟩)) := by
    rw [hD.table, lookup_skip _ rfl (by simp [hq]), lookup_skip _ rfl (by simp [hq])]
    exact lookup_head _ rfl rfl
  have hanswer : handleIntrospect cfg q (this.get s.world).toBase =
      .ok [.methodReturn q [.string (lit (interfaceXml cfg))]] := by
    unfold handleIntrospect
    rw [hmon, if_neg (by decide)]
    simp [hq, hroot]
  refine ⟨q, rfl, rfl, rfl, rfl, ?_⟩
  rw [DBus.deliver_method (hD.monitor.trans hmon) ⟨hname, hname2⟩ rfl hlookup]
  show _ = _ ++ returnsIn [.methodReturn q [.string (lit (interfaceXml cfg))]]
  apply OwnerHandlers.returned_query
  · exact hanswer
  · exact none

/-- What a class with the path and the interface of `cfg` advertises: the two methods, and those
of `extra`, which its subclass describes. -/
lemma advertised_cases (hdoc : DeclaresNothing (text (lit cfg.doctype))) (hpath : Plain cfg.path)
    (hinterface : Plain cfg.interface) {extra : List Introspection.Method}
    (hextra : ∀ methods, Introspection.Reader.read
      ⟨.text, [.interface cfg.interface.toList, .node], methods⟩ (text (lit cfg.extraIntrospect)) =
        ⟨.text, [.interface cfg.interface.toList, .node], extra ++ methods⟩)
    (h : Advertised D this OwnerFields.sent s msg) :
    (msg.interface = some cfg.interface ∧ msg.member = "Inhibit" ∧
        ∃ appname reason, msg.args = [.string appname, .string reason]) ∨
      (msg.interface = some cfg.interface ∧ msg.member = "UnInhibit" ∧
        ∃ cookie, msg.args = [.uint32 cookie]) ∨
      ∃ i, msg.interface = some i ∧
        ⟨i.toList, msg.member.toList, DBus.signature msg.args⟩ ∈ extra := by
  obtain ⟨i, xml, hi, hintrospects, hmem⟩ := h
  rcases introspects_cases hD hmon hintrospects with hxml | hxml
  · rw [hxml, methodsOf_rootXml hdoc hpath] at hmem
    exact absurd hmem List.not_mem_nil
  · rw [hxml, methodsOf_interfaceXml hdoc hpath hinterface hextra] at hmem
    rcases List.mem_append.mp hmem with hmem | hmem
    · exact .inr (.inr ⟨i, hi, hmem⟩)
    · rw [List.mem_cons, List.mem_singleton, eq_entry_iff, eq_entry_iff] at hmem
      rcases hmem with ⟨hname, hmember, htypes⟩ | ⟨hname, hmember, htypes⟩
      · rw [hname] at hi
        obtain ⟨cookie, rest, hargs, hrest⟩ := DBus.uint32_of_signature htypes
        rw [DBus.eq_nil_of_signature hrest] at hargs
        exact .inr (.inl ⟨hi, hmember, cookie, hargs⟩)
      · rw [hname] at hi
        obtain ⟨appname, rest, hargs, hrest⟩ := DBus.string_of_signature htypes
        obtain ⟨reason, rest', hrest, hnil⟩ := DBus.string_of_signature hrest
        rw [DBus.eq_nil_of_signature hnil] at hrest
        rw [hrest] at hargs
        exact .inl ⟨hi, hmember, appname, reason, hargs⟩

section Quiet

variable (hu : (overrides cfg).Quiet OwnerFields.sent) (hcb : cb.Quiet this OwnerFields.sent)
  (hcall : msg.type = .methodCall) (hi : msg.interface = some cfg.interface)
include hu hcb hcall hi

/-- `Inhibit` is answered whenever it is heeded. -/
lemma answered_inhibit (hmember : msg.member = "Inhibit") {appname reason : Bytes}
    (hargs : msg.args = [.string appname, .string reason]) :
    AnsweredOnce D this OwnerFields.sent s msg ↔ D.Observed msg := by
  have hlookup : lookup MethodCB.interface MethodCB.member msg D.myMethods =
      .ok (some ⟨cfg.interface, "Inhibit", handleInhibitMsg cfg this cb now⟩) := by
    rw [hD.table]
    exact lookup_head _ hmember.symm hi
  rw [answeredOnce_iff hcall (hD.monitor.trans hmon) hlookup]
  have hparsed : ((twoStrings msg.args).map fun p => (p.1, p.2, cfg.inhibitType)) =
      some (appname, reason, cfg.inhibitType) := by
    rw [hargs]
    rfl
  exact and_iff_left (OwnerHandlers.handleInhibitMsg_replies hu hcb nextCookie now hparsed s.world)

/-- `UnInhibit` is answered after the release, so not if that throws. -/
lemma answered_unInhibit (hmember : msg.member = "UnInhibit") {cookie : UInt32}
    (hargs : msg.args = [.uint32 cookie]) :
    AnsweredOnce D this OwnerFields.sent s msg ↔ D.Observed msg ∧
      (this.registerUnInhibit (overrides cfg) cb (mkId cfg msg.sender cookie) s.world).1 =
        .ok () := by
  have hlookup : lookup MethodCB.interface MethodCB.member msg D.myMethods =
      .ok (some ⟨cfg.interface, "UnInhibit", handleUnInhibitMsg cfg this cb tail⟩) := by
    rw [hD.table, lookup_skip _ hi (by simp [hmember])]
    exact lookup_head _ hmember.symm hi
  rw [answeredOnce_iff hcall (hD.monitor.trans hmon) hlookup]
  refine and_congr_right' (OwnerHandlers.handleUnInhibitMsg_replies_iff hu hcb hmon tail ?_ s.world)
  rw [hargs]
  rfl

end Quiet

end Served

end SimpleDBusInhibitInterface

/-! ## `CinnamonScreenSaverInhibitInterface` -/

namespace CinnamonScreenSaverInhibitInterface

variable {W : Type} {cfg : CinnamonConfig} {this : This W CinnamonFields} {cb : Callbacks W}
  {mName mName2 : Bytes} {now : ℕ} (hmon : cfg.monitor = false) {s : DBus.State W} {msg : Message}
include hmon

lemma quiet_overrides : (overrides cfg).Quiet CinnamonFields.sent where
  doUnInhibit b id s := by
    show returnsIn (doUnInhibit cfg b id s).2.sent = _
    unfold doUnInhibit
    rw [hmon]
    rfl
  inhibitEvent i s := rfl
  unInhibitEvent i s := rfl
  stateChanged t i s := rfl

lemma introspects_cases {path xml : Bytes}
    (h : Introspects (dispatcher cfg this cb mName mName2 now) this CinnamonFields.sent s path
      xml) :
    xml = lit (rootXml cfg) ∨ xml = lit (interfaceXml cfg) := by
  have hlookup : ∀ q : Message, q.interface = some "org.freedesktop.DBus.Introspectable" →
      q.member = "Introspect" → lookup MethodCB.interface MethodCB.member q
        (dispatcher cfg this cb mName mName2 now).myMethods =
        .ok (some ⟨"org.freedesktop.DBus.Introspectable", "Introspect",
          handleIntrospect cfg this⟩) := by
    intro q hqi hqm
    unfold dispatcher
    rw [lookup_skip _ hqi (by simp [hqm])]
    exact lookup_head _ hqm.symm hqi
  obtain ⟨q, -, hsent⟩ := h.handled hmon hlookup
  dsimp only [handleIntrospect] at hsent
  rw [hmon, if_neg (by decide)] at hsent
  split at hsent
  · exact absurd ⟨_, hsent⟩ (not_replies rfl)
  split at hsent
  · exact absurd ⟨_, hsent⟩ (not_replies rfl)
  · rw [returned_modifySub rfl] at hsent
    exact text_of_mem (mem_of_returnsIn (List.append_cancel_left hsent))

/-- The only method is `SimulateUserActivity`. -/
lemma advertised_cases (hdoc : DeclaresNothing (text (lit cfg.doctype)))
    (h : Advertised (dispatcher cfg this cb mName mName2 now) this CinnamonFields.sent s msg) :
    msg.interface = some INTERFACE ∧ msg.member = "SimulateUserActivity" := by
  obtain ⟨i, xml, hi, hintrospects, hmem⟩ := h
  rcases introspects_cases hmon hintrospects with hxml | hxml
  · rw [hxml, methodsOf_rootXml hdoc] at hmem
    exact absurd hmem List.not_mem_nil
  · rw [hxml, methodsOf_interfaceXml hdoc, List.mem_singleton, eq_entry_iff] at hmem
    rw [hmem.1] at hi
    exact ⟨hi, hmem.2.1⟩

lemma answered_simActivity (hcb : cb.Quiet this CinnamonFields.sent)
    (hcall : msg.type = .methodCall) (hi : msg.interface = some INTERFACE)
    (hmember : msg.member = "SimulateUserActivity") :
    AnsweredOnce (dispatcher cfg this cb mName mName2 now) this CinnamonFields.sent s msg ↔
      (dispatcher cfg this cb mName mName2 now).Observed msg ∧
      (this.registerInhibit (overrides cfg) cb ((simActivity cfg).inhibitOf now msg)
        (this.modifySub ((simActivity cfg).clearOwner msg.sender) s.world)).1 = .ok () := by
  have hlookup : lookup MethodCB.interface MethodCB.member msg
      (dispatcher cfg this cb mName mName2 now).myMethods =
      .ok (some ⟨INTERFACE, "SimulateUserActivity", handleSimActivityMsg cfg this cb now⟩) :=
    lookup_head _ hmember.symm hi
  rw [answeredOnce_iff hcall hmon hlookup]
  exact and_congr_right' (SimActivity.handleSimActivityMsg_replies_iff (quiet_overrides hmon) hcb
    hmon (fun _ _ => rfl) (fun _ _ => rfl) now msg s.world)

end CinnamonScreenSaverInhibitInterface

/-! ## `GnomeScreenSaverInhibitInterface` -/

namespace GnomeScreenSaverInhibitInterface

variable {W : Type} {base : OwnerConfig} {this : This W OwnerFields} {cb : Callbacks W}
  {mName mName2 : Bytes} {now : ℕ} {tail : List InhibitID} {s : DBus.State W} {msg : Message}

lemma answered_simActivity (hmon : base.monitor = false)
    (hu : (overrides base).Quiet OwnerFields.sent) (hcb : cb.Quiet this OwnerFields.sent)
    (hcall : msg.type = .methodCall) (hi : msg.interface = some "org.gnome.ScreenSaver")
    (hmember : msg.member = "SimulateUserActivity") :
    AnsweredOnce (dispatcher base this cb mName mName2 now tail) this OwnerFields.sent s msg ↔
      (dispatcher base this cb mName mName2 now tail).Observed msg ∧
      (this.registerInhibit (overrides base) cb ((simActivity base).inhibitOf now msg)
        (this.modifySub ((simActivity base).clearOwner msg.sender) s.world)).1 = .ok () := by
  have hlookup : lookup MethodCB.interface MethodCB.member msg
      (dispatcher base this cb mName mName2 now tail).myMethods =
      .ok (some ⟨"org.gnome.ScreenSaver", "SimulateUserActivity",
        handleSimActivityMsg base this cb now⟩) := by
    show lookup _ _ msg (_ :: _ :: _ :: _ :: []) = _
    rw [lookup_skip _ hi (by simp [hmember]), lookup_skip _ hi (by simp [hmember]),
      lookup_skip _ hi (by simp [hmember, OwnerHandlers.QueryMethod.methodCB])]
    exact lookup_head _ hmember.symm hi
  rw [answeredOnce_iff hcall hmon hlookup]
  exact and_congr_right' (SimActivity.handleSimActivityMsg_replies_iff hu hcb
    hmon (fun _ _ => rfl) (fun _ _ => rfl) now msg s.world)

end GnomeScreenSaverInhibitInterface

/-! ## `GnomeSessionManagerInhibitInterface` -/

namespace GnomeSessionManagerInhibitInterface

open OwnerHandlers (QueryMethod)

variable {W : Type} {cfg : OwnerConfig} {this : This W OwnerFields} {cb : Callbacks W}
  {mName mName2 : Bytes} {now : ℕ} {tail : List InhibitID} {s : DBus.State W} {msg : Message}

/-- The signals about inhibitor objects are no answers. -/
lemma returnsIn_inhibitorSignal (member : String) (i : Inhibit) :
    returnsIn (inhibitorSignal cfg member i) = [] := by
  unfold inhibitorSignal
  split <;> rfl

lemma quiet_overrides (hmon : cfg.monitor = false) :
    (overrides cfg).Quiet OwnerFields.sent where
  doUnInhibit b id s := by
    show returnsIn (doUnInhibit cfg b id s).2.sent = _
    unfold doUnInhibit
    rw [hmon]
    rfl
  inhibitEvent i s := by
    show returnsIn (s.sent ++ inhibitorSignal cfg "InhibitorAdded" i) = _
    rw [returnsIn_append, returnsIn_inhibitorSignal, List.append_nil]
  unInhibitEvent i s := by
    show returnsIn (s.sent ++ inhibitorSignal cfg "InhibitorRemoved" i) = _
    rw [returnsIn_append, returnsIn_inhibitorSignal, List.append_nil]
  stateChanged t i s := rfl

/-- No two entries have one interface and member, so the first that fits is the only one. -/
lemma nodup_table :
    ((dispatcher cfg this cb mName mName2 now tail).myMethods.map
      fun m => (m.interface, m.member)).Nodup := by
  show [(INTERFACE, "Inhibit"), (INTERFACE, "Uninhibit"), (INTERFACE, "IsInhibited"),
    (INTERFACE, "GetInhibitors"), (INTERFACE, "GetReason"), (INTERFACE, "GetAppId"),
    (INTERFACE, "GetFlags"), ("org.freedesktop.DBus.Properties", "Get"),
    ("org.freedesktop.DBus.Introspectable", "Introspect")].Nodup
  decide +kernel

/-- A call of a query finds its handler. -/
lemma lookup_queries {q : QueryMethod} (hq : q ∈ queries cfg)
    (hi : msg.interface = some q.interface) (hmember : msg.member = q.member) :
    lookup MethodCB.interface MethodCB.member msg
      (dispatcher cfg this cb mName mName2 now tail).myMethods =
      .ok (some (QueryMethod.methodCB this q)) := by
  have hmem : QueryMethod.methodCB this q ∈
      (dispatcher cfg this cb mName mName2 now tail).myMethods :=
    List.mem_cons_of_mem _ (List.mem_cons_of_mem _ (List.mem_map_of_mem hq))
  exact DBus.lookup_of_nodup nodup_table hmem hi hmember

/-- The three kinds of texts. -/
lemma handleIntrospect_returns {q : Message} {b : Base} {out : List Sent} {xml : Bytes}
    (h : handleIntrospect cfg q b = .ok out)
    (hout : returnsIn out = [.methodReturn q [.string xml]]) :
    xml = lit (rootXml cfg) ∨ xml = lit (managerXml cfg b) ∨
      ∃ cookie, xml = lit (inhibitorXml cfg cookie) := by
  have hmem := mem_of_returnsIn hout
  unfold handleIntrospect at h
  split at h
  · cases h
    exact absurd hmem List.not_mem_nil
  split at h
  · cases h
  dsimp only at h
  split at h
  · cases h
    exact absurd hmem List.not_mem_nil
  split at h
  · cases h
    exact .inl (by simpa using hmem)
  split at h
  · cases h
    exact .inr (.inl (by simpa using hmem))
  split at h
  · split at h
    · cases h
    · rename_i cookie _
      cases h
      exact .inr (.inr ⟨cookie, by simpa using hmem⟩)
  · cases h
    exact absurd hmem List.not_mem_nil

section Implementing

variable (hmon : cfg.monitor = false)
include hmon

lemma introspects_cases {path xml : Bytes}
    (h : Introspects (dispatcher cfg this cb mName mName2 now tail) this OwnerFields.sent s path
      xml) :
    xml = lit (rootXml cfg) ∨ (∃ b, xml = lit (managerXml cfg b)) ∨
      ∃ cookie, xml = lit (inhibitorXml cfg cookie) := by
  obtain ⟨q, -, hsent⟩ := h.handled hmon fun q hqi hqm => lookup_queries
    (show ⟨"org.freedesktop.DBus.Introspectable", "Introspect", handleIntrospect cfg⟩ ∈
      queries cfg by simp [queries]) hqi hqm
  obtain ⟨out, hout, hreturns⟩ := OwnerHandlers.answer_of_returned _ hsent
  rcases handleIntrospect_returns hout hreturns with h | h | h
  · exact .inl h
  · exact .inr (.inl ⟨_, h⟩)
  · exact .inr (.inr h)

/-- The manager describes itself to everyone else. -/
lemma introspects_managerXml {sender : Bytes} (hname : sender ≠ mName) (hname2 : sender ≠ mName2) :
    Introspects (dispatcher cfg this cb mName mName2 now tail) this OwnerFields.sent s (lit PATH)
      (lit (managerXml cfg (this.get s.world).toBase)) := by
  set q : Message :=
    { type := .methodCall, sender, destination := some (lit INTERFACE), path := lit PATH
      interface := some "org.freedesktop.DBus.Introspectable", member := "Introspect" } with hq
  have hroot : lit PATH ≠ lit "/" := by decide
  have hanswer : handleIntrospect cfg q (this.get s.world).toBase =
      .ok [.methodReturn q [.string (lit (managerXml cfg (this.get s.world).toBase))]] := by
    unfold handleIntrospect
    rw [hmon, if_neg (by decide)]
    simp [hq, hroot]
  refine ⟨q, rfl, rfl, rfl, rfl, ?_⟩
  rw [DBus.deliver_method hmon ⟨hname, hname2⟩ rfl (lookup_queries
    (show ⟨"org.freedesktop.DBus.Introspectable", "Introspect", handleIntrospect cfg⟩ ∈
      queries cfg by simp [queries]) rfl rfl)]
  show _ = _ ++ returnsIn [.methodReturn q
    [.string (lit (managerXml cfg (this.get s.world).toBase))]]
  apply OwnerHandlers.returned_query
  · exact hanswer
  · exact none

/-- The manager advertises four methods; the inhibitor objects advertise theirs under an interface
of their own. -/
lemma advertised_cases (hdoc : DeclaresNothing (text (lit cfg.doctype)))
    (h : Advertised (dispatcher cfg this cb mName mName2 now tail) this OwnerFields.sent s msg) :
    msg.interface = some "org.gnome.SessionManager.Inhibitor" ∨
      msg.interface = some INTERFACE ∧
        ((msg.member = "Inhibit" ∧ ∃ appname xid reason flags,
            msg.args = [.string appname, .uint32 xid, .string reason, .uint32 flags]) ∨
          msg.member = "Uninhibit" ∨
          (msg.member = "IsInhibited" ∧ ∃ flags, msg.args = [.uint32 flags]) ∨
          msg.member = "GetInhibitors") := by
  obtain ⟨i, xml, hi, hintrospects, hmem⟩ := h
  rcases introspects_cases hmon hintrospects with hxml | ⟨b, hxml⟩ | ⟨cookie, hxml⟩
  · rw [hxml, methodsOf_rootXml hdoc] at hmem
    exact absurd hmem List.not_mem_nil
  · rw [hxml, methodsOf_managerXml hdoc, List.mem_cons, List.mem_cons, List.mem_cons,
      List.mem_singleton, eq_entry_iff, eq_entry_iff, eq_entry_iff, eq_entry_iff] at hmem
    right
    rcases hmem with ⟨hname, hmember, -⟩ | ⟨hname, hmember, htypes⟩ | ⟨hname, hmember, -⟩ |
      ⟨hname, hmember, htypes⟩
    · exact ⟨by rw [hi, hname], .inr (.inr (.inr hmember))⟩
    · obtain ⟨flags, rest, hargs, hrest⟩ := DBus.uint32_of_signature htypes
      rw [DBus.eq_nil_of_signature hrest] at hargs
      exact ⟨by rw [hi, hname], .inr (.inr (.inl ⟨hmember, flags, hargs⟩))⟩
    · exact ⟨by rw [hi, hname], .inr (.inl hmember)⟩
    · obtain ⟨appname, rest, hargs, h₁⟩ := DBus.string_of_signature htypes
      obtain ⟨xid, rest, h₁, h₂⟩ := DBus.uint32_of_signature h₁
      obtain ⟨reason, rest, h₂, h₃⟩ := DBus.string_of_signature h₂
      obtain ⟨flags, rest, h₃, hnil⟩ := DBus.uint32_of_signature h₃
      rw [h₁, h₂, h₃, DBus.eq_nil_of_signature hnil] at hargs
      exact ⟨by rw [hi, hname], .inl ⟨hmember, appname, xid, reason, flags, hargs⟩⟩
  · left
    rw [hxml, methodsOf_inhibitorXml hdoc, List.mem_cons, List.mem_cons, List.mem_singleton,
      eq_entry_iff, eq_entry_iff, eq_entry_iff] at hmem
    rcases hmem with hmem | hmem | hmem <;> rw [hi, hmem.1]

variable (hcall : msg.type = .methodCall)
include hcall

/-- Each method that the manager and the inhibitor objects advertise is answered, unless it is
`Uninhibit` or one of an inhibitor object. -/
lemma answered_iff (hdoc : DeclaresNothing (text (lit cfg.doctype)))
    (hcb : cb.Quiet this OwnerFields.sent)
    (h : Advertised (dispatcher cfg this cb mName mName2 now tail) this OwnerFields.sent s msg) :
    AnsweredOnce (dispatcher cfg this cb mName mName2 now tail) this OwnerFields.sent s msg ↔
      (dispatcher cfg this cb mName mName2 now tail).Observed msg ∧
      msg.interface = some INTERFACE ∧ msg.member ≠ "Uninhibit" := by
  rcases advertised_cases hmon hdoc h with hi | ⟨hi, hmethod⟩
  · -- the table has no entry under the interface of the inhibitor objects
    have hforeign : ∀ m ∈ (dispatcher cfg this cb mName mName2 now tail).myMethods,
        m.interface ≠ "org.gnome.SessionManager.Inhibitor" := by
      intro m hm
      have hname : m.interface ∈ [INTERFACE, INTERFACE, INTERFACE, INTERFACE, INTERFACE, INTERFACE,
          INTERFACE, "org.freedesktop.DBus.Properties",
          "org.freedesktop.DBus.Introspectable"] := List.mem_map_of_mem hm
      intro heq
      rw [heq] at hname
      exact absurd hname (by decide +kernel)
    refine iff_of_false (not_answeredOnce hcall (DBus.lookup_foreign hi hforeign)) fun hall => ?_
    rw [hi] at hall
    exact absurd hall.2.1 (by decide +kernel)
  · have hquery : ∀ {q : QueryMethod}, q ∈ queries cfg → msg.interface = some q.interface →
        msg.member = q.member → msg.member ≠ "Uninhibit" →
        (∃ args, q.answer msg (this.get s.world).toBase = .ok [.methodReturn msg args]) →
        (AnsweredOnce (dispatcher cfg this cb mName mName2 now tail) this OwnerFields.sent s msg ↔
          (dispatcher cfg this cb mName mName2 now tail).Observed msg ∧
          msg.interface = some INTERFACE ∧ msg.member ≠ "Uninhibit") := by
      intro q hq hqi hqm hne ⟨args, hanswer⟩
      rw [answeredOnce_iff hcall hmon (lookup_queries hq hqi hqm)]
      exact and_congr_right' (iff_of_true (OwnerHandlers.query_replies q hanswer none) ⟨hi, hne⟩)
    rcases hmethod with ⟨hmember, appname, xid, reason, flags, hargs⟩ | hmember |
      ⟨hmember, flags, hargs⟩ | hmember
    · have hparsed : inhibitArgs msg.args = some (appname, reason, gnomeType2us flags) := by
        rw [hargs]
        rfl
      rw [answeredOnce_iff hcall hmon (lookup_head _ hmember.symm hi)]
      refine and_congr_right' (iff_of_true ?_ ⟨hi, by simp [hmember]⟩)
      exact OwnerHandlers.handleInhibitMsg_replies (quiet_overrides hmon) hcb nextCookie now hparsed
        s.world
    · -- `Uninhibit` is handled, but its handler sends nothing
      have hlookup : lookup MethodCB.interface MethodCB.member msg
          (dispatcher cfg this cb mName mName2 now tail).myMethods =
          .ok (some ⟨INTERFACE, "Uninhibit", handleUnInhibitMsg cfg this cb tail⟩) := by
        unfold dispatcher
        rw [lookup_skip _ hi (by simp [hmember])]
        exact lookup_head _ hmember.symm hi
      rw [answeredOnce_iff hcall hmon hlookup]
      refine and_congr_right' (iff_of_false (not_replies ?_) fun hall => hall.2 hmember)
      exact OwnerHandlers.returned_handleUnInhibitMsg (quiet_overrides hmon) hcb tail msg s.world
    · refine hquery (show ⟨INTERFACE, "IsInhibited", handleIsInhibitedMsg cfg⟩ ∈ queries cfg by
        simp [queries]) hi hmember (by simp [hmember]) ?_
      have hparsed : oneUInt32 msg.args = some flags := by
        rw [hargs]
        rfl
      dsimp only [handleIsInhibitedMsg]
      rw [hmon, if_neg (by decide), getArgs_some hparsed]
      exact ⟨_, rfl⟩
    · refine hquery (show ⟨INTERFACE, "GetInhibitors", handleGetInhibitors cfg⟩ ∈ queries cfg by
        simp [queries]) hi hmember (by simp [hmember]) ?_
      dsimp only [handleGetInhibitors]
      rw [hmon, if_neg (by decide)]
      exact ⟨_, rfl⟩

end Implementing

end GnomeSessionManagerInhibitInterface

/-! ## `SystemdInhibitInterface` -/

namespace SystemdInhibitInterface

variable {W : Type} {cfg : SystemdConfig} {doctype : String} {this : This W SystemdFields}
  {cb : Callbacks W} {mName mName2 : Bytes} {setup : FifoSetup} {now : ℕ}
  {creds : Except Exn (UInt32 × UInt32)} {readable : Bool} {what : InhibitID → Bytes}
  (hmon : cfg.monitor = false) {s : DBus.State W} {msg : Message}
include hmon

lemma quiet_overrides : (overrides cfg setup).Quiet SystemdFields.sent where
  doUnInhibit b id s := by
    have hsent : (doUnInhibit cfg b id s).2.sent = s.sent := by
      unfold doUnInhibit
      rw [hmon]
      generalize fdOf id = fd
      simp only [Bool.false_eq_true, if_false]
      split
      · split <;> rfl
      · rfl
    exact congrArg returnsIn hsent
  inhibitEvent i s := rfl
  unInhibitEvent i s := rfl
  stateChanged t i s := rfl

lemma introspects_cases {path xml : Bytes}
    (h : Introspects (dispatcher cfg this cb doctype mName mName2 setup now creds readable what)
      this SystemdFields.sent s path xml) :
    xml = lit (rootXml doctype) ∨ xml = lit (managerXml doctype) := by
  have hlookup : ∀ q : Message, q.interface = some "org.freedesktop.DBus.Introspectable" →
      q.member = "Introspect" → lookup MethodCB.interface MethodCB.member q
        (dispatcher cfg this cb doctype mName mName2 setup now creds readable what).myMethods =
        .ok (some ⟨"org.freedesktop.DBus.Introspectable", "Introspect",
          handleIntrospect cfg this doctype⟩) := by
    intro q hqi hqm
    unfold dispatcher
    rw [lookup_skip _ hqi (by simp [hqm]), lookup_skip _ hqi (by simp [hqm]),
      lookup_skip _ hqi (by simp [hqm])]
    exact lookup_head _ hqm.symm hqi
  obtain ⟨q, -, hsent⟩ := h.handled hmon hlookup
  dsimp only [handleIntrospect] at hsent
  rw [hmon, if_neg (by decide)] at hsent
  split at hsent
  · exact absurd ⟨_, hsent⟩ (not_replies rfl)
  split at hsent
  · exact absurd ⟨_, hsent⟩ (not_replies rfl)
  · dsimp only at hsent
    rw [returned_send] at hsent
    exact text_of_mem (mem_of_returnsIn (List.append_cancel_left hsent))

lemma advertised_cases (hdoc : DeclaresNothing (text (lit doctype)))
    (h : Advertised (dispatcher cfg this cb doctype mName mName2 setup now creds readable what) this
      SystemdFields.sent s msg) :
    msg.interface = some INTERFACE ∧ (msg.member = "ListInhibitors" ∨ msg.member = "Inhibit" ∧
      ∃ what who why mode, msg.args = [.string what, .string who, .string why, .string mode]) := by
  obtain ⟨i, xml, hi, hintrospects, hmem⟩ := h
  rcases introspects_cases hmon hintrospects with hxml | hxml
  · rw [hxml, methodsOf_rootXml hdoc] at hmem
    exact absurd hmem List.not_mem_nil
  · rw [hxml, methodsOf_managerXml hdoc, List.mem_cons, List.mem_singleton, eq_entry_iff,
      eq_entry_iff] at hmem
    rcases hmem with ⟨hname, hmember, -⟩ | ⟨hname, hmember, htypes⟩
    · exact ⟨by rw [hi, hname], .inl hmember⟩
    · obtain ⟨what, rest, hargs, h₁⟩ := DBus.string_of_signature htypes
      obtain ⟨who, rest, h₁, h₂⟩ := DBus.string_of_signature h₁
      obtain ⟨why, rest, h₂, h₃⟩ := DBus.string_of_signature h₂
      obtain ⟨mode, rest, h₃, hnil⟩ := DBus.string_of_signature h₃
      rw [h₁, h₂, h₃, DBus.eq_nil_of_signature hnil] at hargs
      exact ⟨by rw [hi, hname], .inr ⟨hmember, what, who, why, mode, hargs⟩⟩

/-- `ListInhibitors` is answered, and `Inhibit` if it is heeded and nothing fails before the
answer. -/
lemma answered_iff (hdoc : DeclaresNothing (text (lit doctype)))
    (hcb : cb.Quiet this SystemdFields.sent) (hcall : msg.type = .methodCall)
    (h : Advertised (dispatcher cfg this cb doctype mName mName2 setup now creds readable what) this
      SystemdFields.sent s msg) :
    AnsweredOnce (dispatcher cfg this cb doctype mName mName2 setup now creds readable what) this
        SystemdFields.sent s msg ↔
      (dispatcher cfg this cb doctype mName mName2 setup now creds readable what).Observed msg ∧
      (msg.member = "Inhibit" → ∀ what who why mode,
        msg.args = [.string what, .string who, .string why, .string mode] →
          Heeded cfg msg why ∧ FifoSetup.Succeeds setup ∧ CredsKnown creds) := by
  obtain ⟨hi, hmember | ⟨hmember, what', who, why, mode, hargs⟩⟩ := advertised_cases hmon hdoc h
  · have hlookup : lookup MethodCB.interface MethodCB.member msg
        (dispatcher cfg this cb doctype mName mName2 setup now creds readable what).myMethods =
        .ok (some ⟨INTERFACE, "ListInhibitors", handleListInhibitorsMsg cfg this what⟩) := by
      unfold dispatcher
      rw [lookup_skip _ hi (by simp [hmember])]
      exact lookup_head _ hmember.symm hi
    rw [answeredOnce_iff hcall hmon hlookup]
    refine and_congr_right' (iff_of_true (handleListInhibitorsMsg_replies hmon what msg s.world) ?_)
    intro hinhibit
    rw [hmember] at hinhibit
    exact absurd hinhibit (by decide)
  · have hparsed : fourStrings msg.args = some (what', who, why, mode) := by
      rw [hargs]
      rfl
    rw [answeredOnce_iff hcall hmon (lookup_head _ hmember.symm hi)]
    refine and_congr_right' ((handleInhibitMsgAsking_replies_iff (quiet_overrides hmon) hcb now
      creds readable hparsed s.world).trans ⟨fun hall _ w₁ w₂ w₃ w₄ heq => ?_, fun hall => ?_⟩)
    · rw [hargs] at heq
      simp only [List.cons.injEq, Arg.string.injEq] at heq
      rw [← heq.2.2.1]
      exact hall
    · exact hall hmember _ _ _ _ hargs

end SystemdInhibitInterface

end UnifiedInhibit
