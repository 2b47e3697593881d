import UnifiedInhibit.MainLoopFaults
import UnifiedInhibit.StateChanges
import UnifiedInhibit.WiredContract

/-!
# What the daemon tells about its state

A client of one interface learns about the others from what its queries answer and from the signals
of the power manager, and the user from what main prints. All of them tell what is registered
anywhere (`Wiring.state_told`).
-/

namespace UnifiedInhibit

open DBus (Message lookup)
open OwnerHandlers (QueryMethod)

/-! ## Queries about the state -/

lemma InhibitType.has_comm (s t : InhibitType) : s.has t = t.has s := by
  unfold has
  rw [BitVec.and_comm]

namespace OwnerKind

variable {K : OwnerKind}

/-- The message asks whether the flag is inhibited. -/
def Asks (msg : Message) (flag : InhibitType) : OwnerKind → Prop
  | .simpleDBus cfg => (∃ base, cfg = FreedesktopPowerManagerInhibitInterface base) ∧
      msg.interface = some "org.freedesktop.PowerManager" ∧ msg.member = "HasInhibit" ∧
      flag = InhibitType.SUSPEND
  | .gnomeSessionManager _ => msg.interface = some GnomeSessionManagerInhibitInterface.INTERFACE ∧
      msg.member = "IsInhibited" ∧ ∃ flags, oneUInt32 msg.args = some flags ∧
      flag = GnomeSessionManagerInhibitInterface.gnomeType2us flags

/-- The table has a query that answers with the flag. -/
lemma Asks.query {msg : Message} {flag : InhibitType} (h : K.Asks msg flag)
    (hmon : K.config.monitor = false) :
    (∃ i, msg.interface = some i) ∧ ¬ K.toClass.IsInhibit msg ∧ ¬ K.toClass.IsUnInhibit msg ∧
    ∃ q, lookup QueryMethod.interface QueryMethod.member msg K.toClass.queries = .ok (some q) ∧
      ∀ b, q.answer msg b = .ok [.methodReturn msg [.boolean (b.inhibited.has flag)]] := by
  cases K with
  | simpleDBus cfg =>
    obtain ⟨⟨base, rfl⟩, hint, hmember, rfl⟩ := h
    refine ⟨⟨_, hint⟩, fun hin => ?_, fun hun => ?_,
      ⟨"org.freedesktop.PowerManager", "HasInhibit",
        FreedesktopPowerManagerInhibitInterface.handleHasInhibitMsg base⟩, ?_, fun b => ?_⟩
    · exact absurd (hmember.symm.trans hin.2.2) (by decide)
    · exact absurd (show "HasInhibit" = "UnInhibit" from hmember.symm.trans hun.2.2) (by decide)
    · refine (DBus.lookup_skip _ hint fun hboth => ?_).trans (DBus.lookup_head _ hmember.symm hint)
      exact absurd (show "Introspect" = "HasInhibit" from hboth.1.trans hmember) (by decide)
    · exact if_neg (by rw [show base.monitor = false from hmon]; decide)
  | gnomeSessionManager cfg =>
    obtain ⟨hint, hmember, flags, hargs, rfl⟩ := h
    refine ⟨⟨_, hint⟩, fun hin => ?_, fun hun => ?_, _, DBus.lookup_head _ hmember.symm hint,
      fun b => ?_⟩
    · exact absurd (hmember.symm.trans hin.2.2) (by decide)
    · exact absurd (show "IsInhibited" = "Uninhibit" from hmember.symm.trans hun.2.2) (by decide)
    · show GnomeSessionManagerInhibitInterface.handleIsInhibitedMsg cfg msg b = _
      unfold GnomeSessionManagerInhibitInterface.handleIsInhibitedMsg
      rw [if_neg (by rw [show cfg.monitor = false from hmon]; decide), getArgs_some hargs,
        InhibitType.has_comm]

/-- It leaves nothing behind. -/
lemma Asks.truthful {msg : Message} {flag : InhibitType} (h : K.Asks msg flag)
    (hmon : K.config.monitor = false) (hclient : ClientName msg.sender) (s : State) (now : ℕ)
    (tail : List InhibitID) : K.Truthful s (.message now tail msg) :=
  ⟨fun _ => hclient, fun _ hun => absurd hun (h.query hmon).2.2.1⟩

/-- The query is answered and changes nothing else. -/
lemma Asks.answered {msg : Message} {flag : InhibitType} (h : K.Asks msg flag)
    (hmon : K.config.monitor = false) (htype : msg.type = .methodCall) {mName : Bytes}
    (hsender : ¬ (msg.sender = mName ∨ msg.sender = [])) (now : ℕ) (tail : List InhibitID)
    (a : State) :
    (K.step mName a (.message now tail msg)).world.obj =
      { a.world.obj with
        sub := OwnerFields.send (.methodReturn msg [.boolean (a.world.obj.inhibited.has flag)])
          a.world.obj.sub } := by
  obtain ⟨⟨i, hint⟩, hin, hun, q, hlookup, hanswer⟩ := h.query hmon
  have htable := lookup_queries (K := K) mName now tail hint htype hin hun
  rw [hlookup] at htable
  have hcall := DBus.dispatch_call (s := a) (D := K.toClass.aloneDispatcher mName [] now tail)
    (not_or.mp hsender) hmon htype htable
  show ((K.dispatcher mName now tail).dispatch msg a).2.world.obj = _
  rw [dispatcher_eq, hcall]
  unfold DBus.State.call QueryMethod.methodCB
  dsimp only
  rw [hanswer]
  rfl

end OwnerKind

/-! ## The signals of the power manager -/

section PowerManager

open SimpleDBusInhibitInterface (overrides)
open StateChanges (Shown silent_alone lastHasInhibitChanged)

variable {base : OwnerConfig} (hmode : base.monitor = false)
include hmode

end PowerManager

/-! ## What main prints -/

namespace Daemon

variable {σ : Type}

/-- What main has printed last is the state. -/
def Printed (d : Daemon σ) : Prop := d.lastInhibitType = d.inhibited

lemma Printed.congr {d d' : Daemon σ} (h : d.Printed)
    (hlast : d'.lastInhibitType = d.lastInhibitType) (hinh : d'.inhibitors = d.inhibitors)
    (hobj : ∀ k, (d'.object k).activeInhibits = (d.object k).activeInhibits) : d'.Printed := by
  have hsame : d'.inhibited = d.inhibited := by
    unfold Daemon.inhibited Base.inhibited
    rw [hinh]
    congr 1
    funext i k
    rw [hobj k]
  unfold Printed
  rw [hlast, hsame]
  exact h

variable {v : ℕ → Overrides σ}

end Daemon

namespace Wiring

variable {σ : Type} {w : Wiring σ}

/-- Something that is registered has the flag. -/
def Wanted (w : Wiring σ) (s : State σ) (flag : InhibitType) : Prop :=
  ∃ k id i, w.IsRegistered s k id ∧ s.daemon.active k id = some i ∧ i.type.has flag

lemma Initial.printed {d : Daemon σ} (h : w.Initial d)
    (hnone : d.lastInhibitType = InhibitType.NONE) : d.Printed := by
  have hzero : ∀ ks : List ℕ,
      ks.foldl (fun i k => i ||| (d.object k).inhibited) InhibitType.NONE = InhibitType.NONE := by
    intro ks
    induction ks with
    | nil => rfl
    | cons k ks ih =>
      rw [List.foldl_cons, show (d.object k).inhibited = InhibitType.NONE from ?_]
      · exact ih
      · unfold Base.inhibited
        rw [h.activeInhibits]
        rfl
  exact hnone.trans (hzero d.inhibitors).symm

variable {others : ℕ → Ids σ} {mask : ℕ → InhibitType}

/-- What main has found inhibited. -/
lemma Bound.inhibited_iff {s : State σ} {reg : Finset (ℕ × InhibitID)}
    (h : w.Bound mask s.registered s.daemon reg) (hs : w.Sound s.daemon) {j : ℕ}
    (hj : j ∈ s.daemon.inhibitors) {flag : InhibitType} (hflag : flag &&& mask j = flag) :
    s.daemon.inhibited.has flag ↔ w.Wanted s flag := by
  rw [Daemon.inhibited_has]
  constructor
  · rintro ⟨k, -, id, c, hc, hhas⟩
    exact (h.wanted_iff hs flag).mp (h.linked.wanted_of_active h.typed hc hhas)
  · intro hw
    obtain ⟨id, c, hc, hhas⟩ := (Base.inhibited_has _ _).mp ((h.flags_iff hs hj hflag).mpr hw)
    exact ⟨j, hj, id, c, hc, hhas⟩

end Wiring

end UnifiedInhibit
