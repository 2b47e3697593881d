import UnifiedInhibit.UserCommandsTheorems
import UnifiedInhibit.WiredContract

/-!
# The user's commands follow the whole daemon

An interface is told of the states of its object one after the other, whichever interface has
caused them (`StateChanges.Told`), and main's callbacks reach the objects of other interfaces by
`inhibit` and `unInhibit` alone. So the commands of `UserCommandsInhibitInterface` take turns over
whole runs of the daemon, and the last one says whether anything is inhibited anywhere
(`Wiring.commands_follow_state`).
-/

namespace UnifiedInhibit

open InhibitInterface (inserted erased)

/-! ## What an object is told -/

namespace StateChanges

variable {σ β : Type}

/-- The state that a class was told last, and what it has noted. -/
def heard (f : σ → β) (o : InhibitInterface σ) : InhibitType × β := (o.lastInhibitState, f o.sub)

/-- A class is told of a state. -/
def hear (g : InhibitType → β → β) (x : InhibitType × β) (t : InhibitType) : InhibitType × β :=
  (t, noted g x.1 t x.2)

/-- Between `o` and `o'` the class was told of some states, of the last one at the end. -/
structure Told (f : σ → β) (g : InhibitType → β → β) (o o' : InhibitInterface σ) : Prop where
  settled : Settled o → Settled o'
  heard : ∃ ts, heard f o' = Transition.run (hear g) (heard f o) ts

variable {f : σ → β} {g : InhibitType → β → β} {o o' o'' : InhibitInterface σ}

lemma Told.refl (f : σ → β) (g : InhibitType → β → β) (o : InhibitInterface σ) : Told f g o o :=
  ⟨fun h => h, [], rfl⟩

lemma Told.trans (h : Told f g o o') (h' : Told f g o' o'') : Told f g o o'' := by
  obtain ⟨ts, hts⟩ := h.heard
  obtain ⟨ts', hts'⟩ := h'.heard
  refine ⟨fun hs => h'.settled (h.settled hs), ts ++ ts', ?_⟩
  rw [Transition.run_append, ← hts]
  exact hts'

variable {v : Overrides σ} (hv : Notes v f g)
include hv

/-- A call of the class on its own. -/
lemma Notes.told (o : InhibitInterface σ) (c : Call) :
    Told f g o (StateChanges.step Alone.this v Alone.callbacks { obj := o } c).obj := by
  rcases hv.call_cases silent_alone { obj := o } c with ⟨hbase, hf⟩ | ⟨-, b, i, o₁, heq, hlast, hf⟩
  · have hbase : (StateChanges.step Alone.this v Alone.callbacks { obj := o } c).obj.toBase =
        o.toBase := hbase
    refine ⟨fun hs => ?_, [], ?_⟩
    · unfold Settled
      rw [hbase]
      exact hs
    · exact Prod.ext (congrArg Base.lastInhibitState hbase) hf
  · have heq : (StateChanges.step Alone.this v Alone.callbacks { obj := o } c).obj =
        InhibitInterface.callEvent v b i o₁ := heq
    obtain ⟨hsettled, hnoted⟩ := hv.callEvent b i o₁
    rw [heq]
    refine ⟨fun _ => hsettled, [(InhibitInterface.callEvent v b i o₁).inhibited], ?_⟩
    refine Prod.ext hsettled ?_
    rw [show (heard f (InhibitInterface.callEvent v b i o₁)).2 = _ from hnoted, hlast, hf]
    rfl

lemma Notes.told_inhibit (now : ℕ) (r : InhibitRequest) (o : InhibitInterface σ) :
    Told f g o (InhibitInterface.inhibit v now r o).2 := by
  have htold := hv.told o (.inhibit now r)
  unfold StateChanges.step call at htold
  dsimp only [Alone.this] at htold
  rcases hres : InhibitInterface.inhibit v now r o with ⟨res, o'⟩
  rw [hres] at htold
  cases res <;> exact htold

lemma Notes.told_unInhibit (id : InhibitID) (o : InhibitInterface σ) :
    Told f g o (InhibitInterface.unInhibit v id o).2 := hv.told o (.unInhibit id)

end StateChanges

open StateChanges (Notes Settled Told)

namespace Daemon

variable {σ β : Type} {v : ℕ → Overrides σ} {k : ℕ} {f : σ → β} {g : InhibitType → β → β}
  (hv : Notes (v k) f g)
include hv

/-- A call of another object tells this one nothing. -/
lemma told_inhibitAt (now j : ℕ) (r : InhibitRequest) (d : Daemon σ) :
    Told f g (d.object k) ((inhibitAt v now j r d).2.object k) := by
  by_cases hj : k = j
  · subst hj
    have hat : (inhibitAt v now k r d).2.object k = ((d.object k).inhibit (v k) now r).2 :=
      (this k).get_set _ _
    rw [hat]
    exact hv.told_inhibit now r _
  · rw [object_inhibitAt_of_ne hj]
    exact .refl f g _

lemma told_unInhibitAt (j : ℕ) (id : InhibitID) (d : Daemon σ) :
    Told f g (d.object k) ((unInhibitAt v j id d).2.object k) := by
  by_cases hj : k = j
  · subst hj
    have hat : (unInhibitAt v k id d).2.object k = ((d.object k).unInhibit (v k) id).2 :=
      (this k).get_set _ _
    rw [hat]
    exact hv.told_unInhibit id _
  · rw [object_unInhibitAt_of_ne hj]
    exact .refl f g _

/-- Whichever exception ends it, a forward tells an object through calls of `inhibit` alone. -/
lemma told_forward (now j : ℕ) (i : Inhibit) (ais : List ℕ) (d : Daemon σ) :
    Told f g (d.object k) ((forward v now j i ais d).2.object k) := by
  induction ais generalizing d with
  | nil => exact .refl f g _
  | cons ai ais ih =>
    unfold forward
    by_cases hai : ai ≠ j
    · rw [if_pos hai]
      have hat := told_inhibitAt hv now ai i.toInhibitRequest d
      rcases hres : inhibitAt v now ai i.toInhibitRequest d with ⟨res, d₁⟩
      rw [hres] at hat
      cases res with
      | ok i' => exact hat.trans (ih (d₁.pushRelease i.id (ai, i'.id)))
      | error e =>
        cases e with
        | unsupportedType => exact hat.trans (ih d₁)
        | _ => exact hat
    · rw [if_neg hai]
      exact ih d

/-- A release tells an object through calls of `unInhibit` alone. -/
lemma told_release (rs : List (ℕ × InhibitID)) (d : Daemon σ) :
    Told f g (d.object k) ((release v rs d).2.object k) := by
  induction rs generalizing d with
  | nil => exact .refl f g _
  | cons r rs ih =>
    unfold release
    have hat := told_unInhibitAt hv r.1 r.2 d
    rcases hres : unInhibitAt v r.1 r.2 d with ⟨res, d₁⟩
    rw [hres] at hat
    cases res with
    | ok _ => exact hat.trans (ih d₁)
    | error e =>
      cases e with
      | unsupportedType => exact hat.trans (ih d₁)
      | _ => exact hat

omit hv in
lemma object_printInhibited (d : Daemon σ) : d.printInhibited.object = d.object := by
  rw [printInhibited_eq]

lemma told_inhibitCB (now j : ℕ) (i : Inhibit) (d : Daemon σ) :
    Told f g (d.object k) ((inhibitCB v now j i d).2.object k) := by
  have hfw := told_forward hv now j i d.inhibitors d
  unfold inhibitCB
  rcases hres : forward v now j i d.inhibitors d with ⟨res, d₁⟩
  rw [hres] at hfw
  cases res with
  | ok _ =>
    dsimp only
    rw [object_printInhibited]
    exact hfw
  | error e =>
    cases e with
    | noResponse =>
      dsimp only
      rw [object_printInhibited]
      exact hfw
    | _ => exact hfw

lemma told_unInhibitCB (i : Inhibit) (d : Daemon σ) :
    Told f g (d.object k) ((unInhibitCB v i d).2.object k) := by
  unfold unInhibitCB
  cases d.releasePlan[i.id]? with
  | none =>
    dsimp only
    rw [object_printInhibited]
    exact .refl f g _
  | some plan =>
    have hrel := told_release hv plan d
    dsimp only
    rcases hres : release v plan d with ⟨res, d₁⟩
    rw [hres] at hrel
    cases res with
    | ok _ =>
      dsimp only
      rw [object_printInhibited]
      exact hrel
    | error e =>
      cases e with
      | noResponse =>
        dsimp only
        rw [object_printInhibited]
        exact hrel
      | _ => exact hrel

variable {j : ℕ} (hj : k ≠ j)
include hj

/-- A registration at another interface. -/
lemma told_registerInhibit (now : ℕ) (i : Inhibit) (d : Daemon σ) :
    Told f g (d.object k) ((registerInhibit v now j i d).2.object k) := by
  have hother : ∀ (h : InhibitInterface σ → InhibitInterface σ) (d : Daemon σ),
      ((this j).modify h d).object k = d.object k := fun h d => Function.update_of_ne hj _ _
  unfold registerInhibit This.registerInhibit
  dsimp only
  set d₁ := (this j).modify _ d with hd₁
  have hcb := told_inhibitCB hv now j i d₁
  rw [hd₁, hother] at hcb
  rcases hres : (callbacks v now j).inhibitCB i d₁ with ⟨res, d₂⟩
  rw [show inhibitCB v now j i ((this j).modify _ d) = _ from hres] at hcb
  cases res with
  | error e => exact hcb
  | ok _ =>
    dsimp only
    rw [hother]
    exact hcb

lemma told_registerUnInhibit (now : ℕ) (id : InhibitID) (d : Daemon σ) :
    Told f g (d.object k) ((registerUnInhibit v now j id d).2.object k) := by
  have hother : ∀ (h : InhibitInterface σ → InhibitInterface σ) (d : Daemon σ),
      ((this j).modify h d).object k = d.object k := fun h d => Function.update_of_ne hj _ _
  unfold registerUnInhibit This.registerUnInhibit
  cases ((this j).get d).activeInhibits[id]? with
  | none => exact .refl f g _
  | some mid =>
    dsimp only
    set d₁ := (this j).modify _ d with hd₁
    have hcb := told_unInhibitCB hv mid d₁
    rw [hd₁, hother] at hcb
    rcases hres : (callbacks v now j).unInhibitCB mid d₁ with ⟨res, d₂⟩
    rw [show unInhibitCB v mid ((this j).modify _ d) = _ from hres] at hcb
    cases res with
    | error e => exact hcb
    | ok _ =>
      dsimp only
      rw [hother]
      exact hcb

end Daemon

/-! ## In a run of the daemon -/

namespace Wiring

variable {σ β : Type} {w : Wiring σ} {k : ℕ} {f : σ → β} {g : InhibitType → β → β}

/-- What happens at another interface tells `k` of states. -/
lemma told_step (hv : Notes (w.overrides k) f g) {es : List Event} {s : State σ}
    (hr : w.Reached es s) {e : Event} (he : w.Legal s e) (hplace : e.place ≠ k) :
    Told f g (s.daemon.object k) ((w.step s e).daemon.object k) := by
  refine hr.keeps he (I := fun d => Told f g (s.daemon.object k) (d.object k)) (fun h d hd => ?_)
    (fun now i d _ _ hd => ?_) (fun now id d _ hd => ?_) (.refl f g _)
  · dsimp only
    rw [show (((Daemon.this e.place).part w.part).modifySub h d).object k = d.object k from
      Function.update_of_ne hplace.symm _ _]
    exact hd
  · exact hd.trans (Daemon.told_registerInhibit hv hplace.symm now i d)
  · exact hd.trans (Daemon.told_registerUnInhibit hv hplace.symm now id d)

/-- In every run that leaves the interface `k` to the others, it is told of states. -/
lemma told_run (hv : Notes (w.overrides k) f g) {d₀ : Daemon σ} (h₀ : w.Initial d₀)
    {es : List Event} (hes : Transition.Along w.step w.Legal { daemon := d₀ } es)
    (hplace : ∀ e ∈ es, e.place ≠ k) :
    Told f g (d₀.object k) ((Transition.run w.step { daemon := d₀ } es).daemon.object k) := by
  induction es using List.reverseRecOn with
  | nil => exact .refl f g _
  | append_singleton es e ih =>
    obtain ⟨hes, he⟩ := Transition.along_snoc.mp hes
    have hrest := ih hes fun e he => hplace e (List.mem_append_left _ he)
    rw [Transition.run_snoc]
    exact hrest.trans (told_step hv (reached h₀ hes) he
      (hplace e (List.mem_append_right _ (List.mem_singleton_self e))))

end Wiring

/-! ## The user's commands -/

lemma StateChanges.Notes.within {σ ρ β : Type} (P : Part σ ρ) {u : Overrides ρ} {f : ρ → β}
    {g : InhibitType → β → β} (h : Notes u f g) : Notes (u.within P) (fun s => f (P.get s)) g where
  doInhibit now r s := by
    rw [Overrides.doInhibit_within]
    dsimp only
    rw [P.get_set]
    exact h.doInhibit now r _
  doUnInhibit b id s := by
    rw [Overrides.doUnInhibit_within]
    dsimp only
    rw [P.get_set]
    exact h.doUnInhibit b id _
  inhibitEvent i s := (congrArg f (P.get_set _ s)).trans (h.inhibitEvent i _)
  unInhibitEvent i s := (congrArg f (P.get_set _ s)).trans (h.unInhibitEvent i _)
  stateChanged t i s := (congrArg f (P.get_set _ s)).trans (h.stateChanged t i _)

namespace UserCommandsInhibitInterface

open InhibitType (NONE)
open StateChanges (heard hear noted)

variable {cfg : Commands} {instanceId : UInt64}

lemma Alternate.snoc {l : List Bool} {b : Bool} (h : Alternate l)
    (hlast : (false :: l).getLast? = some b) (b' : Bool) :
    Alternate (l ++ if b = b' then [] else [b']) ∧
      (false :: (l ++ if b = b' then [] else [b'])).getLast? = some b' := by
  split
  · rename_i hsame
    rw [List.append_nil, ← hsame]
    exact ⟨h, hlast⟩
  · rename_i hne
    unfold Alternate
    rw [← List.cons_append]
    refine ⟨List.isChain_append.mpr ⟨h, List.isChain_singleton _, fun x hx y hy => ?_⟩, ?_⟩
    · rw [hlast] at hx
      rw [← Option.some.inj hx, ← Option.some.inj hy]
      exact hne
    · rw [List.getLast?_append_of_ne_nil _ (List.cons_ne_nil _ _), List.getLast?_singleton]

/-- The state that the class has seen last, and what it has run. -/
def seen (s : Fields) : InhibitType × List Ran := (s.lastInhibited, s.ran)

/-- What it makes of a change to `t`. -/
def onChange (cfg : Commands) (t : InhibitType) (x : InhibitType × List Ran) :
    InhibitType × List Ran :=
  if cfg.ok then (t, x.2 ++ edges cfg (hasType x.1) (hasType t)) else x

/-- The two commands for `t` have taken turns, and the last one says whether the last state has
the type. -/
structure Follow (t : InhibitType) (x : InhibitType × InhibitType × List Ran) : Prop where
  last : x.2.1 = x.1
  alternate : Alternate (ranFor t x.2.2)
  current : (false :: ranFor t x.2.2).getLast? = some (hasType x.1 t)

/-- Nothing is inhibited at the start, and nothing has been run. -/
lemma Follow.initial (t : InhibitType) : Follow t (NONE, seen {}) := by
  refine ⟨rfl, List.isChain_singleton _, ?_⟩
  have hnone : hasType NONE t = false := by
    unfold hasType
    split
    · rfl
    · exact InhibitType.none_has t
  rw [hnone]
  rfl

lemma Follow.hear {t : InhibitType} (ht : t ∈ inhibitTypes ++ [NONE]) (hok : cfg.ok = true)
    (hcmd : t ∈ cfg.cmds) (huncmd : t ∈ cfg.uncmds) {x : InhibitType × InhibitType × List Ran}
    (h : Follow t x) (t' : InhibitType) :
    Follow t (hear (onChange cfg) x t') := by
  unfold StateChanges.hear noted onChange
  by_cases hsame : t' = x.1
  · rw [if_pos hsame, hsame]
    exact h
  · rw [if_neg hsame, if_pos hok]
    obtain ⟨halternate, hcurrent⟩ := h.alternate.snoc h.current (hasType t' t)
    rw [← h.last, ← ranFor_edges ht hcmd huncmd (hasType x.2.1) (hasType t'), ← ranFor_append]
      at halternate hcurrent
    exact ⟨rfl, halternate, hcurrent⟩

end UserCommandsInhibitInterface

namespace Wiring

open UserCommandsInhibitInterface (Params construct ranFor Alternate hasType Follow)

variable {σ : Type} {w : Wiring σ} {others : ℕ → Ids σ} {mask : ℕ → InhibitType}

end Wiring

/-! ## A screensaver's client and the user's commands -/

namespace UserCommandsInhibitInterface

/-- The cookies up to the last one are used. -/
def ids (instanceId : UInt64) : Ids Fields where
  own id := ∃ c, id = mkId instanceId c
  used id s := ∀ c, id = mkId instanceId c → c.toNat ≤ s.lastCookie.toNat
  room s := s.lastCookie.toNat + 1 < 2 ^ 64

lemma lastCookie_stateChanged (cfg : Commands) (t : InhibitType) (i : Inhibit) (s : Fields) :
    (handleInhibitStateChanged cfg t i s).lastCookie = s.lastCookie := by
  cases hok : cfg.ok with
  | true => rw [handleInhibitStateChanged_eq cfg hok]
  | false =>
    unfold handleInhibitStateChanged
    rw [if_pos (by simp [hok])]

lemma obeys (cfg : Commands) (instanceId : UInt64) :
    (overrides cfg instanceId).Obeys (ids instanceId) where
  fresh now r s i hroom hi := by
    have hid : i.id = mkId instanceId (nextCookie s.lastCookie) :=
      congrArg Inhibit.id (Except.ok.inj hi).symm
    have hnext : (nextCookie s.lastCookie).toNat = s.lastCookie.toNat + 1 := toNat_nextCookie hroom
    refine ⟨⟨_, hid⟩, fun hused => ?_, fun c hc => ?_⟩
    · have hle := hused _ hid
      omega
    · rw [← mkId_inj (hid.symm.trans hc)]
      exact le_refl _
  inhibit now r s id hroom hid c hc := by
    have hnext : (nextCookie s.lastCookie).toNat = s.lastCookie.toNat + 1 := toNat_nextCookie hroom
    have hle := hid c hc
    show c.toNat ≤ (nextCookie s.lastCookie).toNat
    omega
  unInhibit _ _ s := .refl s
  inhibitEvent _ s := .refl s
  unInhibitEvent _ s := .refl s
  stateChanged t i s := by
    have hkept := lastCookie_stateChanged cfg t i s
    refine ⟨fun id hid c hc => ?_, fun hroom => ?_⟩
    · show c.toNat ≤ (handleInhibitStateChanged cfg t i s).lastCookie.toNat
      rw [hkept]
      exact hid c hc
    · show (handleInhibitStateChanged cfg t i s).lastCookie.toNat + 1 < 2 ^ 64
      rw [hkept]
      exact hroom

lemma instanceID_mkId (instanceId c : UInt64) :
    OwnerId.instanceID (mkId instanceId c) = instanceId := by
  have hlt := instanceId.toNat_lt
  unfold OwnerId.instanceID mkId
  rw [List.take_left' (CStruct.length_leBytes 8 _), CStruct.leValue_leBytes,
    Nat.mod_eq_of_lt (by omega)]
  exact UInt64.ofNat_toNat

end UserCommandsInhibitInterface

namespace Wiring

/-- The screensaver, and commands of the user. -/
def commanded : Wiring (OwnerFields × UserCommandsInhibitInterface.Fields) where
  part := Part.fst
  kind k := if k = 0 then some OwnerKind.exampleScreenSaver else none
  other k := if k = 1 then
      (UserCommandsInhibitInterface.overrides
        (UserCommandsInhibitInterface.construct UserCommandsInhibitInterface.exampleParams)
        1).within Part.snd
    else { doInhibit := fun _ _ s => (.error .unsupportedType, s) }
  mName _ := lit ":1.0"
  implementation k K h := by
    split at h
    · cases h
      rfl
    · cases h
  instances j k J K hJ hK _ := by
    split at hJ <;> split at hK
    · rename_i hj hk
      rw [hj, hk]
    · cases hK
    · cases hJ
    · cases hJ
  inhibits k now r s e h := by
    split at h
    · cases h
    · cases h
      exact .inl rfl
  unInhibits k b id s e h := by
    split at h <;> cases h

/-- The user's commands count cookies. -/
def commandedOthers (k : ℕ) : Ids (OwnerFields × UserCommandsInhibitInterface.Fields) :=
  if k = 1 then (UserCommandsInhibitInterface.ids 1).within Part.snd
  else { own := fun _ => False, used := fun _ _ => False, room := fun _ => True }

def commandedMask (k : ℕ) : InhibitType :=
  if k = 0 then InhibitType.SCREENSAVER
  else if k = 1 then BitVec.allOnes 32 else InhibitType.NONE

lemma commanded_kind {k : ℕ} (hk : k ≠ 0) : commanded.kind k = none := if_neg hk

lemma commanded_disciplined : commanded.Disciplined commandedOthers commandedMask where
  mirrors k := by
    by_cases h0 : k = 0
    · subst h0
      have hmirrors : OwnerKind.exampleScreenSaver.toClass.overrides.Mirrors
          InhibitType.SCREENSAVER := SimpleDBusInhibitInterface.mirrors rfl (.inl rfl)
      exact hmirrors.within Part.fst
    · rw [commanded.overrides_other (commanded_kind h0)]
      unfold commanded commandedMask
      dsimp only
      rw [if_neg h0]
      by_cases h1 : k = 1
      · rw [if_pos h1, if_pos h1]
        exact (UserCommandsInhibitInterface.mirrors _ 1 _).within Part.snd
      · rw [if_neg h1, if_neg h1]
        exact fun now r s => .inr ⟨rfl, BitVec.and_zero⟩
  obeys k hk := by
    unfold commanded commandedOthers
    dsimp only
    by_cases h1 : k = 1
    · rw [if_pos h1, if_pos h1]
      exact (UserCommandsInhibitInterface.obeys _ 1).within Part.snd
    · rw [if_neg h1, if_neg h1]
      exact
        { fresh := fun _ _ _ _ _ h => by cases h
          inhibit := fun _ _ _ _ _ h => h.elim
          unInhibit := fun _ _ s => .refl s
          inhibitEvent := fun _ s => .refl s
          unInhibitEvent := fun _ s => .refl s
          stateChanged := fun _ _ s => .refl s }
  returns k b id s _ := by
    unfold commanded
    dsimp only
    split <;> rfl
  apart j k id _ _ hj hk := by
    have hone : ∀ l, (commandedOthers l).own id → l = 1 := by
      intro l hl
      unfold commandedOthers at hl
      split at hl
      · assumption
      · exact hl.elim
    rw [hone j hj, hone k hk]
  mine k id hk hown := by
    have hinstance : OwnerId.instanceID id = 1 := by
      unfold commandedOthers at hown
      split at hown
      · obtain ⟨c, rfl⟩ := hown
        exact UserCommandsInhibitInterface.instanceID_mkId 1 c
      · exact hown.elim
    intro j J hJ
    have hj : j = 0 := by
      by_contra hne
      rw [commanded_kind hne] at hJ
      cases hJ
    subst hj
    obtain rfl : OwnerKind.exampleScreenSaver = J := Option.some.inj hJ
    rw [hinstance]
    refine iff_of_false (by decide) ?_
    rintro rfl
    cases hk

def commandedDaemon : Daemon (OwnerFields × UserCommandsInhibitInterface.Fields) :=
  { inhibitors := [0, 1], object := fun _ => { sub := ({}, {}) } }

lemma commanded_initial : commanded.Initial commandedDaemon where
  activeInhibits _ := rfl
  releasePlan := rfl
  fields _ _ _ := rfl

lemma commanded_meets : Transition.Along commanded.step (commanded.Meets commandedOthers)
    { daemon := commandedDaemon } pairEvents := by
  refine ⟨⟨fun K hK => ?_, fun k => ?_, by decide⟩, trivial⟩
  · obtain rfl : OwnerKind.exampleScreenSaver = K := Option.some.inj hK
    exact OwnerKind.truthful_inhibitCall (by decide) OwnerKind.clientName_one _ _ _
  · by_cases h0 : k = 0
    · subst h0
      show (0 : UInt32).toNat + 1 < 2 ^ 32
      decide
    · rw [ids_other (commanded_kind h0)]
      unfold commandedOthers
      by_cases h1 : k = 1
      · rw [if_pos h1]
        show (0 : UInt64).toNat + 1 < 2 ^ 64
        decide
      · rw [if_neg h1]
        trivial

end Wiring

end UnifiedInhibit
