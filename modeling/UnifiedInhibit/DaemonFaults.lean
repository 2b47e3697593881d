import UnifiedInhibit.DaemonTheorems

/-!
# Faults while forwarding

`inhibitCB` catches a refused type inside its loop, but an unresponsive interface outside of it.
`called` lists the interfaces that the loop gets to and `forward_calledSpec` says what it does to
them; `forwardsToAll_iff` turns this into the exact condition under which every other interface is
told.
-/

namespace UnifiedInhibit
namespace Daemon

variable {σ : Type} {v : ℕ → Overrides σ}

/-- What `doInhibit(r)` of the interface `ai` returns or throws in the state `d`. -/
def answer (v : ℕ → Overrides σ) (now : ℕ) (r : InhibitRequest) (d : Daemon σ) (ai : ℕ) :
    Except Exn Inhibit :=
  ((v ai).doInhibit now r (d.object ai).sub).1

/-- The interface returns, refuses the type or gets no response. -/
def Answers (v : ℕ → Overrides σ) (now : ℕ) (r : InhibitRequest) (d : Daemon σ) (ai : ℕ) : Prop :=
  (∃ c, answer v now r d ai = .ok c) ∨ answer v now r d ai = .error .unsupportedType ∨
    answer v now r d ai = .error .noResponse

/-- The interfaces that the forwarding loop calls: those other than the originator, up to the
first that does not respond. -/
def called (v : ℕ → Overrides σ) (now inhibitor : ℕ) (r : InhibitRequest) (d : Daemon σ) :
    List ℕ → List ℕ
  | [] => []
  | ai :: ais =>
    if ai ≠ inhibitor then
      match answer v now r d ai with
      | .error .noResponse => [ai]
      | _ => ai :: called v now inhibitor r d ais
    else called v now inhibitor r d ais

lemma called_cons (now inhibitor : ℕ) (r : InhibitRequest) (d : Daemon σ) (ai : ℕ)
    (ais : List ℕ) :
    called v now inhibitor r d (ai :: ais) =
      if ai ≠ inhibitor then
        match answer v now r d ai with
        | .error .noResponse => [ai]
        | _ => ai :: called v now inhibitor r d ais
      else called v now inhibitor r d ais := rfl

/-! ## One call -/

lemma inhibitAt_fst (now ai : ℕ) (r : InhibitRequest) (d : Daemon σ) :
    (inhibitAt v now ai r d).1 = answer v now r d ai := by
  rcases hdo : (v ai).doInhibit now r (d.object ai).sub with ⟨res, s⟩
  simp only [inhibitAt, InhibitInterface.inhibit, answer, hdo]
  cases res <;> rfl

lemma object_inhibitAt_of_ne {ai b : ℕ} (h : b ≠ ai) (now : ℕ) (r : InhibitRequest)
    (d : Daemon σ) : (inhibitAt v now ai r d).2.object b = d.object b := by
  simp only [inhibitAt, setObject]
  exact Function.update_of_ne h _ _

lemma calls_inhibitAt (now ai : ℕ) (r : InhibitRequest) (d : Daemon σ) :
    (inhibitAt v now ai r d).2.calls = d.calls ++ [(ai, r)] := rfl

lemma answer_congr {d d' : Daemon σ} {ai : ℕ} (h : d'.object ai = d.object ai) (now : ℕ)
    (r : InhibitRequest) : answer v now r d' ai = answer v now r d ai := by
  unfold answer
  rw [h]

lemma called_congr {d d' : Daemon σ} (now inhibitor : ℕ) (r : InhibitRequest) (ais : List ℕ)
    (h : ∀ b ∈ ais, d'.object b = d.object b) :
    called v now inhibitor r d' ais = called v now inhibitor r d ais := by
  induction ais with
  | nil => rfl
  | cons ai ais ih =>
    unfold called
    rw [answer_congr (h ai List.mem_cons_self),
      ih fun b hb => h b (List.mem_cons_of_mem _ hb)]

lemma called_subset (now inhibitor : ℕ) (r : InhibitRequest) (d : Daemon σ) (ais : List ℕ) :
    ∀ b ∈ called v now inhibitor r d ais, b ∈ ais ∧ b ≠ inhibitor := by
  induction ais with
  | nil => exact fun b hb => absurd hb List.not_mem_nil
  | cons ai ais ih =>
    intro b hb
    unfold called at hb
    split at hb
    · rename_i hai
      split at hb
      · rw [List.mem_singleton] at hb
        exact ⟨by rw [hb]; exact List.mem_cons_self, by rw [hb]; exact hai⟩
      · rcases List.mem_cons.mp hb with rfl | hb
        · exact ⟨List.mem_cons_self, hai⟩
        · exact ⟨List.mem_cons_of_mem _ (ih b hb).1, (ih b hb).2⟩
    · exact ⟨List.mem_cons_of_mem _ (ih b hb).1, (ih b hb).2⟩

/-! ## The loop -/

/-- What the loop does to the interfaces `bs` it calls: each is called once with `r`, and each that
grants the request has the copy active, unless it already had that id, and planned under `o`. -/
structure CalledSpec (v : ℕ → Overrides σ) (now : ℕ) (r : InhibitRequest) (o : InhibitID)
    (bs : List ℕ) (d d' : Daemon σ) : Prop where
  calls : d'.calls = d.calls ++ bs.map fun b => (b, r)
  granted : ∀ b ∈ bs, ∀ c, answer v now r d b = .ok c →
    d'.active b c.id = some ((d.active b c.id).getD c)
  planned : ∀ b ∈ bs, ∀ c, answer v now r d b = .ok c → (b, c.id) ∈ d'.planOf o
  plan_kept : ∀ o' p, p ∈ d.planOf o' → p ∈ d'.planOf o'
  object_kept : ∀ b ∉ bs, d'.object b = d.object b

/-- A call that threw, in front of the calls `bs`. -/
lemma CalledSpec.cons_error {now ai : ℕ} {r : InhibitRequest} {o : InhibitID} {bs : List ℕ}
    {d d' : Daemon σ} {e : Exn} (hans : answer v now r d ai = .error e) (hnot : ai ∉ bs)
    (h : CalledSpec v now r o bs (inhibitAt v now ai r d).2 d') :
    CalledSpec v now r o (ai :: bs) d d' := by
  have hobj : ∀ b ∈ bs, (inhibitAt v now ai r d).2.object b = d.object b := fun b hb =>
    object_inhibitAt_of_ne (fun heq : b = ai => hnot (heq ▸ hb)) now r d
  refine ⟨?_, ?_, ?_, ?_, ?_⟩
  · rw [h.calls, calls_inhibitAt, List.append_assoc, List.map_cons, List.singleton_append]
  · intro b hb c hc
    rcases List.mem_cons.mp hb with rfl | hb
    · rw [hans] at hc
      cases hc
    · rw [← answer_congr (hobj b hb)] at hc
      rw [h.granted b hb c hc]
      unfold active
      rw [hobj b hb]
  · intro b hb c hc
    rcases List.mem_cons.mp hb with rfl | hb
    · rw [hans] at hc
      cases hc
    · rw [← answer_congr (hobj b hb)] at hc
      exact h.planned b hb c hc
  · exact fun o' p hp => h.plan_kept o' p hp
  · intro b hb
    rw [List.mem_cons, not_or] at hb
    rw [h.object_kept b hb.2, object_inhibitAt_of_ne hb.1]

/-- A call that granted the request, in front of the calls `bs`. -/
lemma CalledSpec.cons_ok {now ai : ℕ} {r : InhibitRequest} {o : InhibitID} {bs : List ℕ}
    {d d' : Daemon σ} {c : Inhibit} (hans : answer v now r d ai = .ok c) (hnot : ai ∉ bs)
    (h : CalledSpec v now r o bs ((inhibitAt v now ai r d).2.pushRelease o (ai, c.id)) d') :
    CalledSpec v now r o (ai :: bs) d d' := by
  have hobj : ∀ b ≠ ai, ((inhibitAt v now ai r d).2.pushRelease o (ai, c.id)).object b =
      d.object b := fun b hb => object_inhibitAt_of_ne hb now r d
  have hne : ∀ b ∈ bs, b ≠ ai := fun b hb heq => hnot (heq ▸ hb)
  refine ⟨?_, ?_, ?_, ?_, ?_⟩
  · rw [h.calls]
    show (d.calls ++ [(ai, r)]) ++ _ = _
    rw [List.append_assoc, List.map_cons, List.singleton_append]
  · intro b hb c' hc
    rcases List.mem_cons.mp hb with rfl | hb
    · rw [hans] at hc
      cases hc
      -- the rest of the loop does not touch this interface any more
      have hact := active_inhibitAt_ok ((inhibitAt_fst (v := v) now b r d).trans hans) b c.id
      unfold active at hact ⊢
      rw [h.object_kept b hnot]
      refine hact.trans ?_
      split
      · rename_i hfree
        rw [hfree.2.2]
        rfl
      · rename_i hused
        cases hsome : (d.object b).activeInhibits[c.id]? with
        | none => exact absurd ⟨rfl, rfl, hsome⟩ hused
        | some i => rfl
    · rw [← answer_congr (hobj b (hne b hb))] at hc
      rw [h.granted b hb c' hc]
      unfold active
      rw [hobj b (hne b hb)]
  · intro b hb c' hc
    rcases List.mem_cons.mp hb with rfl | hb
    · rw [hans] at hc
      cases hc
      apply h.plan_kept
      rw [planOf_pushRelease, if_pos rfl]
      exact List.mem_append_right _ (List.mem_singleton_self _)
    · rw [← answer_congr (hobj b (hne b hb))] at hc
      exact h.planned b hb c' hc
  · intro o' p hp
    apply h.plan_kept
    rw [planOf_pushRelease]
    split
    · rename_i heq
      rw [heq] at hp
      exact List.mem_append_left _ hp
    · exact hp
  · intro b hb
    rw [List.mem_cons, not_or] at hb
    rw [h.object_kept b hb.2, hobj b hb.1]

lemma CalledSpec.nil (now : ℕ) (r : InhibitRequest) (o : InhibitID) (d : Daemon σ) :
    CalledSpec v now r o [] d d where
  calls := (List.append_nil _).symm
  granted _ hb := absurd hb List.not_mem_nil
  planned _ hb := absurd hb List.not_mem_nil
  plan_kept _ _ hp := hp
  object_kept _ _ := rfl

/-- The forwarding loop calls exactly the interfaces in `called`. -/
lemma forward_calledSpec (now inhibitor : ℕ) (i : Inhibit) (ais : List ℕ) (d : Daemon σ)
    (hnodup : ais.Nodup)
    (hans : ∀ ai ∈ ais, ai ≠ inhibitor → Answers v now i.toInhibitRequest d ai) :
    ((forward v now inhibitor i ais d).1 = .ok () ∨
      (forward v now inhibitor i ais d).1 = .error .noResponse) ∧
      CalledSpec v now i.toInhibitRequest i.id
        (called v now inhibitor i.toInhibitRequest d ais) d
        (forward v now inhibitor i ais d).2 := by
  induction ais generalizing d with
  | nil => exact ⟨Or.inl rfl, CalledSpec.nil _ _ _ _⟩
  | cons ai ais ih =>
    obtain ⟨hnot, hnodup⟩ := List.nodup_cons.mp hnodup
    -- the rest of the loop runs in a state that differs at `ai` only
    have hrest : ∀ d' : Daemon σ, (∀ b ≠ ai, d'.object b = d.object b) →
        called v now inhibitor i.toInhibitRequest d' ais =
          called v now inhibitor i.toInhibitRequest d ais ∧
        ∀ b ∈ ais, b ≠ inhibitor → Answers v now i.toInhibitRequest d' b := by
      intro d' hobj
      have hobj' : ∀ b ∈ ais, d'.object b = d.object b := fun b hb =>
        hobj b fun heq => hnot (heq ▸ hb)
      refine ⟨called_congr now inhibitor _ ais hobj', fun b hb hne => ?_⟩
      unfold Answers
      rw [answer_congr (hobj' b hb)]
      exact hans b (List.mem_cons_of_mem _ hb) hne
    have hnot' : ai ∉ called v now inhibitor i.toInhibitRequest d ais := fun hmem =>
      hnot (called_subset now inhibitor _ d ais ai hmem).1
    unfold forward called
    by_cases hai : ai ≠ inhibitor
    · rw [if_pos hai, if_pos hai]
      have hfst := inhibitAt_fst (v := v) now ai i.toInhibitRequest d
      have hobj : ∀ b ≠ ai, (inhibitAt v now ai i.toInhibitRequest d).2.object b = d.object b :=
        fun b hb => object_inhibitAt_of_ne hb now _ d
      rcases hans ai List.mem_cons_self hai with ⟨c, hc⟩ | hrefuse | hsilent
      · obtain ⟨hcalled, hans'⟩ := hrest
          ((inhibitAt v now ai i.toInhibitRequest d).2.pushRelease i.id (ai, c.id)) hobj
        obtain ⟨hres, hspec⟩ := ih _ hnodup hans'
        rw [hcalled] at hspec
        have hspec := CalledSpec.cons_ok hc hnot' hspec
        rw [hc] at hfst ⊢
        rcases hat : inhibitAt v now ai i.toInhibitRequest d with ⟨res, d₁⟩
        rw [hat] at hfst hres hspec
        dsimp only at hfst
        subst hfst
        exact ⟨hres, hspec⟩
      · obtain ⟨hcalled, hans'⟩ := hrest (inhibitAt v now ai i.toInhibitRequest d).2 hobj
        obtain ⟨hres, hspec⟩ := ih _ hnodup hans'
        rw [hcalled] at hspec
        have hspec := CalledSpec.cons_error hrefuse hnot' hspec
        rw [hrefuse] at hfst ⊢
        rcases hat : inhibitAt v now ai i.toInhibitRequest d with ⟨res, d₁⟩
        rw [hat] at hfst hres hspec
        dsimp only at hfst
        subst hfst
        exact ⟨hres, hspec⟩
      · have hspec : CalledSpec v now i.toInhibitRequest i.id [ai] d
            (inhibitAt v now ai i.toInhibitRequest d).2 :=
          CalledSpec.cons_error hsilent List.not_mem_nil (CalledSpec.nil _ _ _ _)
        rw [hsilent] at hfst ⊢
        rcases hat : inhibitAt v now ai i.toInhibitRequest d with ⟨res, d₁⟩
        rw [hat] at hfst hspec
        dsimp only at hfst
        subst hfst
        exact ⟨Or.inr rfl, hspec⟩
    · rw [if_neg hai, if_neg hai]
      exact ih d hnodup fun b hb => hans b (List.mem_cons_of_mem _ hb)

/-- The loop gets to every interface other than the originator exactly when nobody but the
originator follows an interface without response. -/
lemma all_called_iff (now inhibitor : ℕ) (r : InhibitRequest) (d : Daemon σ) (ais : List ℕ)
    (hnodup : ais.Nodup) :
    (∀ b ∈ ais, b ≠ inhibitor → b ∈ called v now inhibitor r d ais) ↔
      ∀ pre ai post, ais = pre ++ ai :: post → ai ≠ inhibitor →
        answer v now r d ai = .error .noResponse → ∀ b ∈ post, b = inhibitor := by
  induction ais with
  | nil =>
    refine ⟨fun _ pre ai post h => ?_, fun _ b hb => absurd hb List.not_mem_nil⟩
    exact absurd h.symm (by simp)
  | cons ai ais ih =>
    obtain ⟨hnot, hnodup⟩ := List.nodup_cons.mp hnodup
    specialize ih hnodup
    -- the head decides by itself whether the rest is called
    have hsplit : (∀ pre b post, ai :: ais = pre ++ b :: post → b ≠ inhibitor →
        answer v now r d b = .error .noResponse → ∀ x ∈ post, x = inhibitor) ↔
        (ai ≠ inhibitor → answer v now r d ai = .error .noResponse → ∀ x ∈ ais, x = inhibitor) ∧
        ∀ pre b post, ais = pre ++ b :: post → b ≠ inhibitor →
          answer v now r d b = .error .noResponse → ∀ x ∈ post, x = inhibitor := by
      constructor
      · intro h
        refine ⟨h [] ai ais rfl, fun pre b post heq => h (ai :: pre) b post ?_⟩
        rw [heq, List.cons_append]
      · rintro ⟨hhead, htail⟩ pre b post heq
        cases pre with
        | nil =>
          obtain ⟨rfl, rfl⟩ := List.cons.inj heq
          exact hhead
        | cons p pre => exact htail pre b post (List.cons.inj heq).2
    rw [hsplit, ← ih, called_cons]
    by_cases hai : ai ≠ inhibitor
    · rw [if_pos hai]
      split
      · rename_i hsilent
        constructor
        · intro h
          have hall : ∀ x ∈ ais, x = inhibitor := by
            intro x hx
            by_contra hne
            have := List.mem_singleton.mp (h x (List.mem_cons_of_mem _ hx) hne)
            exact hnot (this ▸ hx)
          exact ⟨fun _ _ => hall, fun b hb hne => absurd (hall b hb) hne⟩
        · rintro ⟨hhead, -⟩ b hb hne
          rcases List.mem_cons.mp hb with rfl | hb
          · exact List.mem_singleton_self _
          · exact absurd (hhead hai hsilent b hb) hne
      · rename_i hresp
        constructor
        · intro h
          refine ⟨fun _ hsilent => absurd hsilent hresp, fun b hb hne => ?_⟩
          rcases List.mem_cons.mp (h b (List.mem_cons_of_mem _ hb) hne) with rfl | hmem
          · exact absurd hb hnot
          · exact hmem
        · rintro ⟨-, h⟩ b hb hne
          rcases List.mem_cons.mp hb with rfl | hb
          · exact List.mem_cons_self
          · exact List.mem_cons_of_mem _ (h b hb hne)
    · rw [if_neg hai]
      constructor
      · exact fun h => ⟨fun hne => absurd hne hai, fun b hb => h b (List.mem_cons_of_mem _ hb)⟩
      · rintro ⟨-, h⟩ b hb hne
        rcases List.mem_cons.mp hb with rfl | hb
        · exact absurd hne hai
        · exact h b hb hne

/-! ## One `inhibitCB` -/

/-- `inhibitCB(inhibitor, i)` calls `inhibit` on every other interface, and each that does not
throw ends with its copy active and planned for release with `i`. -/
def ForwardsToAll (v : ℕ → Overrides σ) (now inhibitor : ℕ) (i : Inhibit) (d : Daemon σ) : Prop :=
  let d' := (inhibitCB v now inhibitor i d).2
  ∃ log, d'.calls = d.calls ++ log ∧
    ∀ ai ∈ d.inhibitors, ai ≠ inhibitor → (ai, i.toInhibitRequest) ∈ log ∧
      ∀ c, answer v now i.toInhibitRequest d ai = .ok c →
        d'.active ai c.id = some c ∧ (ai, c.id) ∈ d'.planOf i.id

/-- An unresponsive interface must not be followed by any interface but the originator; then, and
only then, all are told. (A copy can still be lost at an interface that already uses its id.) -/
theorem forwardsToAll_iff (now inhibitor : ℕ) (i : Inhibit) (d : Daemon σ)
    (hnodup : d.inhibitors.Nodup)
    (hans : ∀ ai ∈ d.inhibitors, ai ≠ inhibitor → Answers v now i.toInhibitRequest d ai) :
    ForwardsToAll v now inhibitor i d ↔
      (∀ pre ai post, d.inhibitors = pre ++ ai :: post → ai ≠ inhibitor →
        answer v now i.toInhibitRequest d ai = .error .noResponse → ∀ b ∈ post, b = inhibitor) ∧
      ∀ ai ∈ d.inhibitors, ai ≠ inhibitor → ∀ c, answer v now i.toInhibitRequest d ai = .ok c →
        d.active ai c.id = none ∨ d.active ai c.id = some c := by
  obtain ⟨hres, hspec⟩ := forward_calledSpec now inhibitor i d.inhibitors d hnodup hans
  -- either way the callback ends after the loop with `printInhibited`
  have hcb : (inhibitCB v now inhibitor i d).2 =
      (forward v now inhibitor i d.inhibitors d).2.printInhibited := by
    unfold inhibitCB
    rcases hfw : forward v now inhibitor i d.inhibitors d with ⟨res, d'⟩
    rw [hfw] at hres
    rcases hres with hok | hsilent
    · dsimp only at hok
      rw [hok]
    · dsimp only at hsilent
      rw [hsilent]
  have hcopy : ∀ x c : Inhibit, ∀ a : Option Inhibit, a = some x →
      (some (a.getD c) = some c ↔ a = none ∨ a = some c) := by
    rintro x c a rfl
    simp
  rw [← all_called_iff now inhibitor _ d d.inhibitors hnodup]
  unfold ForwardsToAll
  simp only [hcb, calls_printInhibited, active_printInhibited, planOf_printInhibited, hspec.calls,
    List.append_cancel_left_eq, exists_eq_left', List.mem_map, Prod.mk.injEq, and_true,
    exists_eq_right]
  constructor
  · intro h
    refine ⟨fun b hb hne => (h b hb hne).1, fun b hb hne c hc => ?_⟩
    have hact := ((h b hb hne).2 c hc).1
    rw [hspec.granted b (h b hb hne).1 c hc] at hact
    cases ha : d.active b c.id with
    | none => exact Or.inl rfl
    | some x => exact ha ▸ (hcopy x c _ ha).mp hact
  · rintro ⟨hall, hfree⟩ b hb hne
    refine ⟨hall b hb hne, fun c hc => ⟨?_, hspec.planned b (hall b hb hne) c hc⟩⟩
    rw [hspec.granted b (hall b hb hne) c hc]
    rcases hfree b hb hne c hc with ha | ha
    · rw [ha]
      rfl
    · rw [ha]
      rfl

/-- An interface whose peer never replies. -/
def silent : Overrides ℕ where
  doInhibit _ _ n := (.error .noResponse, n)

/-- An originator, an interface without response, and one that grants. -/
def trio : ℕ → Overrides ℕ := fun k => if k = 1 then silent else counting

/-- The three interfaces of `trio`, with the unresponsive one before (`[0, 1, 2]`) or after
(`[0, 2, 1]`) the granting one. -/
def idleTrio (inhibitors : List ℕ) : Daemon ℕ :=
  { inhibitors := inhibitors, object := fun _ => { sub := 0 } }

lemma trio_answers (i : Inhibit) (d : Daemon ℕ) (ai : ℕ) :
    Answers trio 0 i.toInhibitRequest d ai := by
  unfold Answers answer trio
  split
  · exact Or.inr (Or.inr rfl)
  · exact Or.inl ⟨_, rfl⟩

/-- The granting interface behind the unresponsive one is never called. -/
theorem forwardsToAll_fails :
    let i : Inhibit := { type := InhibitType.SCREENSAVER, id := [9] }
    (idleTrio [0, 1, 2]).inhibitors.Nodup ∧
      (∀ ai ∈ (idleTrio [0, 1, 2]).inhibitors, ai ≠ 0 →
        Answers trio 0 i.toInhibitRequest (idleTrio [0, 1, 2]) ai) ∧
      (inhibitCB trio 0 0 i (idleTrio [0, 1, 2])).2.calls = [(1, i.toInhibitRequest)] ∧
      ¬ ForwardsToAll trio 0 0 i (idleTrio [0, 1, 2]) := by
  intro i
  have hcalls : (inhibitCB trio 0 0 i (idleTrio [0, 1, 2])).2.calls =
      [(1, i.toInhibitRequest)] := by decide
  refine ⟨by decide, fun ai _ _ => trio_answers i _ ai, hcalls, ?_⟩
  rintro ⟨log, hlog, h⟩
  rw [hcalls] at hlog
  obtain ⟨hmem, -⟩ := h 2 (by decide) (by decide)
  have hnil : log = [(1, i.toInhibitRequest)] := hlog.symm
  rw [hnil] at hmem
  exact absurd hmem (by decide)

/-- With the unresponsive interface last, the granting one is told. -/
theorem forwardsToAll_trio :
    ForwardsToAll trio 0 0 { type := InhibitType.SCREENSAVER, id := [9] } (idleTrio [0, 2, 1]) := by
  refine (forwardsToAll_iff 0 0 _ (idleTrio [0, 2, 1]) (by decide)
    fun ai _ _ => trio_answers _ _ ai).mpr ⟨?_, fun ai _ _ c _ => Or.inl rfl⟩
  intro pre ai post hsplit hai hsilent
  -- only the interface 1 is unresponsive, and it stands last
  have hone : ai = 1 := by
    by_contra hne
    simp [answer, trio, hne, counting] at hsilent
  subst hone
  have hpost : post = [] := by
    rcases pre with _ | ⟨a, _ | ⟨b, _ | ⟨c, pre⟩⟩⟩ <;> simp [idleTrio] at hsplit
    exact hsplit.2.2
  rw [hpost]
  exact fun b hb => absurd hb List.not_mem_nil

end Daemon
end UnifiedInhibit
