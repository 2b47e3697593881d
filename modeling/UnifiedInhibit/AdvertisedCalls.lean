import UnifiedInhibit.CallReplies
import UnifiedInhibit.IntrospectionTexts

/-!
# Calls that an interface advertises

A call is advertised if the object it goes to lists the method in its answer to `Introspect`, with
the types of the call's arguments. Such a call should run one handler, and that handler should
answer it once.
-/

namespace UnifiedInhibit

open DBus (Arg Message Dispatcher MethodCB lookup lookup_head lookup_skip)

/-! ## Signatures -/

namespace DBus

/-- The type of an argument. -/
def Arg.signature : Arg → List Char
  | .string _ => ['s']
  | .uint32 _ => ['u']
  | .boolean _ => ['b']
  | .objectPath _ => ['o']
  | .objectPaths _ => ['a', 'o']
  | .unixFd _ => ['h']
  | .inhibitorList _ => ['a', '(', 's', 's', 's', 's', 'u', 'u', ')']

/-- The types of the arguments of a message. -/
def signature (args : List Arg) : List Char := args.flatMap Arg.signature

lemma signature_cons (a : Arg) (args : List Arg) :
    signature (a :: args) = a.signature ++ signature args := List.flatMap_cons ..

lemma eq_nil_of_signature {args : List Arg} (h : signature args = []) : args = [] := by
  cases args with
  | nil => rfl
  | cons a args =>
    rw [signature_cons] at h
    cases a <;> simp [Arg.signature] at h

lemma string_of_signature {args : List Arg} {types : List Char}
    (h : signature args = 's' :: types) :
    ∃ s rest, args = .string s :: rest ∧ signature rest = types := by
  cases args with
  | nil => simp [signature] at h
  | cons a args =>
    rw [signature_cons] at h
    cases a <;> simp [Arg.signature] at h
    exact ⟨_, args, rfl, h⟩

lemma uint32_of_signature {args : List Arg} {types : List Char}
    (h : signature args = 'u' :: types) :
    ∃ n rest, args = .uint32 n :: rest ∧ signature rest = types := by
  cases args with
  | nil => simp [signature] at h
  | cons a args =>
    rw [signature_cons] at h
    cases a <;> simp [Arg.signature] at h
    exact ⟨_, args, rfl, h⟩

/-! ## Looking a method up -/

section Lookup

variable {α : Type} {interface member : α → String} {msg : Message} {i : String}

/-- Nothing is found under an interface that the table does not have. -/
lemma lookup_foreign (hi : msg.interface = some i) {as : List α}
    (h : ∀ a ∈ as, interface a ≠ i) : lookup interface member msg as = .ok none := by
  induction as with
  | nil => rfl
  | cons a as ih =>
    rw [lookup_skip as hi fun hboth => h a List.mem_cons_self hboth.2]
    exact ih fun b hb => h b (List.mem_cons_of_mem a hb)

/-- What stands in the table is found, if no two entries have the same interface and member. -/
lemma lookup_of_nodup {as : List α} (hnodup : (as.map fun a => (interface a, member a)).Nodup)
    {a : α} (ha : a ∈ as) (hi : msg.interface = some (interface a))
    (hmember : msg.member = member a) : lookup interface member msg as = .ok (some a) := by
  induction as with
  | nil => cases ha
  | cons b bs ih =>
    rw [List.map_cons, List.nodup_cons] at hnodup
    rcases List.mem_cons.mp ha with rfl | ha
    · exact lookup_head bs hmember.symm hi
    · rw [lookup_skip bs hi fun hboth => hnodup.1 ?_]
      · exact ih hnodup.2 ha
      · rw [hboth.1, hboth.2, hmember]
        exact List.mem_map_of_mem ha

end Lookup

end DBus

section Calls

variable {W ρ : Type} (D : Dispatcher W) (this : This W ρ) (sent : ρ → List Sent)
  (s : DBus.State W)

/-- The object at `path` answers an `Introspect` with the text `xml`. -/
def Introspects (path xml : Bytes) : Prop :=
  ∃ q : Message, q.type = .methodCall ∧
    q.interface = some "org.freedesktop.DBus.Introspectable" ∧ q.member = "Introspect" ∧
    q.path = path ∧ returned this sent (D.deliver s q).world =
      returned this sent s.world ++ [.methodReturn q [.string xml]]

/-- The object that the call goes to lists its method, with the types of its arguments. -/
def Advertised (msg : Message) : Prop :=
  ∃ i xml, msg.interface = some i ∧ Introspects D this sent s msg.path xml ∧
    ⟨i.toList, msg.member.toList, DBus.signature msg.args⟩ ∈ Introspection.methodsOf (text xml)

/-- One handler runs, and it sends one method return, for the call. -/
def AnsweredOnce (msg : Message) : Prop :=
  (D.deliver s msg).invoked = s.invoked ++ [(msg, none)] ∧
    Replies this sent msg s.world (D.deliver s msg).world

variable {D this sent s} {msg : Message} (hcall : msg.type = .methodCall)

lemma deliver_unobserved (h : ¬ D.Observed msg) : D.deliver s msg = s := by
  unfold Dispatcher.deliver Dispatcher.dispatch
  by_cases hname : msg.sender = D.mName
  · rw [if_pos hname]
  · have hname2 : msg.sender = D.mName2 := by
      by_contra hne
      exact h ⟨hname, hne⟩
    rw [if_neg hname, if_pos hname2]

include hcall

lemma deliver_notFound (h : lookup MethodCB.interface MethodCB.member msg D.myMethods = .ok none) :
    D.deliver s msg = s := by
  by_cases hobs : D.Observed msg
  · unfold Dispatcher.deliver Dispatcher.dispatch
    rw [if_neg hobs.1, if_neg hobs.2, hcall]
    dsimp only
    rw [h]
  · exact deliver_unobserved hobs

/-- What is left of the statement once the handler is found. -/
lemma answeredOnce_iff (hmon : D.monitor = false) {method : MethodCB W}
    (h : lookup MethodCB.interface MethodCB.member msg D.myMethods = .ok (some method)) :
    AnsweredOnce D this sent s msg ↔
      D.Observed msg ∧ Replies this sent msg s.world (method.callback msg none s.world).2 := by
  unfold AnsweredOnce
  by_cases hobs : D.Observed msg
  · rw [DBus.deliver_method hmon hobs hcall h]
    exact ⟨fun hall => ⟨hobs, hall.2⟩, fun hall => ⟨rfl, hall.2⟩⟩
  · rw [deliver_unobserved hobs]
    exact iff_of_false (fun hall => not_replies rfl hall.2) fun hall => hobs hall.1

lemma not_answeredOnce
    (h : lookup MethodCB.interface MethodCB.member msg D.myMethods = .ok none) :
    ¬ AnsweredOnce D this sent s msg := by
  unfold AnsweredOnce
  rw [deliver_notFound hcall h]
  exact fun hall => not_replies rfl hall.2

omit hcall in
/-- A description is what the handler of `Introspect` sends. -/
lemma Introspects.handled {path xml : Bytes} (h : Introspects D this sent s path xml)
    (hmon : D.monitor = false) {method : MethodCB W}
    (hlookup : ∀ q : Message, q.interface = some "org.freedesktop.DBus.Introspectable" →
      q.member = "Introspect" →
      lookup MethodCB.interface MethodCB.member q D.myMethods = .ok (some method)) :
    ∃ q : Message, q.path = path ∧ returned this sent (method.callback q none s.world).2 =
      returned this sent s.world ++ [.methodReturn q [.string xml]] := by
  obtain ⟨q, hqcall, hqi, hqm, hpath, hsent⟩ := h
  have hobs : D.Observed q := by
    by_contra hobs
    rw [deliver_unobserved hobs] at hsent
    exact not_replies rfl ⟨_, hsent⟩
  rw [DBus.deliver_method hmon hobs hqcall (hlookup q hqi hqm)] at hsent
  exact ⟨q, hpath, hsent⟩

end Calls

/-- A reply among the two that depend on the path has one of their texts. -/
lemma text_of_mem {a b : Prop} [Decidable a] [Decidable b] {q : Message} {xml xml₁ xml₂ : Bytes}
    (h : Sent.methodReturn q [.string xml] ∈
      (if a then [Sent.methodReturn q [.string xml₁]] else []) ++
        if b then [Sent.methodReturn q [.string xml₂]] else []) : xml = xml₁ ∨ xml = xml₂ := by
  rcases List.mem_append.mp h with hmem | hmem
  · left
    split at hmem
    · simpa using hmem
    · exact absurd hmem List.not_mem_nil
  · right
    split at hmem
    · simpa using hmem
    · exact absurd hmem List.not_mem_nil

end UnifiedInhibit
