import UnifiedInhibit.SystemdInhibitIds

/-!
# The locks that the daemon holds at login1

In monitor mode a forwarded inhibit is a lock of login1, which lasts as long as the descriptor that
login1 gave for it is open in the child. As long as no client's inhibit has the number of a
forwarded one, the child holds the locks of the forwarded inhibits and no others, each of them
asked for with the type and the strings of its inhibit.
-/

namespace UnifiedInhibit

open DBus (Message)

/-! ## Locks of the child -/

namespace SystemdInhibitFork

open NewlineMessageFork (newline)

/-- The `k`-th call of the child asks for what `c` says, or for its `idle` alone after login1 has
denied `c`. -/
def AskedFor (login1 : Login1) (s : State) (c : Call) (k : ℕ) : Prop :=
  s.calls[k]? = some c ∨
    ∃ j, k = j + 1 ∧ login1 j = .error DBus.accessDenied ∧ s.calls[j]? = some c ∧
      s.calls[k]? = some { c with what := justIdle c.what }

/-- The descriptor `n` of the child is the lock that login1 gave for `c` on the `k`-th call. -/
structure Lock (login1 : Login1) (s : State) (c : Call) (n k : ℕ) : Prop where
  asked : AskedFor login1 s c k
  given : ∃ file, login1 k = .ok (.fd file) ∧ s.fds[n]? = some file

variable {login1 : Login1} {s s' : State} {c : Call} {n k : ℕ}

lemma AskedFor.lt (h : AskedFor login1 s c k) : k < s.calls.length := by
  rcases h with hcall | ⟨j, -, -, -, hcall⟩
  · exact (List.getElem?_eq_some_iff.mp hcall).1
  · exact (List.getElem?_eq_some_iff.mp hcall).1

lemma AskedFor.mono (h : AskedFor login1 s c k) (hcalls : s.calls <+: s'.calls) :
    AskedFor login1 s' c k := by
  have hkept : ∀ {j : ℕ} {d : Call}, s.calls[j]? = some d → s'.calls[j]? = some d := by
    intro j d hj
    obtain ⟨rest, hrest⟩ := hcalls
    rw [← hrest, List.getElem?_append_left (List.getElem?_eq_some_iff.mp hj).1]
    exact hj
  rcases h with hcall | ⟨j, hk, hdenied, hfirst, hcall⟩
  · exact .inl (hkept hcall)
  · exact .inr ⟨j, hk, hdenied, hkept hfirst, hkept hcall⟩

/-- A lock stays as long as its number does. -/
lemma Lock.mono (h : Lock login1 s c n k) (hcalls : s.calls <+: s'.calls)
    (hfds : s'.fds[n]? = s.fds[n]?) : Lock login1 s' c n k := by
  refine ⟨h.asked.mono hcalls, ?_⟩
  rw [hfds]
  exact h.given

lemma Lock.isOpen (h : Lock login1 s c n k) : (s.fds[n]?).isSome := by
  obtain ⟨file, -, hopen⟩ := h.given
  rw [hopen]
  rfl

/-- The child forgets no call. -/
lemma handleMsg_calls (msg : Bytes) (s : State) :
    s.calls <+: (handleMsg login1 msg s).2.calls := by
  have hcall : ∀ what who why mode (s : State),
      s.calls <+: (call login1 what who why mode s).2.calls := by
    intro what who why mode s
    rw [call_calls]
    exact List.prefix_append _ _
  unfold handleMsg
  split
  · exact List.prefix_rfl
  split
  · split
    · rename_i what who why mode rest hsplit
      have hfirst := hcall what who why mode s
      split
      · rename_i heq
        rw [heq] at hfirst
        exact hfirst
      · rename_i e t heq
        rw [heq] at hfirst
        -- a denied request is made again for idle alone
        have hsecond := hfirst.trans (hcall (justIdle what) who why mode t)
        split
        · split
          · split
            · rename_i heq
              rw [heq] at hsecond
              exact hsecond
            · rename_i heq
              rw [heq] at hsecond
              split <;> exact hsecond
          · exact hfirst
        · exact hfirst
    · exact List.prefix_rfl
  split <;> exact List.prefix_rfl

/-- A granted request leaves its lock open under the second free number. -/
lemma handleMsg_lock {what who why mode : Bytes} (hwhat : tab ∉ what) (hwho : tab ∉ who)
    (hwhy : tab ∉ why) (hmode : tab ∉ mode) (h : Granted login1 s.calls.length what) :
    ∃ file k s', handleMsg login1 (fields what who why mode) s = (.ok (), s') ∧
      s'.fds = s.fds.insert (Descriptors.secondFree s.fds) file ∧
      s'.out = s.out ++ (Decimal.toString (Descriptors.secondFree s.fds) ++ [newline]) ∧
      s.calls.length ≤ k ∧ login1 k = .ok (.fd file) ∧
      AskedFor login1 s' ⟨what, who, why, mode⟩ k := by
  unfold fields
  rw [handleMsg_fields hwhat hwho hwhy hmode]
  rcases h with ⟨file, hfile⟩ | ⟨hdenied, hidle, file, hfile⟩
  · rw [call_fd hfile]
    refine ⟨file, _, _, rfl, rfl, rfl, Nat.le_refl _, hfile, .inl ?_⟩
    exact List.getElem?_concat_length
  · rw [call_denied hdenied]
    dsimp only
    rw [if_pos rfl, if_pos hidle, call_fd (by rw [List.length_append]; exact hfile)]
    refine ⟨file, _, _, rfl, rfl, rfl, Nat.le_succ _, hfile, .inr ⟨_, rfl, hdenied, ?_, ?_⟩⟩
    · show ((s.calls ++ [_]) ++ [_])[s.calls.length]? = _
      rw [List.getElem?_append_left (by simp)]
      exact List.getElem?_concat_length
    · show ((s.calls ++ [_]) ++ [_])[s.calls.length + 1]? = _
      have hlen := List.getElem?_concat_length
        (l := s.calls ++ [⟨what, who, why, mode⟩]) (a := ⟨justIdle what, who, why, mode⟩)
      rw [List.length_append] at hlen
      exact hlen

end SystemdInhibitFork

namespace SystemdInhibitInterface

open Descriptors (lowestFree secondFree Lent)
open SystemdInhibitFork (tab Granted Refused Lock AskedFor)
open NewlineMessageFork (Idle)

/-- The child of the daemon. -/
abbrev Run.child (s : Run) : SystemdInhibitFork.State := s.world.obj.sub.fork.state

/-- The number of the next descriptor that the daemon receives. -/
abbrev Run.nextFd (s : Run) : ℕ := lowestFree s.world.obj.sub.fds

/-- The numbers of the forwarded inhibits that login1 has granted. -/
def Run.lent (s : Run) : Set ℕ := {n | ∃ id ∈ s.forwarded, fdOf id = n}

/-- The child holds the locks of the forwarded inhibits that were granted, one for each, and beside
them only what was open at the start. -/
structure Locked (cfg : SystemdConfig) (start s : Run) : Prop where
  lent : Lent start.child.fds s.child.fds s.lent
  once : ∀ id ∈ s.forwarded, 0 ≤ fdOf id → s.forwarded.count id = 1
  apart : Set.InjOn fdOf {id | id ∈ s.forwarded}
  locks : ∃ k : InhibitID → ℕ, Set.InjOn k {id | id ∈ s.forwarded ∧ 0 ≤ fdOf id} ∧
    ∀ id ∈ s.forwarded, 0 ≤ fdOf id → ∃ i, s.world.obj.activeInhibits[id]? = some i ∧
      Lock cfg.login1 s.child (requestedCall i.toInhibitRequest) (fdOf id).toNat (k id)

variable (cfg : SystemdConfig)

/-- A client's inhibit and a forwarded one do not get the same number, one read takes what is
forwarded, and login1 grants or refuses it. -/
def Separate (s : Run) : Event → Prop
  | .message _ _ _ _ msg ret =>
    Requests cfg msg ret → ∀ id ∈ s.forwarded, fdOf id ≠ s.nextFd
  | .inhibit _ _ r => Supported r → OneRead r ∧
    (Granted cfg.login1 s.child.calls.length (us2systemdType r.type) ∧
        (∀ id ∈ s.clients, fdOf id ≠ secondFree s.child.fds) ∨
      Refused cfg.login1 s.child.calls.length (us2systemdType r.type))
  | _ => True

/-! ## The invariant -/

/-- What `Locked` rests on. No client's inhibit has the id of a forwarded one, and only clients'
inhibits are in the queue. -/
structure LockInvariant (start s : Run) : Prop where
  idle : Idle s.world.obj.sub.fork
  out : s.child.out = []
  active : ∀ id ∈ s.world.obj.activeInhibits, id ∈ s.clients ++ s.forwarded
  clients : Numbered cfg 0 s.clients
  pending : ∀ id, (waiting s.world.obj.sub ++ queued s.world.obj.sub).count id ≤ s.clients.count id
  apart : ∀ id ∈ s.clients, id ∉ s.forwarded
  numbers : Numbered cfg (-1) s.forwarded
  locked : Locked cfg start s

variable {cfg} {start s : Run}

lemma Numbered.injOn_fdOf {low : ℤ} {ids : List InhibitID} (h : Numbered cfg low ids)
    (hlow : -1 ≤ low) : Set.InjOn fdOf {id | id ∈ ids} := by
  intro id hid id' hid' heq
  rw [← h.mkId_fdOf hlow hid, ← h.mkId_fdOf hlow hid', heq]

lemma Initial.lockInvariant (h : Initial s) : LockInvariant cfg s s := by
  have hlent : s.lent = ∅ := by
    unfold Run.lent
    rw [h.forwarded]
    simp
  refine ⟨h.idle, h.out, ?_, ?_, ?_, ?_, ?_, ⟨?_, ?_, ?_, fun _ => 0, ?_⟩⟩
  · rw [h.active]
    simp
  · rw [h.clients]
    exact Numbered.nil
  · unfold waiting queued
    rw [h.threads, h.queue]
    simp
  · rw [h.clients]
    simp
  · rw [h.forwarded]
    exact Numbered.nil
  · rw [hlent]
    exact Lent.refl _
  all_goals rw [h.forwarded]; simp

/-! ## Messages -/

/-- What the invariant is about is unchanged. -/
lemma LockInvariant.same (h : LockInvariant cfg start s) {s' : Run} (heq : s' = s) :
    LockInvariant cfg start s' := by
  rw [heq]
  exact h

section Message

variable {setup : FifoSetup} {now : ℕ} {creds : Except Exn (UInt32 × UInt32)} {readable : Bool}
  {msg : Message} {ret : Option Message}

/-- A message that registers nothing changes nothing. -/
lemma step_message_other
    (hw : handleAsking cfg setup now creds readable msg ret s.world = s.world) :
    step cfg s (.message setup now creds readable msg ret) = s := by
  have hgiven : given cfg s (.message setup now creds readable msg ret) = [] := by
    apply given_unregistered
    rw [hw]
  show { s with
    world := handleAsking cfg setup now creds readable msg ret s.world
    clients := s.clients ++ given cfg s _ } = s
  rw [hgiven, List.append_nil, hw]

/-- The number of a client's inhibit is closed again, so that the next client's may be the same. -/
lemma message_locks (hmon : cfg.monitor = true) (h : LockInvariant cfg start s)
    (hlegal : Legal cfg s (.message setup now creds readable msg ret))
    (hok : Separate cfg s (.message setup now creds readable msg ret)) :
    LockInvariant cfg start (step cfg s (.message setup now creds readable msg ret)) := by
  obtain ⟨hret, hroom, -⟩ := hlegal
  obtain ⟨pidUid, halone⟩ :=
    handleAsking_monitor setup msg ret now creds readable s.world hmon hret
  by_cases hreq : Requests cfg msg ret
  · obtain ⟨i, threads, hid, hreg, hsub, hthreads⟩ :=
      handleAlone_monitor setup now pidUid readable s.world hmon hreq
    rw [← halone] at hreg hsub
    set w := handleAsking cfg setup now creds readable msg ret s.world with hw
    have hd := hroom.lowestFree_lt
    have hstep : step cfg s (.message setup now creds readable msg ret) =
        { s with world := w, clients := s.clients ++ [i.id] } := by
      rw [← given_registered hreg.log]
      rfl
    -- the lowest number is that of no forwarded inhibit
    have hnew : i.id ∉ s.forwarded := by
      intro hmem
      refine hok hreq i.id hmem ?_
      rw [hid, fdOf_mkId cfg (by omega) (by omega)]
    have hfork : w.obj.sub.fork = s.world.obj.sub.fork := by rw [hsub]
    rw [hstep]
    refine ⟨?_, ?_, fun id hmem => ?_, ?_, fun id => ?_, fun id hmem => ?_, h.numbers, ?_⟩
    · rw [hfork]
      exact h.idle
    · show w.obj.sub.fork.state.out = []
      rw [hfork]
      exact h.out
    · rw [hreg.active, StdMap.mem_insertIfNew] at hmem
      show id ∈ s.clients ++ [i.id] ++ s.forwarded
      rw [List.mem_append, List.mem_append, List.mem_singleton]
      rcases hmem with heq | hmem
      · exact .inl (.inr heq)
      · exact (List.mem_append.mp (h.active id hmem)).imp .inl fun hf => hf
    · dsimp only
      rw [hid]
      exact h.clients.append (Numbered.singleton (by omega))
    · show _ ≤ (s.clients ++ [i.id]).count id
      -- a thread is started for the new id at most once
      have hcount := h.pending id
      have htids : (threads.map (·.inhibit.id)).count id ≤ [i.id].count id := by
        rcases hthreads with heq | heq <;> rw [heq]
        · exact Nat.zero_le _
        · exact Nat.le_refl _
      unfold waiting queued at hcount ⊢
      rw [hsub]
      dsimp only
      rw [List.map_append]
      simp only [List.count_append] at hcount ⊢
      omega
    · rcases List.mem_append.mp hmem with hmem | hmem
      · exact h.apart id hmem
      · rw [List.mem_singleton.mp hmem]
        exact hnew
    · obtain ⟨k, hk, hlocks⟩ := h.locked.locks
      refine ⟨?_, h.locked.once, h.locked.apart, k, hk, fun id hmem hpos => ?_⟩
      · show Lent start.child.fds w.obj.sub.fork.state.fds s.lent
        rw [hfork]
        exact h.locked.lent
      · obtain ⟨j, hactive, hlock⟩ := hlocks id hmem hpos
        have hne : id ≠ i.id := fun heq => hnew (heq ▸ hmem)
        refine ⟨j, ?_, ?_⟩
        · rw [hreg.active, StdMap.getElem?_insertIfNew, if_neg fun hc => hne hc.1]
          exact hactive
        · show Lock _ w.obj.sub.fork.state _ _ _
          rw [hfork]
          exact hlock
  · exact h.same (step_message_other
      (halone.trans (handleAlone_other now pidUid readable s.world hret hreq)))

end Message

/-! ## Forwarded inhibits -/

section Forward

variable {setup : FifoSetup} {now : ℕ} {r : InhibitRequest}

/-- What a forwarded inhibit does to the object. -/
lemma step_inhibit_ok {i : Inhibit} {sub : SystemdFields}
    (hdo : doInhibit cfg setup now r s.world.obj.sub = (.ok i, sub)) :
    ∃ o, step cfg s (.inhibit setup now r) =
        { s with world.obj := o, forwarded := s.forwarded ++ [i.id] } ∧
      o.activeInhibits = s.world.obj.activeInhibits.insertIfNew i.id i ∧ o.sub = sub := by
  have hdo' := overrides_doInhibit hdo
  refine ⟨_, ?_, (InhibitInterface.inhibit_ok _ hdo').2, (noEvents cfg setup).inhibit_sub hdo'⟩
  rw [← given_returned hdo]
  rfl

/-- A type that login1 does not know is not forwarded. -/
lemma step_inhibit_unsupported (hr : ¬ Supported r) :
    step cfg s (.inhibit setup now r) = s := by
  have hdo : doInhibit cfg setup now r s.world.obj.sub =
      (.error .unsupportedType, s.world.obj.sub) := doInhibit_unsupported hr
  have herror := InhibitInterface.inhibit_error _ (overrides_doInhibit hdo)
  have hgiven : given cfg s (.inhibit setup now r) = [] := by
    unfold given
    dsimp only
    rw [herror]
  show { s with
    world.obj := (InhibitInterface.inhibit (overrides cfg setup) now r s.world.obj).2
    forwarded := s.forwarded ++ given cfg s _ } = s
  rw [hgiven, List.append_nil, herror]

variable (setup now) in
/-- A granted request leaves its lock open in the child. -/
lemma doInhibit_lock_open (hmon : cfg.monitor = true) (hr : Supported r)
    (h : LockInvariant cfg start s) (hread : OneRead r) (hstrings : CStrings r)
    (hroom : Room s.child.fds)
    (hgranted : Granted cfg.login1 s.child.calls.length (us2systemdType r.type)) :
    ∃ file k child, doInhibit cfg setup now r s.world.obj.sub =
        (.ok { r with id := mkId cfg (secondFree s.child.fds), created := now },
          { s.world.obj.sub with fork := { state := child } }) ∧
      child.fds = s.child.fds.insert (secondFree s.child.fds) file ∧ child.out = [] ∧
      s.child.calls <+: child.calls ∧ s.child.calls.length ≤ k ∧
      Lock cfg.login1 child (requestedCall r) (secondFree s.child.fds) k := by
  have hc := hroom.secondFree_lt
  have hplain := hread.plain
  obtain ⟨file, k, child, hmsg, hfds, hout, hk, hfile, hasked⟩ :=
    SystemdInhibitFork.handleMsg_lock (us2systemdType_plain r.type).1 hplain.1.1 hplain.2.1
      (by decide : tab ∉ lit "block") hgranted
  have hcalls : s.child.calls <+:
      (SystemdInhibitFork.handleMsg cfg.login1 (inhibitLine r) s.child).2.calls :=
    SystemdInhibitFork.handleMsg_calls (inhibitLine r) s.child
  rw [show SystemdInhibitFork.handleMsg cfg.login1 (inhibitLine r) s.child = _ from hmsg] at hcalls
  refine ⟨file, k, _, doInhibit_answered hmon hr h.idle h.out hread hstrings (by omega) (by omega)
    hmsg hout, hfds, rfl, hcalls, hk, hasked, file, hfile, ?_⟩
  dsimp only
  rw [hfds, Std.ExtTreeMap.getElem?_insert_self]

variable (setup now) in
/-- A refused request opens nothing. -/
lemma doInhibit_nothing_open (hmon : cfg.monitor = true) (hr : Supported r)
    (h : LockInvariant cfg start s) (hread : OneRead r) (hstrings : CStrings r)
    (hrefused : Refused cfg.login1 s.child.calls.length (us2systemdType r.type)) :
    ∃ child, doInhibit cfg setup now r s.world.obj.sub =
        (.ok { r with id := mkId cfg (-1), created := now },
          { s.world.obj.sub with fork := { state := child } }) ∧
      child.fds = s.child.fds ∧ child.out = [] ∧ s.child.calls <+: child.calls := by
  have hplain := hread.plain
  obtain ⟨child, hmsg, hfds, hout⟩ := SystemdInhibitFork.handleMsg_refused
    (us2systemdType_plain r.type).1 hplain.1.1 hplain.2.1 (by decide : tab ∉ lit "block") hrefused
  have hcalls : s.child.calls <+:
      (SystemdInhibitFork.handleMsg cfg.login1 (inhibitLine r) s.child).2.calls :=
    SystemdInhibitFork.handleMsg_calls (inhibitLine r) s.child
  rw [show SystemdInhibitFork.handleMsg cfg.login1 (inhibitLine r) s.child = _ from hmsg] at hcalls
  exact ⟨_, doInhibit_answered hmon hr h.idle h.out hread hstrings (by omega) (by omega) hmsg hout,
    hfds, rfl, hcalls⟩

variable {i : Inhibit} {o : InhibitInterface SystemdFields} {child : SystemdInhibitFork.State}
  {n : ℤ}

/-- A new forwarded inhibit whose id no client has. -/
lemma LockInvariant.forward (h : LockInvariant cfg start s)
    (hactive : o.activeInhibits = s.world.obj.activeInhibits.insertIfNew i.id i)
    (hsub : o.sub = { s.world.obj.sub with fork := { state := child } }) (hout : child.out = [])
    (hn : -1 ≤ n ∧ n < 2 ^ 31) (hid : i.id = mkId cfg n) (hnew : i.id ∉ s.clients)
    (hlocked : Locked cfg start
      { s with world.obj := o, forwarded := s.forwarded ++ [i.id] }) :
    LockInvariant cfg start { s with world.obj := o, forwarded := s.forwarded ++ [i.id] } := by
  have hnumber : Numbered cfg (-1) [i.id] := by
    rw [hid]
    exact Numbered.singleton hn
  refine ⟨?_, ?_, fun id hmem => ?_, h.clients, fun id => ?_, fun id hmem hf => ?_,
    h.numbers.append hnumber, hlocked⟩
  · show Idle o.sub.fork
    rw [hsub]
    exact ⟨rfl, rfl⟩
  · show o.sub.fork.state.out = []
    rw [hsub]
    exact hout
  · have hmem : id ∈ o.activeInhibits := hmem
    show id ∈ s.clients ++ (s.forwarded ++ [i.id])
    rw [hactive, StdMap.mem_insertIfNew] at hmem
    rw [← List.append_assoc, List.mem_append, List.mem_singleton]
    exact hmem.elim .inr fun hold => .inl (h.active id hold)
  · show (waiting o.sub ++ queued o.sub).count id ≤ _
    rw [hsub]
    exact h.pending id
  · rcases List.mem_append.mp hf with hold | hlast
    · exact h.apart id hmem hold
    · rw [List.mem_singleton.mp hlast] at hmem
      exact hnew hmem

/-- The numbers that are lent after a new inhibit was forwarded. -/
lemma lent_append {s' : Run} {id : InhibitID} (h : s'.forwarded = s.forwarded ++ [id]) :
    s'.lent = {n : ℕ | fdOf id = n} ∪ s.lent := by
  ext n
  unfold Run.lent
  rw [h]
  simp only [List.mem_append, List.mem_singleton, Set.mem_ofPred_eq, Set.mem_union]
  constructor
  · rintro ⟨j, hold | hlast, hn⟩
    · exact .inr ⟨j, hold, hn⟩
    · rw [hlast] at hn
      exact .inl hn
  · rintro (hn | ⟨j, hold, hn⟩)
    · exact ⟨id, .inr rfl, hn⟩
    · exact ⟨j, .inl hold, hn⟩

/-- A lock for the new inhibit is open under a number that was free. -/
lemma Locked.granted (h : LockInvariant cfg start s) (hroom : Room s.child.fds)
    (hactive : o.activeInhibits = s.world.obj.activeInhibits.insertIfNew i.id i)
    (hsub : o.sub = { s.world.obj.sub with fork := { state := child } })
    (hid : i.id = mkId cfg (secondFree s.child.fds)) (hnew : i.id ∉ s.clients) {file : Bytes}
    (hfds : child.fds = s.child.fds.insert (secondFree s.child.fds) file)
    (hcalls : s.child.calls <+: child.calls) {k : ℕ} (hk : s.child.calls.length ≤ k)
    (hlock : Lock cfg.login1 child (requestedCall i.toInhibitRequest) (secondFree s.child.fds) k) :
    Locked cfg start { s with world.obj := o, forwarded := s.forwarded ++ [i.id] } := by
  have hc := hroom.secondFree_lt
  have hfree := Descriptors.getElem?_secondFree s.child.fds []
  have hfd : fdOf i.id = secondFree s.child.fds := by
    rw [hid, fdOf_mkId cfg (by omega) (by omega)]
  have hchild : o.sub.fork.state = child := by rw [hsub]
  -- no forwarded inhibit has the number, since it was free
  have hfresh : i.id ∉ s.forwarded := by
    intro hmem
    obtain ⟨f, -, hlocks⟩ := h.locked.locks
    obtain ⟨j, -, hj⟩ := hlocks i.id hmem (by omega)
    have hopen := hj.isOpen
    rw [hfd, Int.toNat_natCast] at hopen
    exact not_isSome_of_free hfree hopen
  have hnumber : Numbered cfg (-1) [i.id] := by
    rw [hid]
    exact Numbered.singleton (by omega)
  have hnumbers := h.numbers.append hnumber
  obtain ⟨f, hf, hlocks⟩ := h.locked.locks
  have hlt : ∀ id ∈ s.forwarded, 0 ≤ fdOf id → f id < k := by
    intro id hmem hpos
    obtain ⟨j, -, hj⟩ := hlocks id hmem hpos
    exact Nat.lt_of_lt_of_le hj.asked.lt hk
  refine ⟨?_, fun id hmem hpos => ?_, hnumbers.injOn_fdOf (by omega), Function.update f i.id k, ?_,
    fun id hmem hpos => ?_⟩
  · rw [lent_append rfl]
    have hset : {m : ℕ | fdOf i.id = m} ∪ s.lent = insert (secondFree s.child.fds) s.lent := by
      ext m
      rw [Set.mem_union, Set.mem_ofPred_eq, hfd, Set.mem_insert_iff]
      exact or_congr_left ⟨fun heq => (Int.ofNat.inj heq).symm, fun heq => by rw [heq]⟩
    rw [hset]
    show Lent _ o.sub.fork.state.fds _
    rw [hchild, hfds]
    exact h.locked.lent.add hfree file
  · show (s.forwarded ++ [i.id]).count id = 1
    rw [List.count_append]
    rcases List.mem_append.mp hmem with hold | hlast
    · have hne : id ≠ i.id := fun heq => hfresh (heq ▸ hold)
      rw [h.locked.once id hold hpos, List.count_eq_zero.mpr (by simpa using hne)]
    · rw [List.mem_singleton.mp hlast, List.count_eq_zero.mpr hfresh, List.count_singleton_self]
  · rintro id ⟨hmem, hpos⟩ id' ⟨hmem', hpos'⟩ heq
    rcases List.mem_append.mp hmem with hold | hlast <;>
      rcases List.mem_append.mp hmem' with hold' | hlast'
    · have hne : id ≠ i.id := fun heq => hfresh (heq ▸ hold)
      have hne' : id' ≠ i.id := fun heq => hfresh (heq ▸ hold')
      rw [Function.update_of_ne hne, Function.update_of_ne hne'] at heq
      exact hf ⟨hold, hpos⟩ ⟨hold', hpos'⟩ heq
    · have hne : id ≠ i.id := fun heq => hfresh (heq ▸ hold)
      rw [List.mem_singleton.mp hlast', Function.update_of_ne hne, Function.update_self] at heq
      have hold := hlt id hold hpos
      omega
    · have hne : id' ≠ i.id := fun heq => hfresh (heq ▸ hold')
      rw [List.mem_singleton.mp hlast, Function.update_self, Function.update_of_ne hne] at heq
      have hold' := hlt id' hold' hpos'
      omega
    · rw [List.mem_singleton.mp hlast, List.mem_singleton.mp hlast']
  · show ∃ j, o.activeInhibits[id]? = some j ∧ Lock _ o.sub.fork.state _ _ _
    rw [hchild, hactive, StdMap.getElem?_insertIfNew]
    rcases List.mem_append.mp hmem with hold | hlast
    · have hne : id ≠ i.id := fun heq => hfresh (heq ▸ hold)
      obtain ⟨j, hj, hjlock⟩ := hlocks id hold hpos
      rw [if_neg fun hc => hne hc.1, Function.update_of_ne hne]
      refine ⟨j, hj, hjlock.mono hcalls ?_⟩
      have hother : ¬ compare (secondFree s.child.fds) (fdOf id).toNat = .eq := by
        intro heq
        have hopen := hjlock.isOpen
        rw [← Nat.compare_eq_eq.mp heq] at hopen
        exact not_isSome_of_free hfree hopen
      rw [hfds, Std.ExtTreeMap.getElem?_insert, if_neg hother]
    · have hinactive : s.world.obj.activeInhibits[i.id]? = none := by
        rw [← Option.not_isSome_iff_eq_none, ← Std.ExtTreeMap.mem_iff_isSome_getElem?]
        intro hmem
        rcases List.mem_append.mp (h.active _ hmem) with hclient | hold
        · exact hnew hclient
        · exact hfresh hold
      rw [List.mem_singleton.mp hlast, if_pos ⟨rfl, hinactive⟩, Function.update_self, hfd,
        Int.toNat_natCast]
      exact ⟨i, rfl, hlock⟩

/-- An inhibit that was refused has no lock. -/
lemma Locked.refused (h : LockInvariant cfg start s)
    (hactive : o.activeInhibits = s.world.obj.activeInhibits.insertIfNew i.id i)
    (hsub : o.sub = { s.world.obj.sub with fork := { state := child } })
    (hid : i.id = mkId cfg (-1)) (hfds : child.fds = s.child.fds)
    (hcalls : s.child.calls <+: child.calls) :
    Locked cfg start { s with world.obj := o, forwarded := s.forwarded ++ [i.id] } := by
  have hfd : fdOf i.id = -1 := by
    rw [hid, fdOf_mkId cfg (by omega) (by omega)]
  have hchild : o.sub.fork.state = child := by rw [hsub]
  have hnumber : Numbered cfg (-1) [i.id] := by
    rw [hid]
    exact Numbered.singleton (by omega)
  have hnumbers := h.numbers.append hnumber
  -- an inhibit with a lock is an older one
  have hold : ∀ id ∈ s.forwarded ++ [i.id], 0 ≤ fdOf id → id ≠ i.id ∧ id ∈ s.forwarded := by
    intro id hmem hpos
    have hne : id ≠ i.id := by
      intro heq
      rw [heq, hfd] at hpos
      omega
    refine ⟨hne, (List.mem_append.mp hmem).resolve_right fun hlast => ?_⟩
    exact hne (List.mem_singleton.mp hlast)
  obtain ⟨f, hf, hlocks⟩ := h.locked.locks
  refine ⟨?_, fun id hmem hpos => ?_, hnumbers.injOn_fdOf (by omega), f, ?_,
    fun id hmem hpos => ?_⟩
  · rw [lent_append rfl]
    have hset : {m : ℕ | fdOf i.id = m} ∪ s.lent = s.lent := by
      rw [Set.union_eq_right]
      intro m hm
      rw [Set.mem_ofPred_eq, hfd] at hm
      omega
    rw [hset]
    show Lent _ o.sub.fork.state.fds _
    rw [hchild, hfds]
    exact h.locked.lent
  · obtain ⟨hne, hmem⟩ := hold id hmem hpos
    show (s.forwarded ++ [i.id]).count id = 1
    rw [List.count_append, h.locked.once id hmem hpos, List.count_eq_zero.mpr (by simpa using hne)]
  · rintro id ⟨hmem, hpos⟩ id' ⟨hmem', hpos'⟩ heq
    exact hf ⟨(hold id hmem hpos).2, hpos⟩ ⟨(hold id' hmem' hpos').2, hpos'⟩ heq
  · obtain ⟨hne, hmem⟩ := hold id hmem hpos
    obtain ⟨j, hj, hjlock⟩ := hlocks id hmem hpos
    show ∃ j, o.activeInhibits[id]? = some j ∧ Lock _ o.sub.fork.state _ _ _
    rw [hchild, hactive, StdMap.getElem?_insertIfNew, if_neg fun hc => hne hc.1]
    exact ⟨j, hj, hjlock.mono hcalls (by rw [hfds])⟩

lemma inhibit_locks (hmon : cfg.monitor = true) (h : LockInvariant cfg start s)
    (hlegal : Legal cfg s (.inhibit setup now r)) (hok : Separate cfg s (.inhibit setup now r)) :
    LockInvariant cfg start (step cfg s (.inhibit setup now r)) := by
  obtain ⟨hstrings, -, hchild⟩ := hlegal
  by_cases hr : Supported r
  · obtain ⟨hread, hanswer⟩ := hok hr
    rcases hanswer with ⟨hgranted, hne⟩ | hrefused
    · have hc : secondFree s.child.fds < 2 ^ 31 := hchild.secondFree_lt
      obtain ⟨file, k, child, hdo, hfds, hout, hcalls, hk, hlock⟩ :=
        doInhibit_lock_open setup now hmon hr h hread hstrings hchild hgranted
      obtain ⟨o, hstep, hactive, hsub⟩ := step_inhibit_ok hdo
      have hnew := (h.clients.notMem_iff (n := secondFree s.child.fds) (by omega)
        ⟨by omega, by omega⟩).mpr hne
      rw [hstep]
      exact h.forward hactive hsub hout ⟨by omega, by omega⟩ rfl hnew
        (Locked.granted h hchild hactive hsub rfl hnew hfds hcalls hk hlock)
    · obtain ⟨child, hdo, hfds, hout, hcalls⟩ :=
        doInhibit_nothing_open setup now hmon hr h hread hstrings hrefused
      obtain ⟨o, hstep, hactive, hsub⟩ := step_inhibit_ok hdo
      have hnew : mkId cfg (-1) ∉ s.clients := by
        rw [h.clients.notMem_iff (by omega) (by omega)]
        intro id hid
        have hle := h.clients.le_fdOf (by omega) hid
        omega
      rw [hstep]
      exact h.forward hactive hsub hout ⟨by omega, by omega⟩ rfl hnew
        (Locked.refused h hactive hsub rfl hfds hcalls)
  · exact h.same (step_inhibit_unsupported hr)

end Forward

/-! ## Releases -/

/-- A release of a forwarded inhibit closes its number, if it was granted one. -/
lemma step_unInhibit (hmon : cfg.monitor = true) (h : LockInvariant cfg start s) {id : InhibitID}
    (hid : id ∈ s.forwarded) :
    ∃ o child, step cfg s (.unInhibit id) =
        { s with world.obj := o, forwarded := s.forwarded.erase id } ∧
      o.activeInhibits = s.world.obj.activeInhibits.erase id ∧
      o.sub = { s.world.obj.sub with fork := { state := child } } ∧ child.out = [] ∧
      child.calls = s.child.calls ∧
      child.fds = if fdOf id < 0 then s.child.fds else s.child.fds.erase (fdOf id).toNat := by
  have herase := (InhibitInterface.unInhibit_ok (overrides cfg {}) id s.world.obj
    fun b sub => doUnInhibit_ok b id sub).2
  cases hactive : s.world.obj.activeInhibits[id]? with
  | none =>
    -- an inhibit with a lock is active
    have hrefused : fdOf id < 0 := by
      by_contra hpos
      obtain ⟨k, -, hlocks⟩ := h.locked.locks
      obtain ⟨i, hi, -⟩ := hlocks id hid (by omega)
      rw [hactive] at hi
      cases hi
    have hsame : InhibitInterface.unInhibit (overrides cfg {}) id s.world.obj =
        (.ok (), s.world.obj) := by
      unfold InhibitInterface.unInhibit
      rw [hactive]
    have hfork : s.world.obj.sub.fork = { state := s.child } := by
      obtain ⟨hexn, hbuf⟩ := h.idle
      cases hchild : s.world.obj.sub.fork
      rw [hchild] at hexn hbuf
      rw [show s.child = s.world.obj.sub.fork.state from rfl, hchild]
      cases hexn
      cases hbuf
      rfl
    refine ⟨_, s.child, rfl, herase, ?_, h.out, rfl, (if_pos hrefused).symm⟩
    rw [hsame, ← hfork]
  | some i =>
    have hdo := doUnInhibit_fdOf hmon h.idle s.world.obj.toBase id
    have hsub := (noEvents cfg {}).unInhibit_sub hactive
      (show (overrides cfg {}).doUnInhibit _ id _ = _ from hdo)
    obtain ⟨hlow, hhigh⟩ := fdOf_bounds id
    have hout := SystemdInhibitFork.close_out (fdOf id) s.child
    exact ⟨_, _, rfl, herase, hsub, hout.trans h.out,
      SystemdInhibitFork.close_calls (fdOf id) s.child, SystemdInhibitFork.close_fds hlow hhigh⟩

/-- What has a lock and is left after a release is another inhibit. -/
lemma Locked.ne_of_mem_erase (h : Locked cfg start s) {id j : InhibitID}
    (hj : j ∈ s.forwarded.erase id) (hpos : 0 ≤ fdOf j) : j ≠ id := by
  intro heq
  have honce := h.once j (List.mem_of_mem_erase hj) hpos
  rw [heq] at hj honce
  have hcount := List.count_pos_iff.mpr hj
  rw [List.count_erase_self, honce] at hcount
  omega

/-- The numbers that are lent after the release of an inhibit that was refused. -/
lemma lent_erase_denied {s' : Run} {id : InhibitID} (hneg : fdOf id < 0)
    (hs' : s'.forwarded = s.forwarded.erase id) : s'.lent = s.lent := by
  ext m
  unfold Run.lent
  rw [hs']
  constructor
  · rintro ⟨j, hj, hm⟩
    exact ⟨j, List.mem_of_mem_erase hj, hm⟩
  · rintro ⟨j, hj, hm⟩
    have hne : j ≠ id := by
      intro heq
      rw [heq] at hm
      omega
    exact ⟨j, (List.mem_erase_of_ne hne).mpr hj, hm⟩

/-- The numbers that are lent after the release of an inhibit with a lock. -/
lemma lent_erase {s' : Run} {id : InhibitID} (hid : id ∈ s.forwarded) (hpos : 0 ≤ fdOf id)
    (h : Locked cfg start s) (hs' : s'.forwarded = s.forwarded.erase id) :
    s'.lent = s.lent \ {(fdOf id).toNat} := by
  ext m
  unfold Run.lent
  rw [hs', Set.mem_sdiff, Set.mem_singleton_iff]
  constructor
  · rintro ⟨j, hj, hm⟩
    refine ⟨⟨j, List.mem_of_mem_erase hj, hm⟩, fun heq => ?_⟩
    refine h.ne_of_mem_erase hj (by omega) (h.apart (List.mem_of_mem_erase hj) hid ?_)
    omega
  · rintro ⟨⟨j, hj, hm⟩, hne⟩
    have hjid : j ≠ id := by
      intro heq
      rw [heq] at hm
      omega
    exact ⟨j, (List.mem_erase_of_ne hjid).mpr hj, hm⟩

lemma unInhibit_locks (hmon : cfg.monitor = true) (h : LockInvariant cfg start s) {id : InhibitID}
    (hid : id ∈ s.forwarded) : LockInvariant cfg start (step cfg s (.unInhibit id)) := by
  obtain ⟨o, child, hstep, hactive, hsub, hout, hcalls, hfds⟩ := step_unInhibit hmon h hid
  have hchild : o.sub.fork.state = child := by rw [hsub]
  have hsubset : ∀ {j}, j ∈ s.forwarded.erase id → j ∈ s.forwarded := List.mem_of_mem_erase
  have hother : ∀ j ∈ s.forwarded.erase id, 0 ≤ fdOf j → j ≠ id := fun j hj hpos =>
    h.locked.ne_of_mem_erase hj hpos
  obtain ⟨k, hk, hlocks⟩ := h.locked.locks
  rw [hstep]
  refine ⟨?_, ?_, fun j hj => ?_, h.clients, fun j => ?_, fun j hj hf => ?_, fun j hj => ?_,
    ⟨?_, fun j hj hpos => ?_, ?_, k, ?_, fun j hj hpos => ?_⟩⟩
  · show Idle o.sub.fork
    rw [hsub]
    exact ⟨rfl, rfl⟩
  · show o.sub.fork.state.out = []
    rw [hchild]
    exact hout
  · have hj : j ∈ o.activeInhibits := hj
    rw [hactive, StdMap.mem_erase] at hj
    rw [List.mem_append, List.mem_erase_of_ne hj.2]
    exact List.mem_append.mp (h.active j hj.1)
  · show (waiting o.sub ++ queued o.sub).count j ≤ _
    rw [hsub]
    exact h.pending j
  · exact h.apart j hj (hsubset hf)
  · exact h.numbers j (hsubset hj)
  · show Lent _ o.sub.fork.state.fds _
    rw [hchild, hfds]
    split
    · rename_i hneg
      rw [lent_erase_denied hneg rfl]
      exact h.locked.lent
    · rename_i hpos
      have hpos : 0 ≤ fdOf id := by omega
      rw [lent_erase hid hpos h.locked rfl]
      exact h.locked.lent.close ⟨id, hid, by omega⟩
  · show (s.forwarded.erase id).count j = 1
    rw [List.count_erase_of_ne (hother j hj hpos)]
    exact h.locked.once j (hsubset hj) hpos
  · intro j hj j' hj' heq
    exact h.locked.apart (hsubset hj) (hsubset hj') heq
  · rintro j ⟨hj, hpos⟩ j' ⟨hj', hpos'⟩ heq
    exact hk ⟨hsubset hj, hpos⟩ ⟨hsubset hj', hpos'⟩ heq
  · obtain ⟨i, hi, hlock⟩ := hlocks j (hsubset hj) hpos
    have hne := hother j hj hpos
    show ∃ i, o.activeInhibits[j]? = some i ∧ Lock _ o.sub.fork.state _ _ _
    -- the lock of another inhibit stays open
    rw [hchild, hactive, StdMap.getElem?_erase, if_neg hne]
    refine ⟨i, hi, hlock.mono (by rw [hcalls]) ?_⟩
    rw [hfds]
    split
    · rfl
    · rename_i hidpos
      have hnumber : (fdOf j).toNat ≠ (fdOf id).toNat := by
        intro heq
        exact hne (h.locked.apart (hsubset hj) hid (by omega))
      rw [StdMap.getElem?_erase, if_neg hnumber]

/-- A step that only moves what clients have and drops inhibits of theirs. -/
lemma LockInvariant.keep (h : LockInvariant cfg start s) {s' : Run}
    (hforwarded : s'.forwarded = s.forwarded) (hfork : s'.world.obj.sub.fork = s.world.obj.sub.fork)
    (hactive : ∀ id ∈ s'.world.obj.activeInhibits, id ∈ s'.clients ++ s.forwarded)
    (hkept : ∀ id ∈ s.forwarded,
      s'.world.obj.activeInhibits[id]? = s.world.obj.activeInhibits[id]?)
    (hclients : ∀ id ∈ s'.clients, id ∈ s.clients)
    (hpending : ∀ id, (waiting s'.world.obj.sub ++ queued s'.world.obj.sub).count id ≤
      s'.clients.count id) : LockInvariant cfg start s' := by
  have hlent : s'.lent = s.lent := by
    unfold Run.lent
    rw [hforwarded]
  have hchild : s'.child = s.child := congrArg NewlineMessageFork.Child.state hfork
  refine ⟨?_, ?_, ?_, h.clients.subset hclients, hpending, fun id hid => ?_, ?_,
    ⟨?_, ?_, ?_, ?_⟩⟩
  · rw [hfork]
    exact h.idle
  · rw [hchild]
    exact h.out
  · rw [hforwarded]
    exact hactive
  · rw [hforwarded]
    exact h.apart id (hclients id hid)
  · rw [hforwarded]
    exact h.numbers
  · rw [hlent, hchild]
    exact h.locked.lent
  · rw [hforwarded]
    exact h.locked.once
  · rw [hforwarded]
    exact h.locked.apart
  · obtain ⟨k, hk, hlocks⟩ := h.locked.locks
    rw [hforwarded, hchild]
    refine ⟨k, hk, fun id hid hpos => ?_⟩
    rw [hkept id hid]
    exact hlocks id hid hpos

/-- A release thread hands its inhibit to the queue. -/
lemma release_locks (h : LockInvariant cfg start s) (k : ℕ) :
    LockInvariant cfg start (step cfg s (.release k)) := by
  have hstep : step cfg s (.release k) =
      { s with world.obj.sub := release k s.world.obj.sub } := rfl
  rw [hstep]
  unfold release
  cases hthread : s.world.obj.sub.releaseThreads[k]? with
  | none => exact h
  | some t =>
    refine h.keep rfl rfl h.active (fun _ _ => rfl) (fun _ hid => hid) fun id => ?_
    obtain ⟨hk, ht⟩ := List.getElem?_eq_some_iff.mp hthread
    have hperm := ((List.getElem_cons_eraseIdx_perm hk).map (·.inhibit.id)).count_eq id
    rw [ht, List.map_cons, List.count_cons] at hperm
    have hcount := h.pending id
    unfold waiting queued at hcount ⊢
    dsimp only
    rw [List.map_append, List.map_singleton]
    simp only [List.count_append, List.count_singleton] at hcount ⊢
    omega

/-- Draining the queue leaves the other inhibits as they are. -/
lemma pollQueue_kept (queue : List Inhibit) (w : Alone SystemdFields) {id : InhibitID}
    (hid : id ∉ queue.map (·.id)) :
    (pollQueue Alone.this (overrides cfg {}) Alone.callbacks queue w).2.obj.activeInhibits[id]? =
      w.obj.activeInhibits[id]? := by
  induction queue generalizing w with
  | nil => rfl
  | cons i queue ih =>
    rw [List.map_cons, List.mem_cons, not_or] at hid
    set w₁ := Alone.this.modifySub (fun s => { s with pidUids := s.pidUids.erase i.id }) w with hw₁
    have hactive₁ : w₁.obj.activeInhibits = w.obj.activeInhibits := rfl
    unfold pollQueue
    dsimp only
    rw [← hw₁]
    unfold This.registerUnInhibit
    cases hmid : (Alone.this.get w₁).activeInhibits[i.id]? with
    | none =>
      dsimp only
      rw [ih w₁ hid.2, hactive₁]
    | some mid =>
      refine (ih _ hid.2).trans ?_
      show (InhibitInterface.callEvent (overrides cfg {}) false mid
        { w₁.obj with
          activeInhibits := w₁.obj.activeInhibits.erase i.id }).activeInhibits[id]? = _
      rw [InhibitInterface.callEvent_activeInhibits]
      dsimp only
      rw [StdMap.getElem?_erase, if_neg hid.1, hactive₁]

lemma poll_locks (h : LockInvariant cfg start s) : LockInvariant cfg start (step cfg s .poll) := by
  obtain ⟨w, hw, hactive, -, hfork, hthreads, hqueue⟩ := poll_alone cfg {} s.world
  have hstep : step cfg s .poll = { s with
      world := w
      clients := s.clients.diff (queued s.world.obj.sub) } := by
    rw [← hw]
    rfl
  have hclients : ∀ id ∈ s.clients.diff (queued s.world.obj.sub), id ∈ s.clients :=
    fun id hid => List.diff_subset _ _ hid
  have hcount : ∀ id, (waiting s.world.obj.sub).count id + (queued s.world.obj.sub).count id ≤
      s.clients.count id := by
    intro id
    rw [← List.count_append]
    exact h.pending id
  rw [hstep]
  refine h.keep rfl hfork (fun id hid => ?_) (fun id hid => ?_) hclients fun id => ?_
  · -- a client's inhibit that stays active is not in the queue
    obtain ⟨hid, hnot⟩ := (hactive id).mp hid
    refine List.mem_append.mpr ((List.mem_append.mp (h.active id hid)).imp_left fun hc => ?_)
    have hzero : (queued s.world.obj.sub).count id = 0 := List.count_eq_zero.mpr hnot
    rw [← List.count_pos_iff, List.count_diff, hzero]
    exact List.count_pos_iff.mpr hc
  · -- only clients' inhibits are in the queue
    have hnot : id ∉ s.world.obj.sub.releaseQueue.map (·.id) := by
      intro hmem
      have hpos := List.count_pos_iff.mpr (show id ∈ queued s.world.obj.sub from hmem)
      have hle := hcount id
      exact h.apart id (List.count_pos_iff.mp (by omega)) hid
    have hkept : (pollQueue Alone.this (overrides cfg {}) Alone.callbacks
        s.world.obj.sub.releaseQueue s.world).2.obj.activeInhibits[id]? =
          s.world.obj.activeInhibits[id]? :=
      pollQueue_kept s.world.obj.sub.releaseQueue s.world hnot
    obtain ⟨w', hrun, -⟩ := pollQueue_alone cfg {} s.world.obj.sub.releaseQueue s.world
    rw [hrun] at hkept
    rw [← hw]
    unfold poll
    rw [show pollQueue Alone.this _ _ (Alone.this.get s.world).sub.releaseQueue s.world = _
      from hrun]
    exact hkept
  · have hwaiting : waiting w.obj.sub = waiting s.world.obj.sub := by
      unfold waiting
      rw [hthreads]
    have hqueued : queued w.obj.sub = [] := by
      unfold queued
      rw [hqueue]
      rfl
    show (waiting w.obj.sub ++ queued w.obj.sub).count id ≤ _
    rw [hwaiting, hqueued, List.append_nil, List.count_diff]
    have hle := hcount id
    omega

/-! ## Runs -/

lemma step_locks (hmon : cfg.monitor = true) (h : LockInvariant cfg start s) {e : Event}
    (hlegal : Legal cfg s e) (hok : Separate cfg s e) : LockInvariant cfg start (step cfg s e) := by
  cases e with
  | message setup now creds readable msg ret => exact message_locks hmon h hlegal hok
  | inhibit setup now r => exact inhibit_locks hmon h hlegal hok
  | unInhibit id => exact unInhibit_locks hmon h hlegal
  | release k => exact release_locks h k
  | poll => exact poll_locks h
  -- the child has descriptors of its own
  | opened file => exact h.keep rfl rfl h.active (fun _ _ => rfl) (fun _ hid => hid) h.pending
  | closed n => exact h.keep rfl rfl h.active (fun _ _ => rfl) (fun _ hid => hid) h.pending

/-- In every run in which no client and no forwarded inhibit share a number, the child holds the
locks of the forwarded inhibits and no others. -/
theorem locks_held {cfg : SystemdConfig} (hmon : cfg.monitor = true) {s : Run} {es : List Event}
    (hinitial : Initial s) (hlegal : Transition.Along (step cfg) (Legal cfg) s es)
    (hseparate : Transition.Along (step cfg) (Separate cfg) s es) :
    Locked cfg s (Transition.run (step cfg) s es) := by
  have hrun := Transition.along_and.mpr ⟨hlegal, hseparate⟩
  have hinv := Transition.invariant (I := LockInvariant cfg s) hinitial.lockInvariant
    (fun t e h hok => step_locks hmon h hok.1 hok.2) hrun
  exact hinv.locked

/-- Two clients at the same time, and a forwarded inhibit of which login1 only blocks `idle`. -/
theorem locks_held_idle :
    let login1 : Login1 := fun k =>
      if k = 0 then .error DBus.accessDenied else .ok (.fd (lit "1.ref"))
    let cfg : SystemdConfig :=
      { instanceId := 0, monitor := true, forkSender := lit ":1.0", login1 }
    let s : Run := { world := { obj := { sub :=
      { fork := { state := { fds := (∅ : Descriptors Bytes).insert 1 [] } } } } } }
    let msg : Message :=
      { type := .methodCall, sender := lit ":1.5",
        args := [.string (lit "idle"), .string (lit "a"), .string (lit "b"),
          .string (lit "block")] }
    let ret : Message :=
      { type := .methodReturn, sender := lit ":1.2", args := [.unixFd (lit "1.ref")] }
    let client : Event := .message {} 0 (.ok (1, 2)) true msg (some ret)
    let forward : Event :=
      .inhibit {} 0 { type := InhibitType.SUSPEND, appname := lit "c", reason := lit "d" }
    let es : List Event := [.opened (lit "1.ref"), client, client, .closed 0, forward, .release 0,
      .poll]
    Locked cfg s (Transition.run (step cfg) s es) := by
  intro login1 cfg s msg ret client forward es
  have hread : OneRead { type := InhibitType.SUSPEND, appname := lit "c", reason := lit "d" } :=
    ⟨⟨⟨by decide, by decide⟩, by decide, by decide⟩, by decide⟩
  have hinitial : Initial s := ⟨rfl, rfl, by decide, rfl, rfl, rfl, ⟨rfl, rfl⟩, rfl⟩
  -- what the reply carries is open
  have hcarried : ∀ s : Run, 0 ∈ s.others → s.world.obj.sub.fds[0]? = some (lit "1.ref") →
      ∀ m ∈ msg :: (some ret).toList, Carried s m := by
    intro s hmem hfile m hm
    rcases List.mem_pair.mp hm with heq | heq <;> rw [heq]
    · exact carried_of_plain (by simp [msg])
    · intro file hf
      cases List.mem_singleton.mp hf
      exact ⟨0, hmem, hfile⟩
  have hlegal : Transition.Along (step cfg) (Legal cfg) s es :=
    ⟨trivial, ⟨rfl, by decide, hcarried _ (by decide) (by decide)⟩,
      ⟨rfl, by decide, hcarried _ (by decide) (by decide)⟩, by unfold Legal; decide,
      ⟨⟨by decide, by decide⟩, by decide, by decide⟩, trivial, trivial, trivial⟩
  -- the first call is denied, and the one for idle alone granted
  have hgranted : ∀ k, k = 0 → Granted login1 k (us2systemdType InhibitType.SUSPEND) := by
    rintro k rfl
    exact .inr ⟨rfl, by decide, lit "1.ref", rfl⟩
  have hseparate : Transition.Along (step cfg) (Separate cfg) s es :=
    ⟨trivial, fun _ => by decide, fun _ => by decide, trivial,
      fun _ => ⟨hread, .inl ⟨hgranted _ (by decide), by decide⟩⟩, trivial, trivial, trivial⟩
  exact locks_held rfl hinitial hlegal hseparate

end SystemdInhibitInterface

end UnifiedInhibit
