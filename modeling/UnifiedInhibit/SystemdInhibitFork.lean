import UnifiedInhibit.DBus
import UnifiedInhibit.Fork
import UnifiedInhibit.Lib.Decimal
import UnifiedInhibit.Lib.Descriptors

/-!
# `SystemdInhibitFork`

`src/Fork/SystemdInhibitFork.cpp`: the privileged child that takes login1 inhibitors and keeps
their descriptors. login1 answers its `k`-th call with `login1 k`. The constructor and
`childSetup`, which connects to the bus, are not modelled, nor are the warnings that are printed.
-/

namespace UnifiedInhibit

/-- The message that answers login1's `Inhibit`, as `sendAwait` returns it. -/
inductive InhibitReply where
  | null
  /-- a message with a descriptor -/
  | fd (file : Bytes)
  /-- a message without one -/
  | other

abbrev Login1 := ℕ → Except Exn InhibitReply

namespace SystemdInhibitFork

open NewlineMessageFork (newline)

/-- `'\t'` -/
def tab : UInt8 := 9

/-- A call `Inhibit` of login1. -/
structure Call where
  what : Bytes
  who : Bytes
  why : Bytes
  mode : Bytes
deriving DecidableEq

/-- The open descriptors of the child, the calls it has made, the arguments of its `close`s, and
what it has written for the parent. -/
structure State where
  fds : Descriptors Bytes := ∅
  calls : List Call := []
  closed : List ℤ := []
  out : Bytes := []

def tx (str : Bytes) (s : State) : State := { s with out := s.out ++ str }

/-- `close((int)fd)` -/
def close (fd : ℤ) (s : State) : State :=
  let fd := fd.bmod (2 ^ 32)
  { s with closed := s.closed ++ [fd], fds := if fd < 0 then s.fds else s.fds.erase fd.toNat }

/-- Every match of `pat` is replaced by `rep`; `skip` bytes of a match are still to be left out. -/
def regexReplace (pat rep : Bytes) : ℕ → Bytes → Bytes
  | _, [] => []
  | skip + 1, _ :: cs => regexReplace pat rep skip cs
  | 0, c :: cs =>
    if pat.isPrefixOf (c :: cs) then rep ++ regexReplace pat rep (pat.length - 1) cs
    else c :: regexReplace pat rep 0 cs

/-- `what` without `sleep`, and without the colon that leaves behind. -/
def justIdle (what : Bytes) : Bytes :=
  let s := regexReplace (lit "sleep") [] 0 what
  let s := regexReplace (lit "::") (lit ":") 0 s
  let s := if s.getLast? = some 58 then s.dropLast else s
  if s.head? = some 58 then s.tail else s

variable (login1 : Login1)

/-- `call`. The reply has a descriptor of its own, which `getArgs` duplicates, and goes at the
end. -/
def call (what who why mode : Bytes) (s : State) : Outcome State ℤ :=
  let answer := login1 s.calls.length
  let s := { s with calls := s.calls ++ [⟨what, who, why, mode⟩] }
  match answer with
  | .error e => (.error (if e = DBus.noReply then .noResponse else e), s)
  | .ok .null => (.ok (-1), s)
  | .ok .other => (.error DBus.invalidArgs, s)
  | .ok (.fd file) =>
    let (fd, fds) := Descriptors.receive s.fds file
    (.ok fd, { s with fds })

def handleMsg (msg : Bytes) (s : State) : Outcome State Unit :=
  if msg.length = 0 then (.ok (), s)
  else if msg.count tab = 3 then
    match msg.splitOn tab with
    | what :: who :: why :: mode :: _ =>
      match call login1 what who why mode s with
      | (.ok fd, s) => (.ok (), tx (Decimal.toString fd ++ [newline]) s)
      | (.error e, s) =>
        if e = DBus.accessDenied then
          if (justIdle what).length > 0 then
            match call login1 (justIdle what) who why mode s with
            | (.ok fd, s) => (.ok (), tx (Decimal.toString fd ++ [newline]) s)
            | (.error e, s) =>
              if e = DBus.accessDenied then (.ok (), tx (lit "-1" ++ [newline]) s)
              else (.error e, s)
          else (.ok (), tx (lit "-1" ++ [newline]) s)
        else (.error e, s)
    | _ => (.ok (), s)
  else if msg.count tab = 0 then (.ok (), close (Decimal.atol msg) s)
  else (.ok (), s)

end SystemdInhibitFork

end UnifiedInhibit
