import UnifiedInhibit.InhibitInterface
import UnifiedInhibit.Lib.CStruct

/-!
# `SxmoInhibitInterface`

`src/InhibitInterface/SxmoInhibitInterface.cpp`: locks that `sxmo_mutex.sh` takes and frees under
a token. The constructor is not modelled: `ok` is what it has found out.
-/

namespace UnifiedInhibit

/-- The ids of the daemon's own inhibits, and the commands that `system` has run. -/
structure SxmoFields where
  ourInhibits : Finset InhibitID := ∅
  commands : List Bytes := []

/-- `ok`: `sxmo_mutex.sh` was found. -/
structure SxmoConfig where
  instanceId : UInt64
  ok : Bool := true

namespace SxmoInhibitInterface

/-- `sizeof(idStruct.token)` -/
def tokenSize : ℕ := 1024

def toupper (c : UInt8) : UInt8 := if 97 ≤ c ∧ c ≤ 122 then c - 32 else c

/-- `mkToken`. 34 is the quote and 47 the slash. -/
def mkToken (appname reason : Bytes) : Bytes :=
  let cleanReason := reason.filter (· ≠ 34)
  let cleanAppname := appname.foldl (fun (cleanAppname : Bytes) c =>
    let cleanAppname := if c ≠ 34 then cleanAppname ++ [c] else cleanAppname
    if c = 47 then [] else cleanAppname) []
  let cleanAppname := match cleanAppname with
    | [] => []
    | c :: cs => toupper c :: cs
  cleanAppname ++ lit " - " ++ cleanReason

/-- `mkId`: the structure {instance id, token} as bytes. -/
def mkId (instanceId : UInt64) (token : Bytes) : InhibitID :=
  let idStruct := CStruct.leBytes 8 instanceId.toNat ++ List.replicate tokenSize 0
  let size := if token.length > tokenSize - 1 then tokenSize - 1 else token.length
  let idStruct := CStruct.overwrite idStruct 8 (CStruct.strncpy size token)
  if size > 0 then idStruct.set (8 + size) 0 else idStruct

/-- `idStruct->token` -/
def token (id : InhibitID) : Bytes := CStruct.cstr (id.drop 8)

/-- `system(cmd.c_str())` -/
def system (cmd : Bytes) (s : SxmoFields) : SxmoFields :=
  { s with commands := s.commands ++ [CStruct.cstr cmd] }

def lockCommand (token : Bytes) : Bytes :=
  lit "sxmo_mutex.sh can_suspend lock \"" ++ token ++ lit "\""

def freeCommand (token : Bytes) : Bytes :=
  lit "sxmo_mutex.sh can_suspend free \"" ++ token ++ lit "\""

variable (cfg : SxmoConfig)

/-- The id is entered only after the command has been run. -/
def doInhibit (now : ℕ) (r : InhibitRequest) (s : SxmoFields) : Outcome SxmoFields Inhibit :=
  if r.type &&& InhibitType.SCREENSAVER = InhibitType.NONE ∧
      r.type &&& InhibitType.SUSPEND = InhibitType.NONE then (.error .unsupportedType, s)
  else if !cfg.ok then (.ok { r with id := [], created := now }, s)
  else
    let token := mkToken r.appname r.reason
    let s := system (lockCommand token) s
    let ret : Inhibit := { r with id := mkId cfg.instanceId token, created := now }
    (.ok ret, { s with ourInhibits := insert ret.id s.ourInhibits })

/-- The id is taken out before the command is run. -/
def doUnInhibit (_b : Base) (id : InhibitID) (s : SxmoFields) : Outcome SxmoFields Unit :=
  if !cfg.ok then (.ok (), s)
  else
    let s := { s with ourInhibits := s.ourInhibits.erase id }
    (.ok (), system (freeCommand (token id)) s)

def overrides : Overrides SxmoFields where
  doInhibit := doInhibit cfg
  doUnInhibit := doUnInhibit cfg

lemma noEvents : (overrides cfg).NoEvents := ⟨fun _ _ => rfl, fun _ _ => rfl, fun _ _ _ => rfl⟩

/-! ## The commands -/

/-- A command ends at its quote, not at a NUL. -/
lemma cstr_quoted {front t : Bytes} (hfront : 0 ∉ front) (h : 0 ∉ t) :
    CStruct.cstr (front ++ t ++ lit "\"") = front ++ t ++ lit "\"" := by
  have hback : (0 : UInt8) ∉ lit "\"" := by decide
  apply CStruct.cstr_of_notMem
  simp only [List.mem_append, not_or]
  exact ⟨⟨hfront, h⟩, hback⟩

/-- `system` reads the command for a token without a NUL to its end. -/
lemma cstr_lockCommand {t : Bytes} (h : 0 ∉ t) : CStruct.cstr (lockCommand t) = lockCommand t :=
  cstr_quoted (by decide) h

lemma cstr_freeCommand {t : Bytes} (h : 0 ∉ t) : CStruct.cstr (freeCommand t) = freeCommand t :=
  cstr_quoted (by decide) h

/-! ## The token in the id -/

/-- The id stores the token up to a NUL, cut to fit. -/
lemma mkId_eq (instanceId : UInt64) (token : Bytes) :
    mkId instanceId token = CStruct.leBytes 8 instanceId.toNat ++
      ((CStruct.cstr token).take (tokenSize - 1) ++
        List.replicate (tokenSize - ((CStruct.cstr token).take (tokenSize - 1)).length) 0) := by
  have hcstr : (CStruct.cstr token).length ≤ token.length :=
    (List.takeWhile_sublist _).length_le
  set size := if token.length > tokenSize - 1 then tokenSize - 1 else token.length with hsize
  have hlt : size < tokenSize := by
    rw [hsize]
    unfold tokenSize
    split <;> omega
  have htake : (CStruct.cstr token).take size = (CStruct.cstr token).take (tokenSize - 1) := by
    rw [hsize]
    split
    · rfl
    · rw [List.take_of_length_le hcstr, List.take_of_length_le (by omega)]
  have hfront : 8 = (CStruct.leBytes 8 instanceId.toNat).length := by rw [CStruct.length_leBytes]
  have hwrite := CStruct.overwrite_strncpy _ [] token hfront hlt.le
  have hset := CStruct.set_string _ [] (t := (CStruct.cstr token).take size) hfront
    (List.length_take_le _ _) hlt
  rw [List.append_nil, List.append_nil] at hwrite
  rw [List.append_nil] at hset
  unfold mkId
  dsimp only
  rw [← hsize, hwrite, hset, ite_self, htake]

lemma token_mkId (instanceId : UInt64) (t : Bytes) :
    token (mkId instanceId t) = (CStruct.cstr t).take (tokenSize - 1) := by
  have hnul : 0 ∉ (CStruct.cstr t).take (tokenSize - 1) := fun hmem =>
    CStruct.zero_notMem_cstr t (List.mem_of_mem_take hmem)
  have hlen : ((CStruct.cstr t).take (tokenSize - 1)).length < tokenSize := by
    rw [List.length_take]
    unfold tokenSize
    omega
  have hpad := CStruct.cstr_padded hnul (Nat.sub_pos_of_lt hlen) []
  rw [List.append_nil] at hpad
  unfold token
  rw [mkId_eq, List.drop_left' (CStruct.length_leBytes 8 _)]
  exact hpad

end SxmoInhibitInterface

end UnifiedInhibit
