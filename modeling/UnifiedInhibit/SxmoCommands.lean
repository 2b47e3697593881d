import UnifiedInhibit.SxmoInhibitInterface
import UnifiedInhibit.Lib.Shell

/-!
# The commands that Sxmo is given

`mkToken` takes the double quotes out of what a client says, and `doInhibit` and `doUnInhibit` put
the token between double quotes on a command line. Inside those a dollar sign, a backquote and some
backslashes are not data.
-/

namespace UnifiedInhibit
namespace SxmoInhibitInterface

open Shell (Plain Verbatim simpleCommand)

/-! ## What a token is made of -/

/-- The application name behind its last slash, without quotes. -/
def nameOf (appname : Bytes) : Bytes :=
  (appname.reverse.takeWhile (· ≠ 47)).reverse.filter (· ≠ 34)

/-- The reason without quotes. -/
def unquoted (reason : Bytes) : Bytes := reason.filter (· ≠ 34)

def capitalized : Bytes → Bytes
  | [] => []
  | c :: cs => toupper c :: cs

/-- The words of the command that locks or frees `token`. -/
def commandWords (verb : String) (token : Bytes) : List Bytes :=
  [lit "sxmo_mutex.sh", lit "can_suspend", lit verb, token]

/-- Every command that `doInhibit` runs for the request, or `doUnInhibit` for the id that it has
returned, is one simple command about the token. -/
def CarriesData (cfg : SxmoConfig) (r : InhibitRequest) : Prop :=
  ∀ (now : ℕ) (s s' : SxmoFields) (i : Inhibit), doInhibit cfg now r s = (.ok i, s') →
    (∀ cmd, s'.commands = s.commands ++ [cmd] →
      simpleCommand cmd = some (commandWords "lock" (mkToken r.appname r.reason))) ∧
    ∀ (b : Base) (t : SxmoFields) (cmd : Bytes),
      (doUnInhibit cfg b i.id t).2.commands = t.commands ++ [cmd] →
        simpleCommand cmd = some (commandWords "free" ((mkToken r.appname r.reason).take 1023))

/-- The request leads to a command at all. -/
def Runs (cfg : SxmoConfig) (r : InhibitRequest) : Prop :=
  cfg.ok = true ∧ ¬ (r.type &&& InhibitType.SCREENSAVER = InhibitType.NONE ∧
    r.type &&& InhibitType.SUSPEND = InhibitType.NONE)

/-- The shell keeps what the client says, and the cut token does not end with a backslash. -/
structure Harmless (appname reason : Bytes) : Prop where
  name : Plain (nameOf appname)
  text : Verbatim (unquoted reason)
  cut : (nameOf appname ++ lit " - " ++ unquoted reason)[1022]? ≠ some 92

lemma foldl_nameOf (appname : Bytes) :
    appname.foldl (fun (cleanAppname : Bytes) c =>
      let cleanAppname := if c ≠ 34 then cleanAppname ++ [c] else cleanAppname
      if c = 47 then [] else cleanAppname) [] = nameOf appname := by
  induction appname using List.reverseRecOn with
  | nil => rfl
  | append_singleton appname c ih =>
    rw [List.foldl_append, List.foldl_cons, List.foldl_nil, ih]
    unfold nameOf
    rw [List.reverse_append, List.reverse_singleton, List.singleton_append]
    by_cases hslash : c = 47
    · rw [List.takeWhile_cons_of_neg (by simp [hslash]), if_pos hslash]
      rfl
    · rw [List.takeWhile_cons_of_pos (by simp [hslash]), List.reverse_cons, List.filter_append,
        if_neg hslash]
      by_cases hquote : c = 34 <;> simp [hquote]

lemma mkToken_eq (appname reason : Bytes) :
    mkToken appname reason = capitalized (nameOf appname) ++ lit " - " ++ unquoted reason := by
  unfold mkToken
  dsimp only
  rw [foldl_nameOf]
  cases nameOf appname <;> rfl

/-! ## Verbatim tokens -/

/-- Capitals are for letters. -/
lemma toupper_eq_or (c : UInt8) :
    toupper c = c ∨ (97 ≤ c.toNat ∧ c.toNat ≤ 122 ∧ (toupper c).toNat = c.toNat - 32) := by
  unfold toupper
  split
  · rename_i h
    obtain ⟨hle, hge⟩ := h
    rw [UInt8.le_iff_toNat_le] at hle hge
    have hle : 97 ≤ c.toNat := hle
    have hge : c.toNat ≤ 122 := hge
    refine .inr ⟨hle, hge, ?_⟩
    rw [UInt8.toNat_sub_of_le c 32 (by rw [UInt8.le_iff_toNat_le]; exact le_trans (by decide) hle)]
    rfl
  · exact .inl rfl

/-- A byte that is no letter is what it was. -/
lemma toupper_eq_iff {d : UInt8} (hd : d.toNat < 65 ∨ 90 < d.toNat ∧ d.toNat < 97) (c : UInt8) :
    toupper c = d ↔ c = d := by
  rcases toupper_eq_or c with h | ⟨hle, hge, h⟩
  · rw [h]
  · rw [← UInt8.toNat_inj, ← UInt8.toNat_inj, h]
    omega

lemma expands_toupper (c : UInt8) : Shell.expands (toupper c) = Shell.expands c := by
  unfold Shell.expands
  simp only [List.mem_cons, List.not_mem_nil, or_false, toupper_eq_iff (d := 36) (by decide),
    toupper_eq_iff (d := 96) (by decide)]

lemma plain_capitalized (name : Bytes) : Plain (capitalized name) ↔ Plain name := by
  cases name with
  | nil => rfl
  | cons c name =>
    have hback := toupper_eq_iff (d := 92) (by decide) c
    show Plain ([toupper c] ++ name) ↔ Plain ([c] ++ name)
    rw [Shell.plain_append, Shell.plain_append]
    have hone (d : UInt8) : Plain [d] ↔ ¬ Shell.expands d :=
      ⟨fun h => h.expands d (by simp), fun h => ⟨by simpa using h, List.IsChain.singleton d⟩⟩
    rw [hone, hone, expands_toupper]
    simp [hback]

/-- The " - " of a token keeps its two parts from each other. -/
lemma verbatim_mkToken_iff (appname reason : Bytes) :
    Verbatim (mkToken appname reason) ↔ Plain (nameOf appname) ∧ Verbatim (unquoted reason) := by
  have hdash : Plain [32, 45, 32] := ⟨by simp [Shell.expands], by simp⟩
  have hhead : (lit " - " ++ unquoted reason).head? = some 32 := rfl
  have hlast : (lit " - ").getLast? = some 32 := rfl
  have hplain : Plain (mkToken appname reason) ↔
      Plain (nameOf appname) ∧ Plain (unquoted reason) := by
    rw [mkToken_eq, List.append_assoc, Shell.plain_append, Shell.plain_append, plain_capitalized,
      hhead, hlast]
    apply Iff.intro
    · rintro ⟨hname, ⟨-, hreason, -⟩, -⟩
      exact ⟨hname, hreason⟩
    · rintro ⟨hname, hreason⟩
      refine ⟨hname, ⟨hdash, hreason, ?_⟩, ?_⟩
      · rintro c hc d - rfl
        exact absurd hc (by decide)
      · rintro c - d hd -
        rw [← Option.some.inj hd]
        decide
  have hcloses : (mkToken appname reason).getLast? ≠ some 92 ↔
      (unquoted reason).getLast? ≠ some 92 := by
    rw [mkToken_eq, List.getLast?_append, List.getLast?_append, hlast]
    cases (unquoted reason).getLast? with
    | none => simp
    | some c => rfl
  apply Iff.intro
  · rintro ⟨hp, hc⟩
    obtain ⟨hname, hreason⟩ := hplain.mp hp
    exact ⟨hname, hreason, hcloses.mp hc⟩
  · rintro ⟨hname, hreason, hc⟩
    exact ⟨hplain.mpr ⟨hname, hreason⟩, hcloses.mpr hc⟩

/-- What the first 1023 bytes of a verbatim token end with. -/
lemma verbatim_take_iff {token : Bytes} (h : Verbatim token) :
    Verbatim (token.take 1023) ↔ token[1022]? ≠ some 92 := by
  have hplain : Plain (token.take 1023) := by
    have hp := h.toPlain
    rw [← List.take_append_drop 1023 token, Shell.plain_append] at hp
    exact hp.1
  have hlast : (token.take 1023).getLast? ≠ some 92 ↔ token[1022]? ≠ some 92 := by
    rw [List.getLast?_take, if_neg (by decide)]
    show (token[1022]?.or token.getLast?) ≠ some 92 ↔ _
    cases token[1022]? with
    | none => simp [h.closes]
    | some c => rfl
  exact ⟨fun hv => hlast.mp hv.closes, fun hc => ⟨hplain, hlast.mpr hc⟩⟩

lemma getElem?_mkToken (appname reason : Bytes) (k : ℕ) :
    (mkToken appname reason)[k + 1]? =
      (nameOf appname ++ lit " - " ++ unquoted reason)[k + 1]? := by
  rw [mkToken_eq]
  cases nameOf appname <;> rfl

/-! ## Commands -/

lemma notMem_mkToken {appname reason : Bytes} {c : UInt8} (hname : c ∉ capitalized (nameOf appname))
    (hdash : c ∉ lit " - ") (hreason : c ∉ unquoted reason) : c ∉ mkToken appname reason := by
  rw [mkToken_eq]
  simp only [List.mem_append, not_or]
  exact ⟨⟨hname, hdash⟩, hreason⟩

/-- Capitals make no quotes and no NULs. -/
lemma notMem_capitalized {c : UInt8} (hc : c.toNat < 65) {name : Bytes} (h : c ∉ name) :
    c ∉ capitalized name := by
  cases name with
  | nil => exact h
  | cons d name =>
    obtain ⟨hne, hname⟩ := not_or.mp (List.mem_cons.not.mp h)
    refine List.mem_cons.not.mpr (not_or.mpr ⟨fun heq => hne ?_, hname⟩)
    exact ((toupper_eq_iff (.inl hc) d).mp heq.symm).symm

lemma quote_notMem_mkToken (appname reason : Bytes) : 34 ∉ mkToken appname reason :=
  notMem_mkToken (notMem_capitalized (by decide) (by simp [nameOf])) (by decide)
    (by simp [unquoted])

lemma nul_notMem_mkToken {appname reason : Bytes} (happname : 0 ∉ appname) (hreason : 0 ∉ reason) :
    0 ∉ mkToken appname reason := by
  apply notMem_mkToken _ (by decide) fun hmem => hreason (List.mem_filter.mp hmem).1
  apply notMem_capitalized (by decide)
  intro hmem
  have hmem := List.mem_reverse.mp (List.mem_filter.mp hmem).1
  exact happname (List.mem_reverse.mp ((List.takeWhile_sublist _).subset hmem))

/-- The shell reads a command of these four words exactly if the token is verbatim. -/
lemma simpleCommand_iff {front verb : String} {token : Bytes}
    (hfront : Shell.Reader.read {} (lit front) =
      some ⟨[lit "sxmo_mutex.sh", lit "can_suspend", lit verb], .between⟩)
    (hquote : 34 ∉ token) :
    simpleCommand (lit front ++ 34 :: (token ++ [34])) = some (commandWords verb token) ↔
      Verbatim token := by
  have hname : ¬ Shell.Reserved (lit "sxmo_mutex.sh") := by decide +kernel
  rw [← Shell.words_quoted_iff hfront hquote]
  unfold commandWords
  rw [Shell.simpleCommand_eq_some_iff]
  exact and_iff_left hname

lemma simpleCommand_lockCommand {token : Bytes} (hquote : 34 ∉ token) (hnul : 0 ∉ token) :
    simpleCommand (CStruct.cstr (lockCommand token)) = some (commandWords "lock" token) ↔
      Verbatim token := by
  have hcmd : lockCommand token =
      lit "sxmo_mutex.sh can_suspend lock " ++ 34 :: (token ++ [34]) := by
    have hlit : lit "sxmo_mutex.sh can_suspend lock \"" =
        lit "sxmo_mutex.sh can_suspend lock " ++ [34] := by decide
    unfold lockCommand
    rw [hlit, List.append_assoc, List.append_assoc]
    rfl
  rw [cstr_lockCommand hnul, hcmd]
  exact simpleCommand_iff (by decide +kernel) hquote

lemma simpleCommand_freeCommand {token : Bytes} (hquote : 34 ∉ token) (hnul : 0 ∉ token) :
    simpleCommand (CStruct.cstr (freeCommand token)) = some (commandWords "free" token) ↔
      Verbatim token := by
  have hcmd : freeCommand token =
      lit "sxmo_mutex.sh can_suspend free " ++ 34 :: (token ++ [34]) := by
    have hlit : lit "sxmo_mutex.sh can_suspend free \"" =
        lit "sxmo_mutex.sh can_suspend free " ++ [34] := by decide
    unfold freeCommand
    rw [hlit, List.append_assoc, List.append_assoc]
    rfl
  rw [cstr_freeCommand hnul, hcmd]
  exact simpleCommand_iff (by decide +kernel) hquote

/-- What the two commands of a request are read as, if there are any. -/
lemma carriesData_iff_verbatim {cfg : SxmoConfig} {r : InhibitRequest} (hruns : Runs cfg r)
    (happname : 0 ∉ r.appname) (hreason : 0 ∉ r.reason) :
    CarriesData cfg r ↔ Verbatim (mkToken r.appname r.reason) ∧
      Verbatim ((mkToken r.appname r.reason).take 1023) := by
  set T := mkToken r.appname r.reason with hT
  have hquote : 34 ∉ T := quote_notMem_mkToken _ _
  have hnul : 0 ∉ T := nul_notMem_mkToken happname hreason
  have htake (c : UInt8) (h : c ∉ T) : c ∉ T.take 1023 := fun hmem => h (List.mem_of_mem_take hmem)
  rw [← simpleCommand_lockCommand hquote hnul,
    ← simpleCommand_freeCommand (htake 34 hquote) (htake 0 hnul)]
  have hlock (now : ℕ) (s : SxmoFields) :
      doInhibit cfg now r s = (.ok { r with id := mkId cfg.instanceId T, created := now },
        { s with
          commands := s.commands ++ [CStruct.cstr (lockCommand T)]
          ourInhibits := insert (mkId cfg.instanceId T) s.ourInhibits }) := by
    unfold doInhibit
    rw [if_neg hruns.2, if_neg (by simp [hruns.1])]
    rfl
  -- the id keeps the first 1023 bytes of the token, which are what is freed
  have hfree (b : Base) (t : SxmoFields) :
      (doUnInhibit cfg b (mkId cfg.instanceId T) t).2.commands =
        t.commands ++ [CStruct.cstr (freeCommand (T.take 1023))] := by
    have htoken : token (mkId cfg.instanceId T) = T.take 1023 := by
      rw [token_mkId, CStruct.cstr_of_notMem hnul]
      rfl
    unfold doUnInhibit
    rw [if_neg (by simp [hruns.1]), htoken]
    rfl
  apply Iff.intro
  · intro h
    obtain ⟨hl, hf⟩ := h 0 {} _ _ (hlock 0 {})
    exact ⟨hl _ rfl, hf {} {} _ (hfree {} {})⟩
  · rintro ⟨hl, hf⟩ now s s' i hi
    rw [hlock] at hi
    obtain ⟨hi, hs'⟩ := Prod.mk.inj hi
    rw [← hs', ← Except.ok.inj hi]
    refine ⟨fun cmd hcmd => ?_, fun b t cmd hcmd => ?_⟩
    · rw [← List.singleton_injective (List.append_cancel_left hcmd)]
      exact hl
    · rw [hfree] at hcmd
      rw [← List.singleton_injective (List.append_cancel_left hcmd)]
      exact hf

/-- Requests whose commands carry the client's text as data. -/
theorem carriesData_iff (cfg : SxmoConfig) (r : InhibitRequest) (happname : 0 ∉ r.appname)
    (hreason : 0 ∉ r.reason) :
    CarriesData cfg r ↔ (Runs cfg r → Harmless r.appname r.reason) := by
  by_cases hruns : Runs cfg r
  · rw [carriesData_iff_verbatim hruns happname hreason]
    have hcut := getElem?_mkToken r.appname r.reason 1021
    apply Iff.intro
    · rintro ⟨hlock, hfree⟩ -
      obtain ⟨hname, htext⟩ := (verbatim_mkToken_iff _ _).mp hlock
      exact ⟨hname, htext, hcut ▸ (verbatim_take_iff hlock).mp hfree⟩
    · intro h
      obtain ⟨hname, htext, hend⟩ := h hruns
      have hlock := (verbatim_mkToken_iff _ _).mpr ⟨hname, htext⟩
      exact ⟨hlock, (verbatim_take_iff hlock).mpr (hcut ▸ hend)⟩
  · refine iff_of_true (fun now s s' i hi => ?_) fun h => absurd h hruns
    have hsame (cmds : List Bytes) (cmd : Bytes) : cmds ≠ cmds ++ [cmd] := by simp
    unfold doInhibit at hi
    split at hi
    · cases hi
    rename_i htype
    have hok : cfg.ok = false := by
      by_contra hok
      exact hruns ⟨by simpa using hok, htype⟩
    -- without a command there is nothing to read
    rw [if_pos (by simp [hok])] at hi
    rw [← (Prod.mk.inj hi).2]
    refine ⟨fun cmd hcmd => absurd hcmd (hsame _ _), fun b t cmd hcmd => ?_⟩
    unfold doUnInhibit at hcmd
    rw [if_pos (by simp [hok])] at hcmd
    exact absurd hcmd (hsame _ _)

/-- A reason that runs `id`. -/
theorem carriesData_fails :
    ¬ CarriesData { instanceId := 0 }
      { type := InhibitType.SUSPEND, appname := lit "mpv", reason := lit "$(id)" } := by
  intro h
  obtain ⟨hlock, -⟩ := h 0 {} _ _ rfl
  have hnone : simpleCommand (CStruct.cstr (lockCommand (mkToken (lit "mpv") (lit "$(id)")))) =
      none := by decide +kernel
  exact absurd ((hlock _ rfl).symm.trans hnone) (by simp [commandWords])

theorem carriesData_playing :
    CarriesData { instanceId := 0 }
      { type := InhibitType.SUSPEND, appname := lit "mpv", reason := lit "Playing" } := by
  apply (carriesData_iff _ _ (by decide) (by decide)).mpr
  intro _
  have hname : Plain (nameOf (lit "mpv")) := ⟨by decide +kernel, by decide +kernel⟩
  have htext : Plain (unquoted (lit "Playing")) := ⟨by decide +kernel, by decide +kernel⟩
  exact ⟨hname, ⟨htext, by decide +kernel⟩, by decide +kernel⟩

end SxmoInhibitInterface
end UnifiedInhibit
