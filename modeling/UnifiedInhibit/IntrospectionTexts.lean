import UnifiedInhibit.CinnamonScreenSaverInhibitInterface
import UnifiedInhibit.GnomeInhibitorPaths
import UnifiedInhibit.GnomeScreenSaverInhibitInterface
import UnifiedInhibit.Lib.Introspection
import UnifiedInhibit.SystemdInhibitQueries

/-!
# What the answers to `Introspect` list

The classes write their answers out of literals, with a declaration in front that libdbus supplies.
Here the answers are read, as far as the methods that they list.
-/

namespace UnifiedInhibit

open Introspection

/-- The characters of an ASCII text. -/
def text (bs : Bytes) : List Char := bs.map fun b => Char.ofNat b.toNat

/-- A method that is listed, by its interface, its name and the types of its arguments. -/
def entry (interface member signature : String) : Introspection.Method :=
  ⟨interface.toList, member.toList, signature.toList⟩

/-- A character, written as a byte and read back. -/
def recode (c : Char) : Char := Char.ofNat c.toNat.toUInt8.toNat

lemma text_ofList (l : List Char) : text (lit (String.ofList l)) = l.map recode := by
  simp [text, lit, recode, Function.comp_def]

lemma entry_ofList (i m s : List Char) :
    entry (String.ofList i) (String.ofList m) (String.ofList s) = ⟨i, m, s⟩ := by
  simp only [entry, String.toList_ofList]

/-- A method with the names `i` and `m` is the entry. -/
lemma eq_entry_iff (i m : String) (types : List Char) (i' m' : String) (l : List Char) :
    (⟨i.toList, m.toList, types⟩ : Introspection.Method) = entry i' m' (String.ofList l) ↔
      i = i' ∧ m = m' ∧ types = l := by
  rw [entry, String.toList_ofList, Introspection.Method.mk.injEq, String.toList_inj,
    String.toList_inj]

lemma text_append (s t : String) : text (lit (s ++ t)) = text (lit s) ++ text (lit t) := by
  unfold text
  rw [GnomeSessionManagerInhibitInterface.lit_append, List.map_append]

/-- A name in ASCII, without quotes. -/
structure Plain (s : String) : Prop where
  text : text (lit s) = s.toList
  noQuote : '\'' ∉ s.toList
  noDoubleQuote : '"' ∉ s.toList

lemma plain_ofList {l : List Char} (h : l.map recode = l) (hquote : '\'' ∉ l) (hdouble : '"' ∉ l) :
    Plain (String.ofList l) := by
  refine ⟨?_, ?_, ?_⟩
  · rw [text_ofList, String.toList_ofList, h]
  · rw [String.toList_ofList]
    exact hquote
  · rw [String.toList_ofList]
    exact hdouble

/-- A literal is read character by character. -/
lemma read_lit {r r' : Reader} {l : List Char} (h : r.read (l.map recode) = r') :
    r.read (text (lit (String.ofList l))) = r' := by
  rw [text_ofList, h]

lemma methodsOf_eq (t : List Char) : methodsOf t = (Reader.read {} t).methods := rfl

/-- A number in an attribute does not end its value. -/
lemma quote_notMem_number (n : ℕ) : '\'' ∉ text (lit (toString n)) := by
  intro hmem
  rw [GnomeSessionManagerInhibitInterface.lit_toString] at hmem
  obtain ⟨c, hc, heq⟩ := List.mem_map.mp hmem
  have hdigit := Decimal.isDigit_of_mem_digits hc
  have hdigits : ∀ c : UInt8, Decimal.isDigit c = true → Char.ofNat c.toNat ≠ '\'' := by
    decide +kernel
  exact hdigits c hdigit heq

/-- The tag of a node up to its name. -/
def nodeTag : Tag := ⟨['n', 'o', 'd', 'e'], [], false⟩

/-- The tag of an interface up to its name. -/
def interfaceTag : Tag := ⟨['i', 'n', 't', 'e', 'r', 'f', 'a', 'c', 'e'], [], false⟩

/-- The reader inside the name of an element. -/
def naming (tag : Tag) (quote : Char) (v : List Char) (opened : List Element)
    (methods : List Introspection.Method) : Reader :=
  ⟨.value tag ['n', 'a', 'm', 'e'] quote v, opened, methods⟩

lemma read_naming (tag : Tag) (quote : Char) (opened : List Element)
    (methods : List Introspection.Method) {s : List Char} (hs : quote ∉ s) :
    (naming tag quote [] opened methods).read s = naming tag quote s.reverse opened methods := by
  unfold naming
  rw [Reader.read_value tag _ quote opened methods hs, List.append_nil]

/-! ## `SimpleDBusInhibitInterface` -/

namespace SimpleDBusInhibitInterface

variable {cfg : Config}

/-- The object at `/` has no methods. -/
lemma methodsOf_rootXml (hdoc : DeclaresNothing (text (lit cfg.doctype)))
    (hpath : Plain cfg.path) : methodsOf (text (lit (rootXml cfg))) = [] := by
  have hroot : Reader.read {} (text (lit "<node name='/'>")) = ⟨.text, [.node], []⟩ :=
    read_lit rfl
  have hopen : Reader.read ⟨.text, [.node], []⟩ (text (lit "  <node name='")) =
      naming nodeTag '\'' [] [.node] [] := read_lit rfl
  have hclose : ∀ v, (naming nodeTag '\'' v [.node] []).read (text (lit "' />")) =
      ⟨.text, [.node], []⟩ := fun v => read_lit rfl
  have hend : Reader.read ⟨.text, [.node], []⟩ (text (lit "</node>")) = {} := read_lit rfl
  unfold rootXml
  simp only [text_append, List.append_assoc]
  rw [methodsOf_append hdoc, methodsOf_eq]
  simp only [Reader.read_append]
  rw [hroot, hopen, hpath.text, read_naming _ _ _ _ hpath.noQuote, hclose, hend]

/-- The methods of the base class, and those that a subclass describes. -/
lemma methodsOf_interfaceXml (hdoc : DeclaresNothing (text (lit cfg.doctype)))
    (hpath : Plain cfg.path) (hinterface : Plain cfg.interface)
    {E : List Introspection.Method}
    (hextra : ∀ methods, Reader.read ⟨.text, [.interface cfg.interface.toList, .node], methods⟩
      (text (lit cfg.extraIntrospect)) =
        ⟨.text, [.interface cfg.interface.toList, .node], E ++ methods⟩) :
    methodsOf (text (lit (interfaceXml cfg))) = E ++
      [entry cfg.interface "UnInhibit" "u", entry cfg.interface "Inhibit" "ss"] := by
  set name := cfg.interface.toList with hname
  have hnode : Reader.read {} (text (lit "<node name='")) = naming nodeTag '\'' [] [] [] :=
    read_lit rfl
  have hnoded : ∀ v, (naming nodeTag '\'' v [] []).read (text (lit "'>")) =
      ⟨.text, [.node], []⟩ := fun v => read_lit rfl
  have hopen : Reader.read ⟨.text, [.node], []⟩ (text (lit "  <interface name=\"")) =
      naming interfaceTag '"' [] [.node] [] := read_lit rfl
  have hopened : ∀ v, (naming interfaceTag '"' v [.node] []).read (text (lit "\">")) =
      ⟨.text, [.interface v.reverse, .node], []⟩ := fun v => read_lit rfl
  have hinhibit : Reader.read ⟨.text, [.interface name, .node], []⟩
      (text (lit "    <method name='Inhibit'>")) =
      ⟨.text, [.method "Inhibit".toList [], .interface name, .node], []⟩ := by
    rw [String.toList_ofList]
    exact read_lit rfl
  have hunInhibit : ∀ methods, Reader.read ⟨.text, [.interface name, .node], methods⟩
      (text (lit "    <method name='UnInhibit'>")) =
      ⟨.text, [.method "UnInhibit".toList [], .interface name, .node], methods⟩ := by
    intro methods
    rw [String.toList_ofList]
    exact read_lit rfl
  -- the arguments go to the method they stand in
  have happname : ∀ m types opened methods,
      Reader.read ⟨.text, .method m types :: opened, methods⟩
        (text (lit "      <arg name='application_name' type='s' direction='in'/>")) =
        ⟨.text, .method m (types ++ ['s']) :: opened, methods⟩ :=
    fun m types opened methods => read_lit rfl
  have hreason : ∀ m types opened methods,
      Reader.read ⟨.text, .method m types :: opened, methods⟩
        (text (lit "      <arg name='reason_for_inhibit' type='s' direction='in'/>")) =
        ⟨.text, .method m (types ++ ['s']) :: opened, methods⟩ :=
    fun m types opened methods => read_lit rfl
  have hout : ∀ m types opened methods,
      Reader.read ⟨.text, .method m types :: opened, methods⟩
        (text (lit "      <arg name='cookie' type='u' direction='out'/>")) =
        ⟨.text, .method m (types ++ []) :: opened, methods⟩ :=
    fun m types opened methods => read_lit rfl
  have hcookie : ∀ m types opened methods,
      Reader.read ⟨.text, .method m types :: opened, methods⟩
        (text (lit "      <arg name='cookie' type='u' direction='in'/>")) =
        ⟨.text, .method m (types ++ ['u']) :: opened, methods⟩ :=
    fun m types opened methods => read_lit rfl
  have hlisted : ∀ m types methods,
      Reader.read ⟨.text, [.method m types, .interface name, .node], methods⟩
        (text (lit "    </method>")) =
        ⟨.text, [.interface name, .node], ⟨name, m, types⟩ :: methods⟩ :=
    fun m types methods => read_lit rfl
  have hclose : ∀ methods, Reader.read ⟨.text, [.interface name, .node], methods⟩
      (text (lit "  </interface>")) = ⟨.text, [.node], methods⟩ := fun methods => read_lit rfl
  have hend : ∀ methods, Reader.read ⟨.text, [.node], methods⟩ (text (lit "</node>")) =
      ⟨.text, [], methods⟩ := fun methods => read_lit rfl
  unfold interfaceXml
  simp only [text_append, List.append_assoc]
  rw [methodsOf_append hdoc, methodsOf_eq]
  simp only [Reader.read_append]
  rw [hinterface.text, hpath.text, ← hname, hnode, read_naming _ _ _ _ hpath.noQuote, hnoded,
    hopen, read_naming _ _ _ _ hinterface.noDoubleQuote, hopened, List.reverse_reverse, hinhibit,
    happname, hreason, hout, hlisted, hunInhibit, hcookie, hlisted, hextra, hclose, hend]
  unfold entry
  repeat rw [String.toList_ofList]
  rfl

/-- A class that describes nothing more. -/
lemma methodsOf_interfaceXml_plain (hdoc : DeclaresNothing (text (lit cfg.doctype)))
    (hpath : Plain cfg.path) (hinterface : Plain cfg.interface)
    (hextra : cfg.extraIntrospect = "") :
    methodsOf (text (lit (interfaceXml cfg))) =
      [entry cfg.interface "UnInhibit" "u", entry cfg.interface "Inhibit" "ss"] := by
  rw [methodsOf_interfaceXml (E := []) hdoc hpath hinterface fun methods => by rw [hextra]; rfl]
  rfl

end SimpleDBusInhibitInterface

/-- What the subclass adds: a method, and a signal with an argument that is none of a method. -/
lemma FreedesktopPowerManagerInhibitInterface.read_extraIntrospect (base : OwnerConfig)
    (name : List Char) (methods : List Introspection.Method) :
    Reader.read ⟨.text, [.interface name, .node], methods⟩
      (text (lit (FreedesktopPowerManagerInhibitInterface base).extraIntrospect)) =
      ⟨.text, [.interface name, .node], ⟨name, "HasInhibit".toList, []⟩ :: methods⟩ := by
  have hmethod : Reader.read ⟨.text, [.interface name, .node], methods⟩
      (text (lit "<method name='HasInhibit'>")) =
      ⟨.text, [.method "HasInhibit".toList [], .interface name, .node], methods⟩ := by
    rw [String.toList_ofList]
    exact read_lit rfl
  have hout : ∀ m methods, Reader.read ⟨.text, [.method m [], .interface name, .node], methods⟩
      (text (lit "  <arg type='b' name='has_inhibit' direction='out'/>")) =
      ⟨.text, [.method m [], .interface name, .node], methods⟩ := fun m methods => read_lit rfl
  have hlisted : ∀ m methods, Reader.read ⟨.text, [.method m [], .interface name, .node], methods⟩
      (text (lit "</method>")) = ⟨.text, [.interface name, .node], ⟨name, m, []⟩ :: methods⟩ :=
    fun m methods => read_lit rfl
  have hsignal : ∀ methods, Reader.read ⟨.text, [.interface name, .node], methods⟩
      (text (lit "<signal name='HasInhibitChanged'>")) =
      ⟨.text, [.other, .interface name, .node], methods⟩ := fun methods => read_lit rfl
  have harg : ∀ methods, Reader.read ⟨.text, [.other, .interface name, .node], methods⟩
      (text (lit "  <arg type='b' name='has_inhibit' direction='out'/>")) =
      ⟨.text, [.other, .interface name, .node], methods⟩ := fun methods => read_lit rfl
  have hclose : ∀ methods, Reader.read ⟨.text, [.other, .interface name, .node], methods⟩
      (text (lit "</signal>")) = ⟨.text, [.interface name, .node], methods⟩ :=
    fun methods => read_lit rfl
  dsimp only [FreedesktopPowerManagerInhibitInterface]
  simp only [text_append, Reader.read_append]
  rw [hmethod, hout, hlisted, hsignal, harg, hclose]

lemma GnomeScreenSaverInhibitInterface.read_extraIntrospect (base : OwnerConfig)
    (name : List Char) (methods : List Introspection.Method) :
    Reader.read ⟨.text, [.interface name, .node], methods⟩
      (text (lit (GnomeScreenSaverInhibitInterface base).extraIntrospect)) =
      ⟨.text, [.interface name, .node],
        ⟨name, "SimulateUserActivity".toList, []⟩ :: methods⟩ := by
  rw [String.toList_ofList]
  dsimp only [GnomeScreenSaverInhibitInterface]
  exact read_lit rfl

/-! ## `CinnamonScreenSaverInhibitInterface` -/

namespace CinnamonScreenSaverInhibitInterface

variable {cfg : CinnamonConfig} (hdoc : DeclaresNothing (text (lit cfg.doctype)))
include hdoc

lemma methodsOf_rootXml : methodsOf (text (lit (rootXml cfg))) = [] := by
  unfold rootXml RELPATH
  simp only [text_append, List.append_assoc]
  rw [methodsOf_append hdoc, methodsOf_eq]
  simp only [Reader.read_append]
  repeat rw [text_ofList]
  decide +kernel

lemma methodsOf_interfaceXml :
    methodsOf (text (lit (interfaceXml cfg))) = [entry INTERFACE "SimulateUserActivity" ""] := by
  unfold interfaceXml RELPATH INTERFACE
  simp only [text_append, List.append_assoc]
  rw [methodsOf_append hdoc, methodsOf_eq]
  simp only [Reader.read_append]
  repeat rw [text_ofList]
  rw [entry_ofList]
  decide +kernel

end CinnamonScreenSaverInhibitInterface

/-! ## `SystemdInhibitInterface` -/

namespace SystemdInhibitInterface

variable {doctype : String} (hdoc : DeclaresNothing (text (lit doctype)))
include hdoc

lemma methodsOf_rootXml : methodsOf (text (lit (rootXml doctype))) = [] := by
  unfold rootXml
  simp only [text_append, List.append_assoc]
  rw [methodsOf_append hdoc, methodsOf_eq]
  simp only [Reader.read_append]
  repeat rw [text_ofList]
  decide +kernel

lemma methodsOf_managerXml :
    methodsOf (text (lit (managerXml doctype))) =
      [entry INTERFACE "ListInhibitors" "", entry INTERFACE "Inhibit" "ssss"] := by
  unfold managerXml INTERFACE
  simp only [text_append, List.append_assoc]
  rw [methodsOf_append hdoc, methodsOf_eq]
  simp only [Reader.read_append]
  repeat rw [text_ofList]
  repeat rw [entry_ofList]
  decide +kernel

end SystemdInhibitInterface

/-! ## `GnomeSessionManagerInhibitInterface` -/

namespace GnomeSessionManagerInhibitInterface

/-- The objects of the inhibitors are listed as nodes without content. -/
lemma read_inhibitorNodes (inhibits : List (InhibitID × Inhibit))
    (methods : List Introspection.Method) :
    Reader.read ⟨.text, [.node], methods⟩ (text (lit (String.join
      (inhibits.map fun p => "<node name='Inhibitor" ++ cookieString p.2.id ++ "'/>")))) =
      ⟨.text, [.node], methods⟩ := by
  have hopen : Reader.read ⟨.text, [.node], methods⟩ (text (lit "<node name='Inhibitor")) =
      naming nodeTag '\'' "Inhibitor".toList.reverse [.node] methods := by
    rw [String.toList_ofList]
    exact read_lit rfl
  have hclose : ∀ v, (naming nodeTag '\'' v [.node] methods).read (text (lit "'/>")) =
      ⟨.text, [.node], methods⟩ := fun v => read_lit rfl
  induction inhibits with
  | nil => rfl
  | cons p inhibits ih =>
    have hnumber : ∀ v, (naming nodeTag '\'' v [.node] methods).read
        (text (lit (cookieString p.2.id))) =
        naming nodeTag '\'' ((text (lit (cookieString p.2.id))).reverse ++ v) [.node] methods :=
      Reader.read_value _ _ _ _ _ (quote_notMem_number _)
    rw [List.map_cons, String.join_cons]
    simp only [text_append, Reader.read_append]
    rw [hopen, hnumber, hclose, ih]

variable {cfg : OwnerConfig} (hdoc : DeclaresNothing (text (lit cfg.doctype)))
include hdoc

lemma methodsOf_rootXml : methodsOf (text (lit (rootXml cfg))) = [] := by
  unfold rootXml
  simp only [text_append, List.append_assoc]
  rw [methodsOf_append hdoc, methodsOf_eq]
  simp only [Reader.read_append]
  repeat rw [text_ofList]
  decide +kernel

/-- The methods of the manager, whatever inhibitors are listed behind them. -/
lemma methodsOf_managerXml (b : Base) :
    methodsOf (text (lit (managerXml cfg b))) =
      [entry INTERFACE "GetInhibitors" "", entry INTERFACE "IsInhibited" "u",
        entry INTERFACE "Uninhibit" "u", entry INTERFACE "Inhibit" "susu"] := by
  have hrest : ∀ r methods, r = (⟨.text, [.node], methods⟩ : Reader) →
      ((r.read (text (lit (String.join (b.activeInhibits.toList.map fun p =>
        "<node name='Inhibitor" ++ cookieString p.2.id ++ "'/>"))))).read
        (text (lit "</node>"))).methods = methods := by
    intro r methods hr
    have hend : Reader.read ⟨.text, [.node], methods⟩ (text (lit "</node>")) =
        ⟨.text, [], methods⟩ := read_lit rfl
    rw [hr, read_inhibitorNodes, hend]
  unfold managerXml PATH INTERFACE
  simp only [text_append, List.append_assoc]
  rw [methodsOf_append hdoc, methodsOf_eq]
  simp only [Reader.read_append]
  apply hrest
  repeat rw [text_ofList]
  repeat rw [entry_ofList]
  decide +kernel

/-- The methods of an inhibitor object, whatever its name. -/
lemma methodsOf_inhibitorXml (cookie : UInt32) :
    methodsOf (text (lit (inhibitorXml cfg cookie))) =
      [entry "org.gnome.SessionManager.Inhibitor" "GetFlags" "",
        entry "org.gnome.SessionManager.Inhibitor" "GetReason" "",
        entry "org.gnome.SessionManager.Inhibitor" "GetAppId" ""] := by
  have hopen : Reader.read {} (text (lit "<node name='")) = naming nodeTag '\'' [] [] [] :=
    read_lit rfl
  have hopened : ∀ v, (naming nodeTag '\'' v [] []).read (text (lit "'>")) =
      ⟨.text, [.node], []⟩ := fun v => read_lit rfl
  have hname : '\'' ∉ text (lit PATH) ++ (text (lit PATH) ++ (text (lit "/Inhibitor") ++
      text (lit (if cookie > 0 then toString cookie.toNat else "XXXX")))) := by
    have hpath : '\'' ∉ text (lit PATH) := by
      unfold PATH
      rw [text_ofList]
      decide
    have hword : '\'' ∉ text (lit "/Inhibitor") := by
      rw [text_ofList]
      decide
    have hnumber : '\'' ∉ text (lit (if cookie > 0 then toString cookie.toNat else "XXXX")) := by
      split
      · exact quote_notMem_number _
      · rw [text_ofList]
        decide
    simp only [List.mem_append, not_or]
    exact ⟨hpath, hpath, hword, hnumber⟩
  unfold inhibitorXml INTERFACE
  simp only [text_append, List.append_assoc]
  -- the parts of the name belong together
  have hgroup : ∀ s t u w rest : List Char,
      s ++ (t ++ (u ++ (w ++ rest))) = (s ++ (t ++ (u ++ w))) ++ rest := by simp
  rw [methodsOf_append hdoc, methodsOf_eq, Reader.read_append, hopen, hgroup, Reader.read_append,
    read_naming _ _ _ _ hname, Reader.read_append, hopened]
  simp only [Reader.read_append]
  repeat rw [text_ofList]
  repeat rw [entry_ofList]
  decide +kernel

end GnomeSessionManagerInhibitInterface

end UnifiedInhibit
