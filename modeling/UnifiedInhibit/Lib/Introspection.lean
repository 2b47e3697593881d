import Mathlib

/-!
# Reading introspection data

A reader for the texts with which D-Bus objects describe themselves: elements with attributes in
single or double quotes, where a method stands in an interface and an interface in the outermost
node. It goes through the text one character at a time. Declarations and what stands between the
tags are skipped; comments, CDATA sections and references are not treated.
-/

namespace Introspection

/-- A tag. The name of a closing tag starts with its slash. -/
structure Tag where
  name : List Char := []
  attrs : List (List Char × List Char) := []
  empty : Bool := false
deriving DecidableEq

/-- A method that a text lists: its interface, its name and the types of what it takes. -/
structure Method where
  interface : List Char
  member : List Char
  signature : List Char
deriving DecidableEq

/-- What is kept of an open element. -/
inductive Element where
  | node
  | interface (name : List Char)
  | method (name signature : List Char)
  | other
deriving DecidableEq

/-- Where the reader is. Words and values are kept in reverse. -/
inductive Mode where
  | text
  | word (tag : Tag) (w : List Char)
  | value (tag : Tag) (attr : List Char) (quote : Char) (v : List Char)
deriving DecidableEq

/-- The open elements, the innermost first, and the methods listed so far, the latest first. -/
structure Reader where
  mode : Mode := .text
  opened : List Element := []
  methods : List Method := []
deriving DecidableEq

namespace Tag

def attr (name : List Char) (t : Tag) : Option (List Char) := t.attrs.lookup name

/-- The first word is the name; a later one is the slash of an empty element, or is skipped. -/
def endWord (t : Tag) (w : List Char) : Tag :=
  if t.name = [] then
    match w with
    | '/' :: w => { t with name := w.reverse, empty := true }
    | w => { t with name := w.reverse }
  else if w = ['/'] then { t with empty := true }
  else t

def element (t : Tag) : Element :=
  let name := (t.attr ['n', 'a', 'm', 'e']).getD []
  if t.name = ['n', 'o', 'd', 'e'] then .node
  else if t.name = ['i', 'n', 't', 'e', 'r', 'f', 'a', 'c', 'e'] then .interface name
  else if t.name = ['m', 'e', 't', 'h', 'o', 'd'] then .method name []
  else .other

/-- An argument of a method goes in unless it says otherwise. -/
def argument (t : Tag) : List Char :=
  let direction := (t.attr ['d', 'i', 'r', 'e', 'c', 't', 'i', 'o', 'n']).getD ['i', 'n']
  if t.name = ['a', 'r', 'g'] ∧ direction = ['i', 'n'] then
    (t.attr ['t', 'y', 'p', 'e']).getD []
  else []

end Tag

/-- An argument belongs to the innermost element if that is a method. -/
def addArgument (type : List Char) : List Element → List Element
  | .method name signature :: opened => .method name (signature ++ type) :: opened
  | opened => opened

/-- What the innermost of the open elements lists. -/
def listed : List Element → List Method
  | [.method member signature, .interface interface, .node] => [⟨interface, member, signature⟩]
  | _ => []

namespace Reader

def openTag (t : Tag) (r : Reader) : Reader :=
  { r with opened := t.element :: addArgument t.argument r.opened }

def closeTag (r : Reader) : Reader :=
  { r with opened := r.opened.tail, methods := listed r.opened ++ r.methods }

/-- A whole tag has been read. -/
def finish (t : Tag) (r : Reader) : Reader :=
  let r := { r with mode := .text }
  if t.name.head? = some '!' ∨ t.name.head? = some '?' then r
  else if t.name.head? = some '/' then r.closeTag
  else if t.empty then (r.openTag t).closeTag
  else r.openTag t

def step (r : Reader) (c : Char) : Reader :=
  match r.mode with
  | .text => if c = '<' then { r with mode := .word {} [] } else r
  | .word tag w =>
    if c = '>' then r.finish (tag.endWord w)
    else if c = '\'' ∨ c = '"' then
      -- the word in front of the quote is the name of the attribute and an equals sign
      { r with mode := .value tag w.tail.reverse c [] }
    else if c.isWhitespace then { r with mode := .word (tag.endWord w) [] }
    else { r with mode := .word tag (c :: w) }
  | .value tag attr quote v =>
    if c = quote then
      { r with mode := .word { tag with attrs := (attr, v.reverse) :: tag.attrs } [] }
    else { r with mode := .value tag attr quote (c :: v) }

def read (r : Reader) (text : List Char) : Reader := text.foldl step r

end Reader

/-- The methods that a text lists. -/
def methodsOf (text : List Char) : List Method := (Reader.read {} text).methods

/-- A text that lists nothing and closes all that it opens, such as a declaration. -/
def DeclaresNothing (text : List Char) : Prop := Reader.read {} text = {}

instance (text : List Char) : Decidable (DeclaresNothing text) :=
  inferInstanceAs (Decidable (Reader.read {} text = {}))

/-! ## Reading piece by piece -/

namespace Reader

lemma read_append (r : Reader) (s t : List Char) : r.read (s ++ t) = (r.read s).read t :=
  List.foldl_append

/-- Inside the quotes everything belongs to the value. -/
lemma read_value (tag : Tag) (attr : List Char) (quote : Char) (opened : List Element)
    (methods : List Method) {s : List Char} (hs : quote ∉ s) (v : List Char) :
    read ⟨.value tag attr quote v, opened, methods⟩ s =
      ⟨.value tag attr quote (s.reverse ++ v), opened, methods⟩ := by
  induction s generalizing v with
  | nil => rfl
  | cons c s ih =>
    rw [List.mem_cons, not_or] at hs
    have hstep : step ⟨.value tag attr quote v, opened, methods⟩ c =
        ⟨.value tag attr quote (c :: v), opened, methods⟩ := by
      simp only [step, if_neg fun heq : c = quote => hs.1 heq.symm]
    unfold read at ih ⊢
    rw [List.foldl_cons, hstep, ih hs.2, List.reverse_cons, List.append_assoc]
    rfl

end Reader

/-- What follows a declaration is read as if it stood alone. -/
lemma methodsOf_append {s : List Char} (hs : DeclaresNothing s) (t : List Char) :
    methodsOf (s ++ t) = methodsOf t := by
  unfold methodsOf
  rw [Reader.read_append, hs]

end Introspection
