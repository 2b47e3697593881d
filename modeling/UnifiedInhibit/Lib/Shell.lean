import Mathlib

/-!
# Words of a shell command line

How a POSIX shell cuts a line into words, for lines of ordinary characters, blanks and double
quotes. Inside double quotes the dollar sign and the backquote start expansions, and a backslash
escapes a dollar sign, a backquote, a double quote, a backslash or a newline. A line that has an
expansion, an operator or anything else outside this fragment has no words here.
-/

namespace Shell

/-- Characters that stand for themselves without quotes. -/
def ordinary (c : UInt8) : Bool :=
  (48 ≤ c && c ≤ 57) || (65 ≤ c && c ≤ 90) || (97 ≤ c && c ≤ 122) ||
    c ∈ [37, 43, 44, 45, 46, 47, 58, 64, 95]

def blank (c : UInt8) : Bool := c = 32 || c = 9

/-- What a backslash escapes inside double quotes: newline, `"`, `$`, backslash and backquote. -/
def escapable (c : UInt8) : Bool := c ∈ [10, 34, 36, 92, 96]

/-- What starts an expansion inside double quotes. -/
def expands (c : UInt8) : Bool := c ∈ [36, 96]

/-- Where the reader is: between words, in a word, inside double quotes, or behind a backslash
there. -/
inductive Mode where
  | between
  | word (w : List UInt8)
  | quoted (w : List UInt8)
  | escaped (w : List UInt8)
deriving DecidableEq

def Mode.Inside : Mode → Prop
  | .between | .word _ => False
  | .quoted _ | .escaped _ => True

structure Reader where
  words : List (List UInt8) := []
  mode : Mode := .between
deriving DecidableEq

def Reader.step (r : Reader) (c : UInt8) : Option Reader :=
  match r.mode with
  | .between =>
    if blank c then some r
    else if c = 34 then some { r with mode := .quoted [] }
    else if ordinary c then some { r with mode := .word [c] }
    else none
  | .word w =>
    if blank c then some { words := r.words ++ [w], mode := .between }
    else if c = 34 then some { r with mode := .quoted w }
    else if ordinary c then some { r with mode := .word (w ++ [c]) }
    else none
  | .quoted w =>
    if c = 34 then some { r with mode := .word w }
    else if c = 92 then some { r with mode := .escaped w }
    else if expands c then none
    else some { r with mode := .quoted (w ++ [c]) }
  | .escaped w =>
    if c = 10 then some { r with mode := .quoted w }
    else if escapable c then some { r with mode := .quoted (w ++ [c]) }
    else some { r with mode := .quoted (w ++ [92, c]) }

def Reader.read (r : Reader) (line : List UInt8) : Option Reader := line.foldlM Reader.step r

/-- The words at the end of a line. An open quote is an error. -/
def Reader.finish (r : Reader) : Option (List (List UInt8)) :=
  match r.mode with
  | .between => some r.words
  | .word w => some (r.words ++ [w])
  | .quoted _ | .escaped _ => none

/-- The words of a line. -/
def words (line : List UInt8) : Option (List (List UInt8)) :=
  (Reader.read {} line).bind Reader.finish

/-- The reserved words that are spelled in ordinary characters. -/
def reserved : List String :=
  ["case", "do", "done", "elif", "else", "esac", "fi", "for", "if", "in", "then", "until", "while"]

def Reserved (word : List UInt8) : Prop :=
  word ∈ reserved.map fun s => s.toList.map fun c => c.toNat.toUInt8

instance (word : List UInt8) : Decidable (Reserved word) :=
  inferInstanceAs (Decidable (word ∈ _))

/-- The words of a line that is one simple command. -/
def simpleCommand (line : List UInt8) : Option (List (List UInt8)) :=
  match words line with
  | some (name :: args) => if Reserved name then none else some (name :: args)
  | _ => none

lemma simpleCommand_eq_some_iff {line name : List UInt8} {args : List (List UInt8)} :
    simpleCommand line = some (name :: args) ↔
      words line = some (name :: args) ∧ ¬ Reserved name := by
  unfold simpleCommand
  cases hwords : words line with
  | none => simp
  | some ws =>
    cases ws with
    | nil => simp
    | cons name' args' =>
      by_cases hreserved : Reserved name'
      · simp only [if_pos hreserved, reduceCtorEq, Option.some.injEq, List.cons.injEq, false_iff]
        rintro ⟨⟨rfl, -⟩, hnot⟩
        exact hnot hreserved
      · simp only [if_neg hreserved, Option.some.injEq, List.cons.injEq]
        apply Iff.intro
        · rintro ⟨rfl, rfl⟩
          exact ⟨⟨rfl, rfl⟩, hreserved⟩
        · exact And.left

/-! ## Text inside double quotes -/

/-- No expansion starts in the text, and no backslash in it escapes the byte behind it. -/
structure Plain (text : List UInt8) : Prop where
  expands : ∀ c ∈ text, ¬ Shell.expands c
  escapes : text.IsChain fun c d => c = 92 → ¬ escapable d

/-- Text that double quotes keep as it is: nor does its last byte escape the closing quote. -/
structure Verbatim (text : List UInt8) : Prop extends Plain text where
  closes : text.getLast? ≠ some 92

lemma plain_append {s t : List UInt8} :
    Plain (s ++ t) ↔ Plain s ∧ Plain t ∧
      ∀ c ∈ s.getLast?, ∀ d ∈ t.head?, c = 92 → ¬ escapable d := by
  apply Iff.intro
  · rintro ⟨hexpands, hescapes⟩
    obtain ⟨hs, ht, hbetween⟩ := List.isChain_append.mp hescapes
    exact ⟨⟨fun c hc => hexpands c (List.mem_append_left t hc), hs⟩,
      ⟨fun c hc => hexpands c (List.mem_append_right s hc), ht⟩, hbetween⟩
  · rintro ⟨hs, ht, hbetween⟩
    refine ⟨fun c hc => ?_, List.isChain_append.mpr ⟨hs.escapes, ht.escapes, hbetween⟩⟩
    rcases List.mem_append.mp hc with hc | hc
    · exact hs.expands c hc
    · exact ht.expands c hc

/-- A backslash in front of verbatim text stands for itself if the text starts with a byte that it
does not escape. -/
lemma verbatim_cons {c : UInt8} {text : List UInt8} :
    Verbatim (c :: text) ↔ ¬ expands c ∧ Verbatim text ∧
      (c = 92 → ∃ d ∈ text.head?, ¬ escapable d) := by
  apply Iff.intro
  · rintro ⟨⟨hexpands, hescapes⟩, hcloses⟩
    rw [List.isChain_cons] at hescapes
    refine ⟨hexpands c List.mem_cons_self, ⟨⟨fun d hd => hexpands d (List.mem_cons_of_mem c hd),
      hescapes.2⟩, ?_⟩, ?_⟩
    · intro hlast
      rw [List.getLast?_cons, hlast] at hcloses
      exact hcloses rfl
    · rintro rfl
      cases text with
      | nil => exact absurd rfl hcloses
      | cons d text => exact ⟨d, rfl, hescapes.1 d rfl rfl⟩
  · rintro ⟨hc, ⟨⟨hexpands, hescapes⟩, hcloses⟩, hhead⟩
    refine ⟨⟨?_, List.isChain_cons.mpr ⟨?_, hescapes⟩⟩, ?_⟩
    · intro d hd
      rcases List.mem_cons.mp hd with rfl | hd
      · exact hc
      · exact hexpands d hd
    · intro d hd heq
      obtain ⟨d', hd', hnot⟩ := hhead heq
      rw [Option.mem_def.mp hd] at hd'
      rw [Option.some.inj hd']
      exact hnot
    · cases text with
      | nil =>
        intro hlast
        obtain ⟨d, hd, -⟩ := hhead (Option.some.inj hlast)
        cases hd
      | cons d text => rwa [List.getLast?_cons_cons]

/-! ## Reading quoted text -/

section Reading

variable {ws : List (List UInt8)}

lemma read_append (r : Reader) (s t : List UInt8) :
    r.read (s ++ t) = (r.read s).bind fun r' => r'.read t :=
  List.foldlM_append

lemma read_cons (r : Reader) (c : UInt8) (s : List UInt8) :
    r.read (c :: s) = (r.step c).bind fun r' => r'.read s :=
  List.foldlM_cons

/-- Verbatim text is read as it is up to the closing quote, also behind a backslash that does not
escape its first byte. -/
lemma read_verbatim {text : List UInt8} (hquote : 34 ∉ text) (h : Verbatim text) (w : List UInt8) :
    (Reader.mk ws (.quoted w)).read (text ++ [34]) = some ⟨ws, .word (w ++ text)⟩ ∧
      ((∃ d ∈ text.head?, ¬ escapable d) →
        (Reader.mk ws (.escaped w)).read (text ++ [34]) = some ⟨ws, .word (w ++ 92 :: text)⟩) := by
  -- both states of the reader at once: a backslash leads from the one to the other
  induction text generalizing w with
  | nil =>
    refine ⟨?_, fun ⟨d, hd, _⟩ => absurd hd (by simp)⟩
    rw [List.append_nil]
    rfl
  | cons c text ih =>
    obtain ⟨hc, htext, hhead⟩ := verbatim_cons.mp h
    obtain ⟨hne, hquote⟩ := not_or.mp (List.mem_cons.not.mp hquote)
    rw [List.cons_append, read_cons, read_cons]
    refine ⟨?_, ?_⟩
    · -- what a backslash does depends on the byte behind it
      by_cases hback : c = 92
      · have hstep : (Reader.mk ws (.quoted w)).step c = some ⟨ws, .escaped w⟩ := by
          rw [hback]
          rfl
        rw [hstep, Option.bind_some, (ih hquote htext w).2 (hhead hback), hback]
      · have hstep : (Reader.mk ws (.quoted w)).step c = some ⟨ws, .quoted (w ++ [c])⟩ := by
          simp [Reader.step, hback, hc, Ne.symm hne]
        rw [hstep, Option.bind_some, (ih hquote htext _).1, List.append_assoc]
        rfl
    · rintro ⟨d, hd, hnot⟩
      rw [← Option.some.inj hd] at hnot
      have hnewline : c ≠ 10 := by
        rintro rfl
        exact hnot rfl
      have hstep : (Reader.mk ws (.escaped w)).step c = some ⟨ws, .quoted (w ++ [92, c])⟩ := by
        simp [Reader.step, hnewline, hnot]
      rw [hstep, Option.bind_some, (ih hquote htext _).1, List.append_assoc]
      rfl

/-- Quotes never add to the text. -/
lemma length_read_le {text : List UInt8} (hquote : 34 ∉ text) {w v : List UInt8}
    {ws' : List (List UInt8)} :
    ((Reader.mk ws (.quoted w)).read (text ++ [34]) = some ⟨ws', .word v⟩ →
      v.length ≤ w.length + text.length) ∧
    ((Reader.mk ws (.escaped w)).read (text ++ [34]) = some ⟨ws', .word v⟩ →
      v.length ≤ w.length + 1 + text.length) := by
  -- a line continuation drops two bytes, everything else keeps what it reads
  induction text generalizing w with
  | nil =>
    refine ⟨fun h => ?_, fun h => ?_⟩
    · have hv : Reader.mk ws (.word w) = ⟨ws', .word v⟩ := Option.some.inj h
      have hw : w = v := Mode.word.inj (Reader.mk.inj hv).2
      rw [hw]
      omega
    · have hv : Reader.mk ws (.quoted (w ++ [34])) = ⟨ws', .word v⟩ := Option.some.inj h
      cases hv
  | cons c text ih =>
    obtain ⟨hne, hquote⟩ := not_or.mp (List.mem_cons.not.mp hquote)
    rw [List.cons_append, read_cons, read_cons, List.length_cons]
    refine ⟨fun h => ?_, fun h => ?_⟩
    · unfold Reader.step at h
      dsimp only at h
      rw [if_neg (Ne.symm hne)] at h
      split at h
      · have hle := (ih hquote).2 h
        omega
      split at h
      · cases h
      · have hle := (ih hquote).1 h
        rw [List.length_append, List.length_singleton] at hle
        omega
    · unfold Reader.step at h
      dsimp only at h
      split at h
      · have hle := (ih hquote).1 h
        omega
      split at h
      · have hle := (ih hquote).1 h
        rw [List.length_append, List.length_singleton] at hle
        omega
      · have hle := (ih hquote).1 h
        rw [List.length_append, List.length_cons, List.length_singleton] at hle
        omega

/-- Only verbatim text is read as it is: an escape makes the word shorter. -/
lemma verbatim_of_read {text : List UInt8} (hquote : 34 ∉ text) {w : List UInt8}
    {ws' : List (List UInt8)} :
    ((Reader.mk ws (.quoted w)).read (text ++ [34]) = some ⟨ws', .word (w ++ text)⟩ →
      Verbatim text) ∧
    ((Reader.mk ws (.escaped w)).read (text ++ [34]) = some ⟨ws', .word (w ++ 92 :: text)⟩ →
      Verbatim text ∧ ∃ d ∈ text.head?, ¬ escapable d) := by
  induction text generalizing w with
  | nil =>
    refine ⟨fun _ => ⟨⟨by simp, List.IsChain.nil⟩, by simp⟩, fun h => ?_⟩
    have hv : Reader.mk ws (.quoted (w ++ [34])) = ⟨ws', .word (w ++ [92])⟩ := Option.some.inj h
    cases hv
  | cons c text ih =>
    obtain ⟨hne, hquote⟩ := not_or.mp (List.mem_cons.not.mp hquote)
    have happend (d : List UInt8) : w ++ (d ++ text) = w ++ d ++ text := by rw [List.append_assoc]
    rw [List.cons_append, read_cons, read_cons, verbatim_cons]
    refine ⟨fun h => ?_, fun h => ?_⟩
    · unfold Reader.step at h
      dsimp only at h
      rw [if_neg (Ne.symm hne)] at h
      -- a backslash leads to the escaped mode, any other byte is kept
      split at h
      · rename_i hback
        rw [hback] at h ⊢
        obtain ⟨htext, hhead⟩ := (ih hquote).2 h
        exact ⟨by decide, htext, fun _ => hhead⟩
      · rename_i hback
        split at h
        · cases h
        · rename_i hc
          exact ⟨hc, (ih hquote).1 ((happend [c]).symm ▸ h), fun heq => absurd heq hback⟩
    · -- whatever the backslash escapes, the word ends up too short
      have hlength : (w ++ 92 :: c :: text).length = w.length + 2 + text.length := by
        simp only [List.length_append, List.length_cons]
        omega
      unfold Reader.step at h
      dsimp only at h
      split at h
      · have hle := (length_read_le hquote).1 h
        omega
      split at h
      · have hle := (length_read_le hquote).1 h
        rw [hlength, List.length_append, List.length_singleton] at hle
        omega
      · rename_i hnewline hnot
        have htext := (ih hquote).1 ((happend [92, c]).symm ▸ h)
        have hback : c ≠ 92 := by
          rintro rfl
          exact hnot rfl
        have hc : ¬ expands c := by
          intro hexpands
          unfold expands at hexpands
          unfold escapable at hnot
          simp_all
        exact ⟨⟨hc, htext, fun heq => absurd heq hback⟩, c, rfl, hnot⟩

/-- The text without quotes leaves the reader inside the quotes, with the words before them. -/
lemma read_inside {text : List UInt8} (hquote : 34 ∉ text) {r r' : Reader} (hr : r.mode.Inside)
    (h : r.read text = some r') : r'.words = r.words ∧ r'.mode.Inside := by
  induction text generalizing r with
  | nil =>
    rw [← Option.some.inj h]
    exact ⟨rfl, hr⟩
  | cons c text ih =>
    obtain ⟨hne, hquote⟩ := not_or.mp (List.mem_cons.not.mp hquote)
    have hstep : ∀ r₁, r.step c = some r₁ → r₁.words = r.words ∧ r₁.mode.Inside := by
      intro r₁ h₁
      obtain ⟨ws, mode⟩ := r
      cases mode with
      | between => exact absurd hr id
      | word w => exact absurd hr id
      | quoted w =>
        unfold Reader.step at h₁
        dsimp only at h₁
        rw [if_neg (Ne.symm hne)] at h₁
        split at h₁
        · rw [← Option.some.inj h₁]
          exact ⟨rfl, trivial⟩
        split at h₁
        · cases h₁
        · rw [← Option.some.inj h₁]
          exact ⟨rfl, trivial⟩
      | escaped w =>
        have h₁ : (if c = 10 then some (Reader.mk ws (.quoted w))
            else if escapable c then some ⟨ws, .quoted (w ++ [c])⟩
            else some ⟨ws, .quoted (w ++ [92, c])⟩) = some r₁ := h₁
        split_ifs at h₁ <;> rw [← Option.some.inj h₁] <;> exact ⟨rfl, trivial⟩
    rw [read_cons] at h
    obtain ⟨r₁, h₁, h⟩ := Option.bind_eq_some_iff.mp h
    obtain ⟨hwords₁, hmode₁⟩ := hstep r₁ h₁
    obtain ⟨hwords, hmode⟩ := ih hquote hmode₁ h
    exact ⟨hwords.trans hwords₁, hmode⟩

/-- A word in double quotes at the end of a line is the text between them exactly when the text is
verbatim. -/
theorem words_quoted_iff {front text : List UInt8}
    (hfront : Reader.read {} front = some ⟨ws, .between⟩) (hquote : 34 ∉ text) :
    words (front ++ 34 :: (text ++ [34])) = some (ws ++ [text]) ↔ Verbatim text := by
  have hread : Reader.read {} (front ++ 34 :: (text ++ [34])) =
      (Reader.mk ws (.quoted [])).read (text ++ [34]) := by
    rw [read_append, hfront, Option.bind_some, read_cons]
    rfl
  unfold words
  rw [hread]
  apply Iff.intro
  · intro h
    obtain ⟨r, hr, hfinish⟩ := Option.bind_eq_some_iff.mp h
    have hclose := hr
    rw [read_append] at hclose
    obtain ⟨r', hr', hclose⟩ := Option.bind_eq_some_iff.mp hclose
    have hinside : (Reader.mk ws (.quoted [])).mode.Inside := trivial
    obtain ⟨hwords, hmode⟩ := read_inside hquote hinside hr'
    obtain ⟨ws', mode⟩ := r'
    cases mode with
    | between => exact absurd hmode id
    | word w => exact absurd hmode id
    | quoted w =>
      -- the quotes are closed, so the word is what they have kept
      have hr₁ : r = ⟨ws', .word w⟩ := (Option.some.inj hclose).symm
      rw [hr₁] at hfinish
      have hsplit : ws' ++ [w] = ws ++ [text] := Option.some.inj hfinish
      have hw : w = text := by
        rw [show ws' = ws from hwords] at hsplit
        exact List.singleton_injective (List.append_cancel_left hsplit)
      rw [hr₁, hw] at hr
      exact (verbatim_of_read hquote).1 hr
    | escaped w =>
      have hr₁ : r = ⟨ws', .quoted (w ++ [34])⟩ := (Option.some.inj hclose).symm
      rw [hr₁] at hfinish
      cases hfinish
  · intro h
    rw [(read_verbatim hquote h []).1]
    rfl

end Reading

end Shell
