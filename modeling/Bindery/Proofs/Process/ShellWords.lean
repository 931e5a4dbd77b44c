import Bindery.Process.Quoting
import Mathlib.Logic.Function.Basic

set_option autoImplicit false

/-! # What a shell makes of a command line

A POSIX shell reads a line character by character and cuts it into words. It remembers how each
character of a word is written, for only some ways to write a character take its special meaning
away. Reserved words are words like any other here.

A quoted word is read back as that word, whatever stands in it (`foldl_step_shellQuote`), so a
command line is read back as the program and its arguments. No character of it is special to the
shell, but for the equals sign of a program whose name reads like an assignment
(`split_commandLine`). -/

namespace Bindery

namespace Shell

/-! ## Words -/

/-- How a character is written. -/
inductive Quoting where
  /-- As it is. -/
  | bare
  /-- Behind a backslash. -/
  | escaped
  /-- Between single quotes. -/
  | single
  /-- Between double quotes. -/
  | double
  deriving DecidableEq, Repr

/-- A character of a word. -/
structure Glyph where
  /-- The character itself. -/
  char : Char
  /-- How it is written. -/
  quoting : Quoting
  deriving DecidableEq, Repr

/-- A word of a command line. -/
abbrev Word := List Glyph

/-- The characters of a word. -/
def textOf (word : Word) : Text := word.map (·.char)

/-- A text that is written as it is. -/
def bareWord (text : Text) : Word := text.map (⟨·, .bare⟩)

/-! ## Reading -/

/-- Where in a line the shell is. -/
inductive Mode where
  | bare
  /-- Behind a backslash. -/
  | bareEscape
  | single
  | double
  /-- Behind a backslash between double quotes. -/
  | doubleEscape
  deriving DecidableEq, Repr

/-- A shell that reads a line. -/
structure Reader where
  mode : Mode
  /-- The words that are complete. -/
  words : List Word
  /-- The word that is read, if one is. Quotes start one, even if nothing is between them. -/
  word : Option Word
  deriving DecidableEq, Repr

namespace Reader

/-- Adds a character to the word. -/
def put (r : Reader) (c : Char) (quoting : Quoting) : Reader :=
  { r with word := some (r.word.getD [] ++ [⟨c, quoting⟩]) }

/-- Reads on between quotes. -/
def enter (r : Reader) (mode : Mode) : Reader :=
  { r with mode := mode, word := some (r.word.getD []) }

/-- Completes the word. -/
def close (r : Reader) : Reader := { r with words := r.words ++ r.word.toList, word := none }

/-- Reads a character. A backslash takes a line end away with it, and between double quotes it stays
in front of characters that mean nothing there. -/
def step (r : Reader) (c : Char) : Reader :=
  match r.mode with
  | .bare =>
    if c = ' ' ∨ c = '\t' then r.close
    else if c = '\x27' then r.enter .single
    else if c = '"' then r.enter .double
    else if c = '\\' then { r with mode := .bareEscape }
    else r.put c .bare
  | .bareEscape =>
    let back : Reader := { r with mode := .bare }
    if c = '\n' then back else back.put c .escaped
  | .single => if c = '\x27' then { r with mode := .bare } else r.put c .single
  | .double =>
    if c = '"' then { r with mode := .bare }
    else if c = '\\' then { r with mode := .doubleEscape }
    else r.put c .double
  | .doubleEscape =>
    let back : Reader := { r with mode := .double }
    if c = '\n' then back
    else if c ∈ "$`\"\\".toList then back.put c .escaped
    else (back.put '\\' .double).put c .double

end Reader

/-- The words of a line. A line in which quotes stay open has none. -/
def split (line : Text) : Option (List Word) :=
  let r := line.foldl Reader.step ⟨.bare, [], none⟩
  if r.mode = .bare then some r.close.words else none

/-! ## Special characters -/

/-- The characters with a meaning of their own for a shell, everywhere or at the start of a word.
The percent sign is not one of them: it has a meaning only in an expansion, behind `$`. -/
def metacharacters : Text := " \t\n|&;<>()$`\\\"\x27*?[]#~!\x7b\x7d^".toList

/-- The character has a meaning of its own as it is written. -/
def Glyph.isSpecial (glyph : Glyph) : Bool :=
  match glyph.quoting with
  | .bare => glyph.char ∈ metacharacters
  | .double => glyph.char ∈ "$`\\!".toList
  | .single | .escaped => false

/-- The character may stand in the name of a variable. -/
def Glyph.isOfName (glyph : Glyph) : Bool :=
  glyph.quoting = .bare &&
    (isAsciiLetter glyph.char || isAsciiDigit glyph.char || glyph.char = '_')

/-- The equals sign behind the name of a variable. -/
def assignmentSign : Glyph := ⟨'=', .bare⟩

/-- The word starts with the name of a variable and an equals sign. -/
def isAssignment (word : Word) : Bool :=
  match word.takeWhile Glyph.isOfName, word.dropWhile Glyph.isOfName with
  | first :: _, sign :: _ => !isAsciiDigit first.char && sign = assignmentSign
  | _, _ => false

/-- The words in front of a command that assign values to variables. -/
def assignments (words : List Word) : List Word := words.takeWhile isAssignment

/-- The characters of a command that the shell does not take for themselves. -/
def specials (words : List Word) : List Glyph :=
  words.flatMap (·.filter Glyph.isSpecial) ++ (assignments words).map fun _ => assignmentSign

/-! ## A word that is quoted -/

/-- The word that a quoted text is read as. -/
def quotedWord (text : Text) : Word :=
  if text ≠ [] ∧ text.all isShellSafe = true then bareWord text
  else text.map fun c => ⟨c, if c = '\x27' then .double else .single⟩

theorem not_mem_metacharacters {c : Char} (h : isShellSafe c = true) : c ∉ metacharacters := by
  intro hmem
  have hspecial : metacharacters.all (fun special => !isShellSafe special) = true := by
    decide
  have hunsure := List.all_eq_true.1 hspecial c hmem
  simp [h] at hunsure

theorem textOf_quotedWord (text : Text) : textOf (quotedWord text) = text := by
  unfold quotedWord
  split
  · simp [textOf, bareWord, Function.comp_def]
  · simp [textOf, Function.comp_def]

variable {words : List Word} {word : Word} {text : Text}

/-- A character without a meaning of its own is read as it is. -/
theorem step_bare {c : Char} (h : c ∉ metacharacters) (word : Option Word) :
    Reader.step ⟨.bare, words, word⟩ c =
      ⟨.bare, words, some (word.getD [] ++ [⟨c, .bare⟩])⟩ := by
  have hne : ∀ special ∈ metacharacters, c ≠ special := by
    rintro special hspecial rfl
    exact h hspecial
  have hblank : ¬ (c = ' ' ∨ c = '\t') := by
    rw [not_or]
    exact ⟨hne ' ' (by decide), hne '\t' (by decide)⟩
  simp only [Reader.step, Reader.put, if_neg hblank, if_neg (hne '\x27' (by decide)),
    if_neg (hne '"' (by decide)), if_neg (hne '\\' (by decide))]

theorem foldl_step_bare (h : text.all isShellSafe = true) (word : Word) :
    text.foldl Reader.step ⟨.bare, words, some word⟩ =
      ⟨.bare, words, some (word ++ bareWord text)⟩ := by
  induction text generalizing word with
  | nil => simp [bareWord]
  | cons c text ih =>
    rw [List.all_cons, Bool.and_eq_true] at h
    rw [List.foldl_cons, step_bare (not_mem_metacharacters h.1), Option.getD_some, ih h.2]
    simp [bareWord]

/-- Between single quotes everything is read as it is, a quoted quote as a quote. -/
theorem foldl_step_single (text : Text) (word : Word) :
    (text.flatMap fun c => if c = '\x27' then quotedQuote else [c]).foldl Reader.step
        ⟨.single, words, some word⟩ =
      ⟨.single, words,
        some (word ++ text.map fun c => ⟨c, if c = '\x27' then .double else .single⟩)⟩ := by
  induction text generalizing word with
  | nil => simp
  | cons c text ih =>
    have hstep : (if c = '\x27' then quotedQuote else [c]).foldl Reader.step
        ⟨.single, words, some word⟩ = ⟨.single, words,
          some (word ++ [⟨c, if c = '\x27' then .double else .single⟩])⟩ := by
      by_cases hc : c = '\x27'
      · simp [hc, quotedQuote, Reader.step, Reader.put, Reader.enter]
      · simp [hc, Reader.step, Reader.put]
    rw [List.flatMap_cons, List.foldl_append, hstep, ih]
    simp

/-- A quoted text is read as one word. -/
theorem foldl_step_shellQuote (text : Text) :
    (shellQuote text).foldl Reader.step ⟨.bare, words, none⟩ =
      ⟨.bare, words, some (quotedWord text)⟩ := by
  unfold shellQuote quotedWord
  split
  · next h =>
    obtain ⟨hne, hsafe⟩ := h
    cases text with
    | nil => exact absurd rfl hne
    | cons c text =>
      rw [List.all_cons, Bool.and_eq_true] at hsafe
      rw [List.foldl_cons, step_bare (not_mem_metacharacters hsafe.1), foldl_step_bare hsafe.2]
      simp [bareWord]
  · have hopen : Reader.step ⟨.bare, words, none⟩ '\x27' = ⟨.single, words, some []⟩ := rfl
    rw [List.cons_append, List.foldl_cons, hopen, List.foldl_append, foldl_step_single]
    simp [Reader.step]

/-! ## A command line -/

/-- Quoted texts with blanks between them are read as one word each. -/
theorem close_foldl_step_join (text : Text) (texts : List Text) (words : List Word) :
    ((Text.join [' '] ((text :: texts).map shellQuote)).foldl Reader.step
        ⟨.bare, words, none⟩).close =
      ⟨.bare, words ++ (text :: texts).map quotedWord, none⟩ := by
  induction texts generalizing text words with
  | nil =>
    simp only [List.map_cons, List.map_nil, Text.join, foldl_step_shellQuote]
    simp [Reader.close]
  | cons next texts ih =>
    have hblank : Reader.step ⟨.bare, words, some (quotedWord text)⟩ ' ' =
        ⟨.bare, words ++ [quotedWord text], none⟩ := rfl
    have hjoin : Text.join [' '] ((text :: next :: texts).map shellQuote) =
        shellQuote text ++ ' ' :: Text.join [' '] ((next :: texts).map shellQuote) := by
      simp [Text.join]
    rw [hjoin, List.foldl_append, foldl_step_shellQuote, List.foldl_cons, hblank, ih]
    simp

theorem split_commandLine_eq (program : Path) (arguments : List Text) :
    split (commandLine program arguments) = some ((program :: arguments).map quotedWord) := by
  have hclose := close_foldl_step_join program arguments []
  have hmode : ∀ r : Reader, r.close.mode = r.mode := fun _ => rfl
  unfold split commandLine
  simp only
  rw [← hmode, hclose]
  simp

/-! ## Nothing special -/

theorem isSpecial_of_mem_quotedWord {glyph : Glyph} (h : glyph ∈ quotedWord text) :
    glyph.isSpecial = false := by
  unfold quotedWord at h
  split at h
  · next hsafe =>
    obtain ⟨c, hc, rfl⟩ := List.mem_map.1 h
    exact decide_eq_false (not_mem_metacharacters (List.all_eq_true.1 hsafe.2 c hc))
  · obtain ⟨c, _, rfl⟩ := List.mem_map.1 h
    by_cases hc : c = '\x27'
    · subst hc
      decide
    · simp [Glyph.isSpecial, hc]

/-- A quoted word assigns a value exactly if it is written as it is and reads like an assignment. -/
theorem isAssignment_quotedWord (text : Text) :
    isAssignment (quotedWord text) = true ↔
      text.all isShellSafe = true ∧ isAssignment (bareWord text) = true := by
  unfold quotedWord
  cases text with
  | nil => simp [bareWord]
  | cons c text =>
    split
    · next h => simp [h.2]
    · next h =>
      have hnotAll : ¬ (c :: text).all isShellSafe = true :=
        fun hsafe => h ⟨List.cons_ne_nil _ _, hsafe⟩
      have hquoted : (if c = '\x27' then Quoting.double else .single) ≠ .bare := by
        split <;> simp
      simp [hnotAll, isAssignment, Glyph.isOfName, hquoted]

theorem specials_map_quotedWord (texts : List Text) :
    specials (texts.map quotedWord) =
      (assignments (texts.map quotedWord)).map fun _ => assignmentSign := by
  have hnone : (texts.map quotedWord).flatMap (·.filter Glyph.isSpecial) = [] := by
    rw [List.flatMap_eq_nil_iff]
    intro word hword
    obtain ⟨text, _, rfl⟩ := List.mem_map.1 hword
    rw [List.filter_eq_nil_iff]
    intro glyph hglyph
    simp [isSpecial_of_mem_quotedWord hglyph]
  rw [specials, hnone, List.nil_append]

theorem assignments_eq_nil_iff (program : Path) (arguments : List Text) :
    assignments ((program :: arguments).map quotedWord) = [] ↔
      ¬ (program.all isShellSafe = true ∧ isAssignment (bareWord program) = true) := by
  rw [← isAssignment_quotedWord, assignments, List.map_cons, List.takeWhile_cons]
  split
  · next h => simp [h]
  · next h => simp [h]

/-- A shell reads a command line as the program and its arguments, so no two command lines are the
same. No character of it is special to the shell but the equals signs of assignments. There are such
exactly if the program itself reads like an assignment and is written as it is. -/
theorem split_commandLine :
    (∀ program arguments, ∃ words,
      split (commandLine program arguments) = some words ∧
        words.map textOf = program :: arguments ∧
        specials words = (assignments words).map (fun _ => assignmentSign) ∧
        (assignments words = [] ↔
          ¬ (program.all isShellSafe = true ∧ isAssignment (bareWord program) = true))) ∧
      Function.Injective2 commandLine := by
  have htexts : ∀ texts : List Text, (texts.map quotedWord).map textOf = texts := by
    intro texts
    simp [Function.comp_def, textOf_quotedWord]
  constructor
  · intro program arguments
    exact ⟨_, split_commandLine_eq program arguments, htexts _, specials_map_quotedWord _,
      assignments_eq_nil_iff program arguments⟩
  · intro program program' arguments arguments' hsame
    have hwords :
        (program :: arguments).map quotedWord = (program' :: arguments').map quotedWord := by
      rw [← Option.some.injEq, ← split_commandLine_eq, ← split_commandLine_eq, hsame]
    have hlists : program :: arguments = program' :: arguments' := by
      rw [← htexts (program :: arguments), hwords, htexts]
    exact List.cons.inj hlists

/-- A program whose name reads like an assignment is not quoted. A shell would set a variable and
run the first argument. -/
theorem specials_commandLine_assignment :
    commandLine "A=1".toList ["x".toList] = "A=1 x".toList ∧
      (split (commandLine "A=1".toList ["x".toList])).map specials = some [assignmentSign] := by
  decide

end Shell

end Bindery
