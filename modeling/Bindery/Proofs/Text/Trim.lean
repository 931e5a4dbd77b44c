import Bindery.Text.Basic
import Mathlib.Data.List.TakeWhile

set_option autoImplicit false

/-! # White space at the ends of a text

What is trimmed is taken from the text, and more white space behind the text makes no difference to
it. A trimmed text has white space at neither end (`isTrimmed_trim`), and is found again between
white space (`isTrimOf_iff`). -/

namespace Bindery

namespace Text

/-! ## What is left -/

theorem isPrefix_trimEnd (text : Text) : trimEnd text <+: text := by
  rw [trimEnd, ← List.reverse_suffix, List.reverse_reverse]
  exact List.dropWhile_suffix isBlank

theorem trim_sublist (text : Text) : (trim text).Sublist text :=
  (isPrefix_trimEnd _).sublist.trans (List.dropWhile_sublist isBlank)

theorem trimEnd_eq_nil_iff {text : Text} : trimEnd text = [] ↔ ∀ c ∈ text, isBlank c = true := by
  simp [trimEnd, List.dropWhile_eq_nil_iff]

theorem trimEnd_append_blanks {text blanks : Text} (hblanks : ∀ c ∈ blanks, isBlank c = true) :
    trimEnd (text ++ blanks) = trimEnd text := by
  rw [trimEnd, trimEnd, List.reverse_append, List.dropWhile_append_of_pos]
  simpa using hblanks

theorem trim_append_blank {text : Text} {c : Char} (hc : isBlank c = true) :
    trim (text ++ [c]) = trim text := by
  rw [trim, trim, trimStart, trimStart, List.dropWhile_append]
  split
  · next hall =>
    rw [List.isEmpty_iff] at hall
    simp [hall, hc]
  · exact trimEnd_append_blanks (by simpa using hc)

theorem trimStart_append {blanks rest : Text} {c : Char} (hblanks : ∀ c ∈ blanks, isBlank c = true)
    (hc : isBlank c = false) : trimStart (blanks ++ c :: rest) = c :: rest := by
  rw [trimStart, List.dropWhile_append_of_pos hblanks, List.dropWhile_cons_of_neg (by simp [hc])]

/-! ## Trimmed texts -/

/-- There is no white space at either end. -/
def IsTrimmed (text : Text) : Prop :=
  (∀ c ∈ text.head?, isBlank c = false) ∧ ∀ c ∈ text.getLast?, isBlank c = false

theorem trimStart_eq_self {text : Text} (h : ∀ c ∈ text.head?, isBlank c = false) :
    trimStart text = text := by
  cases text with
  | nil => rfl
  | cons c text => simp [trimStart, h c rfl]

theorem trimEnd_eq_self {text : Text} (h : ∀ c ∈ text.getLast?, isBlank c = false) :
    trimEnd text = text := by
  have hreverse : text.reverse.dropWhile isBlank = text.reverse :=
    trimStart_eq_self (by simpa using h)
  rw [trimEnd, hreverse, List.reverse_reverse]

theorem not_isBlank_of_mem_head?_trimStart {text : Text} :
    ∀ c ∈ (trimStart text).head?, isBlank c = false := by
  intro c hc
  have hhead := List.head?_dropWhile_not isBlank text
  rw [trimStart, Option.mem_def] at hc
  simpa [hc] using hhead

theorem not_isBlank_of_mem_getLast?_trimEnd {text : Text} :
    ∀ c ∈ (trimEnd text).getLast?, isBlank c = false := by
  rw [trimEnd, List.getLast?_reverse]
  exact not_isBlank_of_mem_head?_trimStart

/-- The front of a text with no white space at its own front has none there either. -/
theorem not_isBlank_head?_front {front text : Text} (hfront : front <+: text)
    (h : ∀ c ∈ text.head?, isBlank c = false) : ∀ c ∈ front.head?, isBlank c = false := by
  obtain ⟨rest, rfl⟩ := hfront
  intro c hc
  refine h c ?_
  rw [Option.mem_def] at hc ⊢
  rw [List.head?_append, hc]
  rfl

theorem isTrimmed_trimEnd {text : Text} (h : ∀ c ∈ text.head?, isBlank c = false) :
    IsTrimmed (trimEnd text) :=
  ⟨not_isBlank_head?_front (isPrefix_trimEnd text) h, not_isBlank_of_mem_getLast?_trimEnd⟩

theorem isTrimmed_trim (text : Text) : IsTrimmed (trim text) :=
  isTrimmed_trimEnd not_isBlank_of_mem_head?_trimStart

/-- What is left of the text without the white space at its ends. -/
structure IsTrimOf (trimmed text : Text) : Prop where
  eq : ∃ before behind, text = before ++ trimmed ++ behind ∧
    (∀ c ∈ before, isBlank c = true) ∧ ∀ c ∈ behind, isBlank c = true
  isTrimmed : IsTrimmed trimmed

/-- There is white space in front of what `trimStart` leaves, and nothing else. -/
theorem exists_trimStart (text : Text) :
    ∃ before, text = before ++ trimStart text ∧ ∀ c ∈ before, isBlank c = true :=
  ⟨text.takeWhile isBlank, List.takeWhile_append_dropWhile.symm, fun _ => List.mem_takeWhile_imp⟩

theorem exists_trimEnd (text : Text) :
    ∃ behind, text = trimEnd text ++ behind ∧ ∀ c ∈ behind, isBlank c = true := by
  obtain ⟨before, hsplit, hbefore⟩ := exists_trimStart text.reverse
  refine ⟨before.reverse, ?_, by simpa using hbefore⟩
  have hreverse := congrArg List.reverse hsplit
  rwa [List.reverse_reverse, List.reverse_append] at hreverse

theorem isTrimOf_iff {trimmed text : Text} : IsTrimOf trimmed text ↔ trimmed = trim text := by
  constructor
  · rintro ⟨⟨before, behind, rfl, hbefore, hbehind⟩, htrimmed⟩
    cases trimmed with
    | nil =>
      have hblank : trimStart (before ++ [] ++ behind) = [] := by
        rw [trimStart, List.dropWhile_eq_nil_iff]
        simpa [or_imp, forall_and] using And.intro hbefore hbehind
      rw [trim, hblank]
      rfl
    | cons c rest =>
      rw [List.append_assoc, List.cons_append, trim,
        trimStart_append hbefore (htrimmed.1 c rfl), ← List.cons_append,
        trimEnd_append_blanks hbehind, trimEnd_eq_self htrimmed.2]
  · rintro rfl
    obtain ⟨before, hstart, hbefore⟩ := exists_trimStart text
    obtain ⟨behind, hend, hbehind⟩ := exists_trimEnd (trimStart text)
    refine ⟨⟨before, behind, ?_, hbefore, hbehind⟩, isTrimmed_trim text⟩
    rw [List.append_assoc, trim, ← hend, ← hstart]

/-- White space in front of a trimmed text is trimmed. -/
theorem IsTrimmed.trim_cons {text : Text} (h : IsTrimmed text) {c : Char} (hc : isBlank c = true) :
    trim (c :: text) = text := by
  have htrim : IsTrimOf text (c :: text) := ⟨⟨[c], [], by simp, by simpa using hc, by simp⟩, h⟩
  exact (isTrimOf_iff.1 htrim).symm

end Text

end Bindery
