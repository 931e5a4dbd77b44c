import Bindery.Text.Basic

set_option autoImplicit false

/-! # The lines of a text, from line to line

`Text.lines` reads characters. Here a text is taken apart at its line feeds instead: a text that
ends with a line has its lines in front of those of what follows (`lines_append`), and the line up
to the first line feed is the first line, less a carriage return at its end (`lines_line`). -/

namespace Bindery

namespace Text

/-- The text without a carriage return at its end. -/
def dropReturn : Text → Text
  | [] => []
  | ['\r'] => []
  | c :: text => c :: dropReturn text

/-- What follows the text stands at the start of a line. -/
def EndsLine (front : Text) : Prop := ∀ c ∈ front.getLast?, c = '\n'

theorem dropReturn_cons_of_ne_nil {c : Char} {text : Text} (h : text ≠ []) :
    dropReturn (c :: text) = c :: dropReturn text := by
  cases text with
  | nil => exact absurd rfl h
  | cons d text => simp [dropReturn]

theorem dropReturn_singleton {c : Char} (h : c ≠ '\r') : dropReturn [c] = [c] := by
  simp [dropReturn, h]

theorem eq_dropReturn_or (text : Text) :
    dropReturn text = text ∨ text = dropReturn text ++ ['\r'] := by
  induction text with
  | nil => exact Or.inl rfl
  | cons c text ih =>
    by_cases htext : text = []
    · subst htext
      by_cases hc : c = '\r'
      · subst hc
        exact Or.inr rfl
      · exact Or.inl (dropReturn_singleton hc)
    · rw [dropReturn_cons_of_ne_nil htext]
      rcases ih with ih | ih
      · exact Or.inl (by rw [ih])
      · exact Or.inr (by rw [List.cons_append, ← ih])

theorem dropReturn_of_getLast?_ne {line : Text} (h : line.getLast? ≠ some '\r') :
    dropReturn line = line := by
  rcases eq_dropReturn_or line with hsame | hreturn
  · exact hsame
  · rw [hreturn] at h
    exact absurd List.getLast?_concat h

theorem dropReturn_append_return (line : Text) : dropReturn (line ++ ['\r']) = line := by
  induction line with
  | nil => rfl
  | cons c line ih =>
    rw [List.cons_append, dropReturn_cons_of_ne_nil (by simp), ih]

theorem lines_nil : lines [] = [] := rfl

theorem lines_lineFeed (text : Text) : lines ('\n' :: text) = [] :: lines text := rfl

theorem lines_cons {c : Char} {text : Text} (hc : c ≠ '\n')
    (h : c = '\r' → text.head? ≠ some '\n') :
    lines (c :: text) =
      match lines text with
      | [] => [[c]]
      | line :: rest => (c :: line) :: rest := by
  have hreturn : ∀ rest, c = '\r' → text = '\n' :: rest → False := by
    rintro rest hc rfl
    exact h hc rfl
  exact lines.eq_4 c text hc hreturn

/-- A text without line feeds is a single line. -/
theorem lines_of_not_mem {line : Text} (h : '\n' ∉ line) (hne : line ≠ []) :
    lines line = [line] := by
  induction line with
  | nil => exact absurd rfl hne
  | cons c text ih =>
    obtain ⟨hc, htext⟩ := not_or.1 (mt List.mem_cons.2 h)
    have hhead : text.head? ≠ some '\n' := fun he => htext (List.mem_of_head? he)
    rw [lines_cons (Ne.symm hc) fun _ => hhead]
    by_cases hnil : text = []
    · rw [hnil, lines_nil]
    · rw [ih htext hnil]

/-- The line up to the first line feed is the first line. -/
theorem lines_line {line : Text} (h : '\n' ∉ line) (rest : Text) :
    lines (line ++ '\n' :: rest) = dropReturn line :: lines rest := by
  induction line with
  | nil => rfl
  | cons c text ih =>
    obtain ⟨hc, htext⟩ := not_or.1 (mt List.mem_cons.2 h)
    rw [List.cons_append]
    by_cases hnil : text = []
    · subst hnil
      by_cases hr : c = '\r'
      · subst hr
        rfl
      · rw [List.nil_append, lines_cons (Ne.symm hc) fun he => absurd he hr,
          dropReturn_singleton hr, lines_lineFeed]
    · have hhead : (text ++ '\n' :: rest).head? ≠ some '\n' := by
        rw [List.head?_append, List.head?_eq_some_head hnil]
        intro he
        have hmem := List.head_mem hnil
        simp_all
      rw [lines_cons (Ne.symm hc) fun _ => hhead, ih htext, dropReturn_cons_of_ne_nil hnil]

/-- A text is a single line, or a line and a text behind its line feed. -/
theorem line_induction {motive : Text → Prop}
    (last : ∀ line, '\n' ∉ line → motive line)
    (line : ∀ line rest, '\n' ∉ line → motive rest → motive (line ++ '\n' :: rest))
    (text : Text) : motive text := by
  induction hn : text.length using Nat.strongRecOn generalizing text with
  | ind n ih =>
    by_cases hmem : '\n' ∈ text
    · obtain ⟨front, rest, rfl, hfront⟩ := List.eq_append_cons_of_mem hmem
      refine line front rest hfront (ih rest.length ?_ rest rfl)
      rw [← hn, List.length_append, List.length_cons]
      omega
    · exact last text hmem

/-- Lines that end in front of a text come before its lines. -/
theorem lines_append {front : Text} (h : EndsLine front) (rest : Text) :
    lines (front ++ rest) = lines front ++ lines rest := by
  induction front using line_induction with
  | last line hline =>
    cases hlast : line.getLast? with
    | none =>
      rw [List.getLast?_eq_none_iff.1 hlast, lines_nil, List.nil_append, List.nil_append]
    | some c =>
      have hc : c = '\n' := h c hlast
      exact absurd (hc ▸ List.mem_of_getLast? hlast) hline
  | line line tail hline ih =>
    have htail : EndsLine tail := by
      intro c hc
      refine h c ?_
      rw [Option.mem_def] at hc ⊢
      simp [List.getLast?_append, List.getLast?_cons, hc]
    rw [List.append_assoc, List.cons_append, lines_line hline, lines_line hline, ih htail,
      List.cons_append]

theorem mem_of_mem_dropReturn {c : Char} {line : Text} (h : c ∈ dropReturn line) : c ∈ line := by
  rcases eq_dropReturn_or line with hsame | hreturn
  · rwa [hsame] at h
  · rw [hreturn]
    exact List.mem_append_left _ h

/-! ### The first line -/

/-- The first line of a text: what stands in front of its first line feed, without a carriage return
directly before that, or the whole text if there is no line feed. -/
inductive IsFirstLine : (text line : Text) → Prop
  | whole {line : Text} : '\n' ∉ line → IsFirstLine line line
  | ended {line : Text} (rest : Text) : '\n' ∉ line → line.getLast? ≠ some '\r' →
      IsFirstLine (line ++ '\n' :: rest) line
  | returned {line : Text} (rest : Text) : '\n' ∉ line →
      IsFirstLine (line ++ '\r' :: '\n' :: rest) line

theorem isFirstLine_iff {text line : Text} :
    IsFirstLine text line ↔ line = (lines text).headD [] := by
  constructor
  · intro h
    cases h with
    | whole hline =>
      by_cases hnil : text = []
      · rw [hnil]
        rfl
      · rw [lines_of_not_mem hline hnil]
        rfl
    | ended rest hline hreturn =>
      rw [lines_line hline, List.headD_cons, dropReturn_of_getLast?_ne hreturn]
    | returned rest hline =>
      have hfeed : '\n' ∉ line ++ ['\r'] := by simpa using hline
      have hlines := lines_line hfeed rest
      rw [List.append_assoc, List.singleton_append] at hlines
      rw [hlines, List.headD_cons, dropReturn_append_return]
  · rintro rfl
    induction text using line_induction with
    | last line hline =>
      by_cases hnil : line = []
      · rw [hnil]
        exact .whole List.not_mem_nil
      · rw [lines_of_not_mem hline hnil]
        exact .whole hline
    | line line rest hline _ =>
      rw [lines_line hline, List.headD_cons]
      by_cases hreturn : line.getLast? = some '\r'
      · obtain ⟨front, rfl⟩ := List.getLast?_eq_some_iff.1 hreturn
        rw [dropReturn_append_return, List.append_assoc, List.singleton_append]
        exact .returned rest fun hmem => hline (List.mem_append_left _ hmem)
      · rw [dropReturn_of_getLast?_ne hreturn]
        exact .ended rest hline hreturn

/-- No line holds a line feed. -/
theorem not_mem_of_mem_lines {text line : Text} (h : line ∈ lines text) : '\n' ∉ line := by
  induction text using line_induction with
  | last last hlast =>
    by_cases hnil : last = []
    · rw [hnil, lines_nil] at h
      cases h
    · rw [lines_of_not_mem hlast hnil, List.mem_singleton] at h
      rwa [h]
  | line first rest hfirst ih =>
    rw [lines_line hfirst, List.mem_cons] at h
    rcases h with rfl | h
    · exact fun hmem => hfirst (mem_of_mem_dropReturn hmem)
    · exact ih h

end Text

/-! ## Joined lines -/

theorem joinLines_eq_intercalate (lines : List Text) :
    Text.joinLines lines = ['\n'].intercalate lines := by
  induction lines with
  | nil => rfl
  | cons line lines ih =>
    cases lines with
    | nil => simp [Text.joinLines]
    | cons next lines =>
      rw [Text.joinLines, ih, List.intercalate_cons_cons]
      · simp
      · simp

/-- Lines are found again where they were joined. -/
theorem Text.splitOn_joinLines {lines : List Text} (h : ∀ line ∈ lines, '\n' ∉ line)
    (hne : lines ≠ []) : (Text.joinLines lines).splitOn '\n' = lines := by
  rw [joinLines_eq_intercalate]
  exact List.splitOn_intercalate '\n' h hne

theorem Text.lines_ne_nil {text : Text} (h : text ≠ []) : Text.lines text ≠ [] := by
  cases text using Text.line_induction with
  | last line hline => simp [Text.lines_of_not_mem hline h]
  | line line rest hline _ => simp [Text.lines_line hline]

end Bindery
