import Bindery.Proofs.Book.Segments
import Bindery.Proofs.Outline.Heading
import Bindery.Proofs.Text.Lines

set_option autoImplicit false

/-! # Top-level headings of a shifted root document

The headings of the root document are moved before the combined document is assembled. Moving them
knows what is code, and assembling does not: it takes each line that starts with the marker of a
top-level heading for one. `isTopLevelAt_shiftHeadings` says which lines these are: outside code the
headings that come to the first level, and in code whatever starts with the marker. -/

namespace Bindery

/-! ## Lines that start like top-level headings -/

theorem topLevelMarker_prefix_dropReturn {line : Text} :
    topLevelMarker <+: Text.dropReturn line ↔ topLevelMarker <+: line := by
  rcases Text.eq_dropReturn_or line with hsame | hreturn
  · rw [hsame]
  · constructor
    · intro h
      rw [hreturn]
      exact h.trans (List.prefix_append _ _)
    · intro h
      rw [hreturn, List.prefix_concat_iff] at h
      rcases h with hmarker | h
      · have hlast := congrArg List.getLast? hmarker
        rw [List.getLast?_concat] at hlast
        cases hlast
      · exact h

/-- Line `i` of the text starts like a top-level heading. -/
def IsTopLevelAt (text : Text) (i : Nat) : Prop :=
  ∃ line, (Text.lines text)[i]? = some line ∧ isTopLevel line = true

theorem isTopLevelAt_iff {text : Text} {i : Nat} :
    IsTopLevelAt text i ↔ ∃ line, (Text.lines text)[i]? = some line ∧ topLevelMarker <+: line := by
  simp only [IsTopLevelAt, isTopLevel_iff]

/-- Joined lines start like top-level headings where the lines do. -/
theorem isTopLevelAt_joinLines {lines : List Text} (h : ∀ line ∈ lines, '\n' ∉ line) (i : Nat) :
    IsTopLevelAt (Text.joinLines lines) i ↔
      ∃ line, lines[i]? = some line ∧ topLevelMarker <+: line := by
  rw [isTopLevelAt_iff]
  induction lines generalizing i with
  | nil => simp [Text.joinLines, Text.lines_nil]
  | cons line lines ih =>
    have hline := h line (List.mem_cons_self ..)
    cases lines with
    | nil =>
      rw [Text.joinLines]
      by_cases hnil : line = []
      · subst hnil
        rw [Text.lines_nil]
        cases i with
        | zero => simp [topLevelMarker]
        | succ i => simp
      · rw [Text.lines_of_not_mem hline hnil]
    | cons next lines =>
      have hrest := ih (fun line hmem => h line (List.mem_cons_of_mem _ hmem))
      have hjoin : Text.joinLines (line :: next :: lines) =
          line ++ '\n' :: Text.joinLines (next :: lines) := rfl
      rw [hjoin, Text.lines_line hline]
      cases i with
      | zero => simp [topLevelMarker_prefix_dropReturn]
      | succ i =>
        rw [List.getElem?_cons_succ, List.getElem?_cons_succ]
        exact hrest i

/-! ## What moving does to a line -/

/-- Line `i` of the text is code. -/
def IsCodeAt (text : Text) (i : Nat) : Prop := (codeLines none (Text.lines text))[i]? = some true

/-- Line `i` of the text is a heading outside code, and the given number of levels brings it to the
first level. -/
def BecomesTopLevel (levels : Int) (text : Text) (i : Nat) : Prop :=
  ∃ line level, (Text.lines text)[i]? = some line ∧ ¬ IsCodeAt text i ∧ IsAtxHeading line level ∧
    level + levels = 1

/-- Line `i` of the text is a heading outside code that becomes a paragraph, and this paragraph
starts like a top-level heading. -/
def BecomesMarked (levels : Int) (text : Text) (i : Nat) : Prop :=
  ∃ line heading, (Text.lines text)[i]? = some line ∧ ¬ IsCodeAt text i ∧
    Heading.ofLine? line = some heading ∧ heading.level + levels < 1 ∧
    topLevelMarker <+: heading.title

variable {levels : Int} {text : Text} {i : Nat}

theorem isTopLevelAt_shiftHeadings_iff :
    IsTopLevelAt (shiftHeadings levels text) i ↔
      ∃ line, (Text.lines text)[i]? = some line ∧
        (IsCodeAt text i ∧ topLevelMarker <+: line ∨
          ¬ IsCodeAt text i ∧ topLevelMarker <+: shiftLine levels line) := by
  have hlines : ∀ line ∈ shiftLines levels (Text.lines text), '\n' ∉ line :=
    not_mem_of_mem_shiftLines fun _ => Text.not_mem_of_mem_lines
  rw [shiftHeadings, isTopLevelAt_joinLines hlines, getElem?_shiftLines, IsCodeAt]
  cases (Text.lines text)[i]? with
  | none => simp
  | some line =>
    by_cases hcode : (codeLines none (Text.lines text))[i]? = some true
    · simp [hcode]
    · simp [hcode]

/-- A heading is moved to the first level, or it becomes a paragraph with the marker. -/
theorem topLevelMarker_prefix_shift {heading : Heading} :
    topLevelMarker <+: heading.shift levels ↔
      heading.level + levels = 1 ∨
        heading.level + levels < 1 ∧ topLevelMarker <+: heading.title := by
  rw [Heading.shift]
  split
  · next hlow =>
    have hne : heading.level + levels ≠ 1 := by omega
    simp [hlow, hne]
  · next hlow =>
    by_cases hone : heading.level + levels = 1
    · have hmarker : topLevelMarker <+: List.replicate 1 '#' ++ ' ' :: heading.title :=
        ⟨heading.title, rfl⟩
      simpa [hone, Heading.deepest] using hmarker
    · obtain ⟨m, hm⟩ : ∃ m, min Heading.deepest (heading.level + levels).toNat = m + 2 :=
        ⟨min Heading.deepest (heading.level + levels).toNat - 2, by rw [Heading.deepest]; omega⟩
      have hmarker : ¬ topLevelMarker <+: List.replicate (m + 2) '#' ++ ' ' :: heading.title := by
        rintro ⟨rest, hrest⟩
        rw [List.replicate_succ, List.replicate_succ, topLevelMarker] at hrest
        simp at hrest
      rw [hm]
      simp [hone, hlow, hmarker]

/-- A line outside code starts like a top-level heading when it is moved if it is a heading. -/
theorem topLevelMarker_prefix_shiftLine {line : Text} :
    topLevelMarker <+: shiftLine levels line ↔
      ∃ heading, Heading.ofLine? line = some heading ∧
        (heading.level + levels = 1 ∨
          heading.level + levels < 1 ∧ topLevelMarker <+: heading.title) := by
  rw [shiftLine]
  cases hheading : Heading.ofLine? line with
  | some heading => simp [topLevelMarker_prefix_shift]
  | none =>
    have hnot : ¬ topLevelMarker <+: line := by
      rintro ⟨rest, rfl⟩
      obtain ⟨heading, hsome, -⟩ := exists_ofLine?_iff.2
        (⟨' ' :: rest, rfl, le_refl 1, by decide, by simp [Heading.isSeparator]⟩ :
          IsAtxHeading (topLevelMarker ++ rest) 1)
      rw [hheading] at hsome
      cases hsome
    simp [hnot]

/-! ## What assembling takes for a top-level heading -/

/-- In code, the lines that start like top-level headings do so before and after the headings are
moved. Outside code, they are the headings that come to the first level, unless a heading becomes a
paragraph that starts with the marker itself. -/
theorem isTopLevelAt_shiftHeadings (levels : Int) (text : Text) (i : Nat) :
    (IsCodeAt text i → (IsTopLevelAt (shiftHeadings levels text) i ↔ IsTopLevelAt text i)) ∧
    (¬ IsCodeAt text i → ¬ BecomesMarked levels text i →
      (IsTopLevelAt (shiftHeadings levels text) i ↔ BecomesTopLevel levels text i)) := by
  rw [isTopLevelAt_shiftHeadings_iff]
  constructor
  · intro hcode
    simp only [isTopLevelAt_iff, hcode, not_true_eq_false, false_and, true_and, or_false]
  · intro hcode hmarked
    simp only [hcode, not_false_eq_true, false_and, true_and, false_or]
    constructor
    · rintro ⟨line, hline, hmarker⟩
      obtain ⟨heading, hheading, hfirst | ⟨hlow, htitle⟩⟩ :=
        topLevelMarker_prefix_shiftLine.1 hmarker
      · exact ⟨line, heading.level, hline, hcode, exists_ofLine?_iff.1 ⟨heading, hheading, rfl⟩,
          hfirst⟩
      · exact absurd ⟨line, heading, hline, hcode, hheading, hlow, htitle⟩ hmarked
    · rintro ⟨line, level, hline, -, hatx, hfirst⟩
      obtain ⟨heading, hheading, rfl⟩ := exists_ofLine?_iff.2 hatx
      exact ⟨line, hline, topLevelMarker_prefix_shiftLine.2 ⟨heading, hheading, .inl hfirst⟩⟩

/-- A heading of the second level, and a comment in code that looks like one of the first. -/
def noteInCode : Text := "## Part\n```\n# note\n```".toList

/-- Both are taken for top-level headings once the headings are moved up by one level. -/
theorem isTopLevelAt_shiftHeadings_noteInCode :
    (IsCodeAt noteInCode 2 ∧ IsTopLevelAt (shiftHeadings (-1) noteInCode) 2) ∧
    (¬ IsCodeAt noteInCode 0 ∧ ¬ BecomesMarked (-1) noteInCode 0 ∧
      IsTopLevelAt (shiftHeadings (-1) noteInCode) 0) := by
  have hcode : IsCodeAt noteInCode 2 := by
    rw [IsCodeAt]
    decide +kernel
  have hplain : ¬ IsCodeAt noteInCode 0 := by
    rw [IsCodeAt]
    decide +kernel
  have hline : (Text.lines noteInCode)[0]? = some "## Part".toList := by decide +kernel
  have hpart : Heading.ofLine? "## Part".toList = some ⟨2, "Part".toList⟩ := by decide +kernel
  have hmarked : ¬ BecomesMarked (-1) noteInCode 0 := by
    rintro ⟨line, heading, hfirst, -, hheading, hlow, -⟩
    rw [hline] at hfirst
    cases hfirst
    rw [hpart] at hheading
    cases hheading
    exact absurd hlow (by decide)
  refine ⟨⟨hcode, ((isTopLevelAt_shiftHeadings (-1) noteInCode 2).1 hcode).2 ?_⟩, hplain, hmarked,
    ((isTopLevelAt_shiftHeadings (-1) noteInCode 0).2 hplain hmarked).2 ?_⟩
  · exact ⟨"# note".toList, by decide +kernel, by decide⟩
  · have hatx : IsAtxHeading "## Part".toList 2 := exists_ofLine?_iff.1 ⟨_, hpart, rfl⟩
    exact ⟨_, 2, hline, hplain, hatx, by decide⟩

/-- A line of code starts like a top-level heading, and so does the paragraph that comes of a
heading whose title does. Neither is a heading of the first level. -/
theorem not_becomesTopLevel_of_isTopLevelAt :
    ¬ (IsTopLevelAt (shiftHeadings 0 "# Book\n```\n# note\n```".toList) 2 ↔
      BecomesTopLevel 0 "# Book\n```\n# note\n```".toList 2) ∧
    ¬ (IsTopLevelAt (shiftHeadings (-2) "# Book\n## # Draft\n### Guide".toList) 1 ↔
      BecomesTopLevel (-2) "# Book\n## # Draft\n### Guide".toList 1) := by
  constructor
  · intro h
    have hcode : IsCodeAt "# Book\n```\n# note\n```".toList 2 := by
      rw [IsCodeAt]
      decide +kernel
    obtain ⟨_, _, _, hplain, _⟩ := h.1 ⟨"# note".toList, by decide +kernel, by decide⟩
    exact hplain hcode
  · intro h
    obtain ⟨line, level, hline, -, hatx, hfirst⟩ :=
      h.1 ⟨"# Draft".toList, by decide +kernel, by decide⟩
    have hdraft : (Text.lines "# Book\n## # Draft\n### Guide".toList)[1]? =
        some "## # Draft".toList := by
      decide +kernel
    have hheading : Heading.ofLine? "## # Draft".toList = some ⟨2, "# Draft".toList⟩ := by
      decide +kernel
    rw [hdraft] at hline
    cases hline
    obtain ⟨heading, hsome, rfl⟩ := exists_ofLine?_iff.2 hatx
    rw [hheading] at hsome
    cases hsome
    exact absurd hfirst (by decide)

end Bindery
