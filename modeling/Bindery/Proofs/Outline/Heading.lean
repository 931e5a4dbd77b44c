import Bindery.Outline.Heading
import Bindery.Proofs.Span
import Bindery.Proofs.Text.Trim

set_option autoImplicit false

/-! # The grammar of headings

`IsAtxHeading` spells out what a heading of the root document looks like, and `exists_ofLine?_iff`
says that `Heading.ofLine?` reads exactly that. Its title is taken from the line. A document is moved
line by line: code stays, and any other line becomes a single line again (`getElem?_shiftLines`,
`not_mem_shiftLine`). -/

namespace Bindery

/-! ## Headings -/

/-- The line is a heading of the given level, from one to six: that many `#`, and behind them a
space, a tab or nothing. -/
def IsAtxHeading (line : Text) (level : Nat) : Prop :=
  ∃ rest, line = List.replicate level '#' ++ rest ∧ 1 ≤ level ∧ level ≤ Heading.deepest ∧
    ∀ c ∈ rest.head?, Heading.isSeparator c = true

theorem ofLine?_replicate_append {level : Nat} {rest : Text} (hlow : 1 ≤ level)
    (hhigh : level ≤ Heading.deepest) (hrest : ∀ c ∈ rest.head?, Heading.isSeparator c = true) :
    Heading.ofLine? (List.replicate level '#' ++ rest) =
      some ⟨level, Heading.withoutClosing (Text.trim rest)⟩ := by
  have hhead : rest.head? ≠ some '#' := fun hc => absurd (hrest '#' hc) (by decide)
  obtain ⟨htake, hdrop⟩ := span_replicate_append level hhead
  have hall : rest.head?.all Heading.isSeparator = true := by
    cases hc : rest.head? with
    | none => rfl
    | some c => exact hrest c hc
  simp only [Heading.ofLine?, htake, hdrop, List.length_replicate]
  rw [if_pos ⟨hlow, hhigh, hall⟩]

/-- A heading is read from a line exactly if the line is one. -/
theorem exists_ofLine?_iff {line : Text} {level : Nat} :
    (∃ heading, Heading.ofLine? line = some heading ∧ heading.level = level) ↔
      IsAtxHeading line level := by
  constructor
  · rintro ⟨heading, hheading, rfl⟩
    simp only [Heading.ofLine?] at hheading
    split at hheading
    · next hline =>
      cases hheading
      obtain ⟨hlow, hhigh, hrest⟩ := hline
      refine ⟨_, (replicate_append_dropWhile '#' line).symm, hlow, hhigh, fun c hc => ?_⟩
      rw [Option.mem_def] at hc
      simpa [hc] using hrest
    · cases hheading
  · rintro ⟨rest, rfl, hlow, hhigh, hrest⟩
    exact ⟨_, ofLine?_replicate_append hlow hhigh hrest, rfl⟩

theorem withoutClosing_sublist (title : Text) :
    (Heading.withoutClosing title).Sublist title := by
  rw [Heading.withoutClosing]
  split
  · exact List.nil_sublist title
  · next c before hrun =>
    split
    · have hfront : (c :: before).Sublist title.reverse :=
        hrun ▸ List.dropWhile_sublist _
      exact (Text.isPrefix_trimEnd _).sublist.trans
        (List.reverse_sublist.1 (by rwa [List.reverse_reverse]))
    · exact List.Sublist.refl title

/-- The title of a heading is taken from its line. -/
theorem title_sublist {line : Text} {heading : Heading} (h : Heading.ofLine? line = some heading) :
    heading.title.Sublist line := by
  simp only [Heading.ofLine?] at h
  split at h
  · cases h
    exact (withoutClosing_sublist _).trans
      ((Text.trim_sublist _).trans (List.dropWhile_sublist _))
  · cases h

/-! ## Moving headings -/

variable {levels : Int}

/-- Moving a heading leaves it on its line. -/
theorem not_mem_shiftLine {line : Text} (h : '\n' ∉ line) :
    '\n' ∉ shiftLine levels line := by
  rw [shiftLine]
  split
  · next heading hheading =>
    have htitle : '\n' ∉ heading.title := fun hmem => h ((title_sublist hheading).subset hmem)
    rw [Heading.shift]
    split
    · exact htitle
    · simp [htitle]
  · exact h

/-- Each line stays, if it is code, or is moved by itself. -/
theorem getElem?_shiftLines (lines : List Text) (i : Nat) :
    (shiftLines levels lines)[i]? =
      lines[i]?.map fun line =>
        if (codeLines none lines)[i]? = some true then line else shiftLine levels line := by
  rw [shiftLines, List.getElem?_zipWith]
  cases hline : lines[i]? with
  | none =>
    have hcode : (codeLines none lines)[i]? = none := by
      rw [List.getElem?_eq_none_iff] at hline ⊢
      rwa [length_codeLines]
    rw [hcode]
    rfl
  | some line =>
    obtain ⟨hlength, -⟩ := List.getElem?_eq_some_iff.1 hline
    have hcode : i < (codeLines none lines).length := by rwa [length_codeLines]
    rw [List.getElem?_eq_getElem hcode]
    cases (codeLines none lines)[i] with
    | true => rfl
    | false => rfl

/-- The lines of a document are single lines also behind the move. -/
theorem not_mem_of_mem_shiftLines {lines : List Text} (h : ∀ line ∈ lines, '\n' ∉ line) :
    ∀ line ∈ shiftLines levels lines, '\n' ∉ line := by
  intro line hmem
  obtain ⟨i, hi⟩ := List.mem_iff_getElem?.1 hmem
  rw [getElem?_shiftLines] at hi
  obtain ⟨original, horiginal, rfl⟩ := Option.map_eq_some_iff.1 hi
  have hsingle := h original (List.mem_of_getElem? horiginal)
  split
  · exact hsingle
  · exact not_mem_shiftLine hsingle

end Bindery
