import Bindery.Index.Title
import Bindery.Proofs.Text.Lines
import Bindery.Proofs.Text.Trim

set_option autoImplicit false

/-! # Where the title of a document stands

The title is in the first line that starts like a top-level heading. `titleOf_eq_some_iff` finds it
among the lines, and `IsTitleLine` among the characters. A text that ends with a line has the title
that comes first, its own or that of what follows (`titleOf_append`). -/

namespace Bindery

/-! ## White space around a title -/

namespace Text

theorem trim_dropReturn (text : Text) : trim (dropReturn text) = trim text := by
  rcases eq_dropReturn_or text with h | h
  · rw [h]
  · rw [h, trim_append_blank (by decide), ← h]

end Text

/-! ## Titles among lines -/

theorem after?_topLevelMarker_eq_none_iff {line : Text} :
    Text.after? topLevelMarker line = none ↔ ¬ topLevelMarker <+: line := by
  rw [Option.eq_none_iff_forall_ne_some]
  constructor
  · rintro h ⟨rest, rfl⟩
    exact h rest (Text.after?_append ..)
  · rintro h rest hrest
    exact h ⟨rest, (Text.after?_eq_some.1 hrest).symm⟩

theorem titleOf_eq_none_iff {text : Text} :
    titleOf text = none ↔ ∀ line ∈ Text.lines text, ¬ topLevelMarker <+: line := by
  simp only [titleOf, List.findSome?_eq_none_iff, Option.map_eq_none_iff,
    after?_topLevelMarker_eq_none_iff]

/-- The title is what stands behind the marker of the first line with a marker, trimmed. -/
theorem titleOf_eq_some_iff {text title : Text} :
    titleOf text = some title ↔
      ∃ leading rest following,
        Text.lines text = leading ++ (topLevelMarker ++ rest) :: following ∧
          (∀ line ∈ leading, ¬ topLevelMarker <+: line) ∧ Text.trim rest = title := by
  rw [titleOf, List.findSome?_eq_some_iff]
  constructor
  · rintro ⟨leading, line, following, hlines, hline, hleading⟩
    obtain ⟨rest, hrest, htrim⟩ := Option.map_eq_some_iff.1 hline
    rw [Text.after?_eq_some.1 hrest] at hlines
    refine ⟨leading, rest, following, hlines, ?_, htrim⟩
    intro line hmem
    exact after?_topLevelMarker_eq_none_iff.1 (Option.map_eq_none_iff.1 (hleading line hmem))
  · rintro ⟨leading, rest, following, hlines, hleading, rfl⟩
    refine ⟨leading, topLevelMarker ++ rest, following, hlines, ?_, ?_⟩
    · rw [Text.after?_append, Option.map_some]
    · intro line hmem
      rw [after?_topLevelMarker_eq_none_iff.2 (hleading line hmem), Option.map_none]

/-- What a text has as its title: the trimmed rest of the first line that starts like a top-level
heading, or nothing if no line does. -/
def HasTitle (text : Text) : Option Text → Prop
  | some title => ∃ leading rest following,
      Text.lines text = leading ++ (topLevelMarker ++ rest) :: following ∧
        (∀ line ∈ leading, ¬ topLevelMarker <+: line) ∧ Text.trim rest = title
  | none => ∀ line ∈ Text.lines text, ¬ topLevelMarker <+: line

theorem hasTitle_iff {text : Text} {title : Option Text} :
    HasTitle text title ↔ titleOf text = title := by
  cases title with
  | none => exact titleOf_eq_none_iff.symm
  | some title => exact titleOf_eq_some_iff.symm

/-! ## Titles among characters -/

/-- Lines that end in front of a text have the title, if they have one. -/
theorem titleOf_append {front : Text} (h : Text.EndsLine front) (rest : Text) :
    titleOf (front ++ rest) = (titleOf front).or (titleOf rest) := by
  rw [titleOf, Text.lines_append h, List.findSome?_append]
  rfl

/-- `line`, which starts like a top-level heading, is the first such line of the text
`front ++ line ++ behind`. It reaches to the line feed, or to the end of the text. -/
structure IsTitleLine (front line behind : Text) : Prop where
  endsLine : Text.EndsLine front
  untitled : titleOf front = none
  marker : topLevelMarker <+: line
  single : '\n' ∉ line
  stops : ∀ c ∈ behind.head?, c = '\n'

/-- A line that starts like a top-level heading has a title, whatever follows it. -/
theorem titleOf_heading {rest behind : Text} (hline : '\n' ∉ rest)
    (hbehind : ∀ c ∈ behind.head?, c = '\n') :
    titleOf (topLevelMarker ++ rest ++ behind) = some (Text.trim rest) := by
  have hsingle : '\n' ∉ topLevelMarker ++ rest := by
    simp [topLevelMarker, hline]
  rw [titleOf_eq_some_iff]
  cases behind with
  | nil =>
    refine ⟨[], rest, [], ?_, by simp, rfl⟩
    rw [List.append_nil, Text.lines_of_not_mem hsingle (by simp [topLevelMarker])]
    rfl
  | cons c behind =>
    obtain rfl : c = '\n' := hbehind c rfl
    -- a carriage return at the end of the line is white space of the title
    have hreturn : Text.dropReturn (topLevelMarker ++ rest) =
        topLevelMarker ++ Text.dropReturn rest := by
      cases rest <;> rfl
    refine ⟨[], Text.dropReturn rest, Text.lines behind, ?_, by simp, Text.trim_dropReturn rest⟩
    rw [Text.lines_line hsingle, hreturn]
    rfl

end Bindery
