import Bindery.Proofs.Chapter.Comment
import Bindery.Proofs.Index.Build
import Mathlib

set_option autoImplicit false

/-! # Titles of chapters that lose their comments

The index takes the title of a chapter from its file, comments included, and the chapter is laid out
without them. `title_of_get?_build` says when both have one title: when the title line is outside
all comments, and removing the comments in front of it brings no heading about. A heading inside a
comment is a title for the index alone (`exists_title_ne_of_build`). -/

namespace Bindery

/-- A title line outside all comments is that of what is left, unless a heading has come about in
front of it. -/
theorem titleOf_removeComments {front line behind kept : Text}
    (hline : IsTitleLine front line behind) (hfront : Stripped (line ++ behind) front kept)
    (hclear : Stripped behind line line) :
    titleOf (removeComments (front ++ line ++ behind)) =
      (titleOf kept).or (titleOf (front ++ line ++ behind)) := by
  have hbehind := head?_removeComments hline.stops
  obtain ⟨rest, rfl⟩ := hline.marker
  have hrest : '\n' ∉ rest := fun hmem => hline.single (List.mem_append_right _ hmem)
  rw [List.append_assoc, hfront.removeComments_append, hclear.removeComments_append,
    titleOf_append (hfront.endsLine hline.endsLine), titleOf_heading hrest hbehind,
    titleOf_append hline.endsLine, hline.untitled, Option.none_or,
    titleOf_heading hrest hline.stops]

/-- The index holds the title of a chapter's file. Where the title line is outside all comments, it
is the title of the chapter without comments, unless removing the comments in front of the title
line brings a heading about, whose title is then another. A file without a title stays without one,
unless a heading comes about in it. -/
theorem title_of_get?_build {files : Workspace} {folder : Path} {index : Index}
    {identifier text : Text} {record : Record} (hbuild : Index.build files folder = .ok index)
    (hget : index.get? identifier = some record)
    (htext : files.readText record.path = .ok text) :
    record.title = titleOf text ∧
    (∀ front line behind kept, text = front ++ line ++ behind → IsTitleLine front line behind →
      Stripped (line ++ behind) front kept → Stripped behind line line →
      (record.title = titleOf (removeComments text) ↔
        (∀ l ∈ Text.lines kept, ¬ topLevelMarker <+: l) ∨ titleOf kept = record.title)) ∧
    (record.title = none →
      (record.title = titleOf (removeComments text) ↔
        ∀ l ∈ Text.lines (removeComments text), ¬ topLevelMarker <+: l)) := by
  obtain ⟨name, text', -, -, htext', hrecord⟩ := Index.exists_of_get?_build hbuild hget
  rw [htext'] at htext
  cases htext
  have htitle : record.title = titleOf text := by rw [hrecord]
  refine ⟨htitle, ?_, ?_⟩
  · rintro front line behind kept rfl hline hfront hclear
    rw [← titleOf_eq_none_iff, htitle, titleOf_removeComments hline hfront hclear]
    cases titleOf kept with
    | none => simp
    | some title => simp [eq_comm]
  · intro hnone
    rw [hnone, ← titleOf_eq_none_iff, eq_comm]

/-- A book of one chapter with the given text. -/
def bookOf (chapter : Text) : Workspace :=
  ⟨.folder "b".toList true (.file "A.md".toList (Utf8.encode chapter) .empty) .empty, []⟩

/-- A comment on a line of its own in front of the title line does not matter. -/
theorem title_of_get?_build_behind_comment :
    ∃ (index : Index) (record : Record),
      Index.build (bookOf "<!-- c -->\n# New".toList) "b".toList = .ok index ∧
      index.get? "A".toList = some record ∧
      (bookOf "<!-- c -->\n# New".toList).readText record.path = .ok "<!-- c -->\n# New".toList ∧
      record.title = some "New".toList ∧
      record.title = titleOf (removeComments "<!-- c -->\n# New".toList) := by
  have hbuild : Index.build (bookOf "<!-- c -->\n# New".toList) "b".toList =
      .ok ⟨[⟨"A".toList, "b/A.md".toList, some "New".toList⟩]⟩ := by
    cbv
  have hget : (⟨[⟨"A".toList, "b/A.md".toList, some "New".toList⟩]⟩ : Index).get? "A".toList =
      some ⟨"A".toList, "b/A.md".toList, some "New".toList⟩ := by
    rfl
  have htext : (bookOf "<!-- c -->\n# New".toList).readText "b/A.md".toList =
      .ok "<!-- c -->\n# New".toList := by
    cbv
  have hline : IsTitleLine "<!-- c -->\n".toList "# New".toList [] :=
    ⟨by simp [Text.EndsLine], by decide, by decide, by decide, by simp⟩
  have hfront : Stripped ("# New".toList ++ []) "<!-- c -->\n".toList ['\n'] :=
    .comment (isComment_iff.2 (by decide : afterComment? "<!-- c -->".toList = some []))
      (stripped_of_not_mem (by decide))
  have hclear : Stripped [] "# New".toList "# New".toList := stripped_of_not_mem (by decide)
  obtain ⟨-, htitled, -⟩ := title_of_get?_build hbuild hget htext
  exact ⟨_, _, hbuild, hget, htext, rfl,
    (htitled _ _ _ _ rfl hline hfront hclear).2 (Or.inl (by decide))⟩

/-- A heading inside a comment is a title for the index and none for the chapter without
comments. -/
theorem exists_title_ne_of_build :
    ¬ ∀ (files : Workspace) (folder : Path) (index : Index) (identifier text : Text)
        (record : Record), Index.build files folder = .ok index →
        index.get? identifier = some record → files.readText record.path = .ok text →
        record.title = titleOf (removeComments text) := by
  intro h
  have hbuild : Index.build (bookOf "<!--\n# Old\n-->\n# New".toList) "b".toList =
      .ok ⟨[⟨"A".toList, "b/A.md".toList, some "Old".toList⟩]⟩ := by
    cbv
  have htext : (bookOf "<!--\n# Old\n-->\n# New".toList).readText "b/A.md".toList =
      .ok "<!--\n# Old\n-->\n# New".toList := by
    cbv
  have hnew : titleOf (removeComments "<!--\n# Old\n-->\n# New".toList) = some "New".toList := by
    decide +kernel
  have hold := h _ _ _ "A".toList _ _ hbuild rfl htext
  rw [hnew] at hold
  exact absurd hold (by decide)

end Bindery
