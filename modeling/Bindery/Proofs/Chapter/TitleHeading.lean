import Bindery.Proofs.Chapter.Run
import Bindery.Proofs.Index.Title
import Bindery.Proofs.Line.HeadingLevel
import Bindery.Proofs.Line.Optionality
import Bindery.Proofs.Line.Resolution

set_option autoImplicit false

/-! # The heading that links to a chapter lead to

A cross-reference to a chapter becomes a link to the anchor of its title. `exists_heading_of_layOut`
says that the chapter has a heading with that anchor: the title line goes one level down and is
written as it is, wherever it stands, except behind a line that opens an item of a definition list. -/

namespace Bindery

open DefinitionList

variable {index : Index} {assets : Assets}

/-- The line is a heading of the given level, and `text` stands in it between white space. -/
def IsHeadingOf (level : Nat) (line text : Text) : Prop :=
  ∃ rest, line = List.replicate level '#' ++ ' ' :: rest ∧ rest ≠ [] ∧ Text.trim rest = text

/-- One of the lines is a heading with the given anchor. -/
def HasAnchor (lines : List Text) (anchor : Text) : Prop :=
  ∃ line ∈ lines, ∃ level text, 0 < level ∧ IsHeadingOf level line text ∧ anchorFor text = anchor

theorem isHeading_of_isHeadingOf {level : Nat} {line text : Text} (hlevel : 0 < level)
    (h : IsHeadingOf level line text) : isHeading line = true := by
  obtain ⟨rest, hline, hrest, -⟩ := h
  exact isHeading_iff.2 ⟨level, hlevel, rest, hline, hrest⟩

/-- A heading without references and markers only goes one level down. -/
theorem prepareLine_of_isHeadingOf {level : Nat} {line text : Text} (hlevel : 0 < level)
    (h : IsHeadingOf level line text) (href : ¬ HoldsReference line)
    (hmarker : ¬ singleMarker <:+: line) :
    prepareLine index assets line = .ok ('#' :: line) := by
  have himage : resolveImage assets line = .ok line := by
    obtain ⟨rest, rfl, -⟩ := h
    obtain ⟨n, rfl⟩ : ∃ n, level = n + 1 := ⟨level - 1, by omega⟩
    rfl
  rw [prepareLine, resolveReferences_plain href]
  simp only [moveOptionality_of_not_marked hmarker, himage, pushHeading,
    isHeading_of_isHeadingOf hlevel h, if_true]

theorem IsHeadingOf.cons {level : Nat} {line text : Text} (h : IsHeadingOf level line text) :
    IsHeadingOf (level + 1) ('#' :: line) text := by
  obtain ⟨rest, rfl, hrest, htrim⟩ := h
  exact ⟨rest, by simp [List.replicate_succ], hrest, htrim⟩

/-- A reference to a whole document becomes a link with its title. -/
theorem resolveReferences_referenceTo {identifier title : Text} {record : Record}
    (hget : index.get? identifier = some record) (htitle : record.title = some title)
    (htarget : IsTarget identifier) (hfragment : '#' ∉ identifier) :
    resolveReferences index (referenceTo identifier) = .ok (linkTo title) := by
  have hlabel : labelOf index identifier = .ok title := by
    simp only [labelOf, fragment?_eq_none_iff.2 hfragment]
    exact Index.titleFor_eq_ok_iff.2 ⟨record, hget, htitle⟩
  have hrest : resolveReferences index [] = .ok [] := resolveReferences_plain not_holdsReference_nil
  have hwhole : resolveReferences index ([] ++ referenceTo identifier ++ []) = _ :=
    resolveReferences_reference not_holdsReference_nil htarget
  simpa [hlabel, hrest, Except.map] using hwhole

/-- The title line of a chapter is written one level down, as a heading whose text is the title,
unless it stands behind a line that opens an item. So every reference to the chapter becomes a link
to a heading that is there. -/
theorem exists_heading_of_layOut {text title line : Text} {leading following out : List Text}
    (htitle : titleOf text = some title) (hne : title ≠ [])
    (hlines : Text.lines text = leading ++ line :: following)
    (hleading : ∀ l ∈ leading, ¬ topLevelMarker <+: l) (hmarker : topLevelMarker <+: line)
    (href : ¬ HoldsReference line) (hoptionality : ¬ singleMarker <:+: line)
    (hterm : ¬ FollowsTerm (prepareLine index assets) (Text.lines text) (line :: following))
    (hout : layOut (prepareLine index assets) (Text.lines text) = .ok out) :
    '#' :: line ∈ out ∧ IsHeadingOf 2 ('#' :: line) title ∧
      ∀ (index : Index) (identifier : Text) (record : Record),
        index.get? identifier = some record → record.title = titleOf text →
        IsTarget identifier → '#' ∉ identifier →
        ∃ anchor, HasAnchor out anchor ∧
          resolveReferences index (referenceTo identifier) =
            .ok ('[' :: title ++ [']', '(', '#'] ++ anchor ++ [')']) := by
  obtain ⟨rest, rfl⟩ := hmarker
  have htrim : Text.trim rest = title := by
    have hfirst := titleOf_eq_some_iff.2 ⟨leading, rest, following, hlines, hleading, rfl⟩
    rw [hfirst] at htitle
    exact Option.some.inj htitle
  have hrest : rest ≠ [] := by
    rintro rfl
    exact hne htrim.symm
  have hheading : IsHeadingOf 1 (topLevelMarker ++ rest) title := ⟨rest, rfl, hrest, htrim⟩
  have hprepared : prepareLine index assets (topLevelMarker ++ rest) = _ :=
    prepareLine_of_isHeadingOf Nat.one_pos hheading href hoptionality
  have hmem : '#' :: (topLevelMarker ++ rest) ∈ out := by
    rw [hlines] at hout hterm
    refine mem_of_layOut hprepared rfl ?_ hterm hout
    rintro (hnil | ⟨c, tail, hcons, hblank⟩)
    · cases hnil
    · cases hcons
      exact absurd hblank (by decide)
  refine ⟨hmem, hheading.cons, ?_⟩
  intro index' identifier record hget hrecord htarget hfragment
  refine ⟨anchorFor title, ⟨_, hmem, 2, title, by decide, hheading.cons, rfl⟩, ?_⟩
  exact resolveReferences_referenceTo hget (hrecord.trans htitle) htarget hfragment

/-- A title line behind a definition ends the definition and is written as a heading. -/
theorem exists_heading_of_layOut_definition :
    titleOf "- term A:\n  x\n# B".toList = some "B".toList ∧
    "B".toList ≠ [] ∧
    Text.lines "- term A:\n  x\n# B".toList =
      ["- term A:".toList, "  x".toList] ++ "# B".toList :: [] ∧
    (∀ l ∈ ["- term A:".toList, "  x".toList], ¬ topLevelMarker <+: l) ∧
    topLevelMarker <+: "# B".toList ∧ ¬ HoldsReference "# B".toList ∧
    ¬ singleMarker <:+: "# B".toList ∧
    ¬ FollowsTerm (prepareLine .empty ⟨⟨.empty, []⟩, []⟩)
      (Text.lines "- term A:\n  x\n# B".toList) ["# B".toList] ∧
    layOut (prepareLine .empty ⟨⟨.empty, []⟩, []⟩) (Text.lines "- term A:\n  x\n# B".toList) =
      .ok ["A".toList, [], ":    x".toList, "## B".toList] ∧
    IsHeadingOf 2 "## B".toList "B".toList := by
  have hlines : Text.lines "- term A:\n  x\n# B".toList =
      ["- term A:".toList, "  x".toList] ++ "# B".toList :: [] := by
    decide
  have href : ¬ HoldsReference "# B".toList := not_holdsReference_of_not_mem (by decide)
  have hterm : ¬ FollowsTerm (prepareLine .empty ⟨⟨.empty, []⟩, []⟩)
      (Text.lines "- term A:\n  x\n# B".toList) ["# B".toList] := by
    -- the run goes through five states behind the first
    have hlook₁ : (Progress.start (Text.lines "- term A:\n  x\n# B".toList)).advance
        (prepareLine .empty ⟨⟨.empty, []⟩, []⟩) =
        .ok (some (some "A".toList, ⟨.separator, none, ["  x".toList, "# B".toList]⟩)) := by
      decide +kernel
    have hlook₂ : Progress.advance (prepareLine .empty ⟨⟨.empty, []⟩, []⟩)
        ⟨.separator, none, ["  x".toList, "# B".toList]⟩ =
        .ok (some (some [], ⟨.first, some "  x".toList, ["# B".toList]⟩)) := by
      decide +kernel
    have hlook₃ : Progress.advance (prepareLine .empty ⟨⟨.empty, []⟩, []⟩)
        ⟨.first, some "  x".toList, ["# B".toList]⟩ =
        .ok (some (some ":    x".toList, ⟨.body, none, ["# B".toList]⟩)) := by
      decide +kernel
    have hlook₄ : Progress.advance (prepareLine .empty ⟨⟨.empty, []⟩, []⟩)
        ⟨.body, none, ["# B".toList]⟩ =
        .ok (some (none, ⟨.outside, some "## B".toList, []⟩)) := by
      decide +kernel
    have hlook₅ : Progress.advance (prepareLine .empty ⟨⟨.empty, []⟩, []⟩)
        ⟨.outside, some "## B".toList, []⟩ =
        .ok (some (some "## B".toList, ⟨.outside, none, []⟩)) := by
      decide +kernel
    rintro ⟨p, q, label, hrun, hmode, hlook, hnext, hahead⟩
    rcases run_cases hlook₁ hrun with rfl | hrun
    · rw [hlook₁] at hlook
      cases hlook
      cases hahead
    rcases run_cases hlook₂ hrun with rfl | hrun
    · cases hmode
    rcases run_cases hlook₃ hrun with rfl | hrun
    · cases hmode
    rcases run_cases hlook₄ hrun with rfl | hrun
    · cases hmode
    rcases run_cases hlook₅ hrun with rfl | hrun
    · rw [hlook₅] at hlook
      cases hlook
      cases hnext
    rcases Relation.ReflTransGen.cases_head hrun with rfl | ⟨_, ⟨_, hend⟩, _⟩
    · cases hlook
    · cases hend
  have hout : layOut (prepareLine .empty ⟨⟨.empty, []⟩, []⟩)
      (Text.lines "- term A:\n  x\n# B".toList) =
      .ok ["A".toList, [], ":    x".toList, "## B".toList] := by
    decide +kernel
  have htitle : titleOf "- term A:\n  x\n# B".toList = some "B".toList := by
    decide
  obtain ⟨-, hheading, -⟩ := exists_heading_of_layOut htitle (by decide) hlines (by decide)
    (by decide) href (by decide) hterm hout
  exact ⟨htitle, by decide, hlines, by decide, by decide, href, by decide, hterm, hout, hheading⟩

end Bindery
