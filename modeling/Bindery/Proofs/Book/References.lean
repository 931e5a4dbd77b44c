import Bindery.Proofs.Book.Segments
import Bindery.Proofs.Chapter.Layout
import Bindery.Proofs.Line.Linked
import Mathlib

set_option autoImplicit false

/-! # References in the combined document

Chapters hold no references once they are laid out, because their prepared lines hold none and
arranging them makes none. Root lines are not prepared: those that are copied keep their
references. So a reference in the combined document stands in a copied root line
(`copiesReferences_of_assemble`). -/

namespace Bindery

variable {index : Index} {corpus : Corpus} {options : AssemblyOptions}

/-! ## Chapters -/

namespace DefinitionList

/-- An indented line holds the references of the line itself. -/
theorem holdsReference_of_append_trimStart {front line : Text} (hfront : '<' ∉ front)
    (h : HoldsReference (front ++ Text.trimStart line)) : HoldsReference line := by
  rw [holdsReference_append_left hfront] at h
  exact h.of_infix (List.dropWhile_suffix _).isInfix

theorem holdsReference_of_continued {line : Text} (h : HoldsReference (continued line)) :
    HoldsReference line := by
  rw [continued] at h
  split at h
  · exact absurd h not_holdsReference_nil
  · exact holdsReference_of_append_trimStart (by decide) h

/-- Arranging lines makes no reference. -/
theorem Arranged.not_holdsReference {lines out : List Text} (h : Arranged lines out)
    (hlines : ∀ line ∈ lines, ¬ HoldsReference line) : ∀ line ∈ out, ¬ HoldsReference line := by
  induction h with
  | nil => exact hlines
  | plain _ _ ih =>
    rw [List.forall_mem_cons] at hlines ⊢
    exact ⟨hlines.1, ih hlines.2⟩
  | lone hlabel =>
    rw [List.forall_mem_singleton] at hlines ⊢
    exact fun h => hlines (h.of_infix hlabel.isInfix)
  | item hlabel _ _ _ ih =>
    simp only [List.forall_mem_cons, List.forall_mem_append] at hlines ⊢
    obtain ⟨hline, hfirst, hbody, hrest⟩ := hlines
    refine ⟨fun h => hline (h.of_infix hlabel.isInfix), not_holdsReference_nil, ?_, ?_, ih hrest⟩
    · exact fun h => hfirst (holdsReference_of_append_trimStart (by decide) h)
    · intro written hwritten h
      obtain ⟨line, hline, rfl⟩ := List.mem_map.1 hwritten
      exact hbody line hline (holdsReference_of_continued h)

/-- A chapter that is laid out holds no references. -/
theorem not_holdsReference_of_layOut {assets : Assets} (hindex : index.HasPlainTitles)
    {lines out : List Text} (h : layOut (prepareLine index assets) lines = .ok out) :
    ∀ line ∈ out, ¬ HoldsReference line := by
  rw [layOut_eq] at h
  obtain ⟨prepared, hprepared, hout⟩ := map_eq_ok_iff.1 h
  have harranged : Arranged prepared out := arranged_iff.2 hout
  refine harranged.not_holdsReference ?_
  intro line hline
  obtain ⟨raw, -, hraw⟩ := exists_of_mem_forall₂ (mapM_eq_ok_iff.1 hprepared) hline
  exact not_holdsReference_of_prepareLine hindex hraw

end DefinitionList

/-! ## Root lines -/

/-- A reference stands in the segment of a root line only where the segment copies that line, which
is then no directive. -/
def CopiesReferences (line : Text) (segment : Segment) : Prop :=
  ∀ written ∈ segment.lines, HoldsReference written →
    written = line ∧ segment.chapter = none ∧ ∀ identifier, ¬ IsDirective line identifier

theorem Contributes.copiesReferences (hindex : corpus.index.HasPlainTitles) {line : Text}
    {segment : Segment} (h : Contributes corpus options line segment) :
    CopiesReferences line segment := by
  have hbreak : ¬ HoldsReference pageBreak := not_holdsReference_of_not_mem (by decide)
  intro written hwritten hholds
  cases h with
  | chapter _ _ _ _ hbody =>
    -- neither the chapter nor its frame holds a reference
    exfalso
    rcases List.mem_append.1 hwritten with hwritten | hwritten
    · rcases List.mem_cons.1 hwritten with rfl | hwritten
      · exact hbreak hholds
      · exact DefinitionList.not_holdsReference_of_layOut hindex hbody written hwritten hholds
    · rw [List.mem_singleton.1 hwritten] at hholds
      exact not_holdsReference_nil hholds
  | skipped _ _ => cases hwritten
  | heading hnone _ =>
    rcases List.mem_cons.1 hwritten with rfl | hwritten
    · exact absurd hholds hbreak
    · exact ⟨List.mem_singleton.1 hwritten, rfl, hnone⟩
  | plain hnone _ => exact ⟨List.mem_singleton.1 hwritten, rfl, hnone⟩

/-! ## The whole document -/

/-- Behind the header, references stand only in the first top-level heading and in the other root
lines that are copied. -/
theorem copiesReferences_of_assemble (hindex : corpus.index.HasPlainTitles) {header : Header}
    {root : Text} {document : CombinedDocument}
    (h : assemble corpus options header root = .ok document) :
    ∃ body, document.lines = header.lines ++ body ∧
      ((∀ line ∈ Text.lines root, ¬ topLevelMarker <+: line) ∧ body = [] ∨
        ∃ first following segments, StartsAt (Text.lines root) first following ∧
          body = first :: segments.flatMap (·.lines) ∧
          List.Forall₂ (Contributes corpus options) following segments ∧
          List.Forall₂ CopiesReferences following segments) := by
  rcases exists_startsAt (Text.lines root) with hnone | ⟨first, following, hstart⟩
  · rw [assemble_of_no_heading hnone] at h
    cases h
    exact ⟨[], by simp, Or.inl ⟨hnone, rfl⟩⟩
  · rw [assemble_of_startsAt hstart] at h
    obtain ⟨segments, hsegments, rfl⟩ := map_eq_ok_iff.1 h
    have hall : List.Forall₂ (Contributes corpus options) following segments :=
      (mapM_eq_ok_iff.1 hsegments).imp fun _ _ => rootSegment_eq_ok_iff.1
    exact ⟨_, rfl, Or.inr ⟨first, following, segments, hstart, rfl, hall,
      hall.imp fun _ _ hsegment => hsegment.copiesReferences hindex⟩⟩

/-- A corpus of one chapter, which refers to itself. -/
def selfReferring : Corpus where
  files := ⟨.file "A".toList (Utf8.encode "<doc:A>".toList) .empty, []⟩
  index := ⟨[⟨"A".toList, "A".toList, some "Up".toList⟩]⟩
  assetFolder := []

/-- The reference in the chapter becomes a link, and the one in the heading stays. -/
theorem copiesReferences_of_assemble_selfReferring :
    ∃ document : CombinedDocument,
      document = ⟨(⟨[], [], []⟩ : Header).lines ++
        ["# <doc:A>".toList, pageBreak, "[Up](#up)".toList, []], ["A".toList]⟩ ∧
      selfReferring.index.HasPlainTitles ∧
      assemble selfReferring {} ⟨[], [], []⟩ "# <doc:A>\n- `<doc:A>`".toList = .ok document ∧
      ∃ body, document.lines = (⟨[], [], []⟩ : Header).lines ++ body ∧
        ((∀ line ∈ Text.lines "# <doc:A>\n- `<doc:A>`".toList, ¬ topLevelMarker <+: line) ∧
            body = [] ∨
          ∃ first following segments,
            StartsAt (Text.lines "# <doc:A>\n- `<doc:A>`".toList) first following ∧
            body = first :: segments.flatMap (·.lines) ∧
            List.Forall₂ (Contributes selfReferring {}) following segments ∧
            List.Forall₂ CopiesReferences following segments) := by
  have htitles : selfReferring.index.HasPlainTitles := by
    decide
  have htext : selfReferring.files.readText "A".toList = .ok "<doc:A>".toList := by
    cbv
  have hbody : DefinitionList.layOut (prepareLine selfReferring.index selfReferring.assets)
      (AssemblyOptions.chapterLines {} "<doc:A>".toList) = .ok ["[Up](#up)".toList] := by
    decide +kernel
  have hsegment : rootSegment selfReferring {} "- `<doc:A>`".toList =
      .ok ⟨[pageBreak, "[Up](#up)".toList, []], some "A".toList⟩ :=
    rootSegment_eq_ok_iff.2
      (.chapter (directive?_eq_some_iff.1 rfl) (Or.inl rfl) rfl htext hbody)
  have hstart : StartsAt (Text.lines "# <doc:A>\n- `<doc:A>`".toList) "# <doc:A>".toList
      ["- `<doc:A>`".toList] :=
    ⟨[], rfl, by simp, by decide⟩
  have hassemble : assemble selfReferring {} ⟨[], [], []⟩ "# <doc:A>\n- `<doc:A>`".toList =
      .ok ⟨(⟨[], [], []⟩ : Header).lines ++
        ["# <doc:A>".toList, pageBreak, "[Up](#up)".toList, []], ["A".toList]⟩ := by
    rw [assemble_of_startsAt hstart, mapM_eq_ok_iff.2 (.cons hsegment .nil)]
    rfl
  exact ⟨_, rfl, htitles, hassemble, copiesReferences_of_assemble htitles hassemble⟩

/-- References in copied root lines are not looked up: one to an unknown document stays. -/
theorem exists_holdsReference_of_assemble :
    ¬ ∀ (corpus : Corpus) (options : AssemblyOptions) (header : Header) (root : Text)
        (document : CombinedDocument), corpus.index.HasPlainTitles →
        assemble corpus options header root = .ok document →
        ∀ line ∈ document.lines.drop header.lines.length, ¬ HoldsReference line := by
  intro h
  have hassemble : assemble ⟨⟨.empty, []⟩, .empty, []⟩ {} ⟨[], [], []⟩
      "# Guide\nSee <doc:Missing>.".toList =
      .ok ⟨(⟨[], [], []⟩ : Header).lines ++ ["# Guide".toList, "See <doc:Missing>.".toList], []⟩ :=
    rfl
  have hnone := h _ _ _ _ _ (by decide) hassemble "See <doc:Missing>.".toList
  rw [List.drop_left] at hnone
  have htarget : IsTarget "Missing".toList := ⟨by simp, List.all_eq_true.1 rfl⟩
  exact hnone (by simp) ⟨"See ".toList, "Missing".toList, ['.'], rfl, htarget⟩

end Bindery
