import Bindery.Proofs.Book.Stages
import Bindery.Proofs.Chapter.Layout
import Bindery.Proofs.Index.Build
import Bindery.Proofs.Index.Title
import Bindery.Proofs.Line.Linked
import Bindery.Proofs.Outline.Heading

set_option autoImplicit false

/-! # The lines of a combined document are lines

A line that goes into a combined document holds no line feed: it comes from the lines of a text, and
whatever is done to it keeps it on one line (`not_mem_of_prepareLine`, `not_mem_of_arranged`). Only
a title could bring a line feed in, and the titles of an index that was built do not. So the lines
of the document are found again in its text (`splitOn_text_of_assemble`). -/

namespace Bindery

/-! ## Titles -/

/-- No title of the index goes over more than one line. -/
def Index.HasSingleLineTitles (index : Index) : Prop :=
  ∀ record ∈ index.records, ∀ title ∈ record.title, '\n' ∉ title

instance (index : Index) : Decidable index.HasSingleLineTitles :=
  inferInstanceAs (Decidable (∀ _ ∈ _, _))

theorem not_mem_of_titleOf {text title : Text} (h : titleOf text = some title) : '\n' ∉ title := by
  obtain ⟨leading, rest, following, hlines, _, rfl⟩ := titleOf_eq_some_iff.1 h
  have hline : '\n' ∉ topLevelMarker ++ rest :=
    Text.not_mem_of_mem_lines (hlines ▸ List.mem_append_right _ (List.mem_cons_self ..))
  intro hmem
  exact hline (List.mem_append_right _ ((Text.trim_sublist rest).subset hmem))

theorem Index.hasSingleLineTitles_of_build {w : Workspace} {root : Path} {index : Index}
    (h : build w root = .ok index) : index.HasSingleLineTitles := by
  obtain ⟨records, rfl, hrecords⟩ := build_eq_ok_iff.1 h
  intro record hrecord title htitle
  obtain ⟨document, _, hread⟩ :=
    exists_of_mem_forall₂ hrecords (mem_of_mem_ofRecords hrecord)
  obtain ⟨text, _, rfl⟩ := readRecord_eq_ok_iff.1 hread
  exact not_mem_of_titleOf htitle

/-! ## Lines of chapters -/

variable {index : Index} {assets : Assets} {line : Text}

theorem isUnlinked_lineFeed : IsUnlinked '\n' :=
  ⟨by decide, by decide, by decide, by decide⟩

theorem not_mem_of_resolveReferences (hindex : index.HasSingleLineTitles) {linked : Text}
    (hline : '\n' ∉ line) (h : resolveReferences index line = .ok linked) : '\n' ∉ linked := by
  induction line using reference_induction generalizing linked with
  | plain line hplain =>
    rw [resolveReferences_plain hplain] at h
    cases h
    exact hline
  | reference front target rest hfront htarget ih =>
    rw [resolveReferences_reference hfront htarget] at h
    split at h
    · cases h
    · next label hlabel =>
      obtain ⟨linked', hrest, rfl⟩ := map_eq_ok_iff.1 h
      have hlink := not_mem_linkTo isUnlinked_lineFeed
        (not_mem_labelOf isUnlinked_lineFeed hindex htarget hlabel)
      simp only [List.mem_append, not_or] at hline ⊢
      exact ⟨⟨hline.1.1, hlink⟩, ih hline.2 hrest⟩

theorem not_mem_render {image : ImageLine} (himage : IsImageLine line image) (hline : '\n' ∉ line)
    (percent : Nat) : '\n' ∉ image.render percent := by
  have hdigits : '\n' ∉ Text.ofNat percent := by
    intro hmem
    have hdigit := Nat.isDigit_of_mem_toDigits (by decide) (by decide) hmem
    exact absurd hdigit (by decide)
  rw [himage.1] at hline
  simp only [List.mem_cons, List.mem_append, not_or] at hline
  simp [ImageLine.render, retinaFileName, hdigits, hline]

theorem not_mem_of_resolveImage {shown : Text} (hline : '\n' ∉ line)
    (h : resolveImage assets line = .ok shown) : '\n' ∉ shown := by
  rw [resolveImage] at h
  split at h
  · cases h
    exact hline
  · next image himage =>
    obtain ⟨percent, _, rfl⟩ := map_eq_ok_iff.1 h
    exact not_mem_render (imageLine?_eq_some_iff.1 himage) hline percent

theorem not_mem_pushHeading (hline : '\n' ∉ line) : '\n' ∉ pushHeading line := by
  unfold pushHeading
  split
  · simp [hline]
  · exact hline

/-- No change that a line goes through breaks it. -/
theorem not_mem_of_prepareLine (hindex : index.HasSingleLineTitles) {prepared : Text}
    (hline : '\n' ∉ line) (h : prepareLine index assets line = .ok prepared) :
    '\n' ∉ prepared := by
  rw [prepareLine] at h
  split at h
  · cases h
  · next linked hlinked =>
    have hmoved : '\n' ∉ moveOptionality linked := by
      rw [mem_moveOptionality (by decide)]
      exact not_mem_of_resolveReferences hindex hline hlinked
    split at h
    · cases h
    · next shown hshown =>
      cases h
      exact not_mem_pushHeading (not_mem_of_resolveImage hmoved hshown)

namespace DefinitionList

theorem not_mem_append_dropWhile {front : Text} (hfront : '\n' ∉ front) (hline : '\n' ∉ line) :
    '\n' ∉ front ++ line.dropWhile isBlank := by
  rw [List.mem_append, not_or]
  exact ⟨hfront, fun hmem => hline ((List.dropWhile_sublist _).subset hmem)⟩

theorem not_mem_opened (hline : '\n' ∉ line) : '\n' ∉ opened line :=
  not_mem_append_dropWhile (by decide) hline

theorem not_mem_continued (hline : '\n' ∉ line) : '\n' ∉ continued line := by
  unfold continued
  split
  · simp
  · exact not_mem_append_dropWhile (by decide) hline

/-- Laying lines out breaks none of them. -/
theorem not_mem_of_arranged {lines out : List Text} (h : Arranged lines out)
    (hlines : ∀ line ∈ lines, '\n' ∉ line) : ∀ line ∈ out, '\n' ∉ line := by
  induction h with
  | nil => simp
  | plain _ _ ih =>
    rw [List.forall_mem_cons] at hlines ⊢
    exact ⟨hlines.1, ih hlines.2⟩
  | lone hlabel =>
    rw [List.forall_mem_singleton] at hlines ⊢
    exact fun hmem => hlines (hlabel.isInfix.subset hmem)
  | item hlabel _ _ _ ih =>
    simp only [List.forall_mem_cons, List.forall_mem_append, List.forall_mem_map] at hlines ⊢
    obtain ⟨hline, hfirst, hbody, hrest⟩ := hlines
    refine ⟨fun hmem => hline (hlabel.isInfix.subset hmem), by simp, not_mem_opened hfirst, ?_,
      ih hrest⟩
    intro line hmem
    exact not_mem_continued (hbody line hmem)

end DefinitionList

/-! ## The document -/

variable {corpus : Corpus} {options : AssemblyOptions}

/-- What a root line contributes are lines. -/
theorem not_mem_of_contributes (hindex : corpus.index.HasSingleLineTitles) {segment : Segment}
    (hline : '\n' ∉ line) (h : Contributes corpus options line segment) :
    ∀ line ∈ segment.lines, '\n' ∉ line := by
  have hbreak : '\n' ∉ pageBreak := by
    decide
  cases h with
  | chapter _ _ _ _ hbody =>
    obtain ⟨prepared, hprepared, harranged⟩ :=
      ((DefinitionList.layOut_prepareLine _ _ _).1 _).1 hbody
    have hraw : ∀ line ∈ prepared, '\n' ∉ line := by
      intro line hmem
      obtain ⟨raw, hraw, hprepare⟩ := exists_of_mem_forall₂ hprepared hmem
      exact not_mem_of_prepareLine hindex (Text.not_mem_of_mem_lines hraw) hprepare
    simp only [List.cons_append, List.forall_mem_cons, List.forall_mem_append]
    exact ⟨hbreak, DefinitionList.not_mem_of_arranged harranged hraw, by simp⟩
  | skipped => simp
  | heading =>
    simp only [List.forall_mem_cons]
    exact ⟨hbreak, hline, by simp⟩
  | plain => exact List.forall_mem_singleton.2 hline

theorem not_mem_of_mem_header (header : Header) : ∀ line ∈ header.lines, '\n' ∉ line := by
  simp only [Header.lines, List.cons_append, List.forall_mem_cons, List.forall_mem_append]
  exact ⟨by decide, fun line hline => Text.not_mem_of_mem_lines hline, by decide, by simp⟩

theorem not_mem_of_assemble (hindex : corpus.index.HasSingleLineTitles) {header : Header}
    {root : Text} {document : CombinedDocument}
    (h : assemble corpus options header root = .ok document) :
    ∀ line ∈ document.lines, '\n' ∉ line := by
  rcases (assemble_eq_ok_iff header root document).1 h with
    ⟨_, rfl⟩ | ⟨first, following, segments, hstart, hall, hlines, _⟩
  · exact not_mem_of_mem_header header
  · obtain ⟨leading, hroot, _, _⟩ := hstart
    have hline : ∀ line ∈ first :: following, '\n' ∉ line := by
      intro line hmem
      exact Text.not_mem_of_mem_lines (hroot ▸ List.mem_append_right leading hmem)
    rw [List.forall_mem_cons] at hline
    rw [hlines]
    simp only [List.forall_mem_append, List.forall_mem_cons, List.forall_mem_flatMap]
    refine ⟨not_mem_of_mem_header header, hline.1, ?_⟩
    intro segment hsegment
    obtain ⟨raw, hraw, hcontributes⟩ := exists_of_mem_forall₂ hall hsegment
    exact not_mem_of_contributes hindex (hline.2 raw hraw) hcontributes

theorem lines_ne_nil_of_assemble {header : Header} {root : Text} {document : CombinedDocument}
    (h : assemble corpus options header root = .ok document) : document.lines ≠ [] := by
  obtain ⟨segments, _, rfl⟩ := map_eq_ok_iff.1 h
  simp [Header.lines]

/-- Every line of an assembled document is a line, so splitting its text at line feeds gives its
lines back, the header and empty lines at the end included. This needs titles that are on one line,
as those of an index that was built are. -/
theorem splitOn_text_of_assemble :
    (∀ (w : Workspace) (root : Path) (index : Index), Index.build w root = .ok index →
      index.HasSingleLineTitles) ∧
    ∀ (corpus : Corpus) (options : AssemblyOptions) (header : Header) (root : Text)
      (document : CombinedDocument), corpus.index.HasSingleLineTitles →
      assemble corpus options header root = .ok document →
      (∀ line ∈ document.lines, '\n' ∉ line) ∧ document.text.splitOn '\n' = document.lines := by
  constructor
  · intro w root index hbuild
    exact Index.hasSingleLineTitles_of_build hbuild
  · intro corpus options header root document hindex h
    have hlines := not_mem_of_assemble hindex h
    refine ⟨hlines, ?_⟩
    rw [CombinedDocument.text, joinLines_eq_intercalate]
    exact List.splitOn_intercalate '\n' hlines (lines_ne_nil_of_assemble h)

theorem splitOn_text_of_assemble_small :
    Index.build smallFiles "book".toList = .ok smallCorpus.index ∧
      smallCorpus.index.HasSingleLineTitles ∧
      smallManuscript.assembled smallFiles smallSettings "book".toList knownVersion
        smallManuscript.root = .ok smallDocument ∧
      smallDocument.text.splitOn '\n' = smallDocument.lines := by
  have hbuild : Index.build smallFiles "book".toList = .ok smallCorpus.index :=
    smallManuscript_isRead.index
  have hindex : smallCorpus.index.HasSingleLineTitles :=
    splitOn_text_of_assemble.1 _ _ _ hbuild
  obtain ⟨_, hsplit⟩ :=
    splitOn_text_of_assemble.2 smallCorpus _ _ _ _ hindex smallManuscript_assembled
  exact ⟨hbuild, hindex, smallManuscript_assembled, hsplit⟩

end Bindery
