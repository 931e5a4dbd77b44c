import Bindery.Proofs.Book.Segments
import Bindery.Proofs.Chapter.Layout
import Bindery.Proofs.Line.Rejection

set_option autoImplicit false

/-! # Root documents that cannot be assembled

`DirectiveFault` says when a root line cannot be assembled: only a directive of a selected chapter
can fail, because the index does not know the chapter, its file is no text, or one of its lines is
rejected. `assemble_eq_error_iff` says that assembling fails with the first such fault behind the
first top-level heading, and in no other way. -/

namespace Bindery

/-- The chapter of an identifier cannot be included, for the given reason. -/
inductive ChapterFault (corpus : Corpus) (options : AssemblyOptions) (identifier : Text) :
    AssemblyError → Prop
  /-- The index does not know the chapter. -/
  | absent : corpus.index.get? identifier = none →
      ChapterFault corpus options identifier (.directive (.unresolved identifier))
  /-- The chapter's file cannot be read, or it is no text. -/
  | unreadable {record : Record} {reason : ReadError} :
      corpus.index.get? identifier = some record →
      corpus.files.readText record.path = .error reason →
      ChapterFault corpus options identifier (.inaccessible record.path reason)
  /-- A line of the chapter is rejected; the first such line counts. -/
  | line {record : Record} {text : Text} {e : LineError} :
      corpus.index.get? identifier = some record →
      corpus.files.readText record.path = .ok text →
      FirstFault (LineFault corpus.index corpus.assets) (options.chapterLines text) e →
      ChapterFault corpus options identifier (.line e)

/-- The root line is the directive of a selected chapter that cannot be included. -/
def DirectiveFault (corpus : Corpus) (options : AssemblyOptions) (line : Text)
    (e : AssemblyError) : Prop :=
  ∃ identifier, IsDirective line identifier ∧ options.Selects identifier ∧
    ChapterFault corpus options identifier e

variable {corpus : Corpus} {options : AssemblyOptions}

/-- A chapter cannot be laid out exactly when one of its lines is rejected. -/
theorem chapterLines_eq_error_iff {text : Text} {e : LineError} :
    chapterLines corpus options text = .error e ↔
      FirstFault (LineFault corpus.index corpus.assets) (options.chapterLines text) e := by
  rw [chapterLines, DefinitionList.layOut_eq, ← AssemblyOptions.chapterLines, map_eq_error_iff,
    mapM_eq_error_iff]
  simp only [prepareLine_eq_error_iff]

theorem chapterSegment_eq_error_iff {identifier : Text} {e : AssemblyError} :
    chapterSegment corpus options identifier = .error e ↔
      ChapterFault corpus options identifier e := by
  unfold chapterSegment
  constructor
  · intro h
    split at h
    · next e' hresolve =>
      cases h
      obtain ⟨hnone, rfl⟩ := Index.resolve_eq_error_iff.1 hresolve
      exact .absent hnone
    · next record hresolve =>
      have hrecord := Index.resolve_eq_ok_iff.1 hresolve
      split at h
      · next reason hreason =>
        cases h
        exact .unreadable hrecord hreason
      · next text htext =>
        split at h
        · next e' hlines =>
          cases h
          exact .line hrecord htext (chapterLines_eq_error_iff.1 hlines)
        · cases h
  · intro h
    cases h with
    | absent hnone => simp only [Index.resolve_eq_error_iff.2 ⟨hnone, rfl⟩]
    | unreadable hrecord hreason => simp only [Index.resolve_eq_ok_iff.2 hrecord, hreason]
    | line hrecord htext hlines =>
      simp only [Index.resolve_eq_ok_iff.2 hrecord, htext, chapterLines_eq_error_iff.2 hlines]

/-- Only directives of selected chapters fail. -/
theorem rootSegment_eq_error_iff {line : Text} {e : AssemblyError} :
    rootSegment corpus options line = .error e ↔ DirectiveFault corpus options line e := by
  constructor
  · intro h
    unfold rootSegment at h
    split at h
    · next identifier hdirective =>
      split at h
      · next hselects =>
        rw [map_eq_error_iff, chapterSegment_eq_error_iff] at h
        exact ⟨identifier, directive?_eq_some_iff.1 hdirective, selects_iff.1 hselects, h⟩
      · cases h
    · cases h
  · rintro ⟨identifier, hdirective, hselects, hfault⟩
    simp only [rootSegment, directive?_eq_some_iff.2 hdirective,
      if_pos (selects_iff.2 hselects), map_eq_error_iff, chapterSegment_eq_error_iff.2 hfault]

/-- Assembling fails exactly when a directive of a selected chapter behind the first top-level
heading cannot be carried out, and then with the fault of the first such directive. -/
theorem assemble_eq_error_iff (header : Header) (root : Text) :
    (∀ e, assemble corpus options header root = .error e ↔
      ∃ first following, StartsAt (Text.lines root) first following ∧
        FirstFault (DirectiveFault corpus options) following e) ∧
    ((∃ e, assemble corpus options header root = .error e) ↔
      ∃ first following, StartsAt (Text.lines root) first following ∧
        ∃ line ∈ following, ∃ e, DirectiveFault corpus options line e) := by
  have hsame : ∀ {lines : List Text} {e : AssemblyError},
      FirstFault (fun line e => rootSegment corpus options line = .error e) lines e ↔
        FirstFault (DirectiveFault corpus options) lines e :=
    FirstFault.congr fun _ _ _ => rootSegment_eq_error_iff
  have hfirst : ∀ e, assemble corpus options header root = .error e ↔
      ∃ first following, StartsAt (Text.lines root) first following ∧
        FirstFault (DirectiveFault corpus options) following e := by
    intro e
    constructor
    · intro h
      rcases exists_startsAt (Text.lines root) with hnone | ⟨first, following, hstart⟩
      · rw [assemble_of_no_heading hnone] at h
        cases h
      · rw [assemble_of_startsAt hstart, map_eq_error_iff, mapM_eq_error_iff, hsame] at h
        exact ⟨first, following, hstart, h⟩
    · rintro ⟨first, following, hstart, hfault⟩
      rw [assemble_of_startsAt hstart, map_eq_error_iff, mapM_eq_error_iff, hsame]
      exact hfault
  refine ⟨hfirst, ?_⟩
  simp only [hfirst, ← FirstFault.exists_iff]
  constructor
  · rintro ⟨e, first, following, hstart, hfault⟩
    exact ⟨first, following, hstart, e, hfault⟩
  · rintro ⟨first, following, hstart, e, hfault⟩
    exact ⟨e, first, following, hstart, hfault⟩

end Bindery
