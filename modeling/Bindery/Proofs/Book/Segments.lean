import Bindery.Book.Assembly
import Bindery.Proofs.FirstFault
import Bindery.Proofs.Index.Lookup
import Bindery.Proofs.Outline.Directive

set_option autoImplicit false

/-! # The segments of the combined document

`Contributes` says what a root line behind the first top-level heading contributes, line by line and
without reference to the lines around it. `assemble_eq_ok_iff` says that assembling
succeeds exactly when every such line contributes something, and that the combined document is then
the header, that heading and the contributions in order. -/

namespace Bindery

/-! ## Root lines -/

/-- The chapter is to be included: all are, unless some are named. -/
def AssemblyOptions.Selects (options : AssemblyOptions) (identifier : Text) : Prop :=
  options.chapters = [] ∨ identifier ∈ options.chapters

/-- The lines of a chapter file that are laid out: comments are removed first if the options say
so. -/
def AssemblyOptions.chapterLines (options : AssemblyOptions) (text : Text) : List Text :=
  Text.lines (if options.stripComments then removeComments text else text)

/-- A root line behind the first top-level heading contributes a segment. -/
inductive Contributes (corpus : Corpus) (options : AssemblyOptions) : Text → Segment → Prop
  /-- The directive of a selected chapter contributes the chapter between a page break and an empty
  line. The chapter is laid out by itself. -/
  | chapter {line identifier text : Text} {record : Record} {body : List Text} :
      IsDirective line identifier → options.Selects identifier →
      corpus.index.get? identifier = some record →
      corpus.files.readText record.path = .ok text →
      DefinitionList.layOut (prepareLine corpus.index corpus.assets) (options.chapterLines text) =
        .ok body →
      Contributes corpus options line ⟨pageBreak :: body ++ [[]], some identifier⟩
  /-- The directive of another chapter contributes nothing. -/
  | skipped {line identifier : Text} :
      IsDirective line identifier → ¬ options.Selects identifier →
      Contributes corpus options line ⟨[], none⟩
  /-- A top-level heading starts a new page. -/
  | heading {line : Text} :
      (∀ identifier, ¬ IsDirective line identifier) → topLevelMarker <+: line →
      Contributes corpus options line ⟨[pageBreak, line], none⟩
  /-- Any other line stays as it is. -/
  | plain {line : Text} :
      (∀ identifier, ¬ IsDirective line identifier) → ¬ topLevelMarker <+: line →
      Contributes corpus options line ⟨[line], none⟩

/-- `first` is the first top-level heading of the lines, and `following` are the lines behind it. -/
def StartsAt (lines : List Text) (first : Text) (following : List Text) : Prop :=
  ∃ leading, lines = leading ++ first :: following ∧
    (∀ line ∈ leading, ¬ topLevelMarker <+: line) ∧ topLevelMarker <+: first

/-! ## The segment of a line -/

theorem isTopLevel_iff {line : Text} : isTopLevel line = true ↔ topLevelMarker <+: line := by
  rw [isTopLevel, Text.startsWith, Option.isSome_iff_exists]
  constructor
  · rintro ⟨rest, hrest⟩
    exact ⟨rest, (Text.after?_eq_some.1 hrest).symm⟩
  · rintro ⟨rest, rfl⟩
    exact ⟨rest, Text.after?_append topLevelMarker rest⟩

theorem selects_iff {options : AssemblyOptions} {identifier : Text} :
    options.selects identifier = true ↔ options.Selects identifier := by
  simp [AssemblyOptions.selects, AssemblyOptions.Selects]

theorem chapterSegment_eq_ok_iff {corpus : Corpus} {options : AssemblyOptions} {identifier : Text}
    {lines : List Text} :
    chapterSegment corpus options identifier = .ok lines ↔
      ∃ record text body, corpus.index.get? identifier = some record ∧
        corpus.files.readText record.path = .ok text ∧
          DefinitionList.layOut (prepareLine corpus.index corpus.assets)
            (options.chapterLines text) = .ok body ∧ lines = pageBreak :: body ++ [[]] := by
  unfold chapterSegment
  constructor
  · intro h
    split at h
    · cases h
    · next record hrecord =>
      split at h
      · cases h
      · next text htext =>
        split at h
        · cases h
        · next body hbody =>
          cases h
          exact ⟨record, text, body, Index.resolve_eq_ok_iff.1 hrecord, htext, hbody, rfl⟩
  · rintro ⟨record, text, body, hrecord, htext, hbody, rfl⟩
    have hchapter : chapterLines corpus options text = .ok body := hbody
    simp only [Index.resolve_eq_ok_iff.2 hrecord, htext, hchapter]

/-- `rootSegment` finds what a line contributes. -/
theorem rootSegment_eq_ok_iff {corpus : Corpus} {options : AssemblyOptions} {line : Text}
    {segment : Segment} :
    rootSegment corpus options line = .ok segment ↔ Contributes corpus options line segment := by
  unfold rootSegment
  constructor
  · intro h
    split at h
    · next identifier hdirective =>
      rw [directive?_eq_some_iff] at hdirective
      split at h
      · next hselects =>
        obtain ⟨lines, hlines, rfl⟩ := map_eq_ok_iff.1 h
        obtain ⟨record, text, body, hrecord, htext, hbody, rfl⟩ :=
          chapterSegment_eq_ok_iff.1 hlines
        exact .chapter hdirective (selects_iff.1 hselects) hrecord htext hbody
      · next hselects =>
        cases h
        exact .skipped hdirective fun h => hselects (selects_iff.2 h)
    · next hnone =>
      rw [directive?_eq_none_iff] at hnone
      cases h
      split
      · next htop => exact .heading hnone (isTopLevel_iff.1 htop)
      · next htop => exact .plain hnone fun h => htop (isTopLevel_iff.2 h)
  · intro h
    cases h with
    | chapter hdirective hselects hrecord htext hbody =>
      simp only [directive?_eq_some_iff.2 hdirective, if_pos (selects_iff.2 hselects),
        chapterSegment_eq_ok_iff.2 ⟨_, _, _, hrecord, htext, hbody, rfl⟩]
      rfl
    | skipped hdirective hselects =>
      have hnot : ¬ options.selects _ = true := fun h => hselects (selects_iff.1 h)
      simp only [directive?_eq_some_iff.2 hdirective, if_neg hnot]
    | heading hnone htop =>
      simp only [directive?_eq_none_iff.2 hnone, if_pos (isTopLevel_iff.2 htop)]
    | plain hnone htop =>
      have hnot : ¬ isTopLevel line = true := fun h => htop (isTopLevel_iff.1 h)
      simp only [directive?_eq_none_iff.2 hnone, if_neg hnot]

/-! ## The loop over the root lines -/

variable {corpus : Corpus} {options : AssemblyOptions}

/-- Behind the first top-level heading each line is dealt with by itself. -/
theorem rootSegments_following (lines : List Text) :
    rootSegments corpus options .following lines = lines.mapM (rootSegment corpus options) := by
  induction lines with
  | nil => rfl
  | cons line lines ih =>
    cases hline : rootSegment corpus options line with
    | error e =>
      rw [mapM_cons_error hline]
      simp [rootSegments, rootStep, hline, Except.map]
    | ok segment =>
      rw [mapM_cons_ok hline, ← ih]
      simp only [rootSegments, rootStep, hline, Except.map]

/-- Lines before the first top-level heading contribute nothing. -/
theorem rootSegments_leading {leading : List Text} (rest : List Text)
    (h : ∀ line ∈ leading, ¬ topLevelMarker <+: line) :
    rootSegments corpus options .leading (leading ++ rest) =
      (rootSegments corpus options .leading rest).map
        (List.replicate leading.length ⟨[], none⟩ ++ ·) := by
  induction leading with
  | nil =>
    rw [List.nil_append]
    cases rootSegments corpus options .leading rest <;> rfl
  | cons line leading ih =>
    have hnot : ¬ isTopLevel line = true :=
      fun htop => h line (List.mem_cons_self ..) (isTopLevel_iff.1 htop)
    have htail := ih fun l hl => h l (List.mem_cons_of_mem _ hl)
    rw [List.cons_append, rootSegments]
    simp only [rootStep, if_neg hnot, htail]
    cases rootSegments corpus options .leading rest <;> rfl

/-- The lines have a first top-level heading or none at all. -/
theorem exists_startsAt (lines : List Text) :
    (∀ line ∈ lines, ¬ topLevelMarker <+: line) ∨
      ∃ first following, StartsAt lines first following := by
  induction lines with
  | nil => exact Or.inl (by simp)
  | cons line lines ih =>
    by_cases hline : topLevelMarker <+: line
    · exact Or.inr ⟨line, lines, [], rfl, by simp, hline⟩
    · rcases ih with hnone | ⟨first, following, leading, rfl, hleading, hfirst⟩
      · exact Or.inl (List.forall_mem_cons.2 ⟨hline, hnone⟩)
      · exact Or.inr ⟨first, following, line :: leading, rfl,
          List.forall_mem_cons.2 ⟨hline, hleading⟩, hfirst⟩

/-- The first top-level heading of the lines is in one place. -/
theorem StartsAt.unique {lines following other : List Text} {first first' : Text}
    (h : StartsAt lines first following) (h' : StartsAt lines first' other) :
    first = first' ∧ following = other := by
  obtain ⟨leading, rfl, hleading, hfirst⟩ := h
  obtain ⟨leading', hlines, hleading', hfirst'⟩ := h'
  rcases List.append_eq_append_iff.1 hlines with ⟨between, rfl, hbetween⟩ | ⟨between, rfl, hbetween⟩
  · cases between with
    | nil => simpa using hbetween
    | cons line between =>
      rw [List.cons_append, List.cons.injEq] at hbetween
      exact absurd (hbetween.1 ▸ hfirst) (hleading' line (by simp))
  · cases between with
    | nil => simpa [eq_comm] using hbetween
    | cons line between =>
      rw [List.cons_append, List.cons.injEq] at hbetween
      exact absurd (hbetween.1 ▸ hfirst') (hleading line (by simp))

theorem assemble_of_no_heading {header : Header} {root : Text}
    (h : ∀ line ∈ Text.lines root, ¬ topLevelMarker <+: line) :
    assemble corpus options header root = .ok ⟨header.lines, []⟩ := by
  rw [assemble, ← List.append_nil (Text.lines root), rootSegments_leading [] h]
  simp [rootSegments, Except.map]

theorem assemble_of_startsAt {header : Header} {root first : Text} {following : List Text}
    (h : StartsAt (Text.lines root) first following) :
    assemble corpus options header root =
      (following.mapM (rootSegment corpus options)).map fun segments =>
        ⟨header.lines ++ first :: segments.flatMap (·.lines), segments.filterMap (·.chapter)⟩ := by
  obtain ⟨leading, hlines, hleading, hfirst⟩ := h
  have hstep : rootSegments corpus options .leading (first :: following) =
      (following.mapM (rootSegment corpus options)).map (⟨[first], none⟩ :: ·) := by
    rw [rootSegments, ← rootSegments_following]
    simp only [rootStep, if_pos (isTopLevel_iff.2 hfirst)]
  rw [assemble, hlines, rootSegments_leading _ hleading, hstep]
  cases following.mapM (rootSegment corpus options) with
  | error e => rfl
  | ok segments => simp [Except.map]

/-- What is assembled depends only on what the lines behind the first top-level heading give. -/
theorem assemble_congr {corpus' : Corpus} {options' : AssemblyOptions} {header : Header}
    {root : Text}
    (h : ∀ first following, StartsAt (Text.lines root) first following → ∀ line ∈ following,
      rootSegment corpus' options' line = rootSegment corpus options line) :
    assemble corpus' options' header root = assemble corpus options header root := by
  rcases exists_startsAt (Text.lines root) with hnone | ⟨first, following, hstart⟩
  · rw [assemble_of_no_heading hnone, assemble_of_no_heading hnone]
  · rw [assemble_of_startsAt hstart, assemble_of_startsAt hstart, mapM_congr (h _ _ hstart)]

/-! ## The whole document -/

/-- Assembling succeeds exactly when each root line behind the first top-level heading contributes
something. The document is then the header, that heading and the contributions in order, and its
chapters are those that were contributed. Without a top-level heading it is the header alone. -/
theorem assemble_eq_ok_iff (header : Header) (root : Text) (document : CombinedDocument) :
    assemble corpus options header root = .ok document ↔
      (∀ line ∈ Text.lines root, ¬ topLevelMarker <+: line) ∧ document = ⟨header.lines, []⟩ ∨
      ∃ first following segments, StartsAt (Text.lines root) first following ∧
        List.Forall₂ (Contributes corpus options) following segments ∧
        document.lines = header.lines ++ first :: segments.flatMap (·.lines) ∧
        document.chapters = segments.filterMap (·.chapter) := by
  constructor
  · intro h
    rcases exists_startsAt (Text.lines root) with hnone | ⟨first, following, hstart⟩
    · rw [assemble_of_no_heading hnone] at h
      cases h
      exact Or.inl ⟨hnone, rfl⟩
    · rw [assemble_of_startsAt hstart] at h
      obtain ⟨segments, hsegments, rfl⟩ := map_eq_ok_iff.1 h
      have hall := (mapM_eq_ok_iff.1 hsegments).imp fun _ _ => rootSegment_eq_ok_iff.1
      exact Or.inr ⟨first, following, segments, hstart, hall, rfl, rfl⟩
  · rintro (⟨hnone, rfl⟩ | ⟨first, following, segments, hstart, hall, hlines, hchapters⟩)
    · exact assemble_of_no_heading hnone
    · have hsegments := mapM_eq_ok_iff.2 (hall.imp fun _ _ => rootSegment_eq_ok_iff.2)
      rw [assemble_of_startsAt hstart, hsegments, Except.map, ← hlines, ← hchapters]

end Bindery
