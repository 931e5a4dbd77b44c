import Bindery.Proofs.Book.Segments
import Mathlib

set_option autoImplicit false

/-! # Including some of the chapters

Naming chapters takes away what the directives of the others contribute, and nothing else: a root
line contributes the same as when all chapters are included, or it is the directive of a chapter
that is not named and contributes nothing (`Contributes.choosing`). So the document with the named
chapters is the full one without the segments of the others, and only the set of the names counts
(`assemble_choosing`). -/

namespace Bindery

/-- The options with the given chapters named. -/
def AssemblyOptions.choosing (options : AssemblyOptions) (chosen : List Text) : AssemblyOptions :=
  { options with chapters := chosen }

/-- The segment is not that of a chapter, or the chapter is one of the named ones. -/
def Segment.isKept (chosen : List Text) (segment : Segment) : Bool :=
  segment.chapter.all fun identifier => decide (identifier ∈ chosen)

/-- What a root line contributes when chapters are named, if it contributes the segment when none
are. -/
def Segment.restrict (chosen : List Text) (segment : Segment) : Segment :=
  if segment.isKept chosen then segment else ⟨[], none⟩

variable {corpus : Corpus} {options : AssemblyOptions} {chosen : List Text}

/-! ## One root line -/

/-- All chapters are included when none are named. -/
theorem selects_choosing_nil (options : AssemblyOptions) (identifier : Text) :
    (options.choosing []).Selects identifier :=
  Or.inl rfl

theorem selects_choosing_iff (hne : chosen ≠ []) {identifier : Text} :
    (options.choosing chosen).Selects identifier ↔ identifier ∈ chosen := by
  constructor
  · rintro (hnil | hmem)
    · exact absurd hnil hne
    · exact hmem
  · exact Or.inr

/-- A root line contributes what it does when all chapters are included, or nothing. -/
theorem Contributes.choosing (hne : chosen ≠ []) {line : Text} {segment : Segment}
    (h : Contributes corpus (options.choosing []) line segment) :
    Contributes corpus (options.choosing chosen) line (segment.restrict chosen) := by
  cases h with
  | @chapter identifier text record body hdirective _ hget htext hbody =>
    by_cases hmem : identifier ∈ chosen
    · simp only [Segment.restrict, Segment.isKept, Option.all_some, hmem, decide_true, if_true]
      exact .chapter hdirective ((selects_choosing_iff hne).2 hmem) hget htext hbody
    · simp only [Segment.restrict, Segment.isKept, Option.all_some, hmem, decide_false,
        Bool.false_eq_true, if_false]
      exact .skipped hdirective fun hselects => hmem ((selects_choosing_iff hne).1 hselects)
  | skipped hdirective hnot => exact absurd (selects_choosing_nil options _) hnot
  | heading hnone htop => exact .heading hnone htop
  | plain hnone htop => exact .plain hnone htop

/-! ## All segments -/

theorem flatMap_restrict (segments : List Segment) :
    (segments.map (·.restrict chosen)).flatMap (·.lines) =
      (segments.filter (·.isKept chosen)).flatMap (·.lines) := by
  induction segments with
  | nil => rfl
  | cons segment segments ih =>
    rw [List.map_cons, List.flatMap_cons, ih, List.filter_cons, Segment.restrict]
    split
    · rfl
    · rfl

theorem filterMap_restrict (segments : List Segment) :
    (segments.map (·.restrict chosen)).filterMap (·.chapter) =
      (segments.filterMap (·.chapter)).filter fun identifier => decide (identifier ∈ chosen) := by
  induction segments with
  | nil => rfl
  | cons segment segments ih =>
    obtain ⟨lines, _ | identifier⟩ := segment
    · simpa [Segment.restrict, Segment.isKept] using ih
    · by_cases hmem : identifier ∈ chosen <;>
        simpa [Segment.restrict, Segment.isKept, hmem] using ih

/-! ## The whole document -/

/-- Of the options, only the set of selected chapters and the treatment of comments count. -/
theorem assemble_congr_options {options' : AssemblyOptions} {header : Header} {root : Text}
    (hselects : ∀ identifier, options'.Selects identifier ↔ options.Selects identifier)
    (hstrip : options'.stripComments = options.stripComments) :
    assemble corpus options' header root = assemble corpus options header root := by
  have hselects : options'.selects = options.selects := by
    funext identifier
    rw [Bool.eq_iff_iff, selects_iff, selects_iff, hselects]
  have hchapter : chapterSegment corpus options' = chapterSegment corpus options := by
    funext identifier
    simp only [chapterSegment, chapterLines, hstrip]
  refine assemble_congr fun _ _ _ line _ => ?_
  simp only [rootSegment, hselects, hchapter]

/-- When the document with all chapters is assembled, so is the one with the named chapters. It is
the full document without the segments of the other chapters, and its chapters are those of the full
one that are named. In any case the names count only as a set. -/
theorem assemble_choosing (header : Header) (root : Text) (hne : chosen ≠ []) :
    (∀ full, assemble corpus (options.choosing []) header root = .ok full →
      ∃ part, assemble corpus (options.choosing chosen) header root = .ok part ∧
        part.chapters = full.chapters.filter (fun identifier => decide (identifier ∈ chosen)) ∧
        ((∀ line ∈ Text.lines root, ¬ topLevelMarker <+: line) ∧ full = ⟨header.lines, []⟩ ∧
            part = full ∨
          ∃ first following segments, StartsAt (Text.lines root) first following ∧
            List.Forall₂ (Contributes corpus (options.choosing [])) following segments ∧
            full.lines = header.lines ++ first :: segments.flatMap (·.lines) ∧
            full.chapters = segments.filterMap (·.chapter) ∧
            part.lines = header.lines ++
              first :: (segments.filter (·.isKept chosen)).flatMap (·.lines))) ∧
    ∀ other, (∀ identifier, identifier ∈ other ↔ identifier ∈ chosen) →
      assemble corpus (options.choosing other) header root =
        assemble corpus (options.choosing chosen) header root := by
  refine ⟨fun full h => ?_, fun other hsame => ?_⟩
  · rcases exists_startsAt (Text.lines root) with hnone | ⟨first, following, hstart⟩
    · rw [assemble_of_no_heading hnone] at h
      cases h
      exact ⟨_, assemble_of_no_heading hnone, rfl, Or.inl ⟨hnone, rfl, rfl⟩⟩
    · rw [assemble_of_startsAt hstart] at h
      obtain ⟨segments, hsegments, rfl⟩ := map_eq_ok_iff.1 h
      have hall : List.Forall₂ (Contributes corpus (options.choosing [])) following segments :=
        (mapM_eq_ok_iff.1 hsegments).imp fun _ _ => rootSegment_eq_ok_iff.1
      have hpart : following.mapM (rootSegment corpus (options.choosing chosen)) =
          .ok (segments.map (·.restrict chosen)) :=
        mapM_eq_ok_iff.2 (List.forall₂_map_right_iff.2
          (hall.imp fun _ _ hline => rootSegment_eq_ok_iff.2 (hline.choosing hne)))
      refine ⟨⟨header.lines ++ first :: (segments.map (·.restrict chosen)).flatMap (·.lines),
        (segments.map (·.restrict chosen)).filterMap (·.chapter)⟩, ?_, filterMap_restrict segments,
        Or.inr ⟨first, following, segments, hstart, hall, rfl, rfl, ?_⟩⟩
      · rw [assemble_of_startsAt hstart, hpart]
        rfl
      · rw [flatMap_restrict]
  · obtain ⟨identifier, hmem⟩ := List.exists_mem_of_ne_nil chosen hne
    have hother : other ≠ [] := List.ne_nil_of_mem ((hsame identifier).2 hmem)
    refine assemble_congr_options (fun identifier => ?_) rfl
    rw [selects_choosing_iff hother, selects_choosing_iff hne, hsame]

/-! ## One of two chapters -/

/-- Two chapters of one line. -/
def twoChapters : Corpus where
  files := ⟨.file "A.md".toList (Utf8.encode "One".toList)
    (.file "B.md".toList (Utf8.encode "Two".toList) .empty), []⟩
  index := ⟨[⟨"A".toList, "A.md".toList, none⟩, ⟨"B".toList, "B.md".toList, none⟩]⟩
  assetFolder := []

/-- A root document that includes the first of them twice. -/
def twoChaptersRoot : Text := "# Guide\n- `<doc:A>`\n- `<doc:B>`\nEnd\n- `<doc:A>`".toList

/-- What is assembled of that root document with all chapters under an empty header. -/
def twoChaptersDocument : CombinedDocument where
  lines := (⟨[], [], []⟩ : Header).lines ++
    ["# Guide".toList, pageBreak, "One".toList, [], pageBreak, "Two".toList, [], "End".toList,
      pageBreak, "One".toList, []]
  chapters := ["A".toList, "B".toList, "A".toList]

theorem startsAt_twoChapters :
    StartsAt (Text.lines twoChaptersRoot) "# Guide".toList
      ["- `<doc:A>`".toList, "- `<doc:B>`".toList, "End".toList, "- `<doc:A>`".toList] :=
  ⟨[], by decide +kernel, by simp, by decide⟩

theorem assemble_twoChapters :
    assemble twoChapters (AssemblyOptions.choosing {} []) ⟨[], [], []⟩ twoChaptersRoot =
      .ok twoChaptersDocument := by
  have hfirst : rootSegment twoChapters (AssemblyOptions.choosing {} []) "- `<doc:A>`".toList =
      .ok ⟨[pageBreak, "One".toList, []], some "A".toList⟩ := by
    have htext : twoChapters.files.readText "A.md".toList = .ok "One".toList := by cbv
    have hbody : DefinitionList.layOut (prepareLine twoChapters.index twoChapters.assets)
        ((AssemblyOptions.choosing {} []).chapterLines "One".toList) = .ok ["One".toList] := by
      decide +kernel
    exact rootSegment_eq_ok_iff.2
      (.chapter (directive?_eq_some_iff.1 rfl) (Or.inl rfl) rfl htext hbody)
  have hsecond : rootSegment twoChapters (AssemblyOptions.choosing {} []) "- `<doc:B>`".toList =
      .ok ⟨[pageBreak, "Two".toList, []], some "B".toList⟩ := by
    have htext : twoChapters.files.readText "B.md".toList = .ok "Two".toList := by cbv
    have hbody : DefinitionList.layOut (prepareLine twoChapters.index twoChapters.assets)
        ((AssemblyOptions.choosing {} []).chapterLines "Two".toList) = .ok ["Two".toList] := by
      decide +kernel
    exact rootSegment_eq_ok_iff.2
      (.chapter (directive?_eq_some_iff.1 rfl) (Or.inl rfl) rfl htext hbody)
  have hend : rootSegment twoChapters (AssemblyOptions.choosing {} []) "End".toList =
      .ok ⟨["End".toList], none⟩ := by
    decide +kernel
  rw [assemble_of_startsAt startsAt_twoChapters,
    mapM_eq_ok_iff.2 (.cons hfirst (.cons hsecond (.cons hend (.cons hfirst .nil))))]
  rfl

/-- Only the second chapter is left when it is named, twice and together with an unknown one, and
then it does not matter how the names are written down. -/
theorem assemble_choosing_second :
    (["B".toList, "Z".toList, "B".toList] : List Text) ≠ [] ∧
    (∃ part, assemble twoChapters (AssemblyOptions.choosing {} ["B".toList, "Z".toList, "B".toList])
        ⟨[], [], []⟩ twoChaptersRoot = .ok part ∧ part.chapters = ["B".toList]) ∧
    assemble twoChapters (AssemblyOptions.choosing {} ["Z".toList, "B".toList]) ⟨[], [], []⟩
        twoChaptersRoot =
      assemble twoChapters (AssemblyOptions.choosing {} ["B".toList, "Z".toList, "B".toList])
        ⟨[], [], []⟩ twoChaptersRoot := by
  have hne : (["B".toList, "Z".toList, "B".toList] : List Text) ≠ [] := List.cons_ne_nil _ _
  obtain ⟨hpart, hset⟩ := @assemble_choosing twoChapters {} _ ⟨[], [], []⟩ twoChaptersRoot hne
  refine ⟨hne, ?_, hset _ fun identifier => ?_⟩
  · obtain ⟨part, hok, hchapters, -⟩ := hpart twoChaptersDocument assemble_twoChapters
    exact ⟨part, hok, hchapters.trans (by decide +kernel)⟩
  · simp only [List.mem_cons, List.not_mem_nil, or_false]
    tauto

end Bindery
