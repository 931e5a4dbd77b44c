import Bindery.Proofs.Book.Segments
import Bindery.Proofs.Chapter.Layout
import Bindery.Proofs.Line.Resolution
import Mathlib

set_option autoImplicit false

/-! # What assembling looks up in the index

The index is asked for two things: where the included chapters are (`Includes`), and which titles
the documents have to which these chapters refer without a fragment (`RefersTo`). Two indexes that
give the same answers there (`AgreesWith`) lead to the same result, be it a document or an error,
because each line is prepared from its own references, each chapter from its own lines, and each root
line by itself. `assemble_of_agreesWith` says so, and says what it means for titles that nobody asks
for and for documents without a title. -/

namespace Bindery

/-! ## Questions to the index -/

/-- A reference to a whole document, one without a fragment, stands in the line. -/
def NamesDocument (line target : Text) : Prop :=
  '#' ∉ target ∧ ∃ before behind, ReferenceAt line before target behind

/-- Behind the first top-level heading of the root document there is a directive of the chapter, and
the chapter is selected. -/
def Includes (options : AssemblyOptions) (root identifier : Text) : Prop :=
  ∃ first following, StartsAt (Text.lines root) first following ∧
    ∃ line ∈ following, IsDirective line identifier ∧ options.Selects identifier

/-- A reference to the whole document `target` stands in a line of the chapter `identifier`, after
its comments are removed if the options say so. -/
def ChapterRefersTo (corpus : Corpus) (options : AssemblyOptions) (identifier target : Text) :
    Prop :=
  ∃ record text, corpus.index.get? identifier = some record ∧
    corpus.files.readText record.path = .ok text ∧
    ∃ line ∈ options.chapterLines text, NamesDocument line target

/-- A reference to the whole document `target` stands in an included chapter. -/
def RefersTo (corpus : Corpus) (options : AssemblyOptions) (root target : Text) : Prop :=
  ∃ identifier, Includes options root identifier ∧
    ChapterRefersTo corpus options identifier target

/-- The corpus with another index. -/
def Corpus.withIndex (corpus : Corpus) (index : Index) : Corpus := { corpus with index := index }

/-- The index has the path of a document, if it knows the document. -/
def Index.path? (index : Index) (identifier : Text) : Option Path :=
  (index.get? identifier).map (·.path)

/-- The index has the title of a document, or that it has none, if it knows the document. -/
def Index.title? (index : Index) (identifier : Text) : Option (Option Text) :=
  (index.get? identifier).map (·.title)

/-- The other index knows the included chapters and the documents to which they refer exactly if the
index of the corpus does, the chapters at the same paths and the documents with the same titles. -/
structure AgreesWith (corpus : Corpus) (options : AssemblyOptions) (root : Text)
    (other : Index) : Prop where
  path : ∀ identifier, Includes options root identifier →
    other.path? identifier = corpus.index.path? identifier
  title : ∀ target, RefersTo corpus options root target →
    other.title? target = corpus.index.title? target

variable {index other : Index} {corpus : Corpus} {options : AssemblyOptions}

/-! ## Lines -/

/-- A title, or the reason why there is none, depends on the title in the index. -/
theorem Index.titleFor_congr {target : Text} (h : other.title? target = index.title? target) :
    other.titleFor target = index.titleFor target := by
  unfold Index.title? at h
  cases hindex : index.get? target with
  | none =>
    rw [hindex, Option.map_none, Option.map_eq_none_iff] at h
    simp only [Index.titleFor, Index.resolve, hindex, h]
  | some record =>
    rw [hindex, Option.map_some, Option.map_eq_some_iff] at h
    obtain ⟨record', hother, htitle⟩ := h
    have hsame : record'.identifier = record.identifier :=
      (Index.identifier_of_get? hother).trans (Index.identifier_of_get? hindex).symm
    simp only [Index.titleFor, Index.resolve, hindex, hother, htitle, hsame]

/-- A label depends on the title of the document only where the target has no fragment. -/
theorem labelOf_congr {target : Text}
    (h : '#' ∉ target → other.title? target = index.title? target) :
    labelOf other target = labelOf index target := by
  unfold labelOf
  cases hfragment : fragment? target with
  | some fragment => rfl
  | none => exact Index.titleFor_congr (h (fragment?_eq_none_iff.1 hfragment))

theorem resolveReferences_congr {line : Text}
    (h : ∀ target, NamesDocument line target → other.title? target = index.title? target) :
    resolveReferences other line = resolveReferences index line := by
  induction line using reference_induction with
  | plain line hline => rw [resolveReferences_plain hline, resolveReferences_plain hline]
  | reference front target rest hfront htarget ih =>
    have hlabel : labelOf other target = labelOf index target :=
      labelOf_congr fun hwhole => h target ⟨hwhole, front, rest, rfl, htarget⟩
    have hrest : resolveReferences other rest = resolveReferences index rest := by
      refine ih fun t ⟨hwhole, before, behind, hat⟩ => h t ⟨hwhole, ?_⟩
      exact ⟨_, behind, (referenceAt_iff hfront htarget).2 (.inr ⟨before, rfl, hat⟩)⟩
    rw [resolveReferences_reference hfront htarget, resolveReferences_reference hfront htarget,
      hlabel, hrest]

theorem prepareLine_congr {assets : Assets} {line : Text}
    (h : ∀ target, NamesDocument line target → other.title? target = index.title? target) :
    prepareLine other assets line = prepareLine index assets line := by
  rw [prepareLine, prepareLine, resolveReferences_congr h]

/-- The documents that a line names have titles, if its references became links. -/
theorem exists_title_of_resolveReferences {line linked target : Text}
    (h : resolveReferences index line = .ok linked) (hnames : NamesDocument line target) :
    ∃ title, index.title? target = some (some title) := by
  obtain ⟨hwhole, before, behind, hat⟩ := hnames
  induction line using reference_induction generalizing linked before with
  | plain line hline => exact absurd hat.holds hline
  | reference front first rest hfront hfirst ih =>
    rw [resolveReferences_reference hfront hfirst] at h
    split at h
    · cases h
    · next label hlabel =>
      obtain ⟨linked, hlinked, -⟩ := map_eq_ok_iff.1 h
      rcases (referenceAt_iff hfront hfirst).1 hat with ⟨-, rfl, -⟩ | ⟨before, -, hrest⟩
      · rw [labelOf, fragment?_eq_none_iff.2 hwhole] at hlabel
        obtain ⟨record, hget, htitle⟩ := Index.titleFor_eq_ok_iff.1 hlabel
        exact ⟨label, by rw [Index.title?, hget, Option.map_some, htitle]⟩
      · exact ih hlinked before hrest

/-! ## Chapters -/

theorem chapterLines_congr {text : Text}
    (h : ∀ line ∈ options.chapterLines text, ∀ target, NamesDocument line target →
      other.title? target = corpus.index.title? target) :
    chapterLines (corpus.withIndex other) options text = chapterLines corpus options text := by
  rw [chapterLines, chapterLines, DefinitionList.layOut_eq, DefinitionList.layOut_eq]
  congr 1
  exact mapM_congr fun line hline => prepareLine_congr (h line hline)

/-- A chapter depends on its path and on the titles of the documents to which it refers. -/
theorem chapterSegment_congr {identifier : Text}
    (hpath : other.path? identifier = corpus.index.path? identifier)
    (htitle : ∀ target, ChapterRefersTo corpus options identifier target →
      other.title? target = corpus.index.title? target) :
    chapterSegment (corpus.withIndex other) options identifier =
      chapterSegment corpus options identifier := by
  unfold Index.path? at hpath
  cases hget : corpus.index.get? identifier with
  | none =>
    rw [hget, Option.map_none, Option.map_eq_none_iff] at hpath
    have hnone : (corpus.withIndex other).index.get? identifier = none := hpath
    simp only [chapterSegment, Index.resolve, hget, hnone]
  | some record =>
    rw [hget, Option.map_some, Option.map_eq_some_iff] at hpath
    obtain ⟨record', hget', hsame⟩ := hpath
    have hsome : (corpus.withIndex other).index.get? identifier = some record' := hget'
    have hfiles : (corpus.withIndex other).files = corpus.files := rfl
    simp only [chapterSegment, Index.resolve, hget, hsome, hsame, hfiles]
    cases htext : corpus.files.readText record.path with
    | error reason => rfl
    | ok text =>
      have hlines : chapterLines (corpus.withIndex other) options text =
          chapterLines corpus options text :=
        chapterLines_congr fun line hline target hnames =>
          htitle target ⟨record, text, hget, htext, line, hline, hnames⟩
      simp only [hlines]

/-! ## Root documents -/

theorem rootSegment_congr {line : Text}
    (h : ∀ identifier, IsDirective line identifier → options.Selects identifier →
      chapterSegment (corpus.withIndex other) options identifier =
        chapterSegment corpus options identifier) :
    rootSegment (corpus.withIndex other) options line = rootSegment corpus options line := by
  unfold rootSegment
  cases hdirective : directive? line with
  | none => rfl
  | some identifier =>
    by_cases hselects : options.selects identifier = true
    · simp only [if_pos hselects,
        h identifier (directive?_eq_some_iff.1 hdirective) (selects_iff.1 hselects)]
    · simp only [if_neg hselects]

/-- What is assembled depends on the index only where it is asked. -/
theorem assemble_withIndex {header : Header} {root : Text}
    (h : AgreesWith corpus options root other) :
    assemble (corpus.withIndex other) options header root =
      assemble corpus options header root := by
  refine assemble_congr fun first following hstart line hline =>
    rootSegment_congr fun identifier hdirective hselects => ?_
  have hincludes : Includes options root identifier :=
    ⟨first, following, hstart, line, hline, hdirective, hselects⟩
  exact chapterSegment_congr (h.path identifier hincludes)
    fun target hrefers => h.title target ⟨identifier, hincludes, hrefers⟩

/-- The documents to which a chapter refers have titles, if the chapter was laid out. -/
theorem exists_title_of_layOut {lines body : List Text} {line target : Text} {assets : Assets}
    (h : DefinitionList.layOut (prepareLine index assets) lines = .ok body) (hline : line ∈ lines)
    (hnames : NamesDocument line target) : ∃ title, index.title? target = some (some title) := by
  rw [DefinitionList.layOut_eq] at h
  obtain ⟨prepared, hprepared, -⟩ := map_eq_ok_iff.1 h
  obtain ⟨written, hwritten⟩ := exists_mapM_eq_ok_iff.1 ⟨prepared, hprepared⟩ line hline
  rw [prepareLine] at hwritten
  split at hwritten
  · cases hwritten
  · next linked hlinked => exact exists_title_of_resolveReferences hlinked hnames

/-- The documents to which the chapters of a document refer have titles. -/
theorem exists_title_of_assemble {header : Header} {root target : Text}
    {document : CombinedDocument} (h : assemble corpus options header root = .ok document)
    (hrefers : RefersTo corpus options root target) :
    ∃ title, corpus.index.title? target = some (some title) := by
  obtain ⟨identifier, ⟨first, following, hstart, line, hline, hdirective, hselects⟩, record, text,
    hget, htext, chapterLine, hchapterLine, hnames⟩ := hrefers
  rw [assemble_of_startsAt hstart] at h
  obtain ⟨segments, hsegments, -⟩ := map_eq_ok_iff.1 h
  obtain ⟨segment, hsegment⟩ := exists_mapM_eq_ok_iff.1 ⟨segments, hsegments⟩ line hline
  cases rootSegment_eq_ok_iff.1 hsegment with
  | chapter hdirective' _ hget' htext' hbody =>
    rw [hdirective'.unique hdirective, hget] at hget'
    cases hget'
    rw [htext] at htext'
    cases htext'
    exact exists_title_of_layOut hbody hchapterLine hnames
  | skipped hdirective' hnot => exact absurd (hdirective'.unique hdirective ▸ hselects) hnot
  | heading hnone _ => exact absurd hdirective (hnone identifier)
  | plain hnone _ => exact absurd hdirective (hnone identifier)

/-- A document that was assembled is assembled with any other index that has the chapters at the
same paths and the same titles. Documents without a title may be missing, or there may be more. -/
theorem assemble_withIndex_of_titles {header : Header} {root : Text} {document : CombinedDocument}
    (hpath : ∀ identifier, Includes options root identifier →
      other.path? identifier = corpus.index.path? identifier)
    (htitle : ∀ identifier title, corpus.index.title? identifier = some (some title) →
      other.title? identifier = some (some title))
    (h : assemble corpus options header root = .ok document) :
    assemble (corpus.withIndex other) options header root = .ok document := by
  have hagrees : AgreesWith corpus options root other := by
    refine ⟨hpath, fun target hrefers => ?_⟩
    obtain ⟨title, hindex⟩ := exists_title_of_assemble h hrefers
    rw [hindex, htitle target title hindex]
  rw [assemble_withIndex hagrees, h]

/-- A record with another title leaves all paths, and the titles of all other documents. -/
theorem agreesWith_insert {root : Text} {record : Record} (title : Option Text)
    (hget : corpus.index.get? record.identifier = some record)
    (hrefers : ¬ RefersTo corpus options root record.identifier) :
    AgreesWith corpus options root (corpus.index.insert { record with title := title }) := by
  refine ⟨fun identifier _ => ?_, fun target htarget => ?_⟩
  · rw [Index.path?, Index.get?_insert, Index.path?]
    split
    · next hsame =>
      have hsame : record.identifier = identifier := hsame
      rw [← hsame, hget]
      rfl
    · rfl
  · have hne : ¬ record.identifier = target := fun hsame => hrefers (hsame ▸ htarget)
    rw [Index.title?, Index.get?_insert, Index.title?, if_neg hne]

/-- Assembling ends in the same way, with a document or with an error, for all indexes that agree on
where the included chapters are and on the titles of the documents to which these refer as a whole.
So the title of a document to which nothing refers as a whole may be another or be missing. And
documents without a title, unless they are included chapters, may come and go without changing any
document that is assembled. -/
theorem assemble_of_agreesWith (corpus : Corpus) (options : AssemblyOptions) (header : Header)
    (root : Text) :
    (∀ other, AgreesWith corpus options root other →
      assemble (corpus.withIndex other) options header root =
        assemble corpus options header root) ∧
    (∀ record title, corpus.index.get? record.identifier = some record →
      ¬ RefersTo corpus options root record.identifier →
      assemble (corpus.withIndex (corpus.index.insert { record with title := title })) options header
          root =
        assemble corpus options header root) ∧
    ∀ other, (∀ identifier, Includes options root identifier →
        other.path? identifier = corpus.index.path? identifier) →
      (∀ identifier title, other.title? identifier = some (some title) ↔
        corpus.index.title? identifier = some (some title)) →
      ∀ document, assemble (corpus.withIndex other) options header root = .ok document ↔
        assemble corpus options header root = .ok document := by
  refine ⟨fun other hagrees => assemble_withIndex hagrees, fun record title hget hrefers =>
    assemble_withIndex (agreesWith_insert title hget hrefers), fun other hpath htitle document => ?_⟩
  constructor
  · intro h
    -- the corpus is the one with the other index, with its own index put back
    have hback : assemble ((corpus.withIndex other).withIndex corpus.index) options header root =
        .ok document :=
      assemble_withIndex_of_titles (fun identifier hincludes => (hpath identifier hincludes).symm)
        (fun identifier title => (htitle identifier title).1) h
    exact hback
  · exact assemble_withIndex_of_titles hpath fun identifier title => (htitle identifier title).2

/-! ## A chapter with two references -/

/-- A chapter without a title, which refers to a whole document and to a part of another. -/
def twoReferences : Corpus where
  files := ⟨.file "A.md".toList (Utf8.encode "<doc:B>, <doc:C#Part-One>".toList) .empty, []⟩
  index := ⟨[⟨"A".toList, "A.md".toList, none⟩, ⟨"B".toList, "B.md".toList, some "Bee".toList⟩,
    ⟨"C".toList, "C.md".toList, some "Sea".toList⟩]⟩
  assetFolder := []

/-- A root document that includes that chapter. -/
def twoReferencesRoot : Text := "# Guide\n- `<doc:A>`".toList

/-- An index with what the chapter needs: the chapter has got a title, the document it refers to is
elsewhere, and the third is unknown. -/
def scantIndex : Index :=
  ⟨[⟨"B".toList, "old/B.md".toList, some "Bee".toList⟩,
    ⟨"A".toList, "A.md".toList, some "Ay".toList⟩]⟩

theorem startsAt_twoReferences :
    StartsAt (Text.lines twoReferencesRoot) "# Guide".toList ["- `<doc:A>`".toList] :=
  ⟨[], rfl, by simp, by decide⟩

theorem readText_twoReferences : twoReferences.files.readText "A.md".toList =
    .ok "<doc:B>, <doc:C#Part-One>".toList := by
  cbv

theorem eq_of_includes_twoReferences {identifier : Text}
    (h : Includes {} twoReferencesRoot identifier) : identifier = "A".toList := by
  obtain ⟨first, following, hstart, line, hline, hdirective, -⟩ := h
  rw [← (startsAt_twoReferences.unique hstart).2, List.mem_singleton] at hline
  subst hline
  exact hdirective.unique (directive?_eq_some_iff.1 rfl)

theorem eq_of_refersTo_twoReferences {target : Text}
    (h : RefersTo twoReferences {} twoReferencesRoot target) : target = "B".toList := by
  obtain ⟨identifier, hincludes, record, text, hget, htext, line, hline, hwhole, hat⟩ := h
  rw [eq_of_includes_twoReferences hincludes] at hget
  cases hget
  rw [readText_twoReferences] at htext
  cases htext
  have hlines : AssemblyOptions.chapterLines {} "<doc:B>, <doc:C#Part-One>".toList =
      ["<doc:B>, <doc:C#Part-One>".toList] := by
    decide +kernel
  rw [hlines, List.mem_singleton] at hline
  subst hline
  have hscan : Piece.scan "<doc:B>, <doc:C#Part-One>".toList =
      [.reference "B".toList, .plain ',', .plain ' ', .reference "C#Part-One".toList] := by
    decide +kernel
  have hmem := reference_mem_scan_iff.2 hat
  rw [hscan] at hmem
  simp only [List.mem_cons, Piece.reference.injEq, reduceCtorEq, List.not_mem_nil, or_false,
    false_or] at hmem
  rcases hmem with rfl | rfl
  · rfl
  · exact absurd (by decide) hwhole

/-- What is assembled of that root document under an empty header. -/
def twoReferencesDocument : CombinedDocument where
  lines := (⟨[], [], []⟩ : Header).lines ++
    ["# Guide".toList, pageBreak, "[Bee](#bee), [Part One](#part-one)".toList, []]
  chapters := ["A".toList]

theorem assemble_twoReferences :
    assemble twoReferences {} ⟨[], [], []⟩ twoReferencesRoot = .ok twoReferencesDocument := by
  have hbody : DefinitionList.layOut (prepareLine twoReferences.index twoReferences.assets)
      (AssemblyOptions.chapterLines {} "<doc:B>, <doc:C#Part-One>".toList) =
      .ok ["[Bee](#bee), [Part One](#part-one)".toList] := by
    decide +kernel
  have hsegment : rootSegment twoReferences {} "- `<doc:A>`".toList =
      .ok ⟨[pageBreak, "[Bee](#bee), [Part One](#part-one)".toList, []], some "A".toList⟩ :=
    rootSegment_eq_ok_iff.2
      (.chapter (directive?_eq_some_iff.1 rfl) (Or.inl rfl) rfl readText_twoReferences hbody)
  rw [assemble_of_startsAt startsAt_twoReferences, mapM_eq_ok_iff.2 (.cons hsegment .nil)]
  rfl

/-- The same document is assembled with the scant index, when the third document has no title, and
when there is a further document without one. -/
theorem assemble_of_agreesWith_twoReferences :
    AgreesWith twoReferences {} twoReferencesRoot scantIndex ∧
    ¬ RefersTo twoReferences {} twoReferencesRoot "C".toList ∧
    assemble (twoReferences.withIndex scantIndex) {} ⟨[], [], []⟩ twoReferencesRoot =
      .ok twoReferencesDocument ∧
    assemble (twoReferences.withIndex
        (twoReferences.index.insert ⟨"C".toList, "C.md".toList, none⟩)) {} ⟨[], [], []⟩
      twoReferencesRoot = .ok twoReferencesDocument ∧
    assemble (twoReferences.withIndex
        (twoReferences.index.insert ⟨"D".toList, "D.md".toList, none⟩)) {} ⟨[], [], []⟩
      twoReferencesRoot = .ok twoReferencesDocument := by
  have hagrees : AgreesWith twoReferences {} twoReferencesRoot scantIndex := by
    refine ⟨fun identifier hincludes => ?_, fun target hrefers => ?_⟩
    · rw [eq_of_includes_twoReferences hincludes]
      decide
    · rw [eq_of_refersTo_twoReferences hrefers]
      decide
  have hthird : ¬ RefersTo twoReferences {} twoReferencesRoot "C".toList := fun hrefers =>
    absurd (eq_of_refersTo_twoReferences hrefers) (by decide)
  have hpath : ∀ identifier, Includes {} twoReferencesRoot identifier →
      (twoReferences.index.insert ⟨"D".toList, "D.md".toList, none⟩).path? identifier =
        twoReferences.index.path? identifier := by
    intro identifier hincludes
    rw [eq_of_includes_twoReferences hincludes]
    decide
  have htitle : ∀ identifier title,
      (twoReferences.index.insert ⟨"D".toList, "D.md".toList, none⟩).title? identifier =
          some (some title) ↔
        twoReferences.index.title? identifier = some (some title) := by
    intro identifier title
    have hunknown : twoReferences.index.get? "D".toList = none := by decide
    rw [Index.title?, Index.title?, Index.get?_insert]
    split
    · next hsame =>
      have hsame : "D".toList = identifier := hsame
      rw [← hsame, hunknown]
      simp
    · rfl
  obtain ⟨hsame, hretitled, huntitled⟩ :=
    assemble_of_agreesWith twoReferences {} ⟨[], [], []⟩ twoReferencesRoot
  refine ⟨hagrees, hthird, ?_, ?_, ?_⟩
  · rw [hsame scantIndex hagrees, assemble_twoReferences]
  · rw [← assemble_twoReferences,
      ← hretitled ⟨"C".toList, "C.md".toList, some "Sea".toList⟩ none (by decide) hthird]
  · exact (huntitled _ hpath htitle _).2 assemble_twoReferences

end Bindery
