import Bindery.Proofs.Book.Extension
import Bindery.Proofs.Book.Failure
import Bindery.Proofs.Book.Stages
import Bindery.Proofs.Files.Stays
import Bindery.Proofs.Index.Growth

set_option autoImplicit false

/-! # Combining a book again

Combining a book a second time reads the files that the first time left, the combined document among
them, which may by now be a document of the book. `run_combine_again` says when this makes no
difference: where nothing was at the place of the combined document and no document had its stem, all
that the first time found is found again, the new document is asked for by nobody, and the same text
is written to the same place. -/

namespace Bindery

variable {files files' : Workspace} {settings : Settings} {shifter shifter' : HeadingShifter}
  {versions versions' : VersionSource} {folder : Path}
  {respond respond' : Workspace → Command → Outcome} {manuscript : Manuscript}
  {log : List (Command × Outcome)} {book : CombinedBook}

/-- The first result of a script and its log. -/
theorem Script.run_eq {α : Type} {script : Script α} {value : α}
    (h : (script.run respond).1 = value) : ∃ log, script.run respond = (value, log) :=
  ⟨(script.run respond).2, by rw [← h]⟩

theorem Prepared.isRead {version : Version} {root : Text}
    (h : Prepared files settings shifter versions folder respond manuscript version root log) :
    manuscript.IsRead files settings folder := by
  obtain ⟨hisRead, _, _⟩ := h
  exact hisRead

/-- What was prepared is prepared again with another index, when the root document and the answers
of the programs are the same. -/
theorem Prepared.again {version : Version} {root : Text} {index' : Index}
    (h : Prepared files settings shifter versions folder respond manuscript version root log)
    (hindex : Index.build files' folder = .ok index')
    (hread : ∀ path text, files.readText path = .ok text → files'.readText path = .ok text)
    (hversions : ((versions'.version folder).run respond').1 =
      ((versions.version folder).run respond).1)
    (hshifter : ∀ text, ((shifter' text settings.book.headingShift).run respond').1 =
      ((shifter text settings.book.headingShift).run respond).1) :
    ∃ log', Prepared files' settings shifter' versions' folder respond'
      { manuscript with index := index' } version root log' := by
  obtain ⟨hisRead, hversion, hshift⟩ := h
  rw [hversion] at hversions
  have hshifter := hshifter manuscript.root
  rw [hshift] at hshifter
  obtain ⟨asked, hasked⟩ := Script.run_eq hversions
  obtain ⟨moved, hmoved⟩ := Script.run_eq hshifter
  exact ⟨_, ⟨hindex, hisRead.rootPath, hread _ _ hisRead.root, hisRead.title⟩, hasked, hmoved⟩

/-- Combining a book again on the files that the first time left ends with the same book and leaves
them as they are. The combined document must have come where nothing was, not even a link, once the
directories above it were made; it must not have the stem of a document; its path below the book
must not be too long for the system; and a book with an absolute root document must be in a directory
that exists. -/
theorem run_combine_again (hproper : files.IsProper)
    (hfolder : Path.isAbsolute settings.book.rootDocument = true →
      folder = [] ∨ files.exists? folder = true)
    (hvacant : files.IsVacant settings.book.combinedPath)
    (hstem : ∀ document ∈ Index.documentPaths files folder,
      some (Path.splitName document.2).1 ≠ Path.stem? settings.book.combinedPath)
    (hshort : ∀ document ∈ Index.documentPaths files' folder,
      Text.byteLength document.1 ≤ Workspace.pathLimit)
    (hversions : ((versions'.version folder).run respond').1 =
      ((versions.version folder).run respond).1)
    (hshifter : ∀ text, ((shifter' text settings.book.headingShift).run respond').1 =
      ((shifter text settings.book.headingShift).run respond).1)
    (h : (combine files settings shifter versions folder).run respond =
      ((.ok book, files'), log)) :
    ∃ log', (combine files' settings shifter' versions' folder).run respond' =
      ((.ok book, files'), log') := by
  obtain ⟨hprepared, hassembled, hwrite⟩ := completes_of_run h
  obtain ⟨place, hadded⟩ := Workspace.exists_added hproper hvacant hwrite
  have hisRead := hprepared.isRead
  have hexists : folder = [] ∨ files.exists? folder = true := by
    by_cases habsolute : Path.isAbsolute settings.book.rootDocument = true
    · exact hfolder habsolute
    · refine Classical.or_iff_not_imp_left.2 fun hempty => ?_
      obtain ⟨content, hroot⟩ := Workspace.exists_read_of_readText hisRead.root
      rw [hisRead.rootPath] at hroot
      exact Workspace.exists?_of_read_join hproper.here hempty habsolute hroot
  obtain ⟨index', hindex', hextends⟩ :=
    Index.exists_build_of_added hadded hisRead.index hexists hstem hshort
  have hcorpus : Corpus.Extends ⟨files, _, settings.book.assetFolderIn folder⟩
      ⟨files', index', settings.book.assetFolderIn folder⟩ :=
    ⟨hextends, fun _ _ => hadded.read, rfl⟩
  obtain ⟨log', hprepared'⟩ :=
    hprepared.again hindex' (fun _ _ => hcorpus.readText) hversions hshifter
  exact ⟨log', run_combine_of_completes ⟨hprepared', hcorpus.assemble hassembled, hadded.again⟩⟩

theorem documentPaths_small : Index.documentPaths smallFiles "book".toList =
    [("book/A.md".toList, "A.md".toList), ("book/Book.md".toList, "Book.md".toList)] := by
  cbv

theorem documentPaths_smallFilesWith (content : Bytes) :
    Index.documentPaths (smallFilesWith content) "book".toList =
      [("book/A.md".toList, "A.md".toList), ("book/Book.md".toList, "Book.md".toList),
        ("book/out/All.md".toList, "All.md".toList)] := by
  cbv

/-- A place is vacant when the path leads to a free one. -/
theorem isVacant_of_free {p : Path} {place : Location}
    (h : (files.makeFolders (Path.parents p)).2.resolveNames false p (Workspace.names p) =
      .ok (.free place)) : files.IsVacant p := by
  intro place' entry hfound
  rw [h] at hfound
  cases hfound

/-- The combined document of the small book is a document of it afterwards, and the book can be
combined again. -/
theorem run_combine_again_small :
    smallFiles.IsProper ∧ smallFiles.IsVacant "book/out/All.md".toList ∧
    (∀ document ∈ Index.documentPaths smallFiles "book".toList,
      some (Path.splitName document.2).1 ≠ Path.stem? "book/out/All.md".toList) ∧
    (∀ document ∈ Index.documentPaths (smallFilesWith (Utf8.encode smallDocument.text))
        "book".toList,
      Text.byteLength document.1 ≤ Workspace.pathLimit) ∧
    ∃ log, (combine (smallFilesWith (Utf8.encode smallDocument.text)) smallSettings
      HeadingShifter.builtIn knownVersions "book".toList).run noPrograms =
      ((.ok ⟨"book/out/All.md".toList, smallDocument, knownVersion⟩,
        smallFilesWith (Utf8.encode smallDocument.text)), log) := by
  have hproper : smallFiles.IsProper := ⟨Folder.hasFolder_nil _, by decide⟩
  have hvacant : smallFiles.IsVacant "book/out/All.md".toList :=
    isVacant_of_free (by cbv)
  have hstem : ∀ document ∈ Index.documentPaths smallFiles "book".toList,
      some (Path.splitName document.2).1 ≠ Path.stem? "book/out/All.md".toList := by
    rw [documentPaths_small]
    decide
  have hshort : ∀ document ∈ Index.documentPaths
      (smallFilesWith (Utf8.encode smallDocument.text)) "book".toList,
      Text.byteLength document.1 ≤ Workspace.pathLimit := by
    rw [documentPaths_smallFilesWith]
    decide
  exact ⟨hproper, hvacant, hstem, hshort,
    run_combine_again hproper (fun habsolute => absurd habsolute (by decide)) hvacant hstem hshort rfl
      (fun _ => rfl) (run_combine_of_completes completes_small)⟩

/-! ## Books that cannot be combined again -/

/-- Combining a book again on the files that the first time left ends as the first time did. -/
def IsStable (files : Workspace) (settings : Settings) (folder : Path) : Prop :=
  ∀ book files' log,
    (combine files settings HeadingShifter.builtIn knownVersions folder).run noPrograms =
      ((.ok book, files'), log) →
    ∃ log', (combine files' settings HeadingShifter.builtIn knownVersions folder).run noPrograms =
      ((.ok book, files'), log')

/-- A book that is combined and then stops at a stage is not stable. -/
theorem not_isStable {stage : Stage} {e : BookError} {files'' : Workspace}
    {log' : List (Command × Outcome)}
    (h : Completes files settings HeadingShifter.builtIn knownVersions folder noPrograms book
      files' log)
    (hstops : StopsAt files' settings HeadingShifter.builtIn knownVersions folder noPrograms stage e
      files'' log') : ¬ IsStable files settings folder := by
  intro hstable
  obtain ⟨log'', hagain⟩ := hstable _ _ _ (run_combine_of_completes h)
  rw [run_combine_of_stopsAt hstops] at hagain
  cases hagain

/-- The path of the combined document leads to nothing, and no document of the book has its stem. -/
structure IsFresh (files : Workspace) (settings : Settings) (folder : Path) : Prop where
  proper : files.IsProper
  absent : files.exists? settings.book.combinedPath = false
  stems : ∀ document ∈ Index.documentPaths files folder,
    some (Path.splitName document.2).1 ≠ Path.stem? settings.book.combinedPath

/-- A root document that is a heading and nothing else is the combined document. -/
theorem assemble_heading (corpus : Corpus) (options : AssemblyOptions) (header : Header) :
    assemble corpus options header "# R".toList = .ok ⟨header.lines ++ ["# R".toList], []⟩ := rfl

/-! ### A directory of the book that does not exist -/

/-- A root document and, in another directory, a document that cannot be read. -/
def farFiles : Workspace :=
  ⟨.file "R.md".toList (Utf8.encode "# R".toList)
    (.folder "A".toList true (.link "x.md".toList "nowhere".toList .empty) .empty), []⟩

/-- The directory of the book leads through one that the first time makes. -/
theorem not_isStable_far : ¬ IsStable farFiles (settingsFor "/R.md" "new/All.md")
    "new/../A".toList := by
  have hread : (⟨.empty, "/R.md".toList, "# R".toList, "R".toList⟩ : Manuscript).IsRead farFiles
      (settingsFor "/R.md" "new/All.md") "new/../A".toList :=
    ⟨by cbv, by cbv, by cbv, by cbv⟩
  have hwrite : ∀ content, farFiles.writeBelow "new/All.md".toList content =
      (.ok (), ⟨farFiles.root.put "new".toList
        (.folder true (.file "All.md".toList content .empty)), []⟩) := by
    intro content
    cbv
  have hindex : ∀ content, Index.build ⟨farFiles.root.put "new".toList
      (.folder true (.file "All.md".toList content .empty)), []⟩ "new/../A".toList =
      .error (.unreadable "new/../A/x.md".toList (.os .noEntry)) := by
    intro content
    cbv
  exact not_isStable ⟨prepared_of_isRead hread (by cbv), assemble_heading .., hwrite _⟩
    (.index (hindex _))

/-! ### A document with too long a path -/

/-- A directory with nothing but a root document. -/
def deepBook : Folder := .file "R.md".toList (Utf8.encode "# R".toList) .empty

/-- That directory and nothing else. -/
def deepFiles : Workspace := ⟨.folder "b".toList true deepBook .empty, []⟩

/-- The same with a file at the place of its combined document. -/
def deepFilesWith (content : Bytes) : Workspace :=
  ⟨.folder "b".toList true (deepBook.put "Summary.md".toList (.file content)) .empty, []⟩

/-- A path to that directory which leaves room for the name `R.md` and not for `Summary.md`. -/
def deepFolder : Path := stays 2044 ++ "b".toList

/-- The documents below a directory as they are listed without staying first. -/
theorem documentPaths_deep {w : Workspace} {inside : Folder} (names : List Text)
    (hlist : w.list "b".toList = .ok inside) (hdocuments : inside.documents = names.map ([·]))
    (hnames : ∀ name ∈ names, Workspace.IsPiece name) :
    Index.documentPaths w deepFolder =
      names.map fun name => (stays 2044 ++ Path.join "b".toList name, name) := by
  have hshort : Text.byteLength deepFolder ≤ Workspace.pathLimit := by
    rw [deepFolder, Text.byteLength_append, byteLength_stays]
    decide
  have hsame : w.list deepFolder = w.list "b".toList := by
    rw [Workspace.list, Workspace.entry, deepFolder,
      resolve_stays w (by decide) (by decide) hshort]
    rfl
  have hvisit : Index.visit deepFolder inside = names.map ([·]) := by
    rw [Index.visit, hdocuments, List.filter_eq_self]
    intro place hplace
    obtain ⟨name, _, rfl⟩ := List.mem_map.1 hplace
    exact decide_eq_true hshort
  rw [Index.documentPaths, hsame, hlist]
  simp only [hvisit, List.map_map]
  refine List.map_congr_left fun name hname => ?_
  have hjoin : Path.join deepFolder name = stays 2044 ++ Path.join "b".toList name :=
    join_stays (by decide) (hnames name hname).not_isAbsolute
  simp [Index.pathBelow, hjoin]

theorem documentPaths_deepFiles :
    Index.documentPaths deepFiles deepFolder =
      [(stays 2044 ++ "b/R.md".toList, "R.md".toList)] :=
  documentPaths_deep ["R.md".toList] (by cbv) (by cbv) (by decide)

/-- The root document can be read, and the combined document below it cannot. -/
theorem readText_deep (w : Workspace) :
    w.readText (stays 2044 ++ "b/R.md".toList) = w.readText "b/R.md".toList ∧
      w.readText (stays 2044 ++ "b/Summary.md".toList) = .error (.os .nameTooLong) := by
  constructor
  · rw [Workspace.readText, Workspace.read, Workspace.entry,
      resolve_stays w (by decide) (by decide)]
    · rfl
    · rw [Text.byteLength_append, byteLength_stays]
      decide
  · refine readText_stays_of_long w (by decide) (by decide) ?_
    rw [Text.byteLength_append, byteLength_stays]
    decide

/-- The documents of the deep book, read. -/
def deepManuscript : Manuscript where
  index := ⟨[⟨"R".toList, stays 2044 ++ "b/R.md".toList, some "R".toList⟩]⟩
  rootPath := stays 2044 ++ "b/R.md".toList
  root := "# R".toList
  title := "R".toList

theorem readRecord_deep {w : Workspace} (h : w.readText "b/R.md".toList = .ok "# R".toList) :
    Index.readRecord w (stays 2044 ++ "b/R.md".toList) "R.md".toList =
      .ok ⟨"R".toList, stays 2044 ++ "b/R.md".toList, some "R".toList⟩ :=
  Index.readRecord_eq_ok_iff.2 ⟨_, (readText_deep w).1.trans h, rfl⟩

theorem deepManuscript_isRead :
    deepManuscript.IsRead deepFiles (settingsFor "R.md" "b/Summary.md") deepFolder := by
  have htext : deepFiles.readText "b/R.md".toList = .ok "# R".toList := by
    cbv
  have hindex : Index.build deepFiles deepFolder = .ok deepManuscript.index := by
    refine Index.build_eq_ok_iff.2 ⟨_, (rfl : _ = Index.ofRecords deepManuscript.index.records), ?_⟩
    rw [documentPaths_deepFiles]
    exact .cons (readRecord_deep htext) .nil
  have hjoin : Path.join deepFolder "R.md".toList = stays 2044 ++ "b/R.md".toList :=
    join_stays (by decide) (by decide)
  exact ⟨hindex, hjoin.symm, (readText_deep deepFiles).1.trans htext, rfl⟩

/-- With its combined document the deep book cannot be indexed. -/
theorem build_deepFilesWith (content : Bytes) :
    Index.build (deepFilesWith content) deepFolder =
      .error (.unreadable (stays 2044 ++ "b/Summary.md".toList) (.os .nameTooLong)) := by
  have hlist : (deepFilesWith content).list "b".toList =
      .ok (deepBook.put "Summary.md".toList (.file content)) := by
    cbv
  have hpaths : Index.documentPaths (deepFilesWith content) deepFolder =
      [(stays 2044 ++ "b/R.md".toList, "R.md".toList),
        (stays 2044 ++ "b/Summary.md".toList, "Summary.md".toList)] :=
    documentPaths_deep ["R.md".toList, "Summary.md".toList] hlist (by cbv) (by decide)
  have htext : (deepFilesWith content).readText "b/R.md".toList = .ok "# R".toList := by
    cbv
  have hlong : Index.readRecord (deepFilesWith content) (stays 2044 ++ "b/Summary.md".toList)
      "Summary.md".toList =
      .error (.unreadable (stays 2044 ++ "b/Summary.md".toList) (.os .nameTooLong)) := by
    rw [Index.readRecord, (readText_deep _).2]
  rw [Index.build_eq_error_iff, hpaths]
  refine .later (fun e herror => ?_) (.here hlong)
  rw [readRecord_deep htext] at herror
  cases herror

/-- The combined document can be written, and as a document of the book it cannot be read. -/
theorem not_isStable_deep :
    ¬ IsStable deepFiles (settingsFor "R.md" "b/Summary.md") deepFolder := by
  have hwrite : ∀ content, deepFiles.writeBelow "b/Summary.md".toList content =
      (.ok (), deepFilesWith content) := by
    intro content
    cbv
  have hshift : shiftHeadings 0 "# R".toList = "# R".toList := by
    cbv
  exact not_isStable
    ⟨prepared_of_isRead deepManuscript_isRead hshift, assemble_heading .., hwrite _⟩
    (.index (build_deepFilesWith _))

/-! ### A path that leads to an image after all -/

/-- A book whose chapter shows an image. -/
def imageBook (image : Bytes) : Folder :=
  .file "A.md".toList (Utf8.encode "![x](m)".toList)
    (.file "Book.md".toList (Utf8.encode "# Book\n- `<doc:A>`".toList)
      (.folder "images".toList true (.file "m@2x.png".toList image .empty) .empty))

/-- The book with an image, and another directory or none. -/
def imageFilesWith (image : Bytes) (rest : Folder) : Workspace :=
  ⟨.folder "book".toList true (imageBook image) rest, []⟩

/-- The head of an image that is 760 pixels wide and one pixel high. -/
def smallImage : Bytes :=
  pngSignature ++ [0, 0, 0, 13] ++ dimensionsTag ++ [0, 0, 2, 0xF8] ++ [0, 0, 0, 1]

/-- The combined document goes to the image, on a way through a directory that does not exist. -/
def imageSettings : Settings := settingsFor "Book.md" "new/../book/images/m@2x.png"

/-- The documents of the book with an image, read. -/
def imageManuscript : Manuscript where
  index := ⟨[⟨"A".toList, "book/A.md".toList, none⟩,
    ⟨"Book".toList, "book/Book.md".toList, some "Book".toList⟩]⟩
  rootPath := "book/Book.md".toList
  root := "# Book\n- `<doc:A>`".toList
  title := "Book".toList

/-- The corpus of the book with an image. -/
def imageCorpus (image : Bytes) (rest : Folder) : Corpus :=
  ⟨imageFilesWith image rest, imageManuscript.index, "book/images".toList⟩

theorem imageManuscript_isRead (image : Bytes) (rest : Folder) :
    imageManuscript.IsRead (imageFilesWith image rest) imageSettings "book".toList :=
  ⟨by cbv, by cbv, by cbv, by cbv⟩

theorem imageFiles_writeBelow (content : Bytes) :
    (imageFilesWith smallImage .empty).writeBelow imageSettings.book.combinedPath content =
      (.ok (), imageFilesWith content (.folder "new".toList true .empty .empty)) := by
  cbv

theorem readText_image (image : Bytes) (rest : Folder) :
    (imageCorpus image rest).files.readText "book/A.md".toList = .ok "![x](m)".toList := by
  cbv

theorem chapterLines_image : AssemblyOptions.chapterLines {} "![x](m)".toList =
    ["![x](m)".toList] := by
  decide +kernel

theorem rootSegment_image :
    rootSegment (imageCorpus smallImage .empty) {} "- `<doc:A>`".toList =
      .ok ⟨[pageBreak, "![x](m@2x.png)\x7b width=50% \x7d".toList, []], some "A".toList⟩ := by
  have hprepared : prepareLine (imageCorpus smallImage .empty).index
      (imageCorpus smallImage .empty).assets "![x](m)".toList =
      .ok "![x](m@2x.png)\x7b width=50% \x7d".toList := by
    cbv
  have hbody : DefinitionList.layOut (prepareLine (imageCorpus smallImage .empty).index
      (imageCorpus smallImage .empty).assets) (AssemblyOptions.chapterLines {} "![x](m)".toList) =
      .ok ["![x](m@2x.png)\x7b width=50% \x7d".toList] := by
    rw [chapterLines_image, DefinitionList.layOut_eq, mapM_cons_ok hprepared]
    rfl
  have hdirective : IsDirective "- `<doc:A>`".toList "A".toList := directive?_eq_some_iff.1 rfl
  exact rootSegment_eq_ok_iff.2 (.chapter hdirective (Or.inl rfl) rfl (readText_image ..) hbody)

theorem startsAt_image : StartsAt (Text.lines imageManuscript.root) "# Book".toList
    ["- `<doc:A>`".toList] :=
  startsAt_small

/-- A file that starts with a hyphen is no image. -/
theorem exists_rootSegment_error (tail : Bytes) (rest : Folder) :
    ∃ e, rootSegment (imageCorpus (0x2D :: tail) rest) {} "- `<doc:A>`".toList = .error e := by
  have hlinked : resolveReferences imageManuscript.index "![x](m)".toList =
      .ok "![x](m)".toList := resolveReferences_plain (not_holdsReference_of_not_mem (by decide))
  have hname : StartsWithImage "![x](m)".toList "m".toList :=
    ⟨⟨['x'], ['m'], []⟩, imageLine?_eq_some_iff.1 rfl, rfl⟩
  have hread : (imageCorpus (0x2D :: tail) rest).files.read "book/images/m@2x.png".toList =
      .ok (0x2D :: tail) := by
    cbv
  have hhead : ¬ IsPngHead (0x2D :: tail) := by
    rintro ⟨-, hsignature, -⟩
    rw [List.take_succ_cons, pngSignature, List.cons.injEq] at hsignature
    exact absurd hsignature.1 (by decide)
  have hfault : LineFault (imageCorpus (0x2D :: tail) rest).index
      (imageCorpus (0x2D :: tail) rest).assets "![x](m)".toList
      (.asset ⟨"book/images/m@2x.png".toList, .notPng⟩) :=
    .image hlinked hname (.notPng rfl hread hhead)
  have hfirst : FirstFault (LineFault (imageCorpus (0x2D :: tail) rest).index
      (imageCorpus (0x2D :: tail) rest).assets) (AssemblyOptions.chapterLines {} "![x](m)".toList)
      (.asset ⟨"book/images/m@2x.png".toList, .notPng⟩) := by
    rw [chapterLines_image]
    exact .here hfault
  have hdirective : IsDirective "- `<doc:A>`".toList "A".toList := directive?_eq_some_iff.1 rfl
  exact ⟨_, rootSegment_eq_error_iff.2
    ⟨_, hdirective, Or.inl rfl, .line rfl (readText_image ..) hfirst⟩⟩

/-- The combined document of the book with an image. -/
def imageDocument : CombinedDocument where
  lines := Header.lines ⟨"Book".toList, "today".toList, imageSettings.metadata⟩ ++
    ["# Book".toList, pageBreak, "![x](m@2x.png)\x7b width=50% \x7d".toList, []]
  chapters := ["A".toList]

/-- A combined document starts with the delimiter of its header. -/
theorem exists_encode_imageDocument :
    ∃ tail, Utf8.encode imageDocument.text = 0x2D :: tail := by
  obtain ⟨tail, htail⟩ : ∃ tail, imageDocument.text = '-' :: tail := ⟨_, rfl⟩
  rw [htail]
  exact ⟨_, rfl⟩

/-- The combined document takes the place of the image, and the chapter cannot show it again. -/
theorem not_isStable_image :
    ¬ IsStable (imageFilesWith smallImage .empty) imageSettings "book".toList := by
  have hassemble : ∀ header : Header, assemble (imageCorpus smallImage .empty) {} header
      imageManuscript.root = .ok ⟨header.lines ++
        ["# Book".toList, pageBreak, "![x](m@2x.png)\x7b width=50% \x7d".toList, []],
        ["A".toList]⟩ := by
    intro header
    rw [assemble_of_startsAt startsAt_image, mapM_eq_ok_iff.2 (.cons rootSegment_image .nil)]
    rfl
  have hassembled : imageManuscript.assembled (imageFilesWith smallImage .empty) imageSettings
      "book".toList knownVersion imageManuscript.root = .ok imageDocument := hassemble _
  have hshift : shiftHeadings imageSettings.book.headingShift imageManuscript.root =
      imageManuscript.root := by
    cbv
  obtain ⟨tail, htail⟩ := exists_encode_imageDocument
  obtain ⟨e, he⟩ := exists_rootSegment_error tail
    (.folder "new".toList true .empty .empty)
  have hfails : ∀ header : Header, assemble (imageCorpus (0x2D :: tail)
      (.folder "new".toList true .empty .empty)) {} header imageManuscript.root = .error e := by
    intro header
    rw [assemble_of_startsAt startsAt_image, mapM_cons_error he]
    rfl
  refine not_isStable
    ⟨prepared_of_isRead (imageManuscript_isRead _ _) hshift, hassembled, imageFiles_writeBelow _⟩
    (.assembly (prepared_of_isRead (imageManuscript_isRead _ _) hshift) (e := e) ?_)
  rw [htail]
  exact hfails _

/-- That the path of the combined document leads to nothing is not enough. It may lead to an image
once its directories are made, and where it stays vacant, the paths of the documents may be too long
or the directory of the book may only come with the combined document. -/
theorem not_isStable_of_isFresh :
    (IsFresh (imageFilesWith smallImage .empty) imageSettings "book".toList ∧
      (imageFilesWith smallImage .empty).exists? "book".toList = true ∧
      ¬ IsStable (imageFilesWith smallImage .empty) imageSettings "book".toList) ∧
    (IsFresh deepFiles (settingsFor "R.md" "b/Summary.md") deepFolder ∧
      deepFiles.IsVacant "b/Summary.md".toList ∧
      ¬ IsStable deepFiles (settingsFor "R.md" "b/Summary.md") deepFolder) ∧
    (IsFresh farFiles (settingsFor "/R.md" "new/All.md") "new/../A".toList ∧
      farFiles.IsVacant "new/All.md".toList ∧
      ¬ IsStable farFiles (settingsFor "/R.md" "new/All.md") "new/../A".toList) := by
  have himagePaths : Index.documentPaths (imageFilesWith smallImage .empty) "book".toList =
      [("book/A.md".toList, "A.md".toList), ("book/Book.md".toList, "Book.md".toList)] := by
    cbv
  have hfarPaths : Index.documentPaths farFiles "new/../A".toList = [] := by
    cbv
  have himage : IsFresh (imageFilesWith smallImage .empty) imageSettings "book".toList :=
    ⟨⟨Folder.hasFolder_nil _, by decide⟩, by cbv, by rw [himagePaths]; decide⟩
  have hdeep : IsFresh deepFiles (settingsFor "R.md" "b/Summary.md") deepFolder := by
    refine ⟨⟨Folder.hasFolder_nil _, by decide⟩, by cbv, fun document hdocument => ?_⟩
    rw [documentPaths_deepFiles, List.mem_singleton] at hdocument
    rw [hdocument]
    decide
  have hfar : IsFresh farFiles (settingsFor "/R.md" "new/All.md") "new/../A".toList :=
    ⟨⟨Folder.hasFolder_nil _, by decide⟩, by cbv, by rw [hfarPaths]; decide⟩
  exact ⟨⟨himage, by cbv, not_isStable_image⟩,
    ⟨hdeep, isVacant_of_free (by cbv), not_isStable_deep⟩,
    ⟨hfar, isVacant_of_free (by cbv), not_isStable_far⟩⟩

end Bindery
