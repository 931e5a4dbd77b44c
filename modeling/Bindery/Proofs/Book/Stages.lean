import Bindery.Book.Combine
import Bindery.Proofs.Book.Segments
import Bindery.Proofs.Files.Write
import Bindery.Proofs.Text.Utf8
import Mathlib

set_option autoImplicit false

/-! # The stages of combining a book

`StopsAt` says at which stage combining a book stops, with which error, and which programs have been
asked by then; `Completes` says what a book is that was combined. `run_combine` says that combining
ends in one of these ways and in no other. A stage is reached only when all stages before it have
succeeded, so the first that fails decides the error, and nothing is asked for the sake of a later
one. Only writing, the last stage, changes files: a failure before it leaves all as they were, and a
success changes the combined document and the directories that were missing above it. -/

namespace Bindery

/-! ## Stages -/

/-- The stages of combining a book, in their order. -/
inductive Stage where
  | index
  | root
  | title
  | version
  | shift
  | assembly
  | write
  deriving DecidableEq, Repr

section

variable (files : Workspace) (settings : Settings) (shifter : HeadingShifter)
  (versions : VersionSource) (folder : Path) (respond : Workspace → Command → Outcome)

/-- The manuscript is what the first three stages make of the files: the index, the text of the root
document and its title. -/
structure Manuscript.IsRead (manuscript : Manuscript) : Prop where
  index : Index.build files folder = .ok manuscript.index
  rootPath : manuscript.rootPath = settings.book.rootDocumentIn folder
  root : files.readText manuscript.rootPath = .ok manuscript.root
  title : titleOf manuscript.root = some manuscript.title

/-- The manuscript is read, the version is looked up and the headings are moved, in this order. The
programs that are asked are those of the version, then those of the shifter. -/
inductive Prepared (manuscript : Manuscript) (version : Version) (root : Text) :
    List (Command × Outcome) → Prop
  | intro {asked moved : List (Command × Outcome)} :
      manuscript.IsRead files settings folder →
      (versions.version folder).run respond = (.ok version, asked) →
      (shifter manuscript.root settings.book.headingShift).run respond = (.ok root, moved) →
      Prepared manuscript version root (asked ++ moved)

/-- What the documents of a manuscript are assembled to. -/
def Manuscript.assembled (manuscript : Manuscript) (version : Version) (root : Text) :
    Except AssemblyError CombinedDocument :=
  assemble ⟨files, manuscript.index, settings.book.assetFolderIn folder⟩
    ⟨settings.book.chapters, settings.book.stripComments⟩
    ⟨manuscript.title, version.date, settings.metadata⟩ root

/-- Combining stops at a stage with an error. The files are then as given, and the programs that were
asked are those of the log. -/
inductive StopsAt :
    Stage → BookError → Workspace → List (Command × Outcome) → Prop
  | index {e : IndexError} :
      Index.build files folder = .error e → StopsAt .index (.index e) files []
  | root {index : Index} {reason : ReadError} :
      Index.build files folder = .ok index →
      files.readText (settings.book.rootDocumentIn folder) = .error reason →
      StopsAt .root (.unreadable (settings.book.rootDocumentIn folder) reason) files []
  | title {index : Index} {root : Text} :
      Index.build files folder = .ok index →
      files.readText (settings.book.rootDocumentIn folder) = .ok root →
      titleOf root = none →
      StopsAt .title
        (.index (.untitled ((Path.stem? (settings.book.rootDocumentIn folder)).getD []))) files []
  | version {manuscript : Manuscript} {e : VersionError} {asked : List (Command × Outcome)} :
      manuscript.IsRead files settings folder →
      (versions.version folder).run respond = (.error e, asked) →
      StopsAt .version (.version e) files asked
  | shift {manuscript : Manuscript} {version : Version} {e : ShiftError}
      {asked moved : List (Command × Outcome)} :
      manuscript.IsRead files settings folder →
      (versions.version folder).run respond = (.ok version, asked) →
      (shifter manuscript.root settings.book.headingShift).run respond = (.error e, moved) →
      StopsAt .shift (.shift manuscript.rootPath e) files (asked ++ moved)
  | assembly {manuscript : Manuscript} {version : Version} {root : Text} {e : AssemblyError}
      {log : List (Command × Outcome)} :
      Prepared files settings shifter versions folder respond manuscript version root log →
      manuscript.assembled files settings folder version root = .error e →
      StopsAt .assembly (.assembly e) files log
  | write {manuscript : Manuscript} {version : Version} {root : Text}
      {document : CombinedDocument} {e : OsError} {files' : Workspace}
      {log : List (Command × Outcome)} :
      Prepared files settings shifter versions folder respond manuscript version root log →
      manuscript.assembled files settings folder version root = .ok document →
      files.writeBelow settings.book.combinedPath (Utf8.encode document.text) =
        (.error e, files') →
      StopsAt .write (.assembly (.inaccessible settings.book.combinedPath (.os e))) files' log

/-- All stages succeed, and the document that was assembled is written. -/
inductive Completes :
    CombinedBook → Workspace → List (Command × Outcome) → Prop
  | intro {manuscript : Manuscript} {version : Version} {root : Text}
      {document : CombinedDocument} {files' : Workspace} {log : List (Command × Outcome)} :
      Prepared files settings shifter versions folder respond manuscript version root log →
      manuscript.assembled files settings folder version root = .ok document →
      files.writeBelow settings.book.combinedPath (Utf8.encode document.text) = (.ok (), files') →
      Completes ⟨settings.book.combinedPath, document, version⟩ files' log

end

variable {files files' : Workspace} {settings : Settings} {shifter : HeadingShifter}
  {versions : VersionSource} {folder : Path} {respond : Workspace → Command → Outcome}
  {manuscript : Manuscript} {log : List (Command × Outcome)}

/-! ## Reading the manuscript -/

theorem Manuscript.read_eq_ok_iff :
    Manuscript.read files settings.book folder = .ok manuscript ↔
      manuscript.IsRead files settings folder := by
  unfold Manuscript.read
  constructor
  · intro h
    split at h
    · cases h
    · next index hindex =>
      dsimp only at h
      split at h
      · cases h
      · next root hroot =>
        split at h
        · cases h
        · next title htitle =>
          cases h
          exact ⟨hindex, rfl, hroot, htitle⟩
  · rintro ⟨hindex, hpath, hroot, htitle⟩
    rw [hpath] at hroot
    simp only [hindex, hroot, htitle]
    rw [← hpath]

/-- The first of the reading stages that fails is the error. -/
theorem exists_stopsAt_of_read {e : BookError}
    (h : Manuscript.read files settings.book folder = .error e) :
    ∃ stage, StopsAt files settings shifter versions folder respond stage e files [] := by
  unfold Manuscript.read at h
  split at h
  · next hindex =>
    cases h
    exact ⟨_, .index hindex⟩
  · next index hindex =>
    dsimp only at h
    split at h
    · next reason hreason =>
      cases h
      exact ⟨_, .root hindex hreason⟩
    · next root hroot =>
      split at h
      · next huntitled =>
        cases h
        exact ⟨_, .title hindex hroot huntitled⟩
      · cases h

/-! ## Running all stages -/

theorem run_combine_of_read_error {e : BookError}
    (h : Manuscript.read files settings.book folder = .error e) :
    (combine files settings shifter versions folder).run respond = ((.error e, files), []) := by
  rw [combine, h]
  rfl

theorem run_combine_of_version_error {e : VersionError}
    (hread : manuscript.IsRead files settings folder)
    (hversion : (versions.version folder).run respond = (.error e, log)) :
    (combine files settings shifter versions folder).run respond =
      ((.error (.version e), files), log) := by
  rw [combine, Manuscript.read_eq_ok_iff.2 hread]
  simp only [Script.run_bind, hversion, Script.run, List.append_nil]

theorem run_combine_of_shift_error {e : ShiftError} {version : Version}
    {asked moved : List (Command × Outcome)} (hread : manuscript.IsRead files settings folder)
    (hversion : (versions.version folder).run respond = (.ok version, asked))
    (hshift : (shifter manuscript.root settings.book.headingShift).run respond =
      (.error e, moved)) :
    (combine files settings shifter versions folder).run respond =
      ((.error (.shift manuscript.rootPath e), files), asked ++ moved) := by
  rw [combine, Manuscript.read_eq_ok_iff.2 hread]
  simp only [Script.run_bind, hversion, hshift, Script.run, List.append_nil]

theorem run_combine_of_prepared {version : Version} {root : Text}
    (h : Prepared files settings shifter versions folder respond manuscript version root log) :
    (combine files settings shifter versions folder).run respond =
      (manuscript.finish files settings folder version root, log) := by
  obtain ⟨hread, hversion, hshift⟩ := h
  rw [combine, Manuscript.read_eq_ok_iff.2 hread]
  simp only [Script.run_bind, hversion, hshift, Script.run, List.append_nil]

theorem Manuscript.finish_eq (version : Version) (root : Text) :
    manuscript.finish files settings folder version root =
      match manuscript.assembled files settings folder version root with
      | .error e => (.error (.assembly e), files)
      | .ok document =>
        match files.writeBelow settings.book.combinedPath (Utf8.encode document.text) with
        | (.error e, files') =>
          (.error (.assembly (.inaccessible settings.book.combinedPath (.os e))), files')
        | (.ok (), files') => (.ok ⟨settings.book.combinedPath, document, version⟩, files') := by
  rw [Manuscript.finish, ← Manuscript.assembled]
  rcases manuscript.assembled files settings folder version root with e | document
  · rfl
  · simp only [CombinedDocument.save]
    rcases files.writeBelow settings.book.combinedPath (Utf8.encode document.text) with
      ⟨_ | _, _⟩ <;> rfl

/-- Combining that stops at a stage ends with the error of that stage. -/
theorem run_combine_of_stopsAt {stage : Stage} {e : BookError}
    (h : StopsAt files settings shifter versions folder respond stage e files' log) :
    (combine files settings shifter versions folder).run respond = ((.error e, files'), log) := by
  cases h with
  | index hindex =>
    refine run_combine_of_read_error ?_
    simp only [Manuscript.read, hindex]
  | root hindex hroot =>
    refine run_combine_of_read_error ?_
    simp only [Manuscript.read, hindex, hroot]
  | title hindex hroot huntitled =>
    refine run_combine_of_read_error ?_
    simp only [Manuscript.read, hindex, hroot, huntitled]
  | version hread hversion => exact run_combine_of_version_error hread hversion
  | shift hread hversion hshift => exact run_combine_of_shift_error hread hversion hshift
  | assembly hprepared hassembled =>
    rw [run_combine_of_prepared hprepared, Manuscript.finish_eq, hassembled]
  | write hprepared hassembled hwrite =>
    rw [run_combine_of_prepared hprepared, Manuscript.finish_eq, hassembled]
    simp only [hwrite]

/-- Combining of which all stages succeed ends with the book. -/
theorem run_combine_of_completes {book : CombinedBook}
    (h : Completes files settings shifter versions folder respond book files' log) :
    (combine files settings shifter versions folder).run respond =
      ((.ok book, files'), log) := by
  obtain ⟨hprepared, hassembled, hwrite⟩ := h
  rw [run_combine_of_prepared hprepared, Manuscript.finish_eq, hassembled]
  simp only [hwrite]

/-- Combining stops at a stage, or all stages succeed. -/
theorem stopsAt_or_completes (files : Workspace) (settings : Settings)
    (shifter : HeadingShifter) (versions : VersionSource) (folder : Path)
    (respond : Workspace → Command → Outcome) :
    (∃ stage e files' log,
      StopsAt files settings shifter versions folder respond stage e files' log) ∨
    ∃ book files' log,
      Completes files settings shifter versions folder respond book files' log := by
  cases hread : Manuscript.read files settings.book folder with
  | error e =>
    obtain ⟨stage, hstage⟩ := exists_stopsAt_of_read hread
    exact .inl ⟨stage, e, files, [], hstage⟩
  | ok manuscript =>
    have hread := Manuscript.read_eq_ok_iff.1 hread
    obtain ⟨version | version, asked, hversion⟩ : ∃ answer asked,
        (versions.version folder).run respond = (answer, asked) := ⟨_, _, rfl⟩
    · exact .inl ⟨_, _, _, _, .version hread hversion⟩
    · obtain ⟨root | root, moved, hshift⟩ : ∃ answer moved,
          (shifter manuscript.root settings.book.headingShift).run respond = (answer, moved) :=
        ⟨_, _, rfl⟩
      · exact .inl ⟨_, _, _, _, .shift hread hversion hshift⟩
      · have hprepared : Prepared files settings shifter versions folder respond manuscript version
            root (asked ++ moved) := ⟨hread, hversion, hshift⟩
        cases hassembled : manuscript.assembled files settings folder version root with
        | error e => exact .inl ⟨_, _, _, _, .assembly hprepared hassembled⟩
        | ok document =>
          obtain ⟨e | _, files', hwrite⟩ : ∃ answer files', files.writeBelow
              settings.book.combinedPath (Utf8.encode document.text) = (answer, files') :=
            ⟨_, _, rfl⟩
          · exact .inl ⟨_, _, _, _, .write hprepared hassembled hwrite⟩
          · exact .inr ⟨_, _, _, hprepared, hassembled, hwrite⟩

theorem stopsAt_of_run {e : BookError}
    (h : (combine files settings shifter versions folder).run respond =
      ((.error e, files'), log)) :
    ∃ stage, StopsAt files settings shifter versions folder respond stage e files' log := by
  rcases stopsAt_or_completes files settings shifter versions folder respond with
    ⟨stage, _, _, _, hstops⟩ | ⟨_, _, _, hcompletes⟩
  · rw [run_combine_of_stopsAt hstops] at h
    cases h
    exact ⟨stage, hstops⟩
  · rw [run_combine_of_completes hcompletes] at h
    cases h

theorem completes_of_run {book : CombinedBook}
    (h : (combine files settings shifter versions folder).run respond =
      ((.ok book, files'), log)) :
    Completes files settings shifter versions folder respond book files' log := by
  rcases stopsAt_or_completes files settings shifter versions folder respond with
    ⟨_, _, _, _, hstops⟩ | ⟨_, _, _, hcompletes⟩
  · rw [run_combine_of_stopsAt hstops] at h
    cases h
  · rw [run_combine_of_completes hcompletes] at h
    cases h
    exact hcompletes

/-! ## What changes -/

theorem StopsAt.files_eq {stage : Stage} {e : BookError}
    (h : StopsAt files settings shifter versions folder respond stage e files' log)
    (hstage : stage ≠ .write) : files' = files := by
  cases h with
  | write => exact absurd rfl hstage
  | index | root | title | version | shift | assembly => rfl

theorem Completes.saved {book : CombinedBook} (hw : files.HasWorkingFolder)
    (h : Completes files settings shifter versions folder respond book files' log) :
    files.Saved files' book.path (Utf8.encode (Text.joinLines book.document.lines)) := by
  obtain ⟨_, _, hwrite⟩ := h
  exact Workspace.saved_of_writeBelow hw hwrite

/-- A file that was saved as a text is read back as that text. -/
theorem Workspace.Saved.readText {p : Path} {text : Text}
    (h : files.Saved files' p (Utf8.encode text)) : files'.readText p = .ok text := by
  rw [Workspace.readText, h.read]
  simp only [Utf8.decode?_encode]

/-- Combining a book goes through its stages in order and ends with the error of the first that
fails, or with the book. The programs that were asked are those of the stages that were begun. A
failure before the writing leaves the files as they were. A success changes the combined document,
which is the lines of the book with line feeds between them, and the directories that were missing
above it. -/
theorem run_combine (settings : Settings) (shifter : HeadingShifter) (versions : VersionSource)
    (folder : Path) (respond : Workspace → Command → Outcome) (hw : files.HasWorkingFolder) :
    (∀ e files' log,
      (combine files settings shifter versions folder).run respond = ((.error e, files'), log) ↔
        ∃ stage, StopsAt files settings shifter versions folder respond stage e files' log) ∧
    (∀ book files' log,
      (combine files settings shifter versions folder).run respond = ((.ok book, files'), log) ↔
        Completes files settings shifter versions folder respond book files' log) ∧
    (∀ stage e files' log,
      StopsAt files settings shifter versions folder respond stage e files' log →
        stage ≠ .write → files' = files) ∧
    (∀ book files' log,
      Completes files settings shifter versions folder respond book files' log →
        files.Saved files' book.path (Utf8.encode (Text.joinLines book.document.lines)) ∧
        files'.readText book.path = .ok (Text.joinLines book.document.lines)) := by
  refine ⟨fun e files' log => ⟨stopsAt_of_run, ?_⟩, fun book files' log => ⟨completes_of_run, ?_⟩,
    fun stage e files' log h hstage => h.files_eq hstage, fun book files' log h => ?_⟩
  · rintro ⟨stage, hstops⟩
    exact run_combine_of_stopsAt hstops
  · exact run_combine_of_completes
  · have hsaved := h.saved hw
    exact ⟨hsaved, hsaved.readText⟩

/-! ## A small book -/

/-- Settings for a root document and a place of the combined document. Headings are not moved. -/
def settingsFor (rootDocument combinedPath : String) : Settings where
  book :=
    { rootDocument := rootDocument.toList
      assetFolder := "images".toList
      combinedPath := combinedPath.toList
      headingShift := 0
      shiftEngine := .builtIn }

/-- A version that is known without asking a program. -/
def knownVersion : Version := ⟨"v1".toList, "today".toList⟩

/-- Where that version comes from. -/
def knownVersions : VersionSource :=
  .known (some knownVersion.reference) (some knownVersion.date)

/-- No program can be started. -/
def noPrograms : Workspace → Command → Outcome := fun _ _ => .error .noEntry

/-- A manuscript is prepared without programs when its version is known and its headings stay. -/
theorem prepared_of_isRead (hread : manuscript.IsRead files settings folder)
    (hshift : shiftHeadings settings.book.headingShift manuscript.root = manuscript.root) :
    Prepared files settings HeadingShifter.builtIn knownVersions folder noPrograms manuscript
      knownVersion manuscript.root [] := by
  have hmoved : (HeadingShifter.builtIn manuscript.root settings.book.headingShift).run noPrograms =
      (.ok manuscript.root, []) := by
    rw [HeadingShifter.builtIn, hshift]
    rfl
  have hversion : (knownVersions.version folder).run noPrograms = (.ok knownVersion, []) := rfl
  exact Prepared.intro hread hversion hmoved

/-- A directory with a root document and the one chapter that it includes. -/
def smallBook : Folder :=
  .file "A.md".toList (Utf8.encode "# One".toList)
    (.file "Book.md".toList (Utf8.encode "# Book\n- `<doc:A>`".toList) .empty)

/-- The small book and nothing else. -/
def smallFiles : Workspace := ⟨.folder "book".toList true smallBook .empty, []⟩

/-- The combined document of the small book goes into a new directory of the book. -/
def smallSettings : Settings := settingsFor "Book.md" "book/out/All.md"

/-- The documents of the small book, read. -/
def smallManuscript : Manuscript where
  index := ⟨[⟨"A".toList, "book/A.md".toList, some "One".toList⟩,
    ⟨"Book".toList, "book/Book.md".toList, some "Book".toList⟩]⟩
  rootPath := "book/Book.md".toList
  root := "# Book\n- `<doc:A>`".toList
  title := "Book".toList

/-- The corpus of the small book. -/
def smallCorpus : Corpus := ⟨smallFiles, smallManuscript.index, "book/images".toList⟩

/-- The combined document of the small book. -/
def smallDocument : CombinedDocument where
  lines := Header.lines ⟨"Book".toList, "today".toList, smallSettings.metadata⟩ ++
    ["# Book".toList, pageBreak, "## One".toList, []]
  chapters := ["A".toList]

/-- The small book with a file at the place of its combined document. -/
def smallFilesWith (content : Bytes) : Workspace :=
  ⟨.folder "book".toList true
    (smallBook.put "out".toList (.folder true (.file "All.md".toList content .empty))) .empty, []⟩

theorem smallManuscript_isRead : smallManuscript.IsRead smallFiles smallSettings "book".toList where
  index := by cbv
  rootPath := by cbv
  root := by cbv
  title := by cbv

theorem startsAt_small : StartsAt (Text.lines smallManuscript.root) "# Book".toList
    ["- `<doc:A>`".toList] :=
  ⟨[], rfl, by simp, by decide⟩

theorem smallManuscript_assembled :
    smallManuscript.assembled smallFiles smallSettings "book".toList knownVersion
      smallManuscript.root = .ok smallDocument := by
  have htext : smallCorpus.files.readText "book/A.md".toList = .ok "# One".toList := by
    cbv
  have hbody : DefinitionList.layOut (prepareLine smallCorpus.index smallCorpus.assets)
      (AssemblyOptions.chapterLines {} "# One".toList) = .ok ["## One".toList] := by
    decide +kernel
  have hget : smallCorpus.index.get? "A".toList =
      some ⟨"A".toList, "book/A.md".toList, some "One".toList⟩ := by
    decide
  have hdirective : IsDirective "- `<doc:A>`".toList "A".toList := directive?_eq_some_iff.1 rfl
  have hsegment : rootSegment smallCorpus {} "- `<doc:A>`".toList =
      .ok ⟨pageBreak :: ["## One".toList] ++ [[]], some "A".toList⟩ :=
    rootSegment_eq_ok_iff.2 (.chapter hdirective (Or.inl rfl) hget htext hbody)
  have hassemble : ∀ header : Header, assemble smallCorpus {} header smallManuscript.root =
      .ok ⟨header.lines ++ ["# Book".toList, pageBreak, "## One".toList, []], ["A".toList]⟩ := by
    intro header
    rw [assemble_of_startsAt startsAt_small, mapM_eq_ok_iff.2 (.cons hsegment .nil)]
    rfl
  exact hassemble _

theorem smallFiles_writeBelow (content : Bytes) :
    smallFiles.writeBelow "book/out/All.md".toList content = (.ok (), smallFilesWith content) := by
  cbv

theorem completes_small : Completes smallFiles smallSettings HeadingShifter.builtIn knownVersions
    "book".toList noPrograms ⟨"book/out/All.md".toList, smallDocument, knownVersion⟩
    (smallFilesWith (Utf8.encode smallDocument.text)) [] :=
  ⟨prepared_of_isRead smallManuscript_isRead (by cbv), smallManuscript_assembled,
    smallFiles_writeBelow _⟩

theorem run_combine_small : smallFiles.HasWorkingFolder ∧
    (combine smallFiles smallSettings HeadingShifter.builtIn knownVersions "book".toList).run
        noPrograms =
      ((.ok ⟨"book/out/All.md".toList, smallDocument, knownVersion⟩,
        smallFilesWith (Utf8.encode smallDocument.text)), []) ∧
    smallFiles.Saved (smallFilesWith (Utf8.encode smallDocument.text)) "book/out/All.md".toList
      (Utf8.encode (Text.joinLines smallDocument.lines)) ∧
    (smallFilesWith (Utf8.encode smallDocument.text)).readText "book/out/All.md".toList =
      .ok (Text.joinLines smallDocument.lines) := by
  have hw : smallFiles.HasWorkingFolder := Folder.hasFolder_nil _
  obtain ⟨-, hcompletes, -, hsaved⟩ := run_combine smallSettings HeadingShifter.builtIn
    knownVersions "book".toList noPrograms hw
  exact ⟨hw, (hcompletes _ _ _).2 completes_small, hsaved _ _ _ completes_small⟩

end Bindery
