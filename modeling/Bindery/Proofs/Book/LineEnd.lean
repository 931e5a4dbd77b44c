import Bindery.Proofs.Book.Stages
import Bindery.Proofs.Chapter.Comment
import Bindery.Proofs.Files.Alike
import Bindery.Proofs.Line.Image

set_option autoImplicit false

/-! # Line ends of documents

A document may end its lines with line feeds alone or with a carriage return in front of each. The
index, the title of the root document, its moved headings and the chapters are all made of lines,
and comments are removed without parting a carriage return from its line feed. So two trees in which
some files differ in their line ends (`Bytes.SameLines`) give the same index and the same combined
document, or the same error (`run_combine_sameLines`). -/

namespace Bindery

variable {files files' : Workspace}

/-! ## Texts -/

theorem titleOf_sameLines {text text' : Text} (h : Text.SameLines text text') :
    titleOf text' = titleOf text := by
  rw [titleOf, titleOf, h.lines_eq]

theorem shiftHeadings_sameLines {text text' : Text} (h : Text.SameLines text text')
    (levels : Int) : shiftHeadings levels text' = shiftHeadings levels text := by
  rw [shiftHeadings, shiftHeadings, h.lines_eq]

theorem chapterLines_sameLines {text text' : Text} (h : Text.SameLines text text')
    (corpus : Corpus) (options : AssemblyOptions) :
    chapterLines corpus options text' = chapterLines corpus options text := by
  rw [chapterLines, chapterLines]
  split
  · rw [(sameLines_removeComments h).lines_eq]
  · rw [h.lines_eq]

/-! ## Images -/

/-- The signature of a PNG file holds a carriage return. -/
theorem carriageReturn_mem_of_isPngHead {content : Bytes} (h : IsPngHead content) :
    Bytes.carriageReturn ∈ content := by
  have hmem : Bytes.carriageReturn ∈ content.take 8 := by
    rw [h.2.1]
    decide
  exact List.mem_of_mem_take hmem

/-- The signature of a PNG file holds a line feed without a carriage return in front of it. -/
theorem not_isPngHead_withReturns (content : Bytes) : ¬ IsPngHead (Bytes.withReturns content) := by
  rintro ⟨-, hsignature, -⟩
  have hcontent : Bytes.withReturns content =
      [0x89, 0x50, 0x4E, 0x47, 0x0D, 0x0A] ++ 0x1A :: Bytes.lineFeed ::
        (Bytes.withReturns content).drop 8 := by
    rw [← List.take_append_drop 8 (Bytes.withReturns content), hsignature]
    rfl
  exact absurd (Bytes.eq_of_withReturns hcontent) (by decide)

theorem pngWidth_sameLines {content content' : Bytes} (h : Bytes.SameLines content content') :
    pngWidth (content'.take pngHeadLength) = pngWidth (content.take pngHeadLength) := by
  rcases h with rfl | ⟨hreturn, rfl⟩
  · rfl
  · rw [pngWidth_take_eq_none_iff.2 fun hhead => hreturn (carriageReturn_mem_of_isPngHead hhead),
      pngWidth_take_eq_none_iff.2 (not_isPngHead_withReturns content)]

namespace Workspace.Alike

/-! ## What is made of the files -/

section

variable (h : files.Alike Bytes.SameLines files')

include h

theorem readText (path : Path) :
    Corresponds Text.SameLines (files.readText path) (files'.readText path) := by
  rw [Workspace.readText, Workspace.readText]
  rcases cases_of_corresponds (h.read path) with
    ⟨e, herror, herror'⟩ | ⟨content, content', hok, hok', hsame⟩
  · rw [herror, herror']
    exact .error _
  · rw [hok, hok']
    rcases cases_of_rel (Utf8.decode?_of_sameLines hsame) with
      ⟨hnone, hnone'⟩ | ⟨text, text', hsome, hsome', htext⟩
    · simp only [hnone, hnone']
      exact .error _
    · simp only [hsome, hsome']
      exact .ok htext

theorem readRecord (path : Path) (name : Text) :
    Index.readRecord files' path name = Index.readRecord files path name := by
  rw [Index.readRecord, Index.readRecord]
  rcases cases_of_corresponds (h.readText path) with
    ⟨e, herror, herror'⟩ | ⟨text, text', hok, hok', hsame⟩
  · rw [herror, herror']
  · rw [hok, hok']
    simp only [titleOf_sameLines hsame]

theorem build (folder : Path) : Index.build files' folder = Index.build files folder := by
  rw [Index.build, Index.build, h.documentPaths folder]
  congr 1
  exact mapM_congr fun document _ => h.readRecord document.1 document.2

theorem widthOf (folder : Path) (fileName : Text) :
    Assets.widthOf ⟨files', folder⟩ fileName = Assets.widthOf ⟨files, folder⟩ fileName := by
  rw [Assets.widthOf, Assets.widthOf]
  rcases cases_of_corresponds (h.read (Path.join folder fileName)) with
    ⟨e, herror, herror'⟩ | ⟨content, content', hok, hok', hsame⟩
  · simp only [herror, herror']
  · simp only [hok, hok', pngWidth_sameLines hsame]

theorem prepareLine (index : Index) (folder : Path) (line : Text) :
    Bindery.prepareLine index ⟨files', folder⟩ line =
      Bindery.prepareLine index ⟨files, folder⟩ line := by
  have hscale : ∀ fileName, Assets.scaleOf ⟨files', folder⟩ fileName =
      Assets.scaleOf ⟨files, folder⟩ fileName := fun fileName => by
    rw [Assets.scaleOf, Assets.scaleOf, h.widthOf]
  simp only [Bindery.prepareLine, resolveImage, hscale]

theorem chapterSegment (index : Index) (folder : Path) (options : AssemblyOptions)
    (identifier : Text) :
    Bindery.chapterSegment ⟨files', index, folder⟩ options identifier =
      Bindery.chapterSegment ⟨files, index, folder⟩ options identifier := by
  rw [Bindery.chapterSegment, Bindery.chapterSegment]
  cases index.resolve identifier with
  | error e => rfl
  | ok record =>
    rcases cases_of_corresponds (h.readText record.path) with
      ⟨e, herror, herror'⟩ | ⟨text, text', hok, hok', hsame⟩
    · simp only [herror, herror']
    · have hlines : chapterLines ⟨files', index, folder⟩ options text =
          chapterLines ⟨files, index, folder⟩ options text := by
        rw [chapterLines, chapterLines, Corpus.assets, Corpus.assets,
          funext (h.prepareLine index folder)]
      simp only [hok, hok', chapterLines_sameLines hsame, hlines]

theorem assemble (index : Index) (folder : Path) (options : AssemblyOptions) (header : Header)
    (root : Text) :
    Bindery.assemble ⟨files', index, folder⟩ options header root =
      Bindery.assemble ⟨files, index, folder⟩ options header root := by
  refine assemble_congr fun _ _ _ line _ => ?_
  simp only [rootSegment, h.chapterSegment]

end

end Workspace.Alike

/-! ## The whole book -/

/-- The manuscripts differ at most in the line ends of the root document. -/
structure Manuscript.SameLines (manuscript manuscript' : Manuscript) : Prop where
  index : manuscript'.index = manuscript.index
  rootPath : manuscript'.rootPath = manuscript.rootPath
  root : Text.SameLines manuscript.root manuscript'.root
  title : manuscript'.title = manuscript.title

theorem read_sameLines (h : files.Alike Bytes.SameLines files') (book : BookSettings)
    (folder : Path) :
    Corresponds Manuscript.SameLines (Manuscript.read files book folder)
      (Manuscript.read files' book folder) := by
  rw [Manuscript.read, Manuscript.read, h.build folder]
  cases Index.build files folder with
  | error e => exact .error _
  | ok index =>
    rcases cases_of_corresponds (h.readText (book.rootDocumentIn folder)) with
      ⟨e, herror, herror'⟩ | ⟨root, root', hok, hok', hsame⟩
    · simp only [herror, herror']
      exact .error _
    · simp only [hok, hok', titleOf_sameLines hsame]
      cases titleOf root with
      | none => exact .error _
      | some title => exact .ok ⟨rfl, rfl, hsame, rfl⟩

/-- The same book comes of it, or the same error, and the files afterwards differ at most in their
line ends. -/
def SameOutcome (result result' : Except BookError CombinedBook × Workspace) : Prop :=
  ∃ book after after', result = (book, after) ∧ result' = (book, after') ∧
    after.Alike Bytes.SameLines after'

theorem finish_sameLines (h : files.Alike Bytes.SameLines files')
    {manuscript manuscript' : Manuscript} (hmanuscript : manuscript.SameLines manuscript')
    (settings : Settings) (folder : Path) (version : Version) (root : Text) :
    SameOutcome (manuscript.finish files settings folder version root)
      (manuscript'.finish files' settings folder version root) := by
  have hassembled : manuscript'.assembled files' settings folder version root =
      manuscript.assembled files settings folder version root := by
    rw [Manuscript.assembled, Manuscript.assembled, hmanuscript.index, hmanuscript.title,
      h.assemble]
  rw [Manuscript.finish_eq, Manuscript.finish_eq, hassembled]
  cases manuscript.assembled files settings folder version root with
  | error e => exact ⟨_, _, _, rfl, rfl, h⟩
  | ok document =>
    obtain ⟨answer, after, after', hwrite, hwrite', halike⟩ :=
      h.writeBelow (fun _ => .inl rfl) settings.book.combinedPath (Utf8.encode document.text)
    simp only [hwrite, hwrite']
    cases answer with
    | error e => exact ⟨_, _, _, rfl, rfl, halike⟩
    | ok => exact ⟨_, _, _, rfl, rfl, halike⟩

variable {versions versions' : VersionSource} {folder : Path}
  {respond respond' : Workspace → Command → Outcome}

/-- Any files without carriage returns, the root document and the chapters among them, may get some
in front of their line feeds. The index stays the same, the title of the book too, and combining the
book ends with the same lines and chapters or with the same error. Comments are removed or not. The
headings are moved without a program, and the version of the working copy is the same. -/
theorem run_combine_sameLines (settings : Settings) (h : files.Alike Bytes.SameLines files')
    (hversions : ((versions'.version folder).run respond').1 =
      ((versions.version folder).run respond).1) :
    Index.build files' folder = Index.build files folder ∧
    (Manuscript.read files' settings.book folder).map (·.title) =
      (Manuscript.read files settings.book folder).map (·.title) ∧
    SameOutcome
      ((combine files settings HeadingShifter.builtIn versions folder).run respond).1
      ((combine files' settings HeadingShifter.builtIn versions' folder).run respond').1 := by
  refine ⟨h.build folder, ?_, ?_⟩
  · rcases cases_of_corresponds (read_sameLines h settings.book folder) with
      ⟨e, herror, herror'⟩ | ⟨manuscript, manuscript', hok, hok', hsame⟩
    · rw [herror, herror']
    · rw [hok, hok', Except.map, Except.map, hsame.title]
  · rw [combine, combine]
    rcases cases_of_corresponds (read_sameLines h settings.book folder) with
      ⟨e, herror, herror'⟩ | ⟨manuscript, manuscript', hok, hok', hsame⟩
    · rw [herror, herror']
      exact ⟨_, _, _, rfl, rfl, h⟩
    · rw [hok, hok']
      simp only [Script.run_bind, hversions]
      cases ((versions.version folder).run respond).1 with
      | error e => exact ⟨_, _, _, rfl, rfl, h⟩
      | ok version =>
        simp only [HeadingShifter.builtIn, Script.bind, Script.run,
          shiftHeadings_sameLines hsame.root]
        exact finish_sameLines h hsame settings folder version _

/-! ## A small book with carriage returns -/

/-- The small book with a carriage return in front of the line feed of its root document. -/
def returnBook : Folder :=
  .file "A.md".toList (Utf8.encode "# One".toList)
    (.file "Book.md".toList (Utf8.encode "# Book\r\n- `<doc:A>`".toList) .empty)

/-- That book and nothing else. -/
def returnFiles : Workspace := ⟨.folder "book".toList true returnBook .empty, []⟩

theorem returnFiles_alike : smallFiles.Alike Bytes.SameLines returnFiles where
  here := rfl
  root := .folder _ _ (.file _ (.inl rfl) (.file _ (.inr ⟨by decide, by decide⟩) .empty)) .empty

/-- The small book is combined to the same document with the carriage return. -/
theorem run_combine_sameLines_small :
    smallFiles.Alike Bytes.SameLines returnFiles ∧
    ((knownVersions.version "book".toList).run noPrograms).1 =
      ((knownVersions.version "book".toList).run noPrograms).1 ∧
    ∃ after, ((combine returnFiles smallSettings HeadingShifter.builtIn knownVersions
        "book".toList).run noPrograms).1 =
      (.ok ⟨"book/out/All.md".toList, smallDocument, knownVersion⟩, after) := by
  obtain ⟨-, -, _, _, after', hfirst, hsecond, -⟩ :=
    run_combine_sameLines smallSettings returnFiles_alike
      (Eq.refl ((knownVersions.version "book".toList).run noPrograms).1)
  rw [run_combine_of_completes completes_small] at hfirst
  cases hfirst
  exact ⟨returnFiles_alike, rfl, after', hsecond⟩

end Bindery
