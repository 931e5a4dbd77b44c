import Bindery.Index.Scan
import Bindery.Book.Assembly
import Bindery.Book.Version
import Bindery.Settings.Basic

set_option autoImplicit false

/-! # Combining a book

Combining goes through stages: the documents are indexed, the root document is read and its title
taken, the version is looked up, the headings are moved, the document is assembled, and it is
written. The first stage that fails is the error, and no later one begins. Only the last changes
any file. -/

namespace Bindery

/-- Why a book cannot be combined. -/
inductive BookError where
  | index (error : IndexError)
  /-- The root document cannot be read. -/
  | unreadable (path : Path) (reason : ReadError)
  | version (error : VersionError)
  /-- The headings of the root document cannot be moved. -/
  | shift (path : Path) (error : ShiftError)
  | assembly (error : AssemblyError)
  deriving DecidableEq, Repr

/-- The words for it. -/
def BookError.message : BookError → Text
  | .index error => error.message
  | .unreadable path reason => "Failed to read ".toList ++ path ++ ": ".toList ++ reason.message
  | .version error => error.message
  | .shift path error =>
    "Failed to shift headings of ".toList ++ path ++ ": ".toList ++ error.message
  | .assembly error => error.message

/-- A book that was combined. -/
structure CombinedBook where
  /-- Where the combined document is. -/
  path : Path
  document : CombinedDocument
  version : Version
  deriving DecidableEq, Repr

/-- A book that is to be combined, once its documents are known. -/
structure Manuscript where
  index : Index
  /-- Where the root document is. -/
  rootPath : Path
  /-- The text of the root document. -/
  root : Text
  title : Text
  deriving DecidableEq, Repr

/-- Indexes the documents of a book, reads the root document and takes its title. -/
def Manuscript.read (files : Workspace) (book : BookSettings) (folder : Path) :
    Except BookError Manuscript :=
  match Index.build files folder with
  | .error e => .error (.index e)
  | .ok index =>
    let rootPath := book.rootDocumentIn folder
    match files.readText rootPath with
    | .error reason => .error (.unreadable rootPath reason)
    | .ok root =>
      match titleOf root with
      | none => .error (.index (.untitled ((Path.stem? rootPath).getD [])))
      | some title => .ok ⟨index, rootPath, root, title⟩

/-- Assembles a book whose version is known and whose headings are moved, and writes it. -/
def Manuscript.finish (manuscript : Manuscript) (files : Workspace) (settings : Settings)
    (folder : Path) (version : Version) (root : Text) :
    Except BookError CombinedBook × Workspace :=
  let book := settings.book
  let corpus : Corpus := ⟨files, manuscript.index, book.assetFolderIn folder⟩
  let header : Header := ⟨manuscript.title, version.date, settings.metadata⟩
  match assemble corpus ⟨book.chapters, book.stripComments⟩ header root with
  | .error e => (.error (.assembly e), files)
  | .ok document =>
    match document.save files book.combinedPath with
    | (.error e, files) => (.error (.assembly e), files)
    | (.ok (), files) => (.ok ⟨book.combinedPath, document, version⟩, files)

/-- Combines the book in a directory: what comes of it, and the files after it. -/
def combine (files : Workspace) (settings : Settings) (shifter : HeadingShifter)
    (versions : VersionSource) (folder : Path) :
    Script (Except BookError CombinedBook × Workspace) :=
  match Manuscript.read files settings.book folder with
  | .error e => .done (.error e, files)
  | .ok manuscript =>
    (versions.version folder).bind fun
      | .error e => .done (.error (.version e), files)
      | .ok version =>
        (shifter manuscript.root settings.book.headingShift).bind fun
          | .error e => .done (.error (.shift manuscript.rootPath e), files)
          | .ok root => .done (manuscript.finish files settings folder version root)

end Bindery
