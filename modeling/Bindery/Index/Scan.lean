import Bindery.Index.Basic

set_option autoImplicit false

/-! # Finding the documents of a tree

The documents below a directory are its files with the extension `md`, except where the file or a
directory above it is hidden. Each directory is visited in the order of names, and what is inside
an entry is visited at the place of that entry. The order in which a directory lists its entries
has no influence. A directory that cannot be listed has no documents, and neither has one whose path
is longer than the system takes. -/

namespace Bindery

/-- The extension of document files. -/
def documentExtension : Text := ['m', 'd']

/-- Entries whose names start with a dot are passed over. -/
def isHidden (name : Text) : Bool := name.head? == some '.'

/-- The name is that of a document. -/
def isDocumentName (name : Text) : Bool :=
  !isHidden name && (Path.splitName name).2 == some documentExtension

namespace Folder

/-- Puts what was found at each entry of a directory into the order of the entries' names. -/
def inNameOrder (found : List (Text × List Location)) : List Location :=
  (found.mergeSort fun a b => Text.le a.1 b.1).flatMap (·.2)

/-- For each entry, in listing order, the documents that it is or holds, as seen from the folder.
Links are not followed, so a link may be a document and never holds any. -/
def documentsByEntry : Folder → List (Text × List Location)
  | .empty => []
  | .file name _ rest =>
    (name, if isDocumentName name then [[name]] else []) :: documentsByEntry rest
  | .link name _ rest =>
    (name, if isDocumentName name then [[name]] else []) :: documentsByEntry rest
  | .folder name listable inside rest =>
    (name,
      if isHidden name || !listable then []
      else (inNameOrder (documentsByEntry inside)).map (name :: ·)) :: documentsByEntry rest

/-- The documents of a folder in visiting order, as seen from the folder. -/
def documents (folder : Folder) : List Location := inNameOrder folder.documentsByEntry

end Folder

namespace Index

/-- The path of a place as seen from `root`. -/
def pathBelow (root : Path) (place : Location) : Path := place.foldl Path.join root

/-- The record of the document at a path, once it is read. -/
def readRecord (w : Workspace) (path : Path) (name : Text) : Except IndexError Record :=
  match w.readText path with
  | .error reason => .error (.unreadable path reason)
  | .ok text => .ok ⟨(Path.splitName name).1, path, titleOf text⟩

/-- The path of the directory that a place is in is short enough for the directory to be listed. The
paths of the directories above it are shorter. -/
def isInReach (root : Path) (place : Location) : Bool :=
  Text.byteLength (pathBelow root place.dropLast) ≤ Workspace.pathLimit

/-- The documents of the directory at `root` as far as they are in reach, in visiting order. -/
def visit (root : Path) (folder : Folder) : List Location :=
  folder.documents.filter (isInReach root)

/-- The paths of the documents below a directory, in visiting order. -/
def documentPaths (w : Workspace) (root : Path) : List (Path × Text) :=
  match w.list root with
  | .error _ => []
  | .ok folder =>
    (visit root folder).map fun place => (pathBelow root place, place.getLast?.getD [])

/-- The index of all documents below a directory. The first document in visiting order that cannot
be read is the error. -/
def build (w : Workspace) (root : Path) : Except IndexError Index :=
  ((documentPaths w root).mapM fun (path, name) => readRecord w path name).map ofRecords

end Index

end Bindery
