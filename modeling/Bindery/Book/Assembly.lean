import Bindery.Line.Preparation
import Bindery.Chapter.DefinitionList
import Bindery.Chapter.Comment
import Bindery.Outline.Directive
import Bindery.Metadata.Header

set_option autoImplicit false

/-! # Assembling the combined document

The combined document is the metadata header followed by the root document from its first
top-level heading on, in which each inclusion directive is replaced by the chapter it names. Each
root line makes a segment of its own; `rootStep` says which, and `rootSegments` goes from line to
line. -/

namespace Bindery

/-! ## What goes in -/

/-- Where documents and images are. -/
structure Corpus where
  files : Workspace
  index : Index
  /-- The directory of image files. -/
  assetFolder : Path
  deriving DecidableEq, Repr

/-- The image files of a corpus. -/
def Corpus.assets (corpus : Corpus) : Assets := ⟨corpus.files, corpus.assetFolder⟩

/-- What to include and how. -/
structure AssemblyOptions where
  /-- The chapters to include; all if there is none. -/
  chapters : List Text := []
  /-- Chapters lose their comments. -/
  stripComments : Bool := true
  deriving DecidableEq, Repr

/-- The chapter is to be included. -/
def AssemblyOptions.selects (options : AssemblyOptions) (identifier : Text) : Bool :=
  options.chapters.isEmpty || options.chapters.contains identifier

/-- Why a document cannot be assembled. -/
inductive AssemblyError where
  /-- A directive names no document. -/
  | directive (error : IndexError)
  /-- A chapter, or the place of the combined document, is not accessible. -/
  | inaccessible (path : Path) (reason : ReadError)
  /-- A line of a chapter cannot be prepared. -/
  | line (error : LineError)
  deriving DecidableEq, Repr

/-- The words for it. -/
def AssemblyError.message : AssemblyError → Text
  | .directive error => error.message
  | .inaccessible path reason =>
    "Failed to access ".toList ++ path ++ ": ".toList ++ reason.message
  | .line error => error.message

/-! ## What comes out -/

/-- A combined document. -/
structure CombinedDocument where
  lines : List Text
  /-- The included chapters, in order. -/
  chapters : List Text
  deriving DecidableEq, Repr

/-- The text of a document: its lines with line feeds between them. -/
def CombinedDocument.text (document : CombinedDocument) : Text := Text.joinLines document.lines

/-- Writes a document to a path, after making the directories above it. -/
def CombinedDocument.save (document : CombinedDocument) (files : Workspace) (path : Path) :
    Except AssemblyError Unit × Workspace :=
  match files.writeBelow path (Utf8.encode document.text) with
  | (.error e, files) => (.error (.inaccessible path (.os e)), files)
  | (.ok (), files) => (.ok (), files)

/-! ## Chapters -/

/-- The line that starts a new page; readers of the EPUB do not see it. -/
def pageBreak : Text := "\\newpage\x7b\x7d".toList

/-- The lines of a chapter in the combined document. -/
def chapterLines (corpus : Corpus) (options : AssemblyOptions) (text : Text) :
    Except LineError (List Text) :=
  DefinitionList.layOut (prepareLine corpus.index corpus.assets)
    (Text.lines (if options.stripComments then removeComments text else text))

/-- The chapter of an identifier between a page break and an empty line. -/
def chapterSegment (corpus : Corpus) (options : AssemblyOptions) (identifier : Text) :
    Except AssemblyError (List Text) :=
  match corpus.index.resolve identifier with
  | .error e => .error (.directive e)
  | .ok record =>
    match corpus.files.readText record.path with
    | .error reason => .error (.inaccessible record.path reason)
    | .ok text =>
      match chapterLines corpus options text with
      | .error e => .error (.line e)
      | .ok body => .ok (pageBreak :: body ++ [[]])

/-! ## Root lines -/

/-- What a root line contributes. -/
structure Segment where
  lines : List Text
  /-- The chapter, if the line includes one. -/
  chapter : Option Text
  deriving DecidableEq, Repr

/-- The line is a top-level heading. -/
def isTopLevel (line : Text) : Bool := Text.startsWith topLevelMarker line

/-- The segment of a root line behind the first top-level heading: the chapter if the line is a
directive of a selected chapter, nothing if it is one of another, and the line itself otherwise,
behind a page break if it is a top-level heading. -/
def rootSegment (corpus : Corpus) (options : AssemblyOptions) (line : Text) :
    Except AssemblyError Segment :=
  match directive? line with
  | some identifier =>
    if options.selects identifier then
      (chapterSegment corpus options identifier).map fun lines => ⟨lines, some identifier⟩
    else .ok ⟨[], none⟩
  | none => .ok ⟨if isTopLevel line then [pageBreak, line] else [line], none⟩

/-- What the next root line is looked at as. -/
inductive RootMode where
  /-- A line before the first top-level heading, or that heading. -/
  | leading
  /-- A line behind the first top-level heading. -/
  | following
  deriving DecidableEq, Repr

/-- The segment of a root line in each mode, and the mode for the next line. Lines before the first
top-level heading contribute nothing, and that heading starts the document without a page
break. -/
def rootStep (corpus : Corpus) (options : AssemblyOptions) :
    RootMode → Text → Except AssemblyError (Segment × RootMode)
  | .leading, line =>
    .ok (if isTopLevel line then (⟨[line], none⟩, .following) else (⟨[], none⟩, .leading))
  | .following, line => (rootSegment corpus options line).map fun segment => (segment, .following)

/-- The segments of the root lines from a place on, where the mode is the given one. -/
def rootSegments (corpus : Corpus) (options : AssemblyOptions) (mode : RootMode) :
    List Text → Except AssemblyError (List Segment)
  | [] => .ok []
  | line :: lines =>
    match rootStep corpus options mode line with
    | .error e => .error e
    | .ok (segment, next) => (rootSegments corpus options next lines).map (segment :: ·)

/-- The combined document of a root document under a header. The first directive that fails is
the error. -/
def assemble (corpus : Corpus) (options : AssemblyOptions) (header : Header) (root : Text) :
    Except AssemblyError CombinedDocument :=
  (rootSegments corpus options .leading (Text.lines root)).map fun segments =>
    ⟨header.lines ++ segments.flatMap (·.lines), segments.filterMap (·.chapter)⟩

end Bindery
