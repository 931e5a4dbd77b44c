import Bindery.Outline.Shifter
import Bindery.Metadata.Header

set_option autoImplicit false

/-! # Settings

The settings say how a book is laid out, how it is rendered, where the results go and what its
metadata is. All have defaults. `Settings.validate` says which settings cannot be worked with. -/

namespace Bindery

/-! ## The settings -/

/-- How a book is laid out. -/
structure BookSettings where
  /-- The root document, as seen from the book. -/
  rootDocument : Path := "TSPL.docc/The-Swift-Programming-Language.md".toList
  /-- The directory of image files, as seen from the book. -/
  assetFolder : Path := "TSPL.docc/Assets".toList
  /-- Where the combined document goes. -/
  combinedPath : Path := "swiftbook-combined.md".toList
  /-- How many levels the headings of the root document are moved by. -/
  headingShift : Int := -2
  /-- What moves them. -/
  shiftEngine : ShiftEngine := .converter
  /-- Chapters lose their comments. -/
  stripComments : Bool := true
  /-- The chapters to include; all if there is none. -/
  chapters : List Text := []
  deriving DecidableEq, Repr

/-- How the converter is run. -/
structure RendererSettings where
  executable : Path := "pandoc".toList
  /-- The theme of code listings. -/
  highlightStyle : Text := "tspl-code-highlight.theme".toList
  /-- The filter script that every run applies. -/
  filterScript : Text := "rewrite-retina-image-references.lua".toList
  /-- The template of the PDF. -/
  template : Text := "tspl-pandoc-template".toList
  pdfEngine : Text := "lualatex".toList
  /-- The colour of links in the PDF. -/
  linkColor : Text := "de5d43".toList
  /-- The style sheet of the EPUB. -/
  styleSheet : Text := "tspl-epub.css".toList
  /-- The heading level at which the EPUB is split into files. -/
  splitLevel : Nat := 2
  /-- The fonts that go into the EPUB. -/
  epubFonts : List Path :=
    ["/Library/Fonts/SF-Pro-Text-Regular.otf".toList,
      "/Library/Fonts/SF-Pro-Text-RegularItalic.otf".toList,
      "/Library/Fonts/SF-Pro-Text-Bold.otf".toList,
      "/Library/Fonts/SF-Pro-Text-BoldItalic.otf".toList,
      "/Library/Fonts/SF-Mono.ttc".toList]
  deriving DecidableEq, Repr

/-- Where the results go. -/
structure OutputSettings where
  pdf : Path := "The-Swift-Programming-Language.pdf".toList
  epub : Path := "The-Swift-Programming-Language.epub".toList
  deriving DecidableEq, Repr

/-- All settings. -/
structure Settings where
  book : BookSettings := {}
  renderer : RendererSettings := {}
  output : OutputSettings := {}
  /-- Metadata that is set besides the defaults or in their place. -/
  header : Mapping := []
  /-- The file that the settings come from. -/
  source : Option Path := none
  deriving Repr

/-- Where the root document of a book is. -/
def BookSettings.rootDocumentIn (book : BookSettings) (folder : Path) : Path :=
  Path.join folder book.rootDocument

/-- Where the image files of a book are. -/
def BookSettings.assetFolderIn (book : BookSettings) (folder : Path) : Path :=
  Path.join folder book.assetFolder

/-! ## Metadata -/

/-- The metadata of every book, in the order in which it is written. -/
def defaultMetadata : Mapping :=
  let text (value : String) : Value := .text value.toList
  let texts (values : List String) : Value := .list (values.map text)
  [(text "toc", .bool true),
    (text "toc-depth", .int 4),
    (text "toc-own-page", .bool true),
    (text "titlepage", .bool true),
    (text "titlepage-rule-color", text "de5d43"),
    (text "strip-comments", .bool true),
    (text "sansfont", text "SF Pro Text Heavy"),
    (text "mainfont", text "SF Pro Text"),
    (text "mainfontfallback",
      texts ["Apple Color Emoji:mode=harf", "Helvetica Neue:mode=harf"]),
    (text "monofont", text "Menlo"),
    (text "monofontoptions", texts ["Scale=0.9"]),
    (text "monofontfallback",
      texts ["Sathu:mode=harf", "Al Nile:mode=harf", "Apple Color Emoji:mode=harf",
        "Apple SD Gothic Neo:mode=harf", "Hiragino Sans:mode=harf"]),
    (text "fontsize", text "10pt"),
    (text "listings-disable-line-numbers", .bool true),
    (text "listings-no-page-break", .bool false),
    (text "papersize", text "letter")]

/-- The metadata of a book: the defaults, with the values that are set in their places, then the
other values that are set. -/
def Settings.metadata (settings : Settings) : Mapping :=
  Mapping.insertAll settings.header defaultMetadata

/-! ## Validity -/

/-- A setting that cannot be worked with. -/
inductive InvalidSetting where
  /-- It must not be empty. -/
  | empty (field : Text)
  /-- It must not be outside a range. -/
  | outside (field : Text) (low high : Int)
  deriving DecidableEq, Repr

/-- The words for it. -/
def InvalidSetting.message : InvalidSetting → Text
  | .empty field => field ++ " cannot be empty".toList
  | .outside field low high =>
    field ++ " must be between ".toList ++ Text.ofInt low ++ " and ".toList ++ Text.ofInt high

/-- Refuses an empty text. -/
def requireText (field : String) (value : Text) : Except InvalidSetting Unit :=
  if value = [] then .error (.empty field.toList) else .ok ()

/-- Refuses a number outside a range. -/
def requireRange (field : String) (low high value : Int) : Except InvalidSetting Unit :=
  if low ≤ value ∧ value ≤ high then .ok () else .error (.outside field.toList low high)

/-- The first setting that cannot be worked with, if there is one. -/
def Settings.validate (settings : Settings) : Except InvalidSetting Unit := do
  requireText "book.root_document" settings.book.rootDocument
  requireText "book.combined_path" settings.book.combinedPath
  requireRange "book.root_heading_shift" (-5) 5 settings.book.headingShift
  requireText "pandoc.executable" settings.renderer.executable
  requireRange "pandoc.split_level" 1 6 settings.renderer.splitLevel

end Bindery
