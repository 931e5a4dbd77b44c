import Bindery.ConfigFile.Statement
import Bindery.Settings.Basic

set_option autoImplicit false

/-! # Settings in a configuration file

A configuration file has one section for the book, one for the converter, one for the results and
one for the metadata. A section gives its settings by name, or as a list in a fixed order. A
setting that is left out has its default, and one that is not known is passed over. -/

namespace Bindery

namespace ConfigFile

/-! ## Single settings -/

/-- The text that a value is. -/
def Node.asText? : Node → Option Text
  | .text value => some value
  | _ => none

/-- The truth value that a value is. -/
def Node.asBool? : Node → Option Bool
  | .bool value => some value
  | _ => none

/-- The integer from `low` to `high` that a value is. -/
def Node.asInt? (low high : Int) : Node → Option Int
  | .int value => if low ≤ value ∧ value ≤ high then some value else none
  | _ => none

/-- The texts that a value lists. -/
def Node.asTexts? : Node → Option (List Text)
  | .list _ items => items.mapM Node.asText?
  | _ => none

/-- The engine with a name. -/
def shiftEngine? (name : Text) : Option ShiftEngine :=
  if name = "pandoc".toList then some .converter
  else if name = "native".toList then some .builtIn
  else none

/-- The engine that a value is: its name, or a table with its name as the only key and nothing
inside. -/
def Node.asShiftEngine? : Node → Option ShiftEngine
  | .text name => shiftEngine? name
  | .table _ [(name, .list _ [])] => shiftEngine? name
  | .table _ [(name, .table _ [])] => shiftEngine? name
  | _ => none

/-! ## Sections -/

/-- The settings of a section. -/
inductive Section where
  | named (entries : Entries)
  | listed (items : List Node)

namespace Section

/-- The section that a value is; without a value it is empty. A date or time counts as a table
without any known setting. -/
def ofNode? : Option Node → Option Section
  | none => some (.named [])
  | some (.table _ entries) => some (.named entries)
  | some (.list _ items) => some (.listed items)
  | some (.moment _) => some (.named [])
  | some _ => none

/-- A setting by its name and its place in a list. -/
def get? (name : String) (place : Nat) : Section → Option Node
  | named entries => Entries.get? name.toList entries
  | listed items => items[place]?

/-- A setting, or its default. A setting of the wrong kind is refused. -/
def read {α : Type} (settings : Section) (name : String) (place : Nat) (decode : Node → Option α)
    (default : α) : Option α :=
  match settings.get? name place with
  | none => some default
  | some node => decode node

end Section

/-- The settings of a book. -/
def bookSettings? (s : Section) : Option BookSettings := do
  let default : BookSettings := {}
  let rootDocument ← s.read "root_document" 0 Node.asText? default.rootDocument
  let assetFolder ← s.read "assets_dir" 1 Node.asText? default.assetFolder
  let combinedPath ← s.read "combined_path" 2 Node.asText? default.combinedPath
  let headingShift ←
    s.read "root_heading_shift" 3 (Node.asInt? (-2147483648) 2147483647) default.headingShift
  let shiftEngine ← s.read "heading_shift" 4 Node.asShiftEngine? default.shiftEngine
  let stripComments ← s.read "strip_html_comments" 5 Node.asBool? default.stripComments
  let chapters ← s.read "chapters" 6 Node.asTexts? default.chapters
  some { rootDocument, assetFolder, combinedPath, headingShift, shiftEngine, stripComments,
         chapters }

/-- The settings of the converter. -/
def rendererSettings? (s : Section) : Option RendererSettings := do
  let default : RendererSettings := {}
  let executable ← s.read "executable" 0 Node.asText? default.executable
  let highlightStyle ← s.read "highlight_style" 1 Node.asText? default.highlightStyle
  let filterScript ← s.read "lua_filter" 2 Node.asText? default.filterScript
  let template ← s.read "template" 3 Node.asText? default.template
  let pdfEngine ← s.read "pdf_engine" 4 Node.asText? default.pdfEngine
  let linkColor ← s.read "link_color" 5 Node.asText? default.linkColor
  let styleSheet ← s.read "css" 6 Node.asText? default.styleSheet
  let splitLevel ← s.read "split_level" 7 (Node.asInt? 0 255) default.splitLevel
  let epubFonts ← s.read "epub_fonts" 8 Node.asTexts? default.epubFonts
  some { executable, highlightStyle, filterScript, template, pdfEngine, linkColor, styleSheet,
         splitLevel := splitLevel.toNat, epubFonts }

/-- Where the results go. -/
def outputSettings? (s : Section) : Option OutputSettings := do
  let default : OutputSettings := {}
  let pdf ← s.read "pdf" 0 Node.asText? default.pdf
  let epub ← s.read "epub" 1 Node.asText? default.epub
  some { pdf, epub }

/-- The metadata that a value is: a table. -/
def header? : Option Node → Option Mapping
  | none => some []
  | some node =>
    match node.toValue? with
    | some (.map entries) => some entries
    | _ => none

/-- The settings that the entries of a configuration file give. -/
def settings? (entries : Entries) : Option Settings := do
  let book ← bookSettings? (← Section.ofNode? (entries.get? "book".toList))
  let renderer ← rendererSettings? (← Section.ofNode? (entries.get? "pandoc".toList))
  let output ← outputSettings? (← Section.ofNode? (entries.get? "output".toList))
  let header ← header? (entries.get? "header".toList)
  some { book, renderer, output, header }

end ConfigFile

/-- The settings that the text of a configuration file gives. -/
def Settings.ofText? (text : Text) : Option Settings :=
  (ConfigFile.read? text).bind ConfigFile.settings?

end Bindery
