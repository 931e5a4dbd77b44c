import Bindery.Settings.Decode
import Bindery.Settings.Expansion

set_option autoImplicit false

/-! # Finding the settings

The settings come from a configuration file that is named, or else from the nearest one in the
working directory and the directories above it, or else they are the defaults. Those of a file are
expanded and checked. At last, what the command line says takes the place of what was found. -/

namespace Bindery

/-- The name of configuration files. -/
def configFileName : Text := "docbind.toml".toList

/-- Why there are no settings. -/
inductive SettingsError where
  /-- The named file does not exist. -/
  | missing (path : Path)
  | unreadable (reason : ReadError)
  /-- The file is not well formed, or a setting is of the wrong kind. -/
  | malformed
  /-- A setting refers to a variable that is not set. -/
  | unset (field name : Text)
  | invalid (setting : InvalidSetting)
  deriving DecidableEq, Repr

/-- The words for it. -/
def SettingsError.message : SettingsError → Text
  | .missing path => "Configuration file not found: ".toList ++ path
  | .unreadable reason => "I/O error: ".toList ++ reason.message
  | .malformed => "TOML parse error".toList
  | .unset field name =>
    "Environment variable error in ".toList ++ field ++ ": $\x7b".toList ++ name ++
      "\x7d not set".toList
  | .invalid setting => "Configuration error: ".toList ++ setting.message

/-- What the command line says in the place of the settings. -/
structure Overrides where
  executable : Option Path := none
  pdf : Option Path := none
  epub : Option Path := none
  chapters : Option (List Text) := none
  deriving DecidableEq, Repr

namespace Settings

/-- The setting with its variables replaced. -/
def expandField (environment : Environment) (field : String) (value : Text) :
    Except SettingsError Text :=
  match expand environment value with
  | .ok value => .ok value
  | .error name => .error (.unset field.toList name)

/-- The settings with the variables replaced in those of the converter that are names of files. -/
def expandVariables (environment : Environment) (settings : Settings) :
    Except SettingsError Settings := do
  let renderer := settings.renderer
  let executable ← expandField environment "pandoc.executable" renderer.executable
  let template ← expandField environment "pandoc.template" renderer.template
  let styleSheet ← expandField environment "pandoc.css" renderer.styleSheet
  let highlightStyle ←
    expandField environment "pandoc.highlight_style" renderer.highlightStyle
  let filterScript ← expandField environment "pandoc.lua_filter" renderer.filterScript
  return { settings with
    renderer :=
      { renderer with executable, template, styleSheet, highlightStyle, filterScript } }

/-- The settings in the file at a path. -/
def ofFile (files : Workspace) (environment : Environment) (path : Path) :
    Except SettingsError Settings :=
  match files.readText path with
  | .error reason => .error (.unreadable reason)
  | .ok text =>
    match ofText? text with
    | none => .error .malformed
    | some settings =>
      match settings.expandVariables environment with
      | .error e => .error e
      | .ok settings =>
        match settings.validate with
        | .error setting => .error (.invalid setting)
        | .ok () => .ok { settings with source := some path }

/-- The absolute path of a place. -/
def absolutePath (place : Location) : Path := place.foldl Path.join ['/']

/-- A place and the places above it, the nearest first. -/
def placesUp (place : Location) : List Location :=
  (List.range (place.length + 1)).reverse.map fun depth => place.take depth

/-- The nearest configuration file in a place and the places above it. -/
def discover? (files : Workspace) (place : Location) : Option Path :=
  ((placesUp place).map fun above => Path.join (absolutePath above) configFileName).find?
    files.exists?

/-- The settings with those that the command line gives in their places. -/
def override (overrides : Overrides) (settings : Settings) : Settings :=
  { settings with
    book :=
      { settings.book with chapters := overrides.chapters.getD settings.book.chapters }
    renderer :=
      { settings.renderer with
        executable := overrides.executable.getD settings.renderer.executable }
    output :=
      { pdf := overrides.pdf.getD settings.output.pdf
        epub := overrides.epub.getD settings.output.epub } }

/-- The settings of the named file, else of the nearest one, else the defaults. -/
def find (files : Workspace) (environment : Environment) (named : Option Path) :
    Except SettingsError Settings :=
  match named with
  | some path =>
    if files.exists? path then ofFile files environment path else .error (.missing path)
  | none =>
    match discover? files files.here with
    | some path => ofFile files environment path
    | none => .ok {}

/-- The settings that are in force. -/
def load (files : Workspace) (environment : Environment) (named : Option Path)
    (overrides : Overrides) : Except SettingsError Settings :=
  (find files environment named).map (override overrides)

end Settings

end Bindery
