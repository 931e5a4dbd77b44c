import Bindery.Outline.Heading
import Bindery.Process.Quoting

set_option autoImplicit false

/-! # Heading shifters

The headings of the root document are moved either here or by the document converter. The
converter reads the document from standard input and writes the moved one to standard output. -/

namespace Bindery

/-- Which shifter moves the headings. -/
inductive ShiftEngine where
  /-- The document converter. -/
  | converter
  /-- `shiftHeadings`. -/
  | builtIn
  deriving DecidableEq, Repr

/-- Why the headings cannot be moved. -/
inductive ShiftError where
  /-- The converter cannot be started. -/
  | os (error : OsError)
  /-- The converter ends badly. -/
  | failed (commandLine : Text) (status : Status) (errors : Bytes)
  /-- The output of the converter is no text. -/
  | notText (fault : Utf8.Fault)
  deriving DecidableEq, Repr

/-- The words for it. -/
def ShiftError.message : ShiftError → Text
  | .os error => error.message
  | .failed line status errors =>
    line ++ " exited with ".toList ++ status.message ++ ": ".toList ++
      Text.trim (Utf8.decodeLossy errors)
  | .notText fault => fault.message

/-- Moves the headings of a document by a number of levels. -/
abbrev HeadingShifter := Text → Int → Script (Except ShiftError Text)

namespace HeadingShifter

/-- Moves the headings without running anything. -/
def builtIn : HeadingShifter := fun text levels => .done (.ok (shiftHeadings levels text))

/-- The arguments that make the converter move headings. -/
def converterArguments (levels : Int) : List Text :=
  ["--from".toList, "markdown".toList, "--to".toList, "markdown".toList,
    "--shift-heading-level-by=".toList ++ Text.ofInt levels]

/-- What an outcome of the converter means. -/
def converted (executable : Path) (levels : Int) : Outcome → Except ShiftError Text
  | .error e => .error (.os e)
  | .ok exit =>
    if exit.succeeded then
      match Utf8.decode exit.output with
      | .ok text => .ok text
      | .error fault => .error (.notText fault)
    else
      .error (.failed (commandLine executable (converterArguments levels)) exit.status exit.errors)

/-- Has the converter move the headings. -/
def converter (files : Workspace) (executable : Path) : HeadingShifter := fun text levels =>
  .call files ⟨executable, converterArguments levels, Utf8.encode text⟩ fun outcome =>
    .done (converted executable levels outcome)

/-- The shifter of an engine. -/
def ofEngine (files : Workspace) (executable : Path) : ShiftEngine → HeadingShifter
  | .converter => converter files executable
  | .builtIn => builtIn

end HeadingShifter

end Bindery
