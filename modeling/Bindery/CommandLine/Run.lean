import Bindery.CommandLine.Arguments
import Bindery.Book.Combine
import Bindery.Render.Job

set_option autoImplicit false

/-! # Running the command

The command combines a book and renders it. It tells on standard error what it does, and ends with
code `0` if everything went well, `1` if something failed, and `2` if it does not understand its
arguments. -/

namespace Bindery

namespace CommandLine

/-- Why no book is made. -/
inductive RunError where
  | noBook (path : Path)
  | settings (error : SettingsError)
  | book (error : BookError)
  /-- Some of the rendering jobs failed. -/
  | render (failed total : Nat)
  deriving DecidableEq, Repr

/-- The words for it. -/
def RunError.message : RunError → Text
  | .noBook path => "Book directory not found: ".toList ++ path
  | .settings error => error.message
  | .book error => error.message
  | .render failed total =>
    Text.ofNat failed ++ " of ".toList ++ Text.ofNat total ++ " pandoc runs failed".toList

/-- How the command ends. -/
structure Ending where
  code : Nat
  /-- What is written to standard output. -/
  output : Bytes
  /-- What is written to standard error. -/
  errors : Bytes
  /-- The files after the run. -/
  files : Workspace
  deriving DecidableEq, Repr

/-- A line on standard error. -/
def tell (message : Text) : Bytes := Utf8.encode (message ++ ['\n'])

/-- Tells that something was written. -/
def tellWritten (what : String) (path : Path) : Bytes :=
  tell (what.toList ++ " written to ".toList ++ path)

/-- Ends the command with an error, after what was told before. -/
def fail (files : Workspace) (output errors : Bytes) (error : RunError) : Ending :=
  ⟨1, output, errors ++ tell ("Error: ".toList ++ error.message), files⟩

/-- Tells which book was combined. -/
def tellCombined (folder : Path) (book : CombinedBook) : Bytes :=
  tell (folder ++ " at ".toList ++ book.version.reference ++ " (".toList ++ book.version.date ++
      "): ".toList ++ Text.ofNat book.document.chapters.length ++ " chapters".toList) ++
    tellWritten "Preprocessed Markdown content" book.path

/-- Tells what came of a job. What the converter writes to standard error stands in between. -/
def tellJob (executable : Path) (job : Job) (outcome : Outcome) : Bytes :=
  tell ("Rendering ".toList ++ job.format.title ++ "...".toList) ++
    (match outcome with
      | .ok exit => exit.errors
      | .error _ => []) ++
    match job.judge executable outcome with
    | .ok () => tellWritten "Output" job.output
    | .error e => tell e.message

/-- What a job writes to standard output. -/
def jobOutput : Outcome → Bytes
  | .ok exit => exit.output
  | .error _ => []

/-- How the command ends after its jobs. -/
def endRender (files : Workspace) (executable : Path) (told : Bytes)
    (results : List (Job × Outcome)) : Ending :=
  let output := results.flatMap fun (_, outcome) => jobOutput outcome
  let errors := told ++ results.flatMap fun (job, outcome) => tellJob executable job outcome
  match results.countP fun (job, outcome) => !(job.judge executable outcome).isOk with
  | 0 => ⟨0, output, errors, files⟩
  | failed + 1 => fail files output errors (.render (failed + 1) results.length)

/-- The files that rendering a book reads and writes. -/
def renderPaths (settings : Settings) (folder : Path) (book : CombinedBook) : RenderPaths where
  combined := book.path
  resources := settings.book.assetFolderIn folder
  pdf := settings.output.pdf
  epub := settings.output.epub

/-- Renders a book that was combined. -/
def render (request : Request) (settings : Settings) (book : CombinedBook) (files : Workspace) :
    Script Ending :=
  let told := tellCombined request.book book
  if request.combineOnly then .done ⟨0, [], told, files⟩
  else
    let mode := if request.source then RenderMode.source else .publish
    let jobs := Job.all settings.renderer (renderPaths settings request.book book) mode
    (Job.runAll files settings.renderer.executable jobs).map
      (endRender files settings.renderer.executable told)

/-- Makes the book of a request. -/
def execute (files : Workspace) (environment : Environment) (request : Request) :
    Script Ending :=
  if files.isFolder request.book then
    match Settings.load files environment request.config request.overrides with
    | .error e => .done (fail files [] [] (.settings e))
    | .ok settings =>
      let shifter :=
        HeadingShifter.ofEngine files settings.renderer.executable settings.book.shiftEngine
      (combine files settings shifter (Git.source files Git.defaultExecutable) request.book).bind
        fun
        | (.error e, files) => .done (fail files [] [] (.book e))
        | (.ok book, files) => render request settings book files
  else .done (fail files [] [] (.noBook request.book))

/-- The name of the command with its version. -/
def versionLine : Text := "docbind 0.1.0\n".toList

/-- How the command is called. -/
def usage : Text := "Usage: docbind [OPTIONS] <BOOK_PATH>\n".toList

/-- How the command ends where its arguments ask for no book. -/
def stop (files : Workspace) : Stop → Ending
  | .help => ⟨0, Utf8.encode usage, [], files⟩
  | .version => ⟨0, Utf8.encode versionLine, [], files⟩
  | .refused => ⟨2, [], Utf8.encode usage, files⟩

/-- Runs the command. -/
def run (files : Workspace) (environment : Environment) (arguments : List Text) :
    Script Ending :=
  match parse environment arguments with
  | .error s => .done (stop files s)
  | .ok request => execute files environment request

end CommandLine

end Bindery
