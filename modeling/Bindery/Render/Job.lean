import Bindery.Settings.Basic

set_option autoImplicit false

/-! # Rendering jobs

The combined document is rendered by runs of the converter, one for each format: an EPUB and a
PDF, or only the LaTeX source that the PDF would be made from. -/

namespace Bindery

/-- The format of a result. -/
inductive Format where
  | epub
  | pdf
  /-- The source of the PDF. -/
  | latex
  deriving DecidableEq, Repr

/-- The name of a format in messages. -/
def Format.title : Format → Text
  | .epub => "EPUB".toList
  | .pdf => "PDF".toList
  | .latex => "LaTeX".toList

/-- The files that rendering reads and writes. -/
structure RenderPaths where
  /-- The combined document. -/
  combined : Path
  /-- The directory of image files. -/
  resources : Path
  pdf : Path
  epub : Path
  deriving DecidableEq, Repr

/-- What to render. -/
inductive RenderMode where
  /-- The EPUB, then the PDF. -/
  | publish
  /-- The LaTeX source, beside where the PDF would be. -/
  | source
  deriving DecidableEq, Repr

/-- One run of the converter. -/
structure Job where
  format : Format
  output : Path
  arguments : List Text
  deriving DecidableEq, Repr

namespace Job

/-- The arguments of every run. -/
def commonArguments (renderer : RendererSettings) (paths : RenderPaths) : List Text :=
  ["--from".toList, "markdown".toList, paths.combined, "--resource-path".toList, paths.resources,
    "--highlight-style".toList, renderer.highlightStyle, "--standalone".toList,
    "--lua-filter".toList, renderer.filterScript]

/-- The arguments that say where the result goes. -/
def outputArguments (output : Path) : List Text := ["--output".toList, output]

/-- The run for the EPUB. -/
def epub (renderer : RendererSettings) (paths : RenderPaths) : Job where
  format := .epub
  output := paths.epub
  arguments :=
    commonArguments renderer paths ++
      ["--to".toList, "epub3".toList, "--toc".toList,
        "--split-level=".toList ++ Text.ofNat renderer.splitLevel] ++
      renderer.epubFonts.map ("--epub-embed-font=".toList ++ ·) ++
      ["--css".toList, renderer.styleSheet] ++ outputArguments paths.epub

/-- The run for the PDF. -/
def pdf (renderer : RendererSettings) (paths : RenderPaths) : Job where
  format := .pdf
  output := paths.pdf
  arguments :=
    commonArguments renderer paths ++
      ["--to".toList, "pdf".toList, "--pdf-engine".toList, renderer.pdfEngine,
        "--variable".toList, "linkcolor=[HTML]\x7b".toList ++ renderer.linkColor ++ ['\x7d'],
        "--template".toList, renderer.template] ++ outputArguments paths.pdf

/-- The run for the LaTeX source. -/
def latex (renderer : RendererSettings) (paths : RenderPaths) : Job :=
  let output := Path.withExtension paths.pdf "tex".toList
  { format := .latex
    output
    arguments :=
      commonArguments renderer paths ++ ["--to".toList, "latex".toList] ++
        outputArguments output }

/-- The runs of a mode, in order. -/
def all (renderer : RendererSettings) (paths : RenderPaths) : RenderMode → List Job
  | .publish => [epub renderer paths, pdf renderer paths]
  | .source => [latex renderer paths]

end Job

/-! ## Running jobs -/

/-- Why a job fails. -/
inductive RenderError where
  /-- The converter cannot be started. -/
  | start (commandLine : Text) (error : OsError)
  /-- The converter ends badly. -/
  | failed (commandLine : Text)
  deriving DecidableEq, Repr

/-- The words for it. -/
def RenderError.message : RenderError → Text
  | .start line error => "Failed to run ".toList ++ line ++ ": ".toList ++ error.message
  | .failed line => "pandoc command execution failure:\n".toList ++ line

/-- The command line of the run that failed. -/
def RenderError.line : RenderError → Text
  | .start line _ => line
  | .failed line => line

namespace Job

/-- The command line of a run. -/
def line (executable : Path) (job : Job) : Text := commandLine executable job.arguments

/-- The command of a run. -/
def command (executable : Path) (job : Job) : Command := ⟨executable, job.arguments, []⟩

/-- What an outcome means for a job. -/
def judge (executable : Path) (job : Job) : Outcome → Except RenderError Unit
  | .error e => .error (.start (job.line executable) e)
  | .ok exit => if exit.succeeded then .ok () else .error (.failed (job.line executable))

/-- Runs jobs one after the other, whatever comes of each; the jobs with their outcomes. -/
def runAll (files : Workspace) (executable : Path) : List Job → Script (List (Job × Outcome))
  | [] => .done []
  | job :: jobs =>
    .call files (job.command executable) fun outcome =>
      (runAll files executable jobs).map ((job, outcome) :: ·)

end Job

end Bindery
