import Bindery.Settings.Load

set_option autoImplicit false

/-! # The arguments of the command

The command takes the directory of a book, options with values, and flags. An option may carry its
value behind `=`, in the next argument, or, after a single letter, directly. An argument that is
not understood, an option given twice, a value that is missing or empty where a path is needed,
and flags that exclude each other make the command refuse. -/

namespace Bindery

namespace CommandLine

/-- The options that take a value. -/
inductive ValueOption where
  | executable
  | pdf
  | epub
  | chapter
  | config
  deriving DecidableEq, Repr

/-- The options without a value. -/
inductive Flag where
  | source
  | combineOnly
  | verbose
  | help
  | version
  deriving DecidableEq, Repr

/-- What an option is. -/
inductive Kind where
  | value (option : ValueOption)
  | flag (flag : Flag)
  deriving DecidableEq, Repr

/-- The options by their names. -/
def longNames : List (String × Kind) :=
  [("pandoc-path", .value .executable), ("output-path-pdf", .value .pdf),
    ("output-path-epub", .value .epub), ("debug-latex", .flag .source),
    ("preprocess-markdown-only", .flag .combineOnly), ("chapter", .value .chapter),
    ("config", .value .config), ("verbose", .flag .verbose), ("help", .flag .help),
    ("version", .flag .version)]

/-- The option with a name. -/
def longOption? (name : Text) : Option Kind :=
  (longNames.find? (·.1.toList = name)).map (·.2)

/-- The option with a letter. -/
def shortOption? : Char → Option Kind
  | 'c' => some (.value .config)
  | 'v' => some (.flag .verbose)
  | 'h' => some (.flag .help)
  | 'V' => some (.flag .version)
  | _ => none

/-- What the arguments say. -/
structure Arguments where
  /-- The directory of the book. -/
  book : Option Path := none
  executable : Option Path := none
  pdf : Option Path := none
  epub : Option Path := none
  chapters : List Text := []
  config : Option Path := none
  /-- Render the LaTeX source in the place of the results. -/
  source : Bool := false
  /-- Render nothing. -/
  combineOnly : Bool := false
  verbose : Bool := false
  deriving DecidableEq, Repr

/-- Why the arguments ask for no book. -/
inductive Stop where
  | help
  | version
  | refused
  deriving DecidableEq, Repr

/-- A path that is given once and not empty. -/
def givenOnce (old : Option Path) (value : Path) : Except Stop (Option Path) :=
  if old.isSome ∨ value = [] then .error .refused else .ok (some value)

namespace Arguments

/-- Takes in the value of an option. -/
def setValue (given : Arguments) (value : Text) : ValueOption → Except Stop Arguments
  | .executable =>
    (givenOnce given.executable value).map fun executable => { given with executable }
  | .pdf => (givenOnce given.pdf value).map fun pdf => { given with pdf }
  | .epub => (givenOnce given.epub value).map fun epub => { given with epub }
  | .config => (givenOnce given.config value).map fun config => { given with config }
  | .chapter => .ok { given with chapters := given.chapters ++ [value] }

/-- Takes in a flag. -/
def setFlag (given : Arguments) : Flag → Except Stop Arguments
  | .source => if given.source then .error .refused else .ok { given with source := true }
  | .combineOnly =>
    if given.combineOnly then .error .refused else .ok { given with combineOnly := true }
  | .verbose => if given.verbose then .error .refused else .ok { given with verbose := true }
  | .help => .error .help
  | .version => .error .version

/-- Takes in an argument that belongs to no option. -/
def setBook (given : Arguments) (value : Text) : Except Stop Arguments :=
  (givenOnce given.book value).map fun book => { given with book }

/-- Takes in letters behind a dash: flags, up to an option that takes a value. The value is what
is left, without an `=` in front of it; if nothing is left, the option waits for its value. -/
def setLetters (given : Arguments) : Text → Except Stop (Arguments × Option ValueOption)
  | [] => .ok (given, none)
  | c :: rest =>
    match shortOption? c with
    | none => .error .refused
    | some (.flag flag) =>
      match given.setFlag flag with
      | .error stop => .error stop
      | .ok given => setLetters given rest
    | some (.value option) =>
      match rest with
      | [] => .ok (given, some option)
      | '=' :: value => (given.setValue value option).map (·, none)
      | value => (given.setValue value option).map (·, none)

/-- Takes in an option by its name, with what stands behind `=`. -/
def setLong (given : Arguments) (name : Text) (value : Option Text) :
    Except Stop (Arguments × Option ValueOption) :=
  match longOption? name, value with
  | some (.flag flag), none => (given.setFlag flag).map (·, none)
  | some (.value option), some value => (given.setValue value option).map (·, none)
  | some (.value option), none => .ok (given, some option)
  | _, _ => .error .refused

/-- Splits an argument at its first `=`. -/
def splitValue (argument : Text) : Text × Option Text :=
  match Text.cut? ['='] argument with
  | some (name, value) => (name, some value)
  | none => (argument, none)

/-- Takes in one argument; the option that waits for the next argument as its value, if one
does. -/
def set (given : Arguments) (argument : Text) : Except Stop (Arguments × Option ValueOption) :=
  match argument with
  | '-' :: '-' :: long =>
    let (name, value) := splitValue long
    given.setLong name value
  | '-' :: c :: letters => given.setLetters (c :: letters)
  | value => (given.setBook value).map (·, none)

/-- The argument cannot be the value of the option before it. -/
def looksLikeOption : Text → Bool
  | '-' :: _ :: _ => true
  | _ => false

/-- Takes in all arguments. Those behind `--` belong to no option. -/
def setAll (given : Arguments) (waiting : Option ValueOption) : List Text → Except Stop Arguments
  | [] => if waiting.isSome then .error .refused else .ok given
  | argument :: rest =>
    match waiting with
    | some option =>
      if looksLikeOption argument then .error .refused
      else
        match given.setValue argument option with
        | .error stop => .error stop
        | .ok given => setAll given none rest
    | none =>
      if argument = ['-', '-'] then rest.foldlM setBook given
      else
        match given.set argument with
        | .error stop => .error stop
        | .ok (given, waiting) => setAll given waiting rest

end Arguments

/-- The variable that gives the executable where no option does. -/
def executableVariable : Text := "DOCBIND_PANDOC".toList

/-- A request to make a book. -/
structure Request where
  book : Path
  config : Option Path
  overrides : Overrides
  source : Bool
  combineOnly : Bool
  deriving DecidableEq, Repr

/-- The arguments with the executable from the environment, where they give none. -/
def Arguments.withEnvironment (given : Arguments) (environment : Environment) :
    Except Stop Arguments :=
  match given.executable, environment.get? executableVariable with
  | none, some value => (givenOnce none value).map fun executable => { given with executable }
  | _, _ => .ok given

/-- A path whose leading `~` is replaced by the home directory. -/
def expandHome (environment : Environment) (path : Path) : Path :=
  let expanded (rest : Text) : Path :=
    match environment.get? "HOME".toList with
    | some (c :: home) => c :: home ++ rest
    | _ => path
  match path with
  | ['~'] => expanded []
  | '~' :: '/' :: rest => expanded ('/' :: rest)
  | _ => path

/-- The request that the arguments make. -/
def parse (environment : Environment) (arguments : List Text) : Except Stop Request :=
  match (Arguments.setAll {} none arguments).bind (·.withEnvironment environment) with
  | .error stop => .error stop
  | .ok given =>
    match given.book with
    | none => .error .refused
    | some book =>
      if given.source ∧ given.combineOnly then .error .refused
      else
        .ok
          { book := expandHome environment book
            config := given.config
            overrides :=
              { executable := given.executable.map (expandHome environment)
                pdf := given.pdf.map (expandHome environment)
                epub := given.epub.map (expandHome environment)
                chapters := if given.chapters = [] then none else some given.chapters }
            source := given.source
            combineOnly := given.combineOnly }

end CommandLine

end Bindery
