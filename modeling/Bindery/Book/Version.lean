import Bindery.Process.Command

set_option autoImplicit false

/-! # The version of a book

A combined document is dated with the version of the working copy it is made from: the tag at the
current commit, or else the current branch, and the date of that. The revision control program
`git` is asked for both. -/

namespace Bindery

/-- A version of a working copy. -/
structure Version where
  /-- A tag or a branch. -/
  reference : Text
  date : Text
  deriving DecidableEq, Repr

/-- Why there is no version. -/
inductive VersionError where
  /-- Nothing is known about the working copy. -/
  | unavailable (folder : Path)
  /-- The program cannot be started with the arguments. -/
  | command (executable : Path) (arguments : List Text) (error : OsError)
  deriving DecidableEq, Repr

/-- The words for it. -/
def VersionError.message : VersionError → Text
  | .unavailable folder => "No tag or branch found for ".toList ++ folder
  | .command executable arguments error =>
    executable ++ ' ' :: Text.join [' '] arguments ++ " failed: ".toList ++ error.message

/-- Where versions come from. -/
structure VersionSource where
  /-- The reference that a working copy is at. -/
  reference : Path → Script (Except VersionError Text)
  /-- The date of a reference. -/
  date : Path → Text → Script (Except VersionError Text)

/-- The version of a working copy: its reference, then the date of that. -/
def VersionSource.version (source : VersionSource) (folder : Path) :
    Script (Except VersionError Version) :=
  (source.reference folder).andThen fun reference =>
    (source.date folder reference).map fun date =>
      date.map fun date => ⟨reference, date⟩

/-- A version that is known beforehand, or parts of one. -/
def VersionSource.known (reference date : Option Text) : VersionSource where
  reference folder := .done ((reference.map .ok).getD (.error (.unavailable folder)))
  date folder _ := .done ((date.map .ok).getD (.error (.unavailable folder)))

/-! ## Asking the revision control program -/

namespace Git

/-- The answer in an output: what the program wrote, trimmed, or nothing if it ended badly. -/
def answer (exit : Exit) : Text :=
  if exit.succeeded then Text.trim (Utf8.decodeLossy exit.output) else []

/-- Asks about the working copy in a directory. -/
def ask (files : Workspace) (executable folder : Path) (arguments : List Text) :
    Script (Except VersionError Text) :=
  .call files ⟨executable, "-C".toList :: folder :: arguments, []⟩ fun outcome =>
    .done <|
      match outcome with
      | .error e => .error (.command executable arguments e)
      | .ok exit => .ok (answer exit)

/-- Asks for the tags at the current commit. -/
def tagsRequest : List Text := ["tag".toList, "--points-at".toList, "HEAD".toList]

/-- Asks for the current branch. -/
def branchRequest : List Text := ["symbolic-ref".toList, "--short".toList, "HEAD".toList]

/-- Asks for the date of a tag that has one of its own. -/
def tagDateRequest (reference : Text) : List Text :=
  ["for-each-ref".toList, "--format".toList, "%(taggerdate:short)".toList,
    "refs/tags/".toList ++ reference]

/-- Asks for the date of the commit that a reference names. -/
def commitDateRequest (reference : Text) : List Text :=
  ["show".toList, "--no-patch".toList, "--pretty=format:%cs".toList, reference]

/-- The first tag at the current commit, else the current branch. -/
def reference (files : Workspace) (executable folder : Path) :
    Script (Except VersionError Text) :=
  (ask files executable folder tagsRequest).andThen fun tags =>
    match Text.lines tags with
    | (c :: tag) :: _ => .done (.ok (c :: tag))
    | _ =>
      (ask files executable folder branchRequest).andThen fun branch =>
        .done (if branch = [] then .error (.unavailable folder) else .ok branch)

/-- The date of a tag, else of the commit that the reference names. -/
def date (files : Workspace) (executable folder : Path) (reference : Text) :
    Script (Except VersionError Text) :=
  (ask files executable folder (tagDateRequest reference)).andThen fun tagDate =>
    if tagDate ≠ [] then .done (.ok tagDate)
    else
      (ask files executable folder (commitDateRequest reference)).andThen fun commitDate =>
        .done (if commitDate = [] then .error (.unavailable folder) else .ok commitDate)

/-- Versions as the revision control program knows them. -/
def source (files : Workspace) (executable : Path) : VersionSource where
  reference := reference files executable
  date := date files executable

/-- The name of the program. -/
def defaultExecutable : Path := "git".toList

end Git

end Bindery
