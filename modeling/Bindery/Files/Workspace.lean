import Bindery.Files.Tree

set_option autoImplicit false

/-! # Files as the program sees them

A workspace is a directory tree together with the directory that relative paths start from.
Reading and writing go through `Workspace.walk`, which follows a path name by name, symbolic links
included, and finds an entry, a free place in an existing directory, or the reason why there is
neither. -/

namespace Bindery

/-! ## What can go wrong -/

/-- A refusal of the operating system. -/
inductive OsError where
  | noEntry
  | permissionDenied
  | alreadyExists
  | notDirectory
  | isDirectory
  | nameTooLong
  | tooManyLinks
  /-- A path holds the character NUL. -/
  | nulInPath
  /-- A command line holds the character NUL. -/
  | nulInCommand
  deriving DecidableEq, Repr

/-- The words for a refusal. -/
def OsError.message : OsError → Text
  | .noEntry => "No such file or directory (os error 2)".toList
  | .permissionDenied => "Permission denied (os error 13)".toList
  | .alreadyExists => "File exists (os error 17)".toList
  | .notDirectory => "Not a directory (os error 20)".toList
  | .isDirectory => "Is a directory (os error 21)".toList
  | .nameTooLong => "File name too long (os error 36)".toList
  | .tooManyLinks => "Too many levels of symbolic links (os error 40)".toList
  | .nulInPath => "file name contained an unexpected NUL byte".toList
  | .nulInCommand => "nul byte found in provided data".toList

/-- Why a file cannot be read as text. -/
inductive ReadError where
  | os (error : OsError)
  | notText
  deriving DecidableEq, Repr

/-- The words for it. -/
def ReadError.message : ReadError → Text
  | .os error => error.message
  | .notText => "stream did not contain valid UTF-8".toList

/-! ## Walking -/

/-- A directory tree and the directory that relative paths start from. -/
structure Workspace where
  /-- Everything below the root directory. -/
  root : Folder
  /-- The location of the working directory. -/
  here : Location
  deriving DecidableEq, Repr

namespace Workspace

/-- Where a path leads. -/
inductive Target where
  /-- To an entry. -/
  | found (place : Location) (entry : Entry)
  /-- To a name that is free in an existing directory. -/
  | free (place : Location)
  deriving DecidableEq, Repr

/-- The most bytes a name may have. -/
def nameLimit : Nat := 255

/-- The most bytes a path may have. -/
def pathLimit : Nat := 4095

/-- How many symbolic links one walk follows. -/
def linkLimit : Nat := 40

/-- The names of a path in order. Empty pieces fall away. -/
def names (p : Path) : List Text := (Path.pieces p).filter (· ≠ [])

/-- A path with a slash at its end leads to a directory or nowhere. -/
def asksFolder (p : Path) : Bool := p.getLast? == some '/'

/-- The walk stands at `place`, a directory, and has `names` before it. A symbolic link is replaced
by its target, at most `links` times; one at the end only if `follow` is set. -/
def walk (root : Folder) (follow : Bool) (links : Nat) (place : Location) :
    List Text → Except OsError Target
  | [] =>
    match root.at? place with
    | some entry => .ok (.found place entry)
    | none => .error .noEntry
  | name :: names =>
    if name = ['.'] then walk root follow links place names
    else if name = ['.', '.'] then walk root follow links place.dropLast names
    else if nameLimit < Text.byteLength name then .error .nameTooLong
    else
      match root.at? (place ++ [name]) with
      | none => if names = [] then .ok (.free (place ++ [name])) else .error .noEntry
      | some (.file content) =>
        if names = [] then .ok (.found (place ++ [name]) (.file content))
        else .error .notDirectory
      | some (.folder _ _) => walk root follow links (place ++ [name]) names
      | some (.link target) =>
        if names = [] ∧ ¬ follow then .ok (.found (place ++ [name]) (.link target))
        else
          match links with
          | 0 => .error .tooManyLinks
          | links + 1 =>
            if target = [] then .error .noEntry
            else
              walk root follow links (if target.isAbsolute then [] else place)
                (Workspace.names target ++ names)
  termination_by names => (links, names.length)

/-- Where the names of a path lead. -/
def resolveNames (w : Workspace) (follow : Bool) (p : Path) (names : List Text) :
    Except OsError Target :=
  if '\x00' ∈ p then .error .nulInPath
  else if p = [] then .error .noEntry
  else if pathLimit < Text.byteLength p then .error .nameTooLong
  else walk w.root follow linkLimit (if p.isAbsolute then [] else w.here) names

/-- Where a path leads. A slash at its end counts as a final `.`, which only a directory has. -/
def resolve (w : Workspace) (p : Path) : Except OsError Target :=
  w.resolveNames true p (names p ++ if asksFolder p then [['.']] else [])

/-! ## Reading -/

/-- The entry a path leads to, links followed. -/
def entry (w : Workspace) (p : Path) : Except OsError Entry :=
  match w.resolve p with
  | .ok (.found _ e) => .ok e
  | .ok (.free _) => .error .noEntry
  | .error e => .error e

/-- The path leads to something. -/
def exists? (w : Workspace) (p : Path) : Bool := (w.entry p).isOk

/-- The path leads to a directory. -/
def isFolder (w : Workspace) (p : Path) : Bool :=
  match w.entry p with
  | .ok (.folder _ _) => true
  | _ => false

/-- The bytes of the file that a path leads to. -/
def read (w : Workspace) (p : Path) : Except OsError Bytes :=
  match w.entry p with
  | .ok (.file content) => .ok content
  | .ok (.folder _ _) => .error .isDirectory
  | .ok (.link _) => .error .noEntry
  | .error e => .error e

/-- The text of the file that a path leads to. -/
def readText (w : Workspace) (p : Path) : Except ReadError Text :=
  match w.read p with
  | .error e => .error (.os e)
  | .ok content =>
    match Utf8.decode? content with
    | some text => .ok text
    | none => .error .notText

/-- The entries of the directory that a path leads to. -/
def list (w : Workspace) (p : Path) : Except OsError Folder :=
  match w.entry p with
  | .ok (.folder true inside) => .ok inside
  | .ok (.folder false _) => .error .permissionDenied
  | .ok _ => .error .notDirectory
  | .error e => .error e

/-! ## Writing -/

/-- Puts an entry at a location. -/
def put (w : Workspace) (place : Location) (e : Entry) : Workspace :=
  { w with root := w.root.putAt place e }

/-- Makes one directory. It fails where anything stands already, a link that leads nowhere
included. -/
def makeFolder (w : Workspace) (p : Path) : Except OsError Unit × Workspace :=
  match w.resolveNames false p (names p) with
  | .ok (.free place) => (.ok (), w.put place (.folder true .empty))
  | .ok (.found _ _) => (.error .alreadyExists, w)
  | .error e => (.error e, w)

/-- Makes the first of the given directories, for which each next one is the parent of the one
before it, and those of its parents that are missing. -/
def makeFolders (w : Workspace) : List Path → Except OsError Unit × Workspace
  | [] => (.ok (), w)
  | p :: parents =>
    match w.makeFolder p with
    | (.ok (), w') => (.ok (), w')
    | (.error .noEntry, _) =>
      match w.makeFolders parents with
      | (.error e, w') => (.error e, w')
      | (.ok (), w') =>
        match w'.makeFolder p with
        | (.error .alreadyExists, _) =>
          (if w'.isFolder p then .ok () else .error .alreadyExists, w')
        | made => made
    | (.error .alreadyExists, _) =>
      (if w.isFolder p then .ok () else .error .alreadyExists, w)
    | (.error e, _) => (.error e, w)

/-- Gives the file at a path the given bytes and makes the file if there is none. -/
def write (w : Workspace) (p : Path) (content : Bytes) : Except OsError Unit × Workspace :=
  match w.resolveNames true p (names p) with
  | .error e => (.error e, w)
  | .ok (.found _ (.folder _ _)) => (.error .isDirectory, w)
  | .ok (.found place _) | .ok (.free place) =>
    if asksFolder p then (.error .isDirectory, w) else (.ok (), w.put place (.file content))

/-- Gives the file at a path the given bytes, after making the directories above it. -/
def writeBelow (w : Workspace) (p : Path) (content : Bytes) : Except OsError Unit × Workspace :=
  match w.makeFolders (Path.parents p) with
  | (.error e, w') => (.error e, w')
  | (.ok (), w') => w'.write p content

end Workspace

end Bindery
