import Bindery.Process.Command

set_option autoImplicit false

/-! # Installed programs

A program that is named without a slash is searched for in the directories of the search path; one
with a slash is the file at that path. Only an installed program can be run: any other file, and a
directory, is refused. -/

namespace Bindery

/-- The programs of a system. -/
structure Programs where
  /-- The directories that are searched. -/
  searchPath : List Path
  /-- Where programs are and how each answers a command. -/
  installed : List (Location × (Command → Exit))

namespace Programs

/-- The program that a path leads to. -/
def at? (programs : Programs) (files : Workspace) (path : Path) :
    Except OsError (Location × (Command → Exit)) :=
  match files.resolve path with
  | .error e => .error e
  | .ok (.free _) => .error .noEntry
  | .ok (.found place _) =>
    match programs.installed.find? (·.1 = place) with
    | some program => .ok program
    | none => .error .permissionDenied

/-- The first of the directories with a program of the given name. A refused file is passed over
and remembered. -/
def search (programs : Programs) (files : Workspace) (name : Text) (refused : Bool) :
    List Path → Except OsError (Location × (Command → Exit))
  | [] => .error (if refused then .permissionDenied else .noEntry)
  | folder :: folders =>
    match programs.at? files (Path.join folder name) with
    | .error .noEntry => programs.search files name refused folders
    | .error .notDirectory => programs.search files name refused folders
    | .error .permissionDenied => programs.search files name true folders
    | found => found

/-- The program that a command asks for. -/
def locate (programs : Programs) (files : Workspace) (command : Command) :
    Except OsError (Location × (Command → Exit)) :=
  if '\x00' ∈ command.program ∨ command.arguments.any (·.contains '\x00') then
    .error .nulInCommand
  else if command.program = [] then .error .noEntry
  else if '/' ∈ command.program then programs.at? files command.program
  else programs.search files command.program false programs.searchPath

/-- What comes of a command. -/
def respond (programs : Programs) (files : Workspace) (command : Command) : Outcome :=
  (programs.locate files command).map fun (_, answer) => answer command

end Programs

end Bindery
