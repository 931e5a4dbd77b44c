import Bindery.CommandLine.Run

set_option autoImplicit false

/-! # Snapshots

The command works on files, variables and programs that are told to it line by line. The fields
of a line are separated by tabs; in a field, `\n` stands for a line feed, `\t` for a tab and `\\`
for a backslash.

* `folder`, a path: a directory.
* `file`, a path and a text: a file with that text.
* `bytes`, a path and hexadecimal digits: a file with those bytes.
* `link`, a path and a target: a symbolic link.
* `variable`, a name and a value: an environment variable.

The files that the command writes are told in such lines, too. What comes of a program is told by
one line as well: `exit`, a code, what was written to standard output and to standard error, where
`signal` takes the place of `exit` for a program that was stopped; or `missing` for one that
cannot be found. -/

namespace Bindery

namespace CommandLine

/-- The files and variables that the command finds. -/
structure Snapshot where
  root : Folder
  environment : Environment
  deriving DecidableEq, Repr

namespace Snapshot

/-- No file and no variable. -/
def empty : Snapshot := ⟨.empty, []⟩

/-- The files, seen from the root directory. -/
def files (snapshot : Snapshot) : Workspace := ⟨snapshot.root, []⟩

/-- The fields of a line, with their escapes. -/
def rawFields : Text → List Text
  | [] => [[]]
  | c :: line =>
    if c = '\t' then [] :: rawFields line
    else
      match rawFields line with
      | [] => [[c]]
      | field :: fields => (c :: field) :: fields

/-- A field without its escapes. -/
def plainField : Text → Text
  | '\\' :: 'n' :: field => '\n' :: plainField field
  | '\\' :: 't' :: field => '\t' :: plainField field
  | '\\' :: '\\' :: field => '\\' :: plainField field
  | c :: field => c :: plainField field
  | [] => []

/-- The fields of a line. -/
def fields (line : Text) : List Text := (rawFields line).map plainField

/-- The bytes that pairs of hexadecimal digits stand for. -/
def bytes? : Text → Option Bytes
  | [] => some []
  | high :: low :: rest => do
    let high ← ConfigFile.hexValue? high
    let low ← ConfigFile.hexValue? low
    (bytes? rest).map ((high * 16 + low).toUInt8 :: ·)
  | [_] => none

/-- The number that decimal digits write. -/
def number? (digits : Text) : Option Nat :=
  if digits ≠ [] ∧ digits.all isAsciiDigit = true then some (Binary64.digitsValue digits)
  else none

/-- Puts an entry at a path below the root directory. -/
def place (path : Path) (entry : Entry) (snapshot : Snapshot) : Snapshot :=
  { snapshot with root := snapshot.root.plant (Workspace.names path) entry }

/-- What a line adds, if it is one of a snapshot. -/
def add (snapshot : Snapshot) (line : Text) : Option Snapshot :=
  match fields line with
  | [kind, path] =>
    if kind = "folder".toList then some (snapshot.place path (.folder true .empty)) else none
  | [kind, name, content] =>
    if kind = "file".toList then some (snapshot.place name (.file (Utf8.encode content)))
    else if kind = "bytes".toList then
      (bytes? content).map fun content => snapshot.place name (.file content)
    else if kind = "link".toList then some (snapshot.place name (.link content))
    else if kind = "variable".toList then
      some { snapshot with environment := (name, content) :: snapshot.environment }
    else none
  | _ => none

/-- The snapshot that lines tell, if each is one of a snapshot. -/
def ofLines (lines : List Text) : Option Snapshot := lines.foldlM add empty

/-! ## Telling what changed -/

/-- A field with its escapes. -/
def escapedField (field : Text) : Text :=
  field.flatMap fun c =>
    if c = '\n' then ['\\', 'n']
    else if c = '\t' then ['\\', 't']
    else if c = '\\' then ['\\', '\\']
    else [c]

/-- The line with the given fields. -/
def line (fields : List Text) : Text := Text.join ['\t'] (fields.map escapedField)

/-- The hexadecimal digits of bytes. -/
def hexText (content : Bytes) : Text :=
  content.flatMap fun byte => [Nat.digitChar (byte.toNat / 16), Nat.digitChar (byte.toNat % 16)]

/-- The line that tells a file. -/
def fileLine (path : Path) (content : Bytes) : Text :=
  match Utf8.decode? content with
  | some text => line ["file".toList, path, text]
  | none => line ["bytes".toList, path, hexText content]

/-- The lines that tell a folder at a path. -/
def linesBelow (path : Path) : Folder → List Text
  | .empty => []
  | .file name content rest => fileLine (Path.join path name) content :: linesBelow path rest
  | .link name target rest =>
    line ["link".toList, Path.join path name, target] :: linesBelow path rest
  | .folder name _ inside rest =>
    line ["folder".toList, Path.join path name] ::
      (linesBelow (Path.join path name) inside ++ linesBelow path rest)

/-- The lines that tell what is new in files. -/
def changes (old new : Workspace) : List Text :=
  let known := linesBelow [] old.root
  (linesBelow [] new.root).filter fun told => !known.contains told

end Snapshot

/-- What came of a program, as a line tells it. -/
def outcome? (line : Text) : Option Outcome :=
  match Snapshot.fields line with
  | [kind] => if kind = "missing".toList then some (.error .noEntry) else none
  | [kind, number, output, errors] => do
    let number ← Snapshot.number? number
    let status ←
      if kind = "exit".toList then some (Status.code number)
      else if kind = "signal".toList then some (Status.signal number)
      else none
    some (.ok ⟨status, Utf8.encode output, Utf8.encode errors⟩)
  | _ => none

end CommandLine

end Bindery
