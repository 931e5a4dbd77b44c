import Bindery.Files.Path

set_option autoImplicit false

/-! # Directory trees

A folder is a list of named entries in the order in which the directory lists them. Entries are
files, symbolic links and folders. A folder that is not listable can be walked through but does
not tell its entries.

`Folder.find?` and `Folder.put` are the view of one folder, and `Folder.find?_put` says how the one
sees the other; `Folder.at?` and `Folder.putAt` are the view of a whole tree along a location. -/

namespace Bindery

/-- The entries of a directory, in listing order. -/
inductive Folder where
  /-- No entry. -/
  | empty
  /-- A file with its bytes, then further entries. -/
  | file (name : Text) (content : Bytes) (rest : Folder)
  /-- A symbolic link with its target, then further entries. -/
  | link (name : Text) (target : Path) (rest : Folder)
  /-- A directory with what is inside, then further entries. -/
  | folder (name : Text) (listable : Bool) (inside rest : Folder)
  deriving DecidableEq, Repr

/-- What stands under one name. -/
inductive Entry where
  /-- A file with its bytes. -/
  | file (content : Bytes)
  /-- A symbolic link with its target. -/
  | link (target : Path)
  /-- A directory with its entries. -/
  | folder (listable : Bool) (inside : Folder)
  deriving DecidableEq, Repr

/-- The names that lead from the root directory to an entry, outermost first. -/
abbrev Location := List Text

namespace Folder

/-- A folder with one more entry in front. -/
def cons (name : Text) (entry : Entry) (rest : Folder) : Folder :=
  match entry with
  | .file content => .file name content rest
  | .link target => .link name target rest
  | .folder listable inside => .folder name listable inside rest

/-- The entries with their names, in listing order. -/
def toList : Folder → List (Text × Entry)
  | .empty => []
  | .file name content rest => (name, .file content) :: toList rest
  | .link name target rest => (name, .link target) :: toList rest
  | .folder name listable inside rest => (name, .folder listable inside) :: toList rest

@[simp]
theorem toList_cons (name : Text) (entry : Entry) (rest : Folder) :
    (cons name entry rest).toList = (name, entry) :: rest.toList := by
  cases entry <;> rfl

/-- The entry under a name. -/
def find? (name : Text) : Folder → Option Entry
  | .empty => none
  | .file n content rest => if n = name then some (.file content) else find? name rest
  | .link n target rest => if n = name then some (.link target) else find? name rest
  | .folder n listable inside rest =>
    if n = name then some (.folder listable inside) else find? name rest

theorem find?_cons (n name : Text) (entry : Entry) (rest : Folder) :
    (cons n entry rest).find? name = if n = name then some entry else rest.find? name := by
  cases entry <;> rfl

/-- Puts an entry under a name, in the place of what was there, else at the end. -/
def put (name : Text) (entry : Entry) : Folder → Folder
  | .empty => cons name entry .empty
  | .file n content rest =>
    if n = name then cons name entry rest else .file n content (put name entry rest)
  | .link n target rest =>
    if n = name then cons name entry rest else .link n target (put name entry rest)
  | .folder n listable inside rest =>
    if n = name then cons name entry rest else .folder n listable inside (put name entry rest)

/-- What is put is found, and nothing else changes. -/
theorem find?_put (name other : Text) (entry : Entry) (folder : Folder) :
    (folder.put name entry).find? other =
      if name = other then some entry else folder.find? other := by
  induction folder with
  | empty => exact find?_cons name other entry .empty
  | file n content rest ih
  | link n content rest ih =>
    by_cases h : n = name
    · subst h
      by_cases ho : n = other <;> simp [put, find?, find?_cons, ho]
    · by_cases ho : n = other
      · subst ho
        simp [put, find?, h, Ne.symm h]
      · simp [put, find?, h, ho, ih]
  | folder n listable inside rest _ ih =>
    by_cases h : n = name
    · subst h
      by_cases ho : n = other <;> simp [put, find?, find?_cons, ho]
    · by_cases ho : n = other
      · subst ho
        simp [put, find?, h, Ne.symm h]
      · simp [put, find?, h, ho, ih]

/-! ## Along a location -/

/-- The entry at a location below the folder. Links are not followed. -/
def at? : Location → Folder → Option Entry
  | [], root => some (.folder true root)
  | [name], root => root.find? name
  | name :: next :: place, root =>
    match root.find? name with
    | some (.folder _ inside) => at? (next :: place) inside
    | _ => none

/-- Puts an entry at a location whose parent exists; a tree without that parent stays. -/
def putAt : Location → Entry → Folder → Folder
  | [], _, root => root
  | [name], entry, root => root.put name entry
  | name :: next :: place, entry, root =>
    match root.find? name with
    | some (.folder listable inside) =>
      root.put name (.folder listable (putAt (next :: place) entry inside))
    | _ => root

/-- Puts an entry at a location and makes the directories that are missing on the way. -/
def plant : Location → Entry → Folder → Folder
  | [], _, root => root
  | [name], entry, root => root.put name entry
  | name :: next :: place, entry, root =>
    match root.find? name with
    | some (.folder listable inside) =>
      root.put name (.folder listable (plant (next :: place) entry inside))
    | _ => root.put name (.folder true (plant (next :: place) entry .empty))

end Folder

end Bindery
