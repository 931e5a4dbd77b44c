import Bindery.ConfigFile.Number
import Bindery.Metadata.Value

set_option autoImplicit false

/-! # The contents of a configuration file

A configuration file is a table of named values, some of which are tables themselves. Its
statements build the table one after the other: a pair gives a key a value, a header opens a
table, and an element header opens one more table of a list of tables. Each table remembers how
it came about, because that decides which statements may add to it. -/

namespace Bindery

namespace ConfigFile

/-- How a table came about. -/
inductive Origin where
  /-- A header opened it, or it is the whole file. -/
  | opened
  /-- A header opened a table below it. -/
  | implied
  /-- A key with dots in it leads through it. -/
  | dotted
  /-- It is written between braces. -/
  | braced
  deriving DecidableEq, Repr

/-- A value in a configuration file. -/
inductive Node where
  | text (value : Text)
  | int (value : Int)
  | float (value : Binary64)
  | bool (value : Bool)
  /-- A date or a time, in its one form. -/
  | moment (value : Text)
  /-- A list; `grows` if element headers add tables to it. -/
  | list (grows : Bool) (items : List Node)
  | table (origin : Origin) (entries : List (Text × Node))
  deriving Repr

/-- The entries of a table. -/
abbrev Entries := List (Text × Node)

/-- What a file says. Keys are given from the outermost on, the last one by itself. -/
inductive Statement where
  /-- A value for a key below the open table. -/
  | pair (path : List Text) (key : Text) (value : Node)
  /-- Opens a table. -/
  | header (path : List Text) (key : Text)
  /-- Opens a further table of a list. -/
  | element (path : List Text) (key : Text)
  deriving Repr

namespace Entries

/-- The value of a key. -/
def get? (key : Text) (entries : Entries) : Option Node :=
  (entries.find? (·.1 = key)).map (·.2)

/-- Changes the value of a key, or adds it at the end. -/
def alter (key : Text) (change : Option Node → Option Node) : Entries → Option Entries
  | [] => (change none).map fun node => [(key, node)]
  | (k, node) :: entries =>
    if k = key then (change (some node)).map fun node => (k, node) :: entries
    else (alter key change entries).map ((k, node) :: ·)

/-- Changes the entries of the table that a path leads to. Missing tables are made on the way; of
a list of tables the last one is entered. The keys of a pair (`dotted`) do not lead into tables
that a header opened, and no path leads into a table between braces. -/
def alterBelow (dotted : Bool) (change : Origin → Entries → Option Entries) :
    (path : List Text) → Origin → Entries → Option Entries
  | [], origin, entries => change origin entries
  | key :: path, _, entries =>
    entries.alter key fun
      | none =>
        let origin := if dotted then Origin.dotted else Origin.implied
        (alterBelow dotted change path origin []).map (.table origin)
      | some (.table origin inside) =>
        if origin = .braced ∨ (dotted = true ∧ origin = .opened) then none
        else (alterBelow dotted change path origin inside).map (.table origin)
      | some (.list true items) =>
        match items.getLast? with
        | some (.table origin inside) =>
          (alterBelow dotted change path origin inside).map fun inside =>
            .list true (items.dropLast ++ [.table origin inside])
        | _ => none
      | some _ => none

/-- Gives a key a value it does not have yet. A key with dots adds only to tables that such keys
made, and a key without dots only to others. -/
def addPair (path : List Text) (key : Text) (value : Node) (origin : Origin)
    (entries : Entries) : Option Entries :=
  alterBelow true
    (fun origin entries =>
      if (origin = .dotted) = (path = []) then none
      else
        entries.alter key fun
          | none => some value
          | some _ => none)
    path origin entries

/-- Opens a table: a new one, or one that headers of tables below it have implied. -/
def openTable (path : List Text) (key : Text) (entries : Entries) : Option Entries :=
  alterBelow false
    (fun _ entries =>
      entries.alter key fun
        | none => some (.table .opened [])
        | some (.table .implied inside) => some (.table .opened inside)
        | some _ => none)
    path .opened entries

/-- Opens a further table of a list, or the first of a new list. -/
def openElement (path : List Text) (key : Text) (entries : Entries) : Option Entries :=
  alterBelow false
    (fun _ entries =>
      entries.alter key fun
        | none => some (.list true [.table .opened []])
        | some (.list true items) => some (.list true (items ++ [.table .opened []]))
        | some _ => none)
    path .opened entries

/-- What statements add to the entries of a file in which the table at a place is open. -/
def addStatements (place : List Text) (entries : Entries) : List Statement → Option Entries
  | [] => some entries
  | .pair path key value :: statements =>
    (alterBelow false (addPair path key value) place .opened entries).bind fun entries =>
      addStatements place entries statements
  | .header path key :: statements =>
    (openTable path key entries).bind fun entries =>
      addStatements (path ++ [key]) entries statements
  | .element path key :: statements =>
    (openElement path key entries).bind fun entries =>
      addStatements (path ++ [key]) entries statements

/-- The entries between braces. -/
def ofPairs : List (List Text × Text × Node) → Option Entries :=
  List.foldlM (fun entries (path, key, value) => addPair path key value .braced entries) []

end Entries

/-! ## As metadata -/

/-- The key of a date or time that stands as metadata. -/
def momentKey : Text := "$__toml_private_datetime".toList

namespace Node

mutual

/-- A value as metadata: tables are sorted by key, and integers have to fit into 64 bits. -/
def toValue? : Node → Option Value
  | .text value => some (.text value)
  | .int value => if hasBits 64 value then some (.int value) else none
  | .float value => some (.float value)
  | .bool value => some (.bool value)
  | .moment value => some (.map [(.text momentKey, .text value)])
  | .list _ items => (toValues? items).map .list
  | .table _ entries =>
    (toEntries? entries).map fun entries =>
      .map ((entries.mergeSort fun a b => Text.le a.1 b.1).map fun (key, value) =>
        (.text key, value))

/-- The items of a list as metadata. -/
def toValues? : List Node → Option (List Value)
  | [] => some []
  | node :: nodes => (toValue? node).bind fun value => (toValues? nodes).map (value :: ·)

/-- The entries of a table as metadata, in their order. -/
def toEntries? : List (Text × Node) → Option (List (Text × Value))
  | [] => some []
  | (key, node) :: nodes =>
    (toValue? node).bind fun value => (toEntries? nodes).map ((key, value) :: ·)

end

end Node

end ConfigFile

end Bindery
