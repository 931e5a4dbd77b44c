import Bindery.Files.Workspace
import Bindery.Index.Title

set_option autoImplicit false

/-! # The index of documents

Directives and cross-references name a document by its identifier, the stem of its file name. The
index tells for each identifier where the document is and what its title is. Identifiers are
unique in it: a record replaces an earlier one with its identifier. -/

namespace Bindery

/-- A document that can be referred to. -/
structure Record where
  /-- The stem of the file name. -/
  identifier : Text
  /-- Where the document is. -/
  path : Path
  /-- The title, if the document has one. -/
  title : Option Text
  deriving DecidableEq, Repr

/-- Why a document cannot be referred to. -/
inductive IndexError where
  /-- No document has the identifier. -/
  | unresolved (identifier : Text)
  /-- The document with the identifier has no title. -/
  | untitled (identifier : Text)
  /-- A document that was found cannot be read. -/
  | unreadable (path : Path) (reason : ReadError)
  deriving DecidableEq, Repr

/-- The words for it. -/
def IndexError.message : IndexError → Text
  | .unresolved identifier =>
    "Unresolved reference: no document named '".toList ++ identifier ++ "'".toList
  | .untitled identifier =>
    "Document '".toList ++ identifier ++
      "' has no top-level heading to use as its title".toList
  | .unreadable path reason =>
    "Failed to read ".toList ++ path ++ ": ".toList ++ reason.message

/-- The known documents. -/
structure Index where
  /-- One record for each identifier. -/
  records : List Record
  deriving DecidableEq, Repr

namespace Index

/-- An index without documents. -/
def empty : Index := ⟨[]⟩

/-- Adds a record in the place of one with the same identifier. -/
def insert (index : Index) (record : Record) : Index :=
  ⟨index.records.filter (fun r => r.identifier ≠ record.identifier) ++ [record]⟩

/-- The index of the given records; of several with one identifier the last counts. -/
def ofRecords (records : List Record) : Index := records.foldl insert empty

/-- How many documents are known. -/
def size (index : Index) : Nat := index.records.length

/-- The record of an identifier. -/
def get? (index : Index) (identifier : Text) : Option Record :=
  index.records.find? fun r => r.identifier = identifier

/-- What is inserted is found, and nothing else changes. -/
theorem get?_insert (index : Index) (record : Record) (identifier : Text) :
    (index.insert record).get? identifier =
      if record.identifier = identifier then some record else index.get? identifier := by
  simp only [get?, insert, List.find?_append, List.find?_filter]
  by_cases h : record.identifier = identifier
  · have none_left : index.records.find? (fun _ => false) = none :=
      List.find?_eq_none.2 fun _ _ => Bool.false_ne_true
    simp [h, none_left]
  · have hp : (fun r : Record =>
        decide (r.identifier ≠ record.identifier) && decide (r.identifier = identifier)) =
        fun r => decide (r.identifier = identifier) := by
      funext r
      by_cases hr : r.identifier = identifier
      · simp [hr, Ne.symm h]
      · simp [hr]
    simp_all

/-- The record of an identifier that has to be known. -/
def resolve (index : Index) (identifier : Text) : Except IndexError Record :=
  match index.get? identifier with
  | some record => .ok record
  | none => .error (.unresolved identifier)

/-- The title of a document that has to be known and to have one. -/
def titleFor (index : Index) (identifier : Text) : Except IndexError Text :=
  match index.resolve identifier with
  | .error e => .error e
  | .ok record =>
    match record.title with
    | some title => .ok title
    | none => .error (.untitled record.identifier)

end Index

end Bindery
