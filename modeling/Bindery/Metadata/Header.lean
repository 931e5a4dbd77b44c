import Bindery.Metadata.Block

set_option autoImplicit false

/-! # The metadata header

The combined document opens with its metadata between two `---` lines: the title and the date of
the book, then the fields in their order. The title and the date always come from the book, so
fields of those names are left out. -/

namespace Bindery

/-- The line before and behind the metadata. -/
def headerDelimiter : Text := ['-', '-', '-']

/-- The keys that fields cannot set. -/
def reservedKeys : List Text := ["title".toList, "date".toList]

/-- The header of a combined document. -/
structure Header where
  title : Text
  date : Text
  fields : Mapping

namespace Header

/-- The key is one of those that the book itself sets. -/
def isReserved : Value → Bool
  | .text key => reservedKeys.contains key
  | _ => false

/-- The metadata: title and date, then the fields that are not reserved. -/
def metadata (header : Header) : Mapping :=
  Mapping.insertAll (header.fields.filter fun (key, _) => !isReserved key)
    [(.text "title".toList, .text header.title), (.text "date".toList, .text header.date)]

/-- The lines of the header. -/
def lines (header : Header) : List Text :=
  headerDelimiter :: Text.lines header.metadata.write ++ [headerDelimiter]

end Header

end Bindery
