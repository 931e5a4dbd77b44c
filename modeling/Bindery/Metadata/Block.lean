import Bindery.Metadata.Value
import Bindery.Metadata.Scalar

set_option autoImplicit false

/-! # Metadata blocks

A mapping is written as one `key: value` line after the other. What is inside a value is indented
by two more columns, except that a list under a key starts at the column of the key. A key that
does not fit on a line by itself is written behind `?`. -/

namespace Bindery

namespace Value

/-- The most bytes that a key on the line of its value may have. -/
def simpleKeyLimit : Nat := 128

/-- The text of a value that is written the same wherever it stands: a scalar that is no text, or
an empty collection. -/
def literalText : Value → Text
  | .null => "null".toList
  | .bool true => "true".toList
  | .bool false => "false".toList
  | .int value => Text.ofInt value
  | .float value => value.toText
  | .list _ => "[]".toList
  | .map _ => "\x7b\x7d".toList
  | .text content => content

/-- A value as a key on the line of its value, if it fits there: a scalar of one line that is not
too long, or an empty collection. -/
def simpleKey? (width : Nat) : Value → Option Text
  | .text content =>
    if content.any isBreak || simpleKeyLimit < Text.byteLength content then none
    else some (writeScalar width content)
  | .list (_ :: _) => none
  | .map (_ :: _) => none
  | value => some (literalText value)

mutual

/-- A value behind `-`, `?` or the colon of a long key, which stand at column `width`. -/
def writeInline (width : Nat) : Value → Text
  | .text content => ' ' :: writeScalar (width + 2) content ++ scalarEnd content
  | .list (value :: values) =>
    ' ' :: '-' :: writeInline (width + 2) value ++ writeItems (width + 2) values
  | .map (entry :: entries) =>
    ' ' :: writeEntry (width + 2) entry ++ writeEntries (width + 2) entries
  | value => ' ' :: literalText value ++ ['\n']

/-- A value behind the colon of a key that starts at column `width`. -/
def writeUnderKey (width : Nat) : Value → Text
  | .text content => ' ' :: writeScalar (width + 2) content ++ scalarEnd content
  | .list (value :: values) =>
    '\n' :: indentation width ++ '-' :: writeInline width value ++ writeItems width values
  | .map (entry :: entries) =>
    '\n' :: indentation (width + 2) ++ writeEntry (width + 2) entry ++
      writeEntries (width + 2) entries
  | value => ' ' :: literalText value ++ ['\n']

/-- An entry whose key starts at the column `width`, where the line already is. -/
def writeEntry (width : Nat) : Value × Value → Text
  | (key, value) =>
    match simpleKey? (width + 2) key with
    | some written => written ++ ':' :: writeUnderKey width value
    | none =>
      '?' :: writeInline width key ++ indentation width ++ ':' :: writeInline width value

/-- Items of a list at column `width`, each on a line of its own. -/
def writeItems (width : Nat) : List Value → Text
  | [] => []
  | value :: values =>
    indentation width ++ '-' :: writeInline width value ++ writeItems width values

/-- Entries of a mapping at column `width`, each on a line of its own. -/
def writeEntries (width : Nat) : List (Value × Value) → Text
  | [] => []
  | entry :: entries =>
    indentation width ++ writeEntry width entry ++ writeEntries width entries

end

end Value

/-- The text of a mapping that stands by itself. -/
def Mapping.write (mapping : Mapping) : Text :=
  match mapping with
  | [] => "\x7b\x7d\n".toList
  | entries => Value.writeEntries 0 entries

end Bindery
