import Bindery.Text.Basic

set_option autoImplicit false

/-! # Titles

The title of a document is its first top-level heading. -/

namespace Bindery

/-- What a top-level heading line starts with. -/
def topLevelMarker : Text := ['#', ' ']

/-- The title of a document: the trimmed text of the first line that starts with one `#` and a
space. -/
def titleOf (text : Text) : Option Text :=
  (Text.lines text).findSome? fun line => (Text.after? topLevelMarker line).map Text.trim

end Bindery
