import Bindery.Text.Basic

set_option autoImplicit false

/-! # Heading levels of chapters

Chapters stand below the groups that the root document makes of them, so every heading of a
chapter goes one level down. -/

namespace Bindery

/-- A heading: one or more `#`, a space, and more. -/
def isHeading (line : Text) : Bool :=
  line.head? == some '#' &&
    match line.dropWhile (· = '#') with
    | ' ' :: _ :: _ => true
    | _ => false

/-- Pushes a heading one level down; any other line stays. -/
def pushHeading (line : Text) : Text :=
  if isHeading line then '#' :: line else line

end Bindery
