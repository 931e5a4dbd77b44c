import Bindery.Unicode.Word
import Bindery.Text.Basic

set_option autoImplicit false

/-! # Inclusion directives

A list item of the root document that consists of a cross-reference in backticks stands for a
whole chapter. -/

namespace Bindery

/-- What stands before the identifier of a directive, behind the list marker and white space. -/
def directiveMarker : Text := ['\x60', '<', 'd', 'o', 'c', ':']

/-- The identifier of the chapter that a line asks to include: the line is a list item that starts
with a reference in backticks, and is a single line. -/
def directive? (line : Text) : Option Text :=
  match Text.after? ['-'] line with
  | none => none
  | some rest =>
    match Text.after? directiveMarker (Text.trimStart rest) with
    | none => none
    | some target =>
      match target.takeWhile isWord, target.dropWhile isWord with
      | c :: identifier, '>' :: '\x60' :: behind =>
        if '\n' ∈ behind then none else some (c :: identifier)
      | _, _ => none

end Bindery
