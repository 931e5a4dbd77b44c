import Bindery.Text.Basic

set_option autoImplicit false

/-! # Optionality markers

Grammar blocks mark an optional symbol by an emphasised question mark behind it, `*symbol*_?_`.
The question mark moves in front of the one or two asterisks that close the symbol's emphasis. -/

namespace Bindery

/-- Moves every emphasised question mark in front of the one or two asterisks before it. -/
def moveOptionality : Text → Text
  | '*' :: '*' :: '_' :: '?' :: '_' :: rest => '?' :: '*' :: '*' :: moveOptionality rest
  | '*' :: '_' :: '?' :: '_' :: rest => '?' :: '*' :: moveOptionality rest
  | c :: rest => c :: moveOptionality rest
  | [] => []

end Bindery
