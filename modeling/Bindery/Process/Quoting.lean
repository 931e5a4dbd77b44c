import Bindery.Unicode.Alphabetic
import Bindery.Process.Command

set_option autoImplicit false

/-! # Command lines for a shell

A word is written as it is while all its characters are safe, and between single quotes otherwise.
A single quote cannot stand between single quotes, so it stands between double quotes there. -/

namespace Bindery

/-- The characters besides letters and digits that mean nothing to a shell. -/
def safePunctuation : Text := "@%+=:,./-_".toList

/-- The character means nothing to a shell. -/
def isShellSafe (c : Char) : Bool :=
  isAsciiLetter c || isAsciiDigit c || safePunctuation.contains c

/-- A single quote within single quotes: the quotes are closed, the quote is written between double
quotes, and they are opened again. -/
def quotedQuote : Text := ['\x27', '"', '\x27', '"', '\x27']

/-- A word as a shell has to be given it. -/
def shellQuote (word : Text) : Text :=
  if word ≠ [] ∧ word.all isShellSafe = true then word
  else '\x27' :: (word.flatMap fun c => if c = '\x27' then quotedQuote else [c]) ++ ['\x27']

/-- The line that makes a shell run a program with the given arguments. -/
def commandLine (program : Path) (arguments : List Text) : Text :=
  Text.join [' '] ((program :: arguments).map shellQuote)

end Bindery
