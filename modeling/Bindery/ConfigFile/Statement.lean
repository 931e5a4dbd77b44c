import Bindery.ConfigFile.Quoted
import Bindery.ConfigFile.Number
import Bindery.ConfigFile.Moment
import Bindery.ConfigFile.Tree

set_option autoImplicit false

/-! # Reading a configuration file

A configuration file is in the format TOML: one statement on a line, with comments behind `#`.
Values may span lines between brackets, braces and triple quotes. -/

namespace Bindery

namespace ConfigFile

/-! ## Between the parts -/

/-- Spaces and tabs. -/
def isGap (c : Char) : Bool := c == ' ' || c == '\t'

/-- Drops spaces and tabs. -/
def skipGap (text : Text) : Text := text.dropWhile isGap

/-- Drops spaces, tabs, line ends and comments. A comment with a control character in it is
refused. -/
def skipFiller? (inComment : Bool) : Text → Option Text
  | [] => some []
  | '\n' :: rest => skipFiller? false rest
  | '\r' :: '\n' :: rest => skipFiller? false rest
  | c :: rest =>
    if inComment then if isTextChar c then skipFiller? true rest else none
    else if isGap c then skipFiller? false rest
    else if c = '#' then skipFiller? true rest
    else some (c :: rest)

/-- Drops the rest of a line: nothing but blanks and a comment. -/
def skipLineEnd? (inComment : Bool) : Text → Option Text
  | [] => some []
  | '\n' :: rest => some rest
  | '\r' :: '\n' :: rest => some rest
  | c :: rest =>
    if inComment then if isTextChar c then skipLineEnd? true rest else none
    else if isGap c then skipLineEnd? false rest
    else if c = '#' then skipLineEnd? true rest
    else none

/-! ## Keys -/

/-- The characters of a key without quotes. -/
def isKeyChar (c : Char) : Bool := isAsciiLetter c || isAsciiDigit c || c == '_' || c == '-'

/-- Reads a key. -/
def key : Reader Text := fun text =>
  match text.takeWhile isKeyChar with
  | [] => quotedLine text
  | name => some (name, text.dropWhile isKeyChar)

/-- Reads keys with dots between them: all but the last, and the last. -/
def keys : (fuel : Nat) → Reader (List Text × Text)
  | 0, _ => none
  | fuel + 1, text =>
    match key (skipGap text) with
    | none => none
    | some (name, rest) =>
      match skipGap rest with
      | '.' :: rest =>
        (keys fuel rest).map fun ((path, last), rest) => ((name :: path, last), rest)
      | rest => some (([], name), rest)

/-! ## Values -/

/-- The characters of numbers, dates, times and truth values. -/
def isAtomChar (c : Char) : Bool :=
  isAsciiLetter c || isAsciiDigit c || c == '+' || c == '-' || c == '_' || c == '.' || c == ':'

/-- Takes the characters of an unquoted value off the front. A date takes the time with it that
stands behind one space. -/
def splitAtom (text : Text) : Text × Text :=
  let atom := text.takeWhile isAtomChar
  let rest := text.dropWhile isAtomChar
  match date? atom, rest with
  | some (_, []), ' ' :: rest' =>
    if (time? rest').isSome then
      (atom ++ ' ' :: rest'.takeWhile isAtomChar, rest'.dropWhile isAtomChar)
    else (atom, rest)
  | _, _ => (atom, rest)

/-- The value that is written without quotes. -/
def atomValue? (atom : Text) : Option Node :=
  if atom = "true".toList then some (.bool true)
  else if atom = "false".toList then some (.bool false)
  else
    match int? atom, moment? atom, float? atom with
    | some n, _, _ => some (.int n)
    | none, some moment, _ => some (.moment moment)
    | none, none, some x => some (.float x)
    | none, none, none => none

/-- Reads a value that is neither a list nor a table. -/
def scalar : Reader Node := fun text =>
  match text with
  | '"' :: _ => (quoted text).map fun (t, rest) => (.text t, rest)
  | '\x27' :: _ => (quoted text).map fun (t, rest) => (.text t, rest)
  | _ =>
    let (atom, rest) := splitAtom text
    (atomValue? atom).map fun node => (node, rest)

/-- Reads items with commas between them up to a closing character; a comma may follow the
last. -/
def items {α : Type} (item : Reader α) (close : Char) : (fuel : Nat) → Reader (List α)
  | 0, _ => none
  | fuel + 1, text =>
    match skipFiller? false text with
    | none => none
    | some [] => none
    | some (c :: rest) =>
      if c = close then some ([], rest)
      else
        match item (c :: rest) with
        | none => none
        | some (x, rest) =>
          match skipFiller? false rest with
          | some (',' :: rest) => (items item close fuel rest).map fun (xs, rest) => (x :: xs, rest)
          | some (c :: rest) => if c = close then some ([x], rest) else none
          | _ => none

/-- Reads a key and its value. -/
def pair (value : Reader Node) : Reader (List Text × Text × Node) := fun text =>
  match keys text.length text with
  | some ((path, name), '=' :: rest) =>
    (value (skipGap rest)).map fun (node, rest) => ((path, name, node), rest)
  | _ => none

/-- Reads a value in which lists and tables are nested at most as deep as given. -/
def value : (depth : Nat) → Reader Node
  | depth + 1, '[' :: rest =>
    (items (value depth) ']' rest.length rest).map fun (nodes, rest) => (.list false nodes, rest)
  | depth + 1, '\x7b' :: rest =>
    match items (pair (value depth)) '\x7d' rest.length rest with
    | none => none
    | some (pairs, rest) =>
      (Entries.ofPairs pairs).map fun entries => (.table .braced entries, rest)
  | _, text => scalar text

/-- How deep lists and tables may be nested within a value. -/
def nestingLimit : Nat := 80

/-! ## Statements -/

/-- Reads a statement. -/
def statement : Reader Statement := fun text =>
  match text with
  | '[' :: '[' :: rest =>
    match keys rest.length rest with
    | some ((path, name), ']' :: ']' :: rest) => some (.element path name, rest)
    | _ => none
  | '[' :: rest =>
    match keys rest.length rest with
    | some ((path, name), ']' :: rest) => some (.header path name, rest)
    | _ => none
  | text =>
    (pair (value nestingLimit) text).map fun ((path, name, node), rest) =>
      (.pair path name node, rest)

/-- Reads statements up to the end. -/
def statements : (fuel : Nat) → Text → Option (List Statement)
  | 0, _ => none
  | fuel + 1, text =>
    match skipFiller? false text with
    | none => none
    | some [] => some []
    | some text =>
      match statement text with
      | none => none
      | some (s, rest) =>
        (skipLineEnd? false rest).bind fun rest => (statements fuel rest).map (s :: ·)

/-- Drops the mark that some editors put in front of a text. -/
def dropByteOrderMark : Text → Text
  | c :: rest => if c.toNat = 0xFEFF then rest else c :: rest
  | [] => []

/-- The entries of a configuration file, if it is well formed. -/
def read? (text : Text) : Option Entries :=
  (statements (text.length + 1) (dropByteOrderMark text)).bind (Entries.addStatements [] [])

end ConfigFile

end Bindery
