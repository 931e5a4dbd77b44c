import Bindery.Text.Basic

set_option autoImplicit false

/-! # Quoted texts in a configuration file

A text stands between double quotes, where a backslash starts an escape, or between single quotes,
where every character stands for itself. Three quotes on each side allow line ends in between; a
line end directly behind the opening quotes is dropped. -/

namespace Bindery

namespace ConfigFile

/-- Takes something off the front of a text: what was read and the rest. -/
abbrev Reader (α : Type) := Text → Option (α × Text)

/-- Puts a character in front of what was read. -/
def andChar (c : Char) : Option (Text × Text) → Option (Text × Text) :=
  Option.map fun (read, rest) => (c :: read, rest)

/-- The character can stand in a text: all but control characters can, and a tab can. -/
def isTextChar (c : Char) : Bool := c == '\t' || (0x20 ≤ c.toNat && c.toNat ≠ 0x7F)

/-- The value of a hexadecimal digit. -/
def hexValue? (c : Char) : Option Nat :=
  let n := c.toNat
  if 0x30 ≤ n ∧ n ≤ 0x39 then some (n - 0x30)
  else if 0x41 ≤ n ∧ n ≤ 0x46 then some (n - 0x41 + 10)
  else if 0x61 ≤ n ∧ n ≤ 0x66 then some (n - 0x61 + 10)
  else none

/-- The character with a code point, if there is one. -/
def charOf? (n : Nat) : Option Char :=
  if n < 0xD800 ∨ (0xDFFF < n ∧ n < 0x110000) then some (Char.ofNat n) else none

/-- Where the reader of a text with escapes stands. -/
inductive EscapeState where
  /-- Between characters. -/
  | plain
  /-- Behind a backslash. -/
  | opened
  /-- Among the hexadecimal digits of an escape: how many are to come behind the next, and the
  value so far. -/
  | digits (left value : Nat)
  /-- Behind a backslash and blanks; a line end has to follow. -/
  | lineEnding
  /-- Behind such a line end; blanks and further line ends are dropped. -/
  | dropping
  deriving DecidableEq, Repr

/-- What a character behind a backslash stands for. -/
inductive Escape where
  | char (c : Char)
  /-- Hexadecimal digits follow, one more than given. -/
  | digits (left : Nat)

/-- The escape that a character opens. -/
def escape? : Char → Option Escape
  | 'b' => some (.char '\x08')
  | 't' => some (.char '\t')
  | 'n' => some (.char '\n')
  | 'f' => some (.char '\x0c')
  | 'r' => some (.char '\r')
  | 'e' => some (.char '\x1b')
  | '"' => some (.char '"')
  | '\\' => some (.char '\\')
  | 'x' => some (.digits 1)
  | 'u' => some (.digits 3)
  | 'U' => some (.digits 7)
  | _ => none

/-- Reads up to the closing double quote of a line. -/
def basicText : EscapeState → Reader Text
  | .plain, '"' :: rest => some ([], rest)
  | .plain, '\\' :: rest => basicText .opened rest
  | .plain, c :: rest => if isTextChar c then andChar c (basicText .plain rest) else none
  | .opened, c :: rest =>
    match escape? c with
    | some (.char e) => andChar e (basicText .plain rest)
    | some (.digits left) => basicText (.digits left 0) rest
    | none => none
  | .digits left value, c :: rest =>
    match hexValue? c, left with
    | none, _ => none
    | some d, left + 1 => basicText (.digits left (value * 16 + d)) rest
    | some d, 0 => (charOf? (value * 16 + d)).bind fun e => andChar e (basicText .plain rest)
  | _, _ => none

/-- Reads up to three closing double quotes. Two quotes directly before them belong to the text. -/
def basicBlock : EscapeState → Reader Text
  | .opened, ' ' :: rest => basicBlock .lineEnding rest
  | .opened, '\t' :: rest => basicBlock .lineEnding rest
  | .opened, '\n' :: rest => basicBlock .dropping rest
  | .opened, '\r' :: '\n' :: rest => basicBlock .dropping rest
  | .opened, c :: rest =>
    match escape? c with
    | some (.char e) => andChar e (basicBlock .plain rest)
    | some (.digits left) => basicBlock (.digits left 0) rest
    | none => none
  | .digits left value, c :: rest =>
    match hexValue? c, left with
    | none, _ => none
    | some d, left + 1 => basicBlock (.digits left (value * 16 + d)) rest
    | some d, 0 => (charOf? (value * 16 + d)).bind fun e => andChar e (basicBlock .plain rest)
  | .lineEnding, ' ' :: rest => basicBlock .lineEnding rest
  | .lineEnding, '\t' :: rest => basicBlock .lineEnding rest
  | .lineEnding, '\n' :: rest => basicBlock .dropping rest
  | .lineEnding, '\r' :: '\n' :: rest => basicBlock .dropping rest
  | .lineEnding, _ => none
  | .dropping, ' ' :: rest => basicBlock .dropping rest
  | .dropping, '\t' :: rest => basicBlock .dropping rest
  | .dropping, '\n' :: rest => basicBlock .dropping rest
  | .dropping, '\r' :: '\n' :: rest => basicBlock .dropping rest
  | _, '"' :: '"' :: '"' :: '"' :: '"' :: rest => some (['"', '"'], rest)
  | _, '"' :: '"' :: '"' :: '"' :: rest => some (['"'], rest)
  | _, '"' :: '"' :: '"' :: rest => some ([], rest)
  | _, '\\' :: rest => basicBlock .opened rest
  | _, '\n' :: rest => andChar '\n' (basicBlock .plain rest)
  | _, '\r' :: '\n' :: rest => andChar '\r' (andChar '\n' (basicBlock .plain rest))
  | _, c :: rest => if isTextChar c then andChar c (basicBlock .plain rest) else none
  | _, [] => none

/-- Reads up to the closing single quote of a line. -/
def literalText : Reader Text
  | '\x27' :: rest => some ([], rest)
  | c :: rest => if isTextChar c then andChar c (literalText rest) else none
  | [] => none

/-- Reads up to three closing single quotes. Two quotes directly before them belong to the text. -/
def literalBlock : Reader Text
  | '\x27' :: '\x27' :: '\x27' :: '\x27' :: '\x27' :: rest => some (['\x27', '\x27'], rest)
  | '\x27' :: '\x27' :: '\x27' :: '\x27' :: rest => some (['\x27'], rest)
  | '\x27' :: '\x27' :: '\x27' :: rest => some ([], rest)
  | '\n' :: rest => andChar '\n' (literalBlock rest)
  | '\r' :: '\n' :: rest => andChar '\r' (andChar '\n' (literalBlock rest))
  | c :: rest => if isTextChar c then andChar c (literalBlock rest) else none
  | [] => none

/-- Drops a line end at the front. -/
def dropLineEnd : Text → Text
  | '\n' :: rest => rest
  | '\r' :: '\n' :: rest => rest
  | text => text

/-- Reads a text that starts with a quote. -/
def quotedLine : Reader Text
  | '"' :: rest => basicText .plain rest
  | '\x27' :: rest => literalText rest
  | _ => none

/-- Reads a text that starts with one or three quotes. -/
def quoted : Reader Text
  | '"' :: '"' :: '"' :: rest => basicBlock .plain (dropLineEnd rest)
  | '\x27' :: '\x27' :: '\x27' :: rest => literalBlock (dropLineEnd rest)
  | text => quotedLine text

end ConfigFile

end Bindery
