import Bindery.Metadata.Binary64

set_option autoImplicit false

/-! # Scalars in a metadata block

A text is written plainly where a reader takes it for that very text. It is quoted where it would
be taken for a number, a truth value or nothing, or where a character in it would be taken for
punctuation. A text of several lines is written as a literal block. -/

namespace Bindery

/-! ## Texts that read as something else -/

/-- A sign, or none, and two or more digits of which the first is `0`. -/
def isPaddedNumber (text : Text) : Bool :=
  let digits :=
    match text with
    | '-' :: rest => rest
    | '+' :: rest => rest
    | rest => rest
  match digits with
  | '0' :: d :: rest => (d :: rest).all isAsciiDigit
  | _ => false

/-- The value of a digit up to the given base. -/
def digitIn? (base : Nat) (c : Char) : Option Nat :=
  let n := c.toNat
  let value :=
    if 0x30 ≤ n ∧ n ≤ 0x39 then n - 0x30
    else if 0x61 ≤ n ∧ n ≤ 0x7A then n - 0x61 + 10
    else if 0x41 ≤ n ∧ n ≤ 0x5A then n - 0x41 + 10
    else base
  if value < base then some value else none

/-- The number that digits of a base write. -/
def inBase? (base : Nat) (digits : Text) : Option Nat :=
  if digits = [] then none
  else digits.foldlM (fun n c => (digitIn? base c).map (n * base + ·)) 0

/-- The number that digits write after the marker of their base, at most `limit`. -/
def marked? (limit : Nat) (text : Text) : Option Nat :=
  let within (n : Nat) : Option Nat := if n ≤ limit then some n else none
  match text with
  | '0' :: 'x' :: digits => (inBase? 16 digits).bind within
  | '0' :: 'o' :: digits => (inBase? 8 digits).bind within
  | '0' :: 'b' :: digits => (inBase? 2 digits).bind within
  | _ => none

/-- The text reads as an integer of at most 128 bits. -/
def readsAsInt (text : Text) : Bool :=
  let unsigned :=
    match text with
    | '+' :: rest => rest
    | rest => rest
  let decimal (limit : Nat) (digits : Text) : Bool :=
    match inBase? 10 digits with
    | some n => n ≤ limit && !isPaddedNumber text
    | none => false
  (marked? (Nat.pow 2 128 - 1) unsigned).isSome || decimal (Nat.pow 2 128 - 1) unsigned ||
    match text with
    | '-' :: rest => (marked? (Nat.pow 2 127) rest).isSome || decimal (Nat.pow 2 127) rest
    | _ => false

/-- The text reads as a floating-point number. -/
def readsAsFloat (text : Text) : Bool :=
  let unsigned :=
    match text with
    | '+' :: rest => rest
    | rest => rest
  let doubleSign :=
    match text with
    | '+' :: '+' :: _ | '+' :: '-' :: _ => true
    | _ => false
  !doubleSign &&
    ([".inf", ".Inf", ".INF"].any (·.toList = unsigned) ||
      ["-.inf", "-.Inf", "-.INF", ".nan", ".NaN", ".NAN"].any (·.toList = text) ||
      match Binary64.parse? unsigned with
      | some (.finite _ _ _) => !isPaddedNumber text
      | _ => false)

/-- The text reads as nothing, a truth value or a number, or looks like a number that is none. -/
def readsAsOther (text : Text) : Bool :=
  text = [] ||
    ["null", "Null", "NULL", "~", "true", "True", "TRUE", "false", "False", "FALSE"].any
      (·.toList = text) ||
    readsAsInt text || readsAsFloat text || isPaddedNumber text

/-! ## What the characters of a text allow -/

/-- Characters that end a line. -/
def isBreak (c : Char) : Bool :=
  c == '\n' || c == '\r' || c == '\u0085' || c == '\u2028' || c == '\u2029'

/-- Characters that can stand for themselves. -/
def isPrintable (c : Char) : Bool :=
  let n := c.toNat
  n == 0x0A || (0x20 ≤ n && n ≤ 0x7E) ||
    (0xA0 ≤ n && n != 0xFEFF && n != 0xFFFE && n != 0xFFFF)

/-- Spaces, tabs, line ends and the character NUL separate what is before them from what is
behind. -/
def separates (c : Char) : Bool := c == ' ' || c == '\t' || c == '\x00' || isBreak c

/-- Characters that mean something at the start of a scalar. -/
def startIndicators : Text := "#,[]\x7b\x7d&*!|>\x27\"%@\x60".toList

/-- The text starts like something other than a plain scalar. -/
def startsIndicator (text : Text) : Bool :=
  Text.startsWith "---".toList text || Text.startsWith "...".toList text ||
    match text with
    | [] => false
    | c :: rest =>
      startIndicators.contains c ||
        ((c == '?' || c == ':' || c == '-') && (rest.head?.map separates).getD true)

/-- Somewhere behind the first character, a colon ends a key or a hash starts a comment. -/
def holdsIndicator : Text → Bool
  | [] => false
  | [_] => false
  | before :: c :: rest =>
    (c == ':' && (rest.head?.map separates).getD true) || (c == '#' && separates before) ||
      holdsIndicator (c :: rest)

/-- Somewhere a character of class `p` is directly followed by one of class `q`. -/
def hasPair (p q : Char → Bool) : Text → Bool
  | [] => false
  | [_] => false
  | a :: b :: rest => (p a && q b) || hasPair p q (b :: rest)

/-- A space. -/
def isSpace (c : Char) : Bool := c == ' '

/-- The text can be written with escapes only: it has a character that cannot stand for itself, or
a space before a line end. -/
def needsEscapes (text : Text) : Bool :=
  text.any (fun c => !isPrintable c) || hasPair isSpace isBreak text

/-- The text can be written plainly. -/
def allowsPlain (text : Text) : Bool :=
  let edge (c : Option Char) : Bool := (c.map fun c => isSpace c || isBreak c).getD false
  !needsEscapes text && !text.any isBreak && !edge text.head? && !edge text.getLast? &&
    !startsIndicator text && !holdsIndicator text

/-- The text can be written between single quotes. -/
def allowsSingle (text : Text) : Bool := !needsEscapes text && !hasPair isBreak isSpace text

/-- The text can be written as a literal block. -/
def allowsLiteral (text : Text) : Bool :=
  !needsEscapes text && text.getLast? != some ' '

/-! ## Writing -/

/-- The ways a text is written. -/
inductive ScalarStyle where
  | plain
  | single
  | double
  | literal
  deriving DecidableEq, Repr

/-- The way a text is written: plainly if it can be, then between single quotes, then with
escapes; a text with a line feed as a literal block if it can be. -/
def scalarStyle (text : Text) : ScalarStyle :=
  if text.contains '\n' then if allowsLiteral text then .literal else .double
  else if readsAsOther text then if allowsSingle text then .single else .double
  else if allowsPlain text then .plain
  else if allowsSingle text then .single
  else .double

/-- The digits of a number in base sixteen, at least `width` of them. -/
def hexDigits (width n : Nat) : Text :=
  let digits := (Nat.toDigits 16 n).map Char.toUpper
  List.replicate (width - digits.length) '0' ++ digits

/-- A character between double quotes. -/
def escapeChar (c : Char) : Text :=
  if isPrintable c && !isBreak c && c != '"' && c != '\\' then [c]
  else
    '\\' ::
      match c.toNat with
      | 0x00 => ['0']
      | 0x07 => ['a']
      | 0x08 => ['b']
      | 0x09 => ['t']
      | 0x0A => ['n']
      | 0x0B => ['v']
      | 0x0C => ['f']
      | 0x0D => ['r']
      | 0x1B => ['e']
      | 0x22 => ['"']
      | 0x5C => ['\\']
      | 0x85 => ['N']
      | 0x2028 => ['L']
      | 0x2029 => ['P']
      | n =>
        if n ≤ 0xFF then 'x' :: hexDigits 2 n
        else if n ≤ 0xFFFF then 'u' :: hexDigits 4 n
        else 'U' :: hexDigits 8 n

/-- The indentation of a line. -/
def indentation (width : Nat) : Text := List.replicate width ' '

/-- The inside of single quotes. A quote is written twice, and what follows a line end is
indented. -/
def singleBody (width : Nat) (afterBreak : Bool) : Text → Text
  | [] => if afterBreak then indentation width else []
  | c :: rest =>
    if isBreak c then c :: singleBody width true rest
    else
      (if afterBreak then indentation width else []) ++
        (if c = '\x27' then [c, c] else [c]) ++ singleBody width false rest

/-- The lines of a literal block; lines that are not empty are indented. -/
def literalBody (width : Nat) (afterBreak : Bool) : Text → Text
  | [] => []
  | c :: rest =>
    if isBreak c then c :: literalBody width true rest
    else (if afterBreak then indentation width else []) ++ c :: literalBody width false rest

/-- What stands behind the bar of a literal block: the indentation, where the first line does not
show it, and what becomes of line ends at the end. -/
def literalHints (text : Text) : Text :=
  let first :=
    match text with
    | c :: _ => if isSpace c || isBreak c then ['2'] else []
    | [] => []
  let last :=
    match text.reverse with
    | [] => ['-']
    | c :: before =>
      if !isBreak c then ['-']
      else if (before.head?.map isBreak).getD true then ['+']
      else []
  first ++ last

/-- A text as it is written, without what ends it; further lines stand at the indentation. -/
def writeScalar (width : Nat) (text : Text) : Text :=
  match scalarStyle text with
  | .plain => text
  | .single => '\x27' :: singleBody width false text ++ ['\x27']
  | .double => '"' :: text.flatMap escapeChar ++ ['"']
  | .literal => '|' :: literalHints text ++ '\n' :: literalBody width true text

/-- What ends a text: a line feed, unless it is a literal block that ends with a line end of its
own. -/
def scalarEnd (text : Text) : Text :=
  if scalarStyle text = .literal ∧ (text.getLast?.map isBreak).getD false then [] else ['\n']

end Bindery
