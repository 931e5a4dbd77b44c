import Bindery.Metadata.Binary64

set_option autoImplicit false

/-! # Numbers in a configuration file

Integers are decimal with an optional sign, or have a marker for base sixteen, eight or two.
Floating-point numbers have a point or a power of ten, or are infinite or no number. Single
underscores may stand between digits. -/

namespace Bindery

namespace ConfigFile

/-- Removes the underscores between the digits of a class. Anything but digits with single
underscores between them is refused. -/
def plainDigits? (isDigit : Char → Bool) : Text → Option Text
  | [] => none
  | [c] => if isDigit c then some [c] else none
  | c :: '_' :: rest =>
    if isDigit c then (plainDigits? isDigit rest).map (c :: ·) else none
  | c :: rest => if isDigit c then (plainDigits? isDigit rest).map (c :: ·) else none

/-- The value of a digit up to base sixteen. -/
def digitValue (c : Char) : Nat :=
  let n := c.toNat
  if n ≤ 0x39 then n - 0x30 else if n ≤ 0x46 then n - 0x41 + 10 else n - 0x61 + 10

/-- The character is a digit of the base. -/
def isDigitOf (base : Nat) (c : Char) : Bool :=
  (isAsciiDigit c || (0x41 ≤ c.toNat && c.toNat ≤ 0x46) || (0x61 ≤ c.toNat && c.toNat ≤ 0x66)) &&
    digitValue c < base

/-- The number that digits of a base write. -/
def ofDigits (base : Nat) (digits : Text) : Nat :=
  digits.foldl (fun n c => n * base + digitValue c) 0

/-- Splits a sign off: whether it is a minus, and the rest. -/
def splitSign : Text → Bool × Text
  | '-' :: rest => (true, rest)
  | '+' :: rest => (false, rest)
  | text => (false, text)

/-- Decimal digits without a needless zero in front. -/
def wholeDigits? (text : Text) : Option Text :=
  match plainDigits? isAsciiDigit text with
  | some ('0' :: _ :: _) => none
  | digits => digits

/-- The range of the integers that have a number of bits, with a sign or without. -/
def hasBits (bits : Nat) (n : Int) : Bool :=
  -Int.ofNat (Nat.pow 2 (bits - 1)) ≤ n && n < Int.ofNat (Nat.pow 2 bits)

/-- The most bits of an integer. -/
def maxBits : Nat := 128

/-- The integer that a text is. -/
def int? (text : Text) : Option Int :=
  let marked (base : Nat) (digits : Text) : Option Int :=
    (plainDigits? (isDigitOf base) digits).map fun digits => (ofDigits base digits : Int)
  let value :=
    match text with
    | '0' :: 'x' :: digits => marked 16 digits
    | '0' :: 'o' :: digits => marked 8 digits
    | '0' :: 'b' :: digits => marked 2 digits
    | _ =>
      let (negative, digits) := splitSign text
      (wholeDigits? digits).map fun digits =>
        if negative then -(ofDigits 10 digits : Int) else ofDigits 10 digits
  value.filter (hasBits maxBits)

/-- The character ends the whole part of a number. -/
def endsWhole (c : Char) : Bool := c == '.' || c == 'e' || c == 'E'

/-- Decimal digits behind a point. -/
def fractionDigits? (text : Text) : Option Text := plainDigits? isAsciiDigit text

/-- A power of ten with its sign. -/
def powerText? (text : Text) : Option Text :=
  let (negative, digits) := splitSign text
  (plainDigits? isAsciiDigit digits).map fun digits =>
    if negative then '-' :: digits else digits

/-- The number without its underscores, if it has a point or a power of ten. -/
def plainFloat? (digits : Text) : Option Text := do
  let whole ← wholeDigits? (digits.takeWhile (!endsWhole ·))
  match digits.dropWhile (!endsWhole ·) with
  | '.' :: rest =>
    let fraction ← fractionDigits? (rest.takeWhile (!endsWhole ·))
    match rest.dropWhile (!endsWhole ·) with
    | [] => some (whole ++ '.' :: fraction)
    | '.' :: _ => none
    | _ :: power => (powerText? power).map fun power => whole ++ '.' :: fraction ++ 'e' :: power
  | _ :: power => (powerText? power).map fun power => whole ++ 'e' :: power
  | [] => none

/-- The floating-point number that a text is. A finite number has to be within the range. -/
def float? (text : Text) : Option Binary64 :=
  let (negative, digits) := splitSign text
  if digits = "inf".toList then some (.infinite negative)
  else if digits = "nan".toList then some .nan
  else
    match (plainFloat? digits).bind Binary64.parse? with
    | some (.finite _ mantissa exponent) => some (.finite negative mantissa exponent)
    | _ => none

end ConfigFile

end Bindery
