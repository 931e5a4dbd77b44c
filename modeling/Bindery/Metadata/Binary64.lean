import Bindery.Unicode.Alphabetic
import Bindery.Text.Basic

set_option autoImplicit false

/-! # Floating-point numbers

Metadata may hold binary64 numbers. They are kept exactly, as sign, mantissa and power of two.
Reading rounds a decimal to the nearest such number, a tie to the even mantissa. Printing takes
the fewest decimal digits that read back as the same number, and of those the digits nearest to
it. -/

namespace Bindery

/-- A binary64 number. A finite one is `mantissa * 2 ^ exponent`, where the mantissa is below
`2 ^ 53` and, unless the exponent is the least one, `-1074`, at least `2 ^ 52`. -/
inductive Binary64 where
  | nan
  | infinite (negative : Bool)
  | finite (negative : Bool) (mantissa : Nat) (exponent : Int)
  deriving DecidableEq, Repr

namespace Binary64

/-- The least mantissa of a number whose exponent is not the least one. -/
def leastFull : Nat := Nat.pow 2 52

/-- The least power of two. -/
def leastExponent : Int := -1074

/-- The greatest power of two. -/
def greatestExponent : Int := 971

/-- Zero with a sign. -/
def zero (negative : Bool) : Binary64 := .finite negative 0 leastExponent

/-! ## Rounding -/

/-- A power with an integer exponent; a negative exponent gives one. -/
def power (base : Nat) (exponent : Int) : Nat := Nat.pow base exponent.toNat

/-- The integer nearest to `num / den`, the even one of two. -/
def roundDiv (num den : Nat) : Nat :=
  let q := num / den
  let r := num % den
  if den < 2 * r ∨ (den = 2 * r ∧ q % 2 = 1) then q + 1 else q

/-- The ratio `num / den / 2 ^ exponent` as numerator and denominator. -/
def scaleDown (num den : Nat) (exponent : Int) : Nat × Nat :=
  (num * power 2 (-exponent), den * power 2 exponent)

/-- The power of two that leaves `num / den` with as many bits as a mantissa has. -/
def exponentFor (num den : Nat) : Int :=
  let e : Int := Nat.log2 num - Nat.log2 den - 52
  let (a, b) := scaleDown num den e
  let e := if a < b * leastFull then e - 1 else e
  if e < leastExponent then leastExponent else e

/-- The number nearest to `num / den`, for a positive numerator. -/
def ofRatio (negative : Bool) (num den : Nat) : Binary64 :=
  let e := exponentFor num den
  let (a, b) := scaleDown num den e
  let m := roundDiv a b
  let (m, e) := if m = 2 * leastFull then (leastFull, e + 1) else (m, e)
  if greatestExponent < e then .infinite negative else .finite negative m e

/-- The number nearest to `digits * 10 ^ exponent`. A decimal far outside the range goes to zero
or infinity without its power of ten being computed. -/
def ofDecimal (negative : Bool) (digits : Nat) (exponent : Int) : Binary64 :=
  let magnitude : Int := exponent + (Nat.toDigits 10 digits).length
  if digits = 0 ∨ magnitude < -340 then zero negative
  else if 320 < magnitude then .infinite negative
  else ofRatio negative (digits * power 10 exponent) (power 10 (-exponent))

/-! ## Reading -/

/-- The number written by decimal digits. -/
def digitsValue (digits : Text) : Nat :=
  digits.foldl (fun n c => n * 10 + (c.toNat - 0x30)) 0

/-- A text that is a sign and digits, the sign optional. -/
def signedDigits? (text : Text) : Option Int :=
  let value (digits : Text) : Option Nat :=
    if digits ≠ [] ∧ digits.all isAsciiDigit then some (digitsValue digits) else none
  match text with
  | '-' :: digits => (value digits).map fun n => -(n : Int)
  | '+' :: digits => (value digits).map Int.ofNat
  | digits => (value digits).map Int.ofNat

/-- The number written as digits with an optional point and an optional power of ten. -/
def unsigned? (negative : Bool) (text : Text) : Option Binary64 :=
  let whole := text.takeWhile isAsciiDigit
  let rest := text.dropWhile isAsciiDigit
  let (fraction, rest) :=
    match rest with
    | '.' :: rest => (rest.takeWhile isAsciiDigit, rest.dropWhile isAsciiDigit)
    | rest => ([], rest)
  if whole ++ fraction = [] then none
  else
    let number (shift : Int) :=
      ofDecimal negative (digitsValue (whole ++ fraction)) (shift - fraction.length)
    match rest with
    | [] => some (number 0)
    | e :: power =>
      if e = 'e' ∨ e = 'E' then (signedDigits? power).map number else none

/-- The number a text denotes: a decimal, or `inf`, `infinity` or `nan` in any case, after an
optional sign. -/
def parse? (text : Text) : Option Binary64 :=
  let (negative, body) :=
    match text with
    | '-' :: body => (true, body)
    | '+' :: body => (false, body)
    | body => (false, body)
  let small := body.map Char.toLower
  if small = "inf".toList ∨ small = "infinity".toList then some (.infinite negative)
  else if small = "nan".toList then some .nan
  else unsigned? negative body

/-! ## Printing -/

/-- A decimal number: `digits * 10 ^ exponent`. -/
structure Decimal where
  digits : Nat
  exponent : Int
  deriving DecidableEq, Repr

/-- The interval of the reals that round to `mantissa * 2 ^ exponent`: its ends and the number
itself, in units of `2 ^ (exponent - 2)`. Below a power of two the neighbour is half as far. -/
def interval (mantissa : Nat) (exponent : Int) : Nat × Nat × Nat :=
  let low := if mantissa = leastFull ∧ leastExponent < exponent then 4 * mantissa - 1
    else 4 * mantissa - 2
  (low, 4 * mantissa, 4 * mantissa + 2)

/-- The multiples of `10 ^ place` next to a number, of which the nearer one that rounds to the
number is taken, the even one of two. -/
def onGrid? (mantissa : Nat) (exponent : Int) (place : Int) : Option Decimal :=
  let (low, value, high) := interval mantissa exponent
  let up := power 2 (exponent - 2) * power 10 (-place)
  let unit := power 2 (2 - exponent) * power 10 place
  let d := value * up / unit
  let within (d : Nat) : Bool :=
    if mantissa % 2 = 0 then low * up ≤ d * unit ∧ d * unit ≤ high * up
    else low * up < d * unit ∧ d * unit < high * up
  let below := 2 * value * up - 2 * d * unit
  let nearerUp := unit < below ∨ (unit = below ∧ d % 2 = 1)
  if within d && within (d + 1) then some ⟨if nearerUp then d + 1 else d, place⟩
  else if within d then some ⟨d, place⟩
  else if within (d + 1) then some ⟨d + 1, place⟩
  else none

/-- The power of ten of the first digit of `mantissa * 2 ^ exponent`. -/
def leadingPower (mantissa : Nat) (exponent : Int) : Int :=
  let num := mantissa * power 2 exponent
  let den := power 2 (-exponent)
  let atLeast (p : Int) : Bool := den * power 10 p ≤ num * power 10 (-p)
  let guess : Int := (Nat.toDigits 10 num).length - (Nat.toDigits 10 den).length
  if atLeast (guess + 1) then guess + 1
  else if atLeast guess then guess
  else guess - 1

/-- Removes zeros at the end of the digits. -/
def Decimal.trimZeros : (fuel : Nat) → Decimal → Decimal
  | 0, d => d
  | fuel + 1, d =>
    if d.digits ≠ 0 ∧ d.digits % 10 = 0 then trimZeros fuel ⟨d.digits / 10, d.exponent + 1⟩ else d

/-- The shortest decimal that rounds to `mantissa * 2 ^ exponent`: the first grid with a point in
the interval, from one digit to seventeen. -/
def shortest (mantissa : Nat) (exponent : Int) : Decimal :=
  let lead := leadingPower mantissa exponent
  let found := (List.range 17).findSome? fun (n : Nat) =>
    onGrid? mantissa exponent (lead - (n : Int))
  (found.getD ⟨mantissa, exponent⟩).trimZeros 18

/-- How the digits of a number are laid out: positionally while its first digit stands no higher
than the sixteenth place before the point and no lower than the fifth behind it, else with a power
of ten. A whole number keeps one zero behind its point. -/
def Decimal.layout (d : Decimal) : Text :=
  let digits := Text.ofNat d.digits
  let point : Int := digits.length + d.exponent
  if 0 ≤ d.exponent ∧ point ≤ 16 then
    digits ++ List.replicate d.exponent.toNat '0' ++ ['.', '0']
  else if 0 < point ∧ point ≤ 16 then
    digits.take point.toNat ++ '.' :: digits.drop point.toNat
  else if -5 < point ∧ point ≤ 0 then
    ['0', '.'] ++ List.replicate (-point).toNat '0' ++ digits
  else
    match digits with
    | [digit] => digit :: 'e' :: Text.ofInt (point - 1)
    | first :: rest => first :: '.' :: rest ++ 'e' :: Text.ofInt (point - 1)
    | [] => []

/-- The text of a number in metadata. -/
def toText : Binary64 → Text
  | .nan => ".nan".toList
  | .infinite false => ".inf".toList
  | .infinite true => "-.inf".toList
  | .finite negative mantissa exponent =>
    (if negative then ['-'] else []) ++
      if mantissa = 0 then "0.0".toList else (shortest mantissa exponent).layout

end Binary64

end Bindery
