import Bindery.Unicode.Alphabetic
import Bindery.Text.Basic

set_option autoImplicit false

/-! # Dates and times in a configuration file

A date, a time of day, or both with or without an offset from universal time. They are kept as
text, in one form: `T` between date and time, `Z` or a signed offset, and no zeros at the end of a
fraction. -/

namespace Bindery

namespace ConfigFile

/-- Takes `count` decimal digits off the front: their value and the rest. -/
def digits? (count : Nat) (text : Text) : Option (Nat × Text) :=
  let digits := text.take count
  if digits.length = count ∧ digits.all isAsciiDigit = true then
    some (digits.foldl (fun n c => n * 10 + (c.toNat - 0x30)) 0, text.drop count)
  else none

/-- A year has a 29th of February. -/
def isLeapYear (year : Nat) : Bool := year % 4 == 0 && (year % 100 != 0 || year % 400 == 0)

/-- The number of days in a month. -/
def daysIn (year month : Nat) : Nat :=
  if month = 2 then if isLeapYear year then 29 else 28
  else if month ∈ [4, 6, 9, 11] then 30
  else 31

/-- A number with two digits. -/
def twoDigits (n : Nat) : Text := if n < 10 then '0' :: Text.ofNat n else Text.ofNat n

/-- Takes a date off the front; its length is ten. -/
def date? (text : Text) : Option (Text × Text) := do
  let (year, rest) ← digits? 4 text
  let (month, rest) ← digits? 2 (← Text.after? ['-'] rest)
  let (day, rest) ← digits? 2 (← Text.after? ['-'] rest)
  if 1 ≤ month ∧ month ≤ 12 ∧ 1 ≤ day ∧ day ≤ daysIn year month then some (text.take 10, rest)
  else none

/-- The form of a fraction of a second: at most nine digits, and none of the zeros at its end. -/
def fractionText (digits : Text) : Text :=
  match ((digits.take 9).reverse.dropWhile (· = '0')).reverse with
  | [] => ['.', '0']
  | digits => '.' :: digits

/-- Takes a time of day off the front. The seconds, and a fraction behind them, may be left out. -/
def time? (text : Text) : Option (Text × Text) := do
  let (hour, rest) ← digits? 2 text
  let (minute, rest) ← digits? 2 (← Text.after? [':'] rest)
  if 23 < hour ∨ 59 < minute then none
  else
    let time := twoDigits hour ++ ':' :: twoDigits minute
    match Text.after? [':'] rest with
    | none => some (time, rest)
    | some rest =>
      let (second, rest) ← digits? 2 rest
      if 60 < second then none
      else
        let time := time ++ ':' :: twoDigits second
        match Text.after? ['.'] rest with
        | none => some (time, rest)
        | some rest =>
          let fraction := rest.takeWhile isAsciiDigit
          if fraction = [] then none
          else some (time ++ fractionText fraction, rest.dropWhile isAsciiDigit)

/-- An offset from universal time. -/
def offset? (text : Text) : Option Text :=
  match text with
  | [] => some []
  | ['Z'] => some ['Z']
  | ['z'] => some ['Z']
  | sign :: rest => do
    let (hour, rest) ← digits? 2 rest
    let (minute, rest) ← digits? 2 (← Text.after? [':'] rest)
    if (sign = '+' ∨ sign = '-') ∧ hour ≤ 23 ∧ minute ≤ 59 ∧ rest = [] then
      some ((if hour = 0 ∧ minute = 0 then '+' else sign) ::
        twoDigits hour ++ ':' :: twoDigits minute)
    else none

/-- The date, the time, or both, that a text is. -/
def moment? (text : Text) : Option Text :=
  match date? text with
  | some (date, []) => some date
  | some (date, separator :: rest) => do
    let (time, rest) ← time? rest
    let offset ← offset? rest
    if separator = 'T' ∨ separator = 't' ∨ separator = ' ' then
      some (date ++ 'T' :: time ++ offset)
    else none
  | none =>
    match time? text with
    | some (time, []) => some time
    | _ => none

end ConfigFile

end Bindery
