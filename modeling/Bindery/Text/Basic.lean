import Bindery.Unicode.Blank

set_option autoImplicit false

/-! # Text

Documents, lines, names and messages are lists of characters, so that every rule below is a
recursion on the text itself.

* `Text.after?` takes a marker off the front of a text; `Text.after?_eq_some` says that it
  succeeds exactly on the texts that start with the marker.
* `Text.cut?` splits a text at a marker; by `Text.eq_of_cut?` nothing but the marker is lost.
* `Text.lines` splits a text into lines; a line ends at a line feed, and a carriage return
  directly before that line feed belongs to the line end.
* `Text.joinLines` puts line feeds between lines. -/

namespace Bindery

/-- A sequence of Unicode scalar values. -/
abbrev Text := List Char

namespace Text

/-! ## Markers -/

/-- What follows `marker` in a text that starts with it. -/
def after? : (marker text : Text) → Option Text
  | [], text => some text
  | _ :: _, [] => none
  | m :: marker, c :: text => if m = c then after? marker text else none

theorem after?_eq_some {marker text rest : Text} :
    after? marker text = some rest ↔ text = marker ++ rest := by
  induction marker generalizing text with
  | nil => simp [after?]
  | cons m marker ih =>
    cases text with
    | nil => simp [after?]
    | cons c text =>
      by_cases h : m = c
      · simp [after?, h, ih]
      · simp [after?, h, Ne.symm h]

theorem after?_append (marker rest : Text) : after? marker (marker ++ rest) = some rest :=
  after?_eq_some.2 rfl

/-- The text starts with `marker`. -/
def startsWith (marker text : Text) : Bool := (after? marker text).isSome

/-- The text before the first occurrence of `marker` and the text behind it. -/
def cut? (marker : Text) : Text → Option (Text × Text)
  | [] => if marker = [] then some ([], []) else none
  | c :: text =>
    match after? marker (c :: text) with
    | some rest => some ([], rest)
    | none => (cut? marker text).map fun (before, rest) => (c :: before, rest)

/-- A cut loses nothing but the marker. -/
theorem eq_of_cut? {marker text before rest : Text}
    (h : cut? marker text = some (before, rest)) : text = before ++ marker ++ rest := by
  induction text generalizing before with
  | nil =>
    simp only [cut?] at h
    split at h <;> simp_all
  | cons c text ih =>
    simp only [cut?] at h
    split at h
    · next r hr =>
      cases h
      exact after?_eq_some.1 hr
    · obtain ⟨⟨b, r⟩, hb, he⟩ := Option.map_eq_some_iff.1 h
      cases he
      rw [ih hb]
      rfl

/-! ## White space at the ends -/

/-- Removes white space at the front. -/
def trimStart (text : Text) : Text := text.dropWhile isBlank

/-- Removes white space at the end. -/
def trimEnd (text : Text) : Text := (text.reverse.dropWhile isBlank).reverse

/-- Removes white space at both ends. -/
def trim (text : Text) : Text := trimEnd (trimStart text)

/-! ## Lines -/

/-- The lines of a text. Each line feed ends a line, together with one carriage return directly
before it. Text behind the last line feed is a line of its own; an empty text has no line. -/
def lines : Text → List Text
  | [] => []
  | '\n' :: text => [] :: lines text
  | '\r' :: '\n' :: text => [] :: lines text
  | c :: text =>
    match lines text with
    | [] => [[c]]
    | line :: rest => (c :: line) :: rest

/-- The lines with a line feed between each and the next. -/
def joinLines : List Text → Text
  | [] => []
  | [line] => line
  | line :: rest => line ++ '\n' :: joinLines rest

/-! ## Replacing and printing -/

/-- Every `old` becomes `new`. -/
def replace (old new : Char) (text : Text) : Text :=
  text.map fun c => if c = old then new else c

/-- The texts with `separator` between each and the next. -/
def join (separator : Text) : List Text → Text
  | [] => []
  | [text] => text
  | text :: rest => text ++ separator ++ join separator rest

/-- The decimal digits of a natural number. -/
def ofNat (n : Nat) : Text := Nat.toDigits 10 n

/-- The decimal digits of an integer, after `-` when it is negative. -/
def ofInt : Int → Text
  | .ofNat n => ofNat n
  | .negSucc n => '-' :: ofNat (n + 1)

/-- The length of the text in bytes, as it is stored. -/
def byteLength (text : Text) : Nat :=
  text.foldl (fun n c => n + c.utf8Size) 0

/-- The order of names: by code point at the first difference, a proper start first. -/
def le : (a b : Text) → Bool
  | [], _ => true
  | _ :: _, [] => false
  | a :: as, b :: bs => if a.toNat = b.toNat then le as bs else a.toNat < b.toNat

end Text

end Bindery
