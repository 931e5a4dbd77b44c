import Bindery.Text.Basic

set_option autoImplicit false

/-! # UTF-8

Files and the output of programs are bytes. Writing a text encodes it; reading decodes it with
a machine that takes one byte at a time. Three readings share the machine:

* `Utf8.decode?` refuses a sequence that is not UTF-8;
* `Utf8.decode` also says at which byte and why it refuses;
* `Utf8.decodeLossy` puts `U+FFFD` for each longest piece that starts a character and cannot be
  completed. -/

namespace Bindery

/-- A sequence of bytes. -/
abbrev Bytes := List UInt8

namespace Utf8

/-! ## Writing -/

/-- The bytes of one character: one to four, by the size of its code point. -/
def encodeChar (c : Char) : Bytes :=
  let n := c.toNat
  if n < 0x80 then [n.toUInt8]
  else if n < 0x800 then [(0xC0 + n / 64).toUInt8, (0x80 + n % 64).toUInt8]
  else if n < 0x10000 then
    [(0xE0 + n / 4096).toUInt8, (0x80 + n / 64 % 64).toUInt8, (0x80 + n % 64).toUInt8]
  else
    [(0xF0 + n / 262144).toUInt8, (0x80 + n / 4096 % 64).toUInt8, (0x80 + n / 64 % 64).toUInt8,
      (0x80 + n % 64).toUInt8]

/-- The bytes of a text. -/
def encode (text : Text) : Bytes := text.flatMap encodeChar

/-! ## The machine -/

/-- A character whose last bytes are still to come. -/
structure Pending where
  /-- How many bytes are still to come, less one. -/
  owed : Nat
  /-- The least byte that may come next. -/
  low : Nat
  /-- The greatest byte that may come next. -/
  high : Nat
  /-- The bits read so far. -/
  bits : Nat
  /-- How many bytes were read. -/
  taken : Nat

/-- What a byte between characters begins. -/
inductive Start where
  /-- It is a character by itself. -/
  | char (c : Char)
  /-- It is the first byte of a longer character. -/
  | lead (p : Pending)
  /-- No character starts with it. -/
  | refused

/-- The role of a byte that stands between characters. The second byte is confined where a wider
range would write a code point in too many bytes, a surrogate, or a code point past the last. -/
def start (byte : UInt8) : Start :=
  let b := byte.toNat
  if b < 0x80 then .char (Char.ofNat b)
  else if b < 0xC2 then .refused
  else if b < 0xE0 then .lead ⟨0, 0x80, 0xBF, b - 0xC0, 1⟩
  else if b = 0xE0 then .lead ⟨1, 0xA0, 0xBF, 0, 1⟩
  else if b = 0xED then .lead ⟨1, 0x80, 0x9F, 0xD, 1⟩
  else if b < 0xF0 then .lead ⟨1, 0x80, 0xBF, b - 0xE0, 1⟩
  else if b = 0xF0 then .lead ⟨2, 0x90, 0xBF, 0, 1⟩
  else if b < 0xF4 then .lead ⟨2, 0x80, 0xBF, b - 0xF0, 1⟩
  else if b = 0xF4 then .lead ⟨2, 0x80, 0x8F, 4, 1⟩
  else .refused

/-- What the next byte makes of a pending character; `refused` when it does not belong to it. -/
def Pending.next (p : Pending) (byte : UInt8) : Start :=
  let b := byte.toNat
  if p.low ≤ b ∧ b ≤ p.high then
    let bits := p.bits * 64 + (b - 0x80)
    match p.owed with
    | 0 => .char (Char.ofNat bits)
    | owed + 1 => .lead ⟨owed, 0x80, 0xBF, bits, p.taken + 1⟩
  else .refused

/-! ## Reading -/

/-- Why a byte sequence is no text. -/
inductive Fault where
  /-- From byte `index` on, the first `length` bytes belong to no character. -/
  | invalid (index length : Nat)
  /-- The character that starts at byte `index` is cut off by the end. -/
  | incomplete (index : Nat)
  deriving DecidableEq, Repr

/-- What is said about bytes that are no text. -/
def Fault.message : Fault → Text
  | .invalid index length =>
    "invalid utf-8 sequence of ".toList ++ Text.ofNat length ++ " bytes from index ".toList ++
      Text.ofNat index
  | .incomplete index =>
    "incomplete utf-8 byte sequence from index ".toList ++ Text.ofNat index

/-- Decodes the bytes that follow a pending character, or none; `index` is where that character,
or the first of the bytes, stands. -/
def decodeFrom (index : Nat) : Option Pending → Bytes → Except Fault Text
  | none, [] => .ok []
  | some _, [] => .error (.incomplete index)
  | none, b :: bytes =>
    match start b with
    | .char c => (decodeFrom (index + 1) none bytes).map (c :: ·)
    | .lead p => decodeFrom index (some p) bytes
    | .refused => .error (.invalid index 1)
  | some p, b :: bytes =>
    match p.next b with
    | .char c => (decodeFrom (index + p.taken + 1) none bytes).map (c :: ·)
    | .lead p' => decodeFrom index (some p') bytes
    | .refused => .error (.invalid index p.taken)

/-- The text that the bytes encode, or the first reason why there is none. -/
def decode (bytes : Bytes) : Except Fault Text := decodeFrom 0 none bytes

/-- The text that the bytes encode, if they encode one. -/
def decode? (bytes : Bytes) : Option Text := (decode bytes).toOption

/-- The character that stands for bytes that belong to no character. -/
def replacement : Char := '\uFFFD'

/-- Decodes the bytes that follow a pending character, or none, with replacements. A byte that
does not continue the pending character is looked at again as the start of one. -/
def decodeLossyFrom : Option Pending → Bytes → Text
  | none, [] => []
  | some _, [] => [replacement]
  | none, b :: bytes =>
    match start b with
    | .char c => c :: decodeLossyFrom none bytes
    | .lead p => decodeLossyFrom (some p) bytes
    | .refused => replacement :: decodeLossyFrom none bytes
  | some p, b :: bytes =>
    match p.next b with
    | .char c => c :: decodeLossyFrom none bytes
    | .lead p' => decodeLossyFrom (some p') bytes
    | .refused =>
      match start b with
      | .char c => replacement :: c :: decodeLossyFrom none bytes
      | .lead p' => replacement :: decodeLossyFrom (some p') bytes
      | .refused => replacement :: replacement :: decodeLossyFrom none bytes

/-- The text that the bytes encode, with replacements where they encode none. -/
def decodeLossy (bytes : Bytes) : Text := decodeLossyFrom none bytes

end Utf8

end Bindery
