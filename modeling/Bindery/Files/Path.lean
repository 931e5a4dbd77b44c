import Bindery.Text.Utf8

set_option autoImplicit false

/-! # Paths

A path is kept as the text it was written as: `book//a` and `book/a` name the same file and stay
two texts, because messages print paths as they were put together.

The components of a path are read off the text: empty pieces and inner `.` pieces are none, a
`.` in front of a relative path is one. Each component comes with the length of the path up to
its end, so that a parent is a start of the text. -/

namespace Bindery

/-- A path as it is written. -/
abbrev Path := Text

namespace Path

/-- A step of a path. -/
inductive Component where
  /-- The `/` an absolute path starts with. -/
  | root
  /-- A `.` in front of a relative path. -/
  | here
  /-- A `..`. -/
  | up
  /-- A name. -/
  | name (name : Text)
  deriving DecidableEq, Repr

/-- The path starts at the root directory. -/
def isAbsolute (p : Path) : Bool := p.head? == some '/'

/-- The pieces between slashes. -/
def pieces : Path → List Text
  | [] => [[]]
  | c :: p =>
    if c = '/' then [] :: pieces p
    else
      match pieces p with
      | [] => [[c]]
      | piece :: rest => (c :: piece) :: rest

/-- The components that the pieces of a path stand for, each with the offset behind it. The
first piece starts at `offset`; `front` says whether it starts a relative path. -/
def componentsFrom (offset : Nat) (front : Bool) : List Text → List (Component × Nat)
  | [] => []
  | piece :: rest =>
    let stop := offset + piece.length
    let rest := componentsFrom (stop + 1) false rest
    if piece = [] then rest
    else if piece = ['.'] then if front then (.here, stop) :: rest else rest
    else if piece = ['.', '.'] then (.up, stop) :: rest
    else (.name piece, stop) :: rest

/-- The components of a path, each with the length of the path up to its end. -/
def components (p : Path) : List (Component × Nat) :=
  if p.isAbsolute then (.root, 1) :: componentsFrom 0 false (pieces p)
  else componentsFrom 0 true (pieces p)

/-- The path of `p` seen from `base`. An absolute `p` is itself; joining an empty `p` leaves a
slash behind a base that is not empty. -/
def join (base p : Path) : Path :=
  if p.isAbsolute then p
  else if base = [] || base.getLast? == some '/' then base ++ p
  else base ++ '/' :: p

/-- The directories above a path, the nearest first: each is the parent of the one before it. The
root directory and the empty path are left out. -/
def parents (p : Path) : List Path :=
  (p.components.dropLast.reverse.filter (·.1 ≠ .root)).map fun (_, stop) => p.take stop

/-- The name at the end of the path and the offset it starts at; a path that ends in `/`, `.` at
its front or `..` has none. -/
def fileName? (p : Path) : Option (Text × Nat) :=
  match p.components.getLast? with
  | some (.name n, stop) => some (n, stop - n.length)
  | _ => none

/-! ## Stem and extension -/

/-- Splits a name at its last dot: the stem before it and the extension behind it. A name without
a dot, or whose only dot is its first character, is all stem. -/
def splitName (name : Text) : Text × Option Text :=
  let tail := name.reverse.takeWhile (· ≠ '.')
  match (name.reverse.dropWhile (· ≠ '.')).reverse with
  | [] => (name, none)
  | ['.'] => (name, none)
  | front => (front.dropLast, some tail.reverse)

/-- The stem of the name at the end of the path. -/
def stem? (p : Path) : Option Text :=
  (fileName? p).map fun (n, _) => (splitName n).1

/-- The path with the extension of its last name replaced, or added. A path without a name at its
end stays. -/
def withExtension (p : Path) (extension : Text) : Path :=
  match fileName? p with
  | none => p
  | some (n, start) => p.take start ++ (splitName n).1 ++ '.' :: extension

end Path

end Bindery
