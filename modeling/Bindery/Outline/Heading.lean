import Bindery.Outline.Fence

set_option autoImplicit false

/-! # Headings of the root document

A heading of the root document is one to six `#`, then white space or nothing, and a title, which
may be followed by more `#`. `shiftHeadings` moves all headings outside fenced code by a number of
levels. A heading that would rise above the first level becomes a paragraph; none sinks below the
sixth. -/

namespace Bindery

/-- A heading. -/
structure Heading where
  /-- From `1` to `6`. -/
  level : Nat
  title : Text
  deriving DecidableEq, Repr

namespace Heading

/-- The deepest level. -/
def deepest : Nat := 6

/-- A space or a tab. -/
def isSeparator (c : Char) : Bool := c == ' ' || c == '\t'

/-- The title without the run of `#` at its end, if that run is all of it or follows a space or a
tab. -/
def withoutClosing (title : Text) : Text :=
  match title.reverse.dropWhile (· = '#') with
  | [] => []
  | c :: before => if isSeparator c then Text.trimEnd (c :: before).reverse else title

/-- The heading that a line is. -/
def ofLine? (line : Text) : Option Heading :=
  let level := (line.takeWhile (· = '#')).length
  let rest := line.dropWhile (· = '#')
  if 1 ≤ level ∧ level ≤ deepest ∧ rest.head?.all isSeparator = true then
    some ⟨level, withoutClosing (Text.trim rest)⟩
  else none

/-- The line of a heading that is moved by a number of levels. -/
def shift (heading : Heading) (levels : Int) : Text :=
  let level := heading.level + levels
  if level < 1 then heading.title
  else List.replicate (min deepest level.toNat) '#' ++ ' ' :: heading.title

end Heading

/-- A line outside code, with its heading moved if it is one. -/
def shiftLine (levels : Int) (line : Text) : Text :=
  match Heading.ofLine? line with
  | some heading => heading.shift levels
  | none => line

/-- The lines of a document with the headings outside code moved. -/
def shiftLines (levels : Int) (lines : List Text) : List Text :=
  List.zipWith (fun isCode line => if isCode then line else shiftLine levels line)
    (codeLines none lines) lines

/-- No line is lost or added. -/
@[simp]
theorem length_shiftLines (levels : Int) (lines : List Text) :
    (shiftLines levels lines).length = lines.length := by
  simp [shiftLines]

/-- A document with the headings outside code moved by a number of levels. -/
def shiftHeadings (levels : Int) (text : Text) : Text :=
  Text.joinLines (shiftLines levels (Text.lines text))

end Bindery
