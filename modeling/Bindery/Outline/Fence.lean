import Bindery.Text.Basic

set_option autoImplicit false

/-! # Fenced code

A run of three or more backticks or tildes opens a block of code. A run of the same character
that is at least as long, with nothing behind it, closes the block. Both lines belong to it. -/

namespace Bindery

/-- The run of a fence. -/
structure Fence where
  /-- A backtick or a tilde. -/
  marker : Char
  /-- How often it stands. -/
  length : Nat
  deriving DecidableEq, Repr

namespace Fence

/-- The least length of a run. -/
def minLength : Nat := 3

/-- The run that an unindented line starts with, if it is one of a fence. -/
def ofStart? (line : Text) : Option Fence :=
  match line with
  | [] => none
  | c :: _ =>
    let length := (line.takeWhile (· = c)).length
    if (c = '\x60' ∨ c = '~') ∧ minLength ≤ length then some ⟨c, length⟩ else none

/-- The unindented line closes the block that the fence opened. -/
def isClosedBy (fence : Fence) (line : Text) : Bool :=
  match ofStart? line with
  | none => false
  | some run =>
    run.marker = fence.marker && fence.length ≤ run.length &&
      (line.drop run.length).all isBlank

/-- Looks at a line while the given fence, or none, is open: says whether the line is code and
which fence is open behind it. -/
def look (opened : Option Fence) (line : Text) : Bool × Option Fence :=
  let line := Text.trimStart line
  match opened with
  | some fence => (true, if fence.isClosedBy line then none else some fence)
  | none => ((ofStart? line).isSome, ofStart? line)

end Fence

/-- Says of each line whether it is code, from a place on where the given fence, or none, is
open. -/
def codeLines (opened : Option Fence) : List Text → List Bool
  | [] => []
  | line :: lines =>
    let (isCode, opened) := Fence.look opened line
    isCode :: codeLines opened lines

/-- Each line gets one answer. -/
@[simp]
theorem length_codeLines (opened : Option Fence) (lines : List Text) :
    (codeLines opened lines).length = lines.length := by
  induction lines generalizing opened with
  | nil => rfl
  | cons line lines ih => simp [codeLines, ih]

end Bindery
