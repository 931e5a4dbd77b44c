import Bindery.Line.CrossReference
import Bindery.Line.Optionality
import Bindery.Line.Image
import Bindery.Line.HeadingLevel

set_option autoImplicit false

/-! # Preparing a line of a chapter

Each line of a chapter passes four changes, in this order: cross-references become links,
optionality markers move, an image at the start gets its file and width, and a heading goes one
level down. Only the first and the third can fail. -/

namespace Bindery

/-- Why a line cannot be prepared. -/
inductive LineError where
  | reference (error : IndexError)
  | asset (missing : MissingAsset)
  deriving DecidableEq, Repr

/-- The words for it. -/
def LineError.message : LineError → Text
  | .reference error => error.message
  | .asset missing => missing.message

/-- Applies all changes to a line. -/
def prepareLine (index : Index) (assets : Assets) (line : Text) : Except LineError Text :=
  match resolveReferences index line with
  | .error e => .error (.reference e)
  | .ok linked =>
    match resolveImage assets (moveOptionality linked) with
    | .error missing => .error (.asset missing)
    | .ok shown => .ok (pushHeading shown)

end Bindery
