import Bindery.Unicode.Word
import Bindery.Unicode.Lowercase
import Bindery.Index.Basic

set_option autoImplicit false

/-! # Cross-references

A line refers to a document by `<doc:Target>`, or to a part of one by `<doc:Target#Fragment>`.
Each reference becomes a link whose label is the document's title or the fragment, and whose
target is the anchor of the heading with that label.

`Piece.scan` cuts a line into references and single characters, and `resolveReferences` goes
through the line piece by piece. -/

namespace Bindery

/-- What a cross-reference starts with. -/
def referenceMarker : Text := ['<', 'd', 'o', 'c', ':']

/-- The characters a reference target is made of. -/
def isTargetChar (c : Char) : Bool := isWord c || c == '#' || c == '-'

/-- The target of a reference at the start of the text, and the text behind the reference. -/
def reference? (text : Text) : Option (Text × Text) :=
  match Text.after? referenceMarker text with
  | none => none
  | some rest =>
    match rest.takeWhile isTargetChar, rest.dropWhile isTargetChar with
    | t :: target, '>' :: rest => some (t :: target, rest)
    | _, _ => none

/-- A successful reading gives back the text it read. -/
theorem eq_of_reference? {text target rest : Text} (h : reference? text = some (target, rest)) :
    text = referenceMarker ++ target ++ '>' :: rest := by
  unfold reference? at h
  split at h
  · cases h
  · next r hr =>
    split at h
    · next t target' rest' ht hd =>
      cases h
      rw [Text.after?_eq_some.1 hr, List.append_assoc]
      congr 1
      rw [← List.takeWhile_append_dropWhile (p := isTargetChar) (l := r), ht, hd]
    · cases h

theorem length_lt_of_reference? {text target rest : Text}
    (h : reference? text = some (target, rest)) : rest.length < text.length := by
  rw [eq_of_reference? h]
  simp only [List.length_append, List.length_cons]
  omega

/-! ## Pieces of a line -/

/-- A part of a line: a reference, or a character outside all references. -/
inductive Piece where
  | plain (c : Char)
  | reference (target : Text)
  deriving DecidableEq, Repr

namespace Piece

/-- Cuts a line into pieces, a reference wherever one starts outside an earlier one. -/
def scan : Text → List Piece
  | [] => []
  | c :: text =>
    match h : reference? (c :: text) with
    | some (target, rest) =>
      have := length_lt_of_reference? h
      reference target :: scan rest
    | none => plain c :: scan text
  termination_by text => text.length
  decreasing_by
    · exact this
    · exact Nat.lt_succ_self text.length

end Piece

/-! ## Links -/

/-- The anchor of the heading with the given label. -/
def anchorFor (label : Text) : Text := Text.replace ' ' '-' (lowercase label)

/-- A link to the heading with the given label. -/
def linkTo (label : Text) : Text :=
  '[' :: label ++ [']', '(', '#'] ++ anchorFor label ++ [')']

/-- What follows the first `#` of a target. -/
def fragment? (target : Text) : Option Text :=
  match target.dropWhile (· ≠ '#') with
  | [] => none
  | _ :: fragment => some fragment

/-- The label of a reference: its fragment with spaces for hyphens, else the title of the document
it names. -/
def labelOf (index : Index) (target : Text) : Except IndexError Text :=
  match fragment? target with
  | some fragment => .ok (Text.replace '-' ' ' fragment)
  | none => index.titleFor target

/-- The link that takes the place of a piece; a character stays. -/
def Piece.resolve (index : Index) : Piece → Except IndexError Text
  | plain c => .ok [c]
  | reference target => (labelOf index target).map linkTo

/-- Replaces every cross-reference of a line by a link. The leftmost reference that names no
document, or one without a title, is the error. -/
def resolveReferences (index : Index) (line : Text) : Except IndexError Text :=
  ((Piece.scan line).mapM (Piece.resolve index)).map List.flatten

end Bindery
