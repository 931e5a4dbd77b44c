import Bindery.Text.Basic

set_option autoImplicit false

/-! # Comments

A comment starts with `<!--` and ends with the first `-->` behind at least one more character. It
may span lines. A `<!--` without such an end is text. -/

namespace Bindery

/-- What a comment starts with. -/
def commentStart : Text := ['<', '!', '-', '-']

/-- What a comment ends with. -/
def commentEnd : Text := ['-', '-', '>']

/-- What follows the comment that a text starts with. -/
def afterComment? (text : Text) : Option Text :=
  match Text.after? commentStart text with
  | some (_ :: inside) => (Text.cut? commentEnd inside).map (·.2)
  | _ => none

theorem length_lt_of_afterComment? {text rest : Text} (h : afterComment? text = some rest) :
    rest.length < text.length := by
  unfold afterComment? at h
  split at h
  · next c inside hi =>
    obtain ⟨⟨b, r⟩, hc, he⟩ := Option.map_eq_some_iff.1 h
    cases he
    rw [Text.after?_eq_some.1 hi, Text.eq_of_cut? hc]
    simp only [List.length_append, List.length_cons]
    omega
  · cases h

/-- Removes all comments. -/
def removeComments : Text → Text
  | [] => []
  | c :: text =>
    match h : afterComment? (c :: text) with
    | some rest =>
      have := length_lt_of_afterComment? h
      removeComments rest
    | none => c :: removeComments text
  termination_by text => text.length
  decreasing_by
    · exact this
    · exact Nat.lt_succ_self text.length

end Bindery
