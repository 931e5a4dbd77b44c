import Bindery.Proofs.Line.Division
import Bindery.Proofs.Unicode.Lowercase

set_option autoImplicit false

/-! # Links and their labels

A link tells its label (`linkText_injective`), although the label may hold the brackets that end it
and different labels can have one anchor. Of two labels with the same link, the shorter one would be
the front of the longer one; but then the anchor of the longer one is no shorter, and its link is
longer (`length_linkText`). So references with different labels become different links, and so do
references to documents with different titles (`link_ne_link`). -/

namespace Bindery

/-! ## The label of a link -/

/-- The link with a label as it is written: the label in square brackets, and in round ones a number
sign and the label in lower case with hyphens for spaces. -/
def linkText (label : Text) : Text :=
  '[' :: (label ++ ([']', '(', '#'] ++ Text.replace ' ' '-' (lowercase label) ++ [')']))

theorem linkTo_eq (label : Text) : linkTo label = linkText label := by
  simp [linkTo, linkText, anchorFor]

/-- Only a character whose lowercase form is longer makes the anchor longer than the label. -/
theorem length_linkText (label : Text) :
    (linkText label).length = 2 * label.length + label.count '\u0130' + 5 := by
  simp only [linkText, Text.replace, List.length_append, List.length_cons, List.length_nil,
    List.length_map, length_lowercase]
  omega

/-- The shorter of two labels with one link is the front of the longer. -/
theorem isPrefix_of_linkText_eq {short long : Text} (hle : short.length ≤ long.length)
    (h : linkText short = linkText long) : short <+: long := by
  rw [linkText, linkText, List.cons.injEq] at h
  have hshort := List.prefix_append short
    ([']', '(', '#'] ++ Text.replace ' ' '-' (lowercase short) ++ [')'])
  rw [h.2] at hshort
  exact List.prefix_of_prefix_length_le hshort (List.prefix_append ..) hle

theorem eq_of_linkText_eq {short long : Text} (hle : short.length ≤ long.length)
    (h : linkText short = linkText long) : short = long := by
  obtain ⟨rest, rfl⟩ := isPrefix_of_linkText_eq hle h
  have hlength := congrArg List.length h
  rw [length_linkText, length_linkText, List.length_append, List.count_append] at hlength
  have hrest : rest.length = 0 := by omega
  rw [List.length_eq_zero_iff.1 hrest, List.append_nil]

/-- A link tells its label. -/
theorem linkText_injective : Function.Injective linkText := by
  intro a b h
  rcases Nat.le_total a.length b.length with hle | hle
  · exact eq_of_linkText_eq hle h
  · exact (eq_of_linkText_eq hle h.symm).symm

/-- Two labels with one anchor. -/
example : anchorFor "A b".toList = anchorFor "a-b".toList ∧
    linkText "A b".toList ≠ linkText "a-b".toList := by
  decide

/-! ## The links of references -/

/-- The target is that of a reference to the whole document: its identifier, without `#` in it. A
target with `#` is that of a reference to a part, whatever documents there are. -/
def TargetsDocument (index : Index) (target : Text) (record : Record) : Prop :=
  '#' ∉ target ∧ index.get? target = some record

theorem TargetsDocument.isLabelOf {index : Index} {target title : Text} {record : Record}
    (h : TargetsDocument index target record) (htitle : record.title = some title) :
    IsLabelOf index target title :=
  .title h.1 h.2 htitle

theorem resolve_of_isLabelOf {index : Index} {target label : Text}
    (h : IsLabelOf index target label) :
    Piece.resolve index (.reference target) = .ok (linkText label) := by
  rw [Piece.resolve, labelOf_eq_ok_iff.2 h, ← linkTo_eq]
  rfl

/-- Links are written as `linkText` says, and different labels have different ones. So have any two
documents with different titles, and references to them as a whole become these links; and so do any
two references, to documents or to parts, whose labels are different. -/
theorem link_ne_link :
    (∀ label : Text, linkTo label = linkText label) ∧
    (∀ a b : Text, a ≠ b → linkText a ≠ linkText b) ∧
    (∀ (index : Index) (record record' : Record) (title title' : Text),
      record ∈ index.records → record' ∈ index.records →
      record.title = some title → record'.title = some title' → title ≠ title' →
      linkText title ≠ linkText title' ∧
      ∀ target target' : Text, TargetsDocument index target record →
        TargetsDocument index target' record' →
        Piece.resolve index (.reference target) = .ok (linkText title) ∧
        Piece.resolve index (.reference target') = .ok (linkText title')) ∧
    (∀ (index : Index) (target target' label label' : Text),
      IsLabelOf index target label → IsLabelOf index target' label' → label ≠ label' →
      Piece.resolve index (.reference target) = .ok (linkText label) ∧
      Piece.resolve index (.reference target') = .ok (linkText label') ∧
      linkText label ≠ linkText label') := by
  have hne : ∀ a b : Text, a ≠ b → linkText a ≠ linkText b :=
    fun a b hab => linkText_injective.ne hab
  refine ⟨linkTo_eq, hne, ?_, ?_⟩
  · intro index record record' title title' _ _ htitle htitle' hdiffer
    refine ⟨hne title title' hdiffer, fun target target' htargets htargets' => ⟨?_, ?_⟩⟩
    · exact resolve_of_isLabelOf (htargets.isLabelOf htitle)
    · exact resolve_of_isLabelOf (htargets'.isLabelOf htitle')
  · intro index target target' label label' hlabel hlabel' hdiffer
    exact ⟨resolve_of_isLabelOf hlabel, resolve_of_isLabelOf hlabel', hne label label' hdiffer⟩

end Bindery
