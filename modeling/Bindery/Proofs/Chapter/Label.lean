import Bindery.Chapter.DefinitionList
import Bindery.Proofs.Span

set_option autoImplicit false

/-! # Labels of definitions

A line opens an item of a definition list when it reads `- term Label:`. `StartsWithLabel` says
that a text could be the label; the label is the longest such text (`IsLabel`), so a colon inside a
label does not end it. `label?_eq_some_iff` and `label?_eq_none_iff` say that `label?` finds it. -/

namespace Bindery

namespace DefinitionList

/-- The line starts with the marker, the label and a colon, and the label is within one line. -/
def StartsWithLabel (line label : Text) : Prop :=
  label ≠ [] ∧ '\n' ∉ label ∧ "- term ".toList ++ label ++ [':'] <+: line

/-- The longest text that the line starts with as a label. -/
def IsLabel (line label : Text) : Prop :=
  StartsWithLabel line label ∧ ∀ other, StartsWithLabel line other → other.length ≤ label.length

/-! ## The last colon -/

theorem beforeLastColon?_eq_some_iff {text before : Text} :
    beforeLastColon? text = some before ↔
      ∃ behind, text = before ++ ':' :: behind ∧ ':' ∉ behind := by
  -- `beforeLastColon?` looks for the first colon of the reversed text
  unfold beforeLastColon?
  constructor
  · intro h
    split at h
    · cases h
    · next c rest hrest =>
      cases h
      obtain ⟨hsplit, hrun, rfl⟩ := span_ne_iff.1 ⟨rfl, hrest⟩
      refine ⟨(text.reverse.takeWhile (· ≠ ':')).reverse, ?_, ?_⟩
      · simpa using congrArg List.reverse hsplit
      · rwa [List.mem_reverse]
  · rintro ⟨behind, rfl, hbehind⟩
    rw [← List.mem_reverse] at hbehind
    have hsplit : (before ++ ':' :: behind).reverse = behind.reverse ++ ':' :: before.reverse := by
      simp
    rw [(span_ne_iff.2 ⟨hsplit, hbehind, rfl⟩).2]
    simp

theorem exists_lastColon {text : Text} (h : ':' ∈ text) :
    ∃ before behind, text = before ++ ':' :: behind ∧ ':' ∉ behind := by
  obtain ⟨back, front, hsplit, hback⟩ := List.eq_append_cons_of_mem (List.mem_reverse.2 h)
  refine ⟨front.reverse, back.reverse, ?_, fun hmem => hback (List.mem_reverse.1 hmem)⟩
  simpa using congrArg List.reverse hsplit

/-! ## The label -/

/-- What stands behind the marker up to the end of the line is cut at its last colon. -/
theorem label?_eq_some {line label : Text} :
    label? line = some label ↔
      ∃ rest, line = termMarker ++ rest ∧ label ≠ [] ∧
        beforeLastColon? (rest.takeWhile (· ≠ '\n')) = some label := by
  unfold label?
  constructor
  · intro h
    split at h
    · cases h
    · next rest hrest =>
      split at h
      · next c tail hbefore =>
        cases h
        exact ⟨rest, Text.after?_eq_some.1 hrest, by simp, hbefore⟩
      · cases h
  · rintro ⟨rest, rfl, hne, hbefore⟩
    obtain ⟨c, tail, rfl⟩ := List.exists_cons_of_ne_nil hne
    rw [Text.after?_append]
    simp only [hbefore]

theorem startsWithLabel_marker_append {rest label : Text} :
    StartsWithLabel (termMarker ++ rest) label ↔
      label ≠ [] ∧ label ++ [':'] <+: rest.takeWhile (· ≠ '\n') := by
  unfold StartsWithLabel termMarker
  rw [List.append_assoc, List.prefix_append_right_inj]
  constructor
  · rintro ⟨hne, hline, behind, rfl⟩
    have hrun : ∀ c ∈ label ++ [':'], decide (c ≠ '\n') = true := by
      intro c hc
      rcases List.mem_append.1 hc with hc | hc
      · have hcn : c ≠ '\n' := fun he => hline (he ▸ hc)
        simpa using hcn
      · simp_all
    rw [List.takeWhile_append_of_pos hrun]
    exact ⟨hne, List.prefix_append ..⟩
  · rintro ⟨hne, hpre⟩
    refine ⟨hne, ?_, hpre.trans (List.takeWhile_prefix _)⟩
    intro hmem
    have hall := List.mem_takeWhile_imp (hpre.subset (List.mem_append_left _ hmem))
    simp at hall

/-- A text that is followed by a colon reaches at most to the last colon. -/
theorem length_le_of_prefix_lastColon {label before behind : Text}
    (hpre : label ++ [':'] <+: before ++ ':' :: behind) (hbehind : ':' ∉ behind) :
    label.length ≤ before.length := by
  obtain ⟨tail, htail⟩ := hpre
  by_contra hlonger
  have hcolon : (before ++ ':' :: behind)[label.length]? = some ':' := by
    rw [← htail]
    simp
  obtain ⟨k, hk⟩ : ∃ k, label.length = before.length + (k + 1) :=
    ⟨label.length - before.length - 1, by omega⟩
  rw [hk, List.getElem?_append_right (by omega), Nat.add_sub_cancel_left,
    List.getElem?_cons_succ] at hcolon
  exact hbehind (List.mem_of_getElem? hcolon)

theorem isLabel_of_label? {line label : Text} (h : label? line = some label) :
    IsLabel line label := by
  obtain ⟨rest, rfl, hne, hbefore⟩ := label?_eq_some.1 h
  obtain ⟨behind, hcut, hbehind⟩ := beforeLastColon?_eq_some_iff.1 hbefore
  refine ⟨startsWithLabel_marker_append.2 ⟨hne, behind, ?_⟩, ?_⟩
  · rw [hcut, List.append_assoc]
    rfl
  · intro other hother
    obtain ⟨-, hpre⟩ := startsWithLabel_marker_append.1 hother
    rw [hcut] at hpre
    exact length_le_of_prefix_lastColon hpre hbehind

/-- A line that starts with some label has one that `label?` finds. -/
theorem exists_label? {line label : Text} (h : StartsWithLabel line label) :
    ∃ found, label? line = some found := by
  obtain ⟨rest, rfl⟩ : ∃ rest, line = termMarker ++ rest := by
    obtain ⟨-, -, tail, rfl⟩ := h
    exact ⟨label ++ [':'] ++ tail, by simp [termMarker]⟩
  obtain ⟨hne, hpre⟩ := startsWithLabel_marker_append.1 h
  have hmem : ':' ∈ rest.takeWhile (· ≠ '\n') :=
    hpre.subset (List.mem_append_right _ (List.mem_singleton_self _))
  obtain ⟨before, behind, hcut, hbehind⟩ := exists_lastColon hmem
  have hlength := length_le_of_prefix_lastColon (hcut ▸ hpre) hbehind
  have hbefore : before ≠ [] := by
    rintro rfl
    exact hne (List.length_eq_zero_iff.1 (by simpa using hlength))
  exact ⟨before, label?_eq_some.2
    ⟨rest, rfl, hbefore, beforeLastColon?_eq_some_iff.2 ⟨behind, hcut, hbehind⟩⟩⟩

theorem IsLabel.isInfix {line label : Text} (h : IsLabel line label) : label <:+: line := by
  obtain ⟨⟨-, -, rest, rfl⟩, -⟩ := h
  exact ⟨"- term ".toList, ':' :: rest, by simp⟩

/-- Two longest labels of a line are one. -/
theorem IsLabel.unique {line label other : Text} (h : IsLabel line label)
    (ho : IsLabel line other) : label = other := by
  have hlength : label.length = other.length := le_antisymm (ho.2 _ h.1) (h.2 _ ho.1)
  obtain ⟨tail, htail⟩ := h.1.2.2
  obtain ⟨tail', htail'⟩ := ho.1.2.2
  rw [← htail', List.append_assoc, List.append_assoc, List.append_assoc, List.append_assoc] at htail
  exact (List.append_inj (List.append_cancel_left htail) hlength).1

/-- The label that `label?` finds is the longest, and it finds one if there is any. -/
theorem label?_eq_some_iff {line label : Text} :
    label? line = some label ↔ IsLabel line label := by
  constructor
  · exact isLabel_of_label?
  · intro h
    obtain ⟨found, hfound⟩ := exists_label? h.1
    rw [hfound, h.unique (isLabel_of_label? hfound)]

theorem label?_eq_none_iff {line : Text} : label? line = none ↔ ∀ label, ¬ IsLabel line label := by
  rw [Option.eq_none_iff_forall_ne_some]
  simp only [ne_eq, label?_eq_some_iff]

end DefinitionList

end Bindery
