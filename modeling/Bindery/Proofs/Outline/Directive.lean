import Bindery.Outline.Directive
import Bindery.Proofs.Span
import Bindery.Proofs.Text.Trim

set_option autoImplicit false

/-! # The grammar of inclusion directives

`IsDirective` spells out what a directive looks like, and `directive?_eq_some_iff` says that
`directive?` reads exactly that. -/

namespace Bindery

/-- The line is a list item that starts with the reference to `identifier` in backticks, and what
follows is within one line. -/
def IsDirective (line identifier : Text) : Prop :=
  ∃ blanks behind,
    line = '-' :: (blanks ++ directiveMarker ++ identifier ++ '>' :: '\x60' :: behind) ∧
      (∀ c ∈ blanks, isBlank c = true) ∧
        (identifier ≠ [] ∧ ∀ c ∈ identifier, isWord c = true) ∧ '\n' ∉ behind

theorem isDirective_of_directive? {line identifier : Text}
    (h : directive? line = some identifier) : IsDirective line identifier := by
  unfold directive? at h
  split at h
  · cases h
  · next rest hrest =>
    split at h
    · cases h
    · next target htarget =>
      split at h
      · next c word behind hword hbehind =>
        split at h
        · cases h
        · next hline =>
          cases h
          obtain ⟨hcut, hall, -⟩ := span_cons_iff.1 ⟨hword, hbehind⟩
          refine ⟨rest.takeWhile isBlank, behind, ?_, fun c hc => List.mem_takeWhile_imp hc,
            ⟨by simp, hall⟩, hline⟩
          rw [Text.after?_eq_some] at hrest htarget
          rw [hrest, List.append_assoc, List.append_assoc, ← hcut, ← htarget, Text.trimStart,
            List.takeWhile_append_dropWhile]
          rfl
      · cases h

theorem directive?_of_isDirective {line identifier : Text} (h : IsDirective line identifier) :
    directive? line = some identifier := by
  obtain ⟨blanks, behind, rfl, hblanks, ⟨hne, hword⟩, hline⟩ := h
  obtain ⟨c, word, rfl⟩ := List.exists_cons_of_ne_nil hne
  have htrim : Text.trimStart (blanks ++ directiveMarker ++ c :: word ++ '>' :: '\x60' :: behind) =
      directiveMarker ++ (c :: word ++ '>' :: '\x60' :: behind) := by
    rw [List.append_assoc, List.append_assoc]
    exact Text.trimStart_append hblanks (by decide)
  obtain ⟨htake, hdrop⟩ := span_cons_iff.2
    ⟨(rfl : c :: word ++ '>' :: '\x60' :: behind = _), hword, by decide⟩
  have hdash := Text.after?_append ['-']
    (blanks ++ directiveMarker ++ c :: word ++ '>' :: '\x60' :: behind)
  unfold directive?
  rw [List.singleton_append] at hdash
  simp only [hdash, htrim, Text.after?_append, htake, hdrop, if_neg hline]

/-- `directive?` reads exactly the directives. -/
theorem directive?_eq_some_iff {line identifier : Text} :
    directive? line = some identifier ↔ IsDirective line identifier :=
  ⟨isDirective_of_directive?, directive?_of_isDirective⟩

theorem directive?_eq_none_iff {line : Text} :
    directive? line = none ↔ ∀ identifier, ¬ IsDirective line identifier := by
  rw [Option.eq_none_iff_forall_ne_some]
  simp only [ne_eq, directive?_eq_some_iff]

/-- A line is the directive of one chapter at most. -/
theorem IsDirective.unique {line identifier other : Text} (h : IsDirective line identifier)
    (ho : IsDirective line other) : identifier = other := by
  rw [← directive?_eq_some_iff] at h ho
  rw [h] at ho
  cases ho
  rfl

end Bindery
