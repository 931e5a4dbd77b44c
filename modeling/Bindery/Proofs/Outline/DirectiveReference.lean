import Bindery.Proofs.Line.Resolution
import Bindery.Proofs.Outline.Directive

set_option autoImplicit false

/-! # The reference in an inclusion directive

Directives and cross-references are recognised by two readers of their own. A directive is a line
whose first cross-reference is to a whole document (`IsDirective.exists_referenceAt`), and both read
the same identifier from it (`directive?_reads_reference`): the characters of an identifier are
among those of a reference target, and neither the `#` that starts a fragment nor the `>` that ends
a reference is one of them. -/

namespace Bindery

variable {line identifier : Text}

/-- An identifier of word characters is a target of references. -/
theorem isTarget_of_isWord (hne : identifier ≠ []) (hword : ∀ c ∈ identifier, isWord c = true) :
    IsTarget identifier := by
  refine ⟨hne, fun c hc => ?_⟩
  rw [isTargetChar, hword c hc]
  rfl

theorem IsDirective.isTarget (h : IsDirective line identifier) : IsTarget identifier := by
  obtain ⟨_, _, _, _, ⟨hne, hword⟩, _⟩ := h
  exact isTarget_of_isWord hne hword

/-- The identifier of a directive refers to a whole document. -/
theorem IsDirective.fragment?_eq_none (h : IsDirective line identifier) :
    fragment? identifier = none := by
  obtain ⟨_, _, _, _, ⟨_, hword⟩, _⟩ := h
  rw [fragment?_eq_none_iff]
  intro hmem
  exact absurd (hword '#' hmem) (by decide)

/-- So its label is the title of the document. -/
theorem IsDirective.labelOf_eq (h : IsDirective line identifier) (index : Index) :
    labelOf index identifier = index.titleFor identifier := by
  rw [labelOf, h.fragment?_eq_none]

/-- The reference of a directive stands behind the backtick, and no other opens in front of it. -/
theorem IsDirective.exists_referenceAt (h : IsDirective line identifier) :
    ∃ before behind, ReferenceAt line before identifier behind ∧ '<' ∉ before := by
  have htarget := h.isTarget
  obtain ⟨blanks, behind, rfl, hblanks, -, -⟩ := h
  refine ⟨'-' :: (blanks ++ ['\x60']), '\x60' :: behind, ⟨?_, htarget⟩, ?_⟩
  · simp [referenceTo, directiveMarker, referenceMarker]
  · intro hmem
    have hblank : '<' ∈ blanks := by simpa using hmem
    exact absurd (hblanks '<' hblank) (by decide)

/-- A line is read as the directive of a chapter exactly if it has the form of one, and it has that
of one chapter at most. The first cross-reference that is found in the line is one to the document
of that chapter, without a fragment: it becomes a link with the title of the document, or the
document without a title is the error. -/
theorem directive?_reads_reference (line : Text) :
    (∀ identifier, directive? line = some identifier ↔ IsDirective line identifier) ∧
      (∀ identifier other, IsDirective line identifier → IsDirective line other →
        identifier = other) ∧
      ∀ identifier, IsDirective line identifier →
        fragment? identifier = none ∧
          ∃ before behind, ReferenceAt line before identifier behind ∧ ¬ HoldsReference before ∧
            Piece.scan line =
              before.map .plain ++ .reference identifier :: Piece.scan behind ∧
            ∀ index, resolveReferences index line =
              match index.titleFor identifier with
              | .error e => .error e
              | .ok title =>
                (resolveReferences index behind).map (before ++ linkTo title ++ ·) := by
  refine ⟨fun _ => directive?_eq_some_iff, fun _ _ h ho => h.unique ho, fun identifier h => ?_⟩
  obtain ⟨before, behind, hat, hopen⟩ := h.exists_referenceAt
  have hbefore : ¬ HoldsReference before := not_holdsReference_of_not_mem hopen
  refine ⟨h.fragment?_eq_none, before, behind, hat, hbefore, ?_, fun index => ?_⟩
  · rw [hat.eq, scan_reference hbefore hat.isTarget]
  · rw [hat.eq]
    refine (resolveReferences_reference hbefore hat.isTarget).trans ?_
    cases htitle : index.titleFor identifier <;> simp only [h.labelOf_eq, htitle]

end Bindery
