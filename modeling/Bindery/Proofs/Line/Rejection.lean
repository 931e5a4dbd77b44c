import Bindery.Line.Preparation
import Bindery.Proofs.Line.Image
import Bindery.Proofs.Line.Resolution

set_option autoImplicit false

/-! # Lines that cannot be prepared

`LineFault` says when a line cannot be prepared: a reference without a label comes before an image
that cannot be used. Since moving optionality markers keeps images, the image is the one that the
line starts with once its references are links. -/

namespace Bindery

variable {index : Index} {assets : Assets}

/-- The line cannot be prepared, for the given reason. -/
inductive LineFault (index : Index) (assets : Assets) (line : Text) : LineError → Prop
  /-- A reference has no label; the leftmost such reference counts. -/
  | reference {e : IndexError} : LeftmostFault index line e →
      LineFault index assets line (.reference e)
  /-- All references have labels, and the line with links in their places starts with an image
  whose file has no readable PNG head. -/
  | image {linked name : Text} {missing : MissingAsset} :
      resolveReferences index line = .ok linked → StartsWithImage linked name →
      ImageFault assets name missing → LineFault index assets line (.asset missing)

/-- A line is rejected exactly for its fault. -/
theorem prepareLine_eq_error_iff {line : Text} {e : LineError} :
    prepareLine index assets line = .error e ↔ LineFault index assets line e := by
  rw [prepareLine]
  cases hlinked : resolveReferences index line with
  | error e' =>
    have hfault := resolveReferences_eq_error_iff.1 hlinked
    constructor
    · intro h
      cases h
      exact .reference hfault
    · intro h
      cases h with
      | reference h =>
        rw [resolveReferences_eq_error_iff.2 h] at hlinked
        cases hlinked
        rfl
      | image h _ _ => simp [hlinked] at h
  | ok linked =>
    -- only the image can still be at fault
    have hno : ∀ e', ¬ LeftmostFault index line e' := by
      intro e' hfault
      rw [resolveReferences_eq_error_iff.2 hfault] at hlinked
      cases hlinked
    constructor
    · intro h
      cases himage : resolveImage assets (moveOptionality linked) with
      | error missing =>
        simp only [himage, Except.error.injEq] at h
        obtain ⟨name, hname, hfault⟩ := resolveImage_eq_error_iff.1 himage
        exact h ▸ .image hlinked (startsWithImage_moveOptionality.1 hname) hfault
      | ok shown => simp [himage] at h
    · intro h
      cases h with
      | reference h => exact absurd h (hno _)
      | image h hname hfault =>
        rw [hlinked] at h
        cases h
        have himage := resolveImage_eq_error_iff.2
          ⟨_, startsWithImage_moveOptionality.2 hname, hfault⟩
        simp only [himage]

end Bindery
