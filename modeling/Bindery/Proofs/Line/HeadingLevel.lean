import Bindery.Proofs.Line.Image
import Bindery.Proofs.Line.Resolution
import Bindery.Proofs.Span
import Bindery.Line.Preparation

set_option autoImplicit false

/-! # The level of a heading in a chapter

`HasLevel` says of which level a line is a heading. Putting links for references, moving optionality
markers and showing an image keep the level of every line, whether it is a heading or not: the first
two leave `#` and spaces at the front of a line where they are and never empty it (`CarriesMarks`),
and a line with an image is no heading. So preparing a line moves it down by exactly the one level
that `pushHeading` does (`hasLevel_prepareLine`). -/

namespace Bindery

/-! ## Headings of a level -/

/-- The line is a heading of the given level: as many `#`, a space, and more. -/
def HasLevel (line : Text) (level : Nat) : Prop :=
  1 ≤ level ∧ ∃ rest, line = List.replicate level '#' ++ ' ' :: rest ∧ rest ≠ []

theorem HasLevel.head? {line : Text} {level : Nat} (h : HasLevel line level) :
    line.head? = some '#' := by
  obtain ⟨hlevel, rest, rfl, -⟩ := h
  obtain ⟨n, rfl⟩ : ∃ n, level = n + 1 := ⟨level - 1, by omega⟩
  rfl

/-- The `#` of a heading are as many as its level, and behind them is a space, and more. -/
theorem HasLevel.span {line : Text} {level : Nat} (h : HasLevel line level) :
    line.takeWhile (· = '#') = List.replicate level '#' ∧
      ∃ c rest, line.dropWhile (· = '#') = ' ' :: c :: rest := by
  obtain ⟨-, rest, rfl, hrest⟩ := h
  obtain ⟨c, rest, rfl⟩ := List.exists_cons_of_ne_nil hrest
  have hspace : (' ' :: c :: rest).head? ≠ some '#' := by simp
  obtain ⟨hrun, hdrop⟩ := span_replicate_append level hspace
  exact ⟨hrun, c, rest, hdrop⟩

/-- A line has one level at most. -/
theorem HasLevel.unique {line : Text} {level level' : Nat} (h : HasLevel line level)
    (h' : HasLevel line level') : level = level' := by
  have hrun : List.replicate level '#' = List.replicate level' '#' :=
    h.span.1.symm.trans h'.span.1
  simpa using congrArg List.length hrun

theorem HasLevel.cons {line : Text} {level : Nat} (h : HasLevel line level) :
    HasLevel ('#' :: line) (level + 1) := by
  obtain ⟨-, rest, rfl, hrest⟩ := h
  exact ⟨Nat.le_add_left 1 level, rest, by rw [List.replicate_succ]; rfl, hrest⟩

/-- `isHeading` recognises exactly the headings. -/
theorem isHeading_iff {line : Text} : isHeading line = true ↔ ∃ level, HasLevel line level := by
  constructor
  · intro h
    rw [isHeading, Bool.and_eq_true, beq_iff_eq] at h
    obtain ⟨hfirst, hrest⟩ := h
    split at hrest
    · next c rest hdrop =>
      have hline := replicate_append_dropWhile '#' line
      rw [hdrop] at hline
      refine ⟨_, ?_, c :: rest, hline.symm, by simp⟩
      -- the run is not empty because the line starts with it
      rw [Nat.one_le_iff_ne_zero]
      intro hzero
      rw [hzero] at hline
      rw [← hline] at hfirst
      cases hfirst
    · cases hrest
  · intro ⟨level, h⟩
    obtain ⟨-, c, rest, hdrop⟩ := h.span
    rw [isHeading, h.head?, hdrop]
    rfl

/-! ## Changes that keep the level -/

/-- The change of a line leaves `#` and spaces at its front where they are, and changes the rest by
itself. It does not empty a line. -/
structure CarriesMarks (change : Text → Text → Prop) : Prop where
  cons : ∀ {c : Char} {line out : Text}, c ∈ ['#', ' '] → change (c :: line) out →
    ∃ rest, out = c :: rest ∧ change line rest
  ne_nil : ∀ {line out : Text}, change line out → line ≠ [] → out ≠ []

namespace CarriesMarks

variable {change : Text → Text → Prop} {line out : Text}

theorem append (h : CarriesMarks change) {marks : Text} (hmarks : marks ⊆ ['#', ' '])
    (hchange : change (marks ++ line) out) : ∃ rest, out = marks ++ rest ∧ change line rest := by
  induction marks generalizing out with
  | nil => exact ⟨out, rfl, hchange⟩
  | cons c marks ih =>
    obtain ⟨hc, hmarks⟩ := List.cons_subset.1 hmarks
    obtain ⟨out', rfl, hout'⟩ := h.cons hc hchange
    obtain ⟨rest, rfl, hrest⟩ := ih hmarks hout'
    exact ⟨rest, rfl, hrest⟩

theorem hasLevel (h : CarriesMarks change) (hchange : change line out) {level : Nat}
    (hline : HasLevel line level) : HasLevel out level := by
  obtain ⟨hlevel, rest, rfl, hrest⟩ := hline
  have hmarks : List.replicate level '#' ++ [' '] ⊆ ['#', ' '] := by
    intro c hc
    rcases List.mem_append.1 hc with hc | hc
    · simp [List.eq_of_mem_replicate hc]
    · simp [List.mem_singleton.1 hc]
  rw [List.append_cons] at hchange
  obtain ⟨rest', rfl, hrest'⟩ := h.append hmarks hchange
  exact ⟨hlevel, rest', List.append_cons .. |>.symm, h.ne_nil hrest' hrest⟩

/-- A change that keeps the front of lines in both directions keeps the level of every line. -/
theorem hasLevel_iff (h : CarriesMarks change) (hback : CarriesMarks (flip change))
    (hchange : change line out) (level : Nat) : HasLevel out level ↔ HasLevel line level :=
  ⟨fun hout => hback.hasLevel hchange hout, fun hline => h.hasLevel hchange hline⟩

end CarriesMarks

variable {index : Index} {assets : Assets}

/-! ## The changes of a line -/

theorem ne_of_mem_marks {c d : Char} (hc : c ∈ ['#', ' ']) (hd : d ∉ ['#', ' ']) : c ≠ d :=
  fun heq => hd (heq ▸ hc)

theorem carriesMarks_resolveReferences :
    CarriesMarks fun line linked => resolveReferences index line = .ok linked where
  cons := by
    intro c line linked hc h
    rw [resolveReferences_cons (ne_of_mem_marks hc (by decide))] at h
    obtain ⟨rest, hrest, rfl⟩ := map_eq_ok_iff.1 h
    exact ⟨rest, rfl, hrest⟩
  ne_nil := fun h hne hnil => hne ((eq_nil_iff_of_resolveReferences h).1 hnil)

theorem carriesMarks_linked :
    CarriesMarks fun linked line => resolveReferences index line = .ok linked where
  cons := fun hc h => exists_of_resolveReferences_eq_cons (ne_of_mem_marks hc (by decide))
    (ne_of_mem_marks hc (by decide)) h
  ne_nil := fun h hne hnil => hne ((eq_nil_iff_of_resolveReferences h).2 hnil)

/-- Links take the place of references, and neither starts like a heading. -/
theorem hasLevel_resolveReferences {line linked : Text}
    (h : resolveReferences index line = .ok linked) (level : Nat) :
    HasLevel linked level ↔ HasLevel line level :=
  carriesMarks_resolveReferences.hasLevel_iff carriesMarks_linked h level

theorem isNeutral_of_mem_marks {c : Char} (hc : c ∈ ['#', ' ']) : IsNeutral c := by
  rcases List.mem_pair.1 hc with rfl | rfl
  · decide
  · decide

theorem carriesMarks_moveOptionality :
    CarriesMarks fun line moved => moveOptionality line = moved where
  cons := by
    rintro c line moved hc rfl
    exact ⟨_, moveOptionality_neutral_cons (isNeutral_of_mem_marks hc), rfl⟩
  ne_nil := by
    rintro line moved rfl hne hnil
    exact hne (eq_of_moveOptionality_eq List.not_mem_nil hnil)

theorem carriesMarks_moved :
    CarriesMarks fun moved line => moveOptionality line = moved where
  cons := fun hc h => exists_of_moveOptionality_eq_cons (isNeutral_of_mem_marks hc) h
  ne_nil := by
    rintro moved line h hne rfl
    exact hne h.symm

/-- The characters of markers are neither `#` nor spaces. -/
theorem hasLevel_moveOptionality {line : Text} (level : Nat) :
    HasLevel (moveOptionality line) level ↔ HasLevel line level :=
  carriesMarks_moveOptionality.hasLevel_iff carriesMarks_moved rfl level

/-- A line with an image is no heading, and neither is what it becomes. -/
theorem hasLevel_resolveImage {line shown : Text} (h : resolveImage assets line = .ok shown)
    (level : Nat) : HasLevel shown level ↔ HasLevel line level := by
  rw [resolveImage] at h
  split at h
  · rw [Except.ok.inj h]
  · next image himage =>
    obtain ⟨percent, -, rfl⟩ := map_eq_ok_iff.1 h
    obtain ⟨rfl, -⟩ := imageLine?_eq_some_iff.1 himage
    exact iff_of_false (fun hlevel => absurd hlevel.head? (by simp [ImageLine.render]))
      fun hlevel => absurd hlevel.head? (by simp)

/-- A heading goes one level down, and no other line becomes a heading. -/
theorem hasLevel_pushHeading {line : Text} (level : Nat) :
    HasLevel (pushHeading line) (level + 1) ↔ HasLevel line level := by
  rw [pushHeading]
  split
  · next hheading =>
    obtain ⟨before, hbefore⟩ := isHeading_iff.1 hheading
    constructor
    · intro h
      obtain rfl : before = level := Nat.succ.inj (hbefore.cons.unique h)
      exact hbefore
    · exact HasLevel.cons
  · next hplain =>
    rw [isHeading_iff, not_exists] at hplain
    exact iff_of_false (hplain _) (hplain _)

/-! ## Prepared lines -/

/-- Of the changes that a line goes through, the first three keep its level, whether it is a heading
or not, and the last moves it down by one. So no line becomes a heading that is none, and none is
one of the first level behind the changes. -/
theorem hasLevel_prepareLine {line out : Text} (h : prepareLine index assets line = .ok out) :
    (∀ level, HasLevel out (level + 1) ↔ HasLevel line level) ∧ ¬ HasLevel out 1 ∧
    ((∃ level, HasLevel out level) → ∃ level, HasLevel line level) ∧
    ∃ linked shown, resolveReferences index line = .ok linked ∧
      resolveImage assets (moveOptionality linked) = .ok shown ∧ out = pushHeading shown ∧
      ∀ level, (HasLevel linked level ↔ HasLevel line level) ∧
        (HasLevel (moveOptionality linked) level ↔ HasLevel linked level) ∧
        (HasLevel shown level ↔ HasLevel (moveOptionality linked) level) := by
  rw [prepareLine] at h
  split at h
  · cases h
  · next linked hlinked =>
    split at h
    · cases h
    · next shown hshown =>
      obtain rfl := Except.ok.inj h
      have hkept : ∀ level, HasLevel shown level ↔ HasLevel line level := fun level =>
        (hasLevel_resolveImage hshown level).trans
          ((hasLevel_moveOptionality level).trans (hasLevel_resolveReferences hlinked level))
      have hmoved : ∀ level, HasLevel (pushHeading shown) (level + 1) ↔ HasLevel line level :=
        fun level => (hasLevel_pushHeading level).trans (hkept level)
      refine ⟨hmoved, ?_, ?_, linked, shown, hlinked, hshown, rfl, fun level =>
        ⟨hasLevel_resolveReferences hlinked level, hasLevel_moveOptionality level,
          hasLevel_resolveImage hshown level⟩⟩
      · -- no line is a heading of level zero
        rw [hmoved 0]
        exact fun hzero => absurd hzero.1 (by decide)
      · rintro ⟨level, hlevel⟩
        obtain ⟨before, rfl⟩ : ∃ before, level = before + 1 :=
          ⟨level - 1, by have := hlevel.1; omega⟩
        exact ⟨before, (hmoved before).1 hlevel⟩

/-- A heading that consists of a reference with an empty label, and of a marker. -/
theorem hasLevel_prepareLine_bare :
    prepareLine .empty ⟨⟨.empty, []⟩, []⟩ "## <doc:A#>*_?_".toList = .ok "### [](#)?*".toList ∧
      HasLevel "## <doc:A#>*_?_".toList 2 ∧ HasLevel "### [](#)?*".toList 3 := by
  have hprepared : prepareLine .empty ⟨⟨.empty, []⟩, []⟩ "## <doc:A#>*_?_".toList =
      .ok "### [](#)?*".toList := by
    decide +kernel
  have hlevel : HasLevel "## <doc:A#>*_?_".toList 2 :=
    ⟨by decide, "<doc:A#>*_?_".toList, rfl, by decide⟩
  exact ⟨hprepared, hlevel, ((hasLevel_prepareLine hprepared).1 2).2 hlevel⟩

end Bindery
