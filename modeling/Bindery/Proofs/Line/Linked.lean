import Bindery.Line.Preparation
import Bindery.Proofs.Line.Image
import Bindery.Proofs.Line.Resolution
import Bindery.Proofs.Unicode.Lowercase

set_option autoImplicit false

/-! # Prepared lines hold no references

Every reference of a line becomes a link, and none of the changes a line goes through makes a new
one: what each of them puts into the line starts with a character that is in no reference and does
not hold `<`. Only a title could bring a reference into a line, so the titles of the index are
assumed to be without `<` (`Index.HasPlainTitles`). A prepared line is then the same for every
index (`resolveReferences_of_prepareLine`). -/

namespace Bindery

/-- No title of the index holds the character that opens references. -/
def Index.HasPlainTitles (index : Index) : Prop :=
  ∀ record ∈ index.records, ∀ title ∈ record.title, '<' ∉ title

instance (index : Index) : Decidable index.HasPlainTitles :=
  inferInstanceAs (Decidable (∀ _ ∈ _, _))

variable {index : Index} {assets : Assets}

/-! ## Links -/

theorem mem_of_mem_replace {text : Text} {c old new : Char} (hc : c ≠ new)
    (h : c ∈ Text.replace old new text) : c ∈ text := by
  obtain ⟨d, hd, heq⟩ := List.mem_map.1 h
  split at heq
  · exact absurd heq.symm hc
  · exact heq ▸ hd

/-- The character comes into a link with the label only, and into a label with a title only. -/
structure IsUnlinked (c : Char) : Prop where
  target : isTargetChar c = false
  brackets : c ∉ [' ', '[', ']', '(', ')']
  positive : 0 < c.toNat
  low : c.toNat ≤ 0x3C

section

variable {c : Char} (hc : IsUnlinked c)

include hc

/-- Labels are made of characters of targets or are titles. -/
theorem not_mem_labelOf (hindex : ∀ record ∈ index.records, ∀ title ∈ record.title, c ∉ title)
    {target label : Text} (htarget : IsTarget target) (h : labelOf index target = .ok label) :
    c ∉ label := by
  rw [labelOf] at h
  split at h
  · next fragment hfragment =>
    cases h
    obtain ⟨before, rfl, -⟩ := fragment?_eq_some_iff.1 hfragment
    intro hmem
    have hspace : c ≠ ' ' := fun heq => hc.brackets (heq ▸ List.mem_cons_self ..)
    have hin : c ∈ fragment := mem_of_mem_replace hspace hmem
    have hchar := htarget.2 c (by simp [hin])
    rw [hc.target] at hchar
    cases hchar
  · obtain ⟨record, hget, htitle⟩ := Index.titleFor_eq_ok_iff.1 h
    exact hindex record (Index.mem_of_get? hget) label htitle

theorem not_mem_linkTo {label : Text} (h : c ∉ label) : c ∉ linkTo label := by
  have hne : ∀ d, isTargetChar d = true → c ≠ d := by
    rintro d hd rfl
    rw [hc.target] at hd
    cases hd
  have hanchor : c ∉ anchorFor label := fun hmem =>
    h (mem_of_mem_lowercase hc.positive hc.low (mem_of_mem_replace (hne '-' (by decide)) hmem))
  have hbrackets := hc.brackets
  simp only [List.mem_cons, List.not_mem_nil, or_false, not_or] at hbrackets
  simp [linkTo, h, hanchor, hbrackets, hne '#' (by decide)]

end

theorem isUnlinked_lessThan : IsUnlinked '<' :=
  ⟨by decide, by decide, by decide, by decide⟩

/-- A line with links in the place of references holds none. -/
theorem not_holdsReference_of_resolveReferences (hindex : index.HasPlainTitles) {line linked : Text}
    (h : resolveReferences index line = .ok linked) : ¬ HoldsReference linked := by
  induction line using reference_induction generalizing linked with
  | plain line hline =>
    rw [resolveReferences_plain hline] at h
    cases h
    exact hline
  | reference front target rest hfront htarget ih =>
    rw [resolveReferences_reference hfront htarget] at h
    split at h
    · cases h
    · next label hlabel =>
      obtain ⟨linked', hrest, rfl⟩ := map_eq_ok_iff.1 h
      have hlink := not_mem_linkTo isUnlinked_lessThan
        (not_mem_labelOf isUnlinked_lessThan hindex htarget hlabel)
      -- a link opens with a bracket, so no reference reaches into it from the front
      obtain ⟨tail, htail⟩ : ∃ tail, linkTo label = '[' :: tail := ⟨_, rfl⟩
      rw [htail] at hlink ⊢
      rw [holdsReference_insert (by decide) hlink]
      rintro (hout | hout)
      · exact hfront hout
      · exact ih hrest hout

/-! ## The other changes -/

/-- Moving optionality markers makes no reference: what opens and closes one is in no marker, and
there is no asterisk in between. -/
theorem HoldsReference.of_moveOptionality {line : Text}
    (h : HoldsReference (moveOptionality line)) : HoldsReference line := by
  obtain ⟨before, target, behind, heq, htarget⟩ := h
  have hplain : '*' ∉ ['d', 'o', 'c', ':'] ++ target := by
    intro hmem
    rcases List.mem_append.1 hmem with hmem | hmem
    · exact absurd hmem (by decide)
    · exact absurd (htarget.2 '*' hmem) (by decide)
  have hcut : moveOptionality line =
      before ++ '<' :: (['d', 'o', 'c', ':'] ++ target ++ '>' :: behind) := by
    simp [heq, referenceTo, referenceMarker]
  -- `<` and `>` are found in the original line, and what is between them is unchanged
  obtain ⟨front, inner, rfl, -, hinner⟩ := exists_of_moveOptionality_eq (by decide) hcut
  obtain ⟨middle, rest, rfl, hmiddle, -⟩ := exists_of_moveOptionality_eq (by decide) hinner
  obtain rfl := eq_of_moveOptionality_eq hplain hmiddle
  exact ⟨front, target, rest, by simp [referenceTo, referenceMarker], htarget⟩

theorem HoldsReference.of_render {line : Text} {image : ImageLine} {percent : Nat}
    (himage : IsImageLine line image) (h : HoldsReference (image.render percent)) :
    HoldsReference line := by
  obtain ⟨hline, -⟩ := himage
  have hcut : line =
      '!' :: '[' :: (image.caption ++ ']' :: '(' :: image.name) ++ ')' :: image.rest := by
    simp [hline]
  -- the end of the file name and the width stand in front of the rest of the line
  have hrender : image.render percent =
      '!' :: '[' :: (image.caption ++ ']' :: '(' :: image.name) ++
        '@' :: ("2x.png)\x7b width=".toList ++ Text.ofNat percent ++ "% \x7d".toList) ++
          image.rest := by
    simp [ImageLine.render, retinaFileName]
  have hdigits : '<' ∉ Text.ofNat percent := by
    intro hmem
    have hdigit := Nat.isDigit_of_mem_toDigits (by decide) (by decide) hmem
    exact absurd hdigit (by decide)
  rw [hrender, holdsReference_insert (by decide) (by simp [hdigits])] at h
  rw [hcut]
  rcases h with h | h
  · exact h.of_infix (List.prefix_append _ _).isInfix
  · exact h.of_infix ((List.suffix_cons _ _).trans (List.suffix_append _ _)).isInfix

theorem HoldsReference.of_resolveImage {line shown : Text}
    (hshown : resolveImage assets line = .ok shown) (h : HoldsReference shown) :
    HoldsReference line := by
  rw [resolveImage] at hshown
  split at hshown
  · cases hshown
    exact h
  · next image himage =>
    obtain ⟨percent, -, rfl⟩ := map_eq_ok_iff.1 hshown
    exact h.of_render (imageLine?_eq_some_iff.1 himage)

theorem HoldsReference.of_pushHeading {line : Text} (h : HoldsReference (pushHeading line)) :
    HoldsReference line := by
  rw [pushHeading] at h
  split at h
  · rwa [← List.singleton_append, holdsReference_append_left (by decide)] at h
  · exact h

/-- A prepared line holds no references. -/
theorem not_holdsReference_of_prepareLine (hindex : index.HasPlainTitles) {line prepared : Text}
    (h : prepareLine index assets line = .ok prepared) : ¬ HoldsReference prepared := by
  rw [prepareLine] at h
  split at h
  · cases h
  · next linked hlinked =>
    split at h
    · cases h
    · next shown hshown =>
      cases h
      intro hprepared
      have hmoved := hprepared.of_pushHeading.of_resolveImage hshown
      exact not_holdsReference_of_resolveReferences hindex hlinked hmoved.of_moveOptionality

/-- A prepared line holds no references, so there is nothing left in it that any index could
resolve. -/
theorem resolveReferences_of_prepareLine (hindex : index.HasPlainTitles) {line prepared : Text}
    (h : prepareLine index assets line = .ok prepared) :
    ¬ HoldsReference prepared ∧
      ∀ other : Index, resolveReferences other prepared = .ok prepared := by
  have hplain : ¬ HoldsReference prepared := not_holdsReference_of_prepareLine hindex h
  exact ⟨hplain, fun other => resolveReferences_plain hplain⟩

/-- One document, whose title looks like the end of a reference. -/
def endingIndex : Index := ⟨[⟨"Up".toList, "book/Up.md".toList, some "doc:A>".toList⟩]⟩

/-- Near misses stay near misses: `<` in front of a link, and a reference whose target is not made
of target characters. -/
theorem resolveReferences_of_prepareLine_nearMiss :
    endingIndex.HasPlainTitles ∧
    prepareLine endingIndex ⟨⟨.empty, []⟩, []⟩ "# <<doc:Up> <doc:Up*_?_>".toList =
      .ok "## <[doc:A>](#doc:a>) <doc:Up?*>".toList ∧
    ¬ HoldsReference "## <[doc:A>](#doc:a>) <doc:Up?*>".toList ∧
    ∀ other : Index, resolveReferences other "## <[doc:A>](#doc:a>) <doc:Up?*>".toList =
      .ok "## <[doc:A>](#doc:a>) <doc:Up?*>".toList := by
  have hindex : endingIndex.HasPlainTitles := by decide
  have hprepared : prepareLine endingIndex ⟨⟨.empty, []⟩, []⟩ "# <<doc:Up> <doc:Up*_?_>".toList =
      .ok "## <[doc:A>](#doc:a>) <doc:Up?*>".toList := by
    decide +kernel
  exact ⟨hindex, hprepared, resolveReferences_of_prepareLine hindex hprepared⟩

end Bindery
