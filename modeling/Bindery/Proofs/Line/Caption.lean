import Bindery.Proofs.Line.Linked
import Mathlib

set_option autoImplicit false

/-! # Lines with an image and what stands in the caption

A line with an image is prepared in parts: the caption and the text behind the image each get links
for references and have their optionality markers moved (`prepareLine_source_eq_ok_iff`). The image
is looked for only after that. A link in the caption brings a `]` into it, and with it the image is
not found any more, or another one is found. So `prepareLine_image` says that an image gets its file
and its width exactly if there is no reference in its caption. -/

namespace Bindery

variable {index : Index} {assets : Assets}

/-! ## References on both sides of a character -/

/-- A character that is in no reference cuts a line into two parts with links of their own. -/
theorem resolveReferences_append_cons {front rest : Text} {c : Char} (hc : IsForeign c)
    (hopen : c ≠ '<') :
    resolveReferences index (front ++ c :: rest) =
      match resolveReferences index front with
      | .error e => .error e
      | .ok linked => (resolveReferences index rest).map (linked ++ c :: ·) := by
  have hsingle : ∀ {text}, HoldsReference (c :: text) → HoldsReference text := by
    intro text h
    rwa [← List.singleton_append, holdsReference_append_left (by simpa using hopen.symm)] at h
  induction front using reference_induction with
  | plain front hfront =>
    rw [resolveReferences_plain hfront]
    -- the first reference of the line is that of the rest
    induction rest using reference_induction with
    | plain rest hrest =>
      have hline : ¬ HoldsReference (front ++ c :: rest) := by
        rw [holdsReference_append_cons hc, not_or]
        exact ⟨hfront, fun h => hrest (hsingle h)⟩
      rw [resolveReferences_plain hline, resolveReferences_plain hrest]
      rfl
    | reference gap target rest hgap htarget _ =>
      have hline : ¬ HoldsReference (front ++ c :: gap) := by
        rw [holdsReference_append_cons hc, not_or]
        exact ⟨hfront, fun h => hgap (hsingle h)⟩
      have hcut : front ++ c :: (gap ++ referenceTo target ++ rest) =
          front ++ c :: gap ++ referenceTo target ++ rest := by
        simp
      rw [hcut, resolveReferences_reference hline htarget,
        resolveReferences_reference hgap htarget]
      cases labelOf index target with
      | error e => rfl
      | ok label => cases resolveReferences index rest <;> simp [Except.map]
  | reference gap target front hgap htarget ih =>
    have hcut : gap ++ referenceTo target ++ front ++ c :: rest =
        gap ++ referenceTo target ++ (front ++ c :: rest) := by
      simp
    rw [hcut, resolveReferences_reference hgap htarget, resolveReferences_reference hgap htarget,
      ih]
    cases labelOf index target with
    | error e => rfl
    | ok label =>
      cases resolveReferences index front with
      | error e => rfl
      | ok linked => cases resolveReferences index rest <;> simp [Except.map]

/-- A link leaves a bracket in the line. -/
theorem mem_of_resolveReferences {line linked : Text} (h : resolveReferences index line = .ok linked)
    (hline : HoldsReference line) : ']' ∈ linked := by
  obtain ⟨front, target, rest, hat, hfront⟩ := hline.exists_first
  rw [hat.eq, resolveReferences_reference hfront hat.isTarget] at h
  split at h
  · cases h
  · obtain ⟨linked', -, rfl⟩ := map_eq_ok_iff.1 h
    simp [linkTo]

/-! ## The parts of a line with an image -/

/-- What a part of a line becomes in which there is neither an image nor a heading. -/
def prepareInline (index : Index) (text : Text) : Except IndexError Text :=
  (resolveReferences index text).map moveOptionality

theorem resolveReferences_source_eq_ok_iff {image : ImageLine} {linked : Text}
    (hname : ∀ c ∈ image.name, isImageNameChar c = true) :
    resolveReferences index image.source = .ok linked ↔
      ∃ caption rest, resolveReferences index image.caption = .ok caption ∧
        resolveReferences index image.rest = .ok rest ∧
        linked = ImageLine.source ⟨caption, image.name, rest⟩ := by
  have hplain : '<' ∉ image.name := fun hmem => absurd (hname '<' hmem) (by decide)
  have hbehind : resolveReferences index (image.name ++ ')' :: image.rest) =
      (resolveReferences index image.rest).map (image.name ++ ')' :: ·) := by
    rw [resolveReferences_append_cons (by decide) (by decide),
      resolveReferences_plain (not_holdsReference_of_not_mem hplain)]
  rw [ImageLine.source, resolveReferences_cons (by decide), resolveReferences_cons (by decide),
    resolveReferences_append_cons (by decide) (by decide), resolveReferences_cons (by decide),
    hbehind]
  cases resolveReferences index image.caption with
  | error e => simp [Except.map]
  | ok caption =>
    cases resolveReferences index image.rest with
    | error e => simp [Except.map]
    | ok rest => simp [Except.map, ImageLine.source, eq_comm]

theorem pushHeading_of_resolveImage_source {image : ImageLine} {shown : Text}
    (h : resolveImage assets image.source = .ok shown) : pushHeading shown = shown := by
  obtain ⟨text, rfl⟩ : ∃ text, shown = '!' :: text := by
    rw [resolveImage] at h
    split at h
    · cases h
      exact ⟨_, rfl⟩
    · obtain ⟨percent, -, rfl⟩ := map_eq_ok_iff.1 h
      exact ⟨_, rfl⟩
  rfl

/-- The caption and what follows the image are prepared first, and then the image is looked for. -/
theorem prepareLine_source_eq_ok_iff {image : ImageLine} {out : Text}
    (hname : ∀ c ∈ image.name, isImageNameChar c = true) :
    prepareLine index assets image.source = .ok out ↔
      ∃ caption rest, prepareInline index image.caption = .ok caption ∧
        prepareInline index image.rest = .ok rest ∧
        resolveImage assets (ImageLine.source ⟨caption, image.name, rest⟩) = .ok out := by
  have hmoved : ∀ caption rest : Text,
      moveOptionality (ImageLine.source ⟨caption, image.name, rest⟩) =
        ImageLine.source ⟨moveOptionality caption, image.name, moveOptionality rest⟩ :=
    fun caption rest => moveOptionality_source hname
  constructor
  · intro h
    rw [prepareLine] at h
    split at h
    · cases h
    · next linked hlinked =>
      obtain ⟨caption, rest, hcaption, hrest, rfl⟩ :=
        (resolveReferences_source_eq_ok_iff hname).1 hlinked
      rw [hmoved] at h
      split at h
      · cases h
      · next shown hshown =>
        cases h
        refine ⟨_, _, map_eq_ok_iff.2 ⟨caption, hcaption, rfl⟩, map_eq_ok_iff.2 ⟨rest, hrest, rfl⟩,
          ?_⟩
        rw [pushHeading_of_resolveImage_source hshown]
        exact hshown
  · rintro ⟨_, _, hcaption', hrest', hshown⟩
    obtain ⟨caption, hcaption, rfl⟩ := map_eq_ok_iff.1 hcaption'
    obtain ⟨rest, hrest, rfl⟩ := map_eq_ok_iff.1 hrest'
    have hlinked : resolveReferences index image.source = _ :=
      (resolveReferences_source_eq_ok_iff hname).2 ⟨caption, rest, hcaption, hrest, rfl⟩
    simp only [prepareLine, hlinked, hmoved, hshown, pushHeading_of_resolveImage_source hshown]

/-! ## Links in the caption -/

/-- Up to its first bracket, a line can be read in one way. -/
theorem append_bracket_inj {front front' rest rest' : Text} (h : ']' ∉ front) (h' : ']' ∉ front')
    (heq : front ++ ']' :: rest = front' ++ ']' :: rest') : front = front' ∧ rest = rest' := by
  obtain ⟨htake, hdrop⟩ := span_ne_iff.2 ⟨(rfl : front ++ ']' :: rest = _), h, rfl⟩
  obtain ⟨htake', hdrop'⟩ := span_ne_iff.2 ⟨heq, h', rfl⟩
  exact ⟨htake.symm.trans htake', (List.cons.inj (hdrop.symm.trans hdrop')).2⟩

/-- A bracket in the caption ends it, and the image that stands behind the caption is not shown. -/
theorem resolveImage_source_ne_render {image : ImageLine} {rest : Text} {percent : Nat}
    (hbracket : ']' ∈ image.caption) :
    resolveImage assets image.source ≠
      .ok (ImageLine.render ⟨image.caption, image.name, rest⟩ percent) := by
  intro h
  rw [resolveImage] at h
  split at h
  · -- the line is left as it is, so its name has no `@` behind it
    simp [ImageLine.source, ImageLine.render, retinaFileName] at h
  · next found hfound =>
    obtain ⟨percent', -, hrender⟩ := map_eq_ok_iff.1 h
    obtain ⟨hline, hcaption, -, hname⟩ := imageLine?_eq_some_iff.1 hfound
    obtain ⟨front, tail, hfront, hno⟩ := List.eq_append_cons_of_mem hbracket
    have hcut : front ++ ']' :: (tail ++ ']' :: '(' :: (image.name ++ ')' :: image.rest)) =
        found.caption ++ ']' :: '(' :: (found.name ++ ')' :: found.rest) := by
      simpa [ImageLine.source, hfront] using hline
    obtain ⟨rfl, htail⟩ := append_bracket_inj hno hcaption hcut
    have hrender : '(' :: (found.name ++ '@' :: ("2x.png)\x7b width=".toList ++
        Text.ofNat percent' ++ "% \x7d".toList ++ found.rest)) =
        tail ++ ']' :: '(' :: (retinaFileName image.name ++ (")\x7b width=".toList ++
          Text.ofNat percent ++ "% \x7d".toList ++ rest)) := by
      simpa [ImageLine.render, hfront, retinaFileName] using hrender
    -- the same text would stand behind the found name, once after `)` and once after `@`
    cases tail with
    | nil => simp at htail
    | cons d tail =>
      rw [List.cons_append, List.cons.injEq] at htail hrender
      have hclosed : ']' ∉ found.name := fun hmem => absurd (hname ']' hmem) (by decide)
      obtain ⟨t, rfl, ht⟩ := exists_of_append_eq_append_cons hclosed htail.2.symm
      rw [List.append_assoc found.name t, List.append_cancel_left_eq] at hrender
      cases t with
      | nil => simp at ht
      | cons d' t =>
        rw [List.cons_append, List.cons.injEq] at ht
        simp [← ht.1] at hrender

/-- A link whose label has no bracket hides the image: the link's own target does not look like the
name of an image. -/
theorem imageLine?_source_linkTo {front behind label name rest : Text} (hfront : ']' ∉ front)
    (hlabel : ']' ∉ label) :
    imageLine? (ImageLine.source
      ⟨moveOptionality (front ++ linkTo label ++ behind), name, rest⟩) = none := by
  have hopened : ']' ∉ moveOptionality (front ++ '[' :: label) := by
    rw [mem_moveOptionality (by decide)]
    simp [hfront, hlabel]
  have hmoved : moveOptionality (front ++ linkTo label ++ behind) =
      moveOptionality (front ++ '[' :: label) ++
        ']' :: '(' :: '#' :: moveOptionality (anchorFor label ++ [')'] ++ behind) := by
    have hcut : front ++ linkTo label ++ behind = (front ++ '[' :: label) ++
        ']' :: '(' :: '#' :: (anchorFor label ++ [')'] ++ behind) := by
      simp [linkTo]
    rw [hcut, moveOptionality_append_cons (by decide), moveOptionality_neutral_cons (by decide),
      moveOptionality_neutral_cons (by decide)]
  rw [Option.eq_none_iff_forall_ne_some]
  intro found hfound
  obtain ⟨hline, hcaption, hne, hname⟩ := imageLine?_eq_some_iff.1 hfound
  obtain ⟨n, tail, htail⟩ := List.exists_cons_of_ne_nil hne
  rw [hmoved, ImageLine.source, List.cons.injEq, List.cons.injEq, List.append_assoc,
    List.cons_append] at hline
  obtain ⟨-, hinner⟩ := append_bracket_inj hopened hcaption hline.2.2
  simp only [htail, List.cons_append, List.cons.injEq] at hinner
  rw [htail] at hname
  have hhash := hname n (List.mem_cons_self ..)
  rw [← hinner.2.1] at hhash
  exact absurd hhash (by decide)

/-! ## Lines with an image -/

/-- Of a line that starts with an image and can be prepared, the image gets its file and its width
exactly if no reference stands in its caption. If one does and its label has no bracket, the name of
the image is left as it is. -/
theorem prepareLine_image {line out : Text} {image : ImageLine} (himage : IsImageLine line image)
    (hout : prepareLine index assets line = .ok out) :
    ((∃ caption rest percent, prepareInline index image.caption = .ok caption ∧
        prepareInline index image.rest = .ok rest ∧
        assets.scaleOf (retinaFileName image.name) = .ok percent ∧
        out = ImageLine.render ⟨caption, image.name, rest⟩ percent) ↔
      ¬ HoldsReference image.caption) ∧
    ∀ before target behind label, ReferenceAt image.caption before target behind →
      ¬ HoldsReference before → labelOf index target = .ok label → ']' ∉ label →
      ∃ caption rest, prepareInline index image.caption = .ok caption ∧
        prepareInline index image.rest = .ok rest ∧
        out = ImageLine.source ⟨caption, image.name, rest⟩ := by
  obtain ⟨hline, hcaption, hne, hname⟩ := himage
  rw [hline, ← ImageLine.source] at hout
  obtain ⟨caption, rest, hcaption', hrest, hshown⟩ := (prepareLine_source_eq_ok_iff hname).1 hout
  obtain ⟨linked, hlinked, rfl⟩ := map_eq_ok_iff.1 hcaption'
  refine ⟨⟨?_, ?_⟩, ?_⟩
  · rintro ⟨_, rest', percent, hsame, -, -, rfl⟩ hholds
    cases hcaption'.symm.trans hsame
    refine resolveImage_source_ne_render ?_ hshown
    rw [mem_moveOptionality (by decide)]
    exact mem_of_resolveReferences hlinked hholds
  · intro hholds
    rw [resolveReferences_plain hholds] at hlinked
    cases hlinked
    have hfound : imageLine? (ImageLine.source
        ⟨moveOptionality image.caption, image.name, rest⟩) = some _ :=
      imageLine?_eq_some_iff.2 ⟨rfl, by rwa [mem_moveOptionality (by decide)], hne, hname⟩
    simp only [resolveImage, hfound] at hshown
    obtain ⟨percent, hpercent, rfl⟩ := map_eq_ok_iff.1 hshown
    exact ⟨_, rest, percent, hcaption', hrest, hpercent, rfl⟩
  · intro before target behind label hat hbefore hlabel hbracket
    rw [hat.eq] at hcaption hlinked
    rw [resolveReferences_reference hbefore hat.isTarget, hlabel] at hlinked
    obtain ⟨linked', -, rfl⟩ := map_eq_ok_iff.1 hlinked
    simp only [List.mem_append, not_or] at hcaption
    rw [resolveImage, imageLine?_source_linkTo hcaption.1.1 hbracket] at hshown
    cases hshown
    exact ⟨_, rest, hcaption', hrest, rfl⟩

/-- An image half as wide as the column is on a screen of twice the density. -/
def mapAssets : Assets :=
  ⟨⟨.folder "img".toList true (.file "map@2x.png".toList
    (pngSignature ++ [0, 0, 0, 13] ++ dimensionsTag ++ [0, 0, 2, 0xF8] ++ [0, 0, 0, 1]) .empty)
    .empty, []⟩, "img".toList⟩

/-- One document, titled like its file. -/
def atlasIndex : Index := ⟨[⟨"Atlas".toList, "book/Atlas.md".toList, some "Atlas".toList⟩]⟩

/-- A marker in the caption and a reference behind the image do not keep it from its file. -/
theorem prepareLine_image_markerInCaption :
    IsImageLine "![*a*_?_](map) <doc:Atlas>".toList
        ⟨"*a*_?_".toList, "map".toList, " <doc:Atlas>".toList⟩ ∧
      prepareLine atlasIndex mapAssets "![*a*_?_](map) <doc:Atlas>".toList =
        .ok "![*a?*](map@2x.png)\x7b width=50% \x7d [Atlas](#atlas)".toList ∧
      ∃ caption rest percent,
        prepareInline atlasIndex "*a*_?_".toList = .ok caption ∧
        prepareInline atlasIndex " <doc:Atlas>".toList = .ok rest ∧
        mapAssets.scaleOf (retinaFileName "map".toList) = .ok percent ∧
        "![*a?*](map@2x.png)\x7b width=50% \x7d [Atlas](#atlas)".toList =
          ImageLine.render ⟨caption, "map".toList, rest⟩ percent := by
  have himage : IsImageLine "![*a*_?_](map) <doc:Atlas>".toList
      ⟨"*a*_?_".toList, "map".toList, " <doc:Atlas>".toList⟩ :=
    imageLine?_eq_some_iff.1 (by decide)
  have hout : prepareLine atlasIndex mapAssets "![*a*_?_](map) <doc:Atlas>".toList =
      .ok "![*a?*](map@2x.png)\x7b width=50% \x7d [Atlas](#atlas)".toList := by
    cbv
  exact ⟨himage, hout,
    (prepareLine_image himage hout).1.2 (not_holdsReference_of_not_mem (by decide))⟩

/-- A reference in the caption keeps the image from its file. -/
theorem not_render_of_prepareLine :
    ¬ ∀ (index : Index) (assets : Assets) (line out : Text) (image : ImageLine),
      IsImageLine line image → prepareLine index assets line = .ok out →
      ∃ caption rest percent, prepareInline index image.caption = .ok caption ∧
        prepareInline index image.rest = .ok rest ∧
        assets.scaleOf (retinaFileName image.name) = .ok percent ∧
        out = ImageLine.render ⟨caption, image.name, rest⟩ percent := by
  intro h
  have himage : IsImageLine "![See <doc:Atlas>](map)".toList
      ⟨"See <doc:Atlas>".toList, "map".toList, []⟩ :=
    imageLine?_eq_some_iff.1 (by decide)
  have hout : prepareLine atlasIndex mapAssets "![See <doc:Atlas>](map)".toList =
      .ok "![See [Atlas](#atlas)](map)".toList := by
    decide +kernel
  obtain ⟨caption, rest, percent, hcaption, -, -, hrender⟩ := h _ _ _ _ _ himage hout
  have hlinked : prepareInline atlasIndex "See <doc:Atlas>".toList =
      .ok "See [Atlas](#atlas)".toList := by
    decide +kernel
  rw [hlinked] at hcaption
  cases hcaption
  simp [ImageLine.render, retinaFileName] at hrender

end Bindery
