import Bindery.Line.Image
import Bindery.Proofs.FirstFault
import Bindery.Proofs.Line.Optionality
import Bindery.Proofs.Span

set_option autoImplicit false

/-! # The grammar of image references

`IsImageLine` spells out what a line looks like that starts with an image reference, and
`imageLine?_eq_some_iff` says that `imageLine?` reads exactly that. Moving optionality markers
changes neither whether a line starts with an image reference nor which image it names
(`startsWithImage_moveOptionality`). `resolveImage_eq_error_iff` says when the image cannot be
used, and why. -/

namespace Bindery

/-! ## The grammar -/

/-- The line starts with an image reference with the given caption and name, and the rest follows
it. -/
def IsImageLine (line : Text) (image : ImageLine) : Prop :=
  line = '!' :: '[' :: (image.caption ++ ']' :: '(' :: (image.name ++ ')' :: image.rest)) ∧
    ']' ∉ image.caption ∧ image.name ≠ [] ∧ ∀ c ∈ image.name, isImageNameChar c = true

/-- The line starts with a reference to the named image. -/
def StartsWithImage (line name : Text) : Prop :=
  ∃ image, IsImageLine line image ∧ image.name = name

theorem isImageLine_of_imageLine? {line : Text} {image : ImageLine}
    (h : imageLine? line = some image) : IsImageLine line image := by
  unfold imageLine? at h
  split at h
  · cases h
  · next rest hrest =>
    split at h
    · cases h
    · next inner hinner =>
      split at h
      · next n name behind hname hbehind =>
        cases h
        rw [Text.after?_eq_some] at hrest hinner
        obtain ⟨hcaption, hclose, -⟩ := span_ne_iff.1 ⟨rfl, hinner⟩
        obtain ⟨hcut, hall, -⟩ := span_cons_iff.1 ⟨hname, hbehind⟩
        refine ⟨?_, hclose, by simp, hall⟩
        rw [hrest, ← hcut]
        exact congrArg (['!', '['] ++ ·) hcaption
      · cases h

theorem imageLine?_of_isImageLine {line : Text} {image : ImageLine} (h : IsImageLine line image) :
    imageLine? line = some image := by
  obtain ⟨caption, name, rest⟩ := image
  obtain ⟨rfl, hcaption, hne, hall⟩ := h
  obtain ⟨n, name, rfl⟩ := List.exists_cons_of_ne_nil hne
  obtain ⟨htake, hdrop⟩ := span_ne_iff.2
    ⟨(rfl : caption ++ ']' :: '(' :: (n :: name ++ ')' :: rest) = _), hcaption, rfl⟩
  obtain ⟨htake', hdrop'⟩ :=
    span_cons_iff.2 ⟨(rfl : n :: name ++ ')' :: rest = _), hall, by decide⟩
  have hopen := Text.after?_append ['!', '['] (caption ++ ']' :: '(' :: (n :: name ++ ')' :: rest))
  have hclose := Text.after?_append [']', '('] (n :: name ++ ')' :: rest)
  rw [List.cons_append, List.cons_append, List.nil_append] at hopen hclose
  unfold imageLine?
  simp only [hopen, hdrop, hclose, htake, htake', hdrop']

/-- `imageLine?` reads exactly the lines that start with an image reference. -/
theorem imageLine?_eq_some_iff {line : Text} {image : ImageLine} :
    imageLine? line = some image ↔ IsImageLine line image :=
  ⟨isImageLine_of_imageLine?, imageLine?_of_isImageLine⟩

/-! ## Optionality markers in a line with an image -/

theorem not_mem_of_imageName {name : Text} (h : ∀ c ∈ name, isImageNameChar c = true) :
    '*' ∉ name :=
  fun hmem => absurd (h '*' hmem) (by decide)

/-- The line that an image reference and what follows it make up. -/
def ImageLine.source (image : ImageLine) : Text :=
  '!' :: '[' :: (image.caption ++ ']' :: '(' :: (image.name ++ ')' :: image.rest))

/-- The markers of a line with an image are in its caption and behind the image. -/
theorem moveOptionality_source {image : ImageLine}
    (hname : ∀ c ∈ image.name, isImageNameChar c = true) :
    moveOptionality image.source = ImageLine.source
      ⟨moveOptionality image.caption, image.name, moveOptionality image.rest⟩ := by
  rw [ImageLine.source, moveOptionality_neutral_cons (by decide),
    moveOptionality_neutral_cons (by decide), moveOptionality_append_cons (by decide),
    moveOptionality_neutral_cons (by decide), moveOptionality_append_cons (by decide),
    moveOptionality_eq_self (not_mem_of_imageName hname)]
  rfl

theorem isImageLine_moveOptionality {line : Text} {image : ImageLine} (h : IsImageLine line image) :
    IsImageLine (moveOptionality line)
      ⟨moveOptionality image.caption, image.name, moveOptionality image.rest⟩ := by
  obtain ⟨rfl, hcaption, hne, hall⟩ := h
  refine ⟨moveOptionality_source hall, ?_, hne, hall⟩
  rw [mem_moveOptionality (by decide)]
  exact hcaption

/-- A changed line with an image comes from a line with that image. -/
theorem exists_isImageLine_of_moveOptionality {line : Text} {image : ImageLine}
    (h : IsImageLine (moveOptionality line) image) :
    ∃ original, IsImageLine line original ∧ original.name = image.name := by
  obtain ⟨heq, hcaption, hne, hall⟩ := h
  -- each of `!`, `[`, `]`, `(` and `)` is found in the original line, from left to right
  obtain ⟨_, rfl, hbracket⟩ := exists_of_moveOptionality_eq_cons (by decide) heq
  obtain ⟨_, rfl, hopen⟩ := exists_of_moveOptionality_eq_cons (by decide) hbracket
  obtain ⟨caption, _, rfl, hcaption', hclose⟩ := exists_of_moveOptionality_eq (by decide) hopen
  obtain ⟨_, rfl, hinner⟩ := exists_of_moveOptionality_eq_cons (by decide) hclose
  obtain ⟨name, rest, rfl, hname, -⟩ := exists_of_moveOptionality_eq (by decide) hinner
  obtain rfl := eq_of_moveOptionality_eq (not_mem_of_imageName hall) hname
  rw [← hcaption', mem_moveOptionality (by decide)] at hcaption
  exact ⟨⟨caption, _, rest⟩, ⟨rfl, hcaption, hne, hall⟩, rfl⟩

theorem startsWithImage_moveOptionality {line name : Text} :
    StartsWithImage (moveOptionality line) name ↔ StartsWithImage line name := by
  constructor
  · rintro ⟨image, himage, rfl⟩
    exact exists_isImageLine_of_moveOptionality himage
  · rintro ⟨image, himage, rfl⟩
    exact ⟨_, isImageLine_moveOptionality himage, rfl⟩

/-! ## Image files -/

/-- The bytes start like a PNG file and hold its dimensions. -/
def IsPngHead (content : Bytes) : Prop :=
  pngHeadLength ≤ content.length ∧ content.take 8 = pngSignature ∧
    (content.drop 12).take 4 = dimensionsTag

/-- The file of the named image has no readable PNG head, for the given reason. -/
inductive ImageFault (assets : Assets) (name : Text) : MissingAsset → Prop
  | unreadable {path : Path} {e : OsError} :
      path = Path.join assets.folder (retinaFileName name) →
      assets.files.read path = .error e → ImageFault assets name ⟨path, .os e⟩
  | notPng {path : Path} {content : Bytes} :
      path = Path.join assets.folder (retinaFileName name) →
      assets.files.read path = .ok content → ¬ IsPngHead content →
      ImageFault assets name ⟨path, .notPng⟩

/-- Only the head of a file is looked at. -/
theorem pngWidth_take_eq_none_iff {content : Bytes} :
    pngWidth (content.take pngHeadLength) = none ↔ ¬ IsPngHead content := by
  have hlength : pngHeadLength ≤ (content.take pngHeadLength).length ↔
      pngHeadLength ≤ content.length := by
    rw [List.length_take]
    omega
  have hsignature : (content.take pngHeadLength).take 8 = content.take 8 := by
    rw [List.take_take]
    rfl
  have htag : ((content.take pngHeadLength).drop 12).take 4 = (content.drop 12).take 4 := by
    rw [List.drop_take, List.take_take]
    rfl
  simp only [pngWidth, IsPngHead, hlength, hsignature, htag]
  split
  · next h => simp [h]
  · next h => simp [h]

theorem scaleOf_eq_error_iff {assets : Assets} {name : Text} {missing : MissingAsset} :
    assets.scaleOf (retinaFileName name) = .error missing ↔ ImageFault assets name missing := by
  rw [Assets.scaleOf, map_eq_error_iff]
  constructor
  · intro h
    cases hread : assets.files.read (Path.join assets.folder (retinaFileName name)) with
    | error e =>
      simp only [Assets.widthOf, hread, Except.error.injEq] at h
      exact h ▸ .unreadable rfl hread
    | ok content =>
      cases hwidth : pngWidth (content.take pngHeadLength) with
      | none =>
        simp only [Assets.widthOf, hread, hwidth, Except.error.injEq] at h
        exact h ▸ .notPng rfl hread (pngWidth_take_eq_none_iff.1 hwidth)
      | some width => simp [Assets.widthOf, hread, hwidth] at h
  · intro h
    cases h with
    | unreadable hpath hread =>
      subst hpath
      simp only [Assets.widthOf, hread]
    | notPng hpath hread hhead =>
      subst hpath
      simp only [Assets.widthOf, hread, pngWidth_take_eq_none_iff.2 hhead]

/-- The image at the start of a line cannot be used exactly when its file has no readable PNG
head. -/
theorem resolveImage_eq_error_iff {assets : Assets} {line : Text} {missing : MissingAsset} :
    resolveImage assets line = .error missing ↔
      ∃ name, StartsWithImage line name ∧ ImageFault assets name missing := by
  constructor
  · intro h
    rw [resolveImage] at h
    split at h
    · cases h
    · next image himage =>
      rw [map_eq_error_iff, scaleOf_eq_error_iff] at h
      exact ⟨image.name, ⟨image, imageLine?_eq_some_iff.1 himage, rfl⟩, h⟩
  · rintro ⟨name, ⟨image, himage, rfl⟩, hfault⟩
    simp only [resolveImage, imageLine?_eq_some_iff.2 himage, map_eq_error_iff,
      scaleOf_eq_error_iff.2 hfault]

end Bindery
