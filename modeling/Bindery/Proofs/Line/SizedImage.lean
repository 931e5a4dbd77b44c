import Bindery.Proofs.Line.Caption

set_option autoImplicit false

/-! # Images with their size

Of the file of an image only the head is looked at: it says whether the file is a PNG file and how
wide the image is (`IsPngOfWidth`), a number of 32 bits. The percentage of such a width is a number
of 32 bits again (`toNat_scalePercentageWithin`). A line with an image whose file has a head is the
same line with the name of the file and the percentage in it, and no line with an image any more
(`resolveImage_sized`). -/

namespace Bindery

variable {assets other : Assets} {line shown : Text} {image : ImageLine} {content : Bytes}

/-! ## The width of an image -/

/-- The bytes are a PNG file whose head holds the width, the highest of its four bytes first. -/
structure IsPngOfWidth (content : Bytes) (width : UInt32) : Prop where
  head : IsPngHead content
  width : ∃ a b c d behind, content.drop 16 = a :: b :: c :: d :: behind ∧
    width.toNat = a.toNat * 2 ^ 24 + b.toNat * 2 ^ 16 + c.toNat * 2 ^ 8 + d.toNat

theorem bigEndian_four (a b c d : UInt8) :
    bigEndian [a, b, c, d] =
      a.toNat * 2 ^ 24 + b.toNat * 2 ^ 16 + c.toNat * 2 ^ 8 + d.toNat := by
  simp only [bigEndian, List.foldl_cons, List.foldl_nil]
  omega

theorem IsPngOfWidth.bigEndian_eq {width : UInt32} (h : IsPngOfWidth content width) :
    bigEndian ((content.drop 16).take 4) = width.toNat := by
  obtain ⟨a, b, c, d, behind, hbytes, hwidth⟩ := h.width
  rw [hbytes, hwidth, ← bigEndian_four]
  rfl

/-- A head is long enough to hold a width. -/
theorem IsPngHead.exists_width (h : IsPngHead content) : ∃ width, IsPngOfWidth content width := by
  have hlength : 4 ≤ (content.drop 16).length := by
    have hhead := h.1
    rw [pngHeadLength] at hhead
    rw [List.length_drop]
    omega
  obtain ⟨a, b, c, d, behind, hbytes⟩ :
      ∃ a b c d behind, content.drop 16 = a :: b :: c :: d :: behind := by
    match hdrop : content.drop 16 with
    | a :: b :: c :: d :: behind => exact ⟨a, b, c, d, behind, rfl⟩
    | [] | [_] | [_, _] | [_, _, _] => simp [hdrop] at hlength
  refine ⟨UInt32.ofNat (bigEndian [a, b, c, d]), h, a, b, c, d, behind, hbytes, ?_⟩
  rw [bigEndian_four, UInt32.toNat_ofNat_of_lt']
  have ha := a.toNat_lt
  have hb := b.toNat_lt
  have hc := c.toNat_lt
  have hd := d.toNat_lt
  rw [UInt32.size]
  omega

theorem IsPngOfWidth.pngWidth_take {width : UInt32} (h : IsPngOfWidth content width) :
    pngWidth (content.take pngHeadLength) = some width.toNat := by
  have hne : pngWidth (content.take pngHeadLength) ≠ none :=
    fun hnone => pngWidth_take_eq_none_iff.1 hnone h.head
  have hbytes : ((content.take pngHeadLength).drop 16).take 4 = (content.drop 16).take 4 := by
    rw [List.drop_take, List.take_take]
    rfl
  rw [pngWidth] at hne ⊢
  split
  · rw [hbytes, h.bigEndian_eq]
  · next hnot => exact absurd (if_neg hnot) hne

/-- The width that is read is the one in the head. -/
theorem pngWidth_take_eq_some_iff {n : Nat} :
    pngWidth (content.take pngHeadLength) = some n ↔
      ∃ width, IsPngOfWidth content width ∧ width.toNat = n := by
  constructor
  · intro h
    have hhead : IsPngHead content := by
      by_contra hnot
      rw [pngWidth_take_eq_none_iff.2 hnot] at h
      cases h
    obtain ⟨width, hwidth⟩ := hhead.exists_width
    rw [hwidth.pngWidth_take] at h
    exact ⟨width, hwidth, Option.some.inj h⟩
  · rintro ⟨width, hwidth, rfl⟩
    exact hwidth.pngWidth_take

/-! ## The percentage in 32 bits -/

/-- The percentage of a width of 32 bits, computed in 64 bits. A percentage that does not fit into
32 bits becomes the greatest number that does. -/
def scalePercentageWithin (width : UInt32) : UInt32 :=
  UInt32.ofNatClamp (width.toUInt64 * 100 / UInt64.ofNat (retinaScale * columnWidth)).toNat

theorem scalePercentage_eq (width : Nat) : scalePercentage width = width * 100 / 1520 := rfl

/-- No width is so large that its hundredfold would not fit into 64 bits. -/
theorem hundredfold_lt (width : UInt32) : width.toNat * 100 < UInt64.size := by
  have hwidth := width.toNat_lt
  rw [UInt64.size]
  omega

/-- No width is so large that its percentage would not fit into 32 bits. -/
theorem scalePercentage_lt (width : UInt32) : scalePercentage width.toNat < UInt32.size := by
  have hwidth := width.toNat_lt
  rw [scalePercentage_eq, UInt32.size]
  omega

/-- The percentage is computed without overflow and without being cut. -/
theorem toNat_scalePercentageWithin (width : UInt32) :
    (scalePercentageWithin width).toNat = scalePercentage width.toNat := by
  have hproduct : (width.toUInt64 * 100).toNat = width.toNat * 100 := by
    rw [UInt64.toNat_mul, UInt32.toNat_toUInt64]
    exact Nat.mod_eq_of_lt (hundredfold_lt width)
  have hpercent : (width.toUInt64 * 100 / UInt64.ofNat (retinaScale * columnWidth)).toNat =
      scalePercentage width.toNat := by
    rw [UInt64.toNat_div, hproduct]
    rfl
  rw [scalePercentageWithin, hpercent]
  exact UInt32.toNat_ofNatClamp_of_lt (scalePercentage_lt width)

/-! ## The line with the size of its image -/

/-- The path of the image file that a name stands for. -/
def Assets.pathOf (assets : Assets) (name : Text) : Path :=
  Path.join assets.folder (retinaFileName name)

theorem widthOf_eq_ok_iff {name : Text} {n : Nat} :
    assets.widthOf (retinaFileName name) = .ok n ↔
      ∃ content, assets.files.read (assets.pathOf name) = .ok content ∧
        pngWidth (content.take pngHeadLength) = some n := by
  rw [Assets.widthOf, Assets.pathOf]
  cases assets.files.read (Path.join assets.folder (retinaFileName name)) with
  | error e => simp
  | ok content =>
    cases hwidth : pngWidth (content.take pngHeadLength) <;> simp [hwidth]

theorem scaleOf_eq_ok_iff {name : Text} {percent : Nat} :
    assets.scaleOf (retinaFileName name) = .ok percent ↔
      ∃ content width, assets.files.read (assets.pathOf name) = .ok content ∧
        IsPngOfWidth content width ∧ scalePercentage width.toNat = percent := by
  simp only [Assets.scaleOf, map_eq_ok_iff, widthOf_eq_ok_iff, pngWidth_take_eq_some_iff]
  constructor
  · rintro ⟨_, ⟨content, hread, width, hwidth, rfl⟩, rfl⟩
    exact ⟨content, width, hread, hwidth, rfl⟩
  · rintro ⟨content, width, hread, hwidth, rfl⟩
    exact ⟨_, ⟨content, hread, width, hwidth, rfl⟩, rfl⟩

/-- What stands behind the head of a file makes no difference. -/
theorem scaleOf_congr {name : Text} {content' : Bytes} (hfolder : other.folder = assets.folder)
    (hread : assets.files.read (assets.pathOf name) = .ok content)
    (hread' : other.files.read (assets.pathOf name) = .ok content')
    (hhead : content'.take pngHeadLength = content.take pngHeadLength) :
    other.scaleOf (retinaFileName name) = assets.scaleOf (retinaFileName name) := by
  rw [Assets.pathOf] at hread hread'
  simp only [Assets.scaleOf, Assets.widthOf, hfolder, hread, hread', hhead]

theorem resolveImage_of_isImageLine (h : IsImageLine line image) :
    resolveImage assets line = (assets.scaleOf (retinaFileName image.name)).map image.render := by
  rw [resolveImage, imageLine?_eq_some_iff.2 h]

theorem resolveImage_of_not_isImageLine (h : ∀ image, ¬ IsImageLine line image) :
    resolveImage assets line = .ok line := by
  have hnone : imageLine? line = none := by
    rw [Option.eq_none_iff_forall_ne_some]
    exact fun image himage => h image (imageLine?_eq_some_iff.1 himage)
  rw [resolveImage, hnone]

theorem IsImageLine.unique {image' : ImageLine} (h : IsImageLine line image)
    (h' : IsImageLine line image') : image' = image := by
  rw [← imageLine?_eq_some_iff] at h h'
  exact Option.some.inj (h'.symm.trans h)

theorem render_eq (image : ImageLine) (percent : Nat) :
    image.render percent = "![".toList ++ image.caption ++ "](".toList ++ image.name ++
      "@2x.png)\x7b width=".toList ++ Text.ofNat percent ++ "% \x7d".toList ++ image.rest := by
  simp [ImageLine.render, retinaFileName]

/-- The name of the file is not the name of an image: `@` stands behind its first characters, where
`)` would have to stand. -/
theorem not_isImageLine_render (h : IsImageLine line image) (percent : Nat) (found : ImageLine) :
    ¬ IsImageLine (image.render percent) found := by
  obtain ⟨-, hcaption, -, hname⟩ := h
  rintro ⟨hrender, hcaption', -, hname'⟩
  have hcut : image.caption ++ ']' :: ('(' :: (image.name ++ '@' :: ("2x.png)\x7b width=".toList ++
      Text.ofNat percent ++ "% \x7d".toList ++ image.rest))) =
      found.caption ++ ']' :: ('(' :: (found.name ++ ')' :: found.rest)) := by
    simpa [ImageLine.render, retinaFileName] using hrender
  obtain ⟨-, hbehind⟩ := append_bracket_inj hcaption hcaption' hcut
  obtain ⟨-, hat⟩ := span_cons_iff.2 ⟨(List.cons.inj hbehind).2.symm, hname, by decide⟩
  obtain ⟨-, hclose⟩ :=
    span_cons_iff.2 ⟨(rfl : found.name ++ ')' :: found.rest = _), hname', by decide⟩
  rw [hclose] at hat
  simp at hat

/-- A line that an image was resolved in is not changed any more. -/
theorem resolveImage_again (h : resolveImage assets line = .ok shown) :
    resolveImage other shown = .ok shown := by
  refine resolveImage_of_not_isImageLine fun found hfound => ?_
  by_cases hline : ∃ image, IsImageLine line image
  · obtain ⟨image, himage⟩ := hline
    rw [resolveImage_of_isImageLine himage] at h
    obtain ⟨percent, -, rfl⟩ := map_eq_ok_iff.1 h
    exact not_isImageLine_render himage percent found hfound
  · rw [resolveImage_of_not_isImageLine (not_exists.1 hline)] at h
    cases h
    exact hline ⟨found, hfound⟩

/-- A line that starts with no image stays as it is, whatever files there are. One that does names
one image. It gets the name of the file and the percentage of the width that the head of the file
holds, and is then changed no more, whatever files there are; if the file has no readable head, the
fault is that of the file. What stands behind the head makes no difference, and no width is so large
that its percentage could not be computed. -/
theorem resolveImage_sized (assets : Assets) (line : Text) :
    ((∀ image, ¬ IsImageLine line image) →
      ∀ other : Assets, resolveImage other line = .ok line) ∧
    (∀ image, IsImageLine line image →
      (∀ image', IsImageLine line image' → image' = image) ∧
      (∀ missing, resolveImage assets line = .error missing ↔
        ImageFault assets image.name missing) ∧
      (∀ shown, resolveImage assets line = .ok shown ↔
        ∃ content width, assets.files.read (assets.pathOf image.name) = .ok content ∧
          IsPngOfWidth content width ∧
          shown = "![".toList ++ image.caption ++ "](".toList ++ image.name ++
            "@2x.png)\x7b width=".toList ++ Text.ofNat (width.toNat * 100 / 1520) ++
            "% \x7d".toList ++ image.rest) ∧
      (∀ (other : Assets) (content content' : Bytes), other.folder = assets.folder →
        assets.files.read (assets.pathOf image.name) = .ok content →
        other.files.read (assets.pathOf image.name) = .ok content' →
        content'.take 24 = content.take 24 →
        resolveImage other line = resolveImage assets line)) ∧
    (∀ width : UInt32, width.toNat * 100 < UInt64.size ∧ width.toNat * 100 / 1520 < UInt32.size ∧
      (scalePercentageWithin width).toNat = width.toNat * 100 / 1520) ∧
    ∀ shown, resolveImage assets line = .ok shown →
      ∀ other : Assets, resolveImage other shown = .ok shown := by
  refine ⟨fun h other => resolveImage_of_not_isImageLine h, ?image, ?percent,
    fun shown h other => resolveImage_again h⟩
  case image =>
    intro image himage
    refine ⟨fun image' himage' => himage.unique himage', ?_, ?_, ?_⟩
    · intro missing
      rw [resolveImage_of_isImageLine himage, map_eq_error_iff, scaleOf_eq_error_iff]
    · intro shown
      rw [resolveImage_of_isImageLine himage, map_eq_ok_iff]
      simp only [scaleOf_eq_ok_iff, ← scalePercentage_eq, ← render_eq]
      constructor
      · rintro ⟨_, ⟨content, width, hread, hwidth, rfl⟩, rfl⟩
        exact ⟨content, width, hread, hwidth, rfl⟩
      · rintro ⟨content, width, hread, hwidth, rfl⟩
        exact ⟨_, ⟨content, width, hread, hwidth, rfl⟩, rfl⟩
    · intro other content content' hfolder hread hread' hhead
      rw [resolveImage_of_isImageLine himage, resolveImage_of_isImageLine himage,
        scaleOf_congr hfolder hread hread' hhead]
  case percent =>
    intro width
    exact ⟨hundredfold_lt width, scalePercentage_lt width, toNat_scalePercentageWithin width⟩

/-- The greatest width. -/
example : scalePercentageWithin 4294967295 = 282563637 := by
  decide

end Bindery
