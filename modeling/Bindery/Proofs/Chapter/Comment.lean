import Bindery.Chapter.Comment
import Bindery.Proofs.Index.Title
import Bindery.Proofs.Text.LineEnd

set_option autoImplicit false

/-! # The comments of a text

`IsComment` spells out what a comment looks like, and `afterComment?_eq_some_iff` says that
`afterComment?` passes over exactly those. `Stripped` follows `removeComments` through the front of
a text: by `Stripped.removeComments_append` what is left of the front does not depend on how the
rest is dealt with. -/

namespace Bindery

/-! ## The first place of a marker -/

namespace Text

/-- No occurrence of the marker in the text has fewer characters before it than this one. -/
def FirstAt (marker text before rest : Text) : Prop :=
  text = before ++ marker ++ rest ∧ ∀ b r, text = b ++ marker ++ r → before.length ≤ b.length

theorem FirstAt.unique {marker text before rest before' rest' : Text}
    (h : FirstAt marker text before rest) (h' : FirstAt marker text before' rest') :
    before = before' ∧ rest = rest' := by
  obtain ⟨heq, hfirst⟩ := h
  obtain ⟨heq', hfirst'⟩ := h'
  have hlength := Nat.le_antisymm (hfirst before' rest' heq') (hfirst' before rest heq)
  have hboth : before ++ (marker ++ rest) = before' ++ (marker ++ rest') := by
    rw [← List.append_assoc, ← heq, heq', List.append_assoc]
  obtain ⟨rfl, hbehind⟩ := List.append_inj hboth hlength
  exact ⟨rfl, List.append_cancel_left hbehind⟩

theorem firstAt_of_cut? {marker text before rest : Text}
    (h : cut? marker text = some (before, rest)) : FirstAt marker text before rest := by
  refine ⟨eq_of_cut? h, ?_⟩
  induction text generalizing before with
  | nil =>
    obtain ⟨hbefore, -⟩ := List.append_eq_nil_iff.1 (eq_of_cut? h).symm
    rw [(List.append_eq_nil_iff.1 hbefore).1]
    exact fun _ _ _ => Nat.zero_le _
  | cons c text ih =>
    intro b r hb
    rw [cut?] at h
    split at h
    · cases h
      exact Nat.zero_le _
    · next hnone =>
      obtain ⟨⟨before', rest'⟩, hcut, heq⟩ := Option.map_eq_some_iff.1 h
      cases heq
      cases b with
      | nil =>
        rw [hb, List.nil_append, after?_append] at hnone
        cases hnone
      | cons d b =>
        rw [List.cons_append, List.cons_append, List.cons.injEq] at hb
        exact Nat.succ_le_succ (ih hcut b r hb.2)

theorem exists_cut? (marker before rest : Text) :
    ∃ found, cut? marker (before ++ marker ++ rest) = some found := by
  induction before with
  | nil =>
    cases marker with
    | nil => cases rest <;> simp [cut?, after?]
    | cons m marker =>
      have hmarker : after? (m :: marker) (m :: (marker ++ rest)) = some rest :=
        after?_append (m :: marker) rest
      simp [cut?, hmarker]
  | cons c before ih =>
    obtain ⟨found, hfound⟩ := ih
    rw [List.cons_append, List.cons_append, cut?]
    split
    · exact ⟨_, rfl⟩
    · exact ⟨_, by rw [hfound, Option.map_some]⟩

/-- A text is cut at the first place of the marker. -/
theorem cut?_eq_some_iff {marker text before rest : Text} :
    cut? marker text = some (before, rest) ↔ FirstAt marker text before rest := by
  constructor
  · exact firstAt_of_cut?
  · intro h
    obtain ⟨⟨before', rest'⟩, hcut⟩ := h.1 ▸ exists_cut? marker before rest
    obtain ⟨rfl, rfl⟩ := h.unique (firstAt_of_cut? hcut)
    exact hcut

end Text

/-! ## The grammar of comments -/

/-- A comment: behind its start comes at least one character, and behind that character its end
stands nowhere but at the end. -/
def IsComment (comment : Text) : Prop :=
  ∃ c inside, comment = commentStart ++ c :: (inside ++ commentEnd) ∧
    ∀ b r, inside ++ commentEnd = b ++ commentEnd ++ r → r = []

/-- What follows a text does not bring its end marker forward. -/
theorem firstAt_commentEnd (inside rest : Text) :
    Text.FirstAt commentEnd (inside ++ commentEnd ++ rest) inside rest ↔
      ∀ b r, inside ++ commentEnd = b ++ commentEnd ++ r → r = [] := by
  constructor
  · rintro ⟨-, hfirst⟩ b r hb
    have hle := hfirst b (r ++ rest) (by rw [hb]; simp)
    have hlength := congrArg List.length hb
    simp only [List.length_append] at hlength
    exact List.length_eq_zero_iff.1 (by omega)
  · intro h
    refine ⟨rfl, ?_⟩
    intro b r hb
    refine Nat.le_of_not_lt fun hlt => ?_
    -- an earlier end marker lies within the text up to the later one
    have hpre : b ++ commentEnd <+: inside ++ commentEnd := by
      have hb' : b ++ commentEnd <+: inside ++ commentEnd ++ rest := ⟨r, hb.symm⟩
      refine List.prefix_of_prefix_length_le hb' (List.prefix_append ..) ?_
      rw [List.length_append, List.length_append]
      omega
    obtain ⟨tail, htail⟩ := hpre
    have hlength := congrArg List.length htail
    rw [h b tail htail.symm, List.append_nil, List.length_append, List.length_append] at hlength
    omega

/-- `afterComment?` passes over exactly one comment. -/
theorem afterComment?_eq_some_iff {text rest : Text} :
    afterComment? text = some rest ↔ ∃ comment, IsComment comment ∧ text = comment ++ rest := by
  unfold afterComment?
  constructor
  · intro h
    split at h
    · next c inside hstart =>
      obtain ⟨⟨before, rest'⟩, hcut, heq⟩ := Option.map_eq_some_iff.1 h
      cases heq
      have hfirst := Text.cut?_eq_some_iff.1 hcut
      obtain rfl := hfirst.1
      refine ⟨commentStart ++ c :: (before ++ commentEnd),
        ⟨c, before, rfl, (firstAt_commentEnd before _).1 hfirst⟩, ?_⟩
      rw [Text.after?_eq_some.1 hstart]
      simp
    · cases h
  · rintro ⟨comment, ⟨c, inside, rfl, hend⟩, rfl⟩
    have hcut := Text.cut?_eq_some_iff.2 ((firstAt_commentEnd inside rest).2 hend)
    rw [List.append_assoc, Text.after?_append, List.cons_append]
    simp only [hcut, Option.map_some]

/-- No comment starts at the start of the text. -/
def OpensNoComment (text : Text) : Prop := ∀ comment, IsComment comment → ¬ comment <+: text

theorem afterComment?_eq_none_iff {text : Text} :
    afterComment? text = none ↔ OpensNoComment text := by
  rw [Option.eq_none_iff_forall_ne_some]
  constructor
  · rintro h comment hcomment ⟨rest, rfl⟩
    exact h rest (afterComment?_eq_some_iff.2 ⟨comment, hcomment, rfl⟩)
  · intro h rest hrest
    obtain ⟨comment, hcomment, rfl⟩ := afterComment?_eq_some_iff.1 hrest
    exact h comment hcomment (List.prefix_append ..)

theorem isComment_iff {text : Text} : IsComment text ↔ afterComment? text = some [] := by
  rw [afterComment?_eq_some_iff]
  simp

theorem opensNoComment_of_ne {c : Char} {text : Text} (h : c ≠ '<') :
    OpensNoComment (c :: text) := by
  rintro comment ⟨d, inside, rfl, -⟩ ⟨rest, hrest⟩
  cases hrest
  exact h rfl

/-- The last character of a comment is that of its end marker. -/
theorem IsComment.getLast? {comment : Text} (h : IsComment comment) :
    comment.getLast? = some '>' := by
  obtain ⟨c, inside, rfl, -⟩ := h
  simp [commentEnd, List.getLast?_append, List.getLast?_cons]

/-! ## Removing them -/

theorem removeComments_cons_of_some {c : Char} {text rest : Text}
    (h : afterComment? (c :: text) = some rest) :
    removeComments (c :: text) = removeComments rest := by
  rw [removeComments]
  split
  · next rest' h' =>
    rw [h'] at h
    cases h
    rfl
  · next hnone => simp [hnone] at h

theorem removeComments_comment {comment : Text} (h : IsComment comment) (rest : Text) :
    removeComments (comment ++ rest) = removeComments rest := by
  have hafter := afterComment?_eq_some_iff.2 ⟨comment, h, (rfl : comment ++ rest = _)⟩
  obtain ⟨c, inside, rfl, -⟩ := h
  exact removeComments_cons_of_some hafter

theorem removeComments_cons {c : Char} {text : Text} (h : OpensNoComment (c :: text)) :
    removeComments (c :: text) = c :: removeComments text := by
  rw [removeComments]
  split
  · next hsome => simp [afterComment?_eq_none_iff.2 h] at hsome
  · rfl

/-- A text that starts with a line feed, or is empty, does so without its comments. -/
theorem head?_removeComments {text : Text} (h : ∀ c ∈ text.head?, c = '\n') :
    ∀ c ∈ (removeComments text).head?, c = '\n' := by
  cases text with
  | nil => simp [removeComments]
  | cons c text =>
    obtain rfl : c = '\n' := h c rfl
    rw [removeComments_cons (opensNoComment_of_ne (by decide))]
    exact h

/-- In front of `rest`, the text `front` consists of whole comments and of characters at which no
comment starts, and these characters are `kept`. -/
inductive Stripped (rest : Text) : (front kept : Text) → Prop
  | nil : Stripped rest [] []
  | comment {comment front kept : Text} : IsComment comment → Stripped rest front kept →
      Stripped rest (comment ++ front) kept
  | char {c : Char} {front kept : Text} : OpensNoComment (c :: (front ++ rest)) →
      Stripped rest front kept → Stripped rest (c :: front) (c :: kept)

/-- Removing the comments of a text goes through its front first. -/
theorem Stripped.removeComments_append {rest front kept : Text} (h : Stripped rest front kept) :
    removeComments (front ++ rest) = kept ++ removeComments rest := by
  induction h with
  | nil => rfl
  | comment hcomment _ ih => rw [List.append_assoc, removeComments_comment hcomment, ih]
  | char hopens _ ih => rw [List.cons_append, removeComments_cons hopens, ih, List.cons_append]

theorem stripped_of_not_mem {front rest : Text} (h : '<' ∉ front) : Stripped rest front front := by
  induction front with
  | nil => exact .nil
  | cons c front ih =>
    rw [List.mem_cons, not_or] at h
    exact .char (opensNoComment_of_ne (Ne.symm h.1)) (ih h.2)

theorem Stripped.eq_nil {rest kept : Text} (h : Stripped rest [] kept) : kept = [] := by
  generalize hfront : ([] : Text) = front at h
  cases h with
  | nil => rfl
  | comment hcomment _ =>
    have hlast := hcomment.getLast?
    rw [(List.append_eq_nil_iff.1 hfront.symm).1] at hlast
    cases hlast
  | char _ _ => cases hfront

/-- A line feed at the end of the front is kept, because comments end otherwise. -/
theorem Stripped.getLast? {rest front kept : Text} (h : Stripped rest front kept)
    (hfront : front.getLast? = some '\n') : kept.getLast? = some '\n' := by
  induction h with
  | nil => exact hfront
  | comment hcomment _ ih =>
    rw [List.getLast?_append, hcomment.getLast?] at hfront
    refine ih ?_
    cases hlast : List.getLast? _ with
    | none => simp [hlast] at hfront
    | some c => simpa [hlast] using hfront
  | @char c front kept _ hstripped ih =>
    rw [List.getLast?_cons] at hfront ⊢
    cases hlast : front.getLast? with
    | none =>
      obtain rfl := List.getLast?_eq_none_iff.1 hlast
      rw [hstripped.eq_nil]
      exact hfront
    | some d =>
      rw [hlast] at hfront
      rw [ih (hlast.trans hfront)]
      rfl

theorem Stripped.endsLine {rest front kept : Text} (h : Stripped rest front kept)
    (hfront : Text.EndsLine front) : Text.EndsLine kept := by
  cases hlast : front.getLast? with
  | none =>
    obtain rfl := List.getLast?_eq_none_iff.1 hlast
    rw [h.eq_nil]
    exact hfront
  | some c =>
    obtain rfl : c = '\n' := hfront c hlast
    simp [Text.EndsLine, h.getLast? hlast]

/-! ## Line ends -/

/-- Markers of comments hold no line ends, so carriage returns leave comments where they are. -/
theorem afterComment?_withReturns (text : Text) :
    afterComment? text.withReturns = (afterComment? text).map Text.withReturns := by
  have hcut : ∀ inside, Text.cut? commentEnd (Text.withReturns inside) =
      (Text.cut? commentEnd inside).map (Prod.map Text.withReturns Text.withReturns) :=
    Text.cut?_withReturns (by decide) (by decide) (by decide)
  rw [afterComment?, afterComment?, Text.after?_withReturns (by decide) (by decide)]
  cases Text.after? commentStart text with
  | none => rfl
  | some inside =>
    cases inside with
    | nil => rfl
    | cons c inside =>
      by_cases hc : c = '\n'
      · subst hc
        -- the line feed that stood behind the start marker now stands one further
        have hnext : Text.cut? commentEnd ('\n' :: Text.withReturns inside) =
            (Text.cut? commentEnd (Text.withReturns inside)).map fun found =>
              ('\n' :: found.1, found.2) := rfl
        simp only [Option.map_some, Text.withReturns_lineFeed, hnext, hcut, Option.map_map]
        rfl
      · simp only [Option.map_some, Text.withReturns_cons hc, hcut, Option.map_map]
        rfl

theorem removeComments_withReturns (text : Text) :
    removeComments text.withReturns = (removeComments text).withReturns := by
  fun_induction removeComments text with
  | case1 => rw [Text.withReturns_nil, removeComments]
  | case2 c text rest hafter _ ih =>
    have hreturns := afterComment?_withReturns (c :: text)
    rw [hafter] at hreturns
    have hc : c ≠ '\n' := by
      rintro rfl
      have hopens : OpensNoComment ('\n' :: text) := opensNoComment_of_ne (by decide)
      rw [afterComment?_eq_none_iff.2 hopens] at hafter
      cases hafter
    rw [Text.withReturns_cons hc] at hreturns ⊢
    rw [removeComments_cons_of_some hreturns, ih]
  | case3 c text hafter ih =>
    by_cases hc : c = '\n'
    · subst hc
      rw [Text.withReturns_lineFeed, removeComments_cons (opensNoComment_of_ne (by decide)),
        removeComments_cons (opensNoComment_of_ne (by decide)), ih, Text.withReturns_lineFeed]
    · have hreturns := afterComment?_withReturns (c :: text)
      rw [hafter] at hreturns
      rw [Text.withReturns_cons hc] at hreturns ⊢
      rw [removeComments_cons (afterComment?_eq_none_iff.1 hreturns), ih, Text.withReturns_cons hc]

theorem removeComments_sublist (text : Text) : (removeComments text).Sublist text := by
  fun_induction removeComments text with
  | case1 => exact .slnil
  | case2 c text rest hafter _ ih =>
    obtain ⟨comment, -, htext⟩ := afterComment?_eq_some_iff.1 hafter
    rw [htext]
    exact ih.trans (List.sublist_append_right comment rest)
  | case3 c text _ ih => exact ih.cons_cons c

/-- Texts with the same lines have the same lines without their comments. -/
theorem sameLines_removeComments {text text' : Text} (h : Text.SameLines text text') :
    Text.SameLines (removeComments text) (removeComments text') := by
  rcases h with rfl | ⟨hreturn, rfl⟩
  · exact .inl rfl
  · exact .inr ⟨fun hmem => hreturn ((removeComments_sublist text).subset hmem),
      removeComments_withReturns text⟩

end Bindery
