import Bindery.Proofs.Chapter.Comment

set_option autoImplicit false

/-! # What is removed with the comments of a text

A text is read from left to right: where a comment starts, it is passed over up to its first end, and
any other character is kept. How many characters stand between the start of a comment and its end at
least is a choice. With none, `<!---->` is a comment; `removeComments` asks for one. `IsCut` is the
reading for either choice, and each text has exactly one (`exists_isCut`, `IsCut.unique`). By
`removeComments_isCut` the two readings agree exactly on the texts without empty comments. -/

namespace Bindery

namespace Excision

/-! ## The inside of a comment -/

/-- The text can stand inside a comment: it has at least `least` characters, and from there on the
end of the comment does not come earlier. -/
def IsInside (least : Nat) (inside : Text) : Prop :=
  least ≤ inside.length ∧
    ∀ b r, inside ++ commentEnd = b ++ commentEnd ++ r → least ≤ b.length → r = []

/-- The comment with the given inside. -/
def enclosed (inside : Text) : Text := commentStart ++ inside ++ commentEnd

theorem enclosed_append (inside rest : Text) :
    enclosed inside ++ rest = commentStart ++ (inside ++ commentEnd ++ rest) := by
  simp [enclosed]

theorem enclosed_ne_nil (inside rest : Text) : enclosed inside ++ rest ≠ [] := by
  simp [enclosed, commentStart]

variable {least : Nat}

/-- A comment that is not longer than another at the start of the same text ends within it, and there
the other one ends too. -/
theorem IsInside.eq_of_length_le {inside inside' rest rest' : Text} (h : IsInside least inside)
    (h' : IsInside least inside') (heq : enclosed inside ++ rest = enclosed inside' ++ rest')
    (hle : inside.length ≤ inside'.length) : inside = inside' := by
  rw [enclosed_append, enclosed_append, List.append_cancel_left_eq] at heq
  have hpre : inside ++ commentEnd <+: inside' ++ commentEnd := by
    have hall : inside ++ commentEnd <+: inside' ++ commentEnd ++ rest' := ⟨rest, heq⟩
    refine List.prefix_of_prefix_length_le hall (List.prefix_append ..) ?_
    rw [List.length_append, List.length_append]
    omega
  obtain ⟨tail, htail⟩ := hpre
  rw [h'.2 inside tail htail.symm h.1, List.append_nil] at htail
  exact List.append_cancel_right htail

/-- Two comments at the start of one text are the same. -/
theorem IsInside.unique {inside inside' rest rest' : Text} (h : IsInside least inside)
    (h' : IsInside least inside') (heq : enclosed inside ++ rest = enclosed inside' ++ rest') :
    inside = inside' ∧ rest = rest' := by
  have hinside : inside = inside' := by
    rcases Nat.le_total inside.length inside'.length with hle | hle
    · exact h.eq_of_length_le h' heq hle
    · exact (h'.eq_of_length_le h heq.symm hle).symm
  subst hinside
  exact ⟨rfl, List.append_cancel_left heq⟩

/-- A start with an end behind it starts a comment: that up to the first end. -/
theorem exists_isInside (rest : Text) {inside : Text} (h : least ≤ inside.length) :
    ∃ inside' rest', IsInside least inside' ∧
      enclosed inside ++ rest = enclosed inside' ++ rest' := by
  induction hn : inside.length using Nat.strongRecOn generalizing inside rest with
  | ind n ih =>
    by_cases hfirst : IsInside least inside
    · exact ⟨inside, rest, hfirst, rfl⟩
    · -- an end that comes earlier is tried next
      simp only [IsInside, h, true_and, Classical.not_forall] at hfirst
      obtain ⟨b, r, hb, hleast, hr⟩ := hfirst
      have hlength := congrArg List.length hb
      simp only [List.length_append] at hlength
      have hpos := List.length_pos_iff.2 hr
      obtain ⟨inside', rest', hinside', heq⟩ := ih b.length (by omega) (r ++ rest) hleast rfl
      refine ⟨inside', rest', hinside', ?_⟩
      rw [← heq, enclosed_append, enclosed_append, hb, List.append_assoc]

theorem isInside_of_zero {inside : Text} (h : IsInside 0 inside) (hne : inside ≠ []) :
    IsInside 1 inside :=
  ⟨List.length_pos_iff.2 hne, fun b r hb _ => h.2 b r hb (Nat.zero_le _)⟩

/-- Without a least number of characters, a comment ends where its text is cut at the first end. -/
theorem isInside_zero_iff {inside : Text} :
    IsInside 0 inside ↔ Text.cut? commentEnd (inside ++ commentEnd) = some (inside, []) := by
  have hfirst := firstAt_commentEnd inside []
  rw [List.append_nil] at hfirst
  rw [Text.cut?_eq_some_iff, hfirst]
  simp [IsInside]

/-- With one character inside, these are the comments that are removed. -/
theorem isComment_enclosed_iff {inside : Text} : IsComment (enclosed inside) ↔ IsInside 1 inside := by
  constructor
  · rintro ⟨c, tail, heq, hend⟩
    have hinside : inside ++ commentEnd = c :: tail ++ commentEnd := by
      rw [enclosed, List.append_assoc, List.append_cancel_left_eq] at heq
      exact heq
    obtain rfl := List.append_cancel_right hinside
    refine ⟨by simp, fun b r hb hleast => ?_⟩
    obtain ⟨d, b, rfl⟩ := List.exists_cons_of_length_pos hleast
    rw [List.cons_append, List.cons_append, List.cons_append, List.cons.injEq] at hb
    exact hend b r hb.2
  · rintro ⟨hlength, hend⟩
    obtain ⟨c, tail, rfl⟩ := List.exists_cons_of_length_pos hlength
    refine ⟨c, tail, by simp [enclosed], fun b r hb => hend (c :: b) r ?_ (by simp)⟩
    rw [List.cons_append, hb]
    rfl

/-! ## The reading of a text -/

/-- A part of a text: a comment with what it holds, or a character outside all comments. -/
inductive Part where
  | comment (inside : Text)
  | char (c : Char)
  deriving DecidableEq

/-- What is left of a part. -/
def Part.left : Part → Text
  | comment _ => []
  | char c => [c]

/-- The text is made of the given parts, from left to right. A comment goes up to its first end.
A character is kept where no comment starts, because its start is not there or no end follows. -/
inductive IsCut (least : Nat) : Text → List Part → Prop
  | nil : IsCut least [] []
  | comment {inside rest : Text} {parts : List Part} : IsInside least inside →
      IsCut least rest parts → IsCut least (enclosed inside ++ rest) (.comment inside :: parts)
  | char {c : Char} {text : Text} {parts : List Part} :
      (∀ inside rest, c :: text = enclosed inside ++ rest → inside.length < least) →
      IsCut least text parts → IsCut least (c :: text) (.char c :: parts)

theorem IsCut.char_of_ne {c : Char} {text : Text} {parts : List Part} (hc : c ≠ '<')
    (h : IsCut least text parts) : IsCut least (c :: text) (.char c :: parts) := by
  refine .char (fun inside rest heq => ?_) h
  rw [enclosed_append, commentStart, List.cons_append, List.cons.injEq] at heq
  exact absurd heq.1 hc

theorem exists_isCut (least : Nat) (text : Text) : ∃ parts, IsCut least text parts := by
  induction hn : text.length using Nat.strongRecOn generalizing text with
  | ind n ih =>
    cases text with
    | nil => exact ⟨[], .nil⟩
    | cons c text =>
      by_cases hstart :
          ∀ inside rest, c :: text = enclosed inside ++ rest → inside.length < least
      · obtain ⟨parts, hparts⟩ := ih text.length (by rw [← hn]; simp) text rfl
        exact ⟨_, .char hstart hparts⟩
      · simp only [Classical.not_forall, Nat.not_lt] at hstart
        obtain ⟨inside, rest, heq, hleast⟩ := hstart
        obtain ⟨inside', rest', hinside', heq'⟩ := exists_isInside rest hleast
        rw [heq, heq'] at hn ⊢
        obtain ⟨parts, hparts⟩ :=
          ih rest'.length (by rw [← hn]; simp [enclosed, commentStart]; omega) rest' rfl
        exact ⟨_, .comment hinside' hparts⟩

theorem IsCut.unique {text : Text} {parts others : List Part} (h : IsCut least text parts)
    (ho : IsCut least text others) : others = parts := by
  induction h generalizing others with
  | nil =>
    generalize htext : ([] : Text) = text at ho
    cases ho with
    | nil => rfl
    | comment _ _ => exact absurd htext.symm (enclosed_ne_nil _ _)
    | char _ _ => cases htext
  | @comment inside rest parts hinside _ ih =>
    generalize htext : enclosed inside ++ rest = text at ho
    cases ho with
    | nil => exact absurd htext (enclosed_ne_nil _ _)
    | comment hinside' hrest' =>
      obtain ⟨rfl, rfl⟩ := hinside.unique hinside' htext
      rw [ih hrest']
    | char hstart _ => exact absurd hinside.1 (Nat.not_le.2 (hstart _ _ htext.symm))
  | @char c text parts hstart _ ih =>
    generalize htext : c :: text = whole at ho
    cases ho with
    | nil => cases htext
    | comment hinside' _ => exact absurd hinside'.1 (Nat.not_le.2 (hstart _ _ htext))
    | char _ hrest' =>
      cases htext
      rw [ih hrest']

/-- A text without empty comments is cut in one way for both choices. -/
theorem IsCut.of_zero {text : Text} {parts : List Part} (h : IsCut 0 text parts)
    (hempty : Part.comment [] ∉ parts) : IsCut 1 text parts := by
  induction h with
  | nil => exact .nil
  | comment hinside _ ih =>
    rw [List.mem_cons, not_or] at hempty
    refine .comment (isInside_of_zero hinside ?_) (ih hempty.2)
    rintro rfl
    exact hempty.1 rfl
  | char hstart _ ih =>
    refine .char (fun inside rest heq => ?_) (ih (List.not_mem_of_not_mem_cons hempty))
    exact absurd (hstart inside rest heq) (Nat.not_lt_zero _)

theorem IsCut.empty_not_mem {text : Text} {parts : List Part} (h : IsCut 1 text parts) :
    Part.comment [] ∉ parts := by
  induction h with
  | nil => exact List.not_mem_nil
  | comment hinside _ ih =>
    rw [List.mem_cons, Part.comment.injEq, not_or]
    refine ⟨?_, ih⟩
    rintro rfl
    exact absurd hinside.1 (by decide)
  | char _ _ ih => simpa using ih

/-! ## Removing -/

/-- What is left of a text without its comments is what is left of its parts. -/
theorem IsCut.removeComments_eq {text : Text} {parts : List Part} (h : IsCut 1 text parts) :
    removeComments text = parts.flatMap Part.left := by
  induction h with
  | nil => rw [removeComments, List.flatMap_nil]
  | comment hinside _ ih =>
    rw [removeComments_comment (isComment_enclosed_iff.2 hinside), ih]
    rfl
  | char hstart _ ih =>
    rw [removeComments_cons, ih]
    · rfl
    · rintro text' hcomment ⟨rest, heq⟩
      obtain ⟨d, tail, rfl, hend⟩ := hcomment
      have hcut := hstart (d :: tail) rest (by rw [← heq]; simp [enclosed])
      exact absurd hcut (by simp)

/-- With empty comments and without, a text is cut in one way each. The comments with something
inside are removed, and all else is kept in order. If no comment is empty, these are all comments;
otherwise the two ways differ. -/
theorem removeComments_isCut (text : Text) :
    ∃ all removed : List Part,
      (IsCut 0 text all ∧ ∀ others, IsCut 0 text others → others = all) ∧
      (IsCut 1 text removed ∧ ∀ others, IsCut 1 text others → others = removed) ∧
      removeComments text = removed.flatMap Part.left ∧
      (removed = all ↔ Part.comment [] ∉ all) := by
  obtain ⟨all, hall⟩ := exists_isCut 0 text
  obtain ⟨removed, hremoved⟩ := exists_isCut 1 text
  refine ⟨all, removed, ⟨hall, fun _ => hall.unique⟩, ⟨hremoved, fun _ => hremoved.unique⟩,
    hremoved.removeComments_eq, ?_⟩
  constructor
  · rintro rfl
    exact hremoved.empty_not_mem
  · intro hempty
    exact (hremoved.unique (hall.of_zero hempty)).symm

/-- Behind an empty comment, text that stands in no comment is lost up to the end of the next. -/
theorem not_removeComments_of_isCut :
    ¬ ∀ (text : Text) (parts : List Part),
      IsCut 0 text parts → removeComments text = parts.flatMap Part.left := by
  intro h
  have hempty : IsInside 0 [] := isInside_zero_iff.2 (by decide)
  have hnote : IsInside 0 " x ".toList := isInside_zero_iff.2 (by decide)
  have hcut : IsCut 0 "a<!---->b<!-- x -->c".toList
      [.char 'a', .comment [], .char 'b', .comment " x ".toList, .char 'c'] :=
    .char_of_ne (by decide) (.comment hempty
      (.char_of_ne (by decide) (.comment hnote (.char_of_ne (by decide) .nil))))
  have hleft : removeComments "a<!---->b<!-- x -->c".toList = "ac".toList := by
    decide +kernel
  rw [h _ _ hcut] at hleft
  exact absurd hleft (by decide)

end Excision

end Bindery
