import Mathlib.Data.List.Basic
import Bindery.Line.CrossReference
import Bindery.Proofs.Span

set_option autoImplicit false

/-! # Cross-references in a line

`ReferenceAt` says where in a line a cross-reference stands, without reference to how it is found.
References cannot overlap, because the character `<` that opens one is none of the others in it.
More generally, a character that is `IsForeign` to references is inside none
(`ReferenceAt.of_append`).

So a line is cut by its references in one way (`referenceAt_iff`), and statements about lines are
proved from one reference to the next (`reference_induction`). -/

namespace Bindery

/-! ## Where references stand -/

/-- A text that a reference can have as its target. -/
def IsTarget (target : Text) : Prop := target ≠ [] ∧ ∀ c ∈ target, isTargetChar c = true

/-- The reference to a target as it is written. -/
def referenceTo (target : Text) : Text := referenceMarker ++ target ++ ['>']

theorem length_referenceTo_pos (target : Text) : 0 < (referenceTo target).length := by
  simp [referenceTo, referenceMarker]

/-- A reference to `target` stands in the line between `before` and `behind`. -/
structure ReferenceAt (line before target behind : Text) : Prop where
  eq : line = before ++ referenceTo target ++ behind
  isTarget : IsTarget target

/-- A reference stands somewhere in the line. -/
def HoldsReference (line : Text) : Prop :=
  ∃ before target behind, ReferenceAt line before target behind

theorem ReferenceAt.holds {line before target behind : Text}
    (h : ReferenceAt line before target behind) : HoldsReference line :=
  ⟨before, target, behind, h⟩

/-- What is in a part of the line is in the line. -/
theorem ReferenceAt.extend {line before target behind : Text}
    (h : ReferenceAt line before target behind) (front back : Text) :
    ReferenceAt (front ++ line ++ back) (front ++ before) target (behind ++ back) := by
  refine ⟨?_, h.isTarget⟩
  rw [h.eq]
  simp only [List.append_assoc]

theorem HoldsReference.of_infix {part line : Text} (hpart : part <:+: line)
    (h : HoldsReference part) : HoldsReference line := by
  obtain ⟨front, back, rfl⟩ := hpart
  obtain ⟨before, target, behind, h⟩ := h
  exact (h.extend front back).holds

theorem HoldsReference.cons {text : Text} (c : Char) (h : HoldsReference text) :
    HoldsReference (c :: text) :=
  h.of_infix (List.suffix_cons c text).isInfix

theorem not_holdsReference_nil : ¬ HoldsReference [] := by
  rintro ⟨before, target, behind, h⟩
  have := h.eq
  simp [referenceTo] at this

/-- `reference?` reads exactly the references at the start of a text. -/
theorem reference?_eq_some_iff {text target rest : Text} :
    reference? text = some (target, rest) ↔
      IsTarget target ∧ text = referenceTo target ++ rest := by
  constructor
  · intro h
    refine ⟨?_, by simpa [referenceTo] using eq_of_reference? h⟩
    unfold reference? at h
    split at h
    · cases h
    · split at h
      · next t target' rest' htake hdrop =>
        cases h
        exact ⟨by simp, (span_cons_iff.1 ⟨htake, hdrop⟩).2.1⟩
      · cases h
  · rintro ⟨⟨hne, hall⟩, rfl⟩
    obtain ⟨t, target, rfl⟩ := List.exists_cons_of_ne_nil hne
    obtain ⟨htake, hdrop⟩ :=
      span_cons_iff.2 ⟨(rfl : t :: target ++ '>' :: rest = _), hall, by decide⟩
    have hmarker := Text.after?_append referenceMarker (t :: target ++ '>' :: rest)
    have htext : referenceTo (t :: target) ++ rest =
        referenceMarker ++ (t :: target ++ '>' :: rest) := by
      simp [referenceTo]
    unfold reference?
    simp only [htext, hmarker, htake, hdrop]

theorem referenceTo_append_inj {target target' rest rest' : Text} (h : IsTarget target)
    (h' : IsTarget target') (heq : referenceTo target ++ rest = referenceTo target' ++ rest') :
    target = target' ∧ rest = rest' := by
  have hread : reference? (referenceTo target ++ rest) = some (target, rest) :=
    reference?_eq_some_iff.2 ⟨h, rfl⟩
  rw [reference?_eq_some_iff.2 ⟨h', heq⟩] at hread
  cases hread
  exact ⟨rfl, rfl⟩

/-! ## Characters that no reference holds behind its first -/

/-- The character stands in no reference, unless it opens it. -/
def IsForeign (c : Char) : Prop :=
  c ∉ ['d', 'o', 'c', ':', '>'] ∧ isTargetChar c = false

instance (c : Char) : Decidable (IsForeign c) :=
  inferInstanceAs (Decidable (_ ∧ _))

theorem exists_referenceTo_eq_cons {target : Text} (h : IsTarget target) :
    ∃ tail, referenceTo target = '<' :: tail ∧ ∀ c ∈ tail, ¬ IsForeign c := by
  refine ⟨['d', 'o', 'c', ':'] ++ target ++ ['>'], rfl, ?_⟩
  rintro c hc ⟨hliteral, htarget⟩
  simp only [List.mem_append] at hc
  rcases hc with (hc | hc) | hc
  · exact hliteral (by simp_all)
  · simp [h.2 c hc] at htarget
  · exact hliteral (by simp_all)

/-- A foreign character cuts a line into two parts with references of their own. -/
theorem ReferenceAt.of_append {text rest before target behind : Text} {c : Char}
    (hc : IsForeign c) (h : ReferenceAt (text ++ c :: rest) before target behind) :
    (∃ r, ReferenceAt text before target r ∧ behind = r ++ c :: rest) ∨
      ∃ b, before = text ++ b ∧ ReferenceAt (c :: rest) b target behind := by
  obtain ⟨tail, htail, hall⟩ := exists_referenceTo_eq_cons h.isTarget
  rcases List.append_eq_append_iff.1 h.eq with ⟨s, hs, hrest⟩ | ⟨r, htext, hbehind⟩
  · rcases List.append_eq_append_iff.1 hs with ⟨u, htext, hu⟩ | ⟨b, hbefore, rfl⟩
    · -- the text ends within the reference, or at one of its ends
      cases u with
      | nil =>
        rw [List.append_nil] at htext
        rw [List.nil_append] at hu
        exact Or.inr ⟨[], by simp [htext], ⟨by simp [hrest, hu], h.isTarget⟩⟩
      | cons d u =>
        cases s with
        | nil =>
          rw [List.append_nil] at hu
          exact Or.inl ⟨[], ⟨by simp [htext, hu], h.isTarget⟩, hrest.symm⟩
        | cons d' s =>
          rw [htail, List.cons_append, List.cons.injEq] at hu
          rw [List.cons_append, List.cons.injEq] at hrest
          refine absurd hc (hall c ?_)
          rw [hu.2, hrest.1]
          simp
    · exact Or.inr ⟨b, hbefore, ⟨hrest, h.isTarget⟩⟩
  · exact Or.inl ⟨r, ⟨htext, h.isTarget⟩, hbehind⟩

/-- A reference opens with `<`, so it does not start in a text without that character. -/
theorem ReferenceAt.of_append_left {front rest before target behind : Text} (hfront : '<' ∉ front)
    (h : ReferenceAt (front ++ rest) before target behind) :
    ∃ b, before = front ++ b ∧ ReferenceAt rest b target behind := by
  obtain ⟨tail, htail, -⟩ := exists_referenceTo_eq_cons h.isTarget
  have heq := h.eq
  rw [List.append_assoc] at heq
  rcases List.append_eq_append_iff.1 heq with ⟨b, hbefore, hrest⟩ | ⟨u, hf, hu⟩
  · exact ⟨b, hbefore, ⟨by rw [hrest, List.append_assoc], h.isTarget⟩⟩
  · cases u with
    | nil =>
      rw [List.append_nil] at hf
      exact ⟨[], by simp [hf], ⟨by simpa using hu.symm, h.isTarget⟩⟩
    | cons d u =>
      rw [htail, List.cons_append, List.cons_append, List.cons.injEq] at hu
      refine absurd ?_ hfront
      rw [hf, ← hu.1]
      simp

theorem holdsReference_append_cons {text rest : Text} {c : Char} (hc : IsForeign c) :
    HoldsReference (text ++ c :: rest) ↔ HoldsReference text ∨ HoldsReference (c :: rest) := by
  constructor
  · rintro ⟨before, target, behind, h⟩
    rcases h.of_append hc with ⟨r, hr, -⟩ | ⟨b, -, hb⟩
    · exact Or.inl hr.holds
    · exact Or.inr hb.holds
  · rintro (h | h)
    · exact h.of_infix (List.prefix_append _ _).isInfix
    · exact h.of_infix (List.suffix_append _ _).isInfix

theorem holdsReference_append_left {front rest : Text} (hfront : '<' ∉ front) :
    HoldsReference (front ++ rest) ↔ HoldsReference rest := by
  constructor
  · rintro ⟨before, target, behind, h⟩
    obtain ⟨b, -, hb⟩ := h.of_append_left hfront
    exact hb.holds
  · intro h
    exact h.of_infix (List.suffix_append _ _).isInfix

theorem not_holdsReference_of_not_mem {line : Text} (h : '<' ∉ line) : ¬ HoldsReference line := by
  rw [← List.append_nil line, holdsReference_append_left h]
  exact not_holdsReference_nil

/-- Text that is put into a line makes no reference when it starts with a foreign character and does
not hold `<`. -/
theorem holdsReference_insert {text inserted rest : Text} {c : Char} (hc : IsForeign c)
    (hinserted : '<' ∉ c :: inserted) :
    HoldsReference (text ++ c :: inserted ++ rest) ↔ HoldsReference text ∨ HoldsReference rest := by
  rw [List.append_assoc, List.cons_append, holdsReference_append_cons hc, ← List.cons_append,
    holdsReference_append_left hinserted]

/-! ## From one reference to the next -/

/-- The references of a line behind its first one are those of the rest. -/
theorem referenceAt_iff {front target rest before t behind : Text} (hfront : ¬ HoldsReference front)
    (htarget : IsTarget target) :
    ReferenceAt (front ++ referenceTo target ++ rest) before t behind ↔
      (before = front ∧ t = target ∧ behind = rest) ∨
        ∃ b, before = front ++ referenceTo target ++ b ∧ ReferenceAt rest b t behind := by
  obtain ⟨tail, htail, hall⟩ := exists_referenceTo_eq_cons htarget
  have hopen : '<' ∉ tail := fun hmem => hall '<' hmem (by decide)
  constructor
  · intro h
    -- the character that opens the first reference cuts the line
    rw [List.append_assoc, htail, List.cons_append] at h
    rcases h.of_append (by decide) with ⟨r, hr, -⟩ | ⟨b, rfl, hb⟩
    · exact absurd hr.holds hfront
    · cases b with
      | nil =>
        have heq : referenceTo target ++ rest = referenceTo t ++ behind := by
          rw [htail]
          exact hb.eq
        obtain ⟨rfl, rfl⟩ := referenceTo_append_inj htarget h.isTarget heq
        exact Or.inl ⟨List.append_nil _, rfl, rfl⟩
      | cons c b =>
        have heq := hb.eq
        rw [List.cons_append, List.cons_append, List.cons.injEq] at heq
        obtain ⟨rfl, heq⟩ := heq
        obtain ⟨b', rfl, hb'⟩ := ReferenceAt.of_append_left hopen ⟨heq, h.isTarget⟩
        exact Or.inr ⟨b', by simp [htail], hb'⟩
  · rintro (⟨rfl, rfl, rfl⟩ | ⟨b, rfl, hb⟩)
    · exact ⟨rfl, htarget⟩
    · simpa using hb.extend (front ++ referenceTo target) []

/-- A line that holds a reference has a first one. -/
theorem HoldsReference.exists_first {line : Text} (h : HoldsReference line) :
    ∃ before target behind, ReferenceAt line before target behind ∧ ¬ HoldsReference before := by
  obtain ⟨before, target, behind, h⟩ := h
  -- a reference in front of this one stands further left
  induction hn : before.length using Nat.strong_induction_on generalizing before target behind with
  | _ n ih =>
    by_cases hbefore : HoldsReference before
    · obtain ⟨b, t, a, hb⟩ := hbefore
      have hline : ReferenceAt line b t (a ++ referenceTo target ++ behind) := by
        refine ⟨?_, hb.isTarget⟩
        rw [h.eq, hb.eq]
        simp only [List.append_assoc]
      refine ih b.length ?_ b t _ hline rfl
      have hpos := length_referenceTo_pos t
      rw [← hn, hb.eq]
      simp only [List.length_append]
      omega
    · exact ⟨before, target, behind, h, hbefore⟩

/-- Lines are dealt with from one reference to the next. -/
theorem reference_induction {motive : Text → Prop}
    (plain : ∀ line, ¬ HoldsReference line → motive line)
    (reference : ∀ front target rest, ¬ HoldsReference front → IsTarget target → motive rest →
      motive (front ++ referenceTo target ++ rest))
    (line : Text) : motive line := by
  -- the rest behind the first reference is shorter than the line
  induction hn : line.length using Nat.strong_induction_on generalizing line with
  | _ n ih =>
    by_cases hline : HoldsReference line
    · obtain ⟨front, target, rest, h, hfront⟩ := hline.exists_first
      rw [h.eq]
      refine reference front target rest hfront h.isTarget (ih rest.length ?_ rest rfl)
      have hpos := length_referenceTo_pos target
      rw [← hn, h.eq]
      simp only [List.length_append]
      omega
    · exact plain line hline

end Bindery
