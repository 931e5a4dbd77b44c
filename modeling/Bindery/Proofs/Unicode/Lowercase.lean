import Bindery.Unicode.Lowercase

set_option autoImplicit false

/-! # What lowercasing does to a text

Lowercasing makes letters out of letters, so it brings no control character, no digit and no
punctuation up to `<` into a text (`mem_of_mem_lowercase`). Where a character stands can change its
lowercase form but not the length of that form, and only `U+0130` has one of two characters. So the
length of a text tells that of its lowercase form up to the number of these (`length_lowercase`). -/

namespace Bindery

/-- Only the code point of a character makes the character, NUL apart, which stands for all numbers
that are no code points. -/
theorem eq_toNat_of_ofNat_eq {n : Nat} {c : Char} (h : Char.ofNat n = c) (hc : c ≠ '\x00') :
    n = c.toNat := by
  by_cases hvalid : n.isValidChar
  · have hval : (Char.ofNatAux n hvalid).toNat = n := rfl
    rw [Char.ofNat, dif_pos hvalid] at h
    rw [← hval, h]
  · rw [Char.ofNat, dif_neg hvalid] at h
    exact absurd h.symm hc

/-- No run of the table ends below the letters of ASCII. -/
theorem lowercaseRuns_high : ∀ run ∈ lowercaseRuns, 0x3C < run.1 + run.2.2.2 := by
  decide +kernel

section

variable {c : Char} (hpos : 0 < c.toNat) (hlow : c.toNat ≤ 0x3C)

include hpos hlow

theorem eq_of_mem_lowercaseChar {d : Char} (h : c ∈ lowercaseChar d) : c = d := by
  have hnul : c ≠ '\x00' := by
    rintro rfl
    exact absurd hpos (by decide)
  rw [lowercaseChar] at h
  split at h
  · split at h
    · next hupper =>
      have hn := eq_toNat_of_ofNat_eq (List.mem_singleton.1 h).symm hnul
      simp only [Bool.and_eq_true, decide_eq_true_eq] at hupper
      omega
    · exact List.mem_singleton.1 h
  · split at h
    · rw [List.mem_cons, List.mem_singleton] at h
      rcases h with rfl | rfl
      · exact absurd hlow (by decide)
      · exact absurd hlow (by decide)
    · split at h
      · next low high step shift hrun =>
        -- the shifted code point is not below the shifted start of its run
        have hn := eq_toNat_of_ofNat_eq (List.mem_singleton.1 h).symm hnul
        have hmem := lowercaseRuns_high _ (Array.mem_of_find?_eq_some hrun)
        have hcovers := Array.find?_some hrun
        simp only [Bool.and_eq_true, decide_eq_true_eq] at hcovers hmem
        omega
      · exact List.mem_singleton.1 h

theorem mem_of_mem_lowercaseAfter {before text : List Char} (h : c ∈ lowercaseAfter before text) :
    c ∈ text := by
  induction text generalizing before with
  | nil => exact h
  | cons d text ih =>
    rw [lowercaseAfter, List.mem_append] at h
    rcases h with h | h
    · split at h
      · split at h
        · rw [List.mem_singleton.1 h] at hlow
          exact absurd hlow (by decide)
        · rw [List.mem_singleton.1 h] at hlow
          exact absurd hlow (by decide)
      · rw [eq_of_mem_lowercaseChar hpos hlow h]
        exact List.mem_cons_self ..
    · exact List.mem_cons_of_mem d (ih h)

/-- Lowercasing brings no character up to `<` into a text. -/
theorem mem_of_mem_lowercase {text : List Char} (h : c ∈ lowercase text) : c ∈ text :=
  mem_of_mem_lowercaseAfter hpos hlow h

end

/-! ## Length -/

theorem length_lowercaseChar (c : Char) :
    (lowercaseChar c).length = if c = '\u0130' then 2 else 1 := by
  have hcode : c.toNat = 0x130 ↔ c = '\u0130' := @Char.toNat_inj c '\u0130'
  rw [lowercaseChar]
  split
  · next hlow =>
    have hne : ¬ c = '\u0130' := by
      rw [← hcode]
      omega
    rw [if_neg hne]
    rfl
  · split
    · next hdot =>
      rw [if_pos (hcode.1 hdot)]
      rfl
    · next hdot =>
      rw [if_neg (mt hcode.2 hdot)]
      split
      · rfl
      · rfl

theorem length_lowercaseAfter (before text : List Char) :
    (lowercaseAfter before text).length = text.length + text.count '\u0130' := by
  induction text generalizing before with
  | nil => rfl
  | cons c text ih =>
    have hform : (if c.toNat = 0x3A3 then
          [Char.ofNat (if meetsCased before && !meetsCased text then 0x3C2 else 0x3C3)]
        else lowercaseChar c).length = if c = '\u0130' then 2 else 1 := by
      split
      · next hsigma =>
        have hne : ¬ c = '\u0130' := by
          rintro rfl
          exact absurd hsigma (by decide)
        rw [if_neg hne]
        rfl
      · exact length_lowercaseChar c
    rw [lowercaseAfter, List.length_append, ih, hform, List.length_cons, List.count_cons]
    simp only [beq_iff_eq]
    split
    · omega
    · omega

/-- A text has one character less than its lowercase form for every `U+0130` in it. -/
theorem length_lowercase (text : List Char) :
    (lowercase text).length = text.length + text.count '\u0130' :=
  length_lowercaseAfter [] text

end Bindery
