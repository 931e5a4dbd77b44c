import Bindery.Line.Optionality
import Bindery.Proofs.Span

set_option autoImplicit false

/-! # What optionality markers leave alone

Only asterisks, underscores and question marks are moved. Any other character cuts a line into two
parts that are changed by themselves (`moveOptionality_append_cons`), and it is found again in the
changed line (`exists_of_moveOptionality_eq`). A text without asterisks is not changed. -/

namespace Bindery

/-- An emphasised question mark behind one asterisk. -/
def singleMarker : Text := ['*', '_', '?', '_']

/-- An emphasised question mark behind two asterisks. -/
def doubleMarker : Text := ['*', '*', '_', '?', '_']

/-- The character is in no marker. -/
def IsNeutral (c : Char) : Prop := c ∉ doubleMarker

instance (c : Char) : Decidable (IsNeutral c) :=
  inferInstanceAs (Decidable (¬ _))

/-- A neutral character is in no text that is made of characters of markers. -/
theorem IsNeutral.not_mem {c : Char} {text : Text} (h : IsNeutral c)
    (htext : text ⊆ doubleMarker) : c ∉ text :=
  fun hmem => h (htext hmem)

theorem IsNeutral.not_mem_singleMarker {c : Char} (h : IsNeutral c) : c ∉ singleMarker :=
  h.not_mem (List.subset_cons_self '*' singleMarker)

theorem moveOptionality_nil : moveOptionality [] = [] := rfl

theorem moveOptionality_double (rest : Text) :
    moveOptionality (doubleMarker ++ rest) = ['?', '*', '*'] ++ moveOptionality rest := by
  simp [doubleMarker, moveOptionality]

theorem moveOptionality_single (rest : Text) :
    moveOptionality (singleMarker ++ rest) = ['?', '*'] ++ moveOptionality rest := by
  simp [singleMarker, moveOptionality]

/-- Where no marker starts, a character stays. -/
theorem moveOptionality_cons {c : Char} {text : Text} (hdouble : ¬ doubleMarker <+: c :: text)
    (hsingle : ¬ singleMarker <+: c :: text) :
    moveOptionality (c :: text) = c :: moveOptionality text := by
  rw [moveOptionality]
  · rintro rest rfl rfl
    exact hdouble ⟨rest, rfl⟩
  · rintro rest rfl rfl
    exact hsingle ⟨rest, rfl⟩

/-- Lines are dealt with from one marker or other character to the next. -/
theorem optionality_induction {motive : Text → Prop} (nil : motive [])
    (double : ∀ rest, motive rest → motive (doubleMarker ++ rest))
    (single : ∀ rest, motive rest → motive (singleMarker ++ rest))
    (cons : ∀ c text, ¬ doubleMarker <+: c :: text → ¬ singleMarker <+: c :: text →
      motive text → motive (c :: text)) (line : Text) : motive line := by
  fun_induction moveOptionality line with
  | case1 rest ih => exact double rest ih
  | case2 rest ih => exact single rest ih
  | case3 c text hdouble hsingle ih =>
    refine cons c text ?_ ?_ ih
    · rintro ⟨rest, hrest⟩
      simp only [doubleMarker, List.cons_append, List.cons.injEq, List.nil_append] at hrest
      exact hdouble rest hrest.1.symm hrest.2.symm
    · rintro ⟨rest, hrest⟩
      simp only [singleMarker, List.cons_append, List.cons.injEq, List.nil_append] at hrest
      exact hsingle rest hrest.1.symm hrest.2.symm
  | case4 => exact nil

/-- A marker that starts in front of a character outside it ends there too. -/
theorem prefix_of_prefix_append_cons {marker front rest : Text} {c : Char} (hc : c ∉ marker)
    (h : marker <+: front ++ c :: rest) : marker <+: front := by
  rcases List.prefix_or_prefix_of_prefix h (List.prefix_append front (c :: rest)) with h' | ⟨s, rfl⟩
  · exact h'
  · cases s with
    | nil => simp
    | cons d s =>
      obtain ⟨tail, htail⟩ := h
      simp only [List.append_assoc, List.append_cancel_left_eq, List.cons_append,
        List.cons.injEq] at htail
      simp [htail.1] at hc

/-- A neutral character cuts a line. -/
theorem moveOptionality_append_cons {front rest : Text} {c : Char} (hc : IsNeutral c) :
    moveOptionality (front ++ c :: rest) = moveOptionality front ++ c :: moveOptionality rest := by
  induction front using optionality_induction with
  | nil =>
    have hhead : ∀ {marker}, marker ≠ [] → c ∉ marker → ¬ marker <+: c :: rest := by
      intro marker hne hc h
      rw [← List.nil_append (c :: rest)] at h
      exact hne (List.prefix_nil.1 (prefix_of_prefix_append_cons hc h))
    exact moveOptionality_cons (hhead (by simp [doubleMarker]) hc)
      (hhead (by simp [singleMarker]) hc.not_mem_singleMarker)
  | double tail ih => simp [moveOptionality_double, ih]
  | single tail ih => simp [moveOptionality_single, ih]
  | cons d tail hdouble hsingle ih =>
    -- a marker that starts here would end in front of `c`, so it would start here without `c` too
    have hcons : moveOptionality (d :: tail ++ c :: rest) =
        d :: moveOptionality (tail ++ c :: rest) :=
      moveOptionality_cons (fun h => hdouble (prefix_of_prefix_append_cons hc h))
        fun h => hsingle (prefix_of_prefix_append_cons hc.not_mem_singleMarker h)
    rw [hcons, ih, moveOptionality_cons hdouble hsingle, List.cons_append]

/-- A neutral character of the changed line stands in the line itself, between what the parts
around it come from. -/
theorem exists_of_moveOptionality_eq {line front rest : Text} {c : Char} (hc : IsNeutral c)
    (h : moveOptionality line = front ++ c :: rest) :
    ∃ front' rest', line = front' ++ c :: rest' ∧ moveOptionality front' = front ∧
      moveOptionality rest' = rest := by
  induction line using optionality_induction generalizing front with
  | nil => simp [moveOptionality_nil] at h
  | double tail ih =>
    rw [moveOptionality_double] at h
    obtain ⟨front, rfl, htail⟩ :=
      exists_of_append_eq_append_cons (hc.not_mem (by simp [doubleMarker])) h
    obtain ⟨front', rest', rfl, rfl, hrest⟩ := ih htail
    exact ⟨doubleMarker ++ front', rest', by simp, moveOptionality_double front', hrest⟩
  | single tail ih =>
    rw [moveOptionality_single] at h
    obtain ⟨front, rfl, htail⟩ :=
      exists_of_append_eq_append_cons (hc.not_mem (by simp [doubleMarker])) h
    obtain ⟨front', rest', rfl, rfl, hrest⟩ := ih htail
    exact ⟨singleMarker ++ front', rest', by simp, moveOptionality_single front', hrest⟩
  | cons d tail hdouble hsingle ih =>
    rw [moveOptionality_cons hdouble hsingle] at h
    cases front with
    | nil =>
      rw [List.nil_append, List.cons.injEq] at h
      exact ⟨[], tail, by rw [h.1, List.nil_append], moveOptionality_nil, h.2⟩
    | cons d' front =>
      rw [List.cons_append, List.cons.injEq] at h
      obtain ⟨front', rest', rfl, rfl, hrest⟩ := ih h.2
      -- no marker starts in the shorter text, because none starts in the longer one
      have hpre : d :: front' <+: d :: (front' ++ c :: rest') :=
        List.prefix_append (d :: front') (c :: rest')
      refine ⟨d :: front', rest', rfl, ?_, hrest⟩
      rw [moveOptionality_cons (fun hd => hdouble (hd.trans hpre))
        fun hs => hsingle (hs.trans hpre), h.1]

/-- A changed line without asterisks is the line itself. -/
theorem eq_of_moveOptionality_eq {line changed : Text} (hchanged : '*' ∉ changed)
    (h : moveOptionality line = changed) : line = changed := by
  induction line using optionality_induction generalizing changed with
  | nil => simpa [moveOptionality_nil] using h
  | double tail ih =>
    rw [moveOptionality_double] at h
    simp [← h] at hchanged
  | single tail ih =>
    rw [moveOptionality_single] at h
    simp [← h] at hchanged
  | cons d tail hdouble hsingle ih =>
    rw [moveOptionality_cons hdouble hsingle] at h
    subst h
    rw [← ih (fun hmem => hchanged (List.mem_cons_of_mem _ hmem)) rfl]

/-- A line without markers is not changed. -/
theorem moveOptionality_of_not_marked {line : Text} (h : ¬ singleMarker <:+: line) :
    moveOptionality line = line := by
  induction line using optionality_induction with
  | nil => rfl
  | double rest _ => exact absurd ⟨['*'], rest, rfl⟩ h
  | single rest _ => exact absurd (List.prefix_append singleMarker rest).isInfix h
  | cons c text hdouble hsingle ih =>
    rw [moveOptionality_cons hdouble hsingle,
      ih fun hmarked => h (hmarked.trans (List.suffix_cons c text).isInfix)]

/-- A line without asterisks holds no marker. -/
theorem moveOptionality_eq_self {line : Text} (h : '*' ∉ line) : moveOptionality line = line :=
  moveOptionality_of_not_marked fun hmarked => h (hmarked.subset (List.mem_cons_self ..))

/-! ## Neutral characters -/

theorem moveOptionality_neutral_cons {text : Text} {c : Char} (hc : IsNeutral c) :
    moveOptionality (c :: text) = c :: moveOptionality text := by
  rw [← List.nil_append (c :: text), moveOptionality_append_cons hc]
  rfl

theorem exists_of_moveOptionality_eq_cons {line rest : Text} {c : Char} (hc : IsNeutral c)
    (h : moveOptionality line = c :: rest) :
    ∃ rest', line = c :: rest' ∧ moveOptionality rest' = rest := by
  rw [← List.nil_append (c :: rest)] at h
  obtain ⟨front', rest', rfl, hfront, hrest⟩ := exists_of_moveOptionality_eq hc h
  obtain rfl := eq_of_moveOptionality_eq (List.not_mem_nil) hfront
  exact ⟨rest', rfl, hrest⟩

theorem mem_moveOptionality {line : Text} {c : Char} (hc : IsNeutral c) :
    c ∈ moveOptionality line ↔ c ∈ line := by
  constructor
  · intro h
    obtain ⟨front, rest, hsplit⟩ := List.append_of_mem h
    obtain ⟨front', rest', rfl, -, -⟩ := exists_of_moveOptionality_eq hc hsplit
    simp
  · intro h
    obtain ⟨front, rest, rfl⟩ := List.append_of_mem h
    rw [moveOptionality_append_cons hc]
    simp

end Bindery
