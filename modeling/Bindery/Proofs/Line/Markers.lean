import Bindery.Proofs.Line.Optionality

set_option autoImplicit false

/-! # The markers of a line, by position

A marker stands wherever the text `*_?_` does, and takes the asterisk in front of that text too, if
there is one. Markers do not overlap (`MarkedAt.add_four_le`), so it can be said position by position
what a line becomes: `movedFrom` keeps the text between the markers and writes each marker with its
question mark in front. `moveOptionality_markerPositions` says that this is what becomes of it. -/

namespace Bindery

/-! ## Markers -/

/-- A marker has its last asterisk at the position. -/
def MarkedAt (text : Text) (i : Nat) : Prop := singleMarker <+: text.drop i

instance (text : Text) (i : Nat) : Decidable (MarkedAt text i) :=
  inferInstanceAs (Decidable (_ <+: _))

/-- The positions of the last asterisks of all markers, from left to right. -/
def markerPositions (text : Text) : List Nat :=
  (List.range text.length).filter (MarkedAt text ·)

/-- Where the asterisks start of which the last is at the position: one position earlier if there is
an asterisk too. -/
def asterisksFrom (text : Text) (i : Nat) : Nat :=
  if 0 < i ∧ text[i - 1]? = some '*' then i - 1 else i

/-- The line from position `i` on, with the question marks of the markers at the given positions in
front of their asterisks. -/
def movedFrom (text : Text) (i : Nat) : List Nat → Text
  | [] => text.drop i
  | j :: js =>
    text.extract i (asterisksFrom text j) ++
      '?' :: text.extract (asterisksFrom text j) (j + 1) ++ movedFrom text (j + 4) js

variable {text front rest : Text} {i j : Nat} {js : List Nat} {c : Char}

theorem MarkedAt.exists_drop (h : MarkedAt text i) :
    ∃ behind, text.drop i = '*' :: '_' :: '?' :: '_' :: behind := by
  obtain ⟨behind, hbehind⟩ := h
  exact ⟨behind, hbehind.symm⟩

theorem MarkedAt.getElem? (h : MarkedAt text i) :
    text[i]? = some '*' ∧ text[i + 1]? = some '_' ∧ text[i + 2]? = some '?' ∧
      text[i + 3]? = some '_' := by
  obtain ⟨behind, hbehind⟩ := h.exists_drop
  have hget : ∀ k, text[i + k]? = ('*' :: '_' :: '?' :: '_' :: behind)[k]? := by
    intro k
    rw [← hbehind, List.getElem?_drop]
  exact ⟨hget 0, hget 1, hget 2, hget 3⟩

theorem mem_markerPositions : i ∈ markerPositions text ↔ MarkedAt text i := by
  simp only [markerPositions, List.mem_filter, List.mem_range, decide_eq_true_eq,
    and_iff_right_iff_imp]
  intro h
  exact (List.getElem?_eq_some_iff.1 h.getElem?.1).1

/-- A marker ends before the asterisks of the next one start: the characters behind its asterisk
are none, and neither is the last of them. -/
theorem MarkedAt.add_four_le (hi : MarkedAt text i) (hj : MarkedAt text j) (hij : i < j) :
    i + 4 ≤ asterisksFrom text j := by
  obtain ⟨-, hfirst, hsecond, hthird⟩ := hi.getElem?
  have hstar := hj.getElem?.1
  have hne : ∀ k, text[k]? = some '*' → k ≠ i + 1 ∧ k ≠ i + 2 ∧ k ≠ i + 3 := by
    intro k hk
    refine ⟨?_, ?_, ?_⟩ <;> rintro rfl <;> simp_all
  have hjne := hne j hstar
  rw [asterisksFrom]
  split
  · next hbefore =>
    have hbeforene := hne (j - 1) hbefore.2
    have hine : j - 1 ≠ i := by
      intro he
      have hnext : text[j]? = text[i + 1]? := by
        rw [← he]
        congr 1
        omega
      simp [hstar, hfirst] at hnext
    omega
  · omega

theorem pairwise_markerPositions (text : Text) :
    (markerPositions text).Pairwise fun i j => i + 4 ≤ asterisksFrom text j := by
  have hsorted : (markerPositions text).Pairwise (· < ·) := List.pairwise_lt_range.filter _
  refine hsorted.imp_of_mem ?_
  intro i j hi hj hij
  exact (mem_markerPositions.1 hi).add_four_le (mem_markerPositions.1 hj) hij

/-- The asterisks of a marker. -/
theorem MarkedAt.extract_eq (h : MarkedAt text i) :
    text.extract (asterisksFrom text i) (i + 1) =
      if 0 < i ∧ text[i - 1]? = some '*' then ['*', '*'] else ['*'] := by
  obtain ⟨behind, hbehind⟩ := h.exists_drop
  rw [asterisksFrom, List.extract_eq_take_drop]
  split
  · next hbefore =>
    obtain ⟨hpos, hget⟩ := hbefore
    obtain ⟨hlt, hstar⟩ := List.getElem?_eq_some_iff.1 hget
    have hnext : i - 1 + 1 = i := by omega
    have hcount : i + 1 - (i - 1) = 2 := by omega
    rw [List.drop_eq_getElem_cons hlt, hstar, hnext, hbehind, hcount]
    rfl
  · rw [hbehind, Nat.add_sub_cancel_left]
    rfl

/-! ## A line behind a front -/

theorem markerPositions_cons (c : Char) (rest : Text) :
    markerPositions (c :: rest) =
      (if MarkedAt (c :: rest) 0 then [0] else []) ++ (markerPositions rest).map (1 + ·) := by
  have hsucc : Nat.succ = (1 + ·) := funext fun k => Nat.succ_eq_one_add k
  have hshift : ∀ k, MarkedAt (c :: rest) (1 + k) ↔ MarkedAt rest k := by
    intro k
    rw [MarkedAt, Nat.add_comm, List.drop_succ_cons, MarkedAt]
  rw [markerPositions, List.length_cons, List.range_succ_eq_map, List.filter_cons, hsucc]
  simp only [List.filter_map, Function.comp_def, hshift, decide_eq_true_eq]
  split <;> rfl

theorem markerPositions_cons_of_not (h : ¬ singleMarker <+: c :: rest) :
    markerPositions (c :: rest) = (markerPositions rest).map (1 + ·) := by
  have hplain : ¬ MarkedAt (c :: rest) 0 := h
  rw [markerPositions_cons, if_neg hplain, List.nil_append]

theorem markerPositions_double (rest : Text) :
    markerPositions (doubleMarker ++ rest) = 1 :: (markerPositions rest).map (5 + ·) := by
  simp [doubleMarker, markerPositions_cons, MarkedAt, singleMarker, Function.comp_def,
    ← Nat.add_assoc]

theorem markerPositions_single (rest : Text) :
    markerPositions (singleMarker ++ rest) = 0 :: (markerPositions rest).map (4 + ·) := by
  simp [singleMarker, markerPositions_cons, MarkedAt, Function.comp_def, ← Nat.add_assoc]

/-- The asterisks of a later marker start where they did, unless the front ends with one more. -/
theorem asterisksFrom_append (front rest : Text) (h : j = 0 → front.getLast? ≠ some '*') :
    asterisksFrom (front ++ rest) (front.length + j) = front.length + asterisksFrom rest j := by
  cases j with
  | zero =>
    have hlast : ¬ (0 < front.length ∧ (front ++ rest)[front.length - 1]? = some '*') := by
      rintro ⟨hpos, hget⟩
      rw [List.getElem?_append_left (by omega), ← List.getLast?_eq_getElem?] at hget
      exact h rfl hget
    simp [asterisksFrom, hlast]
  | succ j =>
    have hget : (front ++ rest)[front.length + (j + 1) - 1]? = rest[j]? := by
      rw [List.getElem?_append_right (by omega)]
      congr 1
      omega
    simp only [asterisksFrom, hget]
    split <;> split <;> simp_all

theorem extract_append (front rest : Text) (i j : Nat) :
    (front ++ rest).extract (front.length + i) (front.length + j) = rest.extract i j := by
  simp [List.extract_eq_take_drop, Nat.add_sub_add_left]

theorem movedFrom_append (front rest : Text) (i : Nat)
    (h : 0 ∈ js → front.getLast? ≠ some '*') :
    movedFrom (front ++ rest) (front.length + i) (js.map (front.length + ·)) =
      movedFrom rest i js := by
  induction js generalizing i with
  | nil => simp [movedFrom]
  | cons j js ih =>
    have hfrom : asterisksFrom (front ++ rest) (front.length + j) =
        front.length + asterisksFrom rest j :=
      asterisksFrom_append front rest fun hj => h (hj ▸ List.mem_cons_self ..)
    have htail := ih (j + 4) fun hmem => h (List.mem_cons_of_mem j hmem)
    rw [List.map_cons, movedFrom, movedFrom, hfrom, Nat.add_assoc, Nat.add_assoc, extract_append,
      extract_append, htail]

theorem movedFrom_cons (h : 0 ∈ js → c ≠ '*') :
    movedFrom (c :: rest) 0 (js.map (1 + ·)) = c :: movedFrom rest 0 js := by
  cases js with
  | nil => rfl
  | cons j js =>
    have hlast : 0 ∈ j :: js → [c].getLast? ≠ some '*' := fun hmem => by simpa using h hmem
    have hfrom : asterisksFrom (c :: rest) (1 + j) = 1 + asterisksFrom rest j :=
      asterisksFrom_append [c] rest fun hj => hlast (hj ▸ List.mem_cons_self ..)
    have hstars : (c :: rest).extract (1 + asterisksFrom rest j) (1 + (j + 1)) =
        rest.extract (asterisksFrom rest j) (j + 1) :=
      extract_append [c] rest (asterisksFrom rest j) (j + 1)
    have htail : movedFrom (c :: rest) (1 + (j + 4)) (js.map (1 + ·)) =
        movedFrom rest (j + 4) js :=
      movedFrom_append [c] rest (j + 4) fun hmem => hlast (List.mem_cons_of_mem j hmem)
    have hfront : (c :: rest).extract 0 (1 + asterisksFrom rest j) =
        c :: rest.extract 0 (asterisksFrom rest j) := by
      simp [List.extract_eq_take_drop, Nat.add_comm 1]
    rw [List.map_cons, movedFrom, movedFrom, hfrom, Nat.add_assoc, Nat.add_assoc, hfront, hstars,
      htail]
    simp

/-! ## What becomes of a line -/

theorem moveOptionality_eq_movedFrom (text : Text) :
    moveOptionality text = movedFrom text 0 (markerPositions text) := by
  induction text using optionality_induction with
  | nil => rfl
  | double rest ih =>
    have hrest : movedFrom (doubleMarker ++ rest) 5 ((markerPositions rest).map (5 + ·)) =
        movedFrom rest 0 (markerPositions rest) :=
      movedFrom_append doubleMarker rest 0 fun _ => by decide
    rw [moveOptionality_double, markerPositions_double, movedFrom, ih, ← hrest]
    rfl
  | single rest ih =>
    have hrest : movedFrom (singleMarker ++ rest) 4 ((markerPositions rest).map (4 + ·)) =
        movedFrom rest 0 (markerPositions rest) :=
      movedFrom_append singleMarker rest 0 fun _ => by decide
    rw [moveOptionality_single, markerPositions_single, movedFrom, ih, ← hrest]
    rfl
  | cons c rest hdouble hsingle ih =>
    -- an asterisk in front of a marker would have been taken with it
    have hplain : 0 ∈ markerPositions rest → c ≠ '*' := by
      rintro hmem rfl
      exact hdouble (List.cons_prefix_cons.2 ⟨rfl, mem_markerPositions.1 hmem⟩)
    rw [moveOptionality_cons hdouble hsingle, markerPositions_cons_of_not hsingle, ih,
      movedFrom_cons hplain]

/-- A marker that is written as its question mark and its asterisks has two underscores fewer. -/
theorem count_moved (stars : Text) (c : Char) :
    ('?' :: stars).count c + (if c = '_' then 2 else 0) = (stars ++ ['_', '?', '_']).count c := by
  by_cases hc : c = '_'
  · subst hc
    simp
  · simp [List.count_cons, hc, Ne.symm hc]

/-- Nothing gets lost but two underscores of each marker. -/
theorem count_moveOptionality (text : Text) (c : Char) :
    (moveOptionality text).count c + (if c = '_' then 2 * (markerPositions text).length else 0) =
      text.count c := by
  induction text using optionality_induction with
  | nil => simp [moveOptionality_nil, markerPositions]
  | double rest ih =>
    have hmoved : ['?', '*', '*'].count c + (if c = '_' then 2 else 0) = doubleMarker.count c :=
      count_moved ['*', '*'] c
    rw [moveOptionality_double, markerPositions_double, List.count_append, List.count_append, ← ih,
      ← hmoved, List.length_cons, List.length_map]
    split <;> omega
  | single rest ih =>
    have hmoved : ['?', '*'].count c + (if c = '_' then 2 else 0) = singleMarker.count c :=
      count_moved ['*'] c
    rw [moveOptionality_single, markerPositions_single, List.count_append, List.count_append, ← ih,
      ← hmoved, List.length_cons, List.length_map]
    split <;> omega
  | cons d rest hdouble hsingle ih =>
    rw [moveOptionality_cons hdouble hsingle, markerPositions_cons_of_not hsingle,
      List.length_map, List.count_cons, List.count_cons, ← ih]
    omega

theorem perm_moveOptionality (text : Text) :
    (moveOptionality text ++ List.replicate (2 * (markerPositions text).length) '_').Perm text := by
  rw [List.perm_iff_count]
  intro c
  rw [List.count_append, List.count_replicate, ← count_moveOptionality text c]
  by_cases hc : c = '_'
  · simp [hc]
  · simp [hc, Ne.symm hc]

/-- Each marker of a line is written with its question mark in front of its asterisks, and all else
stays in its place. Its asterisks are the one that the text `*_?_` starts with and the one in front
of that, if there is one. Markers do not overlap, so two underscores get lost with each of them, and
nothing else. -/
theorem moveOptionality_markerPositions (text : Text) :
    (∀ i, i ∈ markerPositions text ↔ ['*', '_', '?', '_'] <+: text.drop i) ∧
      (markerPositions text).Pairwise (fun i j => i + 4 ≤ asterisksFrom text j) ∧
      (∀ i ∈ markerPositions text, text.extract (asterisksFrom text i) (i + 1) =
        if 0 < i ∧ text[i - 1]? = some '*' then ['*', '*'] else ['*']) ∧
      moveOptionality text = movedFrom text 0 (markerPositions text) ∧
      (moveOptionality text).length + 2 * (markerPositions text).length = text.length ∧
      (moveOptionality text).count '_' + 2 * (markerPositions text).length = text.count '_' ∧
      ∀ c, c ≠ '_' → (moveOptionality text).count c = text.count c := by
  have hlength := (perm_moveOptionality text).length_eq
  rw [List.length_append, List.length_replicate] at hlength
  refine ⟨fun i => mem_markerPositions, pairwise_markerPositions text, ?_,
    moveOptionality_eq_movedFrom text, hlength, count_moveOptionality text '_', ?_⟩
  · intro i hi
    exact (mem_markerPositions.1 hi).extract_eq
  · intro c hc
    have hcount := count_moveOptionality text c
    rwa [if_neg hc] at hcount

/-- Of three asterisks in front of a question mark two are its own, and a marker may follow at
once. -/
example : markerPositions "***_?_*_?_".toList = [2, 6] ∧
    moveOptionality "***_?_*_?_".toList = "*?**?*".toList := by
  decide

end Bindery
