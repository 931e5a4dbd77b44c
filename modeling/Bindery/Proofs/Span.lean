import Mathlib.Data.List.TakeWhile

set_option autoImplicit false

/-! # Runs at the front of a list

The readers of this library take a run of characters of one class off the front of a text and look
at what stops it. `span_cons_iff` says what it means that a run is stopped by an element, without
reference to how it was found, and `span_ne_iff` says it for a run up to a given element. A run of
one element is a `List.replicate` (`replicate_append_dropWhile`), and is found as it was written
(`span_replicate_append`). -/

namespace Bindery

variable {α : Type} {p : α → Bool} {l run rest : List α} {x : α}

/-- A run that something stops: all of it is in the class, and what stops it is not. -/
theorem span_cons_iff :
    l.takeWhile p = run ∧ l.dropWhile p = x :: rest ↔
      l = run ++ x :: rest ∧ (∀ y ∈ run, p y = true) ∧ p x = false := by
  constructor
  · rintro ⟨rfl, hrest⟩
    refine ⟨?_, fun y hy => List.mem_takeWhile_imp hy, ?_⟩
    · rw [← hrest, List.takeWhile_append_dropWhile]
    · have hhead := List.head?_dropWhile_not p l
      simpa [hrest] using hhead
  · rintro ⟨rfl, hrun, hx⟩
    rw [List.takeWhile_append_of_pos hrun, List.dropWhile_append_of_pos hrun]
    simp [hx]

/-- A run up to an element ends at the first place where that element stands. -/
theorem span_ne_iff [DecidableEq α] {stop : α} :
    l.takeWhile (· ≠ stop) = run ∧ l.dropWhile (· ≠ stop) = x :: rest ↔
      l = run ++ x :: rest ∧ stop ∉ run ∧ x = stop := by
  have hrun : (∀ y ∈ run, decide (y ≠ stop) = true) ↔ stop ∉ run := by
    constructor
    · intro h hmem
      simpa using h stop hmem
    · intro h y hy
      have hne : y ≠ stop := fun he => h (he ▸ hy)
      simpa using hne
  rw [span_cons_iff, hrun]
  simp

/-- A list is the run of an element at its front, and the rest. -/
theorem replicate_append_dropWhile [DecidableEq α] (x : α) (l : List α) :
    List.replicate (l.takeWhile (· = x)).length x ++ l.dropWhile (· = x) = l := by
  have hrun : l.takeWhile (· = x) = List.replicate (l.takeWhile (· = x)).length x :=
    List.eq_replicate_of_mem fun y hy => by simpa using List.mem_takeWhile_imp hy
  rw [← hrun, List.takeWhile_append_dropWhile]

theorem head?_dropWhile_ne [DecidableEq α] (x : α) (l : List α) :
    (l.dropWhile (· = x)).head? ≠ some x := by
  intro h
  have hhead := List.head?_dropWhile_not (· = x) l
  rw [h] at hhead
  simp at hhead

/-- A run of an element ends where it was ended. -/
theorem span_replicate_append [DecidableEq α] (n : Nat) (h : rest.head? ≠ some x) :
    (List.replicate n x ++ rest).takeWhile (· = x) = List.replicate n x ∧
      (List.replicate n x ++ rest).dropWhile (· = x) = rest := by
  have hrun : ∀ y ∈ List.replicate n x, decide (y = x) = true := by
    intro y hy
    simp [List.eq_of_mem_replicate hy]
  rw [List.takeWhile_append_of_pos hrun, List.dropWhile_append_of_pos hrun]
  cases rest with
  | nil => simp
  | cons y rest =>
    have hy : y ≠ x := fun hy => h (by rw [hy]; rfl)
    simp [hy]

/-- An element that is not in the first part of a list stands in the second. -/
theorem exists_of_append_eq_append_cons {first second front : List α} (hx : x ∉ first)
    (h : first ++ second = front ++ x :: rest) :
    ∃ tail, front = first ++ tail ∧ second = tail ++ x :: rest := by
  rcases List.append_eq_append_iff.1 h with ⟨tail, hfront, hsecond⟩ | ⟨s, hfirst, hs⟩
  · exact ⟨tail, hfront, hsecond⟩
  · cases s with
    | nil => exact ⟨[], by simp [hfirst], by simpa using hs.symm⟩
    | cons y s =>
      rw [List.cons_append, List.cons.injEq] at hs
      simp [hfirst, hs.1] at hx

end Bindery
