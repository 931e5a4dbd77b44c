import Mathlib.Data.List.Forall2

set_option autoImplicit false

/-! # The first fault of a list

Lines, pieces and directives are dealt with one after the other, and the first that cannot be dealt
with decides the error. `FirstFault` says which error that is, given what is a fault of a single
element. `mapM_eq_ok_iff` and `mapM_eq_error_iff` say that going through a list with a function
that may fail ends in the results of all its elements or in the first fault. -/

namespace Bindery

/-- `e` is the fault of the first element that has a fault. -/
inductive FirstFault {α ε : Type} (fault : α → ε → Prop) : List α → ε → Prop
  | here {x : α} {xs : List α} {e : ε} : fault x e → FirstFault fault (x :: xs) e
  | later {x : α} {xs : List α} {e : ε} :
      (∀ e', ¬ fault x e') → FirstFault fault xs e → FirstFault fault (x :: xs) e

namespace FirstFault

variable {α ε : Type} {fault : α → ε → Prop}

theorem not_nil {e : ε} : ¬ FirstFault fault [] e := by
  intro h
  cases h

theorem cons_iff {x : α} {xs : List α} {e : ε} :
    FirstFault fault (x :: xs) e ↔
      fault x e ∨ (∀ e', ¬ fault x e') ∧ FirstFault fault xs e := by
  constructor
  · intro h
    cases h with
    | here hx => exact Or.inl hx
    | later hx hxs => exact Or.inr ⟨hx, hxs⟩
  · rintro (hx | ⟨hx, hxs⟩)
    · exact .here hx
    · exact .later hx hxs

/-- There is a first fault as soon as any element has a fault. -/
theorem exists_iff {xs : List α} :
    (∃ e, FirstFault fault xs e) ↔ ∃ x ∈ xs, ∃ e, fault x e := by
  induction xs with
  | nil => simp [not_nil]
  | cons x xs ih =>
    simp only [cons_iff, List.mem_cons, exists_eq_or_imp, ← ih]
    by_cases hx : ∃ e, fault x e
    · simp only [hx, true_or, iff_true]
      obtain ⟨e, he⟩ := hx
      exact ⟨e, Or.inl he⟩
    · have none_at : ∀ e, ¬ fault x e := fun e he => hx ⟨e, he⟩
      simp [none_at]

/-- The elements before the first with a fault have none. -/
theorem exists_split {xs : List α} {e : ε} (h : FirstFault fault xs e) :
    ∃ before x behind, xs = before ++ x :: behind ∧ fault x e ∧
      ∀ y ∈ before, ∀ e', ¬ fault y e' := by
  induction h with
  | @here x xs e hx => exact ⟨[], x, xs, rfl, hx, by simp⟩
  | @later x xs e hx _ ih =>
    obtain ⟨before, y, behind, rfl, hy, hbefore⟩ := ih
    exact ⟨x :: before, y, behind, rfl, hy, List.forall_mem_cons.2 ⟨hx, hbefore⟩⟩

theorem map_iff {β : Type} {f : β → α} {xs : List β} {e : ε} :
    FirstFault fault (xs.map f) e ↔ FirstFault (fun x e => fault (f x) e) xs e := by
  induction xs with
  | nil => simp [not_nil]
  | cons x xs ih => rw [List.map_cons, cons_iff, cons_iff, ih]

/-- Only the elements of the list count. -/
theorem congr {other : α → ε → Prop} {xs : List α} {e : ε}
    (h : ∀ x ∈ xs, ∀ e, fault x e ↔ other x e) :
    FirstFault fault xs e ↔ FirstFault other xs e := by
  induction xs with
  | nil => simp [not_nil]
  | cons x xs ih =>
    have hx := h x (List.mem_cons_self ..)
    have hxs := ih fun y hy => h y (List.mem_cons_of_mem _ hy)
    simp only [cons_iff, hx, hxs]

end FirstFault

/-! ## Going through a list -/

section

variable {α β ε : Type} {f : α → Except ε β}

/-- Each element of the second list is related to one of the first. -/
theorem exists_of_mem_forall₂ {R : α → β → Prop} {xs : List α} {ys : List β} {y : β}
    (h : List.Forall₂ R xs ys) (hy : y ∈ ys) : ∃ x ∈ xs, R x y := by
  induction h with
  | nil => cases hy
  | @cons x y' xs ys hx _ ih =>
    rcases List.mem_cons.1 hy with rfl | hy
    · exact ⟨x, List.mem_cons_self .., hx⟩
    · obtain ⟨x', hx', hrelated⟩ := ih hy
      exact ⟨x', List.mem_cons_of_mem x hx', hrelated⟩

theorem map_eq_ok_iff {result : Except ε α} {g : α → β} {y : β} :
    result.map g = .ok y ↔ ∃ x, result = .ok x ∧ g x = y := by
  cases result <;> simp [Except.map]

theorem map_eq_error_iff {result : Except ε α} {g : α → β} {e : ε} :
    result.map g = .error e ↔ result = .error e := by
  cases result <;> simp [Except.map]

theorem bind_eq_ok_iff {result : Except ε α} {next : α → Except ε β} {y : β} :
    (result >>= next) = .ok y ↔ ∃ x, result = .ok x ∧ next x = .ok y := by
  cases result <;> simp [bind, Except.bind]

theorem mapM_cons_ok {x : α} {xs : List α} {y : β} (h : f x = .ok y) :
    (x :: xs).mapM f = (xs.mapM f).map (y :: ·) := by
  rw [List.mapM_cons, h]
  cases xs.mapM f <;> rfl

theorem mapM_cons_error {x : α} {xs : List α} {e : ε} (h : f x = .error e) :
    (x :: xs).mapM f = .error e := by
  rw [List.mapM_cons, h]
  rfl

/-- Success is success with every element. -/
theorem mapM_eq_ok_iff {xs : List α} {ys : List β} :
    xs.mapM f = .ok ys ↔ List.Forall₂ (fun x y => f x = .ok y) xs ys := by
  induction xs generalizing ys with
  | nil =>
    rw [List.mapM_nil, List.forall₂_nil_left_iff]
    constructor
    · intro h
      cases h
      rfl
    · rintro rfl
      rfl
  | cons x xs ih =>
    cases hx : f x with
    | error e =>
      rw [mapM_cons_error hx]
      constructor
      · intro h
        cases h
      · intro h
        cases h with
        | cons hy _ => simp [hx] at hy
    | ok y =>
      rw [mapM_cons_ok hx]
      cases hxs : xs.mapM f with
      | error e =>
        constructor
        · intro h
          cases h
        · intro h
          cases h with
          | cons _ rest => simp [ih.2 rest] at hxs
      | ok ys' =>
        constructor
        · intro h
          cases h
          exact .cons hx (ih.1 hxs)
        · intro h
          cases h with
          | cons hy rest =>
            rw [hx] at hy
            rw [ih.2 rest] at hxs
            cases hy
            cases hxs
            rfl

/-- Failure is the failure with the first element that fails. -/
theorem mapM_eq_error_iff {xs : List α} {e : ε} :
    xs.mapM f = .error e ↔ FirstFault (fun x e => f x = .error e) xs e := by
  induction xs with
  | nil =>
    constructor
    · intro h
      cases h
    · intro h
      exact absurd h FirstFault.not_nil
  | cons x xs ih =>
    rw [FirstFault.cons_iff]
    cases hx : f x with
    | error e' => simp [mapM_cons_error hx]
    | ok y =>
      simp [mapM_cons_ok hx, map_eq_error_iff, ← ih]

/-- Going through a list depends on its elements only. -/
theorem mapM_congr {g : α → Except ε β} {xs : List α} (h : ∀ x ∈ xs, f x = g x) :
    xs.mapM f = xs.mapM g := by
  induction xs with
  | nil => rfl
  | cons x xs ih =>
    have hx := h x (List.mem_cons_self ..)
    have hxs := ih fun y hy => h y (List.mem_cons_of_mem x hy)
    rw [List.mapM_cons, List.mapM_cons, hx, hxs]

/-- What fails exactly for a first fault succeeds when every element does. -/
theorem exists_ok_iff_of_firstFault {γ : Type} {result : Except ε γ} {xs : List α}
    (h : ∀ e, result = .error e ↔ FirstFault (fun x e => f x = .error e) xs e) :
    (∃ y, result = .ok y) ↔ ∀ x ∈ xs, ∃ y, f x = .ok y := by
  have hfault : (∃ e, result = .error e) ↔ ∃ x ∈ xs, ∃ e, f x = .error e := by
    simp only [h]
    exact FirstFault.exists_iff
  constructor
  · rintro ⟨y, hy⟩ x hx
    cases hfx : f x with
    | ok y => exact ⟨y, rfl⟩
    | error e =>
      obtain ⟨e', he'⟩ := hfault.2 ⟨x, hx, e, hfx⟩
      rw [hy] at he'
      cases he'
  · intro hall
    cases hresult : result with
    | ok y => exact ⟨y, rfl⟩
    | error e =>
      obtain ⟨x, hx, e', he'⟩ := hfault.1 ⟨e, hresult⟩
      obtain ⟨y, hy⟩ := hall x hx
      rw [hy] at he'
      cases he'

/-- Going through a list succeeds when it does with every element. -/
theorem exists_mapM_eq_ok_iff {xs : List α} :
    (∃ ys, xs.mapM f = .ok ys) ↔ ∀ x ∈ xs, ∃ y, f x = .ok y :=
  exists_ok_iff_of_firstFault fun _ => mapM_eq_error_iff

end

end Bindery
