import Bindery.Proofs.Files.Names

set_option autoImplicit false

/-! # Paths that stay

A path may stay at a place as often as it likes before it goes on, and leads where it leads without
(`resolve_stays`), until it is too long (`readText_stays_of_long`). So any path can be made so long
that the system does not take it any more, or takes it but none that goes further. -/

namespace Bindery

/-- The start of a path that stays at a place a number of times. -/
def stays (n : Nat) : Path := (List.replicate n ['.', '/']).flatten

theorem stays_succ (n : Nat) (p : Path) : stays (n + 1) ++ p = '.' :: '/' :: (stays n ++ p) := by
  simp [stays, List.replicate_succ]

theorem byteLength_stays (n : Nat) : Text.byteLength (stays n) = 2 * n := by
  induction n with
  | zero => rfl
  | succ n ih =>
    rw [← List.append_nil (stays (n + 1)), stays_succ, List.append_nil,
      show '.' :: '/' :: stays n = ['.', '/'] ++ stays n from rfl, Text.byteLength_append, ih]
    show 2 + 2 * n = _
    omega

section

variable {n : Nat} {base p : Path}

theorem mem_stays {c : Char} (h : c ∈ stays n ++ p) : c = '.' ∨ c = '/' ∨ c ∈ p := by
  induction n with
  | zero => exact .inr (.inr h)
  | succ n ih =>
    rw [stays_succ, List.mem_cons, List.mem_cons] at h
    rcases h with h | h | h
    · exact .inl h
    · exact .inr (.inl h)
    · exact ih h

theorem not_isAbsolute_stays (hp : ¬ Path.isAbsolute p = true) :
    ¬ Path.isAbsolute (stays n ++ p) = true := by
  cases n with
  | zero => exact hp
  | succ n =>
    rw [stays_succ]
    exact Bool.false_ne_true

theorem names_stays (n : Nat) (p : Path) :
    Workspace.names (stays n ++ p) = List.replicate n ['.'] ++ Workspace.names p := by
  induction n with
  | zero => rfl
  | succ n ih =>
    rw [stays_succ, show '.' :: '/' :: (stays n ++ p) = ['.'] ++ '/' :: (stays n ++ p) from rfl,
      Workspace.names_append_slash, ih]
    rfl

theorem walk_replicate {root : Folder} {follow : Bool} {links : Nat} {place : Location}
    {names : List Text} :
    Workspace.walk root follow links place (List.replicate n ['.'] ++ names) =
      Workspace.walk root follow links place names := by
  induction n with
  | zero => rfl
  | succ n ih => rw [List.replicate_succ, List.cons_append, Workspace.walk, if_pos rfl, ih]

/-- A path that first stays leads where it leads without, as long as the system takes it. -/
theorem resolve_stays (w : Workspace) (hne : p ≠ []) (hp : ¬ Path.isAbsolute p = true)
    (hshort : Text.byteLength (stays n ++ p) ≤ Workspace.pathLimit) :
    w.resolve (stays n ++ p) = w.resolve p := by
  have hslash : Workspace.asksFolder (stays n ++ p) = Workspace.asksFolder p := by
    rw [Workspace.asksFolder, Workspace.asksFolder, List.getLast?_append,
      List.getLast?_eq_some_getLast hne, Option.some_or]
  have hnul : '\x00' ∈ stays n ++ p ↔ '\x00' ∈ p := by
    refine ⟨fun h => ?_, List.mem_append_right _⟩
    rcases mem_stays h with h | h | h
    · exact absurd h (by decide)
    · exact absurd h (by decide)
    · exact h
  have hshort' : Text.byteLength p ≤ Workspace.pathLimit := by
    rw [Text.byteLength_append] at hshort
    omega
  have hne' : stays n ++ p ≠ [] := List.append_ne_nil_of_right_ne_nil _ hne
  simp only [Workspace.resolve, Workspace.resolveNames, hslash, hnul, if_neg hne, if_neg hne',
    if_neg (Nat.not_lt.2 hshort), if_neg (Nat.not_lt.2 hshort'), if_neg hp,
    if_neg (not_isAbsolute_stays hp), names_stays, List.append_assoc, walk_replicate]

/-- A path that stays until it is too long is refused. -/
theorem readText_stays_of_long (w : Workspace) (hne : p ≠ []) (hp : '\x00' ∉ p)
    (hlong : Workspace.pathLimit < Text.byteLength (stays n ++ p)) :
    w.readText (stays n ++ p) = .error (.os .nameTooLong) := by
  have hnul : '\x00' ∉ stays n ++ p := by
    intro h
    rcases mem_stays h with h | h | h
    · exact absurd h (by decide)
    · exact absurd h (by decide)
    · exact hp h
  have hne' : stays n ++ p ≠ [] := List.append_ne_nil_of_right_ne_nil _ hne
  simp only [Workspace.readText, Workspace.read, Workspace.entry, Workspace.resolve,
    Workspace.resolveNames, if_neg hnul, if_neg hne', if_pos hlong]

theorem join_stays (hbase : base ≠ []) (hp : ¬ Path.isAbsolute p = true) :
    Path.join (stays n ++ base) p = stays n ++ Path.join base p := by
  have hne : stays n ++ base ≠ [] := List.append_ne_nil_of_right_ne_nil _ hbase
  have hlast : (stays n ++ base).getLast? = base.getLast? := by
    rw [List.getLast?_append, List.getLast?_eq_some_getLast hbase, Option.some_or]
  simp only [Path.join, if_neg hp, hne, hbase, hlast]
  split <;> simp

end

end Bindery
