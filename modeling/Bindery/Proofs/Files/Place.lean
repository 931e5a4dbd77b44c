import Bindery.Files.Tree

set_option autoImplicit false

/-! # What stands where in a directory tree

A tree is looked at place by place. `Folder.kindAt?` says what stands at a place without what is
inside a directory, so that a change at one place is not a change at those above it:
`Folder.kindAt?_putAt` says that putting an entry changes its own place and no other. -/

namespace Bindery

/-- What is inside a directory; other entries have nothing inside. -/
def Entry.inside : Entry → Folder
  | .folder _ inside => inside
  | .file _ => .empty
  | .link _ => .empty

/-- What stands at a place, without what is inside it. -/
inductive Kind where
  | file (content : Bytes)
  | link (target : Path)
  | folder (listable : Bool)
  deriving DecidableEq

def Entry.kind : Entry → Kind
  | .file content => .file content
  | .link target => .link target
  | .folder listable _ => .folder listable

namespace Folder

variable {root inside : Folder} {entry : Entry} {place other rest : Location} {name : Text}

/-- The kind of entry at a location below the folder. -/
def kindAt? (root : Folder) (place : Location) : Option Kind := (root.at? place).map Entry.kind

/-! ## Entry by entry -/

/-- A folder is empty, or it has an entry in front of the others. -/
@[elab_as_elim]
theorem cons_induction {motive : Folder → Prop} (empty : motive .empty)
    (cons : ∀ name entry rest, motive rest → motive (cons name entry rest)) (root : Folder) :
    motive root := by
  induction root with
  | empty => exact empty
  | file name content rest ih => exact cons name (.file content) rest ih
  | link name target rest ih => exact cons name (.link target) rest ih
  | folder name listable inside rest _ ih => exact cons name (.folder listable inside) rest ih

theorem put_cons (n : Text) (e : Entry) :
    (cons n e root).put name entry =
      if n = name then cons name entry root else cons n e (root.put name entry) := by
  cases e <;> rfl

/-! ## Locations in steps -/

theorem at?_cons (h : place ≠ []) :
    root.at? (name :: place) = (root.find? name).bind fun e => e.inside.at? place := by
  obtain ⟨next, place, rfl⟩ := List.exists_cons_of_ne_nil h
  have hempty : Folder.empty.at? (next :: place) = none := by
    cases place <;> rfl
  rw [at?]
  cases root.find? name with
  | none => rfl
  | some e => cases e <;> simp [Entry.inside, hempty]

theorem at?_append (h : rest ≠ []) :
    root.at? (place ++ rest) = (root.at? place).bind fun e => e.inside.at? rest := by
  induction place generalizing root with
  | nil => rfl
  | cons name place ih =>
    have hne : place ++ rest ≠ [] := fun he => h (List.append_eq_nil_iff.1 he).2
    rw [List.cons_append, at?_cons hne]
    by_cases hplace : place = []
    · rw [hplace]
      rfl
    · rw [at?_cons hplace, Option.bind_assoc]
      exact Option.bind_congr fun e _ => ih

/-- Nothing is below a place without an inside. -/
theorem at?_append_of_inside (hrest : rest ≠ [])
    (h : ∀ e, root.at? place = some e → e.inside = .empty) : root.at? (place ++ rest) = none := by
  rw [at?_append hrest]
  cases hat : root.at? place with
  | none => rfl
  | some e =>
    obtain ⟨next, rest, rfl⟩ := List.exists_cons_of_ne_nil hrest
    rw [Option.bind_some, h e hat]
    cases rest <;> rfl

/-- A place with something below it is a directory. -/
theorem exists_folder_of_at? (hrest : rest ≠ []) (h : root.at? (place ++ rest) = some entry) :
    ∃ listable inside, root.at? place = some (.folder listable inside) ∧
      inside.at? rest = some entry := by
  rw [at?_append hrest] at h
  obtain ⟨e, hat, hbelow⟩ := Option.bind_eq_some_iff.1 h
  obtain ⟨next, rest, rfl⟩ := List.exists_cons_of_ne_nil hrest
  cases e with
  | folder listable inside => exact ⟨listable, inside, hat, hbelow⟩
  | file content => cases rest <;> cases hbelow
  | link target => cases rest <;> cases hbelow

/-- So is a name with something below it. -/
theorem exists_folder_of_cons (hplace : place ≠ []) (h : root.at? (name :: place) = some entry) :
    ∃ listable inside, root.find? name = some (.folder listable inside) ∧
      inside.at? place = some entry := by
  show ∃ listable inside, root.at? [name] = some (.folder listable inside) ∧ _
  exact exists_folder_of_at? hplace h

/-! ## Directories -/

/-- There is a directory at the place. -/
def HasFolder (root : Folder) (place : Location) : Prop :=
  ∃ listable inside, root.at? place = some (.folder listable inside)

theorem hasFolder_nil (root : Folder) : root.HasFolder [] := ⟨true, root, rfl⟩

theorem HasFolder.dropLast (h : root.HasFolder place) :
    root.HasFolder place.dropLast := by
  obtain ⟨listable, inside, hat⟩ := h
  rcases List.eq_nil_or_concat place with rfl | ⟨above, name, rfl⟩
  · exact hasFolder_nil root
  · rw [List.concat_eq_append] at hat ⊢
    rw [List.dropLast_concat]
    obtain ⟨listable', inside', habove, _⟩ := exists_folder_of_at? (List.cons_ne_nil _ _) hat
    exact ⟨listable', inside', habove⟩

theorem HasFolder.cons (h : root.HasFolder (name :: place)) :
    ∃ listable inside, root.find? name = some (.folder listable inside) ∧
      inside.HasFolder place := by
  obtain ⟨listable, inside, hat⟩ := h
  by_cases hplace : place = []
  · subst hplace
    exact ⟨listable, inside, hat, hasFolder_nil inside⟩
  · obtain ⟨listable', inside', hname, hbelow⟩ :=
      exists_folder_of_cons hplace hat
    exact ⟨listable', inside', hname, listable, inside, hbelow⟩

theorem HasFolder.of_append {listable : Bool}
    (hat : root.at? place = some (.folder listable inside)) (h : root.HasFolder (place ++ rest)) :
    inside.HasFolder rest := by
  by_cases hrest : rest = []
  · rw [hrest]
    exact hasFolder_nil inside
  · obtain ⟨listable', inside', hbelow⟩ := h
    rw [at?_append hrest, hat] at hbelow
    exact ⟨listable', inside', hbelow⟩

/-! ## Putting an entry at a place -/

variable {listable : Bool}

theorem putAt_cons (h : place ≠ []) (hfolder : root.find? name = some (.folder listable inside)) :
    root.putAt (name :: place) entry =
      root.put name (.folder listable (inside.putAt place entry)) := by
  obtain ⟨next, place, rfl⟩ := List.exists_cons_of_ne_nil h
  rw [putAt, hfolder]

theorem putAt_of_not_folder (h : place ≠ [])
    (hfolder : ¬ ∃ listable inside, root.find? name = some (.folder listable inside)) :
    root.putAt (name :: place) entry = root := by
  obtain ⟨next, place, rfl⟩ := List.exists_cons_of_ne_nil h
  rw [putAt]
  split
  · next hfind => exact absurd ⟨_, _, hfind⟩ hfolder
  · rfl

/-- A directory on the way to the place is there afterwards, with the entry put into it. -/
theorem at?_putAt_append (hrest : rest ≠ [])
    (hfolder : root.at? place = some (.folder listable inside)) :
    (root.putAt (place ++ rest) entry).at? place =
      some (.folder listable (inside.putAt rest entry)) := by
  induction place generalizing root with
  | nil =>
    cases hfolder
    rfl
  | cons name place ih =>
    have hne : place ++ rest ≠ [] := fun he => hrest (List.append_eq_nil_iff.1 he).2
    by_cases hplace : place = []
    · subst hplace
      have hfind : root.find? name = some (.folder listable inside) := hfolder
      rw [List.singleton_append, putAt_cons hrest hfind, at?, find?_put, if_pos rfl]
    · obtain ⟨listable', inside', hfind, hbelow⟩ :=
        exists_folder_of_cons hplace hfolder
      rw [List.cons_append, putAt_cons hne hfind, at?_cons hplace, find?_put, if_pos rfl]
      exact ih hbelow

/-- What is put stands at its place. -/
theorem at?_putAt_self (hfolder : root.at? place = some (.folder listable inside)) :
    (root.putAt (place ++ [name]) entry).at? (place ++ [name]) = some entry := by
  rw [at?_append (List.cons_ne_nil _ _), at?_putAt_append (List.cons_ne_nil _ _) hfolder,
    Option.bind_some]
  simp only [Entry.inside, putAt, at?, find?_put, if_pos]

theorem at?_put_of_ne {first : Text} (h : name ≠ first) :
    (root.put name entry).at? (first :: other) = root.at? (first :: other) := by
  by_cases hnil : other = []
  · simp only [hnil, at?, find?_put, if_neg h]
  · simp only [at?_cons hnil, find?_put, if_neg h]

/-- A place that is neither on the way nor behind keeps its entry, with everything inside. -/
theorem at?_putAt_of_not_prefix (habove : ¬ other <+: place) (hbelow : ¬ place <+: other) :
    (root.putAt place entry).at? other = root.at? other := by
  induction place generalizing root other with
  | nil => rfl
  | cons name place ih =>
    obtain ⟨first, other, rfl⟩ :=
      List.exists_cons_of_ne_nil fun h : other = [] => habove (h ▸ List.nil_prefix)
    by_cases hplace : place = []
    · subst hplace
      have hne : name ≠ first := by
        rintro rfl
        exact hbelow (List.prefix_append [name] other)
      exact at?_put_of_ne hne
    · by_cases hfolder : ∃ listable inside, root.find? name = some (.folder listable inside)
      · obtain ⟨listable, inside, hfind⟩ := hfolder
        rw [putAt_cons hplace hfind]
        by_cases hfirst : name = first
        · subst hfirst
          rw [List.cons_prefix_cons] at habove hbelow
          have hother : other ≠ [] := fun h => habove ⟨rfl, h ▸ List.nil_prefix⟩
          simp only [at?_cons hother, find?_put, if_pos, hfind, Option.bind_some, Entry.inside]
          exact ih (fun h => habove ⟨rfl, h⟩) (fun h => hbelow ⟨rfl, h⟩)
        · exact at?_put_of_ne hfirst
      · rw [putAt_of_not_folder hplace hfolder]

/-- An entry without an inside, put where none with an inside was, changes the kind of its own
place only. -/
theorem kindAt?_putAt (hfolder : root.at? place = some (.folder listable inside))
    (hat : ∀ e, root.at? (place ++ [name]) = some e → e.inside = .empty)
    (hentry : entry.inside = .empty) :
    (root.putAt (place ++ [name]) entry).kindAt? other =
      if place ++ [name] = other then some entry.kind else root.kindAt? other := by
  have hself : (root.putAt (place ++ [name]) entry).at? (place ++ [name]) = some entry :=
    at?_putAt_self hfolder
  by_cases heq : place ++ [name] = other
  · rw [if_pos heq, ← heq, kindAt?, hself, Option.map_some]
  · rw [if_neg heq]
    by_cases hbelow : place ++ [name] <+: other
    · obtain ⟨rest, rfl⟩ := hbelow
      have hrest : rest ≠ [] := by
        rintro rfl
        exact heq (List.append_nil _).symm
      rw [kindAt?, kindAt?, at?_append_of_inside hrest hat, at?_append_of_inside hrest]
      intro e he
      rw [hself] at he
      cases he
      exact hentry
    · by_cases habove : other <+: place ++ [name]
      · obtain ⟨rest, hrest⟩ := habove
        have hne : rest ≠ [] := by
          rintro rfl
          exact heq (hrest.symm.trans (List.append_nil _))
        obtain ⟨listable', inside', hother⟩ : ∃ listable' inside',
            root.at? other = some (.folder listable' inside') := by
          rcases List.prefix_concat_iff.1 ⟨rest, hrest⟩ with h | ⟨between, rfl⟩
          · exact absurd h.symm heq
          · by_cases hbetween : between = []
            · subst hbetween
              exact ⟨listable, inside, by simpa using hfolder⟩
            · obtain ⟨listable', inside', h, _⟩ := exists_folder_of_at? hbetween hfolder
              exact ⟨listable', inside', h⟩
        rw [kindAt?, kindAt?, ← hrest, at?_putAt_append hne hother, hother]
        rfl
      · rw [kindAt?, kindAt?, at?_putAt_of_not_prefix habove hbelow]

theorem put_self (h : root.find? name = some entry) : root.put name entry = root := by
  induction root using cons_induction with
  | empty => cases h
  | cons n e rest ih =>
    rw [find?_cons] at h
    rw [put_cons]
    by_cases hn : n = name
    · rw [if_pos hn] at h ⊢
      cases h
      rw [hn]
    · rw [if_neg hn] at h ⊢
      rw [ih h]

/-- Putting what is there already changes nothing. -/
theorem putAt_self (h : root.at? place = some entry) : root.putAt place entry = root := by
  induction place generalizing root with
  | nil => rfl
  | cons name place ih =>
    by_cases hplace : place = []
    · subst hplace
      exact put_self h
    · obtain ⟨listable, inside, hfind, hbelow⟩ :=
        exists_folder_of_cons hplace h
      rw [putAt_cons hplace hfind, ih hbelow]
      exact put_self hfind

end Folder

end Bindery
